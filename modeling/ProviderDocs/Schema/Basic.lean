import ProviderDocs.EntityKind

/-!
# Entity schemas

The schema of an entity lists its properties. A property type is a scalar, a collection with
an element type, or an object with properties of its own.
-/

namespace ProviderDocs

inductive TypeKind where
  | bool
  | int
  | float
  | string
  | list
  | set
  | map
  | object
  deriving DecidableEq, Repr, Inhabited

namespace TypeKind

def all : List TypeKind := [bool, int, float, string, list, set, map, object]

def name : TypeKind → String
  | bool => "bool"
  | int => "int"
  | float => "float"
  | string => "string"
  | list => "list"
  | set => "set"
  | map => "map"
  | object => "object"

def ofName? (name : String) : Option TypeKind := all.find? (·.name = name)

def isCollection : TypeKind → Bool
  | list | set | map => true
  | _ => false

end TypeKind

mutual

inductive PropertyType where
  | mk (kind : TypeKind) (element : Option PropertyType) (properties : List Property)

inductive Property where
  | mk (name : String) (type : PropertyType) (isOptional isComputed isSensitive : Bool)
    (description : Option String)

end

namespace PropertyType

def kind : PropertyType → TypeKind
  | mk kind _ _ => kind

/-- The type of the elements of a collection. -/
def element : PropertyType → Option PropertyType
  | mk _ element _ => element

/-- The fields of an object. -/
def properties : PropertyType → List Property
  | mk _ _ properties => properties

instance : Inhabited PropertyType := ⟨mk .string none []⟩

end PropertyType

namespace Property

def name : Property → String
  | mk name _ _ _ _ _ => name

def type : Property → PropertyType
  | mk _ type _ _ _ _ => type

def isOptional : Property → Bool
  | mk _ _ isOptional _ _ _ => isOptional

def isComputed : Property → Bool
  | mk _ _ _ isComputed _ _ => isComputed

def isSensitive : Property → Bool
  | mk _ _ _ _ isSensitive _ => isSensitive

def description : Property → Option String
  | mk _ _ _ _ _ description => description

end Property

/-! ## Shapes -/

mutual

/--
Two types have the same shape when they agree in kind, in element type and in the names,
optionality and types of their properties. The other flags and the descriptions do not count.
-/
def PropertyType.sameShape : PropertyType → PropertyType → Bool
  | .mk kind element properties, .mk kind' element' properties' =>
    kind = kind' && sameElement element element' && sameProperties properties properties'

def sameElement : Option PropertyType → Option PropertyType → Bool
  | none, none => true
  | some a, some b => a.sameShape b
  | _, _ => false

def sameProperties : List Property → List Property → Bool
  | [], [] => true
  | .mk name type isOptional _ _ _ :: rest, .mk name' type' isOptional' _ _ _ :: rest' =>
    name = name' && isOptional = isOptional' && type.sameShape type' && sameProperties rest rest'
  | _, _ => false

end

mutual

/-- Equality in every field, as a test. -/
def PropertyType.beq : PropertyType → PropertyType → Bool
  | .mk kind element properties, .mk kind' element' properties' =>
    kind = kind' && beqElement element element' && beqProperties properties properties'

def beqElement : Option PropertyType → Option PropertyType → Bool
  | none, none => true
  | some a, some b => a.beq b
  | _, _ => false

def beqProperties : List Property → List Property → Bool
  | [], [] => true
  | .mk name type o c s d :: rest, .mk name' type' o' c' s' d' :: rest' =>
    name = name' && type.beq type' && o = o' && c = c' && s = s' && d = d' &&
      beqProperties rest rest'
  | _, _ => false

end

/-- The names of the properties that have to be given. -/
def PropertyType.requiredNames (type : PropertyType) : List String :=
  (type.properties.filter (!·.isOptional)).map (·.name)

/-! ## Entities -/

structure EntitySchema where
  /-- The name of the entity in the provider. -/
  name : String
  /-- The name of its type in the SDK, the root of the names of nested types. -/
  typeName : String
  kind : EntityKind
  /-- Inputs of a resource, or arguments of a data source. -/
  inputs : List Property
  /-- Outputs of a resource, or results of a data source. -/
  outputs : List Property
  /-- State of a resource, used to look up existing ones. -/
  state : List Property

end ProviderDocs
