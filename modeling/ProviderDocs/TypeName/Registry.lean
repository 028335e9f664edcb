import ProviderDocs.Error
import ProviderDocs.Schema.Basic
import ProviderDocs.TypeName.Graph

/-!
# The registry of nested types

Every nested object type of a package has one name. Types share a name when they have the same
shape, or when the same entity declares them. Names are given in the order of declaration, so
an earlier type keeps its name and a later one of another shape moves to another candidate.
-/

namespace ProviderDocs

/-! ## Sets of names -/

/-- A set of texts, listed in order. -/
abbrev NameSet := Dict Unit

def NameSet.ofNames (names : List String) : NameSet := Dict.ofList (names.map (·, ()))

/-! ## Locations -/

/-- Where a type stands in a schema: the entity and the segments below it, joined by dots. -/
abbrev TypePath := String

namespace TypePath

def child (path : TypePath) (segment : String) : TypePath := path ++ "." ++ segment

/-- The element of a collection. -/
def element (path : TypePath) : TypePath := path.child "$"

end TypePath

inductive Side where
  | input
  | output
  deriving DecidableEq, Repr

/-! ## Declared types -/

structure NamedType where
  /-- The type last declared under the name. -/
  type : PropertyType
  /-- The entity that declared it. -/
  declarer : String
  /-- The properties of it that have to be given. -/
  required : NameSet
  /-- The required properties of the type last declared as an input. -/
  requiredInputs : Option NameSet
  requiredOutputs : Option NameSet
  /-- All locations that go by the name. -/
  paths : NameSet

/-- A declaration that a registry records under a name. -/
structure Declaration where
  path : TypePath
  declarer : String
  type : PropertyType
  side : Side

namespace NamedType

/-- The same entity may go on under its name, and so may a type of the same shape. -/
def accepts (named : NamedType) (declarer : String) (type : PropertyType) : Bool :=
  named.declarer = declarer || named.type.sameShape type

/-- Records a declaration over what is known under the name. -/
def record (known : Option NamedType) (declaration : Declaration) : NamedType :=
  let required := NameSet.ofNames declaration.type.requiredNames
  { type := declaration.type
    declarer := declaration.declarer
    required := required
    requiredInputs :=
      if declaration.side = .input then some required else known.bind (·.requiredInputs)
    requiredOutputs :=
      if declaration.side = .output then some required else known.bind (·.requiredOutputs)
    paths := (known.elim Dict.empty NamedType.paths).insert declaration.path () }

end NamedType

/-! ## The registry -/

/-- From this length on, in bytes, a name is too unwieldy for generated code. -/
def maxTypeNameLength : Nat := 120

structure TypeRegistry where
  types : Dict NamedType

namespace TypeRegistry

def empty : TypeRegistry := ⟨∅⟩

instance : Inhabited TypeRegistry := ⟨empty⟩

def get? (registry : TypeRegistry) (name : String) : Option NamedType := registry.types.get? name

def size (registry : TypeRegistry) : Nat := registry.types.size

/-- The name is free or taken by a type that accepts this one. -/
def isFree (registry : TypeRegistry) (name declarer : String) (type : PropertyType) : Bool :=
  match registry.get? name with
  | some named => named.accepts declarer type
  | none => true

/-- The candidates of a node, shorter ones first; equally long ones keep their order. -/
def byLength (names : List String) : List String :=
  names.mergeSort fun a b ↦ a.utf8ByteSize ≤ b.utf8ByteSize

/-- The shortest available candidate, or the longest when none is available. -/
def briefName (registry : TypeRegistry) (graph : TypeNameGraph) (property declarer : String)
    (type : PropertyType) : String :=
  match graph.node? property with
  | none => graph.root ++ Naming.pascalCase property
  | some node =>
    let candidates := byLength node.paths
    match candidates.find? (registry.isFree · declarer type) with
    | some name => name
    | none => candidates.getLast?.getD node.longest

/-- The full name while it is short enough and available, else the shortest candidate. -/
def chooseName (registry : TypeRegistry) (graph : TypeNameGraph) (property declarer : String)
    (type : PropertyType) : String :=
  match graph.node? property with
  | some node =>
    if node.longest.utf8ByteSize < maxTypeNameLength &&
        registry.isFree node.longest declarer type then node.longest
    else registry.briefName graph property declarer type
  | none => registry.briefName graph property declarer type

/-- Records a declaration under a name that was chosen already. -/
def enter (registry : TypeRegistry) (name : String) (declaration : Declaration) :
    Except Error TypeRegistry :=
  let known := registry.get? name
  match known with
  | some named =>
    if named.accepts declaration.declarer declaration.type then
      .ok ⟨registry.types.insert name (NamedType.record known declaration)⟩
    else .error (.duplicateType name named.declarer)
  | none => .ok ⟨registry.types.insert name (NamedType.record known declaration)⟩

/-- Chooses a name for the type of a property and records its declaration. -/
def declare (registry : TypeRegistry) (graph : TypeNameGraph) (property : String)
    (declaration : Declaration) : Except Error (TypeRegistry × TypeNameGraph × String) := do
  let graph := graph.branch property
  let name := registry.chooseName graph property declaration.declarer declaration.type
  .ok (← registry.enter name declaration, graph, name)

end TypeRegistry

end ProviderDocs
