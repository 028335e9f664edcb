import ProviderDocs.Naming.Singular
import ProviderDocs.Provider.Basic
import ProviderDocs.TypeName.Registry

/-!
# The nested types of an entity

A walk over the properties of an entity visits its object types from the outside in. What it
visits depends on the schema and the overrides alone; only afterwards are the visited types
declared, one after the other, in a registry.
-/

namespace ProviderDocs

/-! ## Visits -/

/-- What a walk comes across. -/
inductive Visit where
  /-- An object type below a property, whose branch the graph holds already. -/
  | object (graph : TypeNameGraph) (property : String) (declaration : Declaration)
  /-- An object type with a fixed name. -/
  | named (name : String) (declaration : Declaration)
  /-- A field that has to be given is left out, which ends the walk. -/
  | omitted (entity field : String)

/-- One side of an entity. -/
structure EntitySide where
  /-- The segment of the side in locations. -/
  segment : String
  properties : List Property
  side : Side

namespace EntitySchema

/-- The sides in the order in which they are walked. -/
def sides (schema : EntitySchema) : List EntitySide :=
  match schema.kind with
  | .resource =>
    [⟨"inputs", schema.inputs, .input⟩, ⟨"outputs", schema.outputs, .output⟩,
      ⟨"state", schema.state, .input⟩]
  | .dataSource => [⟨"args", schema.inputs, .input⟩, ⟨"results", schema.outputs, .output⟩]

end EntitySchema

/-- The name of a property in names of types. One that holds several is named in the singular. -/
def Property.typeNameSegment (property : Property) (override : Option FieldOverride) : String :=
  let name := (override.bind (·.name)).getD property.name
  match property.type.kind with
  | .list | .set => Naming.singularize name
  | _ => name

/-- The overrides of a field. -/
def FieldOverrides.field? (overrides : Option FieldOverrides) (name : String) :
    Option FieldOverride :=
  overrides.bind (Entries.get? name ·)

mutual

/-- Visits the object types of a type at a location, which is that of a property `name`. -/
def visitsOfType (entity : String) (side : Side) (graph : TypeNameGraph) (path : TypePath)
    (name : String) (override : Option FieldOverride) : PropertyType → List Visit
  | .mk kind element properties =>
    match kind with
    | .list | .set | .map => visitsOfElement entity side graph path.element name override element
    | .object =>
      let graph := graph.branch name
      let declaration := ⟨path, entity, .mk kind element properties, side⟩
      let visit :=
        match override.bind (·.givenTypeName?) with
        | some explicit => Visit.named explicit declaration
        | none => .object graph name declaration
      visit ::
        visitsOfProperties entity side graph path (override.bind (·.fieldOverrides?)) properties
    | _ => []

def visitsOfElement (entity : String) (side : Side) (graph : TypeNameGraph) (path : TypePath)
    (name : String) (override : Option FieldOverride) : Option PropertyType → List Visit
  | none => []
  | some element => visitsOfType entity side graph path name override element

/-- Visits the object types of properties below a location. -/
def visitsOfProperties (entity : String) (side : Side) (graph : TypeNameGraph)
    (parent : TypePath) (overrides : Option FieldOverrides) : List Property → List Visit
  | [] => []
  | .mk name type isOptional isComputed isSensitive description :: rest =>
    let override := FieldOverrides.field? overrides name
    if override.any (·.omitted) then
      if isOptional then visitsOfProperties entity side graph parent overrides rest
      else [.omitted entity name]
    else
      let property := Property.mk name type isOptional isComputed isSensitive description
      visitsOfType entity side graph (parent.child name) (property.typeNameSegment override)
          override type ++
        visitsOfProperties entity side graph parent overrides rest

end

/-- Visits the object types of an entity, side by side. -/
def EntitySchema.visits (schema : EntitySchema) (overrides : Option FieldOverrides) : List Visit :=
  schema.sides.flatMap fun side ↦
    visitsOfProperties schema.name side.side (.ofRoot schema.typeName)
      (TypePath.child schema.name side.segment) overrides side.properties

/-! ## Declaring what was visited -/

namespace TypeRegistry

def visit (registry : TypeRegistry) : Visit → Except Error TypeRegistry
  | .object graph property declaration =>
    registry.enter
      (registry.chooseName graph property declaration.declarer declaration.type) declaration
  | .named name declaration => registry.enter name declaration
  | .omitted entity field => .error (.requiredFieldOmitted entity field)

/-- Declares up to the first failure; what was declared before it stays. -/
def visitAll (registry : TypeRegistry) : List Visit → TypeRegistry × Option Error
  | [] => (registry, none)
  | visit :: rest =>
    match registry.visit visit with
    | .ok registry => registry.visitAll rest
    | .error error => (registry, some error)

/-- Declares the nested types of an entity. -/
def declareEntity (registry : TypeRegistry) (schema : EntitySchema)
    (overrides : Option FieldOverrides) : TypeRegistry × Option Error :=
  registry.visitAll (schema.visits overrides)

end TypeRegistry

namespace Provider

/-- Visits the object types of entities in their order. -/
def visits (provider : Provider) (schemas : List EntitySchema) : List Visit :=
  schemas.flatMap fun schema ↦
    schema.visits ((provider.entity? schema.kind schema.name).map (·.fields))

/-- The registry of the nested types of a provider's entities. -/
def typeRegistry (provider : Provider) (schemas : List EntitySchema) : Except Error TypeRegistry :=
  match TypeRegistry.empty.visitAll (provider.visits schemas) with
  | (registry, none) => .ok registry
  | (_, some error) => .error error

end Provider

end ProviderDocs
