import ProviderDocs.Json.Decode
import ProviderDocs.Schema.Basic

/-!
# Entity schemas as JSON

Of a property type the kind is always written, an element type when there is one, and the
properties when there are any. The flags of a property are always written.
-/

namespace ProviderDocs

/-! ## Writing -/

mutual

/-- The members of a property type, which also stand inside other records. -/
def PropertyType.members : PropertyType → List (String × Json)
  | .mk kind element properties =>
    ("kind", .str kind.name) :: elementMember element ++
      match properties with
      | [] => []
      | properties => [("properties", .arr (propertyItems properties))]

def elementMember : Option PropertyType → List (String × Json)
  | none => []
  | some element => [("element", .obj element.members)]

def propertyItems : List Property → List Json
  | [] => []
  | .mk name type isOptional isComputed isSensitive description :: rest =>
    .obj ([("name", .str name), ("type", .obj type.members), ("optional", .bool isOptional),
      ("computed", .bool isComputed), ("sensitive", .bool isSensitive)] ++
      Json.optionalMember "description" .str description) :: propertyItems rest

end

def PropertyType.toJson (type : PropertyType) : Json := .obj type.members

def EntitySchema.toJson (schema : EntitySchema) : Json :=
  .obj [("tfName", .str schema.name), ("typeName", .str schema.typeName),
    ("kind", .str schema.kind.directory), ("inputs", .arr (propertyItems schema.inputs)),
    ("outputs", .arr (propertyItems schema.outputs)),
    ("state", .arr (propertyItems schema.state))]

/-! ## Reading -/

def PropertyType.fieldNames : List String := ["kind", "element", "properties"]

def Property.fieldNames : List String :=
  ["name", "type", "optional", "computed", "sensitive", "description"]

mutual

def PropertyType.ofJson? (json : Json) : Option PropertyType := do
  let field := json.field? PropertyType.fieldNames
  unless json.isRecord PropertyType.fieldNames do none
  let kind ← Json.required (Json.choice? TypeKind.ofName?) (field "kind")
  let element ← match _helement : json.field? PropertyType.fieldNames "element" with
    | none | some .null => some none
    | some value => (PropertyType.ofJson? value).map some
  let properties ← match _hproperties : json.field? PropertyType.fieldNames "properties" with
    | none => some []
    | some (.arr items) => items.attach.mapM fun item ↦ Property.ofJson? item.val
    | some _ => none
  some (.mk kind element properties)
termination_by sizeOf json
decreasing_by
  · have hlt := Json.sizeOf_field?_lt _hproperties
    have hmem := List.sizeOf_lt_of_mem item.property
    simp only [Json.arr.sizeOf_spec] at hlt
    omega
  · exact Json.sizeOf_field?_lt _helement

def Property.ofJson? (json : Json) : Option Property := do
  let field := json.field? Property.fieldNames
  unless json.isRecord Property.fieldNames do none
  let name ← Json.required Json.str? (field "name")
  let type ← match _htype : json.field? Property.fieldNames "type" with
    | none => none
    | some value => PropertyType.ofJson? value
  let isOptional ← Json.withDefault false Json.bool? (field "optional")
  let isComputed ← Json.withDefault false Json.bool? (field "computed")
  let isSensitive ← Json.withDefault false Json.bool? (field "sensitive")
  let description ← Json.optional Json.str? (field "description")
  some (.mk name type isOptional isComputed isSensitive description)
termination_by sizeOf json
decreasing_by
  exact Json.sizeOf_field?_lt _htype

end

namespace EntitySchema

def fieldNames : List String := ["tfName", "typeName", "kind", "inputs", "outputs", "state"]

def ofJson? (json : Json) : Option EntitySchema := do
  let field := json.field? fieldNames
  let properties? := fun name ↦ Json.withDefault [] (Json.list? Property.ofJson?) (field name)
  guard (json.isRecord fieldNames)
  some {
    name := ← Json.required Json.str? (field "tfName")
    typeName := ← Json.required Json.str? (field "typeName")
    kind := ← Json.required (Json.choice? EntityKind.ofName?) (field "kind")
    inputs := ← properties? "inputs"
    outputs := ← properties? "outputs"
    state := ← properties? "state" }

end EntitySchema

end ProviderDocs
