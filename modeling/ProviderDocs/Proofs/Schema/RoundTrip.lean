import ProviderDocs.Proofs.Json.Record
import ProviderDocs.Schema.Json

/-!
# Schemas read back from JSON

Types and properties nest in each other. Both are read as records, field by field, and so the
round trip of a type follows from those of its element type and of its properties.
-/

namespace ProviderDocs

open Json

/-! ## Choices -/

theorem TypeKind.choice?_name (kind : TypeKind) :
    choice? TypeKind.ofName? (.str kind.name) = some kind := by
  cases kind <;> decide

theorem EntityKind.choice?_directory (kind : EntityKind) :
    choice? EntityKind.ofName? (.str kind.directory) = some kind := by
  cases kind <;> decide

/-! ## Reading -/

/-- The list of the properties may be left out. -/
theorem PropertyType.bind_properties {α : Type} (json : Json)
    (next : List Property → Option α) :
    (match _hproperties : json.field? fieldNames "properties" with
      | none => some [] >>= next
      | some (.arr items) => (items.attach.mapM fun item ↦ Property.ofJson? item.val) >>= next
      | some _ => none >>= next) =
        withDefault [] (list? Property.ofJson?) (json.field? fieldNames "properties") >>= next := by
  split
  case h_1 hnone => rw [hnone]; rfl
  case h_2 items harr =>
    rw [harr, withDefault_some, mapM_attach Property.ofJson?]
    rfl
  case h_3 value hother hvalue =>
    have hnone : list? Property.ofJson? value = none := by
      cases value with
      | arr items => exact absurd rfl (hother items)
      | _ => rfl
    rw [hvalue, withDefault_some, hnone]

theorem PropertyType.ofJson?_eq {json : Json} (hrecord : json.isRecord fieldNames = true) :
    ofJson? json = (do
      let kind ← required (choice? TypeKind.ofName?) (json.field? fieldNames "kind")
      let element ← optional ofJson? (json.field? fieldNames "element")
      let properties ←
        withDefault [] (list? Property.ofJson?) (json.field? fieldNames "properties")
      some (mk kind element properties)) := by
  rw [ofJson?, hrecord]
  simp only [if_true]
  refine bind_congr fun kind ↦ ?_
  split
  case h_1 hnone =>
    rw [hnone]
    exact bind_congr fun element ↦ bind_properties json _
  case h_2 hnull =>
    rw [hnull]
    exact bind_congr fun element ↦ bind_properties json _
  case h_3 value hvalue hsome =>
    rw [hsome, optional_some hvalue]
    exact bind_congr fun element ↦ bind_properties json _

theorem Property.ofJson?_eq {json : Json} (hrecord : json.isRecord fieldNames = true) :
    ofJson? json = (do
      let name ← required str? (json.field? fieldNames "name")
      let type ← required PropertyType.ofJson? (json.field? fieldNames "type")
      let isOptional ← withDefault false bool? (json.field? fieldNames "optional")
      let isComputed ← withDefault false bool? (json.field? fieldNames "computed")
      let isSensitive ← withDefault false bool? (json.field? fieldNames "sensitive")
      let description ← optional str? (json.field? fieldNames "description")
      some (mk name type isOptional isComputed isSensitive description)) := by
  rw [ofJson?, hrecord]
  simp only [if_true]
  refine bind_congr fun name ↦ ?_
  split
  case h_1 hnone => rw [hnone]; rfl
  case h_2 value hsome => rw [hsome, required_some]

/-! ## Types and properties -/

namespace PropertyType

/-- The fields of the record. -/
def jsonFields : PropertyType → List (String × Option Json)
  | mk kind element properties =>
    [("kind", some (.str kind.name)), ("element", element.map toJson),
      ("properties", if properties.isEmpty then none else some (.arr (propertyItems properties)))]

theorem elementMember_eq (element : Option PropertyType) :
    elementMember element = optionalMember "element" toJson element := by
  cases element <;> rfl

theorem hasFields (type : PropertyType) : HasFields type.toJson fieldNames type.jsonFields := by
  obtain ⟨kind, element, properties⟩ := type
  refine ⟨?_, rfl, by decide⟩
  unfold toJson members
  cases properties <;> simp [jsonFields, elementMember_eq]

end PropertyType

namespace Property

/-- The item of a property in a list of properties. -/
def toJson : Property → Json
  | mk name type isOptional isComputed isSensitive description =>
    .obj ([("name", .str name), ("type", type.toJson), ("optional", .bool isOptional),
      ("computed", .bool isComputed), ("sensitive", .bool isSensitive)] ++
      optionalMember "description" .str description)

theorem propertyItems_eq_map (properties : List Property) :
    propertyItems properties = properties.map toJson := by
  induction properties with
  | nil => rfl
  | cons property rest ih =>
    obtain ⟨name, type, isOptional, isComputed, isSensitive, description⟩ := property
    rw [propertyItems, ih]
    rfl

/-- The fields of the record. -/
def jsonFields : Property → List (String × Option Json)
  | mk name type isOptional isComputed isSensitive description =>
    [("name", some (.str name)), ("type", some type.toJson), ("optional", some (.bool isOptional)),
      ("computed", some (.bool isComputed)), ("sensitive", some (.bool isSensitive)),
      ("description", description.map .str)]

theorem hasFields (property : Property) :
    HasFields property.toJson fieldNames property.jsonFields := by
  obtain ⟨name, type, isOptional, isComputed, isSensitive, description⟩ := property
  exact ⟨by simp [toJson, jsonFields], rfl, by decide⟩

theorem list?_propertyItems {properties : List Property}
    (h : ∀ property ∈ properties, ofJson? property.toJson = some property) :
    list? ofJson? (.arr (propertyItems properties)) = some properties := by
  rw [propertyItems_eq_map]
  exact mapM_map_eq_some h

end Property

mutual

theorem PropertyType.ofJson?_toJson : ∀ type : PropertyType,
    PropertyType.ofJson? type.toJson = some type
  | .mk kind element properties => by
    have helement := optional_map (fun type ↦ Json.noConfusion)
      (PropertyType.ofJson?_element element)
    have hproperties := withDefault_unless List.isEmpty_iff.mp
      (Property.list?_propertyItems (Property.ofJson?_of_mem properties))
    have hrecord := PropertyType.hasFields (.mk kind element properties)
    have hread := hrecord.field?_eq
    simp only [PropertyType.jsonFields, List.forall_mem_cons] at hread
    simp [PropertyType.ofJson?_eq hrecord.isRecord_eq, hread, kind.choice?_name, helement,
      hproperties, -List.isEmpty_iff]

theorem PropertyType.ofJson?_element : ∀ element : Option PropertyType, ∀ type ∈ element,
    PropertyType.ofJson? type.toJson = some type
  | none => fun _ hnone ↦ nomatch hnone
  | some type => fun other hother ↦ by
    cases hother
    exact PropertyType.ofJson?_toJson type

theorem Property.ofJson?_toJson : ∀ property : Property,
    Property.ofJson? property.toJson = some property
  | .mk name type isOptional isComputed isSensitive description => by
    have htype := PropertyType.ofJson?_toJson type
    have hrecord :=
      Property.hasFields (.mk name type isOptional isComputed isSensitive description)
    have hread := hrecord.field?_eq
    simp only [Property.jsonFields, List.forall_mem_cons] at hread
    simp [Property.ofJson?_eq hrecord.isRecord_eq, hread, htype]

theorem Property.ofJson?_of_mem : ∀ properties : List Property, ∀ property ∈ properties,
    Property.ofJson? property.toJson = some property
  | [] => fun _ hmem ↦ absurd hmem List.not_mem_nil
  | property :: rest => List.forall_mem_cons.mpr
    ⟨Property.ofJson?_toJson property, Property.ofJson?_of_mem rest⟩

end

/-! ## Entities -/

namespace EntitySchema

variable (schema : EntitySchema)

/-- The fields of the record. -/
def jsonFields : List (String × Option Json) :=
  [("tfName", some (.str schema.name)), ("typeName", some (.str schema.typeName)),
    ("kind", some (.str schema.kind.directory)),
    ("inputs", some (.arr (propertyItems schema.inputs))),
    ("outputs", some (.arr (propertyItems schema.outputs))),
    ("state", some (.arr (propertyItems schema.state)))]

theorem hasFields : HasFields schema.toJson fieldNames schema.jsonFields :=
  ⟨rfl, rfl, by decide⟩

theorem ofJson?_toJson : ofJson? schema.toJson = some schema := by
  have hproperties (properties : List Property) :
      list? Property.ofJson? (.arr (propertyItems properties)) = some properties :=
    Property.list?_propertyItems fun property _ ↦ property.ofJson?_toJson
  have hrecord := schema.hasFields
  have hread := hrecord.field?_eq
  simp only [jsonFields, List.forall_mem_cons] at hread
  simp [ofJson?, hrecord.isRecord_eq, hread, guard, schema.kind.choice?_directory, hproperties]

end EntitySchema

end ProviderDocs
