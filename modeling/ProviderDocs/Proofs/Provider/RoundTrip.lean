import ProviderDocs.Proofs.Json.Record
import ProviderDocs.Provider.Json

/-!
# Mappings read back from JSON

A mapping is read back from its JSON value when the overrides of fields, which nest in each other,
are dictionaries at every level: lists in key order. Every mapping that is read has such overrides.
-/

namespace ProviderDocs

open Json

/-! ## Overrides of fields -/

namespace FieldOverride

/-- The overrides of fields are in key order, here and in all overrides inside of these. -/
inductive IsOrdered : FieldOverride → Prop where
  | mk {name : Option String} {omitted : Bool} {nestedTypeName : Option String}
      {element : Option FieldOverride} {fields : FieldOverrides}
      (element_ordered : ∀ override ∈ element, IsOrdered override)
      (sorted : Entries.Sorted fields)
      (fields_ordered : ∀ field ∈ fields, IsOrdered field.2) :
      IsOrdered (.mk name omitted nestedTypeName element fields)

theorem fieldMembers_eq_map (fields : FieldOverrides) :
    fieldMembers fields = fields.map fun field ↦ (field.1, field.2.toJson) := by
  induction fields with
  | nil => rfl
  | cons field rest ih => rw [fieldMembers, ih, List.map_cons]

theorem dictOfJson?_obj (members : List (String × Json)) :
    dictOfJson? (.obj members) =
      (members.mapM fun member ↦ (ofJson? member.2).map (member.1, ·)).map Entries.ofList := by
  rw [dictOfJson?, dict?, Option.map_map]
  rfl

/-- The dictionary of the fields may be left out. -/
theorem bind_fields {α : Type} (json : Json) (next : FieldOverrides → Option α) :
    (match _hfields : json.field? fieldNames "fields" with
      | none => some [] >>= next
      | some (.obj members) =>
        (members.attach.mapM fun member ↦
          (ofJson? member.val.2).map (member.val.1, ·)).map Entries.ofList >>= next
      | some _ => none >>= next) =
        withDefault [] dictOfJson? (json.field? fieldNames "fields") >>= next := by
  split
  case h_1 hnone => rw [hnone]; rfl
  case h_2 members hobj =>
    rw [hobj, withDefault_some, dictOfJson?_obj,
      mapM_attach fun member : String × Json ↦ (ofJson? member.2).map (member.1, ·)]
  case h_3 value hother hvalue =>
    have hnone : dictOfJson? value = none := by
      cases value with
      | obj members => exact absurd rfl (hother members)
      | _ => rfl
    rw [hvalue, withDefault_some, hnone]

/-- A record of overrides is read field by field, like one without overrides inside. -/
theorem ofJson?_eq {json : Json} (hrecord : json.isRecord fieldNames = true) :
    ofJson? json = (do
      let name ← optional str? (json.field? fieldNames "name")
      let omitted ← withDefault false bool? (json.field? fieldNames "omit")
      let nestedTypeName ← optional str? (json.field? fieldNames "nested_type_name")
      let element ← optional ofJson? (json.field? fieldNames "elem")
      let fields ← withDefault [] dictOfJson? (json.field? fieldNames "fields")
      some (mk name omitted nestedTypeName element fields)) := by
  rw [ofJson?, hrecord]
  simp only [if_true]
  refine bind_congr fun name ↦ bind_congr fun omitted ↦ bind_congr fun nested ↦ ?_
  split
  case h_1 hnone =>
    rw [hnone]
    exact bind_congr fun element ↦ bind_fields json _
  case h_2 hnull =>
    rw [hnull]
    exact bind_congr fun element ↦ bind_fields json _
  case h_3 value hvalue hsome =>
    rw [hsome, optional_some hvalue]
    exact bind_congr fun element ↦ bind_fields json _

/-- The fields of the record. -/
def jsonFields : FieldOverride → List (String × Option Json)
  | mk name omitted nestedTypeName element fields =>
    [("name", name.map .str), ("omit", some (.bool omitted)),
      ("nested_type_name", nestedTypeName.map .str), ("elem", element.map toJson),
      ("fields", if fields.isEmpty then none else some (.obj (fieldMembers fields)))]

theorem elementMember_eq (element : Option FieldOverride) :
    elementMember element = optionalMember "elem" toJson element := by
  cases element <;> rfl

theorem hasFields (override : FieldOverride) :
    HasFields override.toJson fieldNames override.jsonFields := by
  obtain ⟨name, omitted, nestedTypeName, element, fields⟩ := override
  refine ⟨?_, rfl, by decide⟩
  unfold toJson
  cases fields <;> simp [jsonFields, elementMember_eq]

theorem dictOfJson?_fieldMembers {fields : FieldOverrides} (hsorted : Entries.Sorted fields)
    (h : ∀ field ∈ fields, ofJson? field.2.toJson = some field.2) :
    dictOfJson? (.obj (fieldMembers fields)) = some fields := by
  have hdict : dict? ofJson? (ofDict toJson ⟨fields, hsorted⟩) = some ⟨fields, hsorted⟩ :=
    dict?_ofDict h
  rw [dictOfJson?, fieldMembers_eq_map]
  exact congrArg (Option.map Dict.entries) hdict

/-- Overrides of fields that are left out when there are none. -/
theorem withDefault_fieldMembers {fields : FieldOverrides} (hsorted : Entries.Sorted fields)
    (h : ∀ field ∈ fields, ofJson? field.2.toJson = some field.2) :
    withDefault [] dictOfJson?
      (if fields.isEmpty then none else some (.obj (fieldMembers fields))) = some fields :=
  withDefault_unless List.isEmpty_iff.mp (dictOfJson?_fieldMembers hsorted h)

theorem toJson_ne_null (override : FieldOverride) : override.toJson ≠ .null := by
  rw [override.hasFields.eq_obj]
  exact Json.noConfusion

theorem ofJson?_toJson {override : FieldOverride} (h : override.IsOrdered) :
    ofJson? override.toJson = some override := by
  induction h with
  | @mk name omitted nestedTypeName element fields _ hsorted _ ihElement ihFields =>
    have helement := optional_map toJson_ne_null ihElement
    have hfields := withDefault_fieldMembers hsorted ihFields
    have hrecord := hasFields (mk name omitted nestedTypeName element fields)
    have hread := hrecord.field?_eq
    simp only [jsonFields, List.forall_mem_cons] at hread
    simp [ofJson?_eq hrecord.isRecord_eq, hread, helement, hfields, -List.isEmpty_iff]

/-- Overrides of fields that are read are in key order when the overrides in them are. -/
theorem areOrdered_of_withDefault {field : Option Json} {fields : FieldOverrides}
    (h : withDefault [] dictOfJson? field = some fields)
    (hread : ∀ json ∈ field, ∀ value override, sizeOf value < sizeOf json →
      ofJson? value = some override → override.IsOrdered) :
    Entries.Sorted fields ∧ ∀ field ∈ fields, field.2.IsOrdered := by
  cases field with
  | none =>
    cases h
    exact ⟨.nil, fun _ hmem ↦ absurd hmem List.not_mem_nil⟩
  | some json =>
    obtain ⟨dict, hdict, rfl⟩ := Option.map_eq_some_iff.mp h
    refine ⟨dict.sorted, fun field hfield ↦ ?_⟩
    obtain ⟨value, hvalue, hlt⟩ := exists_of_mem_dict? hdict hfield
    exact hread json rfl value field.2 hlt hvalue

/-- Overrides that are read are in key order at every level. -/
theorem isOrdered_of_ofJson? {json : Json} {override : FieldOverride}
    (h : ofJson? json = some override) : override.IsOrdered := by
  have hrecord : json.isRecord fieldNames = true := by
    by_contra hrecord
    rw [ofJson?, if_neg hrecord] at h
    cases h
  rw [ofJson?_eq hrecord] at h
  simp only [Option.bind_eq_bind, Option.bind_eq_some_iff] at h
  obtain ⟨name, -, omitted, -, nestedTypeName, -, element, helement, fields, hfields, heq⟩ := h
  cases heq
  obtain ⟨hsorted, hordered⟩ := areOrdered_of_withDefault hfields fun json hjson value _ hlt hread ↦
    have := sizeOf_field?_lt hjson
    isOrdered_of_ofJson? hread
  refine .mk ?_ hsorted hordered
  rintro override rfl
  obtain ⟨value, hvalue, hread⟩ := of_optional_eq_some helement
  have := sizeOf_field?_lt hvalue
  exact isOrdered_of_ofJson? hread
termination_by sizeOf json

end FieldOverride

/-! ## Overrides of the documentation -/

namespace DocOverride

variable (docs : DocOverride)

/-- The fields of the record. -/
def jsonFields : List (String × Option Json) :=
  [("markdown", docs.markdown.map .str), ("source", docs.source.map .str),
    ("import_details", docs.importDetails.map .str),
    ("include_attributes_from", docs.attributesFrom.map .str),
    ("include_attributes_from_arguments", docs.attributesFromArguments.map .str),
    ("include_arguments_from", docs.argumentsFrom.map .str)]

theorem hasFields : HasFields docs.toJson fieldNames docs.jsonFields :=
  ⟨by simp [toJson, jsonFields], rfl, by decide⟩

theorem ofJson?_toJson : ofJson? docs.toJson = some docs := by
  have hrecord := docs.hasFields
  have hread := hrecord.field?_eq
  simp only [jsonFields, List.forall_mem_cons] at hread
  simp [ofJson?, hrecord.isRecord_eq, hread, guard]

end DocOverride

/-! ## Entities -/

namespace EntityMapping

variable (mapping : EntityMapping)

/-- The overrides of fields are in key order at every level. -/
structure IsOrdered : Prop where
  sorted : Entries.Sorted mapping.fields
  fields_ordered : ∀ field ∈ mapping.fields, field.2.IsOrdered

/-- The fields of the record. -/
def jsonFields : List (String × Option Json) :=
  [("tok", some (.str mapping.token)), ("docs", mapping.docs.map DocOverride.toJson),
    ("fields", if mapping.fields.isEmpty then none
      else some (.obj (FieldOverride.fieldMembers mapping.fields)))]

theorem hasFields : HasFields mapping.toJson fieldNames mapping.jsonFields := by
  refine ⟨?_, rfl, by decide⟩
  rw [toJson, jsonFields]
  cases mapping.fields <;> simp

variable {mapping}

theorem ofJson?_toJson (h : mapping.IsOrdered) : ofJson? mapping.toJson = some mapping := by
  have hfields := FieldOverride.withDefault_fieldMembers h.sorted fun field hfield ↦
    FieldOverride.ofJson?_toJson (h.fields_ordered field hfield)
  have hdocs : optional DocOverride.ofJson? (mapping.docs.map DocOverride.toJson) =
      some mapping.docs :=
    optional_map (fun _ ↦ Json.noConfusion) fun docs _ ↦ docs.ofJson?_toJson
  have hrecord := mapping.hasFields
  have hread := hrecord.field?_eq
  simp only [jsonFields, List.forall_mem_cons] at hread
  simp [ofJson?, hrecord.isRecord_eq, hread, guard, hdocs, hfields, -List.isEmpty_iff]

theorem isOrdered_of_ofJson? {json : Json} (h : ofJson? json = some mapping) :
    mapping.IsOrdered := by
  unfold ofJson? at h
  obtain ⟨-, -, h⟩ := Option.bind_eq_some_iff.mp h
  simp only [Option.bind_eq_bind, Option.bind_eq_some_iff] at h
  obtain ⟨token, -, docs, -, fields, hfields, heq⟩ := h
  cases heq
  obtain ⟨hsorted, hordered⟩ := FieldOverride.areOrdered_of_withDefault hfields
    fun _ _ _ _ _ ↦ FieldOverride.isOrdered_of_ofJson?
  exact ⟨hsorted, hordered⟩

end EntityMapping

/-! ## Mappings -/

namespace Provider

variable (provider : Provider)

/-- The overrides of fields are in key order at every level, for all entities. -/
structure IsOrdered : Prop where
  resources : ∀ mapping ∈ provider.resources.values, mapping.IsOrdered
  dataSources : ∀ mapping ∈ provider.dataSources.values, mapping.IsOrdered

/-- The fields of the record. -/
def jsonFields : List (String × Option Json) :=
  [("name", some (.str provider.name)), ("resource_prefix", provider.resourcePrefix.map .str),
    ("github_org", provider.organization.map .str), ("git_host", some (.str provider.gitHost)),
    ("resources", some (.ofDict EntityMapping.toJson provider.resources)),
    ("data_sources", some (.ofDict EntityMapping.toJson provider.dataSources))]

theorem hasFields : HasFields provider.toJson fieldNames provider.jsonFields :=
  ⟨by simp [toJson, jsonFields], rfl, by decide⟩

variable {provider}

theorem ofJson?_toJson (h : provider.IsOrdered) : ofJson? provider.toJson = some provider := by
  have hentities {entities : Dict EntityMapping}
      (hentities : ∀ mapping ∈ entities.values, mapping.IsOrdered) :
      dict? EntityMapping.ofJson? (ofDict EntityMapping.toJson entities) = some entities :=
    dict?_ofDict fun entry hentry ↦
      EntityMapping.ofJson?_toJson (hentities entry.2 (List.mem_map_of_mem hentry))
  have hrecord := provider.hasFields
  have hread := hrecord.field?_eq
  simp only [jsonFields, List.forall_mem_cons] at hread
  simp [ofJson?, hrecord.isRecord_eq, hread, guard, hentities h.resources, hentities h.dataSources]

theorem isOrdered_of_withDefault {field : Option Json} {entities : Dict EntityMapping}
    (h : withDefault ∅ (dict? EntityMapping.ofJson?) field = some entities) :
    ∀ mapping ∈ entities.values, mapping.IsOrdered := by
  intro mapping hmapping
  obtain ⟨entry, hentry, rfl⟩ := List.mem_map.mp hmapping
  cases field with
  | none =>
    cases h
    exact absurd hentry List.not_mem_nil
  | some json =>
    obtain ⟨value, hvalue, -⟩ := exists_of_mem_dict? h hentry
    exact EntityMapping.isOrdered_of_ofJson? hvalue

/-- A mapping that is read is in key order. -/
theorem isOrdered_of_ofJson? {json : Json} (h : ofJson? json = some provider) :
    provider.IsOrdered := by
  unfold ofJson? at h
  obtain ⟨-, -, h⟩ := Option.bind_eq_some_iff.mp h
  simp only [Option.bind_eq_bind, Option.bind_eq_some_iff] at h
  obtain ⟨name, -, resourcePrefix, -, organization, -, gitHost, -, resources, hresources,
    dataSources, hdataSources, heq⟩ := h
  cases heq
  exact ⟨isOrdered_of_withDefault hresources, isOrdered_of_withDefault hdataSources⟩

end Provider

end ProviderDocs
