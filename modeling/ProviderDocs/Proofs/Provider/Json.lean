import ProviderDocs.Proofs.Json.RoundTrip
import ProviderDocs.Proofs.Provider.RoundTrip

/-!
# Mappings as JSON text

A mapping holds no numbers, so its text is read back as its JSON value or not at all. Since its
entities are members that are objects, it is never read as a dictionary of texts, while a
dictionary of texts always is.
-/

namespace ProviderDocs

namespace Json

theorem membersAreNumberFree_iff {members : List (String × Json)} :
    membersAreNumberFree members = true ↔ ∀ member ∈ members, member.2.isNumberFree = true := by
  induction members with
  | nil => simp [membersAreNumberFree]
  | cons member rest ih => simp [membersAreNumberFree, ih]

theorem depthOfMembers_le_iff {members : List (String × Json)} {bound : Nat} :
    depthOfMembers members ≤ bound ↔ ∀ member ∈ members, member.2.depth ≤ bound := by
  induction members with
  | nil => simp [depthOfMembers]
  | cons member rest ih =>
    rw [depthOfMembers, Nat.max_le, ih]
    simp

@[simp] theorem isNumberFree_str (text : String) : (str text).isNumberFree = true := rfl

@[simp] theorem isNumberFree_bool (value : Bool) : (bool value).isNumberFree = true := rfl

/-- A record is free of numbers when its fields are. -/
theorem HasFields.isNumberFree {json : Json} {names : List String}
    {fields : List (String × Option Json)} (hrecord : HasFields json names fields)
    (h : ∀ field ∈ fields, ∀ value ∈ field.2, value.isNumberFree = true) :
    json.isNumberFree = true := by
  rw [hrecord.eq_obj, Json.isNumberFree, membersAreNumberFree_iff]
  intro member hmember
  obtain ⟨field, hfield, hvalue⟩ := List.mem_filterMap.mp hmember
  obtain ⟨value, hsome, rfl⟩ := Option.map_eq_some_iff.mp hvalue
  exact h field hfield value hsome

theorem isNumberFree_ofDict {α : Type} {encode : α → Json}
    (h : ∀ value, (encode value).isNumberFree = true) (dict : Dict α) :
    (ofDict encode dict).isNumberFree = true := by
  rw [ofDict, isNumberFree, membersAreNumberFree_iff]
  intro member hmember
  obtain ⟨entry, -, rfl⟩ := List.mem_map.mp hmember
  exact h entry.2

/-! ## Dictionaries of texts -/

/-- Reads a text as a dictionary of texts. -/
def parseTexts? (text : String) : Option (Dict String) := (parse text).toOption.bind (dict? str?)

theorem parseTexts?_compact_ofDict (dict : Dict String) :
    parseTexts? (ofDict .str dict).compact = some dict := by
  have hdepth : (ofDict .str dict).depth ≤ maxDepth := by
    have hmembers : depthOfMembers (dict.entries.map fun entry ↦ (entry.1, str entry.2)) ≤ 0 := by
      rw [depthOfMembers_le_iff]
      intro member hmember
      obtain ⟨entry, -, rfl⟩ := List.mem_map.mp hmember
      exact Nat.le_refl _
    rw [ofDict, depth, maxDepth]
    omega
  rw [parseTexts?, parse_compact (isNumberFree_ofDict (fun _ ↦ rfl) dict) hdepth]
  exact dict?_texts dict

end Json

/-! ## Mappings -/

namespace FieldOverride

mutual

theorem isNumberFree_toJson : ∀ override : FieldOverride, override.toJson.isNumberFree = true
  | mk name omitted nestedTypeName element fields => by
    have helement := isNumberFree_element element
    have hfields := isNumberFree_fieldMembers fields
    apply (hasFields _).isNumberFree
    simpa [jsonFields, Json.isNumberFree, hfields] using helement

theorem isNumberFree_element : ∀ element : Option FieldOverride,
    ∀ override ∈ element, override.toJson.isNumberFree = true
  | none => fun _ hnone ↦ nomatch hnone
  | some element => fun other hother ↦ by
    cases hother
    exact isNumberFree_toJson element

theorem isNumberFree_fieldMembers : ∀ fields : List (String × FieldOverride),
    Json.membersAreNumberFree (fieldMembers fields) = true
  | [] => rfl
  | (name, override) :: rest => by
    rw [fieldMembers, Json.membersAreNumberFree, isNumberFree_toJson override,
      isNumberFree_fieldMembers rest]
    rfl

end

end FieldOverride

theorem DocOverride.isNumberFree_toJson (docs : DocOverride) : docs.toJson.isNumberFree = true := by
  apply docs.hasFields.isNumberFree
  simp [jsonFields]

theorem EntityMapping.isNumberFree_toJson (mapping : EntityMapping) :
    mapping.toJson.isNumberFree = true := by
  apply mapping.hasFields.isNumberFree
  simp [jsonFields, Json.isNumberFree, DocOverride.isNumberFree_toJson,
    FieldOverride.isNumberFree_fieldMembers]

theorem Provider.isNumberFree_toJson (provider : Provider) :
    provider.toJson.isNumberFree = true := by
  apply provider.hasFields.isNumberFree
  simp [jsonFields, Json.isNumberFree_ofDict, EntityMapping.isNumberFree_toJson]

/-- The text of a mapping is no dictionary of texts. -/
theorem Provider.parseTexts?_toJson (provider : Provider) :
    Json.parseTexts? provider.toJson.compact = none := by
  unfold Json.parseTexts?
  cases hread : Json.parse provider.toJson.compact with
  | error => rfl
  | ok read =>
    obtain rfl := Json.eq_of_parse_compact provider.isNumberFree_toJson hread
    simp [Except.toOption, toJson, Json.dict?, Json.ofDict, Json.str?]

end ProviderDocs
