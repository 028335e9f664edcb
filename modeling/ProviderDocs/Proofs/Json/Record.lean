import Mathlib.Data.List.Basic
import Mathlib.Data.List.Nodup
import ProviderDocs.Json.Decode
import ProviderDocs.Proofs.Dict

/-!
# Records in JSON

A record is written as an object with those of its fields that are there, in their order. Such an
object is read as a record, and in a field stands what was written there. A field may be left out
when its value is the default.
-/

namespace ProviderDocs

namespace Json

/-! ## Objects -/

/-- The members of the fields that are there. -/
def present (fields : List (String × Option Json)) : List (String × Json) :=
  fields.filterMap fun field ↦ field.2.map (field.1, ·)

@[simp] theorem present_nil : present [] = [] := rfl

@[simp] theorem present_cons_none (name : String) (rest : List (String × Option Json)) :
    present ((name, none) :: rest) = present rest := rfl

@[simp] theorem present_cons_some (name : String) (json : Json)
    (rest : List (String × Option Json)) :
    present ((name, some json) :: rest) = (name, json) :: present rest := rfl

@[simp] theorem present_cons_map {α : Type} (name : String) (encode : α → Json)
    (value : Option α) (rest : List (String × Option Json)) :
    present ((name, value.map encode) :: rest) =
      optionalMember name encode value ++ present rest := by
  cases value <;> rfl

theorem keys_present (fields : List (String × Option Json)) :
    ((present fields).map Prod.fst).Sublist (fields.map Prod.fst) := by
  induction fields with
  | nil => exact List.Sublist.refl _
  | cons field rest ih =>
    obtain ⟨name, value⟩ := field
    cases value with
    | none => exact ih.cons name
    | some value => exact ih.cons_cons name

theorem get?_present_eq_none {name : String} {fields : List (String × Option Json)}
    (h : name ∉ fields.map Prod.fst) : Entries.get? name (present fields) = none := by
  rw [Option.eq_none_iff_forall_ne_some]
  intro value hvalue
  have hmem := List.mem_map_of_mem (f := Prod.fst) (Entries.mem_of_get?_eq_some hvalue)
  exact h ((keys_present fields).subset hmem)

theorem get?_present_of_mem {fields : List (String × Option Json)}
    (hnodup : (fields.map Prod.fst).Nodup) {name : String} {value : Option Json}
    (h : (name, value) ∈ fields) : Entries.get? name (present fields) = value := by
  induction fields with
  | nil => exact absurd h List.not_mem_nil
  | cons field rest ih =>
    obtain ⟨key, first⟩ := field
    obtain ⟨hkey, hrest⟩ := List.nodup_cons.mp hnodup
    rcases List.mem_cons.mp h with heq | hmem
    · cases heq
      cases value with
      | none => rw [present_cons_none, get?_present_eq_none hkey]
      | some value => exact if_pos rfl
    · have hne : name ≠ key := by
        rintro rfl
        exact hkey (List.mem_map.mpr ⟨_, hmem, rfl⟩)
      have hvalue := ih hrest hmem
      cases first with
      | none => exact hvalue
      | some first => exact (if_neg hne).trans hvalue

/-- The value is the object with those of the fields that are there, which have these names. -/
structure HasFields (json : Json) (names : List String) (fields : List (String × Option Json)) :
    Prop where
  eq_obj : json = .obj (present fields)
  keys_eq : fields.map Prod.fst = names
  nodup : names.Nodup

namespace HasFields

variable {json : Json} {names : List String} {fields : List (String × Option Json)}

theorem isRecord_eq (h : HasFields json names fields) : json.isRecord names = true := by
  obtain ⟨rfl, hnames, hnodup⟩ := h
  rw [isRecord, List.all_eq_true]
  intro name _
  have hcount : (present fields).countP (·.1 = name) =
      ((present fields).map Prod.fst).count name := by
    rw [List.count, List.countP_map]
    exact List.countP_congr fun member _ ↦ by simp
  have hkeys : ((present fields).map Prod.fst).Nodup :=
    (hnames ▸ keys_present fields).nodup hnodup
  rw [decide_eq_true_iff, hcount]
  exact List.nodup_iff_count_le_one.mp hkeys name

theorem field?_eq (h : HasFields json names fields) :
    ∀ field ∈ fields, json.field? names field.1 = field.2 := by
  obtain ⟨rfl, rfl, hnodup⟩ := h
  exact fun field hfield ↦ get?_present_of_mem hnodup hfield

end HasFields

/-! ## Fields -/

section Fields

@[simp] theorem str?_str (value : String) : str? (.str value) = some value := rfl

@[simp] theorem bool?_bool (value : Bool) : bool? (.bool value) = some value := rfl

variable {α : Type} {encode : α → Json} {decode : Json → Option α}

@[simp] theorem required_some (decode : Json → Option α) (json : Json) :
    required decode (some json) = decode json := by
  rw [required, Option.bind_some]

@[simp] theorem withDefault_some (default : α) (decode : Json → Option α) (json : Json) :
    withDefault default decode (some json) = decode json := rfl

theorem optional_some {json : Json} (h : json ≠ .null) :
    optional decode (some json) = (decode json).map some := by
  cases json with
  | null => exact absurd rfl h
  | _ => rfl

theorem optional_map (hnull : ∀ value, encode value ≠ .null) {value : Option α}
    (h : ∀ given ∈ value, decode (encode given) = some given) :
    optional decode (value.map encode) = some value := by
  cases value with
  | none => rfl
  | some given => rw [Option.map_some, optional_some (hnull given), h given rfl, Option.map_some]

theorem of_optional_eq_some {field : Option Json} {value : α}
    (h : optional decode field = some (some value)) :
    ∃ json, field = some json ∧ decode json = some value := by
  unfold optional at h
  split at h
  · cases h
  · cases h
  · obtain ⟨given, hgiven, heq⟩ := Option.map_eq_some_iff.mp h
    cases heq
    exact ⟨_, rfl, hgiven⟩
@[simp] theorem optional_str (value : Option String) :
    optional str? (value.map .str) = some value :=
  optional_map (fun _ ↦ Json.noConfusion) fun _ _ ↦ rfl

/-- A field that is left out for the default. -/
theorem withDefault_unless {default value : α} {skip : Bool} {json : Json}
    (hskip : skip = true → value = default) (h : decode json = some value) :
    withDefault default decode (if skip then none else some json) = some value := by
  cases skip with
  | true => exact congrArg some (hskip rfl).symm
  | false => exact h

end Fields

/-! ## Plain values -/

theorem natBelow?_ofNat {bound value : Nat} (h : value < bound) :
    natBelow? bound (ofNat value) = some value := by
  rw [ofNat, natBelow?, if_pos (by simp [h]), Int.toNat_natCast]

section Collections

variable {α : Type} {encode : α → Json} {decode : Json → Option α}

theorem mapM_map_eq_some {β : Type} {encode : α → β} {decode : β → Option α} {items : List α}
    (h : ∀ item ∈ items, decode (encode item) = some item) :
    (items.map encode).mapM decode = some items := by
  induction items with
  | nil => rfl
  | cons item rest ih =>
    obtain ⟨hitem, hrest⟩ := List.forall_mem_cons.mp h
    rw [List.map_cons, List.mapM_cons, hitem, ih hrest]
    rfl

theorem mapM_attach {β γ : Type} (decode : β → Option γ) (items : List β) :
    (items.attach.mapM fun item ↦ decode item.val) = items.mapM decode := by
  have h : (items.attach.map Subtype.val).mapM decode =
      items.attach.mapM fun item ↦ decode item.val := by
    rw [List.mapM_map]
    rfl
  rw [← h, List.attach_map_subtype_val]

theorem list?_ofList {items : List α} (h : ∀ item ∈ items, decode (encode item) = some item) :
    list? decode (ofList encode items) = some items :=
  mapM_map_eq_some h

theorem dict?_ofDict {dict : Dict α}
    (h : ∀ entry ∈ dict.entries, decode (encode entry.2) = some entry.2) :
    dict? decode (ofDict encode dict) = some dict := by
  have hentries : (dict.entries.map fun entry ↦ (entry.1, encode entry.2)).mapM
      (fun member ↦ (decode member.2).map (member.1, ·)) = some dict.entries :=
    mapM_map_eq_some fun entry hentry ↦ by rw [h entry hentry, Option.map_some]
  rw [ofDict, dict?, hentries, Option.map_some, Dict.ofList_entries]

theorem exists_of_mem_mapM {β γ : Type} {decode : β → Option γ} {items : List β}
    {decoded : List γ} (h : items.mapM decode = some decoded) {value : γ}
    (hmem : value ∈ decoded) :
    ∃ item ∈ items, decode item = some value := by
  induction items generalizing decoded with
  | nil =>
    cases h
    cases hmem
  | cons item rest ih =>
    simp only [List.mapM_cons, Option.bind_eq_bind, Option.bind_eq_some_iff] at h
    obtain ⟨first, hfirst, others, hothers, heq⟩ := h
    cases heq
    rcases List.mem_cons.mp hmem with rfl | hmem
    · exact ⟨item, List.mem_cons_self, hfirst⟩
    · obtain ⟨found, hfound, hvalue⟩ := ih hothers hmem
      exact ⟨found, List.mem_cons_of_mem _ hfound, hvalue⟩

/-- What a dictionary holds was read from a part of its value. -/
theorem exists_of_mem_dict? {json : Json} {dict : Dict α} (h : dict? decode json = some dict)
    {entry : String × α} (hentry : entry ∈ dict.entries) :
    ∃ value, decode value = some entry.2 ∧ sizeOf value < sizeOf json := by
  cases json with
  | obj members =>
    obtain ⟨entries, hentries, rfl⟩ := Option.map_eq_some_iff.mp h
    obtain ⟨member, hmember, hread⟩ :=
      exists_of_mem_mapM hentries (Entries.mem_of_mem_ofList hentry)
    obtain ⟨value, hvalue, rfl⟩ := Option.map_eq_some_iff.mp hread
    refine ⟨member.2, hvalue, ?_⟩
    have hlist := List.sizeOf_lt_of_mem hmember
    have hpair : sizeOf member.2 < sizeOf member := by
      cases member
      simp only [Prod.mk.sizeOf_spec]
      omega
    simp only [Json.obj.sizeOf_spec]
    omega
  | _ => cases h

end Collections

theorem dict?_texts (dict : Dict String) : dict? str? (ofDict .str dict) = some dict :=
  dict?_ofDict fun _ _ ↦ rfl

end Json

end ProviderDocs
