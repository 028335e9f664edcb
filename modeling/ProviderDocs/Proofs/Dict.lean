import ProviderDocs.Dict

/-!
# Look-ups in dictionaries

A dictionary is known by its look-ups. Each way of making one is read off here: insertion,
making it from a list of entries, and cutting it at a position in key order.
-/

namespace ProviderDocs

namespace Entries

variable {α : Type}

/-- Entries inserted one after the other: the last one under a key wins over what was there. -/
theorem get?_foldl_insert (key : String) (entries start : List (String × α)) :
    get? key (entries.foldl (fun sorted entry ↦ insert entry.1 entry.2 sorted) start) =
      ((entries.findRev? (·.1 = key)).map (·.2)).or (get? key start) := by
  induction entries generalizing start with
  | nil => rfl
  | cons entry rest ih =>
    rw [List.foldl_cons, ih, get?_insert]
    simp only [List.findRev?_eq_find?_reverse, List.reverse_cons, List.find?_append]
    by_cases hkey : entry.1 = key
    · cases rest.reverse.find? (·.1 = key) <;> simp [hkey]
    · cases rest.reverse.find? (·.1 = key) <;> simp [hkey, Ne.symm hkey]

/-- Keys do not repeat, so it does not matter from which side an entry is looked for. -/
theorem get?_eq_findRev? {entries : List (String × α)} (h : Sorted entries) (key : String) :
    get? key entries = (entries.findRev? (·.1 = key)).map (·.2) := by
  induction entries with
  | nil => rfl
  | cons entry rest ih =>
    obtain ⟨hbelow, hrest⟩ := List.pairwise_cons.mp h
    simp only [List.findRev?_eq_find?_reverse, List.reverse_cons, List.find?_append] at ih ⊢
    rw [get?]
    by_cases hkey : key = entry.1
    · have hnone : get? key rest = none :=
        get?_eq_none_of_forall_lt fun other hother ↦ hkey ▸ hbelow other hother
      rw [ih hrest, Option.map_eq_none_iff] at hnone
      rw [hnone, if_pos hkey]
      simp [hkey]
    · rw [if_neg hkey, ih hrest]
      simp [Ne.symm hkey]

theorem mem_of_get?_eq_some {key : String} {value : α} {entries : List (String × α)}
    (h : get? key entries = some value) : (key, value) ∈ entries := by
  induction entries with
  | nil => cases h
  | cons entry rest ih =>
    rw [get?] at h
    split at h
    case isTrue hkey =>
      cases h
      rw [hkey]
      exact List.mem_cons_self
    case isFalse => exact List.mem_cons_of_mem _ (ih h)

theorem get?_eq_some_of_mem {key : String} {value : α} {entries : List (String × α)}
    (hsorted : Sorted entries) (h : (key, value) ∈ entries) : get? key entries = some value := by
  induction entries with
  | nil => cases h
  | cons entry rest ih =>
    obtain ⟨hbelow, hrest⟩ := List.pairwise_cons.mp hsorted
    rw [get?]
    rcases List.mem_cons.mp h with rfl | h
    · rw [if_pos rfl]
    · have hne : key ≠ entry.1 := fun heq ↦ String.lt_irrefl _ (heq ▸ hbelow _ h)
      rw [if_neg hne, ih hrest h]

theorem get?_append (key : String) (front rest : List (String × α)) :
    get? key (front ++ rest) = (get? key front).or (get? key rest) := by
  induction front with
  | nil => rfl
  | cons entry front ih =>
    rw [List.cons_append, get?, get?]
    split
    · rfl
    · exact ih

theorem mem_of_mem_ofList {entry : String × α} {entries : List (String × α)}
    (h : entry ∈ ofList entries) : entry ∈ entries := by
  have hstart : ∀ start : List (String × α),
      entry ∈ entries.foldl (fun sorted entry ↦ insert entry.1 entry.2 sorted) start →
        entry ∈ start ∨ entry ∈ entries := by
    clear h
    induction entries with
    | nil => exact fun _ ↦ Or.inl
    | cons first rest ih =>
      intro start h
      rcases ih _ h with hinsert | hrest
      · rcases mem_insert hinsert with rfl | hmem
        · exact .inr List.mem_cons_self
        · exact .inl hmem
      · exact .inr (List.mem_cons_of_mem _ hrest)
  exact (hstart [] h).resolve_left List.not_mem_nil

/-- Of some entries that are told apart there is one with the greatest key. -/
theorem exists_greatest {p : String × α → Prop} {entries : List (String × α)}
    (hsorted : Sorted entries) (h : ∃ entry ∈ entries, p entry) :
    ∃ entry ∈ entries, p entry ∧ ∀ other ∈ entries, entry.1 < other.1 → ¬ p other := by
  induction entries with
  | nil => simp at h
  | cons head rest ih =>
    obtain ⟨hbelow, hrest⟩ := List.pairwise_cons.mp hsorted
    by_cases hlater : ∃ entry ∈ rest, p entry
    · obtain ⟨entry, hmem, hentry, hgreatest⟩ := ih hrest hlater
      refine ⟨entry, List.mem_cons_of_mem _ hmem, hentry, List.forall_mem_cons.mpr ⟨?_, hgreatest⟩⟩
      exact fun hlt ↦ absurd (String.lt_trans hlt (hbelow entry hmem)) (String.lt_irrefl _)
    · obtain ⟨entry, hmem, hentry⟩ := h
      rcases List.mem_cons.mp hmem with rfl | hmem
      · refine ⟨entry, hmem, hentry, List.forall_mem_cons.mpr ⟨?_, ?_⟩⟩
        · exact fun hlt ↦ absurd hlt (String.lt_irrefl _)
        · exact fun other hother _ hp ↦ hlater ⟨other, hother, hp⟩
      · exact absurd ⟨entry, hmem, hentry⟩ hlater

end Entries

namespace Dict

variable {α : Type}

theorem get?_ofList (key : String) (entries : List (String × α)) :
    (ofList entries).get? key = (entries.findRev? (·.1 = key)).map (·.2) := by
  have h := Entries.get?_foldl_insert key entries []
  rwa [Entries.get?, Option.or_none] at h

theorem ofList_entries (dict : Dict α) : ofList dict.entries = dict := by
  apply ext_get?
  intro key
  rw [get?_ofList, get?, Entries.get?_eq_findRev? dict.sorted]

theorem eq_empty_of_isEmpty {dict : Dict α} (h : dict.isEmpty = true) : dict = ∅ := by
  obtain ⟨entries, _⟩ := dict
  obtain rfl := List.isEmpty_iff.mp h
  rfl

@[simp] theorem get?_insert_self (dict : Dict α) (key : String) (value : α) :
    (dict.insert key value).get? key = some value := by
  rw [get?_insert, if_pos rfl]

theorem get?_insert_of_ne (dict : Dict α) {key other : String} (value : α) (h : other ≠ key) :
    (dict.insert key value).get? other = dict.get? other := by
  rw [get?_insert, if_neg h]

theorem get?_modify (dict : Dict α) (key other : String) (change : α → α) :
    (dict.modify key change).get? other =
      if other = key then (dict.get? key).map change else dict.get? other := by
  unfold modify
  cases hkey : dict.get? key with
  | some value => rw [get?_insert, Option.map_some]
  | none =>
    by_cases h : other = key
    · rw [if_pos h, h, hkey, Option.map_none]
    · rw [if_neg h]

theorem insert_insert (dict : Dict α) (key : String) (first second : α) :
    (dict.insert key first).insert key second = dict.insert key second := by
  apply ext_get?
  intro other
  simp only [get?_insert]
  split <;> rfl

theorem contains_insert (dict : Dict α) (key other : String) (value : α) :
    (dict.insert key value).contains other = true ↔
      other = key ∨ dict.contains other = true := by
  by_cases h : other = key
  · simp [contains, h]
  · simp [contains, get?_insert_of_ne, h]

theorem contains_modify (dict : Dict α) (key other : String) (change : α → α) :
    (dict.modify key change).contains other = dict.contains other := by
  unfold contains
  rw [get?_modify]
  split
  case isTrue h => rw [h, Option.isSome_map]
  case isFalse => rfl

@[simp] theorem contains_empty (key : String) : (empty : Dict α).contains key = false := rfl

theorem contains_ofList (key : String) (entries : List (String × α)) :
    (ofList entries).contains key = true ↔ ∃ entry ∈ entries, entry.1 = key := by
  simp [contains, get?_ofList]

theorem mem_keys_iff {dict : Dict α} {key : String} :
    key ∈ dict.keys ↔ dict.contains key = true := by
  rw [keys, List.mem_map, contains, Option.isSome_iff_exists]
  constructor
  · rintro ⟨entry, hmem, rfl⟩
    exact ⟨_, Entries.get?_eq_some_of_mem dict.sorted hmem⟩
  · rintro ⟨value, hget⟩
    exact ⟨_, Entries.mem_of_get?_eq_some hget, rfl⟩

/-- Where each key has one entry, a dictionary made from entries has all of them. -/
theorem get?_ofList_eq_some_iff {entries : List (String × α)}
    (h : ∀ entry ∈ entries, ∀ other ∈ entries, entry.1 = other.1 → entry = other) {key : String}
    {value : α} : (ofList entries).get? key = some value ↔ (key, value) ∈ entries := by
  constructor
  · exact fun hget ↦ Entries.mem_of_mem_ofList (Entries.mem_of_get?_eq_some hget)
  · intro hmem
    have hcontains := (contains_ofList key entries).mpr ⟨_, hmem, rfl⟩
    obtain ⟨found, hfound⟩ := Option.isSome_iff_exists.mp hcontains
    have hentry := Entries.mem_of_mem_ofList (Entries.mem_of_get?_eq_some hfound)
    cases h _ hentry _ hmem rfl
    exact hfound

/-! ## Entries of another dictionary -/

/-- Entries with different keys are each combined with what there was under their key. -/
theorem get?_foldl_combine {β : Type} (combine : Option α → β → α) {entries : List (String × β)}
    (h : Entries.Sorted entries) (dict : Dict α) (key : String) :
    (entries.foldl (fun dict entry ↦ dict.insert entry.1 (combine (dict.get? entry.1) entry.2))
        dict).get? key =
      ((Entries.get? key entries).map (combine (dict.get? key))).or (dict.get? key) := by
  induction entries generalizing dict with
  | nil => rfl
  | cons entry rest ih =>
    obtain ⟨hbelow, hrest⟩ := List.pairwise_cons.mp h
    rw [List.foldl_cons, ih hrest, Entries.get?]
    by_cases hkey : key = entry.1
    · -- The key does not come again, so what is entered here stays.
      have hnone : Entries.get? key rest = none :=
        Entries.get?_eq_none_of_forall_lt fun other hother ↦ hkey ▸ hbelow other hother
      rw [hnone, if_pos hkey, hkey, get?_insert_self]
      rfl
    · rw [if_neg hkey, get?_insert_of_ne _ _ hkey]

/-- An entry parts the others into those with smaller keys and those with greater ones. -/
theorem exists_entries_eq_append {dict : Dict α} {key : String} {value : α}
    (h : dict.get? key = some value) :
    ∃ front back, dict.entries = front ++ (key, value) :: back ∧
      (∀ entry ∈ front, entry.1 < key) ∧ ∀ entry ∈ back, key < entry.1 := by
  obtain ⟨front, back, hentries⟩ := List.append_of_mem (Entries.mem_of_get?_eq_some h)
  have hsorted := dict.sorted
  rw [Entries.Sorted, hentries, List.pairwise_append, List.pairwise_cons] at hsorted
  obtain ⟨-, ⟨hback, -⟩, hfront⟩ := hsorted
  exact ⟨front, back, hentries, fun entry hentry ↦ hfront entry hentry _ List.mem_cons_self, hback⟩

/-! ## Changing every value -/

@[simp] theorem keys_map {β : Type} (f : String → α → β) (dict : Dict α) :
    (dict.map f).keys = dict.keys := by
  simp [keys, map]

theorem get?_map {β : Type} (f : String → α → β) (dict : Dict α) (key : String) :
    (dict.map f).get? key = (dict.get? key).map (f key) := by
  obtain ⟨entries, hsorted⟩ := dict
  simp only [get?, map]
  clear hsorted
  induction entries with
  | nil => rfl
  | cons entry rest ih =>
    rw [List.map_cons, Entries.get?, Entries.get?]
    split
    case isTrue hkey => rw [hkey, Option.map_some]
    case isFalse => exact ih

/-! ## Cutting -/

theorem get?_take_or_drop (dict : Dict α) (count : Nat) (key : String) :
    dict.get? key = ((dict.take count).get? key).or ((dict.drop count).get? key) := by
  unfold get? take drop
  rw [← Entries.get?_append, List.take_append_drop]

theorem contains_of_take {dict : Dict α} {count : Nat} {key : String}
    (h : (dict.take count).contains key = true) : dict.contains key = true := by
  rw [contains, get?_take_or_drop dict count, Option.isSome_or, Bool.or_eq_true]
  exact .inl h

theorem contains_of_drop {dict : Dict α} {count : Nat} {key : String}
    (h : (dict.drop count).contains key = true) : dict.contains key = true := by
  rw [contains, get?_take_or_drop dict count, Option.isSome_or, Bool.or_eq_true]
  exact .inr h

theorem exists_mem_of_contains {dict : Dict α} {key : String} (h : dict.contains key = true) :
    ∃ value, (key, value) ∈ dict.entries := by
  obtain ⟨value, hvalue⟩ := Option.isSome_iff_exists.mp h
  exact ⟨value, Entries.mem_of_get?_eq_some hvalue⟩

/-- Keys of the front come before the others. -/
theorem lt_of_contains_take {dict : Dict α} {count : Nat} {key other : String}
    (hkey : (dict.take count).contains key = true)
    (hother : (dict.drop count).contains other = true) : key < other := by
  obtain ⟨value, hmem⟩ := exists_mem_of_contains hkey
  obtain ⟨otherValue, hotherMem⟩ := exists_mem_of_contains hother
  have hsorted := dict.sorted
  rw [Entries.Sorted, ← List.take_append_drop count dict.entries, List.pairwise_append] at hsorted
  exact hsorted.2.2 _ hmem _ hotherMem

end Dict

end ProviderDocs
