/-!
# Dictionaries in key order

A dictionary lists its entries by strictly increasing key, so two dictionaries with the same
look-ups are equal (`Dict.ext_get?`). Keys compare by code point, which is also the order of
their UTF-8 bytes.

The list operations come first, since overrides that nest in themselves hold their entries as
plain lists.
-/

namespace ProviderDocs

/-! ## Entry lists -/

namespace Entries

variable {α : Type}

/-- Entries with strictly increasing keys. -/
def Sorted (entries : List (String × α)) : Prop :=
  entries.Pairwise fun a b ↦ a.1 < b.1

def get? (key : String) : List (String × α) → Option α
  | [] => none
  | (k, value) :: rest => if key = k then some value else get? key rest

/-- Puts an entry in its place; an entry with the same key is replaced. -/
def insert (key : String) (value : α) : List (String × α) → List (String × α)
  | [] => [(key, value)]
  | (k, v) :: rest =>
    if key < k then (key, value) :: (k, v) :: rest
    else if key = k then (key, value) :: rest
    else (k, v) :: insert key value rest

/-- Inserts one entry after the other, so the last of several with one key stays. -/
def ofList (entries : List (String × α)) : List (String × α) :=
  entries.foldl (fun sorted entry ↦ insert entry.1 entry.2 sorted) []

theorem lt_of_not_lt_of_ne {a b : String} (hlt : ¬ a < b) (hne : a ≠ b) : b < a := by
  by_cases h : b < a
  · exact h
  · exact absurd (String.le_antisymm (String.not_lt.1 h) (String.not_lt.1 hlt)) hne

theorem mem_insert {key : String} {value : α} {entry : String × α}
    {entries : List (String × α)} (h : entry ∈ insert key value entries) :
    entry = (key, value) ∨ entry ∈ entries := by
  induction entries with
  | nil => simpa [insert] using h
  | cons head rest ih =>
    obtain ⟨k, v⟩ := head
    rw [insert] at h
    split at h
    · simpa using h
    · split at h
      · rcases List.mem_cons.1 h with rfl | h
        · exact .inl rfl
        · exact .inr (List.mem_cons_of_mem _ h)
      · rcases List.mem_cons.1 h with rfl | h
        · exact .inr (List.mem_cons_self ..)
        · exact (ih h).imp id (List.mem_cons_of_mem _)

theorem Sorted.insert {entries : List (String × α)} (h : Sorted entries) (key : String)
    (value : α) : Sorted (insert key value entries) := by
  induction entries with
  | nil => simp [Sorted, Entries.insert]
  | cons head rest ih =>
    obtain ⟨k, v⟩ := head
    have hrest : Sorted rest := List.Pairwise.of_cons h
    have hhead : ∀ entry ∈ rest, k < entry.1 := (List.pairwise_cons.1 h).1
    rw [Sorted, Entries.insert]
    split
    case isTrue hlt =>
      refine List.pairwise_cons.2 ⟨fun entry hentry ↦ ?_, h⟩
      rcases List.mem_cons.1 hentry with rfl | hentry
      · exact hlt
      · exact String.lt_trans hlt (hhead entry hentry)
    case isFalse hlt =>
      split
      case isTrue heq =>
        exact List.pairwise_cons.2 ⟨fun entry hentry ↦ heq ▸ hhead entry hentry, hrest⟩
      case isFalse hne =>
        refine List.pairwise_cons.2 ⟨fun entry hentry ↦ ?_, ih hrest⟩
        rcases mem_insert hentry with rfl | hentry
        · exact lt_of_not_lt_of_ne hlt hne
        · exact hhead entry hentry

theorem sorted_ofList (entries : List (String × α)) : Sorted (ofList entries) := by
  suffices h : ∀ start : List (String × α), Sorted start →
      Sorted (entries.foldl (fun sorted entry ↦ insert entry.1 entry.2 sorted) start) from
    h [] List.Pairwise.nil
  induction entries with
  | nil => exact fun start hstart ↦ hstart
  | cons entry rest ih => exact fun start hstart ↦ ih _ (hstart.insert entry.1 entry.2)

theorem get?_insert (key other : String) (value : α) (entries : List (String × α)) :
    get? other (insert key value entries) =
      if other = key then some value else get? other entries := by
  induction entries with
  | nil => simp [insert, get?]
  | cons head rest ih =>
    obtain ⟨k, v⟩ := head
    rw [insert]
    split
    · simp [get?]
    · split
      case isTrue heq => subst heq; simp only [get?]; split <;> rfl
      case isFalse hne =>
        simp only [get?, ih]
        split
        case isTrue heq => subst heq; simp [Ne.symm hne]
        case isFalse => rfl

theorem get?_eq_none_of_forall_lt {key : String} {entries : List (String × α)}
    (h : ∀ entry ∈ entries, key < entry.1) : get? key entries = none := by
  induction entries with
  | nil => rfl
  | cons head rest ih =>
    have hne : key ≠ head.1 := fun heq ↦
      String.lt_irrefl head.1 (heq ▸ h head (List.mem_cons_self ..))
    rw [get?, if_neg hne]
    exact ih fun entry hentry ↦ h entry (List.mem_cons_of_mem _ hentry)

/-- Sorted lists with the same look-ups are equal. -/
theorem eq_of_get?_eq {left right : List (String × α)} (hleft : Sorted left)
    (hright : Sorted right) (h : ∀ key, get? key left = get? key right) : left = right := by
  induction left generalizing right with
  | nil =>
    cases right with
    | nil => rfl
    | cons head rest => simpa [get?] using h head.1
  | cons head rest ih =>
    obtain ⟨k, v⟩ := head
    cases right with
    | nil => simpa [get?] using h k
    | cons head' rest' =>
      obtain ⟨k', v'⟩ := head'
      obtain ⟨hlow, hrest⟩ := List.pairwise_cons.1 hleft
      obtain ⟨hlow', hrest'⟩ := List.pairwise_cons.1 hright
      have hkey : k = k' := by
        by_cases hlt : k < k'
        · have hnone : get? k ((k', v') :: rest') = none := get?_eq_none_of_forall_lt
            fun entry hentry ↦ (List.mem_cons.1 hentry).elim (fun e ↦ e ▸ hlt)
              fun e ↦ String.lt_trans hlt (hlow' entry e)
          have hk := h k
          rw [hnone] at hk
          simp [get?] at hk
        · by_cases hgt : k' < k
          · have hnone : get? k' ((k, v) :: rest) = none := get?_eq_none_of_forall_lt
              fun entry hentry ↦ (List.mem_cons.1 hentry).elim (fun e ↦ e ▸ hgt)
                fun e ↦ String.lt_trans hgt (hlow entry e)
            have hk := h k'
            rw [hnone] at hk
            simp [get?] at hk
          · exact String.le_antisymm (String.not_lt.1 hgt) (String.not_lt.1 hlt)
      subst hkey
      have hvalue : v = v' := by simpa [get?] using h k
      subst hvalue
      refine congrArg _ (ih hrest hrest' fun key ↦ ?_)
      by_cases heq : key = k
      · subst heq
        rw [get?_eq_none_of_forall_lt hlow, get?_eq_none_of_forall_lt hlow']
      · simpa [get?, heq] using h key

end Entries

/-! ## Dictionaries -/

structure Dict (α : Type) where
  entries : List (String × α)
  sorted : Entries.Sorted entries

namespace Dict

variable {α β : Type}

def empty : Dict α := ⟨[], List.Pairwise.nil⟩

instance : EmptyCollection (Dict α) := ⟨empty⟩

instance : Inhabited (Dict α) := ⟨empty⟩

instance [DecidableEq α] : DecidableEq (Dict α) := fun a b ↦
  decidable_of_iff (a.entries = b.entries)
    ⟨fun h ↦ by cases a; cases b; simp_all, fun h ↦ h ▸ rfl⟩

def get? (dict : Dict α) (key : String) : Option α := Entries.get? key dict.entries

def contains (dict : Dict α) (key : String) : Bool := (dict.get? key).isSome

def insert (dict : Dict α) (key : String) (value : α) : Dict α :=
  ⟨Entries.insert key value dict.entries, dict.sorted.insert key value⟩

/-- The last of several entries with one key stays. -/
def ofList (entries : List (String × α)) : Dict α :=
  ⟨Entries.ofList entries, Entries.sorted_ofList entries⟩

def keys (dict : Dict α) : List String := dict.entries.map (·.1)

def values (dict : Dict α) : List α := dict.entries.map (·.2)

def size (dict : Dict α) : Nat := dict.entries.length

def isEmpty (dict : Dict α) : Bool := dict.entries.isEmpty

/-- Changes the value of a key that is present. -/
def modify (dict : Dict α) (key : String) (change : α → α) : Dict α :=
  match dict.get? key with
  | some value => dict.insert key (change value)
  | none => dict

def map (f : String → α → β) (dict : Dict α) : Dict β where
  entries := dict.entries.map fun entry ↦ (entry.1, f entry.1 entry.2)
  sorted := by simpa [Entries.Sorted, List.pairwise_map] using dict.sorted

/-- The first `count` entries. -/
def take (dict : Dict α) (count : Nat) : Dict α :=
  ⟨dict.entries.take count, List.Pairwise.sublist (List.take_sublist ..) dict.sorted⟩

/-- The entries after the first `count`. -/
def drop (dict : Dict α) (count : Nat) : Dict α :=
  ⟨dict.entries.drop count, List.Pairwise.sublist (List.drop_sublist ..) dict.sorted⟩

@[simp] theorem get?_empty (key : String) : (empty : Dict α).get? key = none := rfl

theorem get?_insert (dict : Dict α) (key other : String) (value : α) :
    (dict.insert key value).get? other = if other = key then some value else dict.get? other :=
  Entries.get?_insert ..

theorem ext_get? {a b : Dict α} (h : ∀ key, a.get? key = b.get? key) : a = b := by
  have hentries := Entries.eq_of_get?_eq a.sorted b.sorted h
  cases a; cases b
  simpa using hentries

end Dict

end ProviderDocs
