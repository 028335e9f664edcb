import Mathlib.Data.Nat.Log
import ProviderDocs.Proofs.Conversion.Repro
import ProviderDocs.Proofs.Conversion.Run

/-!
# Where narrowing ends

Suppose that a converter fails on a batch exactly when some culprit is in it. Narrowing keeps the
first culprit: a half that fails holds a culprit, so it holds the first one, and when the first
half converts, all culprits are in the second. Each call halves what is left, so the number of
calls is logarithmic.
-/

namespace ProviderDocs

namespace Batch

/-- The first culprit in key order, with its text. -/
structure IsFirstCulprit (culprits : String → Prop) (examples : Examples) (id hcl : String) :
    Prop where
  get? : examples.get? id = some hcl
  culprit : culprits id
  le : ∀ other, culprits other → examples.contains other = true → id ≤ other

/-- Calls with these mappings fail on the batches with a culprit and on no others. -/
def Behavior.FailsOn {σ : Type} (behavior : Behavior σ) (mappings : List Provider)
    (culprits : String → Prop) : Prop :=
  ∀ examples before, (∃ error, (behavior examples mappings before).1 = .error error) ↔
    ∃ id, culprits id ∧ examples.contains id = true

def single (id hcl : String) : Examples := (∅ : Examples).insert id hcl

section Culprit

variable {culprits : String → Prop} {examples : Examples} {id hcl : String}

theorem IsFirstCulprit.contains (h : IsFirstCulprit culprits examples id hcl) :
    examples.contains id = true := by
  rw [Dict.contains, h.get?]
  rfl

theorem exists_isFirstCulprit (h : ∃ id, culprits id ∧ examples.contains id = true) :
    ∃ id hcl, IsFirstCulprit culprits examples id hcl := by
  classical
  obtain ⟨id, hculprit, hcontains⟩ := h
  obtain ⟨hcl, hmem⟩ := Dict.exists_mem_of_contains hcontains
  have hfind : (examples.entries.find? fun entry ↦ decide (culprits entry.1)).isSome := by
    rw [List.find?_isSome]
    exact ⟨_, hmem, decide_eq_true hculprit⟩
  obtain ⟨⟨first, text⟩, hfirst⟩ := Option.isSome_iff_exists.mp hfind
  obtain ⟨hfirstCulprit, before, after, heq, hbefore⟩ := List.find?_eq_some_iff_append.mp hfirst
  have hsorted := examples.sorted
  rw [Entries.Sorted, heq, List.pairwise_append] at hsorted
  refine ⟨first, text, ?_, by simpa using hfirstCulprit, ?_⟩
  · apply Entries.get?_eq_some_of_mem examples.sorted
    rw [heq]
    exact List.mem_append_right _ List.mem_cons_self
  · intro other hother hcontains
    obtain ⟨value, hmem⟩ := Dict.exists_mem_of_contains hcontains
    rw [heq, List.mem_append, List.mem_cons] at hmem
    rcases hmem with hmem | hmem | hmem
    · exact absurd hother (by simpa using hbefore _ hmem)
    · cases hmem
      exact String.le_refl _
    · have hlt := (List.pairwise_cons.mp hsorted.2.1).1 _ hmem
      exact String.not_lt.mp fun h ↦ String.lt_irrefl _ (String.lt_trans hlt h)

/-- A front that holds some culprit holds the first one. -/
theorem IsFirstCulprit.take (h : IsFirstCulprit culprits examples id hcl) {count : Nat}
    (hmeets : ∃ id, culprits id ∧ (examples.take count).contains id = true) :
    IsFirstCulprit culprits (examples.take count) id hcl where
  get? := by
    obtain ⟨other, hother, hcontains⟩ := hmeets
    have hget := h.get?
    rw [Dict.get?_take_or_drop examples count] at hget
    cases hfront : (examples.take count).get? id with
    | some text => simpa [hfront] using hget
    | none =>
      rw [hfront, Option.none_or] at hget
      have hlt := Dict.lt_of_contains_take hcontains (by rw [Dict.contains, hget]; rfl)
      exact absurd (h.le other hother (Dict.contains_of_take hcontains)) (String.not_le.mpr hlt)
  culprit := h.culprit
  le other hother hcontains := h.le other hother (Dict.contains_of_take hcontains)

/-- When the front holds no culprit, the first one is in the rest. -/
theorem IsFirstCulprit.drop (h : IsFirstCulprit culprits examples id hcl) {count : Nat}
    (hmeets : ¬ ∃ id, culprits id ∧ (examples.take count).contains id = true) :
    IsFirstCulprit culprits (examples.drop count) id hcl where
  get? := by
    have hget := h.get?
    rw [Dict.get?_take_or_drop examples count] at hget
    cases hfront : (examples.take count).get? id with
    | some text =>
      exact absurd ⟨id, h.culprit, by rw [Dict.contains, hfront]; rfl⟩ hmeets
    | none => rwa [hfront, Option.none_or] at hget
  culprit := h.culprit
  le other hother hcontains := h.le other hother (Dict.contains_of_drop hcontains)

theorem IsFirstCulprit.eq_single (h : IsFirstCulprit culprits examples id hcl)
    (hsize : examples.size < 2) : examples = single id hcl := by
  have hget := h.get?
  obtain ⟨entries, hsorted⟩ := examples
  cases entries with
  | nil => cases hget
  | cons entry rest =>
    obtain rfl : rest = [] := by
      apply List.eq_nil_of_length_eq_zero
      simp only [Dict.size, List.length_cons] at hsize
      omega
    rw [Dict.get?, Entries.get?] at hget
    split at hget
    case isTrue hid =>
      cases hget
      subst hid
      rfl
    case isFalse => cases hget

end Culprit

theorem size_inHalves (examples : Examples) :
    (inHalves examples).1.size = examples.size / 2 ∧
      (inHalves examples).2.size = examples.size - examples.size / 2 := by
  constructor
  · rw [inHalves, Dict.size, Dict.take, List.length_take]
    exact Nat.min_eq_left (Nat.div_le_self ..)
  · rw [inHalves, Dict.size, Dict.drop, List.length_drop]
    rfl

/-- A half, even the larger one, needs one call less. -/
theorem clog_half_lt {size half : Nat} (hsize : 2 ≤ size) (hhalf : half ≤ size - size / 2) :
    Nat.clog 2 half + 1 ≤ Nat.clog 2 size := by
  have hmono : Nat.clog 2 half ≤ Nat.clog 2 ((size + 2 - 1) / 2) := by
    apply Nat.clog_mono_right
    omega
  calc
    Nat.clog 2 half + 1 ≤ Nat.clog 2 ((size + 2 - 1) / 2) + 1 := Nat.succ_le_succ hmono
    _ = Nat.clog 2 size := (Nat.clog_of_two_le Nat.one_lt_two hsize).symm

section Narrowing

variable {σ : Type} {behavior : Behavior σ} {mappings : List Provider}
  {culprits : String → Prop} {examples : Examples} {id hcl : String}

/-- One call leaves a half to go on with, which has the same first culprit. -/
theorem exists_narrow_eq_half (hfails : behavior.FailsOn mappings culprits)
    (hfirst : IsFirstCulprit culprits examples id hcl) (hsize : 2 ≤ examples.size)
    (isConfirmed : Bool) (world : World σ) :
    ∃ half isHalfConfirmed, IsFirstCulprit culprits half id hcl ∧
      half.size ≤ examples.size - examples.size / 2 ∧
      (narrow behavior.converter mappings examples isConfirmed).run world =
        (narrow behavior.converter mappings half isHalfConfirmed).run
          (behavior.called (inHalves examples).1 mappings world) := by
  obtain ⟨hfront, hback⟩ := size_inHalves examples
  have hmeets := hfails (inHalves examples).1 (world.state, world.files)
  rw [narrow_of_le_size hsize]
  cases hanswer : behavior.answer (inHalves examples).1 mappings world with
  | error error =>
    have hhalf : IsFirstCulprit culprits (inHalves examples).1 id hcl :=
      hfirst.take (hmeets.mp ⟨error, hanswer⟩)
    exact ⟨(inHalves examples).1, true, hhalf, by omega, rfl⟩
  | ok answer =>
    have hnone : ¬ ∃ id, culprits id ∧ (inHalves examples).1.contains id = true := by
      rw [← hmeets]
      rintro ⟨error, herror⟩
      exact absurd (hanswer.symm.trans herror) (fun h ↦ nomatch h)
    exact ⟨(inHalves examples).2, false, hfirst.drop hnone, hback.le, rfl⟩

/-- Narrowing ends at the first culprit, after logarithmically many calls. -/
theorem narrow_eq_single (hfails : behavior.FailsOn mappings culprits)
    (hfirst : IsFirstCulprit culprits examples id hcl) (isConfirmed : Bool) (world : World σ) :
    ((narrow behavior.converter mappings examples isConfirmed).run world).1.examples =
        single id hcl ∧
      ∃ calls, ((narrow behavior.converter mappings examples isConfirmed).run world).2.calls =
        world.calls ++ calls ∧ calls.length ≤ Nat.clog 2 examples.size := by
  induction hsize : examples.size using Nat.strongRecOn generalizing examples isConfirmed world with
  | ind size ih =>
    subst hsize
    rcases Nat.lt_or_ge examples.size 2 with hsmall | hlarge
    · rw [narrow_of_size_lt hsmall]
      exact ⟨hfirst.eq_single hsmall, [], (List.append_nil _).symm, Nat.zero_le _⟩
    · obtain ⟨half, isHalfConfirmed, hhalf, hle, hrun⟩ :=
        exists_narrow_eq_half hfails hfirst hlarge isConfirmed world
      obtain ⟨hsingle, calls, hcalls, hlength⟩ := ih half.size (by omega) hhalf isHalfConfirmed
        (behavior.called (inHalves examples).1 mappings world) rfl
      rw [hrun]
      refine ⟨hsingle, (inHalves examples).1 :: calls, ?_, ?_⟩
      · rw [hcalls, Behavior.called, List.append_assoc, List.singleton_append]
      · calc
          ((inHalves examples).1 :: calls).length = calls.length + 1 := List.length_cons
          _ ≤ Nat.clog 2 half.size + 1 := by omega
          _ ≤ Nat.clog 2 examples.size := clog_half_lt hlarge hle

end Narrowing

end Batch

end ProviderDocs
