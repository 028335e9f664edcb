import ProviderDocs.Proofs.Markdown.ExampleFold

/-!
# Headings above code fences

A heading `#### ` is raised when blank lines only part it from a code fence. The fence is not asked
whether it opens a block, so a line of code such as `#### Setup` is raised as well when it is the
last one of its block. Where no block ends in such a line, exactly the headings that title a code
block are raised.
-/

namespace ProviderDocs

namespace Markdown

/-! ## Places in a list of lines -/

/-- Fences open and close code blocks in turn; the last one before the place opens its block. -/
def IsInside (lines : List String) (i : Nat) : Prop := (lines.take i).countP isFence % 2 = 1

instance (lines : List String) (i : Nat) : Decidable (IsInside lines i) :=
  inferInstanceAs (Decidable (_ = _))

/-- The line at `i` begins with `#### `, and blank lines only part it from the fence at `j`. -/
structure AboveFence (lines : List String) (i j : Nat) : Prop where
  heading : lines[i]?.any (startsWith · "#### ") = true
  before : i < j
  blank : ∀ k, i < k → k < j → lines[k]?.all isBlankLine = true
  fence : lines[j]?.any isFence = true

/-- The heading at the place stands outside of code, right above a fence that opens a block. -/
def TitlesBlock (lines : List String) (i : Nat) : Prop :=
  ¬ IsInside lines i ∧ ∃ j, AboveFence lines i j ∧ ¬ IsInside lines j

/-- The second list of lines is the first one, with the headings at some places raised one level. -/
def RaisesAt (places : Nat → Prop) (lines raised : List String) : Prop :=
  ∀ i, (places i → ∃ title,
      lines[i]? = some ("#### " ++ title) ∧ raised[i]? = some ("### " ++ title)) ∧
    (¬ places i → raised[i]? = lines[i]?)

theorem RaisesAt.congr {places others : Nat → Prop} (h : ∀ i, places i ↔ others i)
    {lines raised : List String} (hraises : RaisesAt places lines raised) :
    RaisesAt others lines raised := by
  intro i
  rw [← h i]
  exact hraises i

/-- A raised heading is another line than before, so the places can be told from the two lists. -/
theorem RaisesAt.iff_ne {places : Nat → Prop} {lines raised : List String}
    (h : RaisesAt places lines raised) (i : Nat) : places i ↔ raised[i]? ≠ lines[i]? := by
  constructor
  · intro hplace heq
    obtain ⟨title, hbefore, hafter⟩ := (h i).1 hplace
    rw [hbefore, hafter, Option.some_inj, ← String.toList_inj, String.toList_append,
      String.toList_append] at heq
    simp at heq
  · intro hne
    exact Classical.byContradiction fun hplace ↦ hne ((h i).2 hplace)

theorem raisesAt_cons {places : Nat → Prop} {line changed : String} {rest others : List String}
    (hline : (places 0 → ∃ title, line = "#### " ++ title ∧ changed = "### " ++ title) ∧
      (¬ places 0 → changed = line))
    (hrest : RaisesAt (fun i ↦ places (i + 1)) rest others) :
    RaisesAt places (line :: rest) (changed :: others) := by
  intro i
  cases i with
  | zero => simpa using hline
  | succ i => simpa using hrest i

/-! ## Headings and the fences below them -/

theorem fenceFollows_iff {lines : List String} :
    fenceFollows lines = true ↔
      ∃ j : Nat, lines[j]?.any isFence = true ∧ ∀ k < j, lines[k]?.all isBlankLine = true := by
  induction lines with
  | nil => simp [fenceFollows]
  | cons line rest ih =>
    rw [fenceFollows, Bool.or_eq_true, Bool.and_eq_true, ih]
    constructor
    · rintro (hfence | ⟨hblank, j, hfence, hbetween⟩)
      · exact ⟨0, by simpa using hfence, fun k hk ↦ absurd hk (Nat.not_lt_zero k)⟩
      · refine ⟨j + 1, by simpa using hfence, fun k hk ↦ ?_⟩
        cases k with
        | zero => simpa using hblank
        | succ k => simpa using hbetween k (Nat.lt_of_succ_lt_succ hk)
    · rintro ⟨j, hfence, hbetween⟩
      cases j with
      | zero => exact .inl (by simpa using hfence)
      | succ j =>
        refine .inr ⟨by simpa using hbetween 0 (Nat.succ_pos j), j, by simpa using hfence,
          fun k hk ↦ ?_⟩
        simpa using hbetween (k + 1) (Nat.succ_lt_succ hk)

theorem exists_aboveFence_zero_iff {line : String} {rest : List String} :
    (∃ j, AboveFence (line :: rest) 0 j) ↔
      startsWith line "#### " = true ∧ fenceFollows rest = true := by
  rw [fenceFollows_iff]
  constructor
  · rintro ⟨j, hheading, hbefore, hblank, hfence⟩
    obtain ⟨j, rfl⟩ := Nat.exists_eq_add_one_of_ne_zero (Nat.ne_zero_of_lt hbefore)
    refine ⟨by simpa using hheading, j, by simpa using hfence, fun k hk ↦ ?_⟩
    simpa using hblank (k + 1) (Nat.succ_pos k) (Nat.succ_lt_succ hk)
  · rintro ⟨hheading, j, hfence, hbetween⟩
    refine ⟨j + 1, by simpa using hheading, Nat.succ_pos j, fun k hlow hhigh ↦ ?_,
      by simpa using hfence⟩
    obtain ⟨k, rfl⟩ := Nat.exists_eq_add_one_of_ne_zero (Nat.ne_zero_of_lt hlow)
    simpa using hbetween k (Nat.lt_of_succ_lt_succ hhigh)

theorem exists_aboveFence_succ_iff {line : String} {rest : List String} {i : Nat} :
    (∃ j, AboveFence (line :: rest) (i + 1) j) ↔ ∃ j, AboveFence rest i j := by
  constructor
  · rintro ⟨j, hheading, hbefore, hblank, hfence⟩
    obtain ⟨j, rfl⟩ := Nat.exists_eq_add_one_of_ne_zero (Nat.ne_zero_of_lt hbefore)
    refine ⟨j, by simpa using hheading, Nat.lt_of_succ_lt_succ hbefore, fun k hlow hhigh ↦ ?_,
      by simpa using hfence⟩
    simpa using hblank (k + 1) (Nat.succ_lt_succ hlow) (Nat.succ_lt_succ hhigh)
  · rintro ⟨j, hheading, hbefore, hblank, hfence⟩
    refine ⟨j + 1, by simpa using hheading, Nat.succ_lt_succ hbefore, fun k hlow hhigh ↦ ?_,
      by simpa using hfence⟩
    obtain ⟨k, rfl⟩ := Nat.exists_eq_add_one_of_ne_zero (Nat.ne_zero_of_lt hlow)
    simpa using hblank k (Nat.lt_of_succ_lt_succ hlow) (Nat.lt_of_succ_lt_succ hhigh)

/-- Headings are raised above fences, whether these open a block or close one. -/
theorem raisesAt_raiseTitles (lines : List String) :
    RaisesAt (fun i ↦ ∃ j, AboveFence lines i j) lines (raiseTitles lines) := by
  induction lines with
  | nil =>
    intro i
    refine ⟨?_, fun _ ↦ rfl⟩
    rintro ⟨j, hheading, -⟩
    simp at hheading
  | cons line rest ih =>
    rw [raiseTitles]
    refine raisesAt_cons ?_ (ih.congr fun i ↦ exists_aboveFence_succ_iff.symm)
    rw [exists_aboveFence_zero_iff]
    cases hline : after? line "#### " with
    | none =>
      have hother := after?_eq_none_iff.mp hline
      exact ⟨fun h ↦ absurd (h.1.symm.trans hother) (by decide), fun _ ↦ rfl⟩
    | some title =>
      obtain rfl := after?_eq_some_iff.mp hline
      have hheading : startsWith ("#### " ++ title) "#### " = true := startsWith_iff.mpr ⟨_, rfl⟩
      cases hfence : fenceFollows rest with
      | true => exact ⟨fun _ ↦ ⟨title, rfl, rfl⟩, fun h ↦ absurd ⟨hheading, rfl⟩ h⟩
      | false => exact ⟨fun h ↦ absurd h.2 Bool.false_ne_true, fun _ ↦ rfl⟩

/-! ## Code blocks -/

theorem isFence_of_heading {line : String} (h : startsWith line "#### " = true) :
    isFence line = false := by
  obtain ⟨title, rfl⟩ := startsWith_iff.mp h
  rw [isFence, startsWith, String.toList_append]
  rfl

/-- No block opens or closes between a heading and the fence below it. -/
theorem AboveFence.isInside_iff {lines : List String} {i j : Nat} (h : AboveFence lines i j) :
    IsInside lines j ↔ IsInside lines i := by
  have hbetween : ((lines.take j).drop i).countP isFence = 0 := by
    rw [List.countP_eq_zero]
    intro line hline
    obtain ⟨n, hn⟩ := List.mem_iff_getElem?.mp hline
    rw [List.getElem?_drop, List.getElem?_take] at hn
    split at hn
    · next hlt =>
      cases n with
      | zero =>
        have hheading : startsWith line "#### " = true := by
          have hline : lines[i]? = some line := hn
          simpa [hline] using h.heading
        rw [isFence_of_heading hheading]
        exact Bool.false_ne_true
      | succ n =>
        have hblank : isBlankLine line = true := by
          simpa [hn] using h.blank (i + (n + 1)) (by omega) hlt
        intro hfence
        exact Bool.false_ne_true ((isBlankLine_of_isFence hfence).symm.trans hblank)
    · cases hn
  have htake : lines.take j = lines.take i ++ (lines.take j).drop i := by
    have hsplit := (List.take_append_drop i (lines.take j)).symm
    rwa [List.take_take, Nat.min_eq_left (Nat.le_of_lt h.before)] at hsplit
  rw [IsInside, IsInside, htake, List.countP_append, hbetween, Nat.add_zero]

/-- Headings above fences are raised, and these are the headings that title a code block exactly
when no block ends, blank lines aside, in a line of code that begins with `#### `. -/
theorem raisesAt_raiseTitles_and_titlesBlock_iff (lines : List String) :
    RaisesAt (fun i ↦ ∃ j, AboveFence lines i j) lines (raiseTitles lines) ∧
      (RaisesAt (TitlesBlock lines) lines (raiseTitles lines) ↔
        ∀ i j, AboveFence lines i j → ¬ IsInside lines i) := by
  have hraised := raisesAt_raiseTitles lines
  refine ⟨hraised, ?_⟩
  constructor
  · intro hblocks i j habove
    have hne := (hraised.iff_ne i).mp ⟨j, habove⟩
    exact ((hblocks.iff_ne i).mpr hne).1
  · intro houtside
    refine hraised.congr fun i ↦ ?_
    constructor
    · rintro ⟨j, habove⟩
      have hi := houtside i j habove
      exact ⟨hi, j, habove, mt habove.isInside_iff.mp hi⟩
    · rintro ⟨-, j, habove, -⟩
      exact ⟨j, habove⟩

/-- A line of code may be raised. -/
theorem not_raisesAt_titlesBlock :
    ¬ ∀ lines, RaisesAt (TitlesBlock lines) lines (raiseTitles lines) := by
  intro hall
  have hinside : IsInside ["```sh", "#### Setup", "```"] 1 := by decide +kernel
  have hkept := (hall ["```sh", "#### Setup", "```"] 1).2 fun h ↦ h.1 hinside
  exact absurd hkept (by decide +kernel)

end Markdown

end ProviderDocs
