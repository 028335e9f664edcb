import ProviderDocs.Proofs.Markdown.ExampleTitle
import ProviderDocs.Proofs.Markdown.SectionEdit

/-!
# Folding example sections again

What folding leaves has one section of examples, with the plain heading. Folded again, it keeps its
place and its text: no heading is left to raise, and there are no examples to add. Only the number
of empty lines right below the heading may change. It becomes one, and from then on nothing changes.
-/

namespace ProviderDocs

namespace Markdown

/-! ## Raised headings -/

theorem startsWith_subheading (title : String) : startsWith ("### " ++ title) "#" = true := by
  rw [startsWith, String.toList_append]
  rfl

/-- A heading is neither a fence nor blank. -/
theorem fenceFollows_heading {line : String} (h : startsWith line "#" = true)
    (rest : List String) : fenceFollows (line :: rest) = false := by
  obtain ⟨title, rfl⟩ := startsWith_iff.mp h
  have hfence : isFence ("#" ++ title) = false := by
    rw [isFence, startsWith, String.toList_append]
    rfl
  rw [fenceFollows, hfence, isBlankLine_append]
  rfl

theorem fenceFollows_raiseTitles (lines : List String) :
    fenceFollows (raiseTitles lines) = fenceFollows lines := by
  induction lines with
  | nil => rfl
  | cons line rest ih =>
    rw [raiseTitles]
    cases htitle : after? line "#### " with
    | none => rw [fenceFollows, fenceFollows, ih]
    | some title =>
      obtain rfl := after?_eq_some_iff.mp htitle
      have hheading : startsWith ("#### " ++ title) "#" = true := by
        rw [startsWith, String.toList_append]
        rfl
      rw [fenceFollows_heading hheading]
      cases fenceFollows rest with
      | true => exact fenceFollows_heading (startsWith_subheading title) _
      | false => exact fenceFollows_heading hheading _

theorem raiseTitles_raiseTitles (lines : List String) :
    raiseTitles (raiseTitles lines) = raiseTitles lines := by
  induction lines with
  | nil => rfl
  | cons line rest ih =>
    rw [raiseTitles]
    cases htitle : after? line "#### " with
    | none => rw [raiseTitles, htitle, ih]
    | some title =>
      cases hfence : fenceFollows rest with
      | true =>
        simp only [if_true]
        rw [raiseTitles_subheading, ih]
      | false =>
        simp only [Bool.false_eq_true, if_false]
        rw [raiseTitles, htitle, fenceFollows_raiseTitles, hfence, ih]
        rfl

theorem raiseTitles_cons_empty (rest : List String) :
    raiseTitles ("" :: rest) = "" :: raiseTitles rest := by
  rw [raiseTitles]
  rfl

theorem raiseTitles_replicate_append (count : Nat) (rest : List String) :
    raiseTitles (List.replicate count "" ++ rest) =
      List.replicate count "" ++ raiseTitles rest := by
  induction count with
  | zero => rfl
  | succ count ih =>
    rw [List.replicate_succ, List.cons_append, raiseTitles_cons_empty, ih, List.cons_append]

/-! ## Empty lines below the heading -/

/-- The folded section, with some empty lines between its heading and the text below. -/
def usageSection (spacing : Nat) (text : List String) : List String :=
  "## Example Usage" :: (List.replicate spacing "" ++ text)

/-- The lines begin with text, if there are any. -/
def BeginsWithText (lines : List String) : Prop := ∀ line ∈ lines.head?, isBlankLine line = false

/-- Empty lines stand in front of the text. -/
def HasSpacing (lines : List String) : Prop :=
  ∃ spacing text, lines = List.replicate spacing "" ++ text ∧ BeginsWithText text

theorem hasSpacing_of_beginsWithText {lines : List String} (h : BeginsWithText lines) :
    HasSpacing lines := ⟨0, lines, rfl, h⟩

theorem hasSpacing_nil : HasSpacing [] :=
  hasSpacing_of_beginsWithText fun line hline ↦ absurd hline (Option.not_mem_none line)

theorem HasSpacing.cons_empty {lines : List String} (h : HasSpacing lines) :
    HasSpacing ("" :: lines) := by
  obtain ⟨spacing, text, rfl, htext⟩ := h
  exact ⟨spacing + 1, text, rfl, htext⟩

theorem beginsWithText_dropWhile (lines : List String) :
    BeginsWithText (lines.dropWhile isBlankLine) := by
  intro line hline
  have hhead := List.head?_dropWhile_not isBlankLine lines
  rw [Option.mem_def.mp hline] at hhead
  simpa using hhead

theorem BeginsWithText.append {lines more : List String} (h : BeginsWithText lines)
    (hmore : HasSpacing more) : HasSpacing (lines ++ more) := by
  cases lines with
  | nil => exact hmore
  | cons line rest => exact hasSpacing_of_beginsWithText h

theorem HasSpacing.append {lines more : List String} (h : HasSpacing lines)
    (hmore : HasSpacing more) : HasSpacing (lines ++ more) := by
  obtain ⟨spacing, text, rfl, htext⟩ := h
  obtain ⟨others, rest, heq, hrest⟩ := htext.append hmore
  refine ⟨spacing + others, rest, ?_, hrest⟩
  rw [List.append_assoc, heq, ← List.append_assoc, List.replicate_append_replicate]

theorem hasSpacing_addedLines (sectionLines : List String) :
    HasSpacing (addedLines sectionLines) := by
  unfold addedLines
  split
  case h_1 => exact hasSpacing_nil
  case h_2 heading body =>
    split
    case h_1 name hname =>
      have htitle : BeginsWithText (exampleTitle heading name :: body) := by
        rintro line ⟨⟩
        exact isBlankLine_exampleTitle heading name
      split
      · exact hasSpacing_of_beginsWithText htitle
      · exact (hasSpacing_of_beginsWithText htitle).cons_empty
    case h_2 => exact hasSpacing_nil

theorem hasSpacing_flatMap_addedLines (sections : List (List String)) :
    HasSpacing (sections.flatMap addedLines) := by
  induction sections with
  | nil => exact hasSpacing_nil
  | cons sectionLines rest ih =>
    rw [List.flatMap_cons]
    exact (hasSpacing_addedLines sectionLines).append ih

theorem hasSpacing_openingLines (place : List String) : HasSpacing (openingLines place) := by
  unfold openingLines
  split
  · exact (hasSpacing_of_beginsWithText (beginsWithText_dropWhile _)).cons_empty
  · exact hasSpacing_addedLines place

/-- Raising a heading leaves text. -/
theorem BeginsWithText.raiseTitles {lines : List String} (h : BeginsWithText lines) :
    BeginsWithText (raiseTitles lines) := by
  cases lines with
  | nil => exact h
  | cons line rest =>
    have hline : isBlankLine line = false := h line rfl
    rintro raised hraised
    rw [Markdown.raiseTitles, List.head?_cons, Option.mem_some_iff] at hraised
    rw [← hraised]
    cases htitle : after? line "#### " with
    | none => exact hline
    | some title =>
      cases fenceFollows rest with
      | true =>
        simp only [if_true, isBlankLine_append]
        rfl
      | false => exact hline

/-! ## Folding again -/

/-- The second list of sections is the first one, with one empty line below the heading of the
section of examples, if there is one. -/
inductive Respaced : List (List String) → List (List String) → Prop
  | others {sections : List (List String)}
      (others : ∀ sectionLines ∈ sections, isExampleSection sectionLines = false) :
      Respaced sections sections
  | folded {before after : List (List String)} {text : List String} (spacing : Nat)
      (othersBefore : ∀ sectionLines ∈ before, isExampleSection sectionLines = false)
      (othersAfter : ∀ sectionLines ∈ after, isExampleSection sectionLines = false)
      (begins : BeginsWithText text) :
      Respaced (before ++ usageSection spacing text :: after)
        (before ++ usageSection 1 text :: after)

theorem otherSections_eq_self {sections : List (List String)}
    (h : ∀ sectionLines ∈ sections, isExampleSection sectionLines = false) :
    otherSections sections = sections := by
  rw [otherSections, List.filter_eq_self]
  intro sectionLines hmem
  rw [h sectionLines hmem, Bool.not_false]

theorem not_isExampleSection_of_mem_otherSections {sections : List (List String)} :
    ∀ sectionLines ∈ otherSections sections, isExampleSection sectionLines = false := by
  intro sectionLines hmem
  simpa using (List.mem_filter.mp hmem).2

/-- One section with the plain heading among others gets one empty line below its heading. -/
theorem foldExamples_usageSection {before after : List (List String)} {text : List String}
    (hbefore : ∀ sectionLines ∈ before, isExampleSection sectionLines = false)
    (hafter : ∀ sectionLines ∈ after, isExampleSection sectionLines = false)
    (hbegins : BeginsWithText text) (hraised : raiseTitles text = text) (spacing : Nat) :
    foldExamples (before ++ usageSection spacing text :: after) =
      before ++ usageSection 1 text :: after := by
  have hplain : isPlainSection (usageSection spacing text) = true := by
    rw [isPlainSection, usageSection, List.head?_cons]
    decide +kernel
  have hplace : FoldsAt before (usageSection spacing text) after :=
    .plain hplain fun other hother ↦ isPlainSection_of_not_example (hbefore other hother)
  have hadded : (before ++ after).flatMap addedLines = [] :=
    List.flatMap_eq_nil_iff.mpr fun other hother ↦ addedLines_of_not_example
      (List.forall_mem_append.mpr ⟨hbefore, hafter⟩ other hother)
  have hopening : openingLines (usageSection spacing text) = "" :: text := by
    have htext : text.dropWhile isBlankLine = text := by
      cases text with
      | nil => rfl
      | cons line rest => exact List.dropWhile_cons_of_neg (by rw [hbegins line rfl]; decide)
    have hempty : ∀ line ∈ List.replicate spacing "", isBlankLine line = true := by
      intro line hline
      rw [List.eq_of_mem_replicate hline]
      rfl
    rw [openingLines, if_pos hplain, usageSection, List.tail_cons,
      List.dropWhile_append_of_pos hempty, htext]
  rw [foldExamples_of_foldsAt hplace, hadded, hopening, List.append_nil, raiseTitles_cons_empty,
    hraised, otherSections_eq_self hbefore, otherSections_eq_self hafter]
  rfl

/-- Folding leaves no example section, or one with its headings raised. -/
theorem foldExamples_cases (sections : List (List String)) :
    (∀ sectionLines ∈ foldExamples sections, isExampleSection sectionLines = false) ∨
      ∃ before after spacing text, foldExamples sections =
          before ++ usageSection spacing text :: after ∧
        (∀ sectionLines ∈ before, isExampleSection sectionLines = false) ∧
        (∀ sectionLines ∈ after, isExampleSection sectionLines = false) ∧
        BeginsWithText text ∧ raiseTitles text = text := by
  rcases foldsAt_or_others sections with ⟨before, place, after, rfl, hfolds⟩ | hothers
  · obtain ⟨spacing, text, hlines, hbegins⟩ := (hasSpacing_openingLines place).append
      (hasSpacing_flatMap_addedLines (before ++ after))
    refine .inr ⟨otherSections before, otherSections after, spacing, raiseTitles text, ?_,
      not_isExampleSection_of_mem_otherSections, not_isExampleSection_of_mem_otherSections,
      hbegins.raiseTitles, raiseTitles_raiseTitles text⟩
    rw [foldExamples_of_foldsAt hfolds, hlines, raiseTitles_replicate_append, usageSection]
  · exact .inl (by rwa [foldExamples_of_not_example hothers])

/-- Folding what was folded leaves one empty line below the heading of examples and all other lines
as they are. Folding it once more changes nothing. -/
theorem respaced_foldExamples_foldExamples (sections : List (List String)) :
    Respaced (foldExamples sections) (foldExamples (foldExamples sections)) ∧
      foldExamples (foldExamples (foldExamples sections)) =
        foldExamples (foldExamples sections) := by
  rcases foldExamples_cases sections with
    hothers | ⟨before, after, spacing, text, heq, hbefore, hafter, hbegins, hraised⟩
  · have hsame := foldExamples_of_not_example hothers
    rw [hsame, hsame]
    exact ⟨.others hothers, rfl⟩
  · have hagain (spacing : Nat) := foldExamples_usageSection hbefore hafter hbegins hraised spacing
    rw [heq, hagain spacing, hagain 1]
    exact ⟨.folded spacing hbefore hafter hbegins, rfl⟩

/-- At first the title follows the heading at once. -/
example : foldExamples [["## Example Usage - Basic"]] = [usageSection 0 ["### Basic"]] ∧
    foldExamples [usageSection 0 ["### Basic"]] = [usageSection 1 ["### Basic"]] := by
  decide +kernel

end Markdown

end ProviderDocs
