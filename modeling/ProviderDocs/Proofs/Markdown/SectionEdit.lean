import ProviderDocs.Markdown.Document
import ProviderDocs.Proofs.Cleanup.LinkTarget
import ProviderDocs.Proofs.Cleanup.Loss
import ProviderDocs.Proofs.Markdown.ExampleFold
import ProviderDocs.Proofs.Markdown.Section

/-!
# Editing a document

A document is given by its lines, and one of its sections is changed or left out. A section that
holds no examples keeps its place when example sections are folded, whatever the sections around it.
The body of a plain example section ends up in the folded section and nowhere else.
-/

namespace ProviderDocs

namespace Markdown

/-! ## Documents by their lines -/

/-- Lines of a document whose line ends are line feeds, and without markers. -/
structure AreCleanLines (lines : List String) : Prop where
  areLines : AreLines lines
  noReturn : ∀ line ∈ lines, contains line "\r" = false
  noMarker : ∀ line ∈ lines, contains line generatorMarker = false

theorem AreCleanLines.of_subset {lines more : List String} (h : AreCleanLines more)
    (hsubset : lines ⊆ more) : AreCleanLines lines where
  areLines := h.areLines.of_subset hsubset
  noReturn := fun line hline ↦ h.noReturn line (hsubset hline)
  noMarker := fun line hline ↦ h.noMarker line (hsubset hline)

theorem withoutMarkers_joinLines {lines : List String} (h : AreCleanLines lines) :
    withoutMarkers (joinLines lines) = joinLines lines := by
  have hreturn : contains (joinLines lines) "\r" = false :=
    contains_joinLines (by decide) (by decide) h.noReturn
  have hends : contains (joinLines lines) "\r\n" = false := by
    rw [Bool.eq_false_iff, ne_eq, contains_iff] at hreturn ⊢
    rintro ⟨front, behind, htext⟩
    exact hreturn ⟨front, '\n' :: behind, by simpa using htext⟩
  have hmarker : contains (joinLines lines) generatorMarker = false :=
    contains_joinLines (by decide) (by decide) h.noMarker
  rw [withoutMarkers, replaced_eq_self hends, replaced_eq_self hmarker]

theorem sectionsOf_joinLines {lines : List String} (hne : lines ≠ []) (h : AreLines lines) :
    sectionsOf (joinLines lines) = foldExamples (sectionize "## " lines) := by
  rw [sectionsOf, sectionizeText, splitLines_joinLines hne h]

/-- Lines that may stand below a heading: none opens another section, and none defines a footer
link that references can name. -/
structure IsSectionBody (body : List String) : Prop where
  noHeading : ∀ line ∈ body, startsWith line "## " = false
  noLinks : ∀ line ∈ body, Cleanup.isNumberedLine line = false

/-- What cleanup makes of a reading. -/
def Reading.cleaned (reading : Reading) (context : Cleanup.Context) : ParsedDoc :=
  let cleaned := Cleanup.cleanDoc context reading.doc reading.stats
  { doc := cleaned.doc
    stats := if cleaned.elided then cleaned.stats.warn else cleaned.stats
    elided := cleaned.elided }

theorem parse_eq_cleaned {document text : String} (h : withoutMarkers document = text)
    (provider : Provider) (language : OutputLanguage) (mapping : Option EntityMapping) :
    parse provider language mapping document =
      (readDocument mapping text).cleaned ⟨language, provider, Cleanup.linkTargets text⟩ := by
  rw [parse, h, Reading.cleaned]

theorem Reading.cleaned_congr {links others : Dict String} (h : Cleanup.SameTargets links others)
    (reading : Reading) (language : OutputLanguage) (provider : Provider) :
    reading.cleaned ⟨language, provider, links⟩ = reading.cleaned ⟨language, provider, others⟩ := by
  rw [cleaned, cleaned, Cleanup.cleanDoc_congr (Cleanup.cleanText?_congr h _ _)]

/-! ## The place of the folded section -/

/-- The folded section stands where the first plain one stood, or else the first one with
examples. -/
inductive FoldsAt (before : List (List String)) (place : List String)
    (after : List (List String)) : Prop
  | plain (isPlain : isPlainSection place = true)
      (isFirst : ∀ other ∈ before, isPlainSection other = false)
  | named (isExample : isExampleSection place = true)
      (isFirst : ∀ other ∈ before, isExampleSection other = false)
      (noPlain : ∀ other ∈ place :: after, isPlainSection other = false)

/-- How the folded section begins below its heading. -/
def openingLines (place : List String) : List String :=
  if isPlainSection place then "" :: place.tail.dropWhile isBlankLine else addedLines place

theorem addedLines_of_not_example {sectionLines : List String}
    (h : isExampleSection sectionLines = false) : addedLines sectionLines = [] := by
  cases sectionLines with
  | nil => rfl
  | cons heading body =>
    rw [isExampleSection, Option.isSome_eq_false_iff, Option.isNone_iff_eq_none] at h
    rw [addedLines, h]

theorem isPlainSection_of_not_example {sectionLines : List String}
    (h : isExampleSection sectionLines = false) : isPlainSection sectionLines = false := by
  rw [Bool.eq_false_iff]
  exact fun hplain ↦ Bool.false_ne_true (h.symm.trans (isExampleSection_of_plain hplain))

theorem foldExamples_of_foldsAt {before after : List (List String)} {place : List String}
    (h : FoldsAt before place after) :
    foldExamples (before ++ place :: after) =
      otherSections before ++
        ("## Example Usage" ::
          raiseTitles (openingLines place ++ (before ++ after).flatMap addedLines)) ::
        otherSections after := by
  cases h with
  | plain isPlain isFirst =>
    rw [openingLines, if_pos isPlain]
    cases place with
    | nil => cases isPlain
    | cons heading body =>
      have hplain : isPlainExampleHeading heading = true := by simpa [isPlainSection] using isPlain
      exact foldExamples_plain isFirst hplain
  | named isExample isFirst noPlain =>
    have hbefore : before.flatMap addedLines = [] :=
      List.flatMap_eq_nil_iff.mpr fun other hmem ↦ addedLines_of_not_example (isFirst other hmem)
    rw [openingLines, noPlain place List.mem_cons_self, List.flatMap_append, hbefore,
      foldExamples_named isFirst isExample noPlain]
    rfl

theorem foldsAt_or_others (sections : List (List String)) :
    (∃ before place after, sections = before ++ place :: after ∧ FoldsAt before place after) ∨
      ∀ other ∈ sections, isExampleSection other = false := by
  rcases plain_or_named_or_others sections with
    ⟨before, heading, body, after, hsections, hbefore, hplain⟩ |
      ⟨before, place, after, hsections, hbefore, hplace, hnamed⟩ | hothers
  · have hplace : isPlainSection (heading :: body) = true := hplain
    exact .inl ⟨before, heading :: body, after, hsections, .plain hplace hbefore⟩
  · exact .inl ⟨before, place, after, hsections, .named hplace hbefore hnamed⟩
  · exact .inr hothers

/-! ## A section more -/

/-- A place in a list is in its front or in the rest. -/
theorem append_eq_append_cons {α : Type} {front rest before after : List α} {place : α}
    (h : front ++ rest = before ++ place :: after) :
    (∃ mid, before = front ++ mid ∧ rest = mid ++ place :: after) ∨
      ∃ mid, front = before ++ place :: mid ∧ after = mid ++ rest := by
  rcases List.append_eq_append_iff.mp h with ⟨mid, hbefore, hrest⟩ | ⟨mid, hfront, hplace⟩
  · exact .inl ⟨mid, hbefore, hrest⟩
  · cases mid with
    | nil => exact .inl ⟨[], by simpa using hfront.symm, by simpa using hplace.symm⟩
    | cons first mid =>
      obtain ⟨rfl, hafter⟩ := List.cons.inj hplace
      exact .inr ⟨mid, hfront, hafter⟩

theorem forall_mem_insert {α : Type} {holds : α → Prop} {front rest : List α}
    (h : ∀ item ∈ front ++ rest, holds item) {item : α} (hitem : holds item) :
    ∀ other ∈ front ++ item :: rest, holds other := by
  obtain ⟨hfront, hrest⟩ := List.forall_mem_append.mp h
  exact List.forall_mem_append.mpr ⟨hfront, List.forall_mem_cons.mpr ⟨hitem, hrest⟩⟩

section Insert

variable {sectionLines : List String} (h : isExampleSection sectionLines = false)

include h

theorem FoldsAt.insert_before {front mid after : List (List String)} {place : List String}
    (hfolds : FoldsAt (front ++ mid) place after) :
    FoldsAt (front ++ sectionLines :: mid) place after := by
  cases hfolds with
  | plain isPlain isFirst =>
    exact .plain isPlain (forall_mem_insert isFirst (isPlainSection_of_not_example h))
  | named isExample isFirst noPlain =>
    exact .named isExample (forall_mem_insert isFirst h) noPlain

theorem FoldsAt.insert_after {before mid rest : List (List String)} {place : List String}
    (hfolds : FoldsAt before place (mid ++ rest)) :
    FoldsAt before place (mid ++ sectionLines :: rest) := by
  cases hfolds with
  | plain isPlain isFirst => exact .plain isPlain isFirst
  | named isExample isFirst noPlain =>
    rw [← List.cons_append] at noPlain
    exact .named isExample isFirst (forall_mem_insert noPlain (isPlainSection_of_not_example h))

/-- A section that holds no examples keeps its place among the others. -/
theorem exists_foldExamples_insert (front rest : List (List String)) :
    ∃ before after, foldExamples (front ++ rest) = before ++ after ∧
      foldExamples (front ++ sectionLines :: rest) = before ++ sectionLines :: after := by
  rcases foldsAt_or_others (front ++ rest) with ⟨before, place, after, hsections, hfolds⟩ | hothers
  · have hadded := addedLines_of_not_example h
    have hfolded := foldExamples_of_foldsAt hfolds
    rcases append_eq_append_cons hsections with ⟨mid, rfl, rfl⟩ | ⟨mid, rfl, rfl⟩
    · have hinserted := foldExamples_of_foldsAt (hfolds.insert_before h)
      refine ⟨otherSections front, otherSections mid ++ _ :: otherSections after,
        by simpa [otherSections] using hfolded, ?_⟩
      simpa [otherSections, h, hadded] using hinserted
    · have hinserted := foldExamples_of_foldsAt (hfolds.insert_after h)
      refine ⟨otherSections before ++ _ :: otherSections mid, otherSections rest,
        by simpa [otherSections] using hfolded, ?_⟩
      simpa [otherSections, h, hadded] using hinserted
  · exact ⟨front, rest, foldExamples_of_not_example hothers,
      foldExamples_of_not_example (forall_mem_insert hothers h)⟩

end Insert

/-! ## Another body for the examples -/

/-- The body of a plain section of examples shows in the folded section only. -/
theorem exists_foldExamples_body (front rest : List (List String)) {heading : String}
    (h : isPlainExampleHeading heading = true) (body other : List String) :
    ∃ before after lines others,
      foldExamples (front ++ (heading :: body) :: rest) =
        before ++ ("## Example Usage" :: lines) :: after ∧
      foldExamples (front ++ (heading :: other) :: rest) =
        before ++ ("## Example Usage" :: others) :: after := by
  have hsection (lines : List String) : isPlainSection (heading :: lines) = true := h
  cases hfirst : front.find? isPlainSection with
  | none =>
    have hfront : ∀ sectionLines ∈ front, isPlainSection sectionLines = false := by
      simpa using hfirst
    exact ⟨_, _, _, _, foldExamples_of_foldsAt (.plain (hsection body) hfront),
      foldExamples_of_foldsAt (.plain (hsection other) hfront)⟩
  | some place =>
    -- The body goes with those of the other sections below the first plain one.
    obtain ⟨hplace, before, mid, rfl, hbefore⟩ := List.find?_eq_some_iff_append.mp hfirst
    have hplain (lines : List String) : FoldsAt before place (mid ++ (heading :: lines) :: rest) :=
      .plain hplace (by simpa using hbefore)
    have hexample (lines : List String) : isExampleSection (heading :: lines) = true :=
      isExampleSection_of_plain (hsection lines)
    have hothers (lines : List String) :
        otherSections (mid ++ (heading :: lines) :: rest) = otherSections (mid ++ rest) := by
      simp [otherSections, hexample]
    have hbody := foldExamples_of_foldsAt (hplain body)
    have hother := foldExamples_of_foldsAt (hplain other)
    rw [hothers] at hbody hother
    simp only [List.append_assoc, List.cons_append]
    exact ⟨_, _, _, _, hbody, hother⟩

end Markdown

end ProviderDocs
