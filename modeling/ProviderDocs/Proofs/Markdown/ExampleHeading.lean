import ProviderDocs.Proofs.Markdown.ExampleFold
import ProviderDocs.Proofs.Markdown.Prose
import ProviderDocs.Proofs.Text.Case

/-!
# Headings of examples in a description

A description has the heading of examples once for every section that is shown under it. Those
are the folded section and the ones whose own heading has more blanks before its words: such a
heading is read as that of examples, but folding does not know it.
-/

namespace ProviderDocs

namespace Text

/-! ## Capital forms are no line feeds -/

theorem newline_notMem_upper {c : Char} (h : c ≠ '\n') : '\n' ∉ upper c := by
  intro hmem
  rcases isForm_of_mem_upper hmem with heq | hform
  · exact h heq.symm
  · exact absurd hform (by decide)

end Text

namespace Naming

theorem newline_notMem_titleChars {text : List Char} (h : '\n' ∉ text) (atWordStart : Bool) :
    '\n' ∉ titleChars atWordStart text := by
  induction text generalizing atWordStart with
  | nil => exact List.not_mem_nil
  | cons c rest ih =>
    rw [List.mem_cons, not_or] at h
    obtain ⟨hc, hrest⟩ := h
    have hupper := Text.newline_notMem_upper (Ne.symm hc)
    have hkept (atWordStart : Bool) : '\n' ∉ c :: titleChars atWordStart rest := by
      rw [List.mem_cons, not_or]
      exact ⟨hc, ih hrest atWordStart⟩
    rw [titleChars]
    split
    · exact hkept true
    · split
      · rw [List.mem_append, not_or]
        exact ⟨hupper, ih hrest false⟩
      · exact hkept false

theorem newline_notMem_titleCase {name : String} (h : '\n' ∉ name.toList) :
    '\n' ∉ (titleCase name).toList := by
  rw [titleCase, String.toList_ofList]
  exact newline_notMem_titleChars h true

end Naming

namespace Markdown

/-! ## Lines that open no section -/

/-- A line below the first one of a section. -/
def IsBodyLine (line : String) : Prop := '\n' ∉ line.toList ∧ startsWith line "## " = false

/-- A heading, or whatever stands first, and lines below it that open no other section. -/
structure IsSection (sectionLines : List String) : Prop where
  first : ∀ heading ∈ sectionLines.head?, '\n' ∉ heading.toList
  below : ∀ line ∈ sectionLines.tail, IsBodyLine line

theorem IsSection.areLines {sectionLines : List String} (h : IsSection sectionLines) :
    AreLines sectionLines := by
  cases sectionLines with
  | nil => exact List.forall_mem_nil _
  | cons heading body =>
    exact List.forall_mem_cons.mpr ⟨h.first heading rfl, fun line hline ↦ (h.below line hline).1⟩

theorem isSection_of_mem_sectionizeText {text : String} {sectionLines : List String}
    (h : sectionLines ∈ sectionizeText "## " text) : IsSection sectionLines := by
  have hlines := (areLines_splitLines text).of_subset (subset_of_mem_sectionize h)
  refine ⟨fun heading hheading ↦ hlines heading (List.mem_of_mem_head? hheading), ?_⟩
  exact fun line hline ↦ ⟨hlines line (List.mem_of_mem_tail hline), startsWith_of_mem_tail h hline⟩

theorem isBodyLine_empty : IsBodyLine "" := ⟨by decide, by decide⟩

theorem isBodyLine_subheading {title : String} (h : '\n' ∉ title.toList) :
    IsBodyLine ("### " ++ title) := by
  refine ⟨by simpa using h, ?_⟩
  unfold startsWith
  rw [String.toList_append]
  rfl

theorem isBodyLine_raiseTitles {lines : List String} (h : ∀ line ∈ lines, IsBodyLine line) :
    ∀ line ∈ raiseTitles lines, IsBodyLine line := by
  induction lines with
  | nil => exact List.forall_mem_nil _
  | cons line rest ih =>
    obtain ⟨hline, hrest⟩ := List.forall_mem_cons.mp h
    rw [raiseTitles]
    refine List.forall_mem_cons.mpr ⟨?_, ih hrest⟩
    cases htitle : after? line "#### " with
    | none => exact hline
    | some title =>
      obtain rfl := after?_eq_some_iff.mp htitle
      cases fenceFollows rest with
      | true =>
        have hfeed := hline.1
        rw [String.toList_append] at hfeed
        exact isBodyLine_subheading fun hmem ↦ hfeed (List.mem_append_right _ hmem)
      | false => exact hline

theorem newline_notMem_of_titleText? {text title : List Char} (h : titleText? text = some title) :
    '\n' ∉ title := by
  unfold titleText? at h
  simp only [Option.ite_none_left_eq_some, Option.some.injEq] at h
  obtain ⟨hfeed, rfl⟩ := h
  simpa using hfeed

theorem newline_notMem_of_exampleName? {heading name : String}
    (h : exampleName? heading = some name) : '\n' ∉ name.toList := by
  unfold exampleName? at h
  simp only [Option.bind_eq_bind, Option.bind_eq_some_iff, Option.or_eq_some_iff,
    Option.some.injEq] at h
  obtain ⟨rest, -, title, htitle, rfl⟩ := h
  rw [String.toList_ofList]
  rcases htitle with ⟨text, -, htext⟩ | ⟨-, htext⟩
  · exact newline_notMem_of_titleText? htext
  · exact newline_notMem_of_titleText? htext

theorem isBodyLine_exampleTitle {heading name : String} (h : exampleName? heading = some name) :
    IsBodyLine (exampleTitle heading name) := by
  unfold exampleTitle
  split
  · exact ⟨by decide, by decide⟩
  · exact isBodyLine_subheading
      (Naming.newline_notMem_titleCase (newline_notMem_of_exampleName? h))

theorem isBodyLine_addedLines {sectionLines : List String} (h : IsSection sectionLines) :
    ∀ line ∈ addedLines sectionLines, IsBodyLine line := by
  unfold addedLines
  split
  case h_1 => exact List.forall_mem_nil _
  case h_2 heading body =>
    split
    case h_1 name hname =>
      refine List.forall_mem_append.mpr ⟨?_, List.forall_mem_cons.mpr ⟨?_, h.below⟩⟩
      · intro line hline
        have hempty : line = "" := by
          split at hline
          · cases hline
          · exact List.mem_singleton.mp hline
        exact hempty ▸ isBodyLine_empty
      · exact isBodyLine_exampleTitle hname
    case h_2 => exact List.forall_mem_nil _

theorem isSection_folded {lines : List String} (h : ∀ line ∈ lines, IsBodyLine line) :
    IsSection ("## Example Usage" :: raiseTitles lines) where
  first := by
    rintro heading ⟨⟩
    decide
  below := isBodyLine_raiseTitles h

/-- The folded section takes the place of an example section and the others go. -/
theorem exists_folded {sections : List (List String)}
    (h : ∃ sectionLines ∈ sections, isExampleSection sectionLines = true)
    (hsections : ∀ sectionLines ∈ sections, IsSection sectionLines) :
    ∃ before place after folded, sections = before ++ place :: after ∧
      isExampleSection place = true ∧
      foldExamples sections = otherSections before ++ folded :: otherSections after ∧
      folded.head? = some "## Example Usage" ∧ IsSection folded := by
  -- Folding puts lines of bodies and titles of its own together, and none opens a section.
  have hadded {some : List (List String)} (hsome : some ⊆ sections) :
      ∀ line ∈ some.flatMap addedLines, IsBodyLine line := by
    intro line hline
    obtain ⟨sectionLines, hmem, hline⟩ := List.mem_flatMap.mp hline
    exact isBodyLine_addedLines (hsections sectionLines (hsome hmem)) line hline
  rcases plain_or_named_or_others sections with
    ⟨before, heading, body, after, rfl, hbefore, hplain⟩ |
      ⟨before, place, after, rfl, hbefore, hplace, hnamed⟩ | hothers
  · refine ⟨before, heading :: body, after, _, rfl,
      isExampleSection_of_plain (by simpa [isPlainSection] using hplain),
      foldExamples_plain hbefore hplain, rfl, isSection_folded ?_⟩
    have hbody := (hsections _ (List.mem_append_right _ List.mem_cons_self)).below
    have hsubset : before ++ after ⊆ before ++ (heading :: body) :: after :=
      List.append_subset.mpr ⟨List.subset_append_left ..,
        List.Subset.trans (List.subset_cons_self ..) (List.subset_append_right ..)⟩
    refine List.forall_mem_append.mpr ⟨List.forall_mem_cons.mpr ⟨isBodyLine_empty, ?_⟩,
      hadded hsubset⟩
    exact fun line hline ↦ hbody line ((List.dropWhile_sublist _).subset hline)
  · exact ⟨before, place, after, _, rfl, hplace, foldExamples_named hbefore hplace hnamed, rfl,
      isSection_folded (hadded (List.subset_append_right ..))⟩
  · obtain ⟨sectionLines, hmem, hexample⟩ := h
    rw [hothers sectionLines hmem] at hexample
    cases hexample

theorem isSection_foldExamples {sections : List (List String)}
    (h : ∀ sectionLines ∈ sections, IsSection sectionLines) :
    ∀ sectionLines ∈ foldExamples sections, IsSection sectionLines := by
  by_cases hexample : ∃ sectionLines ∈ sections, isExampleSection sectionLines = true
  · obtain ⟨before, place, after, folded, rfl, -, heq, -, hfolded⟩ := exists_folded hexample h
    rw [heq]
    obtain ⟨hbefore, hafter⟩ := List.forall_mem_append.mp h
    refine List.forall_mem_append.mpr ⟨fun sectionLines hmem ↦ ?_,
      List.forall_mem_cons.mpr ⟨hfolded, fun sectionLines hmem ↦ ?_⟩⟩
    · exact hbefore sectionLines (List.mem_filter.mp hmem).1
    · exact hafter sectionLines (List.mem_cons_of_mem _ (List.mem_filter.mp hmem).1)
  · have hothers : ∀ sectionLines ∈ sections, isExampleSection sectionLines = false := by
      simpa using hexample
    rwa [foldExamples_of_not_example hothers]

/-! ## Sections shown under the heading -/

/-- A section that is read as one of examples and holds text. -/
def showsExamples (sectionLines : List String) : Bool :=
  sectionLines.head?.any (SectionKind.ofLine · = .exampleUsage) &&
    !(keptGroups sectionLines.tail).isEmpty

/-- The heading of examples with more than one blank before its words. -/
def isLooseHeading (heading : String) : Bool :=
  match after? heading "## " with
  | some rest => rest.toList.head?.any Text.isBlank && trimmed rest = "Example Usage"
  | none => false

/-- A section of text whose heading is read as that of examples and not known to folding. -/
def isLooseExample (sectionLines : List String) : Bool :=
  sectionLines.head?.any isLooseHeading && !(keptGroups sectionLines.tail).isEmpty

theorem ofHeader_eq_exampleUsage_iff (header : String) :
    SectionKind.ofHeader header = .exampleUsage ↔ header = "Example Usage" := by
  unfold SectionKind.ofHeader
  split <;> simp_all

theorem ofLine_eq_exampleUsage_iff (heading : String) :
    SectionKind.ofLine heading = .exampleUsage ↔
      ∃ rest, heading = "## " ++ rest ∧ trimmed rest = "Example Usage" := by
  unfold SectionKind.ofLine
  split
  case h_1 rest hrest =>
    obtain rfl := after?_eq_some_iff.mp hrest
    rw [ofHeader_eq_exampleUsage_iff]
    simp
  case h_2 hnone =>
    have hkind : (if trimmed heading = "---" then SectionKind.frontMatter else .preamble) ≠
        .exampleUsage := by
      split <;> exact SectionKind.noConfusion
    refine iff_of_false hkind ?_
    rintro ⟨rest, rfl, -⟩
    rw [after?_eq_some_iff.mpr rfl] at hnone
    cases hnone

theorem exampleName?_of_isLooseHeading {heading : String} (h : isLooseHeading heading = true) :
    exampleName? heading = none := by
  unfold isLooseHeading at h
  split at h
  case h_1 rest hrest =>
    obtain rfl := after?_eq_some_iff.mp hrest
    obtain ⟨hhead, -⟩ := Bool.and_eq_true_iff.mp h
    have hnone : Text.afterFolded? "## example usage".toList ("## " ++ rest).toList = none := by
      rw [String.toList_append]
      cases hchars : rest.toList with
      | nil => simp [hchars] at hhead
      | cons c text =>
        have hblank : Text.isBlank c = true := by simpa [hchars] using hhead
        have hfold : ¬ 'e' = Text.fold c := by
          rw [Text.fold_of_isBlank hblank]
          rintro rfl
          cases hblank
        have hskip : Text.afterFolded? "## example usage".toList ("## ".toList ++ c :: text) =
            if 'e' = Text.fold c then Text.afterFolded? "xample usage".toList text else none := rfl
        rw [hskip, if_neg hfold]
    rw [exampleName?, hnone]
    rfl
  case h_2 => cases h

theorem isSome_exampleName?_eq {heading : String}
    (h : SectionKind.ofLine heading = .exampleUsage) :
    (exampleName? heading).isSome = !isLooseHeading heading := by
  cases hloose : isLooseHeading heading with
  | true => rw [exampleName?_of_isLooseHeading hloose]; rfl
  | false =>
    obtain ⟨rest, rfl, htrim⟩ := (ofLine_eq_exampleUsage_iff heading).mp h
    -- The words follow at once, so the heading is the plain one.
    have hhead : rest.toList.head?.any Text.isBlank = false := by
      simpa [isLooseHeading, after?_eq_some_iff.mpr rfl, htrim] using hloose
    have hdrop : Text.dropBlank rest.toList = rest.toList := by
      cases hchars : rest.toList with
      | nil => rfl
      | cons c text =>
        exact Text.dropBlank_of_not_blank (by simpa [hchars] using hhead) text
    have hend : Text.dropBlankEnd rest.toList = "Example Usage".toList := by
      rw [← htrim, trimmed, String.toList_ofList, Text.trim, hdrop]
    obtain ⟨blanks, hrest, hblanks⟩ := Text.exists_eq_dropBlankEnd_append rest.toList
    have hplain : isPlainExampleHeading ("## " ++ rest) = true := by
      have hafter : Text.afterFolded? "## example usage".toList ("## " ++ rest).toList =
          some blanks := by
        rw [String.toList_append, hrest, hend]
        rfl
      rw [isPlainExampleHeading, hafter]
      exact hblanks
    rw [exampleName?_of_plain hplain]
    rfl

theorem ofLine_of_isLooseHeading {heading : String} (h : isLooseHeading heading = true) :
    SectionKind.ofLine heading = .exampleUsage := by
  unfold isLooseHeading at h
  split at h
  case h_1 rest hrest =>
    refine (ofLine_eq_exampleUsage_iff heading).mpr ⟨rest, after?_eq_some_iff.mp hrest, ?_⟩
    exact of_decide_eq_true (Bool.and_eq_true_iff.mp h).2
  case h_2 => cases h

/-- Of the sections shown as examples, folding leaves out those with a loose heading. -/
theorem showsExamples_and_not_example (sectionLines : List String) :
    (showsExamples sectionLines && !isExampleSection sectionLines) =
      isLooseExample sectionLines := by
  cases sectionLines with
  | nil => rfl
  | cons heading body =>
    simp only [showsExamples, isLooseExample, isExampleSection, List.head?_cons, List.tail_cons,
      Option.any_some]
    by_cases hkind : SectionKind.ofLine heading = .exampleUsage
    · rw [isSome_exampleName?_eq hkind, hkind, Bool.not_not, Bool.and_right_comm]
      simp
    · have hloose : isLooseHeading heading = false :=
        Bool.eq_false_iff.mpr fun hloose ↦ hkind (ofLine_of_isLooseHeading hloose)
      simp [hkind, hloose]

/-! ## Counting the heading -/

theorem count_eq_zero_of_isBodyLine {lines : List String} (h : ∀ line ∈ lines, IsBodyLine line) :
    lines.count "## Example Usage" = 0 := by
  rw [List.count_eq_zero]
  intro hmem
  have hstarts := (h _ hmem).2
  revert hstarts
  decide

theorem startsWith_of_preamble {line : String} (h : SectionKind.ofLine line = .preamble) :
    startsWith line "## " = false := by
  rw [← after?_eq_none_iff]
  unfold SectionKind.ofLine at h
  split at h
  case h_1 rest hrest =>
    unfold SectionKind.ofHeader at h
    split at h <;> cases h
  case h_2 hnone => exact hnone

theorem header_ne_of_other {line : String} (h : SectionKind.ofLine line = .other) :
    "## " ++ Reading.headerOf line ≠ "## Example Usage" := by
  intro heq
  have hheader : Reading.headerOf line = "Example Usage" := by
    have hlist : "## ".toList ++ (Reading.headerOf line).toList =
        "## ".toList ++ "Example Usage".toList := by
      rw [← String.toList_append, heq]
      rfl
    exact String.toList_inj.mp (List.append_cancel_left hlist)
  unfold SectionKind.ofLine at h
  split at h
  case h_1 rest hrest =>
    rw [Reading.headerOf, hrest, Option.getD_some] at hheader
    rw [hheader] at h
    cases h
  case h_2 => split at h <;> cases h

/-- The prose of a section has the heading once or not at all. -/
theorem count_prose {sectionLines : List String} (h : IsSection sectionLines) :
    (prose sectionLines).count "## Example Usage" =
      if showsExamples sectionLines then 1 else 0 := by
  cases sectionLines with
  | nil => rfl
  | cons first body =>
    have hbelow {lines : List String} (hsubset : lines ⊆ body) :
        lines.count "## Example Usage" = 0 :=
      count_eq_zero_of_isBodyLine fun line hline ↦ h.below line (hsubset hline)
    have htext := hbelow (flatMap_keptGroups_subset body)
    rw [prose, showsExamples, List.head?_cons, Option.any_some, List.tail_cons]
    cases hkind : SectionKind.ofLine first with
    | frontMatter =>
      have hdrop := (List.drop_sublist 1 _).trans
        (List.dropWhile_sublist (!FrontMatter.isDelimiter ·) (l := body))
      exact hbelow (List.Subset.trans (untitledText_subset _) hdrop.subset)
    | preamble =>
      refine count_eq_zero_of_isBodyLine fun line hline ↦ ?_
      rcases List.mem_cons.mp (untitledText_subset _ hline) with rfl | hline
      · exact ⟨h.first line rfl, startsWith_of_preamble hkind⟩
      · exact h.below line hline
    | exampleUsage =>
      obtain ⟨rest, rfl, htrim⟩ := (ofLine_eq_exampleUsage_iff first).mp hkind
      have hheader : Reading.headerOf ("## " ++ rest) = "Example Usage" := by
        rw [Reading.headerOf, after?_eq_some_iff.mpr rfl, Option.getD_some, htrim]
      cases (keptGroups body).isEmpty with
      | true => rfl
      | false => simp [hheader, htext]
    | other =>
      have hheader := header_ne_of_other hkind
      cases (keptGroups body).isEmpty with
      | true => rfl
      | false => simp [hheader, htext]
    | _ => rfl

theorem count_flatMap_prose {sections : List (List String)}
    (h : ∀ sectionLines ∈ sections, IsSection sectionLines) :
    (sections.flatMap prose).count "## Example Usage" = sections.countP showsExamples := by
  induction sections with
  | nil => rfl
  | cons sectionLines rest ih =>
    obtain ⟨hfirst, hrest⟩ := List.forall_mem_cons.mp h
    rw [List.flatMap_cons, List.count_append, count_prose hfirst, ih hrest, List.countP_cons,
      Nat.add_comm]

/-! ## Counting the heading in a description -/

theorem countP_otherSections (sections : List (List String)) :
    (otherSections sections).countP showsExamples = sections.countP isLooseExample := by
  rw [otherSections, List.countP_filter]
  simp only [showsExamples_and_not_example]

/-- The folded section, when it is shown. -/
def isShownFolded (sectionLines : List String) : Bool :=
  sectionLines.head? = some "## Example Usage" && showsExamples sectionLines

theorem isShownFolded_eq_false {sectionLines : List String}
    (h : isExampleSection sectionLines = false) : isShownFolded sectionLines = false := by
  cases sectionLines with
  | nil => rfl
  | cons heading body =>
    have hheading : ¬ heading = "## Example Usage" := by
      rintro rfl
      cases h
    simp [isShownFolded, hheading]

theorem any_isShownFolded_otherSections (sections : List (List String)) :
    (otherSections sections).any isShownFolded = false := by
  rw [List.any_eq_false]
  intro sectionLines hmem
  have hother : isExampleSection sectionLines = false := by simpa using (List.mem_filter.mp hmem).2
  rw [isShownFolded_eq_false hother]
  exact Bool.false_ne_true

theorem countP_foldExamples {sections : List (List String)}
    (h : ∀ sectionLines ∈ sections, IsSection sectionLines) :
    (foldExamples sections).countP showsExamples =
      sections.countP isLooseExample +
        if (foldExamples sections).any isShownFolded then 1 else 0 := by
  by_cases hexample : ∃ sectionLines ∈ sections, isExampleSection sectionLines = true
  · obtain ⟨before, place, after, folded, rfl, hplace, heq, hhead, -⟩ := exists_folded hexample h
    have hloose : isLooseExample place = false := by
      rw [← showsExamples_and_not_example, hplace, Bool.not_true, Bool.and_false]
    have hshown : isShownFolded folded = showsExamples folded := by simp [isShownFolded, hhead]
    rw [heq, List.countP_append, List.countP_cons, List.countP_append, List.countP_cons,
      countP_otherSections, countP_otherSections, hloose, List.any_append, List.any_cons,
      any_isShownFolded_otherSections, any_isShownFolded_otherSections, hshown, Bool.false_or,
      Bool.or_false, if_neg Bool.false_ne_true]
    omega
  · have hothers : ∀ sectionLines ∈ sections, isExampleSection sectionLines = false := by
      simpa using hexample
    have hself : otherSections sections = sections := by
      rw [otherSections, List.filter_eq_self]
      intro sectionLines hmem
      rw [hothers sectionLines hmem, Bool.not_false]
    have hcount := countP_otherSections sections
    have hany := any_isShownFolded_otherSections sections
    rw [hself] at hcount hany
    rw [foldExamples_of_not_example hothers, hcount, hany, if_neg Bool.false_ne_true, Nat.add_zero]

theorem description_readDocument (mapping : Option EntityMapping) (markdown : String) :
    (readDocument mapping markdown).doc.description =
      (Reading.addSections (mapping.map (·.token)) (sectionsOf markdown)).doc.description :=
  rfl

/-- A description has the heading of examples once for each section with text under a loose
heading, and once more when the folded section is shown. So it has it at most once when no heading
is loose. -/
theorem count_exampleHeading (mapping : Option EntityMapping) (markdown : String) :
    (splitLines (readDocument mapping (withoutMarkers markdown)).doc.description).count
        "## Example Usage" =
      (sectionizeText "## " (withoutMarkers markdown)).countP isLooseExample +
        if (sectionsOf (withoutMarkers markdown)).any isShownFolded then 1 else 0 := by
  generalize withoutMarkers markdown = text
  have hcut : ∀ sectionLines ∈ sectionizeText "## " text, IsSection sectionLines :=
    fun sectionLines hmem ↦ isSection_of_mem_sectionizeText hmem
  have hfolded : ∀ sectionLines ∈ sectionsOf text, IsSection sectionLines :=
    isSection_foldExamples hcut
  have hwrites := Reading.writes_addSections (mapping.map (·.token)) (sectionsOf text)
    fun sectionLines hmem ↦ (hfolded sectionLines hmem).areLines
  rw [description_readDocument, count_eq_count_nonblankLines rfl, hwrites.nonblankLines_splitLines,
    count_flatMap_prose hfolded]
  exact countP_foldExamples hcut

/-- A document with a second example section, whose heading has two blanks. -/
def looseDocument : String := "## Example Usage\na\n##  Example Usage\nb\n"

theorem not_count_exampleHeading_le_one_looseDocument :
    ¬ (splitLines (readDocument none (withoutMarkers looseDocument)).doc.description).count
      "## Example Usage" ≤ 1 := by
  decide +kernel

end Markdown

end ProviderDocs
