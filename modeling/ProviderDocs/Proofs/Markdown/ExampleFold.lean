import ProviderDocs.Markdown.Examples
import ProviderDocs.Proofs.Text.Lines

/-!
# What folding example sections keeps

All example sections become one. It stands where the first plain one stood, or the first of all
when none is plain, and holds the lines of text of that plain section and then, under a title
each, those of all others. No line is lost, and besides the titles no line changes but a heading
that is raised above the code block it titles.
-/

namespace ProviderDocs

namespace Markdown

/-! ## Example sections -/

/-- A section with the plain heading of examples. -/
def isPlainSection (sectionLines : List String) : Bool :=
  sectionLines.head?.any isPlainExampleHeading

/-- The sections that hold no examples. -/
def otherSections (sections : List (List String)) : List (List String) :=
  sections.filter (!isExampleSection ·)

/-- The title under which an example stands in the folded section. -/
def exampleTitle (heading name : String) : String :=
  if isPlainExampleHeading heading then "### Additional Examples"
  else "### " ++ Naming.titleCase name

/-- What an example section comes to below another one: a title and its lines of text. -/
def titledText (sectionLines : List String) : List String :=
  match sectionLines with
  | [] => []
  | heading :: body =>
    match exampleName? heading with
    | some name => exampleTitle heading name :: nonblankLines body
    | none => []

theorem exampleName?_of_plain {heading : String} (h : isPlainExampleHeading heading = true) :
    exampleName? heading = some "" := by
  unfold isPlainExampleHeading at h
  split at h
  case h_1 rest hrest =>
    have hblank : Text.dropBlank rest = [] := (Text.dropBlank_eq_nil_iff rest).mpr h
    rw [exampleName?, hrest]
    simp only [Option.bind_eq_bind, Option.bind_some, hblank]
    rfl
  case h_2 => cases h

theorem isExampleSection_of_plain {sectionLines : List String}
    (h : isPlainSection sectionLines = true) : isExampleSection sectionLines = true := by
  cases sectionLines with
  | nil => cases h
  | cons heading body =>
    have hplain : isPlainExampleHeading heading = true := by simpa [isPlainSection] using h
    rw [isExampleSection, exampleName?_of_plain hplain, Option.isSome_some]

/-- A line that begins with the heading of examples announces one. -/
theorem isSome_exampleName?_of_startsWith {heading : String}
    (h : startsWith heading "## Example Usage" = true) (hline : '\n' ∉ heading.toList) :
    (exampleName? heading).isSome = true := by
  obtain ⟨rest, rfl⟩ := startsWith_iff.mp h
  have hafter : Text.afterFolded? "## example usage".toList ("## Example Usage" ++ rest).toList =
      some rest.toList := by
    rw [String.toList_append]
    rfl
  have htitle : titleText? (Text.dropBlank rest.toList) =
      some (Text.dropBlankEnd (Text.dropBlank rest.toList)) := by
    have hfeed : '\n' ∉ Text.dropBlankEnd (Text.dropBlank rest.toList) := by
      intro hmem
      apply hline
      rw [String.toList_append]
      exact List.mem_append_right _ ((Text.trim_sublist rest.toList).subset hmem)
    simp [titleText?, hfeed]
  rw [exampleName?, hafter]
  simp [htitle]

/-! ## Raised headings -/

/-- The second list of lines is the first one, except that a heading `#### ` right above a code
fence is one of `### `. -/
inductive HeadingsRaised : List String → List String → Prop
  | nil : HeadingsRaised [] []
  | raised {title : String} {rest others : List String}
      (fence : rest.head?.any isFence = true) (below : HeadingsRaised rest others) :
      HeadingsRaised (("#### " ++ title) :: rest) (("### " ++ title) :: others)
  | kept {line : String} {rest others : List String}
      (stays : startsWith line "#### " = false ∨ rest.head?.any isFence = false)
      (below : HeadingsRaised rest others) :
      HeadingsRaised (line :: rest) (line :: others)

theorem isBlankLine_of_isFence {line : String} (h : isFence line = true) :
    isBlankLine line = false := by
  obtain ⟨rest, rfl⟩ := startsWith_iff.mp h
  rw [isBlankLine_append]
  rfl

theorem fenceFollows_eq (lines : List String) :
    fenceFollows lines = (nonblankLines lines).head?.any isFence := by
  induction lines with
  | nil => rfl
  | cons line rest ih =>
    rw [fenceFollows, ih]
    cases hblank : isBlankLine line with
    | true =>
      have hfence : isFence line = false := by
        cases hfence : isFence line with
        | true => rw [isBlankLine_of_isFence hfence] at hblank; cases hblank
        | false => rfl
      rw [nonblankLines_cons_of_blank hblank, hfence, Bool.true_and, Bool.false_or]
    | false => simp [nonblankLines_cons_of_not_blank hblank]

/-- Blank lines aside, raising titles changes headings above code fences only. -/
theorem headingsRaised_raiseTitles (lines : List String) :
    HeadingsRaised (nonblankLines lines) (nonblankLines (raiseTitles lines)) := by
  induction lines with
  | nil => exact .nil
  | cons line rest ih =>
    rw [raiseTitles]
    cases hline : after? line "#### " with
    | some title =>
      obtain rfl := after?_eq_some_iff.mp hline
      have hbefore : isBlankLine ("#### " ++ title) = false := by rw [isBlankLine_append]; rfl
      have hafter : isBlankLine ("### " ++ title) = false := by rw [isBlankLine_append]; rfl
      rw [nonblankLines_cons_of_not_blank hbefore, fenceFollows_eq]
      cases hfence : (nonblankLines rest).head?.any isFence with
      | true =>
        simp only [if_true]
        rw [nonblankLines_cons_of_not_blank hafter]
        exact .raised hfence ih
      | false =>
        simp only [Bool.false_eq_true, if_false]
        rw [nonblankLines_cons_of_not_blank hbefore]
        exact .kept (.inr hfence) ih
    | none =>
      simp only
      cases hblank : isBlankLine line with
      | true =>
        rw [nonblankLines_cons_of_blank hblank, nonblankLines_cons_of_blank hblank]
        exact ih
      | false =>
        rw [nonblankLines_cons_of_not_blank hblank, nonblankLines_cons_of_not_blank hblank]
        exact .kept (.inl (after?_eq_none_iff.mp hline)) ih

/-! ## Folding -/

/-- The lines that an example section adds below another one. -/
def addedLines (sectionLines : List String) : List String :=
  match sectionLines with
  | [] => []
  | heading :: body =>
    match exampleName? heading with
    | some name =>
      (if !isPlainExampleHeading heading && contains heading "## Example Usage -" then []
        else [""]) ++ exampleTitle heading name :: body
    | none => []

theorem isBlankLine_exampleTitle (heading name : String) :
    isBlankLine (exampleTitle heading name) = false := by
  unfold exampleTitle
  split
  · rfl
  · rw [isBlankLine_append]
    rfl

theorem nonblankLines_addedLines (sectionLines : List String) :
    nonblankLines (addedLines sectionLines) = titledText sectionLines := by
  unfold addedLines titledText
  split
  case h_1 => rfl
  case h_2 heading body =>
    split
    case h_1 name _ =>
      have hspacing (skips : Bool) : nonblankLines (if skips then [] else [""]) = [] := by
        cases skips <;> rfl
      rw [nonblankLines_append, hspacing, List.nil_append,
        nonblankLines_cons_of_not_blank (isBlankLine_exampleTitle heading name)]
    case h_2 => rfl

theorem nonblankLines_flatMap_addedLines (sections : List (List String)) :
    nonblankLines (sections.flatMap addedLines) = sections.flatMap titledText := by
  induction sections with
  | nil => rfl
  | cons sectionLines rest ih =>
    rw [List.flatMap_cons, List.flatMap_cons, nonblankLines_append, nonblankLines_addedLines, ih]

namespace ExampleFold

/-- A section that is not the first plain one adds its lines at the end. -/
theorem step_eq (fold : ExampleFold) {sectionLines : List String}
    (h : fold.plain.isSome = true ∨ isPlainSection sectionLines = false) (index : Nat) :
    (fold.step index sectionLines).plain = fold.plain ∧
      (fold.step index sectionLines).first =
        fold.first.or (if isExampleSection sectionLines then some index else none) ∧
      (fold.step index sectionLines).lines = fold.lines ++ addedLines sectionLines := by
  cases sectionLines with
  | nil => simp [step, isExampleSection, addedLines]
  | cons heading body =>
    cases hname : exampleName? heading with
    | none => simp [step, isExampleSection, addedLines, hname]
    | some name =>
      cases hplain : isPlainExampleHeading heading with
      | true =>
        have hsome : fold.plain.isSome = true := by
          refine h.resolve_right ?_
          simp [isPlainSection, hplain]
        have hnone : fold.plain.isNone = false := by
          rw [Option.isNone_eq_false_iff]
          exact hsome
        simp [step, isExampleSection, addedLines, hname, hplain, hnone, exampleTitle]
      | false => simp [step, isExampleSection, addedLines, hname, hplain, exampleTitle]

theorem foldl_step (fold : ExampleFold) {sections : List (List String)}
    (h : fold.plain.isSome = true ∨ ∀ sectionLines ∈ sections, isPlainSection sectionLines = false)
    (start : Nat) :
    let later := (sections.zipIdx start).foldl (fun fold entry ↦ fold.step entry.2 entry.1) fold
    later.plain = fold.plain ∧ (∀ first, fold.first = some first → later.first = some first) ∧
      later.lines = fold.lines ++ sections.flatMap addedLines := by
  -- No section of the list is the first plain one, so each step only adds lines.
  induction sections generalizing fold start with
  | nil => simp
  | cons sectionLines rest ih =>
    obtain ⟨hplain, hfirst, hlines⟩ :=
      step_eq fold (h.imp id fun h ↦ h sectionLines List.mem_cons_self) start
    have hrest : (fold.step start sectionLines).plain.isSome = true ∨
        ∀ other ∈ rest, isPlainSection other = false := by
      rw [hplain]
      exact h.imp id fun h other hother ↦ h other (List.mem_cons_of_mem _ hother)
    obtain ⟨hplainRest, hfirstRest, hlinesRest⟩ := ih _ hrest (start + 1)
    rw [List.zipIdx_cons, List.foldl_cons]
    refine ⟨hplainRest.trans hplain, ?_, ?_⟩
    · intro first hsome
      apply hfirstRest
      rw [hfirst, hsome, Option.some_or]
    · rw [hlinesRest, hlines, List.flatMap_cons, List.append_assoc]

theorem step_of_not_example {sectionLines : List String}
    (h : isExampleSection sectionLines = false) (fold : ExampleFold) (index : Nat) :
    fold.step index sectionLines = fold := by
  cases sectionLines with
  | nil => rfl
  | cons heading body =>
    rw [isExampleSection, Option.isSome_eq_false_iff, Option.isNone_iff_eq_none] at h
    rw [step, h]

theorem foldl_step_of_not_example {sections : List (List String)}
    (h : ∀ sectionLines ∈ sections, isExampleSection sectionLines = false) (fold : ExampleFold)
    (start : Nat) :
    (sections.zipIdx start).foldl (fun fold entry ↦ fold.step entry.2 entry.1) fold = fold := by
  induction sections generalizing start with
  | nil => rfl
  | cons sectionLines rest ih =>
    obtain ⟨hfirst, hrest⟩ := List.forall_mem_cons.mp h
    rw [List.zipIdx_cons, List.foldl_cons, step_of_not_example hfirst, ih hrest]

/-- The first plain section keeps its lines in front of what came before it. -/
theorem ofSections_plain {before : List (List String)}
    (hbefore : ∀ sectionLines ∈ before, isPlainSection sectionLines = false) {heading : String}
    (hplain : isPlainExampleHeading heading = true) (body : List String)
    (after : List (List String)) :
    (ofSections (before ++ (heading :: body) :: after)).plain = some before.length ∧
      (ofSections (before ++ (heading :: body) :: after)).lines =
        "" :: "" :: body.dropWhile isBlankLine ++ (before ++ after).flatMap addedLines := by
  -- No place is taken before this section, and none after it changes the place.
  obtain ⟨hnone, -, hlines⟩ := foldl_step empty (.inr hbefore) 0
  rw [ofSections, List.zipIdx_append, List.foldl_append, List.zipIdx_cons, List.foldl_cons]
  generalize (before.zipIdx 0).foldl (fun fold entry ↦ fold.step entry.2 entry.1) empty = fold
    at hnone hlines ⊢
  have hnone : fold.plain = none := hnone
  have hstep : (fold.step (0 + before.length) (heading :: body)).plain = some before.length ∧
      (fold.step (0 + before.length) (heading :: body)).lines =
        "" :: "" :: body.dropWhile isBlankLine ++ fold.lines := by
    simp [step, exampleName?_of_plain hplain, hplain, hnone]
  have hafter : (fold.step (0 + before.length) (heading :: body)).plain.isSome = true ∨
      ∀ sectionLines ∈ after, isPlainSection sectionLines = false := .inl (by rw [hstep.1]; rfl)
  obtain ⟨hplainAfter, -, hlinesAfter⟩ := foldl_step _ hafter (0 + before.length + 1)
  refine ⟨hplainAfter.trans hstep.1, ?_⟩
  rw [hlinesAfter, hstep.2, hlines]
  simp [empty]

/-- When no section is plain, each one adds its lines. -/
theorem ofSections_named {before after : List (List String)} {place : List String}
    (hbefore : ∀ sectionLines ∈ before, isExampleSection sectionLines = false)
    (hplace : isExampleSection place = true)
    (hplain : ∀ sectionLines ∈ place :: after, isPlainSection sectionLines = false) :
    (ofSections (before ++ place :: after)).plain = none ∧
      (ofSections (before ++ place :: after)).first = some before.length ∧
      (ofSections (before ++ place :: after)).lines = (place :: after).flatMap addedLines := by
  obtain ⟨hfirst, hafter⟩ := List.forall_mem_cons.mp hplain
  rw [ofSections, List.zipIdx_append, List.foldl_append, foldl_step_of_not_example hbefore,
    List.zipIdx_cons, List.foldl_cons]
  obtain ⟨hstepPlain, hstepFirst, hstepLines⟩ :=
    step_eq empty (.inr hfirst) (0 + before.length)
  have hafter : (empty.step (0 + before.length) place).plain.isSome = true ∨
      ∀ sectionLines ∈ after, isPlainSection sectionLines = false := .inr hafter
  obtain ⟨hplainAfter, hfirstAfter, hlinesAfter⟩ :=
    foldl_step _ hafter (0 + before.length + 1)
  refine ⟨hplainAfter.trans hstepPlain, ?_, ?_⟩
  · apply hfirstAfter
    rw [hstepFirst, if_pos hplace]
    simp [empty]
  · rw [hlinesAfter, hstepLines]
    simp [empty]

end ExampleFold

/-- One section is replaced and the other example sections go. -/
theorem filterMap_zipIdx_replace (before after : List (List String)) (place folded : List String) :
    ((before ++ place :: after).zipIdx.filterMap fun entry ↦
        if entry.2 = before.length then some folded
        else if isExampleSection entry.1 then none
        else some entry.1) =
      otherSections before ++ folded :: otherSections after := by
  -- The index of the replaced section occurs neither before nor behind it.
  have hothers {sections : List (List String)} {start : Nat}
      (h : before.length < start ∨ start + sections.length ≤ before.length) :
      ((sections.zipIdx start).filterMap fun entry ↦
        if entry.2 = before.length then some folded
        else if isExampleSection entry.1 then none
        else some entry.1) = otherSections sections := by
    induction sections generalizing start with
    | nil => rfl
    | cons sectionLines rest ih =>
      rw [List.length_cons] at h
      have hne : start ≠ before.length := by omega
      have hrest : before.length < start + 1 ∨ start + 1 + rest.length ≤ before.length := by omega
      rw [List.zipIdx_cons, otherSections, List.filter_cons, ← otherSections, ← ih hrest]
      cases hexample : isExampleSection sectionLines <;> simp [hne, hexample]
  rw [List.zipIdx_append, List.filterMap_append, List.zipIdx_cons, List.filterMap_cons,
    hothers (.inr (by omega)), hothers (.inl (by omega))]
  simp

theorem ExampleFold.sectionLines_eq (fold : ExampleFold) :
    fold.sectionLines = "## Example Usage" ::
      raiseTitles (if fold.plain.isNone then fold.lines else fold.lines.tail) := by
  rw [ExampleFold.sectionLines]
  cases fold.plain.isNone <;> rfl

/-- The first plain section takes up the others. -/
theorem foldExamples_plain {before after : List (List String)} {heading : String}
    {body : List String} (hbefore : ∀ sectionLines ∈ before, isPlainSection sectionLines = false)
    (hplain : isPlainExampleHeading heading = true) :
    foldExamples (before ++ (heading :: body) :: after) =
      otherSections before ++
        ("## Example Usage" :: raiseTitles
          ("" :: body.dropWhile isBlankLine ++ (before ++ after).flatMap addedLines)) ::
        otherSections after := by
  obtain ⟨hplace, hlines⟩ := ExampleFold.ofSections_plain hbefore hplain body after
  simp only [foldExamples, hplace, Option.some_or]
  rw [filterMap_zipIdx_replace, ExampleFold.sectionLines_eq, hplace, hlines]
  rfl

/-- Without a plain section the first example section makes room for all of them. -/
theorem foldExamples_named {before after : List (List String)} {place : List String}
    (hbefore : ∀ sectionLines ∈ before, isExampleSection sectionLines = false)
    (hplace : isExampleSection place = true)
    (hnamed : ∀ sectionLines ∈ place :: after, isPlainSection sectionLines = false) :
    foldExamples (before ++ place :: after) =
      otherSections before ++
        ("## Example Usage" :: raiseTitles ((place :: after).flatMap addedLines)) ::
        otherSections after := by
  obtain ⟨hplain, hfirst, hlines⟩ := ExampleFold.ofSections_named hbefore hplace hnamed
  simp only [foldExamples, hplain, hfirst, Option.none_or]
  rw [filterMap_zipIdx_replace, ExampleFold.sectionLines_eq, hplain, hlines]
  rfl

theorem foldExamples_of_not_example {sections : List (List String)}
    (h : ∀ sectionLines ∈ sections, isExampleSection sectionLines = false) :
    foldExamples sections = sections := by
  rw [foldExamples, ExampleFold.ofSections, ExampleFold.foldl_step_of_not_example h]
  rfl

/-- Among sections there is a first plain one, or a first example section and none that is plain,
or no example section. -/
theorem plain_or_named_or_others (sections : List (List String)) :
    (∃ before heading body after, sections = before ++ (heading :: body) :: after ∧
      (∀ sectionLines ∈ before, isPlainSection sectionLines = false) ∧
      isPlainExampleHeading heading = true) ∨
    (∃ before place after, sections = before ++ place :: after ∧
      (∀ sectionLines ∈ before, isExampleSection sectionLines = false) ∧
      isExampleSection place = true ∧
      ∀ sectionLines ∈ place :: after, isPlainSection sectionLines = false) ∨
    ∀ sectionLines ∈ sections, isExampleSection sectionLines = false := by
  cases hplain : sections.find? isPlainSection with
  | some place =>
    obtain ⟨hplace, before, after, rfl, hbefore⟩ := List.find?_eq_some_iff_append.mp hplain
    cases place with
    | nil => cases hplace
    | cons heading body =>
      exact .inl ⟨before, heading, body, after, rfl, by simpa using hbefore,
        by simpa [isPlainSection] using hplace⟩
  | none =>
    have hnamed (sectionLines : List String) (hmem : sectionLines ∈ sections) :
        isPlainSection sectionLines = false := by
      simpa using List.find?_eq_none.mp hplain sectionLines hmem
    cases hexample : sections.find? isExampleSection with
    | some place =>
      obtain ⟨hplace, before, after, rfl, hbefore⟩ := List.find?_eq_some_iff_append.mp hexample
      exact .inr (.inl ⟨before, place, after, rfl, by simpa using hbefore, hplace,
        fun sectionLines hmem ↦ hnamed sectionLines (List.mem_append_right _ hmem)⟩)
    | none =>
      refine .inr (.inr fun sectionLines hmem ↦ ?_)
      simpa using List.find?_eq_none.mp hexample sectionLines hmem

/-! ## What is left -/

/-- The sections that are left when example sections are folded. -/
inductive Folds : List (List String) → List (List String) → Prop
  /-- Without example sections nothing changes. -/
  | unchanged {sections : List (List String)}
      (others : ∀ sectionLines ∈ sections, isExampleSection sectionLines = false) :
      Folds sections sections
  /-- The first plain section takes up the other example sections. -/
  | plain {before after : List (List String)} {heading : String} {body lines : List String}
      (first : ∀ sectionLines ∈ before, isPlainSection sectionLines = false)
      (plain : isPlainExampleHeading heading = true)
      (text : HeadingsRaised (nonblankLines body ++ (before ++ after).flatMap titledText)
        (nonblankLines lines)) :
      Folds (before ++ (heading :: body) :: after)
        (otherSections before ++ ("## Example Usage" :: lines) :: otherSections after)
  /-- Without a plain section the first example section makes room for all. -/
  | named {before after : List (List String)} {place lines : List String}
      (first : ∀ sectionLines ∈ before, isExampleSection sectionLines = false)
      (isExample : isExampleSection place = true)
      (named : ∀ sectionLines ∈ place :: after, isPlainSection sectionLines = false)
      (text : HeadingsRaised ((place :: after).flatMap titledText) (nonblankLines lines)) :
      Folds (before ++ place :: after)
        (otherSections before ++ ("## Example Usage" :: lines) :: otherSections after)

theorem nonblankLines_dropWhile (lines : List String) :
    nonblankLines (lines.dropWhile isBlankLine) = nonblankLines lines := by
  induction lines with
  | nil => rfl
  | cons line rest ih =>
    cases hblank : isBlankLine line with
    | true => rw [List.dropWhile_cons_of_pos hblank, nonblankLines_cons_of_blank hblank, ih]
    | false => rw [List.dropWhile_cons_of_neg (by simp [hblank])]

/-- Folding leaves what `Folds` says, for every list of sections. -/
theorem folds_foldExamples (sections : List (List String)) :
    Folds sections (foldExamples sections) := by
  rcases plain_or_named_or_others sections with
    ⟨before, heading, body, after, rfl, hbefore, hplain⟩ |
      ⟨before, place, after, rfl, hbefore, hplace, hnamed⟩ | hothers
  · rw [foldExamples_plain hbefore hplain]
    refine .plain hbefore hplain ?_
    have htext := headingsRaised_raiseTitles
      ("" :: body.dropWhile isBlankLine ++ (before ++ after).flatMap addedLines)
    rwa [nonblankLines_append, nonblankLines_flatMap_addedLines, nonblankLines_cons_of_blank rfl,
      nonblankLines_dropWhile] at htext
  · rw [foldExamples_named hbefore hplace hnamed]
    refine .named hbefore hplace hnamed ?_
    have htext := headingsRaised_raiseTitles ((place :: after).flatMap addedLines)
    rwa [nonblankLines_flatMap_addedLines] at htext
  · rw [foldExamples_of_not_example hothers]
    exact .unchanged hothers

/-! ## The one section of examples -/

/-- The section begins with the heading of examples. -/
def beginsWithUsage (sectionLines : List String) : Bool :=
  sectionLines.head?.any (startsWith · "## Example Usage")

theorem countP_beginsWithUsage_otherSections {sections : List (List String)}
    (hline : ∀ sectionLines ∈ sections, ∀ heading ∈ sectionLines.head?, '\n' ∉ heading.toList) :
    (otherSections sections).countP beginsWithUsage = 0 := by
  rw [List.countP_eq_zero]
  intro sectionLines hmem hbegins
  obtain ⟨hsection, hother⟩ := List.mem_filter.mp hmem
  cases sectionLines with
  | nil => cases hbegins
  | cons heading body =>
    have hstarts : startsWith heading "## Example Usage" = true := by
      simpa [beginsWithUsage] using hbegins
    have hname := isSome_exampleName?_of_startsWith hstarts (hline _ hsection heading rfl)
    simp [isExampleSection, hname] at hother

theorem countP_beginsWithUsage_folded {before after : List (List String)} {lines : List String}
    (hbefore : (otherSections before).countP beginsWithUsage = 0)
    (hafter : (otherSections after).countP beginsWithUsage = 0) :
    (otherSections before ++ ("## Example Usage" :: lines) :: otherSections after).countP
      beginsWithUsage = 1 := by
  have hfolded : beginsWithUsage ("## Example Usage" :: lines) = true := rfl
  rw [List.countP_append, List.countP_cons_of_pos hfolded, hbefore, hafter]

theorem countP_beginsWithUsage_of_folds {sections folded : List (List String)}
    (h : Folds sections folded)
    (hline : ∀ sectionLines ∈ sections, ∀ heading ∈ sectionLines.head?, '\n' ∉ heading.toList)
    (hexample : ∃ sectionLines ∈ sections, isExampleSection sectionLines = true) :
    folded.countP beginsWithUsage = 1 := by
  cases h with
  | unchanged others =>
    obtain ⟨sectionLines, hmem, hexample⟩ := hexample
    rw [others sectionLines hmem] at hexample
    cases hexample
  | plain first plain text =>
    obtain ⟨hbefore, hafter⟩ := List.forall_mem_append.mp hline
    exact countP_beginsWithUsage_folded (countP_beginsWithUsage_otherSections hbefore)
      (countP_beginsWithUsage_otherSections (List.forall_mem_cons.mp hafter).2)
  | named first isExample named text =>
    obtain ⟨hbefore, hafter⟩ := List.forall_mem_append.mp hline
    exact countP_beginsWithUsage_folded (countP_beginsWithUsage_otherSections hbefore)
      (countP_beginsWithUsage_otherSections (List.forall_mem_cons.mp hafter).2)

/-- Folding loses no section and no line of text, and where there is an example section, exactly
one section is left that begins with the heading of examples. -/
theorem foldExamples_conserves (sections : List (List String)) :
    Folds sections (foldExamples sections) ∧
      ((∀ sectionLines ∈ sections, ∀ heading ∈ sectionLines.head?, '\n' ∉ heading.toList) →
        (∃ sectionLines ∈ sections, isExampleSection sectionLines = true) →
          (foldExamples sections).countP beginsWithUsage = 1) := by
  have hfolds := folds_foldExamples sections
  exact ⟨hfolds, countP_beginsWithUsage_of_folds hfolds⟩

/-- Sections of which the plain example section is neither the first nor the last. -/
def queueSections : List (List String) :=
  [["# Queue"], ["## Example Usage - dead letters", "#### Basic", "", "```"],
    ["## Notes", "Text."], ["## example usage ", "", "```"], ["## Example Usage", "More."]]

theorem foldExamples_conserves_queueSections :
    (∀ sectionLines ∈ queueSections, ∀ heading ∈ sectionLines.head?, '\n' ∉ heading.toList) ∧
      (∃ sectionLines ∈ queueSections, isExampleSection sectionLines = true) ∧
      (foldExamples queueSections).countP beginsWithUsage = 1 ∧
      foldExamples queueSections =
        [["# Queue"], ["## Notes", "Text."],
          ["## Example Usage", "", "```", "### Dead Letters", "### Basic", "", "```", "",
            "### Additional Examples", "More."]] := by
  have hline : ∀ sectionLines ∈ queueSections, ∀ heading ∈ sectionLines.head?,
      '\n' ∉ heading.toList := by decide
  have hexample : ∃ sectionLines ∈ queueSections, isExampleSection sectionLines = true := by
    decide
  exact ⟨hline, hexample, (foldExamples_conserves queueSections).2 hline hexample, by decide⟩

end Markdown

end ProviderDocs
