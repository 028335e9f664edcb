import ProviderDocs.Proofs.Markdown.ExampleFold

/-!
# Titles of examples

An example stands below a title that is cut out of its heading: the text behind `Example Usage`,
without a link word or a run of punctuation at its front. The link word may be the beginning of a
longer one, as in `Example Usage Format`, and nothing may be left behind it. All other titles keep
the words of their headings.
-/

namespace ProviderDocs

namespace Markdown

/-! ## Link words -/

/-- The word `for` or `of`, in any case. -/
def IsLinkWord (word : List Char) : Prop :=
  word.map Text.fold = "for".toList ∨ word.map Text.fold = "of".toList

/-- A whole run of punctuation before the words. -/
def IsRun (run words : List Char) : Prop :=
  run ≠ [] ∧ (∀ c ∈ run, Text.isPunctuation c = true) ∧
    ∀ c ∈ words.head?, Text.isPunctuation c = false

/-- What leads over to the words: a link word, even as the beginning of a longer word, or a run of
punctuation, or nothing when the words begin with neither. -/
inductive IsLink : List Char → List Char → Prop
  | word {link words : List Char} (isWord : IsLinkWord link) : IsLink link words
  | run {link words : List Char} (isRun : IsRun link words) : IsLink link words
  | nothing {words : List Char}
      (others : ∀ link rest, words = link ++ rest → ¬ IsLinkWord link ∧ ¬ IsRun link rest) :
      IsLink [] words

/-- Some words of a text are kept, and all but a run of punctuation or a link word at its front. The
link word has to be a whole one; `inWord` tells which characters go on with a word. -/
def KeepsWords (inWord : Char → Bool) (text kept : List Char) : Prop :=
  kept ≠ [] ∧ ∃ link words, text = link ++ words ∧ kept = Text.trim words ∧
    (link = [] ∨ IsRun link words ∨ (IsLinkWord link ∧ ∀ c ∈ words.head?, inWord c = false))

theorem ne_nil_of_isLinkWord {word : List Char} (h : IsLinkWord word) : word ≠ [] := by
  rintro rfl
  rcases h with h | h <;> cases h

/-- Link words hold neither blank characters nor punctuation. -/
theorem class_of_isLinkWord {word : List Char} (h : IsLinkWord word) :
    ∀ c ∈ word, Text.isBlank c = false ∧ Text.isPunctuation c = false := by
  have hall : (word.map Text.fold).all (fun letter ↦
      !Text.isBlank letter && !Text.isPunctuation letter) = true := by
    rcases h with h | h <;> rw [h] <;> decide +kernel
  have hfolded : ∀ letter ∈ word.map Text.fold,
      Text.isBlank letter = false ∧ Text.isPunctuation letter = false := by
    simpa using hall
  intro c hc
  obtain ⟨hblank, hpunctuation⟩ := hfolded _ (List.mem_map_of_mem hc)
  simp only [Bool.eq_false_iff]
  constructor
  · intro h
    rw [Text.fold_of_isBlank h, h] at hblank
    cases hblank
  · intro h
    rw [Text.fold_of_isPunctuation h, h] at hpunctuation
    cases hpunctuation

theorem not_isLinkWord_of_isRun {run words : List Char} (h : IsRun run words) :
    ¬ IsLinkWord run := by
  intro hword
  obtain ⟨hne, hall, -⟩ := h
  obtain ⟨c, rest, rfl⟩ := List.exists_cons_of_ne_nil hne
  have hc := (class_of_isLinkWord hword c List.mem_cons_self).2
  exact Bool.false_ne_true (hc.symm.trans (hall c List.mem_cons_self))

theorem IsLink.isBlank_of_mem {link words : List Char} (h : IsLink link words) :
    ∀ c ∈ link, Text.isBlank c = false := by
  intro c hc
  cases h with
  | word isWord => exact (class_of_isLinkWord isWord c hc).1
  | run isRun =>
    rw [Bool.eq_false_iff]
    intro hblank
    exact Bool.false_ne_true
      ((Text.isPunctuation_of_isBlank hblank).symm.trans (isRun.2.1 c hc))
  | nothing others => cases hc

/-! ## Names -/

theorem isRun_iff_span1? {run words : List Char} :
    IsRun run words ↔ Text.span1? Text.isPunctuation (run ++ words) = some (run, words) := by
  rw [Text.span1?_eq_some_iff]
  exact ⟨fun ⟨hne, hall, hhead⟩ ↦ ⟨hne, hall, hhead, rfl⟩,
    fun ⟨hne, hall, hhead, _⟩ ↦ ⟨hne, hall, hhead⟩⟩

/-- What is read before the words is a link word or a run of punctuation. -/
theorem exists_link_of_afterLinkWord? {text behind : List Char}
    (h : afterLinkWord? text = some behind) :
    ∃ link words, text = link ++ words ∧ (IsLinkWord link ∨ IsRun link words) ∧
      behind = Text.dropBlank words := by
  obtain ⟨words, hread, rfl⟩ := Option.map_eq_some_iff.mp h
  rcases Option.or_eq_some_iff.mp hread with hfor | ⟨-, hread⟩
  · obtain ⟨word, hword, rfl⟩ := Text.afterFolded?_eq_some_iff.mp hfor
    exact ⟨word, words, rfl, .inl (.inl hword), rfl⟩
  rcases Option.or_eq_some_iff.mp hread with hof | ⟨-, hread⟩
  · obtain ⟨word, hword, rfl⟩ := Text.afterFolded?_eq_some_iff.mp hof
    exact ⟨word, words, rfl, .inl (.inr hword), rfl⟩
  · obtain ⟨⟨run, _⟩, hspan, rfl⟩ := Option.map_eq_some_iff.mp hread
    obtain ⟨-, -, -, rfl⟩ := Text.span1?_eq_some_iff.mp hspan
    exact ⟨run, _, rfl, .inr (isRun_iff_span1?.mpr hspan), rfl⟩

theorem isLink_of_afterLinkWord?_eq_none {text : List Char} (h : afterLinkWord? text = none) :
    IsLink [] text := by
  simp only [afterLinkWord?, Option.map_eq_none_iff, Option.or_eq_none_iff] at h
  obtain ⟨hfor, hof, hrun⟩ := h
  refine .nothing fun link rest htext ↦ ⟨?_, ?_⟩
  · rintro (hword | hword)
    · rw [Text.afterFolded?_eq_some_iff.mpr ⟨link, hword, htext⟩] at hfor
      cases hfor
    · rw [Text.afterFolded?_eq_some_iff.mpr ⟨link, hword, htext⟩] at hof
      cases hof
  · rintro hlink
    rw [htext, isRun_iff_span1?.mp hlink] at hrun
    cases hrun

theorem titleText?_eq_some_iff {text title : List Char} :
    titleText? text = some title ↔ '\n' ∉ title ∧ title = Text.dropBlankEnd text := by
  unfold titleText?
  rw [Option.ite_none_left_eq_some, Option.some_inj]
  constructor
  · rintro ⟨hfeed, rfl⟩
    exact ⟨by simpa using hfeed, rfl⟩
  · rintro ⟨hfeed, rfl⟩
    exact ⟨by simpa using hfeed, rfl⟩

/-- The name of an example is what its heading says behind what leads over to it. -/
theorem exists_link_of_exampleName? {heading name : String} (h : exampleName? heading = some name) :
    ∃ rest link words,
      Text.afterFolded? "## example usage".toList heading.toList = some rest ∧
        Text.dropBlank rest = link ++ words ∧ IsLink link words ∧
        name = String.ofList (Text.trim words) := by
  simp only [exampleName?, Option.bind_eq_bind, Option.bind_eq_some_iff, Option.some_inj] at h
  obtain ⟨rest, hrest, title, htitle, rfl⟩ := h
  refine ⟨rest, ?_⟩
  cases hlink : afterLinkWord? (Text.dropBlank rest) with
  | none =>
    rw [hlink, Option.bind_none, Option.none_or] at htitle
    obtain ⟨-, rfl⟩ := titleText?_eq_some_iff.mp htitle
    exact ⟨[], Text.dropBlank rest, hrest, rfl, isLink_of_afterLinkWord?_eq_none hlink,
      by rw [Text.trim, Text.dropBlank_dropBlank]⟩
  | some behind =>
    obtain ⟨link, words, htext, hlead, rfl⟩ := exists_link_of_afterLinkWord? hlink
    refine ⟨link, words, hrest, htext, hlead.elim .word .run, ?_⟩
    rw [hlink, Option.bind_some, Option.or_eq_some_iff] at htitle
    rcases htitle with hbehind | ⟨hnone, hwhole⟩
    · exact congrArg String.ofList (titleText?_eq_some_iff.mp hbehind).2
    · -- A line feed among the words is one in the whole text as well.
      exfalso
      obtain ⟨hfeed, rfl⟩ := titleText?_eq_some_iff.mp hwhole
      have hmem : '\n' ∈ Text.trim words := by
        refine Classical.byContradiction fun hwords ↦ ?_
        rw [titleText?_eq_some_iff.mpr ⟨hwords, rfl⟩] at hnone
        cases hnone
      rw [htext, Text.dropBlankEnd_append_of_trim_ne (List.ne_nil_of_mem hmem)] at hfeed
      exact hfeed (List.mem_append_right _ hmem)

/-- The words behind a link word are kept unless nothing is left of them or the link word is none
by itself. -/
theorem keepsWords_trim_iff (inWord : Char → Bool) {link words : List Char}
    (h : IsLink link words) :
    KeepsWords inWord (link ++ words) (Text.trim words) ↔
      words.all Text.isBlank = false ∧
        (IsLinkWord link → ∀ c ∈ words.head?, inWord c = false) := by
  rw [KeepsWords, Ne, Text.trim_eq_nil_iff, Bool.not_eq_true]
  refine and_congr_right fun hne ↦ ?_
  have hnonempty : Text.trim words ≠ [] := by
    rw [Ne, Text.trim_eq_nil_iff, Bool.not_eq_true]
    exact hne
  constructor
  · rintro ⟨other, others, htext, htrim, hother⟩ hword
    have hblank : ∀ c ∈ other, Text.isBlank c = false := by
      rcases hother with rfl | hrun | ⟨hother, -⟩
      · exact fun c hc ↦ absurd hc List.not_mem_nil
      · exact (IsLink.run hrun).isBlank_of_mem
      · exact fun c hc ↦ (class_of_isLinkWord hother c hc).1
    obtain ⟨rfl, rfl⟩ :=
      Text.eq_of_append_eq_append h.isBlank_of_mem hblank htext htrim hnonempty
    rcases hother with rfl | hrun | ⟨-, hwhole⟩
    · exact absurd rfl (ne_nil_of_isLinkWord hword)
    · exact absurd hword (not_isLinkWord_of_isRun hrun)
    · exact hwhole
  · intro hwhole
    refine ⟨link, words, rfl, rfl, ?_⟩
    cases h with
    | word isWord => exact .inr (.inr ⟨isWord, hwhole isWord⟩)
    | run isRun => exact .inr (.inl isRun)
    | nothing others => exact .inl rfl

/-! ## Titles -/

/-- The lines stand below the title in one of the sections, with some headings raised and maybe more
lines below them. -/
def StandsBelow (title : String) (lines : List String) (sections : List (List String)) : Prop :=
  ∃ sectionLines ∈ sections, ∃ before more,
    sectionLines = before ++ title :: raiseTitles (lines ++ more)

theorem exists_raiseTitles_append (before rest : List String) :
    ∃ raised, raiseTitles (before ++ rest) = raised ++ raiseTitles rest := by
  induction before with
  | nil => exact ⟨[], rfl⟩
  | cons line before ih =>
    obtain ⟨raised, hraised⟩ := ih
    exact ⟨_ :: raised, by rw [List.cons_append, raiseTitles, hraised, List.cons_append]⟩

theorem raiseTitles_subheading (title : String) (rest : List String) :
    raiseTitles (("### " ++ title) :: rest) = ("### " ++ title) :: raiseTitles rest := by
  have hnone : after? ("### " ++ title) "#### " = none := by
    rw [after?_eq_none_iff, startsWith, String.toList_append]
    rfl
  rw [raiseTitles, hnone]

/-- Lines below a title stay there when they are put among others. -/
theorem standsBelow_of_mem {sections : List (List String)} {heading name : String}
    {body lines before after : List String} (hname : exampleName? heading = some name)
    (hplain : isPlainExampleHeading heading = false)
    (hlines : lines = before ++ addedLines (heading :: body) ++ after)
    (hmem : ("## Example Usage" :: raiseTitles lines) ∈ sections) :
    StandsBelow ("### " ++ Naming.titleCase name) body sections := by
  obtain ⟨spacing, hadded⟩ : ∃ spacing, addedLines (heading :: body) =
      spacing ++ ("### " ++ Naming.titleCase name) :: body := by
    simp only [addedLines, hname, exampleTitle, hplain, Bool.false_eq_true, if_false]
    exact ⟨_, rfl⟩
  obtain ⟨raised, hraised⟩ := exists_raiseTitles_append (before ++ spacing)
    (("### " ++ Naming.titleCase name) :: (body ++ after))
  refine ⟨_, hmem, "## Example Usage" :: raised, after, ?_⟩
  rw [hlines, hadded, ← raiseTitles_subheading]
  simpa using hraised

theorem exists_flatMap_eq {sections : List (List String)} {sectionLines : List String}
    (h : sectionLines ∈ sections) :
    ∃ before after, sections.flatMap addedLines = before ++ addedLines sectionLines ++ after := by
  obtain ⟨before, after, rfl⟩ := List.append_of_mem h
  exact ⟨before.flatMap addedLines, after.flatMap addedLines, by simp⟩

/-- A section with a name stands below it once the sections are folded. -/
theorem standsBelow_foldExamples {sections : List (List String)} {heading name : String}
    {body : List String} (hmem : (heading :: body) ∈ sections)
    (hname : exampleName? heading = some name)
    (hplain : isPlainExampleHeading heading = false) :
    StandsBelow ("### " ++ Naming.titleCase name) body (foldExamples sections) := by
  rcases plain_or_named_or_others sections with
    ⟨before, place, lines, after, rfl, hbefore, hplace⟩ |
      ⟨before, place, after, rfl, hbefore, hplace, hnamed⟩ | hothers
  · have hrest : (heading :: body) ∈ before ++ after := by
      rcases List.mem_append.mp hmem with hfront | hback
      · exact List.mem_append_left _ hfront
      · rcases List.mem_cons.mp hback with heq | hback
        · obtain ⟨rfl, -⟩ := List.cons.inj heq
          exact absurd (hplace.symm.trans hplain) (by decide)
        · exact List.mem_append_right _ hback
    obtain ⟨front, behind, hadded⟩ := exists_flatMap_eq hrest
    rw [foldExamples_plain hbefore hplace]
    have hlines : "" :: lines.dropWhile isBlankLine ++ (before ++ after).flatMap addedLines =
        ("" :: lines.dropWhile isBlankLine ++ front) ++ addedLines (heading :: body) ++ behind := by
      simp only [hadded, List.append_assoc]
    exact standsBelow_of_mem hname hplain hlines (List.mem_append_right _ List.mem_cons_self)
  · have hrest : (heading :: body) ∈ place :: after := by
      rcases List.mem_append.mp hmem with hfront | hback
      · have hother := hbefore _ hfront
        rw [isExampleSection, hname] at hother
        cases hother
      · exact hback
    obtain ⟨front, behind, hadded⟩ := exists_flatMap_eq hrest
    rw [foldExamples_named hbefore hplace hnamed]
    exact standsBelow_of_mem hname hplain hadded (List.mem_append_right _ List.mem_cons_self)
  · have hother := hothers _ hmem
    rw [isExampleSection, hname] at hother
    cases hother

/-- Every named example stands below the words of its heading, in title case and without what leads
over to them. It keeps the words exactly when some are left, and a link word is left out only where
it is a whole word. -/
theorem standsBelow_foldExamples_and_keepsWords_iff (inWord : Char → Bool)
    {sections : List (List String)} {heading : String} {body : List String}
    (hmem : (heading :: body) ∈ sections) (hexample : isExampleSection (heading :: body) = true)
    (hplain : isPlainSection (heading :: body) = false) :
    ∃ rest link words,
      Text.afterFolded? "## example usage".toList heading.toList = some rest ∧
        Text.dropBlank rest = link ++ words ∧ IsLink link words ∧
        StandsBelow ("### " ++ Naming.titleCase (String.ofList (Text.trim words))) body
          (foldExamples sections) ∧
        (KeepsWords inWord (Text.dropBlank rest) (Text.trim words) ↔
          words.all Text.isBlank = false ∧
            (IsLinkWord link → ∀ c ∈ words.head?, inWord c = false)) := by
  obtain ⟨name, hname⟩ := Option.isSome_iff_exists.mp hexample
  have hplain : isPlainExampleHeading heading = false := by simpa [isPlainSection] using hplain
  obtain ⟨rest, link, words, hrest, htext, hlink, rfl⟩ := exists_link_of_exampleName? hname
  refine ⟨rest, link, words, hrest, htext, hlink, standsBelow_foldExamples hmem hname hplain, ?_⟩
  rw [htext]
  exact keepsWords_trim_iff inWord hlink

/-- Named examples, of which the second one has a word in its heading that begins with `for`. -/
def functionSections : List (List String) :=
  [["## Example Usage", "Basic."], ["## Example Usage for lambda functions", "Lambda."],
    ["## Example Usage Format", "Format."]]

theorem standsBelow_foldExamples_functionSections :
    ["## Example Usage for lambda functions", "Lambda."] ∈ functionSections ∧
      isExampleSection ["## Example Usage for lambda functions", "Lambda."] = true ∧
      isPlainSection ["## Example Usage for lambda functions", "Lambda."] = false ∧
      ∃ rest link words,
        Text.afterFolded? "## example usage".toList
            "## Example Usage for lambda functions".toList = some rest ∧
          Text.dropBlank rest = link ++ words ∧ IsLink link words ∧
          StandsBelow ("### " ++ Naming.titleCase (String.ofList (Text.trim words))) ["Lambda."]
            (foldExamples functionSections) ∧
          (KeepsWords Char.isAlphanum (Text.dropBlank rest) (Text.trim words) ↔
            words.all Text.isBlank = false ∧
              (IsLinkWord link → ∀ c ∈ words.head?, Char.isAlphanum c = false)) ∧
          foldExamples functionSections = [["## Example Usage", "", "Basic.", "",
            "### Lambda Functions", "Lambda.", "", "### Mat", "Format."]] := by
  have hmem : ["## Example Usage for lambda functions", "Lambda."] ∈ functionSections := by decide
  have hexample : isExampleSection ["## Example Usage for lambda functions", "Lambda."] = true := by
    decide +kernel
  have hplain : isPlainSection ["## Example Usage for lambda functions", "Lambda."] = false := by
    decide +kernel
  have hfolded : foldExamples functionSections = [["## Example Usage", "", "Basic.", "",
      "### Lambda Functions", "Lambda.", "", "### Mat", "Format."]] := by
    decide +kernel
  obtain ⟨rest, link, words, hrest, htext, hlink, hbelow, hkeeps⟩ :=
    standsBelow_foldExamples_and_keepsWords_iff Char.isAlphanum hmem hexample hplain
  exact ⟨hmem, hexample, hplain, rest, link, words, hrest, htext, hlink, hbelow, hkeeps, hfolded⟩

/-- A word that begins with a link word is no link word by itself, so it is kept. -/
theorem eq_of_keepsWords_format {kept : List Char}
    (h : KeepsWords Char.isAlphanum "Format".toList kept) : kept = "Format".toList := by
  obtain ⟨-, link, words, htext, rfl, rfl | ⟨hne, hall, -⟩ | ⟨hword, hwhole⟩⟩ := h
  · rw [List.nil_append] at htext
    rw [← htext]
    decide +kernel
  · obtain ⟨c, rest, rfl⟩ := List.exists_cons_of_ne_nil hne
    obtain rfl : 'F' = c := (List.cons.inj htext).1
    exact absurd (hall 'F' List.mem_cons_self) (by decide +kernel)
  · have hcut (length : Nat) (hlength : link.length = length) :
        link = "Format".toList.take length ∧ words = "Format".toList.drop length := by
      rw [htext, ← hlength, List.take_left, List.drop_left]
      exact ⟨rfl, rfl⟩
    rcases hword with hfor | hof
    · obtain ⟨-, rfl⟩ := hcut 3 (by simpa using congrArg List.length hfor)
      exact absurd (hwhole 'm' rfl) (by decide)
    · obtain ⟨rfl, -⟩ := hcut 2 (by simpa using congrArg List.length hof)
      exact absurd hof (by decide +kernel)

/-- A title may lose the beginning of a word. -/
theorem not_keepsWords_foldExamples :
    ¬ ∀ (sections : List (List String)) (heading : String) (body : List String),
      (heading :: body) ∈ sections → isExampleSection (heading :: body) = true →
        isPlainSection (heading :: body) = false →
          ∃ rest kept,
            Text.afterFolded? "## example usage".toList heading.toList = some rest ∧
              KeepsWords Char.isAlphanum (Text.dropBlank rest) kept ∧
              StandsBelow ("### " ++ Naming.titleCase (String.ofList kept)) body
                (foldExamples sections) := by
  intro hall
  obtain ⟨rest, kept, hrest, hkeeps, sectionLines, hmem, before, more, heq⟩ :=
    hall [["## Example Usage Format"]] "## Example Usage Format" [] (by decide)
      (by decide +kernel) (by decide +kernel)
  have hread : Text.afterFolded? "## example usage".toList "## Example Usage Format".toList =
      some " Format".toList := by decide +kernel
  obtain rfl : rest = " Format".toList := Option.some_inj.mp (hrest.symm.trans hread)
  obtain rfl := eq_of_keepsWords_format hkeeps
  have hfolded : foldExamples [["## Example Usage Format"]] =
      [["## Example Usage", "", "### Mat"]] := by
    decide +kernel
  rw [hfolded, List.mem_singleton] at hmem
  have htitle : "### " ++ Naming.titleCase (String.ofList "Format".toList) ∈ sectionLines := by
    rw [heq]
    exact List.mem_append_right _ List.mem_cons_self
  rw [hmem] at htitle
  exact absurd htitle (by decide +kernel)

end Markdown

end ProviderDocs
