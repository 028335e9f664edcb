import ProviderDocs.Markdown.Document
import ProviderDocs.Proofs.Markdown.Description
import ProviderDocs.Proofs.Markdown.Section
import ProviderDocs.Proofs.Text.Lines

/-!
# The prose of a document

What a description holds before cleanup, blank lines aside, is the prose of the sections, one
section after the other. Every function that reads a part of a document adds whole lines to the
description, and no other function changes it.
-/

namespace ProviderDocs

namespace Markdown

/-! ## Prose -/

/-- Lines of text, the first title left out. -/
def untitledText (lines : List String) : List String :=
  (nonblankLines lines).eraseP (startsWith · "# ")

/-- A group of lines below a heading `### ` is text when it is not about timeouts and holds more
than blank lines, fences and buttons. -/
def isKept (group : List String) : Bool :=
  group.head?.all (trimmed · != "### Timeouts") &&
    (withoutButtons false group).any fun line ↦ !(isFence line || isBlankLine line)

/-- The groups of lines in the body of a section that are text. -/
def keptGroups (body : List String) : List (List String) :=
  (sectionize "### " body).filter isKept

/-- What a section adds to a description, blank lines aside. -/
def prose (sectionLines : List String) : List String :=
  match sectionLines with
  | [] => []
  | first :: body =>
    match SectionKind.ofLine first with
    | .frontMatter => untitledText ((body.dropWhile (!FrontMatter.isDelimiter ·)).drop 1)
    | .preamble => untitledText sectionLines
    | .exampleUsage | .other =>
      if (keptGroups body).isEmpty then []
      else ("## " ++ Reading.headerOf first) ::
        (keptGroups body).flatMap fun group ↦ nonblankLines (withoutButtons false group)
    | _ => []

theorem untitledText_subset (lines : List String) : untitledText lines ⊆ lines :=
  (List.eraseP_sublist.trans List.filter_sublist).subset

theorem flatMap_keptGroups_subset (body : List String) :
    ((keptGroups body).flatMap fun group ↦ nonblankLines (withoutButtons false group)) ⊆ body := by
  intro line hline
  obtain ⟨group, hgroup, hline⟩ := List.mem_flatMap.mp hline
  apply subset_of_mem_sectionize (List.mem_filter.mp hgroup).1
  exact (withoutButtons_sublist false group).subset (List.mem_filter.mp hline).1

/-! ## The head of a document -/

namespace FrontMatter

/-- The lines of text that are left to write, the first title left out unless it was found. -/
def remainingText (foundTitle : Bool) (lines : List String) : List String :=
  if foundTitle then nonblankLines lines else untitledText lines

/-- The line is the title that is left out. -/
def isTitle (foundTitle : Bool) (line : String) : Bool := !foundTitle && startsWith line "# "

theorem remainingText_cons (foundTitle : Bool) (line : String) (rest : List String) :
    remainingText foundTitle (line :: rest) =
      (if isTitle foundTitle line then [] else nonblankLines [line]) ++
        remainingText (foundTitle || isTitle foundTitle line) rest := by
  cases foundTitle with
  | true => exact nonblankLines_cons line rest
  | false =>
    cases htitle : startsWith line "# " with
    | true =>
      have hblank : isBlankLine line = false := by
        obtain ⟨title, rfl⟩ := startsWith_iff.mp htitle
        rw [isBlankLine_append]
        rfl
      simp [remainingText, isTitle, untitledText, htitle,
        nonblankLines_cons_of_not_blank hblank]
    | false =>
      cases hblank : isBlankLine line with
      | true =>
        simp [remainingText, isTitle, untitledText, htitle, nonblankLines_cons_of_blank hblank]
      | false =>
        simp [remainingText, isTitle, untitledText, htitle,
          nonblankLines_cons_of_not_blank hblank]

theorem foundTitle_step (reading : Reading) (line : String) :
    (reading.step line).foundTitle =
      (reading.foundTitle || isTitle reading.foundTitle line) := by
  rw [Reading.step]
  split
  case isTrue htitle => simp [isTitle, htitle]
  case isFalse htitle => split <;> simp [isTitle, htitle]

theorem writes_step {reading : Reading} {written : List String}
    (hreading : Writes reading.description written) {line : String} (hline : '\n' ∉ line.toList) :
    Writes (reading.step line).description
      (written ++ if isTitle reading.foundTitle line then [] else nonblankLines [line]) := by
  rw [Reading.step]
  split
  case isTrue htitle => simpa [isTitle, htitle] using hreading
  case isFalse htitle =>
    rw [isTitle, if_neg htitle]
    split
    case isTrue hblank => simpa [nonblankLines_cons_of_blank hblank] using hreading
    case isFalse hblank =>
      have hgap : Writes (if reading.pendingBlank then "\n" else "") [] := by
        cases reading.pendingBlank with
        | true => exact .newline
        | false => exact .empty
      have hwritten := (hreading.append hgap).append (.of_line hline)
      rwa [List.append_nil, ← String.append_assoc] at hwritten

/-- Reading prose writes its lines of text, and drops a title when none was found before. -/
theorem writes_foldl_step {reading : Reading} {written : List String}
    (hreading : Writes reading.description written) {lines : List String} (h : AreLines lines) :
    Writes (lines.foldl Reading.step reading).description
      (written ++ remainingText reading.foundTitle lines) := by
  -- Whether a title was found so far decides what the rest of the lines comes to.
  induction lines generalizing reading written with
  | nil =>
    have hnil : remainingText reading.foundTitle [] = [] := by
      cases reading.foundTitle <;> rfl
    rwa [hnil, List.append_nil]
  | cons line rest ih =>
    obtain ⟨hline, hrest⟩ := List.forall_mem_cons.mp h
    have hnext := ih (writes_step hreading hline) hrest
    rwa [foundTitle_step, List.append_assoc, ← remainingText_cons] at hnext

theorem writes_ofPreamble {lines : List String} (h : AreLines lines) :
    Writes (ofPreamble lines).description (untitledText lines) := by
  have hstart : Writes (Reading.description ⟨"", false, false⟩) [] := .empty
  exact writes_foldl_step hstart h

theorem writes_ofLines {lines : List String} (h : AreLines lines) :
    Writes (ofLines lines).description
      (untitledText ((lines.dropWhile (!isDelimiter ·)).drop 1)) := by
  have hsubset : lines.dropWhile (!isDelimiter ·) ⊆ lines := (List.dropWhile_sublist _).subset
  rw [ofLines]
  split
  case h_1 closing prose hlines =>
    rw [hlines, List.drop_succ_cons, List.drop_zero]
    rw [hlines] at hsubset
    exact writes_ofPreamble (h.of_subset (List.subset_of_cons_subset hsubset))
  case h_2 hlines =>
    rw [hlines]
    exact .empty

end FrontMatter

/-! ## Descriptions that grow -/

namespace Reading

/-- The description gained whole lines, and these are the ones that are not blank. -/
def Adds (reading later : Reading) (lines : List String) : Prop :=
  ∃ text, later.doc.description = reading.doc.description ++ text ∧ Writes text lines

namespace Adds

variable {first second third : Reading}

theorem of_eq (h : second.doc.description = first.doc.description) : Adds first second [] :=
  ⟨"", by rw [h, String.append_empty], .empty⟩

theorem trans {lines more : List String} (h : Adds first second lines)
    (hmore : Adds second third more) : Adds first third (lines ++ more) := by
  obtain ⟨text, htext, hwrites⟩ := h
  obtain ⟨rest, hrest, hwritesRest⟩ := hmore
  exact ⟨text ++ rest, by rw [hrest, htext, String.append_assoc], hwrites.append hwritesRest⟩

theorem describe (reading : Reading) {text : String} {lines : List String}
    (h : Writes text lines) : Adds reading (reading.describe text) lines :=
  ⟨text, rfl, h⟩

/-- Steps one after the other add what each of them adds. -/
theorem foldl {α : Type} {step : Reading → α → Reading} {added : α → List String}
    {items : List α} (h : ∀ item ∈ items, ∀ reading, Adds reading (step reading item) (added item))
    (reading : Reading) : Adds reading (items.foldl step reading) (items.flatMap added) := by
  induction items generalizing reading with
  | nil => exact .of_eq rfl
  | cons item rest ih =>
    obtain ⟨hitem, hrest⟩ := List.forall_mem_cons.mp h
    exact (hitem reading).trans (ih hrest _)

end Adds

/-! ## Subsections -/

theorem isBlankLine_header (header : String) : isBlankLine ("## " ++ header) = false := by
  rw [isBlankLine_append]
  rfl

theorem writes_headerText {header : String} (h : '\n' ∉ header.toList) (lines : List String) :
    Writes (headerText header lines) ["## " ++ header] := by
  have hline : '\n' ∉ ("## " ++ header).toList := by simpa using h
  have hheader := Writes.of_line hline
  rw [nonblankLines_cons_of_not_blank (isBlankLine_header header)] at hheader
  have hgap : Writes (if lines.head?.any isBlankLine then "" else "\n") [] := by
    cases lines.head?.any isBlankLine with
    | true => exact .empty
    | false => exact .newline
  exact hheader.append hgap

theorem adds_addProse (reading : Reading) {header : String} (hheader : '\n' ∉ header.toList)
    (isFirst : Bool) (firstLine : String) {subsection : Subsection}
    (hlines : AreLines subsection.lines) :
    Adds reading (reading.addProse header isFirst firstLine subsection)
      ((if isFirst then ["## " ++ header] else []) ++ nonblankLines subsection.lines) := by
  have hscan : Adds reading
      (reading.scanTitled ((after? firstLine "### ").getD header) subsection.lines) [] :=
    .of_eq (congrArg EntityDoc.description (withoutArguments_scanTitled ..) :)
  have hfirst : Writes (if isFirst then headerText header subsection.lines else "")
      (if isFirst then ["## " ++ header] else []) := by
    cases isFirst with
    | true => exact writes_headerText hheader _
    | false => exact .empty
  rw [addProse_eq]
  exact hscan.trans (.describe _ (hfirst.append (.of_lines hlines)))

theorem map_keptSubsection? (group : List String) :
    (keptSubsection? group).map (·.2) =
      if isKept group then some (Subsection.ofLines group) else none := by
  cases group with
  | nil => rfl
  | cons first rest =>
    have hempty : (Subsection.ofLines (first :: rest)).isEmpty =
        !(withoutButtons false (first :: rest)).any
          fun line ↦ !(isFence line || isBlankLine line) := by
      simp [Subsection.ofLines, List.not_any_eq_all_not]
    rw [keptSubsection?, isKept, List.head?_cons, Option.all_some]
    by_cases htimeouts : trimmed first = "### Timeouts"
    · simp [htimeouts]
    · simp only [htimeouts, if_false, hempty]
      cases (withoutButtons false (first :: rest)).any
        fun line ↦ !(isFence line || isBlankLine line) <;> simp [htimeouts]

theorem map_filterMap_keptSubsection? (groups : List (List String)) :
    (groups.filterMap keptSubsection?).map (·.2) =
      (groups.filter isKept).map Subsection.ofLines := by
  rw [List.map_filterMap]
  simp only [map_keptSubsection?]
  induction groups with
  | nil => rfl
  | cons group rest ih => cases hkept : isKept group <;> simp [hkept, ih]

/-- What subsections add, when the first of them comes with the heading. -/
theorem flatMap_zipIdx_heading {α : Type} (heading : String) (text : α → List String)
    (items : List α) :
    (items.zipIdx.flatMap fun entry ↦
        (if entry.2 = 0 then [heading] else []) ++ text entry.1) =
      if items.isEmpty then [] else heading :: items.flatMap text := by
  have hlater (items : List α) (start : Nat) :
      ((items.zipIdx (start + 1)).flatMap fun entry ↦
        (if entry.2 = 0 then [heading] else []) ++ text entry.1) = items.flatMap text := by
    induction items generalizing start with
    | nil => rfl
    | cons item rest ih => simp [List.zipIdx_cons, ih]
  cases items with
  | nil => rfl
  | cons item rest => simp [List.zipIdx_cons, hlater]

theorem areLines_of_mem_kept {body : List String} (h : AreLines body)
    {entry : String × Subsection}
    (hentry : entry ∈ (sectionize "### " body).filterMap keptSubsection?) :
    AreLines entry.2.lines := by
  have hmem := List.mem_map_of_mem (f := Prod.snd) hentry
  rw [map_filterMap_keptSubsection?] at hmem
  obtain ⟨group, hgroup, hlines⟩ := List.mem_map.mp hmem
  rw [← hlines]
  exact (h.of_subset (subset_of_mem_sectionize (List.mem_filter.mp hgroup).1)).of_subset
    (withoutButtons_sublist false group).subset

theorem flatMap_kept (body : List String) :
    (((sectionize "### " body).filterMap keptSubsection?).flatMap fun entry ↦
        nonblankLines entry.2.lines) =
      (keptGroups body).flatMap fun group ↦ nonblankLines (withoutButtons false group) := by
  have hmap := congrArg (List.flatMap fun subsection : Subsection ↦ nonblankLines subsection.lines)
    (map_filterMap_keptSubsection? (sectionize "### " body))
  rwa [List.flatMap_map, List.flatMap_map] at hmap

theorem isEmpty_kept (body : List String) :
    ((sectionize "### " body).filterMap keptSubsection?).isEmpty = (keptGroups body).isEmpty := by
  have hmap := congrArg List.isEmpty (map_filterMap_keptSubsection? (sectionize "### " body))
  rwa [List.isEmpty_map, List.isEmpty_map] at hmap

/-- The subsections of a section of prose are written below its heading. -/
theorem adds_addSubsections_prose (reading : Reading) {kind : SectionKind}
    (hkind : kind = .exampleUsage ∨ kind = .other) {header : String}
    (hheader : '\n' ∉ header.toList) (token : Option String) {body : List String}
    (hbody : AreLines body) :
    Adds reading (reading.addSubsections kind header token body)
      (if (keptGroups body).isEmpty then []
      else ("## " ++ header) ::
        (keptGroups body).flatMap fun group ↦ nonblankLines (withoutButtons false group)) := by
  -- Every entry writes its own lines, and the one with index 0 the heading above them.
  have hstep (entry : (String × Subsection) × Nat)
      (hentry : entry ∈ ((sectionize "### " body).filterMap keptSubsection?).zipIdx)
      (reading : Reading) :
      Adds reading
        ((reading.countSnippets kind entry.1.2).addSubsection kind header token (entry.2 = 0)
          entry.1.1 entry.1.2)
        ((if entry.2 = 0 then ["## " ++ header] else []) ++ nonblankLines entry.1.2.lines) := by
    have hlines := areLines_of_mem_kept hbody (List.fst_mem_of_mem_zipIdx hentry)
    have hcount := Adds.of_eq
      (congrArg EntityDoc.description (doc_countSnippets reading kind entry.1.2))
    have hprose := adds_addProse (reading.countSnippets kind entry.1.2) hheader (entry.2 = 0)
      entry.1.1 hlines
    simp only [decide_eq_true_eq] at hprose
    rcases hkind with rfl | rfl <;> exact hcount.trans hprose
  have hadds := Adds.foldl hstep reading
  rwa [flatMap_zipIdx_heading ("## " ++ header) fun entry : String × Subsection ↦
    nonblankLines entry.2.lines, flatMap_kept, isEmpty_kept] at hadds

theorem description_addSubsection_reference (reading : Reading) {kind : SectionKind}
    (hkind : kind = .argumentsReference ∨ kind = .attributesReference ∨ kind = .imports)
    (header : String) (token : Option String) (isFirst : Bool) (firstLine : String)
    (subsection : Subsection) :
    (reading.addSubsection kind header token isFirst firstLine subsection).doc.description =
      reading.doc.description := by
  rcases hkind with rfl | rfl | rfl
  · exact description_scanArguments ..
  · exact description_readAttributes ..
  · rfl

theorem description_addSubsections_reference (reading : Reading) {kind : SectionKind}
    (hkind : kind = .argumentsReference ∨ kind = .attributesReference ∨ kind = .imports)
    (header : String) (token : Option String) (body : List String) :
    (reading.addSubsections kind header token body).doc.description =
      reading.doc.description := by
  apply foldl_keeps fun reading : Reading ↦ reading.doc.description
  intro reading entry
  rw [description_addSubsection_reference _ hkind, doc_countSnippets]

/-! ## Sections -/

theorem newline_notMem_headerOf {line : String} (h : '\n' ∉ line.toList) :
    '\n' ∉ (headerOf line).toList := by
  have hrest : '\n' ∉ ((after? line "## ").getD line).toList := by
    cases hafter : after? line "## " with
    | none => exact h
    | some rest =>
      obtain rfl := after?_eq_some_iff.mp hafter
      rw [String.toList_append] at h
      exact fun hmem ↦ h (List.mem_append_right _ hmem)
  rw [headerOf, trimmed, String.toList_ofList]
  exact fun hmem ↦ hrest ((Text.trim_sublist _).subset hmem)

theorem adds_addFrontMatter (reading : Reading) {frontMatter : FrontMatter} {lines : List String}
    (h : Writes frontMatter.description lines) :
    Adds reading (reading.addFrontMatter frontMatter) lines := by
  have hwarn : Adds reading (if frontMatter.foundTitle then reading else reading.warn) [] := by
    cases frontMatter.foundTitle <;> exact .of_eq rfl
  exact hwarn.trans (.describe _ h)

/-- Every section adds its prose. -/
theorem adds_addSection (token : Option String) (reading : Reading) {sectionLines : List String}
    (h : AreLines sectionLines) :
    Adds reading (addSection token reading sectionLines) (prose sectionLines) := by
  cases sectionLines with
  | nil => exact .of_eq rfl
  | cons first body =>
    obtain ⟨hfirst, hbody⟩ := List.forall_mem_cons.mp h
    rw [addSection, prose]
    cases hkind : SectionKind.ofLine first with
    | frontMatter =>
      have hwarn : Adds reading
          (if (FrontMatter.ofLines body).foundDelimiter then reading else reading.warn) [] := by
        cases (FrontMatter.ofLines body).foundDelimiter <;> exact .of_eq rfl
      exact hwarn.trans (adds_addFrontMatter _ (FrontMatter.writes_ofLines hbody))
    | preamble => exact adds_addFrontMatter _ (FrontMatter.writes_ofPreamble h)
    | exampleUsage =>
      exact adds_addSubsections_prose _ (.inl rfl) (newline_notMem_headerOf hfirst) token hbody
    | other =>
      exact adds_addSubsections_prose _ (.inr rfl) (newline_notMem_headerOf hfirst) token hbody
    | argumentsReference =>
      exact .of_eq (description_addSubsections_reference _ (.inl rfl) _ token body)
    | attributesReference =>
      exact .of_eq (description_addSubsections_reference _ (.inr (.inl rfl)) _ token body)
    | imports =>
      exact .of_eq (description_addSubsections_reference _ (.inr (.inr rfl)) _ token body)
    | schema =>
      apply Adds.of_eq
      simp only [addSchema]
      split
      · rfl
      · exact description_record ..
    | ignored header => exact .of_eq rfl

/-- Reading sections writes the prose of one after the other. -/
theorem writes_addSections (token : Option String) (sections : List (List String))
    (h : ∀ sectionLines ∈ sections, AreLines sectionLines) :
    Writes (addSections token sections).doc.description (sections.flatMap prose) := by
  have hstep : ∀ sectionLines ∈ sections, ∀ reading,
      Adds reading (addSection token reading sectionLines) (prose sectionLines) :=
    fun sectionLines hmem reading ↦ adds_addSection token reading (h sectionLines hmem)
  have hadds := Adds.foldl hstep .empty
  obtain ⟨text, htext, hwrites⟩ := hadds
  have hempty : Reading.empty.doc.description = "" := rfl
  rw [hempty, String.empty_append] at htext
  rwa [addSections, htext]

/-- The lines of the description that are not blank are the prose of the sections, in order. -/
theorem nonblankLines_description (token : Option String) (sections : List (List String))
    (h : ∀ sectionLines ∈ sections, AreLines sectionLines) :
    nonblankLines (splitLines (addSections token sections).doc.description) =
      sections.flatMap prose :=
  (writes_addSections token sections h).nonblankLines_splitLines

/-- Sections of a document with metadata, a button, timeouts and a section without text. -/
def bucketSections : List (List String) :=
  [["---", "title: x", "---", "# Bucket", "", "Stores objects.", "# Note"],
    ["##  Example Usage ", "### Basic", "<div class=\"oics-button\">", "link", "</div>", "```",
      "### Timeouts", "Ten minutes."],
    ["## Import", "By name."], ["## Empty", "```", "", "```"], ["## More", "", "Text.", "### A"]]

theorem nonblankLines_description_bucketSections :
    (∀ sectionLines ∈ bucketSections, AreLines sectionLines) ∧
      nonblankLines (splitLines (addSections none bucketSections).doc.description) =
        ["Stores objects.", "# Note", "## Example Usage", "### Basic", "```", "## More", "Text.",
          "### A"] := by
  have hlines : ∀ sectionLines ∈ bucketSections, AreLines sectionLines := by decide
  refine ⟨hlines, ?_⟩
  rw [nonblankLines_description none bucketSections hlines]
  decide

end Reading

end Markdown

end ProviderDocs
