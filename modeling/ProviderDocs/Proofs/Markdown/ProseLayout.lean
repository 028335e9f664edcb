import Mathlib.Data.List.Induction
import ProviderDocs.Proofs.Markdown.Prose

/-!
# The layout of prose

The prose at the head of a document keeps its lines of text and nothing of what stands between them
but one empty line in place of blank ones. The title is left out with the blank lines above it, so
what stands between two lines of text counts as a gap only when it has a blank line with no title
below.
-/

namespace ProviderDocs.Markdown.FrontMatter

/-! ## Kinds of lines -/

/-- What a line at the head of a document is. -/
inductive HeadLine where
  /-- The title that is left out. -/
  | title
  | blank
  | text (line : String)
  deriving DecidableEq

namespace HeadLine

/-- A line when there is no title to come. -/
def ofText (line : String) : HeadLine := if isBlankLine line then blank else text line

def text? : HeadLine → Option String
  | text line => some line
  | _ => none

end HeadLine

/-- The first line that begins with the sign of a title is the title, and any later one is text. -/
def headLines : List String → List HeadLine
  | [] => []
  | line :: rest =>
    if startsWith line "# " then .title :: rest.map .ofText else .ofText line :: headLines rest

/-- The lines of text. -/
def texts (lines : List HeadLine) : List String := lines.filterMap HeadLine.text?

@[simp] theorem texts_nil : texts [] = [] := rfl

@[simp] theorem texts_title (rest : List HeadLine) : texts (.title :: rest) = texts rest := rfl

@[simp] theorem texts_blank (rest : List HeadLine) : texts (.blank :: rest) = texts rest := rfl

@[simp] theorem texts_text (line : String) (rest : List HeadLine) :
    texts (.text line :: rest) = line :: texts rest := rfl

theorem texts_append (lines rest : List HeadLine) :
    texts (lines ++ rest) = texts lines ++ texts rest :=
  List.filterMap_append

theorem texts_ofText (line : String) (rest : List HeadLine) :
    texts (.ofText line :: rest) = nonblankLines [line] ++ texts rest := by
  rw [HeadLine.ofText]
  split
  case isTrue hblank => rw [texts_blank, nonblankLines_cons_of_blank hblank]; rfl
  case isFalse hblank =>
    rw [texts_text, nonblankLines_cons_of_not_blank (Bool.eq_false_iff.mpr hblank)]; rfl

theorem texts_map_ofText (lines : List String) :
    texts (lines.map .ofText) = nonblankLines lines := by
  induction lines with
  | nil => rfl
  | cons line rest ih => rw [List.map_cons, texts_ofText, ih, ← nonblankLines_cons]

theorem texts_headLines (lines : List String) :
    texts (headLines lines) = remainingText false lines := by
  induction lines with
  | nil => rfl
  | cons line rest ih =>
    rw [remainingText_cons, isTitle, Bool.not_false, Bool.true_and, Bool.false_or, headLines]
    cases startsWith line "# " with
    | true => rw [if_pos rfl, if_pos rfl, texts_title, texts_map_ofText]; rfl
    | false => rw [if_neg Bool.false_ne_true, if_neg Bool.false_ne_true, texts_ofText, ih]

/-- A blank line stands there, and no title below it. -/
def LeavesGap (between : List HeadLine) : Prop :=
  ∃ above below, between = above ++ .blank :: below ∧ .title ∉ below

theorem not_leavesGap_nil : ¬ LeavesGap [] := by
  rintro ⟨above, below, h, -⟩
  simp at h

theorem leavesGap_concat_blank (lines : List HeadLine) : LeavesGap (lines ++ [.blank]) :=
  ⟨lines, [], rfl, List.not_mem_nil⟩

theorem not_leavesGap_concat_title (lines : List HeadLine) : ¬ LeavesGap (lines ++ [.title]) := by
  rintro ⟨above, below, h, htitle⟩
  cases below using List.reverseRecOn with
  | nil => simp at h
  | append_singleton below last =>
    rw [← List.cons_append, ← List.append_assoc] at h
    obtain rfl : HeadLine.title = last := by simpa using (List.append_inj' h rfl).2
    exact htitle (List.mem_append_right below (List.mem_singleton_self _))

/-- What is written of lines is their text. Between a line of text and the next one there is one
empty line if they have a gap between them and none if not, and there is none at either end. -/
structure IsLayout (lines : List HeadLine) (written : List String) : Prop where
  kept : written.filter (· ≠ "") = texts lines
  spacing : ∀ above first between second below,
    lines = above ++ .text first :: (between ++ .text second :: below) → texts between = [] →
      ∃ before gap after, written = before ++ first :: (gap ++ second :: after) ∧
        before.filter (· ≠ "") = texts above ∧ after.filter (· ≠ "") = texts below ∧
        (LeavesGap between ∧ gap = [""] ∨ ¬ LeavesGap between ∧ gap = [])
  head : written.head? ≠ some ""
  last : written.getLast? ≠ some ""

/-! ## Writing line by line -/

/-- The lines that are written, and whether a gap was seen since the last of them. -/
structure Layout where
  written : List String
  hasGap : Bool

namespace Layout

def step (layout : Layout) : HeadLine → Layout
  | .title => { layout with hasGap := false }
  | .blank => { layout with hasGap := !layout.written.isEmpty }
  | .text line =>
    { written := layout.written ++ (if layout.hasGap then [""] else []) ++ [line]
      hasGap := false }

def start : Layout := ⟨[], false⟩

/-- Writing more lines adds their text to what is written, with empty lines here and there. -/
theorem exists_written_foldl_step (layout : Layout) {lines : List HeadLine}
    (h : "" ∉ texts lines) :
    ∃ after, (lines.foldl step layout).written = layout.written ++ after ∧
      after.filter (· ≠ "") = texts lines := by
  induction lines generalizing layout with
  | nil => exact ⟨[], (List.append_nil _).symm, rfl⟩
  | cons line rest ih =>
    cases line with
    | title => exact ih _ h
    | blank => exact ih _ h
    | text line =>
      obtain ⟨hline, hrest⟩ := List.ne_and_not_mem_of_not_mem_cons h
      obtain ⟨after, hafter, htexts⟩ := ih (layout.step (.text line)) hrest
      refine ⟨(if layout.hasGap then [""] else []) ++ [line] ++ after, ?_, ?_⟩
      · rw [List.foldl_cons, hafter]
        simp only [step, List.append_assoc]
      · have hgap : (if layout.hasGap then [""] else []).filter (· ≠ "") = [] := by
          cases layout.hasGap with
          | true => rfl
          | false => rfl
        rw [List.append_assoc, List.filter_append, hgap, List.filter_append, htexts]
        simp [Ne.symm hline, texts, HeadLine.text?]

/-- Below a line of text, a gap is seen exactly when what stands there leaves one. -/
theorem foldl_step_between {layout : Layout} (hne : layout.written ≠ [])
    (hgap : layout.hasGap = false) {between : List HeadLine} (h : texts between = []) :
    (between.foldl step layout).written = layout.written ∧
      ((between.foldl step layout).hasGap = true ↔ LeavesGap between) := by
  induction between using List.reverseRecOn with
  | nil =>
    refine ⟨rfl, iff_of_false ?_ not_leavesGap_nil⟩
    rw [List.foldl_nil, hgap]
    exact Bool.false_ne_true
  | append_singleton between last ih =>
    rw [texts_append, List.append_eq_nil_iff] at h
    obtain ⟨hwritten, -⟩ := ih h.1
    rw [List.foldl_append, List.foldl_cons, List.foldl_nil]
    cases last with
    | title => exact ⟨hwritten, iff_of_false Bool.false_ne_true (not_leavesGap_concat_title _)⟩
    | blank =>
      refine ⟨hwritten, iff_of_true ?_ (leavesGap_concat_blank _)⟩
      simp [step, hwritten, hne]
    | text line => exact absurd h.2 (List.cons_ne_nil _ _)

/-- What is written has no empty line at an end, and a gap comes below something. -/
structure IsSound (layout : Layout) : Prop where
  head : layout.written.head? ≠ some ""
  last : layout.written.getLast? ≠ some ""
  hasGap : layout.hasGap = true → layout.written ≠ []

theorem IsSound.step {layout : Layout} (h : layout.IsSound) {line : HeadLine}
    (hline : ∀ text ∈ line.text?, text ≠ "") : (layout.step line).IsSound := by
  cases line with
  | title => exact ⟨h.head, h.last, fun hgap ↦ absurd hgap Bool.false_ne_true⟩
  | blank =>
    refine ⟨h.head, h.last, fun hgap hempty ↦ ?_⟩
    have hempty : layout.written = [] := hempty
    simp [Layout.step, hempty] at hgap
  | text line =>
    have hline : line ≠ "" := hline line rfl
    refine ⟨?_, ?_, fun hgap ↦ absurd hgap Bool.false_ne_true⟩
    · cases hwritten : layout.written with
      | nil =>
        have hgap : layout.hasGap = false :=
          Bool.eq_false_iff.mpr fun hgap ↦ h.hasGap hgap hwritten
        simp [Layout.step, hwritten, hgap, hline]
      | cons first rest =>
        have hhead := h.head
        rw [hwritten] at hhead
        simpa [Layout.step, hwritten] using hhead
    · simp [Layout.step, hline]

theorem IsSound.foldl_step {layout : Layout} (h : layout.IsSound) {lines : List HeadLine}
    (hlines : "" ∉ texts lines) : (lines.foldl Layout.step layout).IsSound := by
  induction lines generalizing layout with
  | nil => exact h
  | cons line rest ih =>
    have hline : ∀ text ∈ line.text?, text ≠ "" := by
      rintro text htext rfl
      exact hlines (List.mem_filterMap.mpr ⟨line, List.mem_cons_self, htext⟩)
    have hrest : "" ∉ texts rest := by
      intro hmem
      obtain ⟨other, hother, htext⟩ := List.mem_filterMap.mp hmem
      exact hlines (List.mem_filterMap.mpr ⟨other, List.mem_cons_of_mem _ hother, htext⟩)
    exact ih (h.step hline) hrest

theorem isSound_start : start.IsSound where
  head := nofun
  last := nofun
  hasGap := nofun

/-- Around what stands between two lines of text, the rest is written as it is by itself. -/
theorem exists_spacing {above between below : List HeadLine} {first second : String}
    (h : "" ∉ texts (above ++ .text first :: (between ++ .text second :: below)))
    (hbetween : texts between = []) :
    ∃ before gap after,
      ((above ++ .text first :: (between ++ .text second :: below)).foldl step start).written =
        before ++ first :: (gap ++ second :: after) ∧
      before.filter (· ≠ "") = texts above ∧ after.filter (· ≠ "") = texts below ∧
      (LeavesGap between ∧ gap = [""] ∨ ¬ LeavesGap between ∧ gap = []) := by
  simp only [texts_append, texts_text, hbetween, List.nil_append, List.mem_append, List.mem_cons,
    not_or] at h
  obtain ⟨habove, -, -, hbelow⟩ := h
  obtain ⟨front, hfront, htexts⟩ := exists_written_foldl_step start habove
  generalize hfirst : (above.foldl step start).step (.text first) = upper
  have hupper : upper.written =
      front ++ (if (above.foldl step start).hasGap then [""] else []) ++ [first] := by
    rw [← hfirst, step, hfront, start, List.nil_append]
  have hclosed : upper.hasGap = false := by rw [← hfirst, step]
  obtain ⟨hkept, hgap⟩ := foldl_step_between (by simp [hupper]) hclosed hbetween
  obtain ⟨after, hafter, hrest⟩ :=
    exists_written_foldl_step ((between.foldl step upper).step (.text second)) hbelow
  refine ⟨front ++ (if (above.foldl step start).hasGap then [""] else []),
    if (between.foldl step upper).hasGap then [""] else [], after, ?_, ?_, hrest, ?_⟩
  · rw [List.foldl_append, List.foldl_cons, hfirst, List.foldl_append, List.foldl_cons, hafter,
      step, hkept, hupper]
    simp only [List.append_assoc, List.cons_append, List.nil_append]
  · rw [List.filter_append, htexts]
    cases (above.foldl step start).hasGap with
    | true => exact List.append_nil _
    | false => exact List.append_nil _
  · cases hflag : (between.foldl step upper).hasGap with
    | true => exact .inl ⟨hgap.mp hflag, rfl⟩
    | false => exact .inr ⟨fun h ↦ Bool.false_ne_true (hflag.symm.trans (hgap.mpr h)), rfl⟩

theorem isLayout_foldl_step {lines : List HeadLine} (h : "" ∉ texts lines) :
    IsLayout lines (lines.foldl step start).written := by
  have hsound := isSound_start.foldl_step h
  obtain ⟨written, hwritten, htexts⟩ := exists_written_foldl_step start h
  rw [start, List.nil_append, ← start] at hwritten
  refine ⟨hwritten ▸ htexts, ?_, hsound.head, hsound.last⟩
  rintro above first between second below rfl hbetween
  exact exists_spacing h hbetween

end Layout

/-! ## Reading a head -/

/-- The lines, each with a line feed. -/
def closedLines (lines : List String) : String := String.join (lines.map (· ++ "\n"))

theorem closedLines_append (lines more : List String) :
    closedLines (lines ++ more) = closedLines lines ++ closedLines more := by
  rw [closedLines, List.map_append, String.join_append, ← closedLines, ← closedLines]

theorem closedLines_singleton (line : String) : closedLines [line] = line ++ "\n" := by
  simp [closedLines]

theorem isEmpty_closedLines (lines : List String) :
    (closedLines lines).isEmpty = lines.isEmpty := by
  cases lines with
  | nil => rfl
  | cons line rest =>
    rw [closedLines, List.map_cons, String.join_cons, List.isEmpty_cons, Bool.eq_false_iff, Ne,
      String.isEmpty_iff, ← String.toList_inj]
    simp

/-- The prose read so far is laid out in lines. -/
structure Matches (reading : Reading) (layout : Layout) : Prop where
  description : reading.description = closedLines layout.written
  hasGap : reading.pendingBlank = layout.hasGap

theorem Matches.step_title {reading : Reading} {layout : Layout} (h : Matches reading layout)
    {line : String} (htitle : isTitle reading.foundTitle line = true) :
    Matches (reading.step line) (layout.step .title) := by
  rw [Reading.step]
  exact (if_pos htitle).symm ▸ ⟨h.description, rfl⟩

theorem Matches.step_ofText {reading : Reading} {layout : Layout} (h : Matches reading layout)
    {line : String} (htitle : isTitle reading.foundTitle line = false) :
    Matches (reading.step line) (layout.step (.ofText line)) := by
  have htitle : ¬ (!reading.foundTitle && startsWith line "# ") = true :=
    Bool.eq_false_iff.mp htitle
  rw [Reading.step, if_neg htitle, HeadLine.ofText]
  cases isBlankLine line with
  | true =>
    refine ⟨h.description, ?_⟩
    simp [Layout.step, h.description, isEmpty_closedLines]
  | false =>
    have hgap : closedLines (if layout.hasGap then [""] else []) =
        if layout.hasGap then "\n" else "" := by
      cases layout.hasGap with
      | true => exact closedLines_singleton ""
      | false => rfl
    refine ⟨?_, rfl⟩
    simp only [Bool.false_eq_true, if_false, Layout.step, closedLines_append, hgap, h.description,
      h.hasGap, closedLines_singleton, String.append_assoc]

/-- What the lines are that are left to read when the title was found, or not. -/
def remainingHead (foundTitle : Bool) (lines : List String) : List HeadLine :=
  if foundTitle then lines.map .ofText else headLines lines

theorem remainingHead_cons (foundTitle : Bool) (line : String) (rest : List String) :
    remainingHead foundTitle (line :: rest) =
      (if isTitle foundTitle line then .title else .ofText line) ::
        remainingHead (foundTitle || isTitle foundTitle line) rest := by
  cases foundTitle with
  | true => rfl
  | false =>
    cases htitle : startsWith line "# " with
    | true => simp [remainingHead, headLines, isTitle, htitle]
    | false => simp [remainingHead, headLines, isTitle, htitle]

theorem Matches.foldl_step {reading : Reading} {layout : Layout} (h : Matches reading layout)
    (lines : List String) :
    Matches (lines.foldl Reading.step reading)
      ((remainingHead reading.foundTitle lines).foldl Layout.step layout) := by
  induction lines generalizing reading layout with
  | nil =>
    cases hfound : reading.foundTitle with
    | true => exact h
    | false => exact h
  | cons line rest ih =>
    rw [List.foldl_cons, remainingHead_cons, List.foldl_cons, ← foundTitle_step]
    apply ih
    cases htitle : isTitle reading.foundTitle line with
    | true => exact h.step_title htitle
    | false => exact h.step_ofText htitle

theorem description_ofPreamble (lines : List String) :
    (ofPreamble lines).description =
      closedLines ((headLines lines).foldl Layout.step .start).written := by
  have hstart : Matches ⟨"", false, false⟩ .start := ⟨rfl, rfl⟩
  exact (hstart.foldl_step lines).description

theorem foundTitle_foldl_step (reading : Reading) (lines : List String) :
    (lines.foldl Reading.step reading).foundTitle =
      (reading.foundTitle || lines.any (startsWith · "# ")) := by
  induction lines generalizing reading with
  | nil => exact (Bool.or_false _).symm
  | cons line rest ih =>
    rw [List.foldl_cons, ih, foundTitle_step, isTitle, List.any_cons]
    cases reading.foundTitle with
    | true => rfl
    | false => rfl

/-! ## The prose of a head -/

theorem isBlankLine_of_mem_untitledText {line : String} {lines : List String}
    (h : line ∈ untitledText lines) : isBlankLine line = false := by
  simpa using (List.mem_filter.mp (List.eraseP_sublist.subset h)).2

/-- The head of a document has a title when some line begins with the sign of one, and the
description is the other lines of text, in the layout of prose, each with a line feed. -/
theorem isLayout_ofPreamble {lines : List String} (h : AreLines lines) :
    ((ofPreamble lines).foundTitle = true ↔ ∃ line ∈ lines, startsWith line "# " = true) ∧
      ∃ written, AreLines written ∧
        (ofPreamble lines).description = String.join (written.map (· ++ "\n")) ∧
        written.filter (· ≠ "") = untitledText lines ∧ IsLayout (headLines lines) written := by
  have htexts : texts (headLines lines) = untitledText lines := texts_headLines lines
  have hne : "" ∉ texts (headLines lines) := by
    rw [htexts]
    exact fun hmem ↦ Bool.false_ne_true (isBlankLine_of_mem_untitledText hmem).symm
  have hlayout := Layout.isLayout_foldl_step hne
  refine ⟨?_, _, ?_, description_ofPreamble lines, hlayout.kept.trans htexts, hlayout⟩
  · have hfound : (ofPreamble lines).foundTitle = lines.any (startsWith · "# ") :=
      foundTitle_foldl_step ⟨"", false, false⟩ lines
    rw [hfound, List.any_eq_true]
  · intro line hline
    by_cases hempty : line = ""
    · rw [hempty]
      exact List.not_mem_nil
    · have hmem : line ∈ untitledText lines := by
        rw [← htexts, ← hlayout.kept]
        exact List.mem_filter.mpr ⟨hline, by simpa using hempty⟩
      exact h line (untitledText_subset lines hmem)

/-- A head with text above its title, and with a line below that would be a title. -/
def bucketHead : List String :=
  ["", "Draft.", "", "# Bucket", "Stores objects.", " ", "", "# Note", "See below.", ""]

theorem isLayout_ofPreamble_bucketHead :
    AreLines bucketHead ∧ (ofPreamble bucketHead).foundTitle = true ∧
      ∃ written, (ofPreamble bucketHead).description = String.join (written.map (· ++ "\n")) ∧
        written.filter (· ≠ "") = ["Draft.", "Stores objects.", "# Note", "See below."] ∧
        IsLayout (headLines bucketHead) written := by
  have hlines : AreLines bucketHead := by decide
  have htexts :
      untitledText bucketHead = ["Draft.", "Stores objects.", "# Note", "See below."] := by
    decide +kernel
  obtain ⟨hfound, written, -, hdescription, hkept, hlayout⟩ := isLayout_ofPreamble hlines
  exact ⟨hlines, hfound.mpr ⟨"# Bucket", by decide, by decide⟩, written, hdescription,
    hkept.trans htexts, hlayout⟩

example : (ofPreamble bucketHead).description =
    "Draft.\nStores objects.\n\n# Note\nSee below.\n" := by decide +kernel

end ProviderDocs.Markdown.FrontMatter
