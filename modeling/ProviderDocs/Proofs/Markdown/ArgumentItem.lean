import ProviderDocs.Markdown.Arguments
import ProviderDocs.Proofs.Dict
import ProviderDocs.Proofs.Text.Blank

/-!
# Items of an argument reference

An argument reference reads as a list of items. An item is a bullet with the text right below it,
and it stands in the nested block that was introduced last outside of any item. Scanning line by
line records the items one after the other.
-/

namespace ProviderDocs

namespace Markdown

/-! ## Lines -/

/-- A line that goes on with the text of the bullet above it. -/
def isItemText (line : String) : Bool := (argumentBullet? line.toList).isNone && !isBlankLine line

theorem Line.ofArguments_of_bullet {line : String} {name description : List Char}
    (h : argumentBullet? line.toList = some (name, description)) :
    Line.ofArguments line = .bullet (String.ofList name) (String.ofList description)
      (endsWith (trimmedEnd line) introEnding) := by
  rw [Line.ofArguments, h]

theorem Line.ofArguments_of_blank {line : String} (hbullet : argumentBullet? line.toList = none)
    (hblank : isBlankLine line = true) : Line.ofArguments line = .blank := by
  simp [Line.ofArguments, hbullet, Line.ofText, isEmpty_trimmed, hblank]

theorem Line.ofArguments_of_intro {line name : String}
    (hbullet : argumentBullet? line.toList = none) (hblank : isBlankLine line = false)
    (hname : blockName? line = some name) :
    Line.ofArguments line = .blockIntro name (trimmed line) := by
  simp [Line.ofArguments, hbullet, Line.ofText, isEmpty_trimmed, hblank, hname]

theorem Line.ofArguments_of_text {line : String}
    (hbullet : argumentBullet? line.toList = none) (hblank : isBlankLine line = false)
    (hname : blockName? line = none) :
    Line.ofArguments line = .continuation (trimmed line) := by
  simp [Line.ofArguments, hbullet, Line.ofText, isEmpty_trimmed, hblank, hname]

/-! ## Items -/

structure ArgumentItem where
  /-- The argument in whose nested block the bullet stands. -/
  parent : Option String
  /-- The line of the bullet, as written. -/
  bullet : String
  name : String
  description : String
  /-- The lines of text below the bullet, trimmed. -/
  below : List String

/-- The description with the lines below it. -/
def ArgumentItem.text (item : ArgumentItem) : String :=
  item.below.foldl (fun text line ↦ text ++ "\n" ++ line) item.description

/-- The items of a list of lines that begins in the nested block of `parent`, or in none. -/
def argumentItems (parent : Option String) : List String → List ArgumentItem
  | [] => []
  | line :: rest =>
    match argumentBullet? line.toList with
    | some (name, description) =>
      { parent := parent
        bullet := line
        name := String.ofList name
        description := String.ofList description
        below := (rest.takeWhile isItemText).map trimmed } ::
          argumentItems parent (rest.dropWhile isItemText)
    | none =>
      argumentItems (if isBlankLine line then parent else (blockName? line).or parent) rest
termination_by lines => lines.length
decreasing_by
  · have hle := (List.dropWhile_sublist isItemText (l := rest)).length_le
    simp only [List.length_cons]
    omega
  · simp only [List.length_cons]
    omega

theorem argumentItems_of_bullet {line : String} {name description : List Char}
    (h : argumentBullet? line.toList = some (name, description)) (parent : Option String)
    (rest : List String) :
    argumentItems parent (line :: rest) =
      ⟨parent, line, String.ofList name, String.ofList description,
        (rest.takeWhile isItemText).map trimmed⟩ ::
          argumentItems parent (rest.dropWhile isItemText) := by
  rw [argumentItems, h]

theorem argumentItems_of_no_bullet {line : String} (h : argumentBullet? line.toList = none)
    (parent : Option String) (rest : List String) :
    argumentItems parent (line :: rest) = argumentItems
      (if isBlankLine line then parent else (blockName? line).or parent) rest := by
  rw [argumentItems, h]

/-- No bullet outside of nested blocks ends with the words that introduce a block. -/
def PlainBullets (items : List ArgumentItem) : Prop :=
  ∀ item ∈ items, item.parent = none → endsWith (trimmedEnd item.bullet) introEnding = false

/-! ## Scanning an item -/

namespace ArgumentScan

/-- The record after an item was read. -/
def recordItem (doc : EntityDoc) (item : ArgumentItem) : EntityDoc :=
  match item.parent with
  | some parent =>
    item.below.foldl (fun doc line ↦ continueNested doc parent item.name line)
      (addNested doc parent item.name item.description)
  | none => addTopLevel doc item.name item.text

theorem step_itemText {scan : ArgumentScan} {last line : String} (hlast : scan.last = some last)
    (hline : isItemText line = true) :
    scan.step (Line.ofArguments line) = scan.continuation last (trimmed line) := by
  simp only [isItemText, Bool.and_eq_true, Option.isNone_iff_eq_none, Bool.not_eq_true'] at hline
  obtain ⟨hbullet, hblank⟩ := hline
  cases hname : blockName? line with
  | some name => simp only [Line.ofArguments_of_intro hbullet hblank hname, step, hlast]
  | none => simp only [Line.ofArguments_of_text hbullet hblank hname, step, hlast]

theorem last_continuation (scan : ArgumentScan) (last text : String) :
    (scan.continuation last text).last = scan.last := by
  unfold continuation continueTopLevel
  split
  · rfl
  · split <;> rfl

/-- Lines of text after a bullet all go on with it. -/
theorem foldl_itemTexts {scan : ArgumentScan} {last : String} (hlast : scan.last = some last)
    {lines : List String} (hlines : ∀ line ∈ lines, isItemText line = true) :
    (lines.map Line.ofArguments).foldl step scan =
      (lines.map trimmed).foldl (fun scan line ↦ scan.continuation last line) scan := by
  induction lines generalizing scan with
  | nil => rfl
  | cons line rest ih =>
    simp only [List.map_cons, List.foldl_cons]
    rw [step_itemText hlast (hlines line List.mem_cons_self)]
    apply ih
    · rw [last_continuation, hlast]
    · exact fun other hother ↦ hlines other (List.mem_cons_of_mem _ hother)

theorem foldl_continuation_nested {scan : ArgumentScan} {parent : String}
    (hparent : scan.parent = some parent) (last : String) (below : List String) :
    below.foldl (fun scan line ↦ scan.continuation last line) scan =
      { scan with
        doc := below.foldl (fun doc line ↦ continueNested doc parent last line) scan.doc } := by
  induction below generalizing scan with
  | nil => rfl
  | cons line rest ih =>
    have hline : scan.continuation last line =
        { scan with doc := continueNested scan.doc parent last line } := by
      simp only [continuation, hparent]
    rw [List.foldl_cons, hline]
    exact ih hparent

theorem updateArgument_addTopLevel (doc : EntityDoc) (name description line : String) :
    (addTopLevel doc name description).updateArgument name (fun argument ↦
        { argument with description := appendLine argument.description line }) =
      addTopLevel doc name (appendLine description line) := by
  simp only [addTopLevel, EntityDoc.updateArgument, EntityDoc.argument, Dict.get?_insert_self,
    Option.getD_some, Dict.insert_insert]

theorem foldl_continuation_topLevel {scan : ArgumentScan} (hparent : scan.parent = none)
    {doc : EntityDoc} {last description : String}
    (hdoc : scan.doc = addTopLevel doc last description) (below : List String) :
    below.foldl (fun scan line ↦ scan.continuation last line) scan =
      { scan with doc := addTopLevel doc last (below.foldl appendLine description) } := by
  induction below generalizing scan description with
  | nil => rw [List.foldl_nil, List.foldl_nil, ← hdoc]
  | cons line rest ih =>
    have hline : scan.continuation last line =
        { scan with doc := addTopLevel doc last (appendLine description line) } := by
      have hcontains : (addTopLevel doc last description).arguments.contains last = true := by
        simp only [addTopLevel, EntityDoc.updateArgument, Dict.contains_insert, true_or]
      simp only [continuation, hparent, continueTopLevel, hdoc, hcontains, if_true,
        updateArgument_addTopLevel]
    rw [List.foldl_cons, List.foldl_cons, hline]
    apply ih
    · exact hparent
    · rfl

/-- Reading a bullet and the lines below it records one item. -/
theorem foldl_continuation_bullet (scan : ArgumentScan) (bullet name description : String)
    {introducesBlock : Bool} (hplain : scan.parent = none → introducesBlock = false)
    (below : List String) :
    below.foldl (fun scan line ↦ scan.continuation name line)
        (scan.bullet name description introducesBlock) =
      { doc := recordItem scan.doc ⟨scan.parent, bullet, name, description, below⟩
        stats := (scan.bullet name description introducesBlock).stats
        last := some name
        parent := scan.parent } := by
  cases hparent : scan.parent with
  | some parent =>
    have hbullet : (scan.bullet name description introducesBlock).parent = some parent := by
      simp only [ArgumentScan.bullet, hparent]
    rw [foldl_continuation_nested hbullet]
    simp only [ArgumentScan.bullet, hparent, recordItem]
  | none =>
    obtain rfl := hplain hparent
    have hbullet : (scan.bullet name description false).parent = none := by
      simp only [ArgumentScan.bullet, hparent, Bool.false_eq_true, if_false]
    have hdoc : (scan.bullet name description false).doc =
        addTopLevel scan.doc name description := by
      simp only [ArgumentScan.bullet, hparent, Bool.false_eq_true, if_false]
    rw [foldl_continuation_topLevel hbullet hdoc]
    simp only [ArgumentScan.bullet, hparent, recordItem, ArgumentItem.text, Bool.false_eq_true,
      if_false]
    rfl

/-! ## Scanning a list of lines -/

/-- Outside of an item, a line that is no bullet changes the parent at most. -/
theorem step_outside {scan : ArgumentScan} {line : String}
    (hbullet : argumentBullet? line.toList = none)
    (hopen : scan.last = none ∨ isItemText line = false) :
    (scan.step (Line.ofArguments line)).doc = scan.doc ∧
      (scan.step (Line.ofArguments line)).last = none ∧
      (scan.step (Line.ofArguments line)).parent =
        if isBlankLine line then scan.parent else (blockName? line).or scan.parent := by
  cases hblank : isBlankLine line with
  | true =>
    rw [Line.ofArguments_of_blank hbullet hblank]
    exact ⟨rfl, rfl, rfl⟩
  | false =>
    have hlast : scan.last = none := by
      refine hopen.resolve_right ?_
      simp [isItemText, hbullet, hblank]
    cases hname : blockName? line with
    | some name =>
      rw [Line.ofArguments_of_intro hbullet hblank hname]
      simp [step, hlast, enterBlock]
    | none =>
      rw [Line.ofArguments_of_text hbullet hblank hname]
      simp [step, hlast]

theorem foldl_step_bullet {scan : ArgumentScan} {line : String} {name description : List Char}
    (hbullet : argumentBullet? line.toList = some (name, description))
    (hplain : scan.parent = none → endsWith (trimmedEnd line) introEnding = false)
    {below : List String} (hbelow : ∀ other ∈ below, isItemText other = true) :
    ∃ stats, ((line :: below).map Line.ofArguments).foldl step scan =
      { doc := recordItem scan.doc
          ⟨scan.parent, line, String.ofList name, String.ofList description, below.map trimmed⟩
        stats := stats
        last := some (String.ofList name)
        parent := scan.parent } := by
  rw [List.map_cons, List.foldl_cons, Line.ofArguments_of_bullet hbullet, step]
  rw [foldl_itemTexts rfl hbelow]
  exact ⟨_, foldl_continuation_bullet scan line _ _ hplain _⟩

/-- What follows a bullet and the text below it is scanned from where they lead. -/
theorem foldl_step_cons (scan : ArgumentScan) (line : String) (rest : List String) :
    ((line :: rest).map Line.ofArguments).foldl step scan =
      ((rest.dropWhile isItemText).map Line.ofArguments).foldl step
        (((line :: rest.takeWhile isItemText).map Line.ofArguments).foldl step scan) := by
  rw [← List.foldl_append, ← List.map_append, List.cons_append, List.takeWhile_append_dropWhile]

theorem isItemText_of_mem_takeWhile (lines : List String) :
    ∀ line ∈ lines.takeWhile isItemText, isItemText line = true :=
  List.all_eq_true.mp List.all_takeWhile

theorem isItemText_of_mem_head?_dropWhile (lines : List String) :
    ∀ line ∈ (lines.dropWhile isItemText).head?, isItemText line = false := by
  intro line hline
  have hhead := List.head?_dropWhile_not isItemText lines
  rw [Option.mem_def.mp hline] at hhead
  simpa using hhead

/-- Scanning line by line is recording item by item, when no item is open at the start or the
first line ends it. -/
theorem doc_foldl_step (scan : ArgumentScan) (lines : List String)
    (hopen : scan.last = none ∨ ∀ line ∈ lines.head?, isItemText line = false)
    (hplain : PlainBullets (argumentItems scan.parent lines)) :
    ((lines.map Line.ofArguments).foldl step scan).doc =
      (argumentItems scan.parent lines).foldl recordItem scan.doc := by
  induction hlength : lines.length using Nat.strongRecOn generalizing scan lines with
  | ind length ih =>
    cases lines with
    | nil => rw [argumentItems]; rfl
    | cons line rest =>
      cases hbullet : argumentBullet? line.toList with
      | none =>
        rw [argumentItems_of_no_bullet hbullet] at hplain ⊢
        obtain ⟨hdoc, hlast, hparent⟩ := step_outside hbullet
          (hopen.imp id fun h ↦ h line rfl)
        rw [← hparent] at hplain
        rw [List.map_cons, List.foldl_cons, ← hparent, ← hdoc]
        exact ih rest.length (by simp [← hlength]) _ rest (.inl hlast) hplain rfl
      | some found =>
        obtain ⟨name, description⟩ := found
        rw [argumentItems_of_bullet hbullet] at hplain ⊢
        obtain ⟨stats, hitem⟩ := foldl_step_bullet hbullet (hplain _ List.mem_cons_self)
          (isItemText_of_mem_takeWhile rest)
        have hshorter : (rest.dropWhile isItemText).length < length := by
          have hle := (List.dropWhile_sublist isItemText (l := rest)).length_le
          simp only [List.length_cons] at hlength
          omega
        rw [foldl_step_cons, hitem, List.foldl_cons]
        apply ih _ hshorter
        · exact .inr (isItemText_of_mem_head?_dropWhile rest)
        · exact fun item hitem ↦ hplain item (List.mem_cons_of_mem _ hitem)
        · rfl

end ArgumentScan

end Markdown

end ProviderDocs
