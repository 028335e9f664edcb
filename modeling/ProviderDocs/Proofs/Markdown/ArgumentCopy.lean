import Mathlib.Data.List.Induction
import ProviderDocs.Proofs.Markdown.ArgumentScan

/-!
# Copies of nested fields

A field of a nested block is copied under its own name when there is no record of that name yet.
The copy is made from the first item with that name, and later items do not make it anew, while
text below any of them goes on with it. So a copy has the text of the field that it was made from
as long as neither that field is described again nor a field of the same name elsewhere is
continued.
-/

namespace ProviderDocs

namespace EntityDoc

/-- The text of an argument that is a copy. -/
def copyText? (doc : EntityDoc) (name : String) : Option String :=
  ((doc.arguments.get? name).filter (·.isNested)).map (·.description)

theorem copyText?_updateArgument (doc : EntityDoc) (name other : String)
    (change : ArgumentDoc → ArgumentDoc) :
    (doc.updateArgument name change).copyText? other =
      if other = name then
        ((some (change (doc.argument name))).filter (·.isNested)).map (·.description)
      else doc.copyText? other := by
  unfold copyText?
  rw [get?_updateArgument]
  split
  · rfl
  · rfl

/-- A change of an argument's nested texts leaves the copies. -/
theorem copyText?_updateNested (doc : EntityDoc) (parent other : String)
    (change : Dict String → Dict String) :
    (doc.updateArgument parent fun argument ↦
        { argument with nested := change argument.nested }).copyText? other =
      doc.copyText? other := by
  rw [copyText?_updateArgument]
  split
  case isTrue hother =>
    subst hother
    unfold copyText? argument
    cases doc.arguments.get? other with
    | none => rfl
    | some argument => cases hnested : argument.isNested <;> simp [Option.filter_some, hnested]
  case isFalse => rfl

theorem contains_updateArgument (doc : EntityDoc) (name other : String)
    (change : ArgumentDoc → ArgumentDoc) :
    (doc.updateArgument name change).arguments.contains other = true ↔
      other = name ∨ doc.arguments.contains other = true := Dict.contains_insert ..

/-- No argument is a copy. -/
def HasNoCopies (doc : EntityDoc) : Prop := ∀ name, doc.copyText? name = none

theorem hasNoCopies_empty : empty.HasNoCopies := fun _ ↦ rfl

/-- An argument that is no copy may be added. -/
theorem HasNoCopies.updateArgument {doc : EntityDoc} (h : doc.HasNoCopies) (name : String)
    {change : ArgumentDoc → ArgumentDoc} (hchange : (change (doc.argument name)).isNested = false) :
    (doc.updateArgument name change).HasNoCopies := by
  intro other
  rw [copyText?_updateArgument]
  split
  · simp [Option.filter_some, hchange]
  · exact h other

theorem HasNoCopies.isNested_argument {doc : EntityDoc} (h : doc.HasNoCopies) (name : String) :
    (doc.argument name).isNested = false := by
  have hname := h name
  unfold copyText? at hname
  unfold argument
  cases hargument : doc.arguments.get? name with
  | none => rfl
  | some argument =>
    rw [hargument] at hname
    cases hnested : argument.isNested with
    | false => exact hnested
    | true => simp [Option.filter_some, hnested] at hname

end EntityDoc

namespace Markdown

namespace ArgumentScan

/-! ## One line in a nested block -/

theorem contains_addNested (doc : EntityDoc) (parent name description other : String) :
    (addNested doc parent name description).arguments.contains other = true ↔
      other = parent ∨ other = name ∨ doc.arguments.contains other = true := by
  have hfield := doc.contains_updateArgument parent name fun argument ↦
    { argument with nested := argument.nested.insert name description }
  rw [addNested]
  split
  case isTrue hname =>
    rw [EntityDoc.contains_updateArgument]
    constructor
    · exact fun h ↦ h.imp id .inr
    · rintro (h | rfl | h)
      · exact .inl h
      · exact hfield.mp hname
      · exact .inr h
  case isFalse =>
    rw [EntityDoc.contains_updateArgument, EntityDoc.contains_updateArgument]
    exact or_left_comm

/-- A field is copied when nothing goes by its name, which its parent does. -/
theorem copyText?_addNested (doc : EntityDoc) (parent name description other : String) :
    (addNested doc parent name description).copyText? other =
      if other = name ∧ name ≠ parent ∧ doc.arguments.contains name = false then some description
      else doc.copyText? other := by
  have hfield := doc.copyText?_updateNested parent other (·.insert name description)
  have hcontains := doc.contains_updateArgument parent name fun argument ↦
    { argument with nested := argument.nested.insert name description }
  rw [addNested]
  split
  case isTrue hname =>
    rw [hfield, if_neg]
    rintro ⟨-, hparent, hnew⟩
    rcases hcontains.mp hname with hself | hknown
    · exact hparent hself
    · exact Bool.false_ne_true (hnew.symm.trans hknown)
  case isFalse hname =>
    obtain ⟨hparent, hnew⟩ := not_or.mp (mt hcontains.mpr hname)
    simp only [Bool.not_eq_true] at hnew
    rw [← hfield]
    simp only [hparent, hnew, ne_eq, not_false_eq_true, and_true]
    rw [EntityDoc.copyText?_updateArgument]
    rfl

theorem contains_continueNested {doc : EntityDoc} {other : String}
    (h : doc.arguments.contains other = true) (parent last text : String) :
    (continueNested doc parent last text).arguments.contains other = true := by
  rw [continueNested, Dict.contains_modify]
  exact (doc.contains_updateArgument parent other _).mpr (.inr h)

/-- Text goes on with every copy that has the name of the last field. -/
theorem copyText?_continueNested (doc : EntityDoc) (parent last text other : String) :
    (continueNested doc parent last text).copyText? other =
      if other = last then (doc.copyText? other).map (appendLine · text)
      else doc.copyText? other := by
  have hfield := doc.copyText?_updateNested parent other (·.modify last (appendLine · text))
  unfold continueNested
  rw [← hfield]
  unfold EntityDoc.copyText?
  rw [Dict.get?_modify]
  split
  case isTrue hlast =>
    rw [hlast]
    cases (doc.updateArgument parent fun argument ↦ { argument with
        nested := argument.nested.modify last (appendLine · text) }).arguments.get? last with
    | none => rfl
    | some argument => cases hnested : argument.isNested <;> simp [Option.filter_some, hnested]
  case isFalse => rfl

/-! ## One item in a nested block -/

section Item

variable {item : ArgumentItem} {parent : String}

theorem contains_recordItem (hparent : item.parent = some parent) {doc : EntityDoc}
    {other : String} (h : other = item.name ∨ doc.arguments.contains other = true) :
    (recordItem doc item).arguments.contains other = true := by
  have hadd := (contains_addNested doc parent item.name item.description other).mpr (.inr h)
  simp only [recordItem, hparent]
  generalize addNested doc parent item.name item.description = start at hadd
  induction item.below generalizing start with
  | nil => exact hadd
  | cons line rest ih => exact ih _ (contains_continueNested hadd parent item.name line)

theorem copyText?_foldl_continueNested (doc : EntityDoc) (parent last other : String)
    (below : List String) :
    (below.foldl (fun doc line ↦ continueNested doc parent last line) doc).copyText? other =
      if other = last then (doc.copyText? other).map (below.foldl appendLine ·)
      else doc.copyText? other := by
  induction below generalizing doc with
  | nil => simp
  | cons line rest ih =>
    rw [List.foldl_cons, ih, copyText?_continueNested]
    split
    case isTrue => simp [Option.map_map, Function.comp_def]
    case isFalse => rfl

theorem copyText?_recordItem_of_ne (hparent : item.parent = some parent) (doc : EntityDoc)
    {name : String} (hname : item.name ≠ name) :
    (recordItem doc item).copyText? name = doc.copyText? name := by
  have hne : ¬ name = item.name := fun h ↦ hname h.symm
  simp only [recordItem, hparent]
  rw [copyText?_foldl_continueNested, if_neg hne, copyText?_addNested, if_neg fun h ↦ hne h.1]

/-- An item goes on with a copy that has its name, or else a copy is made from it. -/
theorem copyText?_recordItem_self (hparent : item.parent = some parent) {doc : EntityDoc}
    {text : String} (h : (recordItem doc item).copyText? item.name = some text) :
    (∃ start, doc.copyText? item.name = some start ∧ text = item.below.foldl appendLine start) ∨
      (doc.arguments.contains item.name = false ∧ text = item.text) := by
  simp only [recordItem, hparent] at h
  rw [copyText?_foldl_continueNested, if_pos rfl, copyText?_addNested, Option.map_eq_some_iff] at h
  obtain ⟨start, hstart, rfl⟩ := h
  split at hstart
  case isTrue hnew =>
    cases hstart
    exact .inr ⟨hnew.2.2, rfl⟩
  case isFalse => exact .inl ⟨start, hstart, rfl⟩

end Item

/-! ## All items in nested blocks -/

theorem contains_foldl_recordItem {items : List ArgumentItem}
    (hnested : ∀ item ∈ items, item.parent.isSome = true) (doc : EntityDoc) {name : String}
    (h : (∃ item ∈ items, item.name = name) ∨ doc.arguments.contains name = true) :
    (items.foldl recordItem doc).arguments.contains name = true := by
  induction items generalizing doc with
  | nil => exact h.resolve_left (by simp)
  | cons item rest ih =>
    obtain ⟨parent, hparent⟩ := Option.isSome_iff_exists.mp (hnested item List.mem_cons_self)
    have hrest : ∀ other ∈ rest, other.parent.isSome = true :=
      fun other hother ↦ hnested other (List.mem_cons_of_mem _ hother)
    apply ih hrest
    rcases h with ⟨other, hother, rfl⟩ | h
    · rcases List.mem_cons.mp hother with rfl | hother
      · exact .inr (contains_recordItem hparent (.inl rfl))
      · exact .inl ⟨other, hother, rfl⟩
    · exact .inr (contains_recordItem hparent (.inr h))

/-- A copy has the text of the first item with its name, with the text below later ones. -/
theorem exists_first_of_copyText? {items : List ArgumentItem}
    (hnested : ∀ item ∈ items, item.parent.isSome = true) {doc : EntityDoc}
    (hcopies : doc.HasNoCopies) {name text : String}
    (h : (items.foldl recordItem doc).copyText? name = some text) :
    ∃ before first after, items = before ++ first :: after ∧ first.name = name ∧
      (∀ item ∈ before, item.name ≠ name) ∧
        text = (after.filter (·.name = name)).foldl
          (fun text item ↦ item.below.foldl appendLine text) first.text := by
  induction items using List.reverseRecOn generalizing text with
  | nil => exact absurd ((hcopies name).symm.trans h) (by simp)
  | append_singleton items item ih =>
    have hbefore : ∀ other ∈ items, other.parent.isSome = true :=
      fun other hother ↦ hnested other (List.mem_append_left _ hother)
    obtain ⟨parent, hparent⟩ := Option.isSome_iff_exists.mp
      (hnested item (List.mem_append_right _ (List.mem_singleton_self item)))
    rw [List.foldl_append, List.foldl_cons, List.foldl_nil] at h
    by_cases hname : item.name = name
    · subst hname
      rcases copyText?_recordItem_self hparent h with ⟨start, hstart, rfl⟩ | ⟨hnew, rfl⟩
      · obtain ⟨before, first, after, rfl, hfirst, hothers, rfl⟩ := ih hbefore hstart
        refine ⟨before, first, after ++ [item], by simp, hfirst, hothers, ?_⟩
        simp
      · refine ⟨items, item, [], rfl, rfl, ?_, rfl⟩
        intro other hother hsame
        have hknown := contains_foldl_recordItem hbefore doc (.inl ⟨other, hother, hsame⟩)
        exact Bool.false_ne_true (hnew.symm.trans hknown)
    · rw [copyText?_recordItem_of_ne hparent _ hname] at h
      obtain ⟨before, first, after, rfl, hfirst, hothers, rfl⟩ := ih hbefore h
      refine ⟨before, first, after ++ [item], by simp, hfirst, hothers, ?_⟩
      simp [hname]

/-! ## Outside of nested blocks -/

/-- No nested block was introduced, and no field was copied. -/
structure IsOutside (scan : ArgumentScan) : Prop where
  parent : scan.parent = none
  hasNoCopies : scan.doc.HasNoCopies

theorem IsOutside.bullet {scan : ArgumentScan} (h : scan.IsOutside) (name description : String)
    (introducesBlock : Bool) : (scan.bullet name description introducesBlock).IsOutside := by
  simp only [ArgumentScan.bullet, h.parent]
  split
  · exact ⟨h.parent, h.hasNoCopies⟩
  · exact ⟨rfl, h.hasNoCopies.updateArgument name rfl⟩

theorem IsOutside.continuation {scan : ArgumentScan} (h : scan.IsOutside) (last text : String) :
    (scan.continuation last text).IsOutside := by
  simp only [ArgumentScan.continuation, h.parent, continueTopLevel]
  split
  · exact ⟨rfl, h.hasNoCopies.updateArgument last (h.hasNoCopies.isNested_argument last)⟩
  · exact ⟨rfl, h.hasNoCopies⟩

theorem IsOutside.foldl_continuation {scan : ArgumentScan} (h : scan.IsOutside) (last : String)
    (below : List String) :
    (below.foldl (fun scan line ↦ scan.continuation last line) scan).IsOutside := by
  induction below generalizing scan with
  | nil => exact h
  | cons line rest ih => exact ih (h.continuation last line)

/-- Outside of blocks, a bullet and the lines below it leave no copies. -/
theorem IsOutside.foldl_step_bullet {scan : ArgumentScan} (h : scan.IsOutside) {line : String}
    {name description : List Char}
    (hbullet : argumentBullet? line.toList = some (name, description)) {below : List String}
    (hbelow : ∀ other ∈ below, isItemText other = true) :
    (((line :: below).map Line.ofArguments).foldl step scan).IsOutside := by
  rw [List.map_cons, List.foldl_cons, Line.ofArguments_of_bullet hbullet, step]
  rw [foldl_itemTexts rfl hbelow]
  exact (h.bullet _ _ _).foldl_continuation _ _

end ArgumentScan

/-- The items that stand in nested blocks. -/
def nestedItems (parent : Option String) (lines : List String) : List ArgumentItem :=
  (argumentItems parent lines).filter (·.parent.isSome)

/-- Once in a nested block, every item stands in one. -/
theorem isSome_parent_of_mem_argumentItems {parent : Option String} (lines : List String)
    (hparent : parent.isSome = true) :
    ∀ item ∈ argumentItems parent lines, item.parent.isSome = true := by
  fun_induction argumentItems parent lines with
  | case1 => exact fun item hitem ↦ absurd hitem List.not_mem_nil
  | case2 parent line rest name description hbullet ih =>
    intro item hitem
    rcases List.mem_cons.mp hitem with rfl | hitem
    · exact hparent
    · exact ih hparent item hitem
  | case3 parent line rest hbullet ih =>
    apply ih
    split
    · exact hparent
    · rw [Option.isSome_or, hparent, Bool.or_true]

namespace ArgumentScan

theorem doc_foldl_step_within {scan : ArgumentScan} {lines : List String}
    (hparent : scan.parent.isSome = true)
    (hopen : scan.last = none ∨ ∀ line ∈ lines.head?, isItemText line = false) :
    ((lines.map Line.ofArguments).foldl step scan).doc =
      (nestedItems scan.parent lines).foldl recordItem scan.doc := by
  have hitems := isSome_parent_of_mem_argumentItems lines hparent
  rw [nestedItems, List.filter_eq_self.mpr hitems]
  apply doc_foldl_step scan lines hopen
  intro item hitem hnone
  have hsome := hitems item hitem
  simp [hnone] at hsome

/-- Whatever stands outside of blocks, scanning records the items in blocks one after the other,
and there are no copies before the first of them. -/
theorem exists_doc_foldl_step (scan : ArgumentScan) (lines : List String)
    (hopen : scan.last = none ∨ ∀ line ∈ lines.head?, isItemText line = false)
    (hcopies : scan.doc.HasNoCopies) :
    ∃ start : EntityDoc, start.HasNoCopies ∧
      ((lines.map Line.ofArguments).foldl step scan).doc =
        (nestedItems scan.parent lines).foldl recordItem start := by
  generalize hparent : scan.parent = parent
  induction parent, lines using argumentItems.induct generalizing scan with
  | case1 parent => exact ⟨scan.doc, hcopies, by rw [nestedItems, argumentItems]; rfl⟩
  | case2 parent line rest name description hbullet ih =>
    cases parent with
    | some parent =>
      refine ⟨scan.doc, hcopies, ?_⟩
      rw [← hparent]
      exact doc_foldl_step_within (by rw [hparent]; rfl) hopen
    | none =>
      have houtside := IsOutside.foldl_step_bullet ⟨hparent, hcopies⟩ hbullet
        (isItemText_of_mem_takeWhile rest)
      have hnext := isItemText_of_mem_head?_dropWhile rest
      obtain ⟨start, hstart, hdoc⟩ := ih _ (.inr hnext) houtside.hasNoCopies houtside.parent
      refine ⟨start, hstart, ?_⟩
      rw [nestedItems, argumentItems_of_bullet hbullet, List.filter_cons_of_neg (by simp),
        foldl_step_cons]
      exact hdoc
  | case3 parent line rest hbullet ih =>
    obtain ⟨hdoc, hlast, hnext⟩ := step_outside hbullet (hopen.imp id fun h ↦ h line rfl)
    rw [hparent] at hnext
    obtain ⟨start, hstart, hrest⟩ := ih _ (.inl hlast) (hdoc ▸ hcopies) hnext
    refine ⟨start, hstart, ?_⟩
    rw [nestedItems, argumentItems_of_no_bullet hbullet]
    exact hrest

end ArgumentScan

/-! ## Copies and their fields -/

theorem lastItem?_append_cons {before after : List ArgumentItem} {first : ArgumentItem}
    (hafter : ∀ item ∈ after, ¬ (item.parent = first.parent ∧ item.name = first.name)) :
    lastItem? (before ++ first :: after) first.parent first.name = some first := by
  rw [lastItem?, List.findRev?_eq_find?_reverse, List.find?_eq_some_iff_append]
  refine ⟨by simp, after.reverse, before.reverse, by simp, ?_⟩
  intro item hitem
  simp only [Bool.not_eq_true', decide_eq_false_iff_not]
  exact hafter item (List.mem_reverse.mp hitem)

theorem isSome_lastItem? {items : List ArgumentItem} {item : ArgumentItem} (h : item ∈ items) :
    (lastItem? items item.parent item.name).isSome = true := by
  rw [lastItem?, List.findRev?_eq_find?_reverse, List.find?_isSome]
  exact ⟨item, List.mem_reverse.mpr h, by simp⟩

/-- Items without text below them do not add to a text. -/
theorem foldl_below_eq_self {items : List ArgumentItem} (h : ∀ item ∈ items, item.below = [])
    (text : String) :
    items.foldl (fun text item ↦ item.below.foldl appendLine text) text = text := by
  induction items with
  | nil => rfl
  | cons item rest ih =>
    rw [List.foldl_cons, h item List.mem_cons_self]
    exact ih fun other hother ↦ h other (List.mem_cons_of_mem _ hother)

/-- Every copy that a scan leaves was made from the first item with its name in a nested block, and
that block's argument has a field of the name. The texts agree, unless a later item describes the
field again or goes on with a field of the same name in another block. -/
theorem exists_field_of_isNested (stats : Stats) (parent : Option String) (lines : List String)
    {name : String} {argument : ArgumentDoc}
    (hargument : (scanArguments .empty stats parent lines).1.arguments.get? name = some argument)
    (hcopy : argument.isNested = true) :
    ∃ before first after block, nestedItems parent lines = before ++ first :: after ∧
      (∀ item ∈ before, item.name ≠ name) ∧ first.name = name ∧ first.parent = some block ∧
      (∃ text, (scanArguments .empty stats parent lines).1.nestedText? block name = some text) ∧
      ((∀ item ∈ after, item.name = name → item.parent ≠ some block ∧ item.below = []) →
        (scanArguments .empty stats parent lines).1.nestedText? block name =
          some argument.description) := by
  have hnested : ∀ item ∈ nestedItems parent lines, item.parent.isSome = true :=
    fun item hitem ↦ (List.mem_filter.mp hitem).2
  have htext : (scanArguments .empty stats parent lines).1.copyText? name =
      some argument.description := by
    simp [EntityDoc.copyText?, hargument, Option.filter_some, hcopy]
  obtain ⟨start, hstart, hscan⟩ := ArgumentScan.exists_doc_foldl_step
    ⟨.empty, stats, none, parent⟩ lines (.inl rfl) EntityDoc.hasNoCopies_empty
  change (scanArguments .empty stats parent lines).1 = _ at hscan
  rw [hscan] at htext ⊢
  obtain ⟨before, first, after, hitems, rfl, hbefore, hdescription⟩ :=
    ArgumentScan.exists_first_of_copyText? hnested hstart htext
  have hmem : first ∈ nestedItems parent lines := by simp [hitems]
  obtain ⟨block, hblock⟩ := Option.isSome_iff_exists.mp (hnested first hmem)
  refine ⟨before, first, after, block, hitems, hbefore, rfl, hblock, ?_, ?_⟩
  · rw [ArgumentScan.nestedText?_foldl_recordItem, ← hblock]
    obtain ⟨last, hlast⟩ := Option.isSome_iff_exists.mp (isSome_lastItem? hmem)
    rw [hlast]
    exact ⟨last.text, rfl⟩
  · intro hlater
    have hlast : lastItem? (nestedItems parent lines) (some block) first.name = some first := by
      rw [hitems, ← hblock]
      apply lastItem?_append_cons
      rintro item hitem ⟨hparent, hname⟩
      exact (hlater item hitem hname).1 (hparent.trans hblock)
    have hsame : argument.description = first.text := by
      rw [hdescription]
      apply foldl_below_eq_self
      intro item hitem
      obtain ⟨hitem, hname⟩ := List.mem_filter.mp hitem
      exact (hlater item hitem (by simpa using hname)).2
    rw [ArgumentScan.nestedText?_foldl_recordItem, hlast, hsame]
    rfl

/-- Two blocks have a field `path`, each with some text below it. -/
def pathReference (page folder : List String) : List String :=
  ["The `website` block supports:", "* `path` - Page"] ++ page ++
    ["", "The `logging` block supports:", "* `path` - Folder"] ++ folder

theorem nestedItems_pathReference :
    nestedItems none (pathReference ["of errors."] []) =
      [⟨some "website", "* `path` - Page", "path", "Page", ["of errors."]⟩,
        ⟨some "logging", "* `path` - Folder", "path", "Folder", []⟩] := by
  have hitems : argumentItems none (pathReference ["of errors."] []) =
      [⟨some "website", "* `path` - Page", "path", "Page", ["of errors."]⟩,
        ⟨some "logging", "* `path` - Folder", "path", "Folder", []⟩] := by
    calc
      _ = argumentItems (some "website") ((pathReference ["of errors."] []).drop 1) :=
        argumentItems_of_no_bullet (by rfl) ..
      _ = ⟨some "website", "* `path` - Page", "path", "Page", ["of errors."]⟩ ::
          argumentItems (some "website") ((pathReference ["of errors."] []).drop 3) :=
        argumentItems_of_bullet (by rfl) ..
      _ = ⟨some "website", "* `path` - Page", "path", "Page", ["of errors."]⟩ ::
          argumentItems (some "website") ((pathReference ["of errors."] []).drop 4) :=
        congrArg _ (argumentItems_of_no_bullet (by rfl) ..)
      _ = ⟨some "website", "* `path` - Page", "path", "Page", ["of errors."]⟩ ::
          argumentItems (some "logging") ((pathReference ["of errors."] []).drop 5) :=
        congrArg _ (argumentItems_of_no_bullet (by rfl) ..)
      _ = ⟨some "website", "* `path` - Page", "path", "Page", ["of errors."]⟩ ::
          ⟨some "logging", "* `path` - Folder", "path", "Folder", []⟩ ::
            argumentItems (some "logging") [] :=
        congrArg _ (argumentItems_of_bullet (by rfl) ..)
      _ = _ := by rw [argumentItems]
  rw [nestedItems, hitems]
  rfl

theorem exists_field_of_isNested_pathReference :
    ∃ argument block,
      (scanArguments .empty .zero none (pathReference ["of errors."] [])).1.arguments.get? "path" =
        some argument ∧ argument.isNested = true ∧
      (scanArguments .empty .zero none (pathReference ["of errors."] [])).1.nestedText? block
        "path" = some argument.description := by
  have hcopy : ∃ argument, (scanArguments .empty .zero none
      (pathReference ["of errors."] [])).1.arguments.get? "path" = some argument ∧
        argument.isNested = true := ⟨_, rfl, rfl⟩
  obtain ⟨argument, hargument, hnested⟩ := hcopy
  obtain ⟨before, first, after, block, hitems, hbefore, hname, hblock, -, hsame⟩ :=
    exists_field_of_isNested .zero none _ hargument hnested
  refine ⟨argument, block, hargument, hnested, hsame ?_⟩
  rw [nestedItems_pathReference] at hitems
  cases before with
  | cons item rest =>
    obtain ⟨rfl, -⟩ := List.cons.inj hitems
    exact absurd rfl (hbefore _ List.mem_cons_self)
  | nil =>
    cases hitems
    cases hblock
    intro item hitem _
    cases List.mem_singleton.mp hitem
    exact ⟨by decide, rfl⟩

/-- Text below the field `path` of `logging` goes on with the copy, which was made from the field
`path` of `website`. Afterwards the copy has the text of neither. -/
theorem exists_copy_out_of_step :
    ∃ argument,
      (scanArguments .empty .zero none (pathReference [] ["for logs."])).1.arguments.get? "path" =
        some argument ∧ argument.isNested = true ∧
      ∀ block, (scanArguments .empty .zero none (pathReference [] ["for logs."])).1.nestedText?
        block "path" ≠ some argument.description := by
  have hentries :
      (scanArguments .empty .zero none (pathReference [] ["for logs."])).1.arguments.entries =
        [("logging", ⟨"", .ofList [("path", "Folder\nfor logs.")], false⟩),
          ("path", ⟨"Page\nfor logs.", ∅, true⟩),
          ("website", ⟨"", .ofList [("path", "Page")], false⟩)] := by
    rfl
  refine ⟨⟨"Page\nfor logs.", ∅, true⟩, by rw [Dict.get?, hentries]; rfl, rfl, ?_⟩
  intro block htext
  obtain ⟨argument, hargument, hfield⟩ := Option.bind_eq_some_iff.mp htext
  have hmem := Entries.mem_of_get?_eq_some hargument
  simp only [hentries, List.mem_cons, List.not_mem_nil, or_false, Prod.mk.injEq] at hmem
  rcases hmem with ⟨-, rfl⟩ | ⟨-, rfl⟩ | ⟨-, rfl⟩
  · exact absurd hfield (by decide)
  · exact absurd hfield (by decide)
  · exact absurd hfield (by decide)

end Markdown

end ProviderDocs
