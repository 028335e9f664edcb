import ProviderDocs.Proofs.Markdown.ArgumentItem

/-!
# What scanning an argument reference records

A record is seen through two look-ups: the text of a field in a nested block, and the text of
an argument that is not a copy of such a field. Recording an item changes the text of its own
field or argument, and of none other. So a scan leaves the text of the last item under each
name.
-/

namespace ProviderDocs

namespace EntityDoc

/-- The text of a field of the argument `parent`. -/
def nestedText? (doc : EntityDoc) (parent name : String) : Option String :=
  (doc.arguments.get? parent).bind (·.nested.get? name)

/-- The text of an argument that is not a copy. -/
def topLevelText? (doc : EntityDoc) (name : String) : Option String :=
  ((doc.arguments.get? name).filter (!·.isNested)).map (·.description)

theorem get?_updateArgument (doc : EntityDoc) (name other : String)
    (change : ArgumentDoc → ArgumentDoc) :
    (doc.updateArgument name change).arguments.get? other =
      if other = name then some (change (doc.argument name)) else doc.arguments.get? other :=
  Dict.get?_insert ..

theorem nested_get?_argument (doc : EntityDoc) (parent name : String) :
    (doc.argument parent).nested.get? name = doc.nestedText? parent name := by
  unfold argument nestedText?
  cases doc.arguments.get? parent with
  | some argument => rfl
  | none => rfl

theorem nestedText?_updateArgument (doc : EntityDoc) (parent other field : String)
    (change : Dict String → Dict String) :
    (doc.updateArgument parent fun argument ↦
      { argument with nested := change argument.nested }).nestedText? other field =
        if other = parent then (change (doc.argument parent).nested).get? field
        else doc.nestedText? other field := by
  unfold nestedText?
  rw [get?_updateArgument]
  split <;> rfl

/-- A change of an argument's nested texts leaves the texts outside of blocks. -/
theorem topLevelText?_updateArgument {doc : EntityDoc} {name text : String}
    (h : doc.topLevelText? name = some text) (parent : String)
    (change : Dict String → Dict String) :
    (doc.updateArgument parent fun argument ↦
      { argument with nested := change argument.nested }).topLevelText? name = some text := by
  unfold topLevelText? at h ⊢
  rw [get?_updateArgument]
  split
  case isTrue hname =>
    subst hname
    cases hargument : doc.arguments.get? name with
    | none => simp [hargument] at h
    | some argument => simpa [EntityDoc.argument, hargument, Option.filter_some] using h
  case isFalse => exact h

end EntityDoc

namespace Markdown

namespace ArgumentScan

/-! ## One line -/

/-- A copy under a name that has no record yet brings no nested text. -/
theorem nestedText?_copy {doc : EntityDoc} {name : String}
    (hname : doc.arguments.contains name = false) (description other field : String) :
    (doc.updateArgument name fun _ ↦ ⟨description, ∅, true⟩).nestedText? other field =
      doc.nestedText? other field := by
  simp only [Dict.contains, Option.isSome_eq_false_iff, Option.isNone_iff_eq_none] at hname
  unfold EntityDoc.nestedText?
  rw [EntityDoc.get?_updateArgument]
  split
  case isTrue hother =>
    rw [hother, hname]
    rfl
  case isFalse => rfl

theorem nestedText?_addNested (doc : EntityDoc) (parent name description other field : String) :
    (addNested doc parent name description).nestedText? other field =
      if other = parent ∧ field = name then some description
      else doc.nestedText? other field := by
  have hfield : (doc.updateArgument parent fun argument ↦
      { argument with nested := argument.nested.insert name description }).nestedText? other field =
        if other = parent ∧ field = name then some description
        else doc.nestedText? other field := by
    rw [EntityDoc.nestedText?_updateArgument doc parent other field (·.insert name description),
      Dict.get?_insert, EntityDoc.nested_get?_argument]
    by_cases hother : other = parent
    · simp [hother]
    · simp [hother]
  rw [← hfield, addNested]
  split
  case isTrue => rfl
  case isFalse hcopy => exact nestedText?_copy (Bool.eq_false_iff.mpr hcopy) ..

/-- The copy of a field has its description continued, not its nested texts. -/
theorem nestedText?_continueCopy (doc : EntityDoc) (last text other field : String) :
    EntityDoc.nestedText? { doc with
      arguments := doc.arguments.modify last fun argument ↦
        if argument.isNested then
          { argument with description := appendLine argument.description text }
        else argument } other field = doc.nestedText? other field := by
  unfold EntityDoc.nestedText?
  rw [Dict.get?_modify]
  split
  case isTrue hother =>
    subst hother
    cases doc.arguments.get? other with
    | none => rfl
    | some argument =>
      simp only [Option.map_some, Option.bind_some]
      split <;> rfl
  case isFalse => rfl

theorem nestedText?_continueNested (doc : EntityDoc) (parent last text other field : String) :
    (continueNested doc parent last text).nestedText? other field =
      if other = parent ∧ field = last then (doc.nestedText? parent last).map (appendLine · text)
      else doc.nestedText? other field := by
  unfold continueNested
  rw [nestedText?_continueCopy,
    EntityDoc.nestedText?_updateArgument doc parent other field (·.modify last (appendLine · text)),
    Dict.get?_modify, EntityDoc.nested_get?_argument, EntityDoc.nested_get?_argument]
  by_cases hother : other = parent
  · simp [hother]
  · simp [hother]

theorem nestedText?_addTopLevel (doc : EntityDoc) (name description other field : String) :
    (addTopLevel doc name description).nestedText? other field = doc.nestedText? other field := by
  unfold addTopLevel
  conv => lhs; unfold EntityDoc.nestedText?
  rw [EntityDoc.get?_updateArgument]
  split
  case isTrue hother => rw [Option.bind_some, EntityDoc.nested_get?_argument, hother]
  case isFalse => rfl

theorem topLevelText?_addTopLevel (doc : EntityDoc) (name description other : String) :
    (addTopLevel doc name description).topLevelText? other =
      if other = name then some description else doc.topLevelText? other := by
  unfold addTopLevel EntityDoc.topLevelText?
  rw [EntityDoc.get?_updateArgument]
  split <;> rfl

theorem topLevelText?_addNested {doc : EntityDoc} {other text : String}
    (h : doc.topLevelText? other = some text) (parent name description : String) :
    (addNested doc parent name description).topLevelText? other = some text := by
  have hfield := EntityDoc.topLevelText?_updateArgument h parent (·.insert name description)
  rw [addNested]
  split
  case isTrue => exact hfield
  case isFalse hcopy =>
    have hother : other ≠ name := by
      intro hname
      subst hname
      simp only [Dict.contains, Bool.not_eq_true, Option.isSome_eq_false_iff,
        Option.isNone_iff_eq_none] at hcopy
      simp [EntityDoc.topLevelText?, hcopy] at hfield
    unfold EntityDoc.topLevelText? at hfield ⊢
    rwa [EntityDoc.get?_updateArgument, if_neg hother]

theorem topLevelText?_continueNested {doc : EntityDoc} {other text : String}
    (h : doc.topLevelText? other = some text) (parent last line : String) :
    (continueNested doc parent last line).topLevelText? other = some text := by
  have hfield := EntityDoc.topLevelText?_updateArgument h parent (·.modify last (appendLine · line))
  unfold continueNested
  unfold EntityDoc.topLevelText? at hfield ⊢
  rw [Dict.get?_modify]
  split
  case isTrue hlast =>
    subst hlast
    cases hargument : (doc.updateArgument parent fun argument ↦ { argument with
        nested := argument.nested.modify other (appendLine · line) }).arguments.get? other with
    | none => simp [hargument] at hfield
    | some argument =>
      rw [hargument] at hfield
      cases hnested : argument.isNested with
      | true => simp [Option.filter_some, hnested] at hfield
      | false => simpa [Option.filter_some, hnested] using hfield
  case isFalse => exact hfield

/-! ## One item -/

theorem nestedText?_foldl_continueNested (doc : EntityDoc) (parent last other field : String)
    (below : List String) :
    (below.foldl (fun doc line ↦ continueNested doc parent last line) doc).nestedText? other field =
      if other = parent ∧ field = last then
        (doc.nestedText? parent last).map (below.foldl appendLine ·)
      else doc.nestedText? other field := by
  induction below generalizing doc with
  | nil =>
    simp only [List.foldl_nil, Option.map_id']
    split
    case isTrue h => rw [h.1, h.2]
    case isFalse => rfl
  | cons line rest ih =>
    rw [List.foldl_cons, ih, nestedText?_continueNested, nestedText?_continueNested]
    split
    case isTrue => simp [Option.map_map, Function.comp_def]
    case isFalse h => rfl

theorem nestedText?_recordItem (doc : EntityDoc) (item : ArgumentItem) (parent name : String) :
    (recordItem doc item).nestedText? parent name =
      if item.parent = some parent ∧ item.name = name then some item.text
      else doc.nestedText? parent name := by
  unfold recordItem
  cases item.parent with
  | none => simp [nestedText?_addTopLevel]
  | some block =>
    simp only [nestedText?_foldl_continueNested, nestedText?_addNested, Option.some.injEq, and_self,
      if_true, Option.map_some]
    by_cases hself : parent = block ∧ name = item.name
    · obtain ⟨rfl, rfl⟩ := hself
      simp [ArgumentItem.text]
      rfl
    · have hother : ¬ (block = parent ∧ item.name = name) := by
        rintro ⟨rfl, rfl⟩
        exact hself ⟨rfl, rfl⟩
      rw [if_neg hself, if_neg hself, if_neg hother]

theorem topLevelText?_recordItem_of_nested {doc : EntityDoc} {name text : String}
    (h : doc.topLevelText? name = some text) {item : ArgumentItem} {parent : String}
    (hparent : item.parent = some parent) :
    (recordItem doc item).topLevelText? name = some text := by
  have hadd := topLevelText?_addNested h parent item.name item.description
  simp only [recordItem, hparent]
  generalize addNested doc parent item.name item.description = start at hadd
  induction item.below generalizing start with
  | nil => exact hadd
  | cons line rest ih => exact ih _ (topLevelText?_continueNested hadd parent item.name line)

theorem topLevelText?_recordItem (doc : EntityDoc) {item : ArgumentItem}
    (hparent : item.parent = none) (name : String) :
    (recordItem doc item).topLevelText? name =
      if name = item.name then some item.text else doc.topLevelText? name := by
  simp only [recordItem, hparent, topLevelText?_addTopLevel]

end ArgumentScan

/-! ## All items -/

/-- The last item with that name in the nested block of `parent`, or outside of any. -/
def lastItem? (items : List ArgumentItem) (parent : Option String) (name : String) :
    Option ArgumentItem :=
  items.findRev? fun item ↦ item.parent = parent ∧ item.name = name

theorem lastItem?_cons (item : ArgumentItem) (rest : List ArgumentItem) (parent : Option String)
    (name : String) :
    lastItem? (item :: rest) parent name = (lastItem? rest parent name).or
      (if item.parent = parent ∧ item.name = name then some item else none) := by
  simp only [lastItem?, List.findRev?_eq_find?_reverse, List.reverse_cons, List.find?_append,
    List.find?_singleton, decide_eq_true_eq]

namespace ArgumentScan

theorem nestedText?_foldl_recordItem (items : List ArgumentItem) (doc : EntityDoc)
    (parent name : String) :
    (items.foldl recordItem doc).nestedText? parent name =
      ((lastItem? items (some parent) name).map ArgumentItem.text).or
        (doc.nestedText? parent name) := by
  induction items generalizing doc with
  | nil => rfl
  | cons item rest ih =>
    rw [List.foldl_cons, ih, nestedText?_recordItem, lastItem?_cons]
    cases lastItem? rest (some parent) name with
    | some last => rfl
    | none => split <;> rfl

theorem topLevelText?_foldl_recordItem {items : List ArgumentItem} {doc : EntityDoc}
    {name text : String}
    (h : ((lastItem? items none name).map ArgumentItem.text).or (doc.topLevelText? name) =
      some text) :
    (items.foldl recordItem doc).topLevelText? name = some text := by
  induction items generalizing doc with
  | nil => exact h
  | cons item rest ih =>
    rw [List.foldl_cons]
    apply ih
    rw [lastItem?_cons] at h
    cases hlast : lastItem? rest none name with
    | some last => simpa [hlast] using h
    | none =>
      rw [hlast, Option.none_or] at h
      rw [Option.map_none, Option.none_or]
      cases hparent : item.parent with
      | some parent =>
        apply topLevelText?_recordItem_of_nested _ hparent
        simpa [hparent] using h
      | none =>
        rw [topLevelText?_recordItem doc hparent]
        by_cases hname : item.name = name
        · simpa [hparent, hname] using h
        · simpa [hparent, hname, Ne.symm hname] using h

end ArgumentScan

/-- Scanning lines leaves, for every name in every nested block, the text of the last item with
that name in that block and otherwise the text from before. Outside of blocks it leaves the text
of the last item with that name, and what had a text there before keeps it when no item with
that name stands outside. -/
theorem scanArguments_items (doc : EntityDoc) (stats : Stats) (parent : Option String)
    (lines : List String) (hplain : PlainBullets (argumentItems parent lines)) :
    (∀ block name,
      (scanArguments doc stats parent lines).1.nestedText? block name =
        ((lastItem? (argumentItems parent lines) (some block) name).map ArgumentItem.text).or
          (doc.nestedText? block name)) ∧
    (∀ name item, lastItem? (argumentItems parent lines) none name = some item →
      (scanArguments doc stats parent lines).1.topLevelText? name = some item.text) ∧
    (∀ name text, lastItem? (argumentItems parent lines) none name = none →
      doc.topLevelText? name = some text →
      (scanArguments doc stats parent lines).1.topLevelText? name = some text) := by
  have hscan : (scanArguments doc stats parent lines).1 =
      (argumentItems parent lines).foldl ArgumentScan.recordItem doc :=
    ArgumentScan.doc_foldl_step ⟨doc, stats, none, parent⟩ lines (.inl rfl) hplain
  rw [hscan]
  refine ⟨?_, ?_, ?_⟩
  · exact ArgumentScan.nestedText?_foldl_recordItem _ doc
  · intro name item hlast
    apply ArgumentScan.topLevelText?_foldl_recordItem
    rw [hlast]
    rfl
  · intro name text hlast htext
    apply ArgumentScan.topLevelText?_foldl_recordItem
    rw [hlast]
    exact htext

/-- A reference in which the argument `site` has a field of its own name. -/
def siteReference : List String :=
  ["* `site` - Site", " text", "", "`site` block supports:", "* `site` - Own"]

theorem argumentItems_siteReference :
    argumentItems none siteReference =
      [⟨none, "* `site` - Site", "site", "Site", ["text"]⟩,
        ⟨some "site", "* `site` - Own", "site", "Own", []⟩] := by
  have hfirst : argumentBullet? "* `site` - Site".toList =
      some ("site".toList, "Site".toList) := by rfl
  have hsecond : argumentBullet? "* `site` - Own".toList =
      some ("site".toList, "Own".toList) := by rfl
  have hblank : argumentBullet? "".toList = none := by rfl
  have hblock : argumentBullet? "`site` block supports:".toList = none := by rfl
  have hname : blockName? "`site` block supports:" = some "site" := by rfl
  have hbelow : isItemText " text" = true := by rfl
  have hend : ¬ isItemText "" = true := Bool.eq_false_iff.mp (by rfl)
  have htext : trimmed " text" = "text" := by rfl
  unfold siteReference
  rw [argumentItems_of_bullet hfirst, List.takeWhile_cons_of_pos hbelow,
    List.dropWhile_cons_of_pos hbelow, List.takeWhile_cons_of_neg hend,
    List.dropWhile_cons_of_neg hend, argumentItems_of_no_bullet hblank,
    argumentItems_of_no_bullet hblock, hname, argumentItems_of_bullet hsecond, List.map_singleton,
    htext, if_neg (Bool.eq_false_iff.mp (by rfl)), List.dropWhile_nil, argumentItems]
  rfl

theorem scanArguments_items_siteReference :
    PlainBullets (argumentItems none siteReference) ∧
      (scanArguments .empty .zero none siteReference).1.nestedText? "site" "site" = some "Own" ∧
      (scanArguments .empty .zero none siteReference).1.topLevelText? "site" =
        some "Site\ntext" := by
  have hplain : PlainBullets (argumentItems none siteReference) := by
    have hfirst : endsWith (trimmedEnd "* `site` - Site") introEnding = false := by rfl
    rw [argumentItems_siteReference]
    intro item hitem hparent
    simp only [List.mem_cons, List.not_mem_nil, or_false] at hitem
    rcases hitem with rfl | rfl
    · exact hfirst
    · cases hparent
  obtain ⟨hnested, htop, -⟩ := scanArguments_items .empty .zero none siteReference hplain
  refine ⟨hplain, ?_, ?_⟩
  · rw [hnested, argumentItems_siteReference]
    rfl
  · apply htop "site" ⟨none, "* `site` - Site", "site", "Site", ["text"]⟩
    rw [argumentItems_siteReference]
    rfl

end Markdown

end ProviderDocs
