import Mathlib.Data.List.Induction
import ProviderDocs.Proofs.Markdown.ArgumentCopy

/-!
# Laying documentation over other documentation

An entity's documentation may take over what that of another entity says. Attributes and nested
fields are taken over text by text. An argument that is new to the entity gets the texts of the
other record, but it is never a copy of a nested field, also where the other record is one.

Arguments may be taken over as attributes, each followed by its nested fields. Of several texts
with one name the one that is entered last stays, which is that of the greatest argument in the
order of names. So a field wins over the argument of its name if it stands in an argument that is
not smaller.
-/

namespace ProviderDocs

namespace EntityDoc

theorem get?_overlayTexts (dict texts : Dict String) (key : String) :
    (overlayTexts dict texts).get? key = (texts.get? key).or (dict.get? key) := by
  have h := Dict.get?_foldl_combine (fun _ text ↦ text) texts.sorted dict key
  rwa [Option.map_id'] at h

theorem overlayTexts_empty (texts : Dict String) : overlayTexts ∅ texts = texts := by
  apply Dict.ext_get?
  intro key
  rw [get?_overlayTexts]
  exact Option.or_none

/-! ## Arguments -/

/-- The record of an argument after the texts of another one. -/
def overlaidArgument (before argument : ArgumentDoc) : ArgumentDoc :=
  { before with
    description := argument.description
    nested := overlayTexts before.nested argument.nested }

/-- Only the arguments of a record change, each on its own. -/
theorem includeArguments_eq (doc source : EntityDoc) :
    doc.includeArguments source =
      { doc with
        arguments := source.arguments.entries.foldl
          (fun arguments entry ↦ arguments.insert entry.1
            (overlaidArgument ((arguments.get? entry.1).getD .empty) entry.2))
          doc.arguments } := by
  unfold includeArguments
  generalize source.arguments.entries = entries
  induction entries generalizing doc with
  | nil => rfl
  | cons entry rest ih => exact ih (doc.updateArgument entry.1 (overlaidArgument · entry.2))

theorem get?_includeArguments (doc source : EntityDoc) (name : String) :
    (doc.includeArguments source).arguments.get? name =
      ((source.arguments.get? name).map (overlaidArgument (doc.argument name))).or
        (doc.arguments.get? name) := by
  rw [includeArguments_eq]
  exact Dict.get?_foldl_combine (fun before ↦ overlaidArgument (before.getD .empty))
    source.arguments.sorted doc.arguments name

/-- The texts of the arguments of `source` are taken over, and nothing else changes. -/
structure TakesOverArguments (doc source later : EntityDoc) : Prop where
  description : later.description = doc.description
  attributes : later.attributes = doc.attributes
  importText : later.importText = doc.importText
  others : ∀ name, source.arguments.get? name = none →
    later.arguments.get? name = doc.arguments.get? name
  added : ∀ name argument, doc.arguments.get? name = none →
    source.arguments.get? name = some argument →
      later.arguments.get? name = some { argument with isNested := false }
  merged : ∀ name before argument, doc.arguments.get? name = some before →
    source.arguments.get? name = some argument →
      ∃ after, later.arguments.get? name = some after ∧
        after.description = argument.description ∧ after.isNested = before.isNested ∧
        ∀ field, after.nested.get? field =
          (argument.nested.get? field).or (before.nested.get? field)

theorem takesOverArguments_includeArguments (doc source : EntityDoc) :
    TakesOverArguments doc source (doc.includeArguments source) where
  description := by rw [includeArguments_eq]
  attributes := by rw [includeArguments_eq]
  importText := by rw [includeArguments_eq]
  others name hsource := by
    rw [get?_includeArguments, hsource, Option.map_none, Option.none_or]
  added name argument hdoc hsource := by
    have hbefore : doc.argument name = .empty := by rw [EntityDoc.argument, hdoc, Option.getD_none]
    rw [get?_includeArguments, hsource, hbefore, Option.map_some, Option.some_or]
    exact congrArg (fun nested ↦ some (ArgumentDoc.mk argument.description nested false))
      (overlayTexts_empty argument.nested)
  merged name before argument hdoc hsource := by
    have hbefore : doc.argument name = before := by rw [EntityDoc.argument, hdoc, Option.getD_some]
    refine ⟨overlaidArgument before argument, ?_, rfl, rfl, ?_⟩
    · rw [get?_includeArguments, hsource, hbefore, Option.map_some, Option.some_or]
    · exact get?_overlayTexts before.nested argument.nested

/--
The texts of all arguments are taken over. The record of an argument that is new is the same record
exactly when that is not a copy of a nested field, since nothing that is taken over is marked as a
copy.
-/
theorem takesOverArguments_and_copies_iff (doc source : EntityDoc) :
    TakesOverArguments doc source (doc.includeArguments source) ∧
    ∀ name argument, doc.arguments.get? name = none → source.arguments.get? name = some argument →
      ((doc.includeArguments source).arguments.get? name = some argument ↔
        argument.isNested = false) := by
  have htakes := takesOverArguments_includeArguments doc source
  refine ⟨htakes, fun name argument hdoc hsource ↦ ?_⟩
  rw [htakes.added name argument hdoc hsource, Option.some.injEq]
  constructor
  · intro hsame
    rw [← hsame]
  · intro hnested
    rw [← hnested]

/-- A website with one field, which is there as a copy as well. -/
def websiteDoc : EntityDoc :=
  { EntityDoc.empty with
    arguments := .ofList
      [("website", ⟨"A website object.", .ofList [("index_document", "Index page.")], false⟩),
        ("index_document", ⟨"Index page.", ∅, true⟩)] }

theorem takesOverArguments_and_copies_iff_website :
    EntityDoc.empty.arguments.get? "website" = none ∧
      ∃ argument, websiteDoc.arguments.get? "website" = some argument ∧
        (EntityDoc.empty.includeArguments websiteDoc).arguments.get? "website" = some argument := by
  have hsource : websiteDoc.arguments.get? "website" =
      some ⟨"A website object.", .ofList [("index_document", "Index page.")], false⟩ := by decide
  exact ⟨rfl, _, hsource,
    ((takesOverArguments_and_copies_iff .empty websiteDoc).2 _ _ rfl hsource).mpr rfl⟩

/-- A copy of a nested field is not taken over as a copy. -/
theorem not_copies_includeArguments :
    ¬ ∀ (doc source : EntityDoc) (name : String) (argument : ArgumentDoc),
      doc.arguments.get? name = none → source.arguments.get? name = some argument →
        (doc.includeArguments source).arguments.get? name = some argument := by
  intro hcopies
  have hcopy := hcopies .empty websiteDoc "index_document" ⟨"Index page.", ∅, true⟩ rfl (by decide)
  exact absurd hcopy (by decide)

/-! ## Arguments as attributes -/

/-- The text that an argument leaves under a name among the attributes, its fields entered last. -/
def attributeText? (entry : String × ArgumentDoc) (name : String) : Option String :=
  (entry.2.nested.get? name).or (if name = entry.1 then some entry.2.description else none)

theorem get?_includeArgumentsAsAttributes (doc source : EntityDoc) (name : String) :
    (doc.includeArgumentsAsAttributes source).attributes.get? name =
      (source.arguments.entries.filterMap (attributeText? · name)).getLast?.or
        (doc.attributes.get? name) := by
  unfold includeArgumentsAsAttributes
  generalize doc.attributes = attributes
  dsimp only
  induction source.arguments.entries using List.reverseRecOn with
  | nil => rfl
  | append_singleton front entry ih =>
    rw [List.foldl_append, List.foldl_cons, List.foldl_nil, get?_overlayTexts, Dict.get?_insert, ih,
      List.filterMap_append, List.getLast?_append, List.filterMap_cons, List.filterMap_nil,
      attributeText?]
    cases entry.2.nested.get? name with
    | some text => rfl
    | none =>
      by_cases hname : name = entry.1
      · simp [hname]
      · simp [hname]

/-- The text that the argument `parent` leaves under a name among the attributes. -/
def writtenText? (doc : EntityDoc) (parent name : String) : Option String :=
  (doc.arguments.get? parent).bind fun argument ↦ attributeText? (parent, argument) name

theorem writtenText?_of_mem {doc : EntityDoc} {entry : String × ArgumentDoc}
    (h : entry ∈ doc.arguments.entries) (name : String) :
    doc.writtenText? entry.1 name = attributeText? entry name := by
  have hget : doc.arguments.get? entry.1 = some entry.2 :=
    Entries.get?_eq_some_of_mem doc.arguments.sorted h
  rw [writtenText?, hget, Option.bind_some]

theorem writtenText?_of_nestedText? {doc : EntityDoc} {parent name text : String}
    (h : doc.nestedText? parent name = some text) : doc.writtenText? parent name = some text := by
  obtain ⟨argument, hargument, htext⟩ := Option.bind_eq_some_iff.mp h
  rw [writtenText?, hargument, Option.bind_some, attributeText?, htext, Option.some_or]

theorem isSome_writtenText?_self {doc : EntityDoc} {name : String}
    (h : doc.arguments.contains name = true) : (doc.writtenText? name name).isSome = true := by
  obtain ⟨argument, hargument⟩ := Option.isSome_iff_exists.mp h
  simp [writtenText?, hargument, attributeText?]

/-- An argument leaves the text of a field or, under its own name, its description. -/
theorem writtenText?_cases {doc : EntityDoc} {parent name text : String}
    (h : doc.writtenText? parent name = some text) :
    doc.nestedText? parent name = some text ∨
      doc.nestedText? parent name = none ∧ name = parent ∧
        (doc.arguments.get? name).map (·.description) = some text := by
  obtain ⟨argument, hargument, htext⟩ := Option.bind_eq_some_iff.mp h
  rw [nestedText?, hargument, Option.bind_some]
  cases hfield : argument.nested.get? name with
  | some field =>
    left
    rwa [attributeText?, hfield, Option.some_or] at htext
  | none =>
    right
    rw [attributeText?, hfield, Option.none_or, Option.ite_none_right_eq_some] at htext
    obtain ⟨rfl, htext⟩ := htext
    rw [hargument]
    exact ⟨rfl, rfl, htext⟩

/-- An argument is the last one, in the order of names, to leave a text under a name. -/
structure WritesLast (doc : EntityDoc) (name parent text : String) : Prop where
  text : doc.writtenText? parent name = some text
  last : ∀ other, parent < other → doc.writtenText? other name = none

theorem exists_writesLast {doc : EntityDoc} {parent name : String}
    (h : (doc.writtenText? parent name).isSome = true) :
    ∃ last text, doc.WritesLast name last text := by
  obtain ⟨text, htext⟩ := Option.isSome_iff_exists.mp h
  obtain ⟨argument, hargument, htext⟩ := Option.bind_eq_some_iff.mp htext
  obtain ⟨last, hmem, hwrites, hlast⟩ :=
    Entries.exists_greatest (p := (attributeText? · name |>.isSome)) doc.arguments.sorted
      ⟨_, Entries.mem_of_get?_eq_some hargument, Option.isSome_of_eq_some htext⟩
  obtain ⟨written, hwritten⟩ := Option.isSome_iff_exists.mp hwrites
  refine ⟨last.1, written, (writtenText?_of_mem hmem name).trans hwritten, fun other hlt ↦ ?_⟩
  rw [writtenText?, Option.bind_eq_none_iff]
  intro argument hargument
  rw [← Option.not_isSome_iff_eq_none]
  exact hlast _ (Entries.mem_of_get?_eq_some hargument) hlt

/-- The last argument to leave a text under a name decides what the attribute says. -/
theorem get?_includeArgumentsAsAttributes_of_writesLast {source : EntityDoc}
    {name parent text : String} (h : source.WritesLast name parent text) (doc : EntityDoc) :
    (doc.includeArgumentsAsAttributes source).attributes.get? name = some text := by
  obtain ⟨argument, hargument, htext⟩ := Option.bind_eq_some_iff.mp h.text
  obtain ⟨front, back, hentries, -, hback⟩ := Dict.exists_entries_eq_append hargument
  have hnone : back.filterMap (attributeText? · name) = [] := by
    rw [List.filterMap_eq_nil_iff]
    intro entry hmem
    have hentry : entry ∈ source.arguments.entries := by
      rw [hentries]
      exact List.mem_append_right _ (List.mem_cons_of_mem _ hmem)
    rw [← writtenText?_of_mem hentry]
    exact h.last entry.1 (hback entry hmem)
  rw [get?_includeArgumentsAsAttributes, hentries, List.filterMap_append, List.filterMap_cons,
    htext, hnone, List.getLast?_concat, Option.some_or]

theorem get?_includeArgumentsAsAttributes_of_none {source : EntityDoc} {name : String}
    (h : ∀ parent, source.writtenText? parent name = none) (doc : EntityDoc) :
    (doc.includeArgumentsAsAttributes source).attributes.get? name = doc.attributes.get? name := by
  have hnone : source.arguments.entries.filterMap (attributeText? · name) = [] := by
    rw [List.filterMap_eq_nil_iff]
    intro entry hmem
    rw [← writtenText?_of_mem hmem]
    exact h entry.1
  rw [get?_includeArgumentsAsAttributes, hnone, List.getLast?_nil, Option.none_or]

/-- The greatest argument that has a field of a name. -/
structure IsLastParent (doc : EntityDoc) (name parent text : String) : Prop where
  text : doc.nestedText? parent name = some text
  last : ∀ other, parent < other → doc.nestedText? other name = none

theorem IsLastParent.le {doc : EntityDoc} {name parent field other text : String}
    (h : doc.IsLastParent name parent field) (hother : doc.nestedText? other name = some text) :
    other ≤ parent := by
  rw [← String.not_lt]
  intro hlt
  rw [h.last other hlt] at hother
  cases hother

theorem WritesLast.isLastParent {doc : EntityDoc} {name last text : String}
    (h : doc.WritesLast name last text) (hfield : doc.nestedText? last name = some text) :
    doc.IsLastParent name last text := by
  refine ⟨hfield, fun other hlt ↦ ?_⟩
  cases hother : doc.nestedText? other name with
  | none => rfl
  | some field => exact (writtenText?_of_nestedText? hother).symm.trans (h.last other hlt)

/-- No field is left under a name after the last text. -/
theorem WritesLast.eq_of_isLastParent {doc : EntityDoc} {name last text parent field : String}
    (h : doc.WritesLast name last text) (hparent : doc.IsLastParent name parent field)
    (hle : last ≤ parent) : parent = last ∧ field = text := by
  have hwritten := writtenText?_of_nestedText? hparent.text
  have heq : parent = last := by
    by_contra hne
    have hlt := Entries.lt_of_not_lt_of_ne (String.not_lt.mpr hle) hne
    rw [h.last parent hlt] at hwritten
    cases hwritten
  subst heq
  exact ⟨rfl, Option.some.inj (hwritten.symm.trans h.text)⟩

theorem topLevelText?_eq_some_iff {doc : EntityDoc} {name text : String} :
    doc.topLevelText? name = some text ↔
      ∃ argument, doc.arguments.get? name = some argument ∧ argument.isNested = false ∧
        argument.description = text := by
  simp [topLevelText?, Option.map_eq_some_iff, Option.filter_eq_some_iff, and_assoc]

/-- The description of an argument is that of a copy or that of an argument that is none. -/
theorem description_eq_or (doc : EntityDoc) (name : String) :
    (doc.arguments.get? name).map (·.description) =
      (doc.topLevelText? name).or (doc.copyText? name) := by
  unfold topLevelText? copyText?
  cases doc.arguments.get? name with
  | none => rfl
  | some argument => cases h : argument.isNested <;> simp [Option.filter_some, h]

/-- Fields and copies are entered as attributes, and no other attributes change. -/
structure EntersFields (doc source later : EntityDoc) : Prop where
  entered : ∀ name, source.topLevelText? name = none →
    (∃ parent, (source.nestedText? parent name).isSome = true) ∨
        (source.copyText? name).isSome = true →
      ∃ text, later.attributes.get? name = some text ∧
        ((∃ parent, source.nestedText? parent name = some text) ∨
          source.copyText? name = some text)
  others : ∀ name, source.arguments.get? name = none →
    (∀ parent, source.nestedText? parent name = none) →
      later.attributes.get? name = doc.attributes.get? name

theorem entersFields_includeArgumentsAsAttributes (doc source : EntityDoc) :
    EntersFields doc source (doc.includeArgumentsAsAttributes source) where
  entered name hcopy hnamed := by
    have hwritten : ∃ parent, (source.writtenText? parent name).isSome = true := by
      rcases hnamed with ⟨parent, hfield⟩ | hself
      · obtain ⟨text, htext⟩ := Option.isSome_iff_exists.mp hfield
        exact ⟨parent, Option.isSome_of_eq_some (writtenText?_of_nestedText? htext)⟩
      · refine ⟨name, isSome_writtenText?_self ?_⟩
        rw [Dict.contains, ← Option.isSome_map (f := (·.description)), description_eq_or, hcopy,
          Option.none_or]
        exact hself
    obtain ⟨parent, hparent⟩ := hwritten
    obtain ⟨last, text, hlast⟩ := exists_writesLast hparent
    refine ⟨text, get?_includeArgumentsAsAttributes_of_writesLast hlast doc, ?_⟩
    rcases writtenText?_cases hlast.text with hfield | ⟨-, -, hself⟩
    · exact .inl ⟨last, hfield⟩
    · rw [description_eq_or, hcopy, Option.none_or] at hself
      exact .inr hself
  others name hargument hfields := by
    apply get?_includeArgumentsAsAttributes_of_none
    intro parent
    cases hwritten : source.writtenText? parent name with
    | none => rfl
    | some text =>
      rcases writtenText?_cases hwritten with hfield | ⟨-, -, hself⟩
      · rw [hfields parent] at hfield
        cases hfield
      · rw [hargument] at hself
        cases hself

/--
An argument that is no copy keeps its name as attribute exactly when no field of that name is
entered after it, or the last such field has the same text. Fields are entered with the argument
that they belong to, and the arguments in the order of their names.
-/
theorem entersFields_and_keepsName_iff (doc source : EntityDoc) :
    EntersFields doc source (doc.includeArgumentsAsAttributes source) ∧
    ∀ name text, source.topLevelText? name = some text →
      ((doc.includeArgumentsAsAttributes source).attributes.get? name = some text ↔
        ∀ parent field, name ≤ parent → source.IsLastParent name parent field →
          field = text) := by
  refine ⟨entersFields_includeArgumentsAsAttributes doc source, fun name text htext ↦ ?_⟩
  obtain ⟨argument, hargument, -, hdescription⟩ := topLevelText?_eq_some_iff.mp htext
  have hself : (source.writtenText? name name).isSome = true :=
    isSome_writtenText?_self (Option.isSome_of_eq_some hargument)
  obtain ⟨last, written, hlast⟩ := exists_writesLast hself
  have hle : name ≤ last := by
    rw [← String.not_lt]
    intro hlt
    rw [hlast.last name hlt] at hself
    cases hself
  rw [get?_includeArgumentsAsAttributes_of_writesLast hlast doc, Option.some.injEq]
  rcases writtenText?_cases hlast.text with hfield | ⟨hnone, rfl, hwritten⟩
  · -- A field is entered last, so it has to have the text of the argument.
    have hparent := hlast.isLastParent hfield
    constructor
    · rintro rfl parent field - hother
      exact (hlast.eq_of_isLastParent hother (hother.le hfield)).2
    · exact fun h ↦ h last written hle hparent
  · -- The argument itself is entered last, and there is no field after it.
    rw [hargument, Option.map_some, Option.some.injEq, hdescription] at hwritten
    refine iff_of_true hwritten.symm fun parent field hle hparent ↦ ?_
    obtain ⟨rfl, -⟩ := hlast.eq_of_isLastParent hparent hle
    rw [hparent.text] at hnone
    cases hnone

/-- A rule has a field that is named like an argument beside it. -/
def ruleDoc : EntityDoc :=
  { EntityDoc.empty with
    arguments := .ofList
      [("rule", ⟨"A rule.", .ofList [("zone", "The zone of the rule.")], false⟩),
        ("zone", ⟨"The zone.", ∅, false⟩)] }

theorem entersFields_and_keepsName_iff_zone :
    ruleDoc.topLevelText? "zone" = some "The zone." ∧
      (EntityDoc.empty.includeArgumentsAsAttributes ruleDoc).attributes.get? "zone" =
        some "The zone." := by
  have htext : ruleDoc.topLevelText? "zone" = some "The zone." := by decide
  refine ⟨htext, ((entersFields_and_keepsName_iff .empty ruleDoc).2 "zone" _ htext).mpr ?_⟩
  intro parent field hle hparent
  obtain ⟨argument, hargument, hfield⟩ := Option.bind_eq_some_iff.mp hparent.text
  have hmem := Entries.mem_of_get?_eq_some hargument
  have hentries : ruleDoc.arguments.entries =
      [("rule", ⟨"A rule.", .ofList [("zone", "The zone of the rule.")], false⟩),
        ("zone", ⟨"The zone.", ∅, false⟩)] := by decide
  rw [hentries, List.mem_cons, List.mem_singleton] at hmem
  rcases hmem with hrule | hzone
  · cases hrule
    exact absurd hle (by decide)
  · cases hzone
    cases hfield

/-- A field of an argument with a greater name takes the place of the argument. -/
theorem not_keepsName_includeArgumentsAsAttributes :
    ¬ ∀ (doc source : EntityDoc) (name text : String), source.topLevelText? name = some text →
      (doc.includeArgumentsAsAttributes source).attributes.get? name = some text := by
  intro hkeeps
  have hindex := hkeeps .empty
    { EntityDoc.empty with
      arguments := .ofList
        [("index", ⟨"The index.", ∅, false⟩),
          ("website", ⟨"A website.", .ofList [("index", "The index page.")], false⟩)] }
    "index" "The index." (by decide)
  exact absurd hindex (by decide)

end EntityDoc

end ProviderDocs
