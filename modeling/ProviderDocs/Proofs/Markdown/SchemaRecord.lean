import Mathlib.Data.List.Find
import Mathlib.Data.List.Induction
import ProviderDocs.Markdown.SchemaSection
import ProviderDocs.Proofs.Markdown.ArgumentCopy
import ProviderDocs.Proofs.Text.Search

/-!
# Recording schema sections

A parameter outside of blocks is recorded under its name. A field of a block is recorded twice,
among the fields of the argument that the block's path names and, as an argument of its own, under
its dotted path. Each of these is one entry of a record, and the last one to write an entry decides
what it says. A name without a dot is no dotted path, and a dotted path says which field it stands
for, so the two kinds of entries do not disturb each other.
-/

namespace ProviderDocs.Markdown

/-! ## The last one to write -/

theorem of_findRev?_eq_some {α : Type} {p : α → Prop} [DecidablePred p] {items : List α} {item : α}
    (h : items.findRev? (p ·) = some item) : item ∈ items ∧ p item := by
  rw [List.findRev?_eq_find?_reverse] at h
  exact ⟨List.mem_reverse.mp (List.mem_of_find?_eq_some h), by simpa using List.find?_some h⟩

section Sets

variable {σ α β : Type} {items : List α} (step : σ → α → σ) (sets : α → Prop) [DecidablePred sets]

/-- A part of a state that some steps set, and all others leave, is as the last of those set it. -/
theorem foldl_eq_of_sets (part : σ → β) {value : α → β}
    (h : ∀ state item, part (step state item) = if sets item then value item else part state)
    (state : σ) :
    part (items.foldl step state) = ((items.findRev? (sets ·)).map value).getD (part state) := by
  induction items using List.reverseRecOn with
  | nil => rfl
  | append_singleton items item ih =>
    rw [List.foldl_append, List.foldl_cons, List.foldl_nil, h, ih]
    simp only [List.findRev?_eq_find?_reverse, List.reverse_append, List.reverse_singleton,
      List.singleton_append, List.find?_cons]
    by_cases hitem : sets item
    · simp [hitem]
    · simp [hitem]

theorem foldl_eq_true_iff_of_sets (part : σ → Bool)
    (h : ∀ state item, part (step state item) = if sets item then true else part state)
    (state : σ) :
    part (items.foldl step state) = true ↔ (∃ item ∈ items, sets item) ∨ part state = true := by
  rw [foldl_eq_of_sets step sets part h]
  cases hlast : items.findRev? (sets ·) with
  | none =>
    have hnone : ¬ ∃ item ∈ items, sets item := by
      simpa [List.findRev?_eq_find?_reverse] using hlast
    rw [Option.map_none, Option.getD_none, or_iff_right hnone]
  | some item =>
    rw [Option.map_some, Option.getD_some]
    exact iff_of_true rfl (.inl ⟨item, of_findRev?_eq_some hlast⟩)

end Sets

/-! ## One entry -/

theorem argument_updateArgument (doc : EntityDoc) (name other : String)
    (change : ArgumentDoc → ArgumentDoc) :
    (doc.updateArgument name change).argument other =
      if other = name then change (doc.argument name) else doc.argument other := by
  unfold EntityDoc.argument
  rw [EntityDoc.get?_updateArgument]
  split
  case isTrue => rfl
  case isFalse => rfl

section Put

variable (name description : String) (isNested : Bool) (state : EntityDoc × Stats) (other : String)

theorem description_putArgument :
    ((putArgument name description isNested state).1.argument other).description =
      if other = name then description else (state.1.argument other).description := by
  rw [putArgument, argument_updateArgument]
  split
  case isTrue => rfl
  case isFalse => rfl

theorem isNested_putArgument :
    ((putArgument name description isNested state).1.argument other).isNested =
      if other = name then isNested else (state.1.argument other).isNested := by
  rw [putArgument, argument_updateArgument]
  split
  case isTrue => rfl
  case isFalse => rfl

theorem nestedText?_putArgument (field : String) :
    (putArgument name description isNested state).1.nestedText? other field =
      state.1.nestedText? other field := by
  rw [← EntityDoc.nested_get?_argument, ← EntityDoc.nested_get?_argument, putArgument,
    argument_updateArgument]
  split
  case isTrue hother => rw [hother]
  case isFalse => rfl

theorem contains_putArgument :
    (putArgument name description isNested state).1.arguments.contains other =
      if other = name then true else state.1.arguments.contains other := by
  rw [Bool.eq_iff_iff, putArgument, EntityDoc.contains_updateArgument]
  split
  case isTrue hother => simp [hother]
  case isFalse hother => simp [hother]

end Put

/-- The name under which a field of a block is an argument of its own. -/
def dottedPath (path name : String) : String := path ++ "." ++ name

theorem setNestedArgument_eq (path : String) (parameter : Parameter) (state : EntityDoc × Stats) :
    setNestedArgument path parameter state =
      putArgument (dottedPath path parameter.name) parameter.description true
        (state.1.updateArgument path fun argument ↦
          { argument with
            nested := argument.nested.insert parameter.name parameter.description
            isNested := true }, state.2) := rfl

section SetNested

variable (path : String) (parameter : Parameter) (state : EntityDoc × Stats) (other : String)

theorem description_setNestedArgument :
    ((setNestedArgument path parameter state).1.argument other).description =
      if other = dottedPath path parameter.name then parameter.description
      else (state.1.argument other).description := by
  rw [setNestedArgument_eq, description_putArgument, argument_updateArgument]
  by_cases hother : other = path
  · simp [hother]
  · simp [hother]

theorem isNested_setNestedArgument :
    ((setNestedArgument path parameter state).1.argument other).isNested =
      if other = path ∨ other = dottedPath path parameter.name then true
      else (state.1.argument other).isNested := by
  rw [setNestedArgument_eq, isNested_putArgument, argument_updateArgument]
  by_cases hother : other = path
  · simp [hother]
  · simp [hother]

theorem nestedText?_setNestedArgument (field : String) :
    (setNestedArgument path parameter state).1.nestedText? other field =
      if other = path ∧ field = parameter.name then some parameter.description
      else state.1.nestedText? other field := by
  rw [setNestedArgument_eq, nestedText?_putArgument, ← EntityDoc.nested_get?_argument,
    ← EntityDoc.nested_get?_argument, argument_updateArgument]
  by_cases hother : other = path
  · simp [hother, Dict.get?_insert]
  · simp [hother]

theorem contains_setNestedArgument :
    (setNestedArgument path parameter state).1.arguments.contains other =
      if other = path ∨ other = dottedPath path parameter.name then true
      else state.1.arguments.contains other := by
  have hparent := state.1.contains_updateArgument path other fun argument ↦
    { argument with
      nested := argument.nested.insert parameter.name parameter.description
      isNested := true }
  rw [setNestedArgument_eq, contains_putArgument, Bool.eq_iff_iff]
  by_cases hdotted : other = dottedPath path parameter.name
  · simp [hdotted]
  · rw [if_neg hdotted, hparent]
    by_cases hother : other = path
    · simp [hother]
    · simp [hother, hdotted]

end SetNested

/-! ## Runs -/

/-- Records a parameter outside of blocks. -/
def putParameter (state : EntityDoc × Stats) (parameter : Parameter) : EntityDoc × Stats :=
  putArgument parameter.name parameter.description false state

section Parameters

variable (parameters : List Parameter) (stats : Stats) (name : String)

theorem description_foldl_putParameter :
    ((parameters.foldl putParameter (.empty, stats)).1.argument name).description =
      ((parameters.findRev? (name = ·.name)).map (·.description)).getD "" :=
  foldl_eq_of_sets putParameter (name = ·.name) (fun state ↦ (state.1.argument name).description)
    (fun _ _ ↦ description_putArgument ..) (.empty, stats)

theorem isNested_foldl_putParameter :
    ((parameters.foldl putParameter (.empty, stats)).1.argument name).isNested = false := by
  refine (foldl_eq_of_sets putParameter (name = ·.name)
    (fun state ↦ (state.1.argument name).isNested)
    (fun _ _ ↦ isNested_putArgument ..) (.empty, stats)).trans ?_
  cases parameters.findRev? (name = ·.name) with
  | none => rfl
  | some parameter => rfl

theorem nestedText?_foldl_putParameter (field : String) :
    (parameters.foldl putParameter (.empty, stats)).1.nestedText? name field = none := by
  induction parameters using List.reverseRecOn with
  | nil => rfl
  | append_singleton parameters parameter ih =>
    rw [List.foldl_append, List.foldl_cons, List.foldl_nil, putParameter, nestedText?_putArgument,
      ih]

theorem contains_foldl_putParameter :
    (parameters.foldl putParameter (.empty, stats)).1.arguments.contains name = true ↔
      ∃ parameter ∈ parameters, name = parameter.name := by
  have hempty : ¬ EntityDoc.empty.arguments.contains name = true := Bool.false_ne_true
  rw [foldl_eq_true_iff_of_sets putParameter (name = ·.name)
    (fun state ↦ state.1.arguments.contains name) (fun _ _ ↦ contains_putArgument ..),
    or_iff_left hempty]

end Parameters

/-- Records a field, which comes with the path of its block. -/
def putField (state : EntityDoc × Stats) (field : String × Parameter) : EntityDoc × Stats :=
  setNestedArgument field.1 field.2 state

section Fields

variable (fields : List (String × Parameter)) (state : EntityDoc × Stats) (name : String)

theorem description_foldl_putField :
    ((fields.foldl putField state).1.argument name).description =
      ((fields.findRev? fun field ↦ name = dottedPath field.1 field.2.name).map
        (·.2.description)).getD (state.1.argument name).description :=
  foldl_eq_of_sets putField (fun field ↦ name = dottedPath field.1 field.2.name)
    (fun state ↦ (state.1.argument name).description)
    (fun _ _ ↦ description_setNestedArgument ..) state

theorem nestedText?_foldl_putField (field : String) :
    (fields.foldl putField state).1.nestedText? name field =
      ((fields.findRev? fun other ↦ name = other.1 ∧ field = other.2.name).map
        fun other ↦ some other.2.description).getD (state.1.nestedText? name field) :=
  foldl_eq_of_sets putField (fun other ↦ name = other.1 ∧ field = other.2.name)
    (fun state ↦ state.1.nestedText? name field) (fun _ _ ↦ nestedText?_setNestedArgument ..) state

theorem isNested_foldl_putField :
    ((fields.foldl putField state).1.argument name).isNested = true ↔
      (∃ field ∈ fields, name = field.1 ∨ name = dottedPath field.1 field.2.name) ∨
        (state.1.argument name).isNested = true :=
  foldl_eq_true_iff_of_sets putField
    (fun field ↦ name = field.1 ∨ name = dottedPath field.1 field.2.name)
    (fun state ↦ (state.1.argument name).isNested) (fun _ _ ↦ isNested_setNestedArgument ..) state

theorem contains_foldl_putField :
    (fields.foldl putField state).1.arguments.contains name = true ↔
      (∃ field ∈ fields, name = field.1 ∨ name = dottedPath field.1 field.2.name) ∨
        state.1.arguments.contains name = true :=
  foldl_eq_true_iff_of_sets putField
    (fun field ↦ name = field.1 ∨ name = dottedPath field.1 field.2.name)
    (fun state ↦ state.1.arguments.contains name) (fun _ _ ↦ contains_setNestedArgument ..) state

end Fields

/-! ## Dotted paths -/

theorem toList_dottedPath (path name : String) :
    (dottedPath path name).toList = path.toList ++ '.' :: name.toList := by
  simp [dottedPath]

theorem ne_dottedPath {name : String} (h : '.' ∉ name.toList) (path field : String) :
    name ≠ dottedPath path field := by
  rintro rfl
  rw [toList_dottedPath] at h
  exact h (List.mem_append_right _ List.mem_cons_self)

/-- The last dot of a dotted path parts it. -/
theorem dottedPath_inj {path other name field : String} (hname : '.' ∉ name.toList)
    (hfield : '.' ∉ field.toList) :
    dottedPath path name = dottedPath other field ↔ path = other ∧ name = field := by
  refine ⟨fun h ↦ ?_, fun ⟨hpath, hfield⟩ ↦ by rw [hpath, hfield]⟩
  have hlist := congrArg String.toList h
  rw [toList_dottedPath, toList_dottedPath] at hlist
  have hlast := congrArg (Text.afterLast '.') hlist
  rw [Text.afterLast_append_cons _ hname, Text.afterLast_append_cons _ hfield,
    String.toList_inj] at hlast
  rw [hlast, List.append_left_inj, String.toList_inj] at hlist
  exact ⟨hlist, hlast⟩

/-! ## A whole section -/

namespace SchemaSection

/-- The fields of all blocks in order, each with the path of its block. -/
def fields (schema : SchemaSection) : List (String × Parameter) :=
  schema.nested.flatMap fun block ↦ block.parameters.map (block.path, ·)

/-- The last parameter of a name outside of blocks. -/
def lastParameter? (schema : SchemaSection) (name : String) : Option Parameter :=
  schema.parameters.findRev? (name = ·.name)

/-- The last field of a name in blocks with a path. -/
def lastField? (schema : SchemaSection) (path name : String) : Option Parameter :=
  (schema.fields.findRev? fun field ↦ path = field.1 ∧ name = field.2.name).map (·.2)

/-- No parameter and no field has a dot in its name. -/
structure HasPlainNames (schema : SchemaSection) : Prop where
  parameters : ∀ parameter ∈ schema.parameters, '.' ∉ parameter.name.toList
  nested : ∀ block ∈ schema.nested, ∀ parameter ∈ block.parameters, '.' ∉ parameter.name.toList

/-- A record says what the section says, and nothing else. -/
structure IsRecordedIn (schema : SchemaSection) (doc : EntityDoc) : Prop where
  /-- Of the fields of one name in blocks with one path the last one counts, under both keys. -/
  nestedText : ∀ path name,
    doc.nestedText? path name = (schema.lastField? path name).map (·.description)
  dottedText : ∀ path name last, schema.lastField? path name = some last →
    (doc.argument (dottedPath path name)).description = last.description
  nested : ∀ block ∈ schema.nested, ∀ parameter ∈ block.parameters,
    (doc.argument block.path).isNested = true ∧
      (doc.argument (dottedPath block.path parameter.name)).isNested = true
  parameterText : ∀ name last, schema.lastParameter? name = some last →
    (doc.argument name).description = last.description
  /-- A parameter counts as nested when there is a block for it that has fields. -/
  parameterNested : ∀ parameter ∈ schema.parameters,
    ((doc.argument parameter.name).isNested = true ↔
      ∃ block ∈ schema.nested, block.path = parameter.name ∧ block.parameters ≠ [])
  arguments : ∀ name, doc.arguments.contains name = true ↔
    (∃ parameter ∈ schema.parameters, name = parameter.name) ∨
      ∃ block ∈ schema.nested, ∃ parameter ∈ block.parameters,
        name = block.path ∨ name = dottedPath block.path parameter.name

theorem record_eq (schema : SchemaSection) (stats : Stats) :
    schema.record .empty stats =
      schema.fields.foldl putField (schema.parameters.foldl putParameter (.empty, stats)) := by
  rw [fields, List.foldl_flatMap]
  simp only [List.foldl_map]
  rfl

theorem exists_mem_fields_iff {schema : SchemaSection} {p : String × Parameter → Prop} :
    (∃ field ∈ schema.fields, p field) ↔
      ∃ block ∈ schema.nested, ∃ parameter ∈ block.parameters, p (block.path, parameter) := by
  constructor
  · rintro ⟨field, hfield, hp⟩
    obtain ⟨block, hblock, hfield⟩ := List.mem_flatMap.mp hfield
    obtain ⟨parameter, hparameter, rfl⟩ := List.mem_map.mp hfield
    exact ⟨block, hblock, parameter, hparameter, hp⟩
  · rintro ⟨block, hblock, parameter, hparameter, hp⟩
    exact ⟨_, List.mem_flatMap.mpr ⟨block, hblock, List.mem_map_of_mem hparameter⟩, hp⟩

/-- No field has the name of a parameter for its dotted path. -/
theorem findRev?_parameterName (schema : SchemaSection) {name : String} (h : '.' ∉ name.toList) :
    (schema.fields.findRev? fun field ↦ name = dottedPath field.1 field.2.name) = none := by
  rw [List.findRev?_eq_find?_reverse, List.find?_eq_none]
  intro field _
  simpa using ne_dottedPath h field.1 field.2.name

section Plain

variable {schema : SchemaSection} (h : schema.HasPlainNames)

include h

theorem HasPlainNames.of_mem_fields {field : String × Parameter} (hfield : field ∈ schema.fields) :
    '.' ∉ field.2.name.toList := by
  obtain ⟨block, hblock, parameter, hparameter, rfl⟩ :=
    exists_mem_fields_iff.mp ⟨field, hfield, rfl⟩
  exact h.nested block hblock parameter hparameter

/-- A field is known by its dotted path. -/
theorem findRev?_dottedPath {name : String} (hname : '.' ∉ name.toList) (path : String) :
    (schema.fields.findRev? fun field ↦ dottedPath path name = dottedPath field.1 field.2.name) =
      schema.fields.findRev? fun field ↦ path = field.1 ∧ name = field.2.name := by
  rw [List.findRev?_eq_find?_reverse, List.findRev?_eq_find?_reverse]
  refine List.find?_congr fun field hfield ↦ ?_
  have hfield := h.of_mem_fields (List.mem_reverse.mp hfield)
  rw [decide_eq_decide, dottedPath_inj hname hfield]

theorem dottedText_record (stats : Stats) {path name : String} {last : Parameter}
    (hlast : schema.lastField? path name = some last) :
    ((schema.record .empty stats).1.argument (dottedPath path name)).description =
      last.description := by
  obtain ⟨field, hfield, rfl⟩ := Option.map_eq_some_iff.mp hlast
  obtain ⟨hmem, -, rfl⟩ := of_findRev?_eq_some hfield
  rw [record_eq, description_foldl_putField, findRev?_dottedPath h (h.of_mem_fields hmem), hfield]
  rfl

theorem parameterText_record (stats : Stats) {name : String} {last : Parameter}
    (hlast : schema.lastParameter? name = some last) :
    ((schema.record .empty stats).1.argument name).description = last.description := by
  obtain ⟨hmem, rfl⟩ := of_findRev?_eq_some hlast
  rw [record_eq, description_foldl_putField, findRev?_parameterName schema (h.parameters last hmem),
    description_foldl_putParameter, ← lastParameter?, hlast]
  rfl

/-- No field makes a parameter nested by its dotted path, only by the path of its block. -/
theorem parameterNested_record (stats : Stats) {parameter : Parameter}
    (hparameter : parameter ∈ schema.parameters) :
    ((schema.record .empty stats).1.argument parameter.name).isNested = true ↔
      ∃ block ∈ schema.nested, block.path = parameter.name ∧ block.parameters ≠ [] := by
  have hname := h.parameters parameter hparameter
  rw [record_eq, isNested_foldl_putField, isNested_foldl_putParameter,
    or_iff_left Bool.false_ne_true, exists_mem_fields_iff]
  refine exists_congr fun block ↦ and_congr_right fun _ ↦ ?_
  constructor
  · rintro ⟨field, hfield, hpath | hdotted⟩
    · exact ⟨hpath.symm, List.ne_nil_of_mem hfield⟩
    · exact absurd hdotted (ne_dottedPath hname block.path field.name)
  · rintro ⟨hpath, hne⟩
    obtain ⟨field, hfield⟩ := List.exists_mem_of_ne_nil _ hne
    exact ⟨field, hfield, .inl hpath.symm⟩

end Plain

theorem nestedText?_record (schema : SchemaSection) (stats : Stats) (path name : String) :
    (schema.record .empty stats).1.nestedText? path name =
      (schema.lastField? path name).map (·.description) := by
  rw [record_eq, nestedText?_foldl_putField, nestedText?_foldl_putParameter, lastField?,
    Option.map_map]
  cases schema.fields.findRev? fun field ↦ path = field.1 ∧ name = field.2.name with
  | none => rfl
  | some field => rfl

theorem nested_record {schema : SchemaSection} (stats : Stats) {block : NestedSchema}
    (hblock : block ∈ schema.nested) {parameter : Parameter}
    (hparameter : parameter ∈ block.parameters) :
    ((schema.record .empty stats).1.argument block.path).isNested = true ∧
      ((schema.record .empty stats).1.argument (dottedPath block.path parameter.name)).isNested =
        true := by
  rw [record_eq, isNested_foldl_putField, isNested_foldl_putField, exists_mem_fields_iff,
    exists_mem_fields_iff]
  exact ⟨.inl ⟨block, hblock, parameter, hparameter, .inl rfl⟩,
    .inl ⟨block, hblock, parameter, hparameter, .inr rfl⟩⟩

theorem contains_record (schema : SchemaSection) (stats : Stats) (name : String) :
    (schema.record .empty stats).1.arguments.contains name = true ↔
      (∃ parameter ∈ schema.parameters, name = parameter.name) ∨
        ∃ block ∈ schema.nested, ∃ parameter ∈ block.parameters,
          name = block.path ∨ name = dottedPath block.path parameter.name := by
  rw [record_eq, contains_foldl_putField, contains_foldl_putParameter, exists_mem_fields_iff,
    or_comm]

/-- Recording a section from nothing leaves all it says, each parameter under its name and each
field under both of its keys, when no name has a dot. -/
theorem isRecordedIn_record {schema : SchemaSection} (h : schema.HasPlainNames) (stats : Stats) :
    schema.IsRecordedIn (schema.record .empty stats).1 where
  nestedText := nestedText?_record schema stats
  dottedText _ _ _ := dottedText_record h stats
  nested _ hblock _ := nested_record stats hblock
  parameterText _ _ := parameterText_record h stats
  parameterNested _ := parameterNested_record h stats
  arguments := contains_record schema stats

/-- A section in which the path of a block is the dotted path of a field, parameters and blocks
repeat, and one block has no fields. -/
def rulesSchema : SchemaSection where
  parameters := [⟨"rule", "A rule.", none, .required⟩, ⟨"tags", "Tags.", none, .optional⟩,
    ⟨"rule", "The rules.", none, .optional⟩]
  nested := [
    ⟨"rule", [⟨"action", "An action.", none, .required⟩, ⟨"id", "The ID.", none, .readOnly⟩]⟩,
    ⟨"rule.action", [⟨"type", "The type.", none, .required⟩]⟩, ⟨"tags", []⟩,
    ⟨"rule", [⟨"action", "What to do.", none, .optional⟩]⟩]

theorem isRecordedIn_record_rulesSchema :
    rulesSchema.HasPlainNames ∧
      (rulesSchema.record .empty .zero).1.nestedText? "rule" "action" = some "What to do." ∧
      ((rulesSchema.record .empty .zero).1.argument "rule.action").description = "What to do." ∧
      ((rulesSchema.record .empty .zero).1.argument "rule").description = "The rules." ∧
      ((rulesSchema.record .empty .zero).1.argument "rule").isNested = true ∧
      ((rulesSchema.record .empty .zero).1.argument "tags").isNested = false ∧
      (rulesSchema.record .empty .zero).1.arguments.contains "action" = false := by
  have hnames : rulesSchema.HasPlainNames := ⟨by decide +kernel, by decide +kernel⟩
  have hrecord := isRecordedIn_record hnames .zero
  have haction : rulesSchema.lastField? "rule" "action" =
      some ⟨"action", "What to do.", none, .optional⟩ := by decide +kernel
  refine ⟨hnames, ?_, hrecord.dottedText _ _ _ haction, ?_, ?_, ?_, ?_⟩
  · rw [hrecord.nestedText, haction]
    rfl
  · exact hrecord.parameterText "rule" ⟨"rule", "The rules.", none, .optional⟩ (by decide +kernel)
  · exact (hrecord.nested ⟨"rule", [⟨"action", "What to do.", none, .optional⟩]⟩
      (by decide +kernel) ⟨"action", "What to do.", none, .optional⟩ (by decide +kernel)).1
  · rw [Bool.eq_false_iff, Ne, hrecord.parameterNested ⟨"tags", "Tags.", none, .optional⟩
      (by decide +kernel)]
    decide +kernel
  · rw [Bool.eq_false_iff, Ne, hrecord.arguments]
    decide +kernel

end SchemaSection

end ProviderDocs.Markdown
