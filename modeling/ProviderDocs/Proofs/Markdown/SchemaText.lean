import ProviderDocs.Proofs.Markdown.SchemaLine
import ProviderDocs.Proofs.Text.Lines

/-!
# Reading generated schema sections

The generator writes the parameters of an entity below a heading for each run of parameters with
one requirement, then the blocks, each with its parameters below such labels. Line by line, the
scan adds a parameter or a block to what it has read, until the section that was written is there.
-/

namespace ProviderDocs.Markdown

/-! ## The layout -/

/-- The bullet of the parameter, with the rest of the description below. -/
def Parameter.lines (parameter : Parameter) : List String :=
  match splitLines parameter.description with
  | first :: rest => bulletLine parameter.name parameter.type first :: rest
  | [] => []

/-- What stands above a parameter when `previous` is the requirement in force. -/
def headingLines (heading : Requirement → String) (previous : Option Requirement)
    (requirement : Requirement) : List String :=
  match previous with
  | none => [heading requirement, ""]
  | some previous => if previous = requirement then [] else ["", heading requirement, ""]

def parameterLines (heading : Requirement → String) (previous : Option Requirement) :
    List Parameter → List String
  | [] => []
  | parameter :: rest =>
    headingLines heading previous parameter.requirement ++ parameter.lines ++
      parameterLines heading (some parameter.requirement) rest

/-- A block, below its anchor if it has one. -/
def NestedSchema.lines (anchor? : Option String) (block : NestedSchema) : List String :=
  "" :: anchor?.toList.map anchorLine ++ headingLine block.path :: "" ::
    parameterLines Requirement.label none block.parameters

namespace SchemaSection

/-- What stands below the title; `anchor?` tells the anchors that the blocks have. -/
def lines (anchor? : String → Option String) (schema : SchemaSection) : List String :=
  "" :: parameterLines Requirement.heading none schema.parameters ++
    schema.nested.flatMap fun block ↦ block.lines (anchor? block.path)

def text (anchor? : String → Option String) (schema : SchemaSection) : String :=
  joinLines ("## Schema" :: schema.lines anchor?)

end SchemaSection

/-! ## Texts that can be written -/

@[mk_iff] structure Parameter.IsPrintable (parameter : Parameter) : Prop where
  name : IsQuotable parameter.name
  type : ∀ type ∈ parameter.type, ')' ∉ type.toList
  type_line : ∀ type ∈ parameter.type, '\n' ∉ type.toList
  first : ∀ line ∈ (splitLines parameter.description).head?,
    StartsDescription parameter.type line
  rest : ∀ line ∈ (splitLines parameter.description).tail, ContinuesDescription line

@[mk_iff] structure NestedSchema.IsPrintable (block : NestedSchema) : Prop where
  path : IsQuotable block.path
  parameters : ∀ parameter ∈ block.parameters, parameter.IsPrintable

@[mk_iff] structure SchemaSection.IsPrintable (schema : SchemaSection) : Prop where
  parameters : ∀ parameter ∈ schema.parameters, parameter.IsPrintable
  nested : ∀ block ∈ schema.nested, block.IsPrintable

instance (parameter : Parameter) : Decidable parameter.IsPrintable :=
  decidable_of_iff' _ (Parameter.isPrintable_iff parameter)

instance (block : NestedSchema) : Decidable block.IsPrintable :=
  decidable_of_iff' _ (NestedSchema.isPrintable_iff block)

instance (schema : SchemaSection) : Decidable schema.IsPrintable :=
  decidable_of_iff' _ (SchemaSection.isPrintable_iff schema)

/-! ## Lines that are written -/

theorem Parameter.areLines_lines {parameter : Parameter} (h : parameter.IsPrintable) :
    AreLines parameter.lines := by
  obtain ⟨first, rest, hsplit⟩ := exists_splitLines_eq_cons parameter.description
  have hdescription : AreLines (first :: rest) := hsplit ▸ areLines_splitLines _
  obtain ⟨hfirst, hrest⟩ := List.forall_mem_cons.mp hdescription
  have hbullet : '\n' ∉ (bulletLine parameter.name parameter.type first).toList := by
    rw [toList_bulletLine]
    cases htype : parameter.type with
    | some type => simp [h.name.one_line, h.type_line type htype, hfirst]
    | none => simp [h.name.one_line, hfirst]
  rw [Parameter.lines, hsplit]
  exact List.forall_mem_cons.mpr ⟨hbullet, hrest⟩

section

variable (heading : Requirement → String)

theorem areLines_headingLines (h : ∀ requirement, '\n' ∉ (heading requirement).toList)
    (previous : Option Requirement) (requirement : Requirement) :
    AreLines (headingLines heading previous requirement) := by
  unfold headingLines AreLines
  split
  · simp [h]
  · split <;> simp [h]

theorem areLines_parameterLines (hheading : ∀ requirement, '\n' ∉ (heading requirement).toList)
    {parameters : List Parameter} (h : ∀ parameter ∈ parameters, parameter.IsPrintable)
    (previous : Option Requirement) : AreLines (parameterLines heading previous parameters) := by
  induction parameters generalizing previous with
  | nil => exact List.forall_mem_nil _
  | cons parameter rest ih =>
    obtain ⟨hparameter, hrest⟩ := List.forall_mem_cons.mp h
    refine List.forall_mem_append.mpr ⟨List.forall_mem_append.mpr ⟨?_, ?_⟩, ih hrest _⟩
    · exact areLines_headingLines heading hheading previous parameter.requirement
    · exact Parameter.areLines_lines hparameter

end

theorem NestedSchema.areLines_lines {block : NestedSchema} (h : block.IsPrintable)
    {anchor? : Option String} (hanchor : ∀ id ∈ anchor?, '\n' ∉ id.toList) :
    AreLines (block.lines anchor?) := by
  have hblank : '\n' ∉ "".toList := List.not_mem_nil
  have hanchors : AreLines (anchor?.toList.map anchorLine) := by
    refine List.forall_mem_map.mpr fun id hid ↦ ?_
    have hline := hanchor id (Option.mem_toList.mp hid)
    simp [anchorLine, hline]
  have hheading : '\n' ∉ (headingLine block.path).toList := by
    rw [toList_headingLine]
    simp [h.path.one_line]
  have hparameters := areLines_parameterLines Requirement.label
    (fun requirement ↦ by cases requirement <;> decide) h.parameters none
  exact List.forall_mem_append.mpr ⟨List.forall_mem_cons.mpr ⟨hblank, hanchors⟩,
    List.forall_mem_cons.mpr ⟨hheading, List.forall_mem_cons.mpr ⟨hblank, hparameters⟩⟩⟩

theorem SchemaSection.areLines_lines {schema : SchemaSection} (h : schema.IsPrintable)
    {anchor? : String → Option String}
    (hanchor : ∀ block ∈ schema.nested, ∀ id ∈ anchor? block.path, '\n' ∉ id.toList) :
    AreLines (schema.lines anchor?) := by
  have hparameters := areLines_parameterLines Requirement.heading
    (fun requirement ↦ by cases requirement <;> decide) h.parameters none
  refine List.forall_mem_append.mpr ⟨List.forall_mem_cons.mpr ⟨List.not_mem_nil, hparameters⟩, ?_⟩
  refine List.forall_mem_flatMap.mpr fun block hblock ↦ ?_
  exact NestedSchema.areLines_lines (h.nested block hblock) (hanchor block hblock)

/-! ## Changing the list that parameters go to -/

namespace SchemaScan

theorem updateParameters_self (schema : SchemaSection) :
    updateParameters schema (fun parameters ↦ parameters) = schema := by
  unfold updateParameters
  split
  case h_1 block hblock => rw [List.dropLast_append_getLast? block hblock]
  case h_2 => rfl

theorem updateParameters_updateParameters (schema : SchemaSection)
    (change next : List Parameter → List Parameter) :
    updateParameters (updateParameters schema change) next =
      updateParameters schema (fun parameters ↦ next (change parameters)) := by
  cases h : schema.nested.getLast? with
  | none => simp [updateParameters, h]
  | some block => simp [updateParameters, h]

/-- The parameters of the last block are changed. -/
theorem updateParameters_concat (parameters : List Parameter) (blocks : List NestedSchema)
    (block : NestedSchema) (change : List Parameter → List Parameter) :
    updateParameters ⟨parameters, blocks ++ [block]⟩ change =
      ⟨parameters, blocks ++ [{ block with parameters := change block.parameters }]⟩ := by
  simp [updateParameters]

theorem continueLast_concat (text : String) (parameters : List Parameter) (parameter : Parameter) :
    continueLast text (parameters ++ [parameter]) = parameters ++
      [{ parameter with description := parameter.description ++ "\n" ++ text }] := by
  simp [continueLast]

/-! ## Reading lines -/

def read (scan : SchemaScan) (lines : List String) : SchemaScan :=
  (lines.map SchemaLine.ofLine).foldl step scan

theorem read_cons (scan : SchemaScan) (line : String) (rest : List String) :
    scan.read (line :: rest) = (scan.step (SchemaLine.ofLine line)).read rest := rfl

theorem read_append (scan : SchemaScan) (lines rest : List String) :
    scan.read (lines ++ rest) = (scan.read lines).read rest := by
  rw [read, List.map_append, List.foldl_append, read, read]

/-- Further lines of the description go to the parameter that was read last. -/
theorem read_continued {lines : List String} (h : ∀ line ∈ lines, ContinuesDescription line)
    (schema : SchemaSection) (requirement : Option Requirement) (parameter : Parameter) :
    read ⟨updateParameters schema (· ++ [parameter]), requirement, true⟩ lines =
      ⟨updateParameters schema (· ++
        [{ parameter with description := joinLines (parameter.description :: lines) }]),
        requirement, true⟩ := by
  induction lines generalizing parameter with
  | nil =>
    rw [joinLines_singleton]
    rfl
  | cons line rest ih =>
    obtain ⟨hline, hrest⟩ := List.forall_mem_cons.mp h
    have hstep : step ⟨updateParameters schema (· ++ [parameter]), requirement, true⟩
        (SchemaLine.ofLine line) = ⟨updateParameters schema (· ++
          [{ parameter with description := parameter.description ++ "\n" ++ line }]),
          requirement, true⟩ := by
      simp only [SchemaLine.ofLine_of_continues hline, step, continuation, if_true,
        updateParameters_updateParameters, continueLast_concat]
    rw [read_cons, hstep, ih hrest, joinLines_append_cons]

/-- The lines of a parameter add it. -/
theorem read_lines {parameter : Parameter} (h : parameter.IsPrintable) (schema : SchemaSection)
    (afterParameter : Bool) :
    read ⟨schema, some parameter.requirement, afterParameter⟩ parameter.lines =
      ⟨updateParameters schema (· ++ [parameter]), some parameter.requirement, true⟩ := by
  obtain ⟨first, rest, hsplit⟩ := exists_splitLines_eq_cons parameter.description
  have hfirst := h.first first (by simp [hsplit])
  have hrest : ∀ line ∈ rest, ContinuesDescription line := by simpa [hsplit] using h.rest
  have hline : '\n' ∉ first.toList :=
    areLines_splitLines parameter.description first (by simp [hsplit])
  have hjoin : joinLines (first :: rest) = parameter.description := by
    rw [← hsplit, joinLines_splitLines]
  obtain ⟨bullet, text, hread, hbullet⟩ :=
    SchemaLine.ofLine_bulletLine h.name h.type hfirst hline
  simp only [Parameter.lines, hsplit, read_cons, hread, step, hbullet, read_continued hrest, hjoin]

/-- A heading above parameters, or none, puts the requirement in force. -/
theorem read_headingLines {heading : Requirement → String}
    (h : ∀ requirement, SchemaLine.ofLine (heading requirement) = .label requirement)
    (scan : SchemaScan) (requirement : Requirement) :
    ∃ afterParameter, scan.read (headingLines heading scan.requirement requirement) =
      ⟨scan.schema, some requirement, afterParameter⟩ := by
  obtain ⟨schema, previous, afterParameter⟩ := scan
  cases previous with
  | none => exact ⟨false, by simp [headingLines, read, h, SchemaLine.ofLine_empty, step]⟩
  | some previous =>
    by_cases hprevious : previous = requirement
    · exact ⟨afterParameter, by simp [headingLines, read, hprevious]⟩
    · exact ⟨false, by simp [headingLines, read, hprevious, h, SchemaLine.ofLine_empty, step]⟩

/-- Parameters below headings are added one after the other. -/
theorem schema_read_parameterLines {heading : Requirement → String}
    (hheading : ∀ requirement, SchemaLine.ofLine (heading requirement) = .label requirement)
    {parameters : List Parameter} (h : ∀ parameter ∈ parameters, parameter.IsPrintable)
    (scan : SchemaScan) :
    (scan.read (parameterLines heading scan.requirement parameters)).schema =
      updateParameters scan.schema (· ++ parameters) := by
  -- Scan and layout agree on the requirement in force: after a parameter it is that parameter's.
  induction parameters generalizing scan with
  | nil =>
    simp only [List.append_nil, updateParameters_self]
    rfl
  | cons parameter rest ih =>
    obtain ⟨hparameter, hrest⟩ := List.forall_mem_cons.mp h
    obtain ⟨afterParameter, hread⟩ := read_headingLines hheading scan parameter.requirement
    rw [parameterLines, read_append, read_append, hread, read_lines hparameter]
    have hnext := ih hrest ⟨updateParameters scan.schema (· ++ [parameter]),
      some parameter.requirement, true⟩
    rw [hnext, updateParameters_updateParameters]
    simp only [List.append_assoc, List.singleton_append]

/-- Nothing comes of an anchor that stands below a blank line. -/
theorem read_anchor (anchor? : Option String) {scan : SchemaScan}
    (h : scan.afterParameter = false) :
    scan.read (anchor?.toList.map NestedSchema.anchorLine) = scan := by
  cases anchor? with
  | none => rfl
  | some id =>
    obtain ⟨schema, requirement, afterParameter⟩ := scan
    subst h
    rcases SchemaLine.ofLine_anchorLine id with hline | hline
    · simp [read, hline, step]
    · simp [read, hline, step, continuation]

/-- A block is added with its parameters. -/
theorem schema_read_block {block : NestedSchema} (h : block.IsPrintable)
    (anchor? : Option String) (scan : SchemaScan) :
    (scan.read (block.lines anchor?)).schema =
      { scan.schema with nested := scan.schema.nested ++ [block] } := by
  have hparameters := schema_read_parameterLines SchemaLine.ofLine_label h.parameters
    ⟨{ scan.schema with nested := scan.schema.nested ++ [⟨block.path, []⟩] }, none, false⟩
  rw [NestedSchema.lines, List.cons_append, read_cons, read_append]
  simp only [SchemaLine.ofLine_empty, step]
  -- The blank line has ended the parameter above, so the anchor is not taken for its text.
  rw [read_anchor anchor? rfl, read_cons, read_cons, SchemaLine.ofLine_headingLine h.path]
  simp only [SchemaLine.ofLine_empty, step]
  rw [hparameters, updateParameters_concat, List.nil_append]

theorem schema_read_blocks {blocks : List NestedSchema} (h : ∀ block ∈ blocks, block.IsPrintable)
    (anchor? : String → Option String) (scan : SchemaScan) :
    (scan.read (blocks.flatMap fun block ↦ block.lines (anchor? block.path))).schema =
      { scan.schema with nested := scan.schema.nested ++ blocks } := by
  induction blocks generalizing scan with
  | nil =>
    rw [List.append_nil]
    rfl
  | cons block rest ih =>
    obtain ⟨hblock, hrest⟩ := List.forall_mem_cons.mp h
    rw [List.flatMap_cons, read_append, ih hrest, schema_read_block hblock, List.append_assoc,
      List.singleton_append]

end SchemaScan

/-! ## The whole section -/

namespace SchemaSection

variable {schema : SchemaSection} {anchor? : String → Option String}

theorem ofLines_lines (h : schema.IsPrintable) (anchor? : String → Option String) :
    ofLines (schema.lines anchor?) = schema := by
  let start : SchemaScan := ⟨.empty, none, false⟩
  have hparameters := SchemaScan.schema_read_parameterLines SchemaLine.ofLine_heading
    h.parameters start
  have hread : ofLines (schema.lines anchor?) = (start.read (schema.lines anchor?)).schema := rfl
  have hstart : start.step (SchemaLine.ofLine "") = start := rfl
  rw [hread, lines, List.cons_append, SchemaScan.read_cons, hstart, SchemaScan.read_append,
    SchemaScan.schema_read_blocks h.nested, hparameters]
  rfl

/-- Reading the lines of a section that was written gives the section, with its title or without. -/
theorem ofLines_text (h : schema.IsPrintable)
    (hanchor : ∀ block ∈ schema.nested, ∀ id ∈ anchor? block.path, '\n' ∉ id.toList) :
    ofLines (splitLines (schema.text anchor?)) = schema ∧
      ofLines (splitLines (schema.text anchor?)).tail = schema := by
  have htitle : AreLines ["## Schema"] := by decide
  have hsplit : splitLines (schema.text anchor?) = "## Schema" :: schema.lines anchor? :=
    splitLines_joinLines (List.cons_ne_nil _ _)
      (List.forall_mem_append.mpr ⟨htitle, areLines_lines h hanchor⟩)
  have hskip (lines : List String) : ofLines ("## Schema" :: lines) = ofLines lines := rfl
  rw [hsplit, hskip, List.tail_cons]
  exact ⟨ofLines_lines h anchor?, ofLines_lines h anchor?⟩

/-- A set of rules, each of which may have filters that are not described. -/
def ruleSection : SchemaSection where
  parameters := [
    ⟨"name", "The name of the rule set.", some "String", .required⟩,
    ⟨"rule", "", some "Block List", .optional⟩,
    ⟨"tags", "Tags to assign.\nApplied to every rule.", some "Map of String", .optional⟩,
    ⟨"id", "The ID of this resource.", none, .readOnly⟩]
  nested := [
    ⟨"rule.filter", []⟩,
    ⟨"rule", [
      ⟨"action", "The action to take.", some "String", .required⟩,
      ⟨"priority", "Evaluation order.", some "Number", .optional⟩]⟩]

def ruleAnchor? (path : String) : Option String :=
  if path = "rule" then some "nestedblock--rule" else none

theorem ofLines_text_ruleSection :
    ruleSection.lines ruleAnchor? = [
        "", "### Required",
        "", "- `name` (String) The name of the rule set.",
        "", "### Optional",
        "", "- `rule` (Block List) ",
        "- `tags` (Map of String) Tags to assign.", "Applied to every rule.",
        "", "### Read-Only",
        "", "- `id` The ID of this resource.",
        "", "### Nested Schema for `rule.filter`", "",
        "", "<a id=\"nestedblock--rule\"></a>", "### Nested Schema for `rule`",
        "", "Required:",
        "", "- `action` (String) The action to take.",
        "", "Optional:",
        "", "- `priority` (Number) Evaluation order."] ∧
      ruleSection.IsPrintable ∧
      (∀ block ∈ ruleSection.nested, ∀ id ∈ ruleAnchor? block.path, '\n' ∉ id.toList) ∧
      ofLines (splitLines (ruleSection.text ruleAnchor?)) = ruleSection ∧
      ofLines (splitLines (ruleSection.text ruleAnchor?)).tail = ruleSection :=
  ⟨by decide +kernel, by decide +kernel, by decide +kernel,
    ofLines_text (by decide +kernel) (by decide +kernel)⟩

end SchemaSection

end ProviderDocs.Markdown
