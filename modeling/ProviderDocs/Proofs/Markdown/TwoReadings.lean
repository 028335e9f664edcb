import ProviderDocs.Proofs.Markdown.Description

/-!
# Two readings side by side

What a section does to a reading is decided by the arguments, attributes and imports that were
read before it, never by the description or by what was counted. So readings that agree on these
agree after any further section, and their descriptions and statistics stay related as they were
by every relation that adding the same text, or counting the same thing, keeps.
-/

namespace ProviderDocs

/-! ## Counting -/

namespace Stats

/-- The ways in which reading a document counts. -/
inductive Count : (Stats → Stats) → Prop
  | warning : Count warn
  | argument : Count fun stats ↦ { stats with arguments := stats.arguments + 1 }
  | unmatchedBlock : Count fun stats ↦ { stats with unmatchedBlocks := stats.unmatchedBlocks + 1 }
  | ambiguousSection :
    Count fun stats ↦ { stats with ambiguousSections := stats.ambiguousSections + 1 }
  | unexpectedSnippet :
    Count fun stats ↦ { stats with unexpectedSnippets := stats.unexpectedSnippets + 1 }
  | ignored (header : String) : Count (countIgnored · header)

/-- A relation that is kept when the same is counted on both sides. -/
structure KeptByCounts (related : Stats → Stats → Prop) : Prop where
  count {count : Stats → Stats} (h : Count count) {a b : Stats} (hrelated : related a b) :
    related (count a) (count b)

end Stats

/-! ## Records -/

/-- Records that differ in their descriptions at most. -/
structure EntityDoc.SameRecords (a b : EntityDoc) : Prop where
  arguments : a.arguments = b.arguments
  attributes : a.attributes = b.attributes
  importText : a.importText = b.importText

namespace EntityDoc.SameRecords

variable {a b : EntityDoc}

theorem rfl {doc : EntityDoc} : SameRecords doc doc := ⟨.refl _, .refl _, .refl _⟩

theorem argument (h : SameRecords a b) (name : String) : a.argument name = b.argument name := by
  rw [EntityDoc.argument, EntityDoc.argument, h.arguments]

theorem changeArguments (h : SameRecords a b) {change other : Dict ArgumentDoc}
    (hchange : change = other) :
    SameRecords { a with arguments := change } { b with arguments := other } :=
  ⟨hchange, h.attributes, h.importText⟩

theorem updateArgument (h : SameRecords a b) (name : String)
    (change : ArgumentDoc → ArgumentDoc) :
    SameRecords (a.updateArgument name change) (b.updateArgument name change) :=
  h.changeArguments (by rw [h.arguments, h.argument])

end EntityDoc.SameRecords

namespace Markdown

open EntityDoc

/-! ## Scans of references -/

/-- Scans at the same place in the same lines, with related statistics. -/
structure ArgumentScan.Alongside (counts : Stats → Stats → Prop) (a b : ArgumentScan) : Prop where
  records : SameRecords a.doc b.doc
  stats : counts a.stats b.stats
  last : a.last = b.last
  parent : a.parent = b.parent

namespace ArgumentScan

theorem sameRecords_addNested {a b : EntityDoc} (h : SameRecords a b)
    (parent name description : String) :
    SameRecords (addNested a parent name description) (addNested b parent name description) := by
  have hparent := h.updateArgument parent fun argument ↦
    { argument with nested := argument.nested.insert name description }
  simp only [addNested, hparent.arguments]
  split
  · exact hparent
  · exact hparent.updateArgument name _

theorem sameRecords_addTopLevel {a b : EntityDoc} (h : SameRecords a b)
    (name description : String) :
    SameRecords (addTopLevel a name description) (addTopLevel b name description) :=
  h.updateArgument name _

theorem sameRecords_continueNested {a b : EntityDoc} (h : SameRecords a b)
    (parent last text : String) :
    SameRecords (continueNested a parent last text) (continueNested b parent last text) := by
  have hparent := h.updateArgument parent fun argument ↦
    { argument with nested := argument.nested.modify last (appendLine · text) }
  exact hparent.changeArguments (by rw [hparent.arguments])

namespace Alongside

variable {counts : Stats → Stats → Prop} {a b : ArgumentScan}

theorem bullet (hcounts : Stats.KeptByCounts counts) (h : Alongside counts a b)
    (name description : String) (introducesBlock : Bool) :
    Alongside counts (a.bullet name description introducesBlock)
      (b.bullet name description introducesBlock) := by
  obtain ⟨doc, stats, last, parent⟩ := a
  obtain ⟨other, others, last, parent⟩ := b
  obtain ⟨hrecords, hstats, rfl, rfl⟩ := h
  cases parent with
  | some parent => exact ⟨sameRecords_addNested hrecords parent name description, hstats, rfl, rfl⟩
  | none =>
    cases introducesBlock with
    | true => exact ⟨hrecords, hstats, rfl, rfl⟩
    | false =>
      exact ⟨sameRecords_addTopLevel hrecords name description, hcounts.count .argument hstats,
        rfl, rfl⟩

theorem continuation (hcounts : Stats.KeptByCounts counts) (h : Alongside counts a b)
    (last text : String) :
    Alongside counts (a.continuation last text) (b.continuation last text) := by
  obtain ⟨doc, stats, _, parent⟩ := a
  obtain ⟨other, others, _, parent⟩ := b
  obtain ⟨hrecords, hstats, rfl, rfl⟩ := h
  cases parent with
  | some parent => exact ⟨sameRecords_continueNested hrecords parent last text, hstats, rfl, rfl⟩
  | none =>
    have harguments : doc.arguments = other.arguments := hrecords.arguments
    simp only [ArgumentScan.continuation, continueTopLevel, harguments]
    split
    · have hlast := hrecords.updateArgument last fun argument ↦
        { argument with description := appendLine argument.description text }
      exact ⟨hlast, hstats, rfl, rfl⟩
    · exact ⟨hrecords, hcounts.count .warning hstats, rfl, rfl⟩

theorem enterBlock (hcounts : Stats.KeptByCounts counts) (h : Alongside counts a b)
    (name : String) : Alongside counts (a.enterBlock name) (b.enterBlock name) := by
  refine ⟨h.records, ?_, rfl, rfl⟩
  simp only [ArgumentScan.enterBlock, h.records.arguments]
  cases b.doc.arguments.contains name with
  | true => exact h.stats
  | false => exact hcounts.count .unmatchedBlock h.stats

theorem step (hcounts : Stats.KeptByCounts counts) (h : Alongside counts a b) (line : Line) :
    Alongside counts (a.step line) (b.step line) := by
  unfold ArgumentScan.step
  rw [h.last]
  cases line with
  | bullet name description introducesBlock => exact h.bullet hcounts ..
  | blank => exact ⟨h.records, h.stats, rfl, h.parent⟩
  | continuation text =>
    cases b.last with
    | some last => exact h.continuation hcounts ..
    | none => exact h
  | blockIntro name text =>
    cases b.last with
    | some last => exact h.continuation hcounts ..
    | none => exact h.enterBlock hcounts name

end Alongside

end ArgumentScan

theorem alongside_scanArguments {counts : Stats → Stats → Prop}
    (hcounts : Stats.KeptByCounts counts) {a b : EntityDoc} (h : SameRecords a b)
    {stats others : Stats} (hstats : counts stats others) (parent : Option String)
    (lines : List String) :
    SameRecords (scanArguments a stats parent lines).1 (scanArguments b others parent lines).1 ∧
      counts (scanArguments a stats parent lines).2 (scanArguments b others parent lines).2 := by
  have hstart : ArgumentScan.Alongside counts ⟨a, stats, none, parent⟩ ⟨b, others, none, parent⟩ :=
    ⟨h, hstats, rfl, rfl⟩
  have hend := List.foldl_rel (l := lines.map Line.ofArguments) hstart
    fun line _ _ _ hscan ↦ hscan.step hcounts line
  exact ⟨hend.records, hend.stats⟩

theorem sameRecords_readAttributes {a b : EntityDoc} (h : SameRecords a b) (lines : List String) :
    SameRecords (readAttributes a lines) (readAttributes b lines) := by
  have hkept (doc : EntityDoc) :
      (readAttributes doc lines).arguments = doc.arguments ∧
        (readAttributes doc lines).importText = doc.importText := by
    have hrest := withoutAttributes_readAttributes doc lines
    exact ⟨congrArg (·.arguments) hrest, congrArg (·.importText) hrest⟩
  obtain ⟨harguments, himport⟩ := hkept a
  obtain ⟨hothers, hotherImport⟩ := hkept b
  exact ⟨harguments.trans (h.arguments.trans hothers.symm),
    attributes_readAttributes_congr h.attributes lines,
    himport.trans (h.importText.trans hotherImport.symm)⟩

/-! ## Generated sections -/

/-- Records and statistics side by side. -/
def PairAlongside (counts : Stats → Stats → Prop) (a b : EntityDoc × Stats) : Prop :=
  SameRecords a.1 b.1 ∧ counts a.2 b.2

section Schema

variable {counts : Stats → Stats → Prop} (hcounts : Stats.KeptByCounts counts)
  {a b : EntityDoc × Stats} (h : PairAlongside counts a b)

include hcounts h

theorem PairAlongside.putArgument (name description : String) (isNested : Bool) :
    PairAlongside counts (putArgument name description isNested a)
      (putArgument name description isNested b) := by
  have hput := h.1.updateArgument name fun argument ↦
    { argument with description := description, isNested := isNested }
  refine ⟨hput, ?_⟩
  simp only [Markdown.putArgument, h.1.argument]
  split
  · exact hcounts.count .warning h.2
  · exact h.2

theorem PairAlongside.setNestedArgument (path : String) (parameter : Parameter) :
    PairAlongside counts (setNestedArgument path parameter a)
      (setNestedArgument path parameter b) := by
  have hblock := h.1.updateArgument path fun argument ↦
    { argument with
      nested := argument.nested.insert parameter.name parameter.description
      isNested := true }
  have hpair : PairAlongside counts (_, a.2) (_, b.2) := ⟨hblock, h.2⟩
  exact hpair.putArgument hcounts (path ++ "." ++ parameter.name) parameter.description true

theorem PairAlongside.record (schema : SchemaSection) :
    PairAlongside counts (schema.record a.1 a.2) (schema.record b.1 b.2) := by
  refine List.foldl_rel ?_ fun block _ _ _ hblock ↦ List.foldl_rel hblock
    fun parameter _ _ _ hparameter ↦ hparameter.setNestedArgument hcounts block.path parameter
  exact List.foldl_rel h fun parameter _ _ _ hparameter ↦ hparameter.putArgument hcounts ..

end Schema

/-! ## Readings -/

namespace Reading

/-- Readings of the same records, with descriptions and statistics related. -/
structure Alongside (texts : String → String → Prop) (counts : Stats → Stats → Prop)
    (a b : Reading) : Prop where
  records : SameRecords a.doc b.doc
  importParts : a.importParts = b.importParts
  description : texts a.doc.description b.doc.description
  stats : counts a.stats b.stats

/-- A relation that is kept when the same text is added on both sides. -/
def KeptByAdding (texts : String → String → Prop) : Prop :=
  ∀ {a b : String}, texts a b → ∀ text, texts (a ++ text) (b ++ text)

theorem argumentsNamed_eq {a b : EntityDoc} (h : SameRecords a b) (name : String) :
    argumentsNamed a name = argumentsNamed b name := by
  rw [argumentsNamed, argumentsNamed, h.arguments]

namespace Alongside

variable {texts : String → String → Prop} {counts : Stats → Stats → Prop} {a b : Reading}

theorem describe (htexts : KeptByAdding texts) (h : Alongside texts counts a b) (text : String) :
    Alongside texts counts (a.describe text) (b.describe text) :=
  ⟨⟨h.records.arguments, h.records.attributes, h.records.importText⟩, h.importParts,
    htexts h.description text, h.stats⟩

section

variable (hcounts : Stats.KeptByCounts counts) (h : Alongside texts counts a b)

include hcounts h

theorem warn : Alongside texts counts a.warn b.warn :=
  ⟨h.records, h.importParts, h.description, hcounts.count .warning h.stats⟩

theorem scan (parent : Option String) (lines : List String) :
    Alongside texts counts (a.scan parent lines) (b.scan parent lines) := by
  obtain ⟨hrecords, hstats⟩ := alongside_scanArguments hcounts h.records h.stats parent lines
  refine ⟨hrecords, h.importParts, ?_, hstats⟩
  have hkept (reading : Reading) :
      (reading.scan parent lines).doc.description = reading.doc.description :=
    description_scanArguments ..
  rw [hkept, hkept]
  exact h.description

theorem scanTitled (title : String) (lines : List String) :
    Alongside texts counts (a.scanTitled title lines) (b.scanTitled title lines) := by
  unfold Reading.scanTitled
  rw [argumentsNamed_eq h.records]
  split
  · exact h
  · exact h.scan hcounts ..
  · exact ⟨h.records, h.importParts, h.description,
      hcounts.count .warning (hcounts.count .ambiguousSection h.stats)⟩

theorem countSnippets (kind : SectionKind) (subsection : Subsection) :
    Alongside texts counts (a.countSnippets kind subsection) (b.countSnippets kind subsection) := by
  unfold Reading.countSnippets
  split
  · exact ⟨h.records, h.importParts, h.description,
      hcounts.count .warning (hcounts.count .unexpectedSnippet h.stats)⟩
  · exact h

theorem addSchema (body : List String) :
    Alongside texts counts (a.addSchema body) (b.addSchema body) := by
  simp only [Reading.addSchema]
  split
  · exact h.warn hcounts
  · obtain ⟨hrecords, hstats⟩ := PairAlongside.record hcounts
      (a := (a.doc, a.stats)) (b := (b.doc, b.stats)) ⟨h.records, h.stats⟩
      (SchemaSection.ofLines body)
    refine ⟨hrecords, h.importParts, ?_, hstats⟩
    rw [description_record, description_record]
    exact h.description

end

section

variable (htexts : KeptByAdding texts) (hcounts : Stats.KeptByCounts counts)
  (h : Alongside texts counts a b)

include htexts hcounts h

theorem addFrontMatter (frontMatter : FrontMatter) :
    Alongside texts counts (a.addFrontMatter frontMatter) (b.addFrontMatter frontMatter) := by
  unfold Reading.addFrontMatter
  cases frontMatter.foundTitle with
  | true => exact h.describe htexts _
  | false => exact (h.warn hcounts).describe htexts _

theorem addProse (header : String) (isFirst : Bool) (firstLine : String)
    (subsection : Subsection) :
    Alongside texts counts (a.addProse header isFirst firstLine subsection)
      (b.addProse header isFirst firstLine subsection) := by
  rw [addProse_eq, addProse_eq]
  exact (h.scanTitled hcounts _ _).describe htexts _

theorem addSubsection (kind : SectionKind) (header : String) (token : Option String)
    (isFirst : Bool) (firstLine : String) (subsection : Subsection) :
    Alongside texts counts (a.addSubsection kind header token isFirst firstLine subsection)
      (b.addSubsection kind header token isFirst firstLine subsection) := by
  unfold Reading.addSubsection
  split
  · exact h.scan hcounts none subsection.lines
  · refine ⟨sameRecords_readAttributes h.records _, h.importParts, ?_, h.stats⟩
    rw [description_readAttributes, description_readAttributes]
    exact h.description
  · exact ⟨h.records, by rw [h.importParts], h.description, h.stats⟩
  · exact h.addProse htexts hcounts ..

theorem addSubsections (kind : SectionKind) (header : String) (token : Option String)
    (body : List String) :
    Alongside texts counts (a.addSubsections kind header token body)
      (b.addSubsections kind header token body) :=
  List.foldl_rel h fun _ _ _ _ hentry ↦
    (hentry.countSnippets hcounts ..).addSubsection htexts hcounts ..

/-- Readings side by side stay so by reading a section. -/
theorem addSection (token : Option String) (lines : List String) :
    Alongside texts counts (Reading.addSection token a lines)
      (Reading.addSection token b lines) := by
  unfold Reading.addSection
  cases lines with
  | nil => exact h
  | cons first body =>
    dsimp only
    split
    · exact ⟨h.records, h.importParts, h.description,
        hcounts.count (.ignored _) h.stats⟩
    · refine addFrontMatter htexts hcounts ?_ _
      split
      · exact h
      · exact h.warn hcounts
    · exact h.addFrontMatter htexts hcounts _
    · exact h.addSchema hcounts body
    · exact h.addSubsections htexts hcounts ..

/-- Readings side by side stay so to the end of the document. -/
theorem foldl_addSection (token : Option String) (sections : List (List String)) :
    Alongside texts counts (sections.foldl (Reading.addSection token) a)
      (sections.foldl (Reading.addSection token) b) :=
  List.foldl_rel h fun lines _ _ _ hreading ↦ hreading.addSection htexts hcounts token lines

end

end Alongside

end Reading

end Markdown

end ProviderDocs
