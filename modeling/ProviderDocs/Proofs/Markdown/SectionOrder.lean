import Mathlib.Logic.Function.Conjugate
import ProviderDocs.Proofs.Markdown.IgnoredSection

/-!
# The order of reference sections

References of arguments and of attributes, import sections and ignored sections each write a part
of a reading of their own and read no other part. What they share are the statistics, where all of
them only count. So two of them of different kinds may stand in either order.
-/

namespace ProviderDocs

namespace Markdown

open Function (Commute)

/-- Runs of steps commute when every step of the one does with every step of the other. -/
theorem commute_foldl {σ α β : Type} {step : σ → α → σ} {other : σ → β → σ}
    (h : ∀ a b, Commute (step · a) (other · b)) (items : List α) (others : List β) :
    Commute (fun state ↦ items.foldl step state) (fun state ↦ others.foldl other state) := by
  have hstep (a : α) : Commute (step · a) (fun state ↦ others.foldl other state) :=
    fun state ↦ (List.foldl_hom (step · a) fun state b ↦ (h a b state).symm).symm
  exact fun state ↦ List.foldl_hom (fun state ↦ others.foldl other state)
    fun state a ↦ hstep a state

/-! ## Scans and attributes -/

/-- The record with other attributes. -/
def withAttributes (attributes : Dict String) (doc : EntityDoc) : EntityDoc :=
  { doc with attributes := attributes }

section Attributes

variable (attributes : Dict String) (doc : EntityDoc)

@[simp] theorem arguments_withAttributes :
    (withAttributes attributes doc).arguments = doc.arguments := rfl

@[simp] theorem updateArgument_withAttributes (name : String)
    (change : ArgumentDoc → ArgumentDoc) :
    (withAttributes attributes doc).updateArgument name change =
      withAttributes attributes (doc.updateArgument name change) := rfl

namespace ArgumentScan

theorem addNested_withAttributes (parent name description : String) :
    addNested (withAttributes attributes doc) parent name description =
      withAttributes attributes (addNested doc parent name description) := by
  simp only [addNested, updateArgument_withAttributes, arguments_withAttributes]
  exact (apply_ite (withAttributes attributes) ..).symm

/-- The scan of a record with other attributes. -/
def overAttributes (scan : ArgumentScan) : ArgumentScan :=
  { scan with doc := withAttributes attributes scan.doc }

variable (scan : ArgumentScan)

theorem bullet_overAttributes (name description : String) (introducesBlock : Bool) :
    (overAttributes attributes scan).bullet name description introducesBlock =
      overAttributes attributes (scan.bullet name description introducesBlock) := by
  obtain ⟨doc, stats, last, parent⟩ := scan
  cases parent with
  | some parent => simp only [bullet, overAttributes, addNested_withAttributes]
  | none => cases introducesBlock <;> rfl

theorem continueTopLevel_overAttributes (last text : String) :
    (overAttributes attributes scan).continueTopLevel last text =
      overAttributes attributes (scan.continueTopLevel last text) := by
  unfold continueTopLevel
  rw [apply_ite (overAttributes attributes)]
  rfl

theorem continuation_overAttributes (last text : String) :
    (overAttributes attributes scan).continuation last text =
      overAttributes attributes (scan.continuation last text) := by
  obtain ⟨doc, stats, _, parent⟩ := scan
  cases parent with
  | some parent => rfl
  | none => exact continueTopLevel_overAttributes attributes ..

/-- A scan never looks at attributes. -/
theorem step_overAttributes (line : Line) :
    (overAttributes attributes scan).step line = overAttributes attributes (scan.step line) := by
  have hlast : (overAttributes attributes scan).last = scan.last := rfl
  unfold step
  rw [hlast]
  cases line with
  | bullet name description introducesBlock => exact bullet_overAttributes attributes ..
  | blank => rfl
  | continuation text =>
    cases scan.last with
    | some last => exact continuation_overAttributes attributes ..
    | none => rfl
  | blockIntro name text =>
    cases scan.last with
    | some last => exact continuation_overAttributes attributes ..
    | none => rfl

end ArgumentScan

theorem scanArguments_withAttributes (stats : Stats) (parent : Option String)
    (lines : List String) :
    scanArguments (withAttributes attributes doc) stats parent lines =
      (withAttributes attributes (scanArguments doc stats parent lines).1,
        (scanArguments doc stats parent lines).2) := by
  have hrun : (lines.map Line.ofArguments).foldl ArgumentScan.step
      (ArgumentScan.overAttributes attributes ⟨doc, stats, none, parent⟩) =
        ArgumentScan.overAttributes attributes
          ((lines.map Line.ofArguments).foldl ArgumentScan.step ⟨doc, stats, none, parent⟩) :=
    List.foldl_hom (ArgumentScan.overAttributes attributes)
      fun scan line ↦ ArgumentScan.step_overAttributes attributes scan line
  have hstart : ArgumentScan.overAttributes attributes ⟨doc, stats, none, parent⟩ =
      ⟨withAttributes attributes doc, stats, none, parent⟩ := rfl
  rw [hstart] at hrun
  unfold scanArguments
  rw [hrun]
  rfl

/-- Reading attributes changes nothing but the attributes. -/
theorem readAttributes_eq (lines : List String) :
    readAttributes doc lines = withAttributes (readAttributes doc lines).attributes doc := by
  have hrest := withoutAttributes_readAttributes doc lines
  generalize readAttributes doc lines = read at hrest
  obtain ⟨description, arguments, attributes, importText⟩ := read
  obtain ⟨_, _, _, _⟩ := doc
  cases hrest
  rfl

end Attributes

namespace Reading

/-! ## Counting -/

/-- The reading with its statistics changed. -/
def recount (count : Stats → Stats) (reading : Reading) : Reading :=
  { reading with stats := count reading.stats }

section Recount

variable {count : Stats → Stats}

theorem alongside_recount (reading : Reading) :
    Alongside Eq (fun stats later ↦ later = count stats) reading (recount count reading) :=
  ⟨.rfl, rfl, rfl, rfl⟩

theorem eq_recount {a b : Reading}
    (h : Alongside Eq (fun stats later ↦ later = count stats) a b) : b = recount count a := by
  rw [h.eq, h.stats]
  rfl

theorem keptByAdding_eq : KeptByAdding Eq := fun h text ↦ by rw [h]

variable (hcount : Stats.KeptByCounts fun stats later ↦ later = count stats)

include hcount

/-- It does not matter whether something is counted before a section or after it. -/
theorem commute_addSection_recount (token : Option String) (lines : List String) :
    Commute (addSection token · lines) (recount count) :=
  fun reading ↦ eq_recount
    ((alongside_recount reading).addSection keptByAdding_eq hcount token lines)

theorem commute_addSubsection_recount (kind : SectionKind) (header : String)
    (token : Option String) (isFirst : Bool) (firstLine : String) (subsection : Subsection) :
    Commute (addSubsection · kind header token isFirst firstLine subsection) (recount count) :=
  fun reading ↦ eq_recount ((alongside_recount reading).addSubsection keptByAdding_eq hcount
    kind header token isFirst firstLine subsection)

theorem commute_countSnippets_recount (kind : SectionKind) (subsection : Subsection) :
    Commute (countSnippets · kind subsection) (recount count) :=
  fun reading ↦ eq_recount ((alongside_recount reading).countSnippets hcount kind subsection)

end Recount

/-- Code blocks are counted whatever was read before. -/
theorem exists_recount_eq_countSnippets (kind : SectionKind) (subsection : Subsection) :
    ∃ count, Stats.KeptByCounts (fun stats later ↦ later = count stats) ∧
      (countSnippets · kind subsection) = recount count := by
  cases hcounts : subsection.hasExamples && !expectsExamples kind with
  | false =>
    refine ⟨id, ⟨fun _ _ _ h ↦ by rw [h]; rfl⟩, funext fun reading ↦ ?_⟩
    rw [countSnippets, hcounts]
    rfl
  | true =>
    refine ⟨fun stats ↦ { stats with unexpectedSnippets := stats.unexpectedSnippets + 1 }.warn,
      ⟨?_⟩, funext fun reading ↦ ?_⟩
    · intro count hcount stats later hlater
      subst hlater
      cases hcount <;> rfl
    · rw [countSnippets, hcounts]
      rfl

/-! ## Subsections -/

theorem commute_scan_readAttributes (parent : Option String) (lines others : List String) :
    Commute (scan · parent lines)
      (fun reading ↦ { reading with doc := readAttributes reading.doc others }) := by
  intro reading
  have hattributes : (readAttributes (reading.scan parent lines).doc others).attributes =
      (readAttributes reading.doc others).attributes :=
    attributes_readAttributes_congr (attributes_scanArguments ..) others
  dsimp only
  rw [readAttributes_eq (reading.scan parent lines).doc, hattributes, readAttributes_eq reading.doc]
  simp only [scan, scanArguments_withAttributes]
  rfl

/-- Kinds of sections whose subsections are each read into one part of a reading. -/
inductive IsReference : SectionKind → Prop
  | arguments : IsReference .argumentsReference
  | attributes : IsReference .attributesReference
  | imports : IsReference .imports

/-- Subsections of references of different kinds may stand in either order. -/
theorem commute_addSubsection {kind next : SectionKind} (hkind : IsReference kind)
    (hnext : IsReference next) (hne : kind ≠ next) (header title : String)
    (token : Option String) (isFirst isFirstNext : Bool) (firstLine line : String)
    (subsection more : Subsection) :
    Commute (addSubsection · kind header token isFirst firstLine subsection)
      (addSubsection · next title token isFirstNext line more) := by
  cases hkind with
  | arguments =>
    cases hnext with
    | arguments => exact absurd rfl hne
    | attributes => exact commute_scan_readAttributes none subsection.lines more.lines
    | imports => exact fun _ ↦ rfl
  | attributes =>
    cases hnext with
    | arguments => exact (commute_scan_readAttributes none more.lines subsection.lines).symm
    | attributes => exact absurd rfl hne
    | imports => exact fun _ ↦ rfl
  | imports =>
    cases hnext with
    | arguments => exact fun _ ↦ rfl
    | attributes => exact fun _ ↦ rfl
    | imports => exact absurd rfl hne

/-! ## Sections -/

theorem commute_addSubsections {kind next : SectionKind} (hkind : IsReference kind)
    (hnext : IsReference next) (hne : kind ≠ next) (header title : String)
    (token : Option String) (body rest : List String) :
    Commute (addSubsections · kind header token body)
      (addSubsections · next title token rest) := by
  refine commute_foldl (fun entry following ↦ ?_) _ _
  obtain ⟨count, hcount, hsnippets⟩ := exists_recount_eq_countSnippets kind entry.1.2
  obtain ⟨recount, hrecount, hfollowing⟩ := exists_recount_eq_countSnippets next following.1.2
  have hread := commute_addSubsection hkind hnext hne header title token (entry.2 = 0)
    (following.2 = 0) entry.1.1 following.1.1 entry.1.2 following.1.2
  have hcounted := commute_addSubsection_recount hcount next title token (following.2 = 0)
    following.1.1 following.1.2
  have hrecounted := commute_addSubsection_recount hrecount kind header token (entry.2 = 0)
    entry.1.1 entry.1.2
  have hcounts := commute_countSnippets_recount hcount next following.1.2
  rw [← hsnippets] at hcounted hcounts
  rw [← hfollowing] at hrecounted
  exact (hread.comp_right hrecounted).comp_left (hcounted.symm.comp_right hcounts.symm)

theorem addSection_reference {first : String} (h : IsReference (SectionKind.ofLine first))
    (token : Option String) (reading : Reading) (body : List String) :
    addSection token reading (first :: body) =
      reading.addSubsections (SectionKind.ofLine first) (headerOf first) token body := by
  simp only [addSection]
  generalize SectionKind.ofLine first = kind at h
  cases h <;> rfl

theorem addSection_of_ignored {first header : String}
    (h : SectionKind.ofLine first = .ignored header) (token : Option String) (body : List String) :
    (addSection token · (first :: body)) = recount (Stats.countIgnored · header) := by
  funext reading
  rw [addSection, h]
  rfl

/--
Sections of different kinds among references of arguments, references of attributes, import
sections and ignored sections may stand in either order: the record, the statistics and the parts
of the import are the same.
-/
theorem addSection_addSection_comm {first next : String}
    (hfirst : IsReference (SectionKind.ofLine first) ∨
      ∃ header, SectionKind.ofLine first = .ignored header)
    (hnext : IsReference (SectionKind.ofLine next) ∨
      ∃ header, SectionKind.ofLine next = .ignored header)
    (hne : SectionKind.ofLine first ≠ SectionKind.ofLine next) (body rest : List String)
    (token : Option String) (reading : Reading) :
    addSection token (addSection token reading (next :: rest)) (first :: body) =
      addSection token (addSection token reading (first :: body)) (next :: rest) := by
  rcases hfirst with hfirst | ⟨header, hfirst⟩
  · rcases hnext with hnext | ⟨header, hnext⟩
    · simp only [addSection_reference hfirst, addSection_reference hnext]
      exact commute_addSubsections hfirst hnext hne _ _ token body rest reading
    · have hcomm := commute_addSection_recount (keptByCounts_countIgnored header) token
        (first :: body) reading
      rwa [← addSection_of_ignored hnext token rest] at hcomm
  · have hcomm := commute_addSection_recount (keptByCounts_countIgnored header) token
      (next :: rest) reading
    rw [← addSection_of_ignored hfirst token body] at hcomm
    exact hcomm.symm

/-- References with a block, timeouts and code that is out of place. -/
def ruleArguments : List String :=
  ["* `rule` - Rules.", "The `rule` block supports:", "", "* `id` - Id.", "### Timeouts",
    "* `read` - Time.", "### Notes", "```", "rule {}", "```"]

def ruleAttributes : List String :=
  ["* `id` - Id,", "once more.", "### Example", "```", "id", "```"]

theorem addSection_addSection_comm_rule :
    (IsReference (SectionKind.ofLine "## Argument Reference") ∨
        ∃ header, SectionKind.ofLine "## Argument Reference" = .ignored header) ∧
      (IsReference (SectionKind.ofLine "## Attributes Reference") ∨
        ∃ header, SectionKind.ofLine "## Attributes Reference" = .ignored header) ∧
      SectionKind.ofLine "## Argument Reference" ≠ SectionKind.ofLine "## Attributes Reference" ∧
      addSection none (addSection none .empty ("## Attributes Reference" :: ruleAttributes))
          ("## Argument Reference" :: ruleArguments) =
        addSection none (addSection none .empty ("## Argument Reference" :: ruleArguments))
          ("## Attributes Reference" :: ruleAttributes) := by
  have harguments : SectionKind.ofLine "## Argument Reference" = .argumentsReference := by
    decide +kernel
  have hattributes : SectionKind.ofLine "## Attributes Reference" = .attributesReference := by
    decide +kernel
  have hfirst := harguments ▸ IsReference.arguments
  have hnext := hattributes ▸ IsReference.attributes
  have hne : SectionKind.ofLine "## Argument Reference" ≠
      SectionKind.ofLine "## Attributes Reference" := by
    rw [harguments, hattributes]
    decide
  exact ⟨.inl hfirst, .inl hnext, hne, addSection_addSection_comm (.inl hfirst) (.inl hnext) hne
    ruleArguments ruleAttributes none .empty⟩

end Reading

end Markdown

end ProviderDocs
