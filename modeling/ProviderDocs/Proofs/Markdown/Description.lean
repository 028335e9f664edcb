import ProviderDocs.Markdown.Document

/-!
# Parts of a document that are no description

References, generated schema sections and imports are recorded under the names of arguments and
attributes. Reading them leaves the description as it is: references to arguments and schema
sections change nothing but arguments, and references to attributes nothing but attributes. A
subsection of prose is scanned like a reference and then written as one text.
-/

namespace ProviderDocs

namespace EntityDoc

/-- All that stays of a record when its arguments are changed. -/
def withoutArguments (doc : EntityDoc) : EntityDoc := { doc with arguments := ∅ }

/-- All that stays of a record when its attributes are changed. -/
def withoutAttributes (doc : EntityDoc) : EntityDoc := { doc with attributes := ∅ }

end EntityDoc

namespace Markdown

/-- Steps that keep a part of a state keep it when they are taken one after the other. -/
theorem foldl_keeps {σ α β : Type} (part : σ → β) {step : σ → α → σ}
    (h : ∀ state item, part (step state item) = part state) (items : List α) (state : σ) :
    part (items.foldl step state) = part state := by
  induction items generalizing state with
  | nil => rfl
  | cons item rest ih => rw [List.foldl_cons, ih, h]

/-! ## References -/

namespace ArgumentScan

theorem withoutArguments_addNested (doc : EntityDoc) (parent name description : String) :
    (addNested doc parent name description).withoutArguments = doc.withoutArguments := by
  simp only [addNested]
  split <;> rfl

theorem withoutArguments_bullet (scan : ArgumentScan) (name description : String)
    (introducesBlock : Bool) :
    (scan.bullet name description introducesBlock).doc.withoutArguments =
      scan.doc.withoutArguments := by
  rw [bullet]
  cases scan.parent with
  | some parent => exact withoutArguments_addNested ..
  | none => cases introducesBlock <;> rfl

theorem withoutArguments_continuation (scan : ArgumentScan) (last text : String) :
    (scan.continuation last text).doc.withoutArguments = scan.doc.withoutArguments := by
  rw [continuation]
  cases scan.parent with
  | some parent => rfl
  | none =>
    simp only [continueTopLevel]
    split <;> rfl

theorem withoutArguments_step (scan : ArgumentScan) (line : Line) :
    (scan.step line).doc.withoutArguments = scan.doc.withoutArguments := by
  unfold step
  split
  · exact withoutArguments_bullet ..
  · rfl
  · exact withoutArguments_continuation ..
  · exact withoutArguments_continuation ..
  · rfl
  · rfl

end ArgumentScan

theorem withoutArguments_scanArguments (doc : EntityDoc) (stats : Stats) (parent : Option String)
    (lines : List String) :
    (scanArguments doc stats parent lines).1.withoutArguments = doc.withoutArguments :=
  foldl_keeps (fun scan : ArgumentScan ↦ scan.doc.withoutArguments)
    ArgumentScan.withoutArguments_step _ ⟨doc, stats, none, parent⟩

theorem description_scanArguments (doc : EntityDoc) (stats : Stats) (parent : Option String)
    (lines : List String) :
    (scanArguments doc stats parent lines).1.description = doc.description :=
  (congrArg EntityDoc.description (withoutArguments_scanArguments doc stats parent lines) :)

theorem attributes_scanArguments (doc : EntityDoc) (stats : Stats) (parent : Option String)
    (lines : List String) :
    (scanArguments doc stats parent lines).1.attributes = doc.attributes :=
  (congrArg EntityDoc.attributes (withoutArguments_scanArguments doc stats parent lines) :)

theorem AttributeScan.withoutAttributes_step (scan : AttributeScan) (line : Line) :
    (scan.step line).doc.withoutAttributes = scan.doc.withoutAttributes := by
  cases line with
  | bullet name description introducesBlock => rfl
  | blockIntro name text =>
    simp only [step]
    split <;> rfl
  | continuation text =>
    simp only [step]
    split <;> rfl
  | blank => rfl

theorem withoutAttributes_readAttributes (doc : EntityDoc) (lines : List String) :
    (readAttributes doc lines).withoutAttributes = doc.withoutAttributes :=
  foldl_keeps (fun scan : AttributeScan ↦ scan.doc.withoutAttributes)
    AttributeScan.withoutAttributes_step _ ⟨doc, none⟩

theorem description_readAttributes (doc : EntityDoc) (lines : List String) :
    (readAttributes doc lines).description = doc.description :=
  (congrArg EntityDoc.description (withoutAttributes_readAttributes doc lines) :)

/-- What becomes of attributes depends on nothing else in the record. -/
theorem attributes_readAttributes_congr {a b : EntityDoc} (h : a.attributes = b.attributes)
    (lines : List String) :
    (readAttributes a lines).attributes = (readAttributes b lines).attributes := by
  refine (List.foldl_rel (l := lines.map Line.ofAttributes) (a := ⟨a, none⟩) (b := ⟨b, none⟩)
    (r := fun scan other : AttributeScan ↦
      scan.doc.attributes = other.doc.attributes ∧ scan.last = other.last) ⟨h, rfl⟩ ?_).1
  rintro line - scan other ⟨hattributes, hlast⟩
  unfold AttributeScan.step
  rw [hlast]
  cases line with
  | bullet name description introducesBlock =>
    exact ⟨congrArg (Dict.insert · name description) hattributes, rfl⟩
  | blank => exact ⟨hattributes, rfl⟩
  | continuation text =>
    cases other.last with
    | some last => exact ⟨congrArg (Dict.modify · last (appendLine · text)) hattributes, rfl⟩
    | none => exact ⟨hattributes, hlast⟩
  | blockIntro name text =>
    cases other.last with
    | some last => exact ⟨congrArg (Dict.modify · last (appendLine · text)) hattributes, rfl⟩
    | none => exact ⟨hattributes, hlast⟩

/-! ## Schema sections -/

theorem withoutArguments_putArgument (name description : String) (isNested : Bool)
    (state : EntityDoc × Stats) :
    (putArgument name description isNested state).1.withoutArguments = state.1.withoutArguments :=
  rfl

theorem withoutArguments_setNestedArgument (path : String) (parameter : Parameter)
    (state : EntityDoc × Stats) :
    (setNestedArgument path parameter state).1.withoutArguments = state.1.withoutArguments :=
  rfl

theorem withoutArguments_record (schema : SchemaSection) (doc : EntityDoc) (stats : Stats) :
    (schema.record doc stats).1.withoutArguments = doc.withoutArguments := by
  let part := fun state : EntityDoc × Stats ↦ state.1.withoutArguments
  change part (schema.record doc stats) = part (doc, stats)
  rw [SchemaSection.record, foldl_keeps part, foldl_keeps part]
  · exact fun state parameter ↦
      withoutArguments_putArgument parameter.name parameter.description false state
  · intro state block
    rw [foldl_keeps part]
    exact fun state parameter ↦ withoutArguments_setNestedArgument block.path parameter state

theorem description_record (schema : SchemaSection) (doc : EntityDoc) (stats : Stats) :
    (schema.record doc stats).1.description = doc.description :=
  (congrArg EntityDoc.description (withoutArguments_record schema doc stats) :)

theorem attributes_record (schema : SchemaSection) (doc : EntityDoc) (stats : Stats) :
    (schema.record doc stats).1.attributes = doc.attributes :=
  (congrArg EntityDoc.attributes (withoutArguments_record schema doc stats) :)

/-! ## Subsections -/

namespace Reading

theorem doc_countSnippets (reading : Reading) (kind : SectionKind) (subsection : Subsection) :
    (reading.countSnippets kind subsection).doc = reading.doc := by
  unfold countSnippets
  split <;> rfl

theorem withoutArguments_scanTitled (reading : Reading) (title : String) (lines : List String) :
    (reading.scanTitled title lines).doc.withoutArguments = reading.doc.withoutArguments := by
  unfold scanTitled
  split
  · rfl
  · exact withoutArguments_scanArguments ..
  · rfl

theorem describe_describe (reading : Reading) (text more : String) :
    (reading.describe text).describe more = reading.describe (text ++ more) := by
  unfold describe
  rw [String.append_assoc]

/-- A heading, and a blank line below it where the lines do not begin with one. -/
def headerText (header : String) (lines : List String) : String :=
  "## " ++ header ++ "\n" ++ if lines.head?.any isBlankLine then "" else "\n"

theorem describeHeader_eq (reading : Reading) (header : String) (lines : List String) :
    reading.describeHeader header lines = reading.describe (headerText header lines) := by
  unfold describeHeader headerText
  cases lines with
  | nil => exact describe_describe ..
  | cons first rest =>
    cases hblank : isBlankLine first with
    | true => simp [hblank]
    | false => simp [hblank, describe_describe]

/-- What a subsection of prose is written as, the first one below the heading. -/
def proseText (header : String) (isFirst : Bool) (lines : List String) : String :=
  (if isFirst then headerText header lines else "") ++ (joinLines lines ++ "\n")

theorem addProse_eq (reading : Reading) (header : String) (isFirst : Bool) (firstLine : String)
    (subsection : Subsection) :
    reading.addProse header isFirst firstLine subsection =
      (reading.scanTitled ((after? firstLine "### ").getD header) subsection.lines).describe
        (proseText header isFirst subsection.lines) := by
  unfold addProse proseText
  cases isFirst with
  | true =>
    dsimp only
    rw [if_pos rfl, if_pos rfl, describeHeader_eq, describe_describe]
  | false => simp

end Reading

end Markdown

end ProviderDocs
