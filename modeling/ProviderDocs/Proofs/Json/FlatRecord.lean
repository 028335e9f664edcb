import ProviderDocs.Conversion.Diagnostic
import ProviderDocs.Doc.Json
import ProviderDocs.Proofs.Json.Record
import ProviderDocs.Stats.Json

/-!
# Documents, statistics and translated examples read back from JSON

These records do not nest in themselves. A nested dictionary or an import text that is empty is
left out and read as empty; a count is read back when it is one of 64 bits.
-/

namespace ProviderDocs

open Json

/-! ## Documents -/

namespace ArgumentDoc

variable (argument : ArgumentDoc)

/-- The fields of the record. -/
def jsonFields : List (String × Option Json) :=
  [("description", some (.str argument.description)),
    ("nestedArguments",
      if argument.nested.isEmpty then none else some (.ofDict .str argument.nested)),
    ("isNested", some (.bool argument.isNested))]

theorem hasFields : HasFields argument.toJson fieldNames argument.jsonFields := by
  refine ⟨?_, rfl, by decide⟩
  rw [toJson, jsonFields]
  cases argument.nested.isEmpty <;> rfl

theorem ofJson?_toJson : ofJson? argument.toJson = some argument := by
  have hnested : withDefault ∅ (dict? str?)
      (if argument.nested.isEmpty then none else some (.ofDict .str argument.nested)) =
        some argument.nested :=
    withDefault_unless Dict.eq_empty_of_isEmpty (dict?_texts argument.nested)
  have hrecord := argument.hasFields
  have hread := hrecord.field?_eq
  simp only [jsonFields, List.forall_mem_cons] at hread
  simp [ofJson?, hrecord.isRecord_eq, hread, guard, hnested]

end ArgumentDoc

namespace EntityDoc

variable (doc : EntityDoc)

/-- The fields of the record. -/
def jsonFields : List (String × Option Json) :=
  [("description", some (.str doc.description)),
    ("arguments", some (.ofDict ArgumentDoc.toJson doc.arguments)),
    ("attributes", some (.ofDict .str doc.attributes)),
    ("import", if doc.importText.isEmpty then none else some (.str doc.importText))]

theorem hasFields : HasFields doc.toJson fieldNames doc.jsonFields := by
  refine ⟨?_, rfl, by decide⟩
  rw [toJson, jsonFields]
  cases doc.importText.isEmpty <;> rfl

theorem ofJson?_toJson : ofJson? doc.toJson = some doc := by
  have harguments : dict? ArgumentDoc.ofJson? (ofDict ArgumentDoc.toJson doc.arguments) =
      some doc.arguments :=
    dict?_ofDict fun entry _ ↦ entry.2.ofJson?_toJson
  have himport : withDefault "" str?
      (if doc.importText.isEmpty then none else some (.str doc.importText)) =
        some doc.importText :=
    withDefault_unless String.isEmpty_iff.mp (str?_str doc.importText)
  have hrecord := doc.hasFields
  have hread := hrecord.field?_eq
  simp only [jsonFields, List.forall_mem_cons] at hread
  simp [ofJson?, hrecord.isRecord_eq, hread, guard, harguments, himport, dict?_texts,
    -String.isEmpty_iff]

end EntityDoc

/-! ## Statistics -/

theorem Tally.ofJson?_toJson {tally : Tally}
    (h : ∀ count ∈ tally.values, count < 0x10000000000000000) : ofJson? tally.toJson = some tally :=
  dict?_ofDict fun entry hentry ↦ natBelow?_ofNat (h entry.2 (List.mem_map_of_mem hentry))

namespace Stats

variable (stats : Stats)

/-- All the counts, those of the tallies included. -/
def counts : List Nat :=
  stats.ignoredHeaders.values ++ stats.partialFailures.values ++
    [stats.unexpectedSnippets, stats.arguments, stats.ambiguousSections, stats.unmatchedBlocks,
      stats.elidedArguments, stats.elidedAttributes, stats.elidedDescriptions, stats.elidedProse,
      stats.missingDocs, stats.failedExamples, stats.warnings]

/-- The counts are those of counters of 64 bits. -/
def Fits : Prop := ∀ count ∈ stats.counts, count < 0x10000000000000000

/-- The fields of the record. -/
def jsonFields : List (String × Option Json) :=
  [("ignored_doc_headers", some stats.ignoredHeaders.toJson),
    ("unexpected_snippets", some (.ofNat stats.unexpectedSnippets)),
    ("total_arguments_from_docs", some (.ofNat stats.arguments)),
    ("nested_arg_sections_multiple_matches", some (.ofNat stats.ambiguousSections)),
    ("nested_args_with_no_previous_match", some (.ofNat stats.unmatchedBlocks)),
    ("elided_arguments", some (.ofNat stats.elidedArguments)),
    ("elided_attributes", some (.ofNat stats.elidedAttributes)),
    ("elided_descriptions", some (.ofNat stats.elidedDescriptions)),
    ("elided_descriptions_only", some (.ofNat stats.elidedProse)),
    ("entities_missing_docs", some (.ofNat stats.missingDocs)),
    ("hcl_all_langs_conversion_failures", some (.ofNat stats.failedExamples)),
    ("hcl_partial_conversion_failures", some stats.partialFailures.toJson),
    ("warnings", some (.ofNat stats.warnings))]

theorem hasFields : HasFields stats.toJson fieldNames stats.jsonFields :=
  ⟨rfl, rfl, by simp [fieldNames]⟩

variable {stats}

theorem ofJson?_toJson (h : stats.Fits) : ofJson? stats.toJson = some stats := by
  have hheaders := Tally.ofJson?_toJson fun count hcount ↦
    h count (List.mem_append_left _ (List.mem_append_left _ hcount))
  have hfailures := Tally.ofJson?_toJson fun count hcount ↦
    h count (List.mem_append_left _ (List.mem_append_right _ hcount))
  have hcount {count : Nat} (hmem : count ∈ stats.counts) : count? (.ofNat count) = some count :=
    natBelow?_ofNat (h count hmem)
  have hrecord := stats.hasFields
  have hread := hrecord.field?_eq
  simp only [jsonFields, List.forall_mem_cons] at hread
  simp [ofJson?, hrecord.isRecord_eq, hread, guard, hheaders, hfailures, hcount, counts]

end Stats

/-! ## Translated examples -/

namespace Diagnostic

variable (diagnostic : Diagnostic)

/-- The fields of the record. -/
def jsonFields : List (String × Option Json) :=
  [("Severity", some (.ofNat diagnostic.severity.toNat)),
    ("Summary", some (.str diagnostic.summary)), ("Detail", some (.str diagnostic.detail))]

theorem hasFields : HasFields diagnostic.toJson fieldNames diagnostic.jsonFields :=
  ⟨rfl, rfl, by decide⟩

theorem ofJson?_toJson : ofJson? diagnostic.toJson = some diagnostic := by
  have hseverity := natBelow?_ofNat diagnostic.severity.toNat_lt
  have hrecord := diagnostic.hasFields
  have hread := hrecord.field?_eq
  simp only [jsonFields, List.forall_mem_cons] at hread
  simp [ofJson?, hrecord.isRecord_eq, hread, guard, hseverity]

end Diagnostic

namespace TranslatedExample

variable (translated : TranslatedExample)

/-- The fields of the record. -/
def jsonFields : List (String × Option Json) :=
  [("pcl", some (.str translated.pcl)),
    ("diagnostics", some (.ofList Diagnostic.toJson translated.diagnostics))]

theorem hasFields : HasFields translated.toJson fieldNames translated.jsonFields :=
  ⟨rfl, rfl, by decide⟩

theorem ofJson?_toJson : ofJson? translated.toJson = some translated := by
  have hdiagnostics : list? Diagnostic.ofJson? (.ofList Diagnostic.toJson translated.diagnostics) =
      some translated.diagnostics :=
    list?_ofList fun diagnostic _ ↦ diagnostic.ofJson?_toJson
  have hoptional : optional (list? Diagnostic.ofJson?)
      (some (.ofList Diagnostic.toJson translated.diagnostics)) =
        some (some translated.diagnostics) := by
    rw [optional_some Json.noConfusion, hdiagnostics, Option.map_some]
  have hrecord := translated.hasFields
  have hread := hrecord.field?_eq
  simp only [jsonFields, List.forall_mem_cons] at hread
  simp [ofJson?, hrecord.isRecord_eq, hread, guard, hoptional]

end TranslatedExample

end ProviderDocs
