import ProviderDocs.Json.Decode
import ProviderDocs.Stats.Basic

/-!
# Statistics as JSON

All counters are written and all are required.
-/

namespace ProviderDocs

namespace Tally

def toJson (tally : Tally) : Json := .ofDict .ofNat tally

def ofJson? : Json → Option Tally := Json.dict? Json.count?

end Tally

namespace Stats

def toJson (stats : Stats) : Json :=
  .obj [
    ("ignored_doc_headers", stats.ignoredHeaders.toJson),
    ("unexpected_snippets", .ofNat stats.unexpectedSnippets),
    ("total_arguments_from_docs", .ofNat stats.arguments),
    ("nested_arg_sections_multiple_matches", .ofNat stats.ambiguousSections),
    ("nested_args_with_no_previous_match", .ofNat stats.unmatchedBlocks),
    ("elided_arguments", .ofNat stats.elidedArguments),
    ("elided_attributes", .ofNat stats.elidedAttributes),
    ("elided_descriptions", .ofNat stats.elidedDescriptions),
    ("elided_descriptions_only", .ofNat stats.elidedProse),
    ("entities_missing_docs", .ofNat stats.missingDocs),
    ("hcl_all_langs_conversion_failures", .ofNat stats.failedExamples),
    ("hcl_partial_conversion_failures", stats.partialFailures.toJson),
    ("warnings", .ofNat stats.warnings)]

def fieldNames : List String := [
  "ignored_doc_headers", "unexpected_snippets", "total_arguments_from_docs",
  "nested_arg_sections_multiple_matches", "nested_args_with_no_previous_match",
  "elided_arguments", "elided_attributes", "elided_descriptions", "elided_descriptions_only",
  "entities_missing_docs", "hcl_all_langs_conversion_failures",
  "hcl_partial_conversion_failures", "warnings"]

def ofJson? (json : Json) : Option Stats := do
  let count? := fun name ↦ Json.required Json.count? (json.field? fieldNames name)
  let tally? := fun name ↦ Json.required Tally.ofJson? (json.field? fieldNames name)
  guard (json.isRecord fieldNames)
  some {
    ignoredHeaders := ← tally? "ignored_doc_headers"
    unexpectedSnippets := ← count? "unexpected_snippets"
    arguments := ← count? "total_arguments_from_docs"
    ambiguousSections := ← count? "nested_arg_sections_multiple_matches"
    unmatchedBlocks := ← count? "nested_args_with_no_previous_match"
    elidedArguments := ← count? "elided_arguments"
    elidedAttributes := ← count? "elided_attributes"
    elidedDescriptions := ← count? "elided_descriptions"
    elidedProse := ← count? "elided_descriptions_only"
    missingDocs := ← count? "entities_missing_docs"
    failedExamples := ← count? "hcl_all_langs_conversion_failures"
    partialFailures := ← tally? "hcl_partial_conversion_failures"
    warnings := ← count? "warnings" }

end Stats

end ProviderDocs
