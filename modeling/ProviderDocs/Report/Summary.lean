import ProviderDocs.Stats.Basic

/-!
# The summary of a run

The counters of a run for a reader. Sections without entries are left out.
-/

namespace ProviderDocs.Report

def metrics (stats : Stats) : String :=
  s!"General metrics:
  {stats.arguments} total arguments documented
  {stats.missingDocs} entities missing docs
  {stats.unexpectedSnippets} unexpected code snippets
  {stats.ambiguousSections} nested argument sections with multiple matches
  {stats.unmatchedBlocks} nested argument sections with no known argument
  {stats.warnings} warnings

Elided text:
  {stats.elidedDescriptions} descriptions ({stats.elidedProse} keeping their examples)
  {stats.elidedArguments} arguments
  {stats.elidedAttributes} attributes
"

def ignoredSections (headers : Tally) : String :=
  if headers.isEmpty then ""
  else
    "\nIgnored sections:\n" ++
      String.join (headers.entries.map fun entry ↦ s!"  {entry.2} \"{entry.1}\"\n")

def conversions (stats : Stats) : String :=
  s!"\nExample conversion:\n  {stats.failedExamples} examples failed for every language\n" ++
    String.join (stats.partialFailures.entries.map fun entry ↦
      s!"  {entry.2} examples failed for {entry.1}\n")

/-- The number of nested types is told when they were gathered. -/
def summary (stats : Stats) (typeCount : Option Nat) : String :=
  metrics stats ++ ignoredSections stats.ignoredHeaders ++ conversions stats ++
    match typeCount with
    | some count => s!"\n{count} nested types declared\n"
    | none => ""

end ProviderDocs.Report
