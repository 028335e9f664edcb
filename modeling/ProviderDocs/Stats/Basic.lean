import ProviderDocs.Dict

/-!
# Run statistics

Every parse and every conversion counts what it met; the counts of several runs are added
up.
-/

namespace ProviderDocs

/-- How often each key was seen. -/
abbrev Tally := Dict Nat

namespace Tally

def add (tally : Tally) (key : String) (count : Nat) : Tally :=
  tally.insert key ((tally.get? key).getD 0 + count)

def merge (a b : Tally) : Tally :=
  b.entries.foldl (fun sum entry ↦ add sum entry.1 entry.2) a

end Tally

structure Stats where
  /-- Skipped headings. -/
  ignoredHeaders : Tally
  /-- Code blocks outside example and import sections. -/
  unexpectedSnippets : Nat
  /-- Top-level arguments read from bullets. -/
  arguments : Nat
  /-- Sections whose title names several known arguments. -/
  ambiguousSections : Nat
  /-- Introductions of nested blocks of no known argument. -/
  unmatchedBlocks : Nat
  elidedArguments : Nat
  elidedAttributes : Nat
  elidedDescriptions : Nat
  /-- Descriptions dropped while their examples were kept. -/
  elidedProse : Nat
  /-- Entities without a document. -/
  missingDocs : Nat
  /-- Examples that converted to none of the requested languages. -/
  failedExamples : Nat
  /-- Examples that converted to some requested languages, by the languages that failed. -/
  partialFailures : Tally
  warnings : Nat
  deriving DecidableEq

namespace Stats

def zero : Stats := ⟨∅, 0, 0, 0, 0, 0, 0, 0, 0, 0, 0, ∅, 0⟩

instance : Inhabited Stats := ⟨zero⟩

def merge (a b : Stats) : Stats where
  ignoredHeaders := a.ignoredHeaders.merge b.ignoredHeaders
  unexpectedSnippets := a.unexpectedSnippets + b.unexpectedSnippets
  arguments := a.arguments + b.arguments
  ambiguousSections := a.ambiguousSections + b.ambiguousSections
  unmatchedBlocks := a.unmatchedBlocks + b.unmatchedBlocks
  elidedArguments := a.elidedArguments + b.elidedArguments
  elidedAttributes := a.elidedAttributes + b.elidedAttributes
  elidedDescriptions := a.elidedDescriptions + b.elidedDescriptions
  elidedProse := a.elidedProse + b.elidedProse
  missingDocs := a.missingDocs + b.missingDocs
  failedExamples := a.failedExamples + b.failedExamples
  partialFailures := a.partialFailures.merge b.partialFailures
  warnings := a.warnings + b.warnings

def sum (list : List Stats) : Stats := list.foldl merge zero

def countIgnored (stats : Stats) (header : String) : Stats :=
  { stats with ignoredHeaders := stats.ignoredHeaders.add header 1 }

def partialFailure (stats : Stats) (language : String) : Stats :=
  { stats with partialFailures := stats.partialFailures.add language 1 }

def warn (stats : Stats) : Stats := { stats with warnings := stats.warnings + 1 }

end Stats

end ProviderDocs
