import ProviderDocs.Cleanup.Prose
import ProviderDocs.Doc.Basic
import ProviderDocs.Stats.Basic

/-!
# Cleaning up documentation records

Every text of a record is cleaned up, and every text that is lost is counted. A description
that has to be elided keeps its examples when they stand in one section of their own.
-/

namespace ProviderDocs.Cleanup

/-- The examples of a description, when it has exactly one example section. -/
def examplesOf? (description : String) : Option String :=
  let separator := "## Example Usage".toList
  let text := description.toList
  if Text.count separator text = 1 then
    (Text.splitAt? separator text).map fun (_, rest) ↦ String.ofList (separator ++ rest)
  else none

/-- The text after cleanup, empty when elided, and whether it was. -/
def cleanField (context : Context) (text : String) : String × Bool :=
  match cleanText? context text with
  | some cleaned => (cleaned, false)
  | none => ("", true)

/-- Counts as one what is elided. -/
def elisions (isElided : Bool) : Nat := if isElided then 1 else 0

def total (counts : List Nat) : Nat := counts.foldr (· + ·) 0

def cleanDict (context : Context) (texts : Dict String) : Dict String × Nat :=
  (texts.map fun _ text ↦ (cleanField context text).1,
    total (texts.entries.map fun entry ↦ elisions (cleanField context entry.2).2))

/-- An argument after cleanup, and how many of its texts are elided. -/
def cleanArgument (context : Context) (argument : ArgumentDoc) : ArgumentDoc × Nat :=
  let (description, isElided) := cleanField context argument.description
  let (nested, count) := cleanDict context argument.nested
  (⟨description, nested, argument.isNested⟩, elisions isElided + count)

inductive DescriptionOutcome where
  | kept (text : String)
  | examplesKept (text : String)
  | elided

def cleanDescription (context : Context) (description : String) : DescriptionOutcome :=
  match cleanText? context description with
  | some text => .kept text
  | none =>
    match (examplesOf? description).bind (cleanText? context) with
    | some text => .examplesKept text
    | none => .elided

def DescriptionOutcome.text : DescriptionOutcome → String
  | kept text | examplesKept text => text
  | elided => ""

def DescriptionOutcome.record (outcome : DescriptionOutcome) (stats : Stats) : Stats :=
  match outcome with
  | kept _ => stats
  | examplesKept _ => { stats with elidedProse := stats.elidedProse + 1 }.warn
  | elided => { stats with elidedDescriptions := stats.elidedDescriptions + 1 }.warn

structure CleanedDoc where
  doc : EntityDoc
  stats : Stats
  /-- Some text is lost; prose dropped beside its examples does not count. -/
  elided : Bool

/-- Cleans up a record and adds what is lost to the statistics. -/
def cleanDoc (context : Context) (doc : EntityDoc) (stats : Stats) : CleanedDoc :=
  let arguments := doc.arguments.entries.map fun entry ↦ (cleanArgument context entry.2).2
  let (attributes, lostAttributes) := cleanDict context doc.attributes
  let lostArguments := total arguments
  let outcome := cleanDescription context doc.description
  let counted := { stats with
    elidedArguments := stats.elidedArguments + lostArguments
    elidedAttributes := stats.elidedAttributes + lostAttributes
    warnings := stats.warnings + lostArguments + lostAttributes }
  { doc := {
      description := outcome.text
      arguments := doc.arguments.map fun _ argument ↦ (cleanArgument context argument).1
      attributes := attributes
      importText := doc.importText }
    stats := outcome.record counted
    elided := lostArguments + lostAttributes != 0 || outcome matches .elided }

end ProviderDocs.Cleanup
