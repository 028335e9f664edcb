import ProviderDocs.Cleanup.Record
import ProviderDocs.Proofs.Dict

/-!
# Texts lost by cleanup

Cleanup changes the texts of a record in their places and nothing else about it. Each text that it
gives up is counted once, under the kind of place where the text stood, and warned about once.
-/

namespace ProviderDocs

namespace Cleanup

/-- The cleanup of a record is that of its texts. -/
theorem cleanDoc_congr {context other : Context} (h : cleanText? context = cleanText? other) :
    cleanDoc context = cleanDoc other := by
  funext doc stats
  simp only [cleanDoc, cleanDict, cleanArgument, cleanDescription, cleanField, h]

variable (context : Context)

/-- What a text becomes; nothing is left of one that is given up. -/
def textAfter (text : String) : String := (cleanText? context text).getD ""

/-- How many of the texts are given up. -/
def losses (texts : List String) : Nat := texts.countP fun text ↦ (cleanText? context text).isNone

/-- The texts of the arguments, each with those of its nested fields. -/
def argumentTexts (doc : EntityDoc) : List String :=
  doc.arguments.values.flatMap fun argument ↦ argument.description :: argument.nested.values

/-! ## Counting -/

theorem cleanField_eq (text : String) :
    cleanField context text = (textAfter context text, (cleanText? context text).isNone) := by
  unfold cleanField textAfter
  cases cleanText? context text <;> rfl

theorem elisions_add_losses (text : String) (texts : List String) :
    elisions (cleanText? context text).isNone + losses context texts =
      losses context (text :: texts) := by
  rw [losses, losses, List.countP_cons, Nat.add_comm]
  rfl

theorem losses_append (texts more : List String) :
    losses context (texts ++ more) = losses context texts + losses context more :=
  List.countP_append

theorem cleanDict_eq (texts : Dict String) :
    cleanDict context texts =
      (texts.map fun _ text ↦ textAfter context text, losses context texts.values) := by
  simp only [cleanDict, cleanField_eq, Prod.mk.injEq, true_and, Dict.values]
  induction texts.entries with
  | nil => rfl
  | cons entry rest ih =>
    rw [List.map_cons, List.map_cons, ← elisions_add_losses, ← ih]
    rfl

/-- An argument as cleanup leaves it. -/
def argumentAfter (argument : ArgumentDoc) : ArgumentDoc :=
  ⟨textAfter context argument.description,
    argument.nested.map fun _ text ↦ textAfter context text, argument.isNested⟩

theorem cleanArgument_eq (argument : ArgumentDoc) :
    cleanArgument context argument =
      (argumentAfter context argument,
        losses context (argument.description :: argument.nested.values)) := by
  rw [← elisions_add_losses]
  simp only [cleanArgument, cleanField_eq, cleanDict_eq]
  rfl

theorem total_cleanArgument (doc : EntityDoc) :
    total (doc.arguments.entries.map fun entry ↦ (cleanArgument context entry.2).2) =
      losses context (argumentTexts doc) := by
  simp only [cleanArgument_eq, argumentTexts, Dict.values]
  induction doc.arguments.entries with
  | nil => rfl
  | cons entry rest ih =>
    rw [List.map_cons, List.map_cons, List.flatMap_cons, losses_append, ← ih]
    rfl

/-! ## The description -/

/-- What becomes of a description, and how often its prose alone and all of it are given up. -/
inductive DescribesAfter (before : String) : String → Nat → Nat → Prop where
  | kept {after : String} (h : cleanText? context before = some after) :
    DescribesAfter before after 0 0
  | examplesKept {examples after : String} (h : cleanText? context before = none)
    (hexamples : examplesOf? before = some examples)
    (hkept : cleanText? context examples = some after) : DescribesAfter before after 1 0
  | lost (h : cleanText? context before = none)
    (hlost : ∀ examples, examplesOf? before = some examples → cleanText? context examples = none) :
    DescribesAfter before "" 0 1

theorem exists_describesAfter (description : String) :
    ∃ prose whole,
      DescribesAfter context description (cleanDescription context description).text prose whole ∧
      ∀ stats, (cleanDescription context description).record stats =
        { stats with
          elidedProse := stats.elidedProse + prose
          elidedDescriptions := stats.elidedDescriptions + whole
          warnings := stats.warnings + prose + whole } := by
  unfold cleanDescription
  cases htext : cleanText? context description with
  | some text => exact ⟨0, 0, .kept htext, fun _ ↦ rfl⟩
  | none =>
    cases hexamples : (examplesOf? description).bind (cleanText? context) with
    | some text =>
      obtain ⟨examples, hfound, hkept⟩ := Option.bind_eq_some_iff.mp hexamples
      exact ⟨1, 0, .examplesKept htext hfound hkept, fun _ ↦ rfl⟩
    | none => exact ⟨0, 1, .lost htext (Option.bind_eq_none_iff.mp hexamples), fun _ ↦ rfl⟩

/-! ## Records -/

/-- The same record with its arguments, attributes and nested fields cleaned up in their places. -/
structure KeepsPlaces (before after : EntityDoc) : Prop where
  argumentNames : after.arguments.keys = before.arguments.keys
  attributeNames : after.attributes.keys = before.attributes.keys
  importText : after.importText = before.importText
  arguments : ∀ name argument, before.arguments.get? name = some argument →
    ∃ cleaned, after.arguments.get? name = some cleaned ∧
      cleaned.isNested = argument.isNested ∧
      cleaned.description = textAfter context argument.description ∧
      cleaned.nested.keys = argument.nested.keys ∧
      ∀ field text, argument.nested.get? field = some text →
        cleaned.nested.get? field = some (textAfter context text)
  attributes : ∀ name text, before.attributes.get? name = some text →
    after.attributes.get? name = some (textAfter context text)

theorem keepsPlaces_cleanDoc (doc : EntityDoc) (stats : Stats) :
    KeepsPlaces context doc (cleanDoc context doc stats).doc := by
  have hattributes : (cleanDoc context doc stats).doc.attributes =
      doc.attributes.map fun _ text ↦ textAfter context text := by
    simp only [cleanDoc, cleanDict_eq]
  have harguments : (cleanDoc context doc stats).doc.arguments =
      doc.arguments.map fun _ argument ↦ argumentAfter context argument := by
    simp only [cleanDoc, cleanArgument_eq]
  refine ⟨?_, ?_, rfl, fun name argument h ↦ ?_, fun name text h ↦ ?_⟩
  · rw [harguments, Dict.keys_map]
  · rw [hattributes, Dict.keys_map]
  · refine ⟨argumentAfter context argument, ?_, rfl, rfl, Dict.keys_map ..,
      fun field text hfield ↦ ?_⟩
    · rw [harguments, Dict.get?_map, h, Option.map_some]
    · rw [argumentAfter, Dict.get?_map, hfield, Option.map_some]
  · rw [hattributes, Dict.get?_map, h, Option.map_some]

/--
Cleanup keeps the names, the flags and the import of a record and cleans up each of its texts. Every
text that is given up is counted in its own counter and as one warning, and no other counter
changes.
-/
theorem keepsPlaces_and_counts_cleanDoc (doc : EntityDoc) (stats : Stats) :
    KeepsPlaces context doc (cleanDoc context doc stats).doc ∧
    ∃ prose whole,
      DescribesAfter context doc.description (cleanDoc context doc stats).doc.description
        prose whole ∧
      (cleanDoc context doc stats).stats =
        { stats with
          elidedArguments := stats.elidedArguments + losses context (argumentTexts doc)
          elidedAttributes := stats.elidedAttributes + losses context doc.attributes.values
          elidedProse := stats.elidedProse + prose
          elidedDescriptions := stats.elidedDescriptions + whole
          warnings := stats.warnings + (losses context (argumentTexts doc) +
            losses context doc.attributes.values + prose + whole) } := by
  refine ⟨keepsPlaces_cleanDoc context doc stats, ?_⟩
  obtain ⟨prose, whole, hdescribes, hrecord⟩ := exists_describesAfter context doc.description
  refine ⟨prose, whole, hdescribes, ?_⟩
  simp only [cleanDoc, total_cleanArgument, cleanDict_eq, hrecord, Nat.add_assoc]

end Cleanup

end ProviderDocs
