import ProviderDocs.Proofs.Markdown.ArgumentScan

/-!
# Text below a skipped bullet

Outside of nested blocks a bullet that ends with "supports the following:" is skipped. The lines of
text right below it are dropped with a warning each, as long as there is no argument of its name. If
there is one, they go on with the text of that argument, and nothing is counted.
-/

namespace ProviderDocs

namespace Stats

def warnTimes (stats : Stats) (count : Nat) : Stats :=
  { stats with warnings := stats.warnings + count }

theorem warnTimes_warn (stats : Stats) (count : Nat) :
    stats.warn.warnTimes count = stats.warnTimes (count + 1) := by
  simp only [warn, warnTimes, Nat.add_assoc, Nat.add_comm 1]

end Stats

namespace EntityDoc

/-- The description of an argument goes on with some more lines. -/
def continueArgument (doc : EntityDoc) (name : String) (lines : List String) : EntityDoc :=
  doc.updateArgument name fun argument ↦
    { argument with description := lines.foldl Markdown.appendLine argument.description }

theorem contains_continueArgument (doc : EntityDoc) (name : String) (lines : List String) :
    (doc.continueArgument name lines).arguments.contains name = true := by
  rw [continueArgument, updateArgument, Dict.contains_insert]
  exact .inl rfl

/-- Entering an argument again as it is changes nothing. -/
theorem continueArgument_nil {doc : EntityDoc} {name : String}
    (h : doc.arguments.contains name = true) : doc.continueArgument name [] = doc := by
  obtain ⟨argument, hargument⟩ := Option.isSome_iff_exists.mp h
  have hsame : doc.arguments.insert name argument = doc.arguments := by
    apply Dict.ext_get?
    intro other
    rw [Dict.get?_insert]
    split
    case isTrue hother => rw [hother, hargument]
    case isFalse => rfl
  simp only [continueArgument, updateArgument, EntityDoc.argument, hargument, Option.getD_some,
    List.foldl_nil, hsame]

theorem continueArgument_cons (doc : EntityDoc) (name line : String) (rest : List String) :
    (doc.continueArgument name [line]).continueArgument name rest =
      doc.continueArgument name (line :: rest) := by
  simp only [continueArgument, updateArgument, EntityDoc.argument, Dict.get?_insert_self,
    Option.getD_some, Dict.insert_insert, List.foldl_cons, List.foldl_nil]

end EntityDoc

namespace Markdown

namespace ArgumentScan

/-! ## Lines below a bullet -/

section Below

variable (scan : ArgumentScan) {last : String} (hparent : scan.parent = none)

include hparent

/-- Without an argument to go on with, every line is a warning. -/
theorem foldl_continuation_dropped (hlast : scan.doc.arguments.contains last = false)
    (below : List String) :
    below.foldl (fun scan line ↦ scan.continuation last line) scan =
      { scan with stats := scan.stats.warnTimes below.length } := by
  induction below generalizing scan with
  | nil => rfl
  | cons line rest ih =>
    have hline : scan.continuation last line = { scan with stats := scan.stats.warn } := by
      simp only [continuation, hparent, continueTopLevel, hlast, Bool.false_eq_true, if_false]
    rw [List.foldl_cons, hline, List.length_cons, ← Stats.warnTimes_warn]
    exact ih _ hparent hlast

/-- Every line goes on with an argument that is there. -/
theorem foldl_continuation_kept (hlast : scan.doc.arguments.contains last = true)
    (below : List String) :
    below.foldl (fun scan line ↦ scan.continuation last line) scan =
      { scan with doc := scan.doc.continueArgument last below } := by
  induction below generalizing scan with
  | nil => rw [List.foldl_nil, EntityDoc.continueArgument_nil hlast]
  | cons line rest ih =>
    have hline : scan.continuation last line =
        { scan with doc := scan.doc.continueArgument last [line] } := by
      simp only [continuation, hparent, continueTopLevel, hlast, if_true,
        EntityDoc.continueArgument, List.foldl_cons, List.foldl_nil]
    rw [List.foldl_cons, hline, ← EntityDoc.continueArgument_cons scan.doc last line rest]
    exact ih { scan with doc := scan.doc.continueArgument last [line] } hparent
      (EntityDoc.contains_continueArgument ..)

end Below

/-! ## Skipped bullets -/

/-- Reading leaves the arguments as they are and counts some more warnings. -/
structure OnlyWarns (scan after : ArgumentScan) (count : Nat) : Prop where
  arguments : after.doc.arguments = scan.doc.arguments
  warnings : after.stats.warnings = scan.stats.warnings + count

section Skipped

variable {scan : ArgumentScan} (hparent : scan.parent = none) {line : String}
  {name description : List Char}
  (hbullet : argumentBullet? line.toList = some (name, description))
  (hskipped : endsWith (trimmedEnd line) introEnding = true)

include hparent hbullet hskipped

/-- Of a skipped bullet only the name is kept. -/
theorem step_skipped :
    scan.step (Line.ofArguments line) = { scan with last := some (String.ofList name) } := by
  simp only [Line.ofArguments_of_bullet hbullet, hskipped, step, ArgumentScan.bullet, hparent,
    if_true]

theorem foldl_step_skipped {below : List String}
    (hbelow : ∀ other ∈ below, isItemText other = true) :
    ((line :: below).map Line.ofArguments).foldl step scan =
      (below.map trimmed).foldl (fun scan line ↦ scan.continuation (String.ofList name) line)
        { scan with last := some (String.ofList name) } := by
  rw [List.map_cons, List.foldl_cons, step_skipped hparent hbullet hskipped]
  exact foldl_itemTexts rfl hbelow

end Skipped

/-- The text below a bullet that is skipped outside of nested blocks is dropped with a warning for
each line exactly when there is no argument of the bullet's name. Otherwise it goes on with the text
of that argument. -/
theorem onlyWarns_foldl_step_iff {scan : ArgumentScan} (hparent : scan.parent = none)
    {line : String} {name description : List Char}
    (hbullet : argumentBullet? line.toList = some (name, description))
    (hskipped : endsWith (trimmedEnd line) introEnding = true) {below : List String}
    (hbelow : ∀ other ∈ below, isItemText other = true) :
    (OnlyWarns scan (((line :: below).map Line.ofArguments).foldl step scan) below.length ↔
      below = [] ∨ scan.doc.arguments.contains (String.ofList name) = false) ∧
    (scan.doc.arguments.contains (String.ofList name) = true →
      ((line :: below).map Line.ofArguments).foldl step scan =
        { scan with
          doc := scan.doc.continueArgument (String.ofList name) (below.map trimmed)
          last := some (String.ofList name) }) := by
  rw [foldl_step_skipped hparent hbullet hskipped hbelow]
  cases hlast : scan.doc.arguments.contains (String.ofList name) with
  | false =>
    rw [foldl_continuation_dropped { scan with last := some (String.ofList name) } hparent hlast,
      List.length_map]
    exact ⟨iff_of_true ⟨rfl, rfl⟩ (.inr rfl), nofun⟩
  | true =>
    rw [foldl_continuation_kept { scan with last := some (String.ofList name) } hparent hlast]
    refine ⟨⟨fun honly ↦ .inl ?_, ?_⟩, fun _ ↦ rfl⟩
    · -- No warning is counted, so there are no lines to count.
      have hcount : scan.stats.warnings = scan.stats.warnings + below.length := honly.warnings
      exact List.length_eq_zero_iff.mp (by omega)
    · rintro (rfl | hmissing)
      · exact ⟨congrArg EntityDoc.arguments (EntityDoc.continueArgument_nil hlast), rfl⟩
      · cases hmissing

/-- A bullet that only introduces a block, and text below it. -/
def loggingLines : List String :=
  ["* `logging` - Logging, which supports the following:", "  the settings apply in order."]

theorem onlyWarns_foldl_step_iff_loggingLines :
    ∃ name description,
      argumentBullet? "* `logging` - Logging, which supports the following:".toList =
          some (name, description) ∧
        endsWith (trimmedEnd "* `logging` - Logging, which supports the following:")
          introEnding = true ∧
        (∀ other ∈ ["  the settings apply in order."], isItemText other = true) ∧
        OnlyWarns ⟨.empty, .zero, none, none⟩
          ((loggingLines.map Line.ofArguments).foldl step ⟨.empty, .zero, none, none⟩) 1 := by
  have hbullet : argumentBullet? "* `logging` - Logging, which supports the following:".toList =
      some ("logging".toList, "Logging, which supports the following:".toList) := by
    decide +kernel
  have hskipped : endsWith (trimmedEnd "* `logging` - Logging, which supports the following:")
      introEnding = true := by
    decide +kernel
  have hbelow : ∀ other ∈ ["  the settings apply in order."], isItemText other = true := by
    decide +kernel
  exact ⟨_, _, hbullet, hskipped, hbelow,
    (onlyWarns_foldl_step_iff rfl hbullet hskipped hbelow).1.mpr (.inr rfl)⟩

/-- The text below a skipped bullet may go on with another bullet's argument. -/
theorem not_onlyWarns_foldl_step :
    ¬ ∀ (scan : ArgumentScan) (line : String) (below : List String), scan.parent = none →
      (argumentBullet? line.toList).isSome = true →
        endsWith (trimmedEnd line) introEnding = true →
          (∀ other ∈ below, isItemText other = true) →
            OnlyWarns scan (((line :: below).map Line.ofArguments).foldl step scan)
              below.length := by
  intro hall
  have honly := hall ⟨addTopLevel .empty "logging" "Logging.", .zero, none, none⟩
    "* `logging` - Logging, which supports the following:" ["  the settings apply in order."] rfl
    (by decide +kernel) (by decide +kernel) (by decide +kernel)
  exact absurd honly.warnings (by decide +kernel)

end ArgumentScan

end Markdown

end ProviderDocs
