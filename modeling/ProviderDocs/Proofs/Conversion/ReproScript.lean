import ProviderDocs.Conversion.Bisection
import ProviderDocs.Proofs.Shell.Words

/-!
# The script of a reproduction

The last line of the script is the call that failed, its arguments with blanks between them and
without quotes. The shell reads the same arguments there if and only if each is a plain word. Those
with fixed texts are, so it depends on the paths.
-/

namespace ProviderDocs

namespace Batch

open Shell

/-- The lines of the script before its last. -/
def reproHead : Bytes := Bytes.ofText "#!/usr/bin/env bash\nset -euo pipefail\n"

theorem ofText_reproHead_append :
    Bytes.ofText "#!/usr/bin/env bash\nset -euo pipefail\n\npulumi " =
      reproHead ++ '\n' :: (Bytes.ofText "pulumi" ++ [' ']) := by
  decide +kernel

theorem ofText_reproScript (first : String) (rest : List String) :
    Bytes.ofText (reproScript (first :: rest)) = reproHead ++ '\n' ::
      ((Bytes.ofText "pulumi" ++ spaced ((first :: rest).map Bytes.ofText)) ++ ['\n']) := by
  have hfeed : Bytes.ofText "\n" = ['\n'] := by rw [Bytes.ofText_eq_flatMap]; decide
  calc Bytes.ofText (reproScript (first :: rest))
    _ = Bytes.ofText "#!/usr/bin/env bash\nset -euo pipefail\n\npulumi " ++
          Bytes.ofText (" ".intercalate (first :: rest)) ++ Bytes.ofText "\n" :=
      (Bytes.ofText_append _ _).trans (congrArg (· ++ _) (Bytes.ofText_append _ _))
    _ = reproHead ++ '\n' :: (Bytes.ofText "pulumi" ++ [' ']) ++
          (Bytes.ofText first ++ spaced (rest.map Bytes.ofText)) ++ ['\n'] := by
      rw [ofText_reproHead_append, ofText_intercalate_cons, hfeed]
    _ = _ := by
      rw [List.map_cons, spaced_cons]
      simp only [List.append_assoc, List.cons_append, List.nil_append]

/-- The shell reads the last line of the script as the call that it is to repeat. -/
def RepeatsCall (arguments : List String) : Prop :=
  words? (Bytes.lastLine (Bytes.ofText (reproScript arguments))) =
    some (("pulumi" :: arguments).map Bytes.ofText)

instance (arguments : List String) : Decidable (RepeatsCall arguments) :=
  inferInstanceAs (Decidable (_ = _))

/-- The argument stands for itself in a command line. -/
def IsPlain (argument : String) : Prop := Parser.isPlainWord (Bytes.ofText argument) = true

instance (argument : String) : Decidable (IsPlain argument) :=
  inferInstanceAs (Decidable (_ = _))

theorem repeatsCall_iff {arguments : List String} (hne : arguments ≠ [])
    (hlines : ∀ argument ∈ arguments, '\n' ∉ argument.toList) :
    RepeatsCall arguments ↔ ∀ argument ∈ arguments, IsPlain argument := by
  obtain ⟨first, rest, rfl⟩ := List.exists_cons_of_ne_nil hne
  have hline : '\n' ∉ Bytes.ofText "pulumi" ++
      spaced ((first :: rest).map Bytes.ofText) := by
    refine List.not_mem_append (by decide +kernel) (lineFeed_notMem_spaced ?_)
    exact List.forall_mem_map.2 fun argument hargument hmem ↦
      hlines argument hargument (Bytes.lineFeed_mem_ofText_iff.1 hmem)
  rw [RepeatsCall, ofText_reproScript, Bytes.lastLine_append hline,
    List.map_cons (l := first :: rest), words?_spaced_iff (by decide +kernel) (by decide +kernel),
    List.forall_mem_map]
  rfl

/-! ## The arguments of a call -/

/-- The arguments with texts of their own. -/
def fixedArguments : List String :=
  ["convert", "--from", "terraform", "--language", "pcl", "--out", "--generate-only",
    "--mappings", "--", "--convert-examples"]

theorem arguments_ne_nil (outputDirectory : String) (mappingFiles : List String)
    (examplesName : String) : arguments outputDirectory mappingFiles examplesName ≠ [] :=
  List.cons_ne_nil _ _

theorem forall_mem_arguments_iff {P : String → Prop}
    (hfixed : ∀ argument ∈ fixedArguments, P argument) (outputDirectory : String)
    (mappingFiles : List String) (examplesName : String) :
    (∀ argument ∈ arguments outputDirectory mappingFiles examplesName, P argument) ↔
      P outputDirectory ∧ (∀ file ∈ mappingFiles, P file) ∧ P examplesName := by
  simp only [fixedArguments, List.forall_mem_cons] at hfixed
  simp only [arguments, List.forall_mem_append, List.forall_mem_cons, List.forall_mem_flatMap,
    List.not_mem_nil, false_implies, implies_true, hfixed, true_and, and_true, and_assoc]

/--
The script repeats the call exactly when the output directory, the mapping files and the examples
file have names that are plain words. Nothing in the script is quoted, so a blank, a quote or
another sign of the shell in one of them makes it a different call.
-/
theorem repeatsCall_arguments_iff {outputDirectory examplesName : String}
    {mappingFiles : List String} (houtput : '\n' ∉ outputDirectory.toList)
    (hmappings : ∀ file ∈ mappingFiles, '\n' ∉ file.toList)
    (hexamples : '\n' ∉ examplesName.toList) :
    RepeatsCall (arguments outputDirectory mappingFiles examplesName) ↔
      IsPlain outputDirectory ∧ (∀ file ∈ mappingFiles, IsPlain file) ∧ IsPlain examplesName := by
  have hlines := (forall_mem_arguments_iff (P := ('\n' ∉ ·.toList)) (by decide) outputDirectory
    mappingFiles examplesName).2 ⟨houtput, hmappings, hexamples⟩
  rw [repeatsCall_iff (arguments_ne_nil _ _ _) hlines, forall_mem_arguments_iff (by decide +kernel)]

theorem repeatsCall_arguments_iff_azure :
    '\n' ∉ "/tmp/convert-0".toList ∧ (∀ file ∈ ["/tmp/convert-0/mappings/azurerm.json"],
        '\n' ∉ file.toList) ∧ '\n' ∉ "examples.json".toList ∧
      RepeatsCall (arguments "/tmp/convert-0" ["/tmp/convert-0/mappings/azurerm.json"]
        "examples.json") := by
  have houtput : '\n' ∉ "/tmp/convert-0".toList := by decide
  have hmappings : ∀ file ∈ ["/tmp/convert-0/mappings/azurerm.json"], '\n' ∉ file.toList := by
    decide
  have hexamples : '\n' ∉ "examples.json".toList := by decide
  exact ⟨houtput, hmappings, hexamples,
    (repeatsCall_arguments_iff houtput hmappings hexamples).2 (by decide +kernel)⟩

/-- A mapping named after a prefix with a blank is read as two arguments. -/
theorem not_repeatsCall_blankPrefix :
    ¬ ∀ (outputDirectory : String) (mappingFiles : List String) (examplesName : String),
      '\n' ∉ outputDirectory.toList → (∀ file ∈ mappingFiles, '\n' ∉ file.toList) →
        '\n' ∉ examplesName.toList →
          RepeatsCall (arguments outputDirectory mappingFiles examplesName) := by
  intro h
  have hcall := h "/tmp/convert-0" ["/tmp/convert-0/mappings/my provider.json"] "examples.json"
    (by decide) (by decide) (by decide)
  exact absurd hcall (by decide +kernel)

end Batch

end ProviderDocs
