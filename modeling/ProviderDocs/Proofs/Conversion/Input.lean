import ProviderDocs.Conversion.Batch
import ProviderDocs.Proofs.FileTree.Action
import ProviderDocs.Proofs.Provider.Json

/-!
# The input of a batch

Writing the input of a call writes the examples first and each mapping after them, to a file
named after its prefix in the directory of mappings.
-/

namespace ProviderDocs

namespace Batch

open FileAction

/-- The mapping files below a directory with their texts, in the order in which they are written. -/
def mappingTexts (outputDirectory : String) (mappings : List Provider) : List (String × String) :=
  mappings.map fun provider ↦
    (mappingFile (Path.join outputDirectory "mappings") provider, provider.toJson.compact)

theorem runs_writeMappings {outputDirectory : String} {mappings : List Provider}
    {tree later : FileTree} {files : List String}
    (h : Runs (writeMappings outputDirectory mappings) tree files later) :
    files = mappings.map (mappingFile (Path.join outputDirectory "mappings")) ∧
      ∃ prepared, tree.Extends prepared ∧
        prepared.writeAll (mappingTexts outputDirectory mappings) = .ok later := by
  have hloop : ∀ prepared, tree.Extends prepared →
      Runs (do
        for provider in mappings do
          .change (·.writeText (mappingFile (Path.join outputDirectory "mappings") provider)
            provider.toJson.compact)
        pure (mappings.map (mappingFile (Path.join outputDirectory "mappings")))) prepared files
        later →
      files = mappings.map (mappingFile (Path.join outputDirectory "mappings")) ∧
      ∃ prepared, tree.Extends prepared ∧
        prepared.writeAll (mappingTexts outputDirectory mappings) = .ok later := by
    intro prepared hprepared hrun
    simp only [runs_bind_iff, runs_pure_iff, runs_forIn_writeText_iff] at hrun
    obtain ⟨-, last, hwrite, rfl, rfl⟩ := hrun
    exact ⟨rfl, prepared, hprepared, hwrite⟩
  unfold writeMappings at h
  dsimp only at h
  split at h
  case isTrue => exact hloop tree (.refl _) h
  case isFalse =>
    rw [runs_bind_iff] at h
    obtain ⟨_, prepared, hmake, hrun⟩ := h
    rw [runs_change_iff] at hmake
    exact hloop prepared (FileTree.makeDirectories_extends hmake) hrun

theorem runs_writeInput {outputDirectory examplesPath : String} {examples : Examples}
    {mappings : List Provider} {tree later : FileTree} {result : List String}
    (h : Runs (writeInput outputDirectory examplesPath examples mappings) tree result later) :
    result = arguments outputDirectory
        (mappings.map (mappingFile (Path.join outputDirectory "mappings")))
        ((Path.fileName? examplesPath).getD examplesFile) ∧
      ∃ written prepared,
        tree.writeText examplesPath (Examples.toJson examples).compact = .ok written ∧
        written.Extends prepared ∧
        prepared.writeAll (mappingTexts outputDirectory mappings) = .ok later := by
  unfold writeInput at h
  simp only [runs_bind_iff, runs_pure_iff, runs_change_iff] at h
  obtain ⟨-, written, hwrite, files, last, hmappings, rfl, rfl⟩ := h
  obtain ⟨rfl, prepared, hprepared, hall⟩ := runs_writeMappings hmappings
  exact ⟨rfl, written, prepared, hwrite, hprepared, hall⟩

/-- A file that holds examples, or else a mapping in their place, tells which of them it holds. -/
theorem exists_parseTexts?_iff {tree : FileTree} {path : String} {examples : Examples}
    {mappings : List Provider} {isHere : Provider → Prop}
    (h : (tree.readText path = .ok (Examples.toJson examples).compact ∧
        ∀ provider ∈ mappings, ¬ isHere provider) ∨
      ∃ provider ∈ mappings, isHere provider ∧
        tree.readText path = .ok provider.toJson.compact) :
    ∃ text, tree.readText path = .ok text ∧
      (Json.parseTexts? text = some examples ↔ ∀ provider ∈ mappings, ¬ isHere provider) := by
  rcases h with ⟨hread, hnone⟩ | ⟨provider, hprovider, hhere, hread⟩
  · exact ⟨_, hread, iff_of_true (Json.parseTexts?_compact_ofDict examples) hnone⟩
  · refine ⟨_, hread, ?_⟩
    rw [provider.parseTexts?_toJson]
    exact iff_of_false (fun h ↦ nomatch h) fun h ↦ h provider hprovider hhere

end Batch

end ProviderDocs
