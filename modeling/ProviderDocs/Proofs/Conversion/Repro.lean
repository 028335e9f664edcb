import ProviderDocs.Conversion.Bisection
import ProviderDocs.Proofs.Conversion.Input
import ProviderDocs.Proofs.Provider.Json

/-!
# What a reproduction holds

A reproduction is written to a new directory: first the examples file, then the mappings, one
file for each example and the script. The files of the examples and the script have endings of
their own, so only a mapping can take the place of the examples file. It does when its name
leads out of the directory of mappings to that file.
-/

namespace ProviderDocs

namespace Batch

open FileAction

/-! ## The directory -/

def reproPrefix : String := "convert-examples-repro"

/-- The files that a reproduction has besides the examples file, with their texts. -/
def reproTexts (directory : String) (examples : Examples) (mappings : List Provider)
    (script : String) : List (String × String) :=
  mappingTexts directory mappings ++
    examples.entries.map (fun entry ↦ (Path.join directory (entry.1 ++ ".tf"), entry.2)) ++
      [(Path.join directory "repro.sh", script)]

theorem runs_writeRepro {examples : Examples} {mappings : List Provider} {tree later : FileTree}
    {directory : String} (h : Runs (writeRepro examples mappings) tree directory later) :
    ∃ made written prepared script,
      tree.makeTemporary reproPrefix = .ok (directory, made) ∧
      made.writeText (Path.join directory examplesFile) (Examples.toJson examples).compact =
        .ok written ∧
      written.Extends prepared ∧
      prepared.writeAll (reproTexts directory examples mappings script) = .ok later := by
  unfold writeRepro at h
  simp only [runs_bind_iff, runs_pure_iff, runs_change_iff, runs_makeTemporary_iff] at h
  obtain ⟨directory, made, hmake, arguments, filled, hinput, _, listed, htexts, -, last, hscript,
    rfl, rfl⟩ := h
  obtain ⟨-, written, prepared, hwritten, hprepared, hmappings⟩ := runs_writeInput hinput
  have hexamples := runs_forIn_writeText_iff.mp htexts
  refine ⟨made, written, prepared, reproScript arguments, hmake, hwritten, hprepared, ?_⟩
  have hfiles := FileTree.writeAll_append_eq_ok_iff.mpr ⟨filled, hmappings, hexamples⟩
  refine FileTree.writeAll_append_eq_ok_iff.mpr ⟨listed, hfiles, ?_⟩
  rwa [FileTree.writeAll_singleton]

theorem isProper_lastName_of_makeTemporary {tree made : FileTree} {directory : String}
    (h : tree.makeTemporary reproPrefix = .ok (directory, made)) :
    Path.IsProper (Path.lastName directory) := by
  obtain ⟨number, rfl, -⟩ := FileTree.makeTemporary_eq_ok h
  obtain ⟨front, hfront⟩ := Path.exists_join_eq_append tree.temporary reproPrefix
  have hslash : '/' ∉ (reproPrefix ++ toString number).toList := by
    rw [String.toList_append, List.mem_append, not_or]
    refine ⟨by decide, ?_⟩
    rw [Nat.toString_eq_repr, Nat.toList_repr]
    intro hmem
    exact absurd (Nat.isDigit_of_mem_toDigits (by decide) (by decide) hmem) (by decide)
  rw [hfront, String.append_assoc, Path.lastName_append front hslash]
  apply Path.isProper_of_length
  rw [String.length_append, String.length_append]
  have hprefix : reproPrefix.length = 22 := by decide
  omega

/-! ## The files in it -/

theorem isProper_lastName_reproTexts {directory : String} {examples : Examples}
    {mappings : List Provider} {script : String} {text : String × String}
    (h : text ∈ reproTexts directory examples mappings script) :
    Path.IsProper (Path.lastName text.1) := by
  simp only [reproTexts, mappingTexts, List.mem_append, List.mem_map, List.mem_singleton] at h
  rcases h with (⟨provider, -, rfl⟩ | ⟨entry, -, rfl⟩) | rfl
  · exact Path.isProper_lastName_join _ _ (by decide) (by decide)
  · exact Path.isProper_lastName_join _ _ (by decide) (by decide)
  · have hscript := Path.isProper_lastName_join directory "" (by decide : '/' ∉ "repro.sh".toList)
      (by decide)
    rwa [String.empty_append] at hscript

/-- Only a mapping can have the name of the examples file. -/
theorem mem_mappingTexts_of_lastName_eq {directory : String} {examples : Examples}
    {mappings : List Provider} {script : String} {text : String × String}
    (h : text ∈ reproTexts directory examples mappings script)
    (hname : Path.lastName text.1 = examplesFile) : text ∈ mappingTexts directory mappings := by
  simp only [reproTexts, List.mem_append, List.mem_map, List.mem_singleton] at h
  rcases h with (hmapping | ⟨entry, -, rfl⟩) | rfl
  · exact hmapping
  · exact absurd hname (Path.lastName_join_ne directory entry.1 (by decide) (by decide) (by decide))
  · have hscript := Path.lastName_join_ne directory "" (by decide : '/' ∉ "repro.sh".toList)
      (by decide) (by decide : _ ≠ examplesFile.toList.getLast?)
    rw [String.empty_append] at hscript
    exact absurd hname hscript

/-- The file of the examples is written into the new directory. -/
theorem watches_examplesFile {directory : String} {tree made written : FileTree}
    {content : ByteArray} (hmake : tree.makeTemporary reproPrefix = .ok (directory, made))
    (hwrite : made.write (Path.join directory examplesFile) content = .ok written) :
    ∃ parent, written.Watches written (Path.join directory examplesFile) parent examplesFile ∧
      written.Holds (parent ++ [examplesFile]) content := by
  have hdirectory := isProper_lastName_of_makeTemporary hmake
  have hjoin := Path.join_of_isProper hdirectory (by decide : Path.isAbsolute examplesFile = false)
  obtain ⟨hfront, hlast⟩ := Path.names_slash_of_notMem directory
    (by decide : '/' ∉ examplesFile.toList)
  rw [← hjoin] at hfront hlast
  have hproper : Path.IsProper (Path.lastName (Path.join directory examplesFile)) := by
    rw [hlast]
    exact Path.isProper_of_length (by decide)
  obtain ⟨location, -, hlocation, -, -⟩ := FileTree.write_eq_ok hwrite
  obtain ⟨parent, hparent, -, -⟩ := FileTree.leadsTo_of_resolveNew hproper hlocation
  obtain ⟨-, -, -, -, hsome, -⟩ :=
    hparent.exists_above (hfront.trans (Path.names_eq directory)) hdirectory
  have hfound := FileTree.watches_of_write hwrite hproper hparent hsome
  rw [hlast] at hfound
  exact ⟨parent, hfound⟩

/-- The examples file of a reproduction holds the examples, unless a mapping is written to it. -/
theorem readText_examplesFile {examples : Examples} {mappings : List Provider}
    {tree later : FileTree} {directory : String}
    (h : Runs (writeRepro examples mappings) tree directory later) :
    (later.readText (Path.join directory examplesFile) = .ok (Examples.toJson examples).compact ∧
      ∀ provider ∈ mappings, ¬ later.SameFile
        (mappingFile (Path.join directory "mappings") provider)
        (Path.join directory examplesFile)) ∨
    ∃ provider ∈ mappings,
      later.SameFile (mappingFile (Path.join directory "mappings") provider)
        (Path.join directory examplesFile) ∧
      later.readText (Path.join directory examplesFile) = .ok provider.toJson.compact := by
  obtain ⟨made, written, prepared, script, hmake, hwrite, hprepared, hall⟩ := runs_writeRepro h
  obtain ⟨parent, hwritten, hholds⟩ := watches_examplesFile hmake hwrite
  rcases FileTree.readText_of_watches hwritten hholds hprepared hall
    (fun _ ↦ isProper_lastName_reproTexts) with ⟨hread, hnone⟩ | ⟨text, htext, hsame, hname, hread⟩
  · refine .inl ⟨hread, ?_⟩
    intro provider hprovider
    apply hnone (_, provider.toJson.compact)
    simp only [reproTexts, mappingTexts, List.mem_append, List.mem_map]
    exact .inl (.inl ⟨provider, hprovider, rfl⟩)
  · obtain ⟨provider, hprovider, rfl⟩ :=
      List.mem_map.mp (mem_mappingTexts_of_lastName_eq htext hname)
    exact .inr ⟨provider, hprovider, hsame, hread⟩

/-- A prefix without a slash leads to a file in the directory of mappings. -/
theorem not_sameFile_mappingFile {examples : Examples} {mappings : List Provider}
    {tree later : FileTree} {directory : String}
    (h : Runs (writeRepro examples mappings) tree directory later) {provider : Provider}
    (hslashes : '/' ∉ provider.entityPrefix.toList) :
    ¬ later.SameFile (mappingFile (Path.join directory "mappings") provider)
      (Path.join directory examplesFile) := by
  obtain ⟨made, -, -, -, hmake, -⟩ := runs_writeRepro h
  have hdirectory := isProper_lastName_of_makeTemporary hmake
  have hslash : '/' ∉ (provider.entityPrefix ++ ".json").toList := by
    rw [String.toList_append, List.mem_append, not_or]
    exact ⟨hslashes, by decide⟩
  have hmappings : Path.join directory "mappings" = directory ++ "/" ++ "mappings" :=
    Path.join_of_isProper hdirectory (by decide)
  have hlast : Path.IsProper (Path.lastName (directory ++ "/" ++ "mappings")) := by
    rw [(Path.names_slash_of_notMem directory (by decide)).2]
    exact Path.isProper_of_length (by decide)
  have hname : Path.IsProper (provider.entityPrefix ++ ".json") := by
    apply Path.isProper_of_length
    rw [String.length_append]
    have hending : ".json".length = 5 := by decide
    omega
  rw [mappingFile, hmappings, Path.join_of_isProper hlast (Path.isAbsolute_of_notMem hslash),
    Path.join_of_isProper hdirectory (by decide)]
  exact FileTree.not_sameFile_of_below (Path.ne_empty_of_isProper hdirectory)
    (Path.isProper_of_length (by decide)) hname (Path.isProper_of_length (by decide)) (by decide)
    hslash (by decide)

/-- Reading the examples file of a reproduction gives back the examples exactly when no mapping
has that file. -/
theorem parseTexts?_examplesFile_iff {examples : Examples} {mappings : List Provider}
    {tree later : FileTree} {directory : String}
    (h : Runs (writeRepro examples mappings) tree directory later) :
    ∃ text, later.readText (Path.join directory examplesFile) = .ok text ∧
      (Json.parseTexts? text = some examples ↔
        ∀ provider ∈ mappings, ¬ later.SameFile
          (mappingFile (Path.join directory "mappings") provider)
          (Path.join directory examplesFile)) :=
  exists_parseTexts?_iff (readText_examplesFile h)

end Batch

end ProviderDocs
