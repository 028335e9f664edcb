import ProviderDocs.Proofs.Conversion.Culprit
import ProviderDocs.Proofs.Conversion.MappingFile
import ProviderDocs.Proofs.FileTree.Grounded

/-!
# Mappings that share a file

The arguments of a call name one file for each mapping, after its prefix. Nothing keeps the files
of two mappings apart, or those of a mapping and of the examples, and a file holds what was written
to it last. So all mappings reach the converter exactly when those that share a file say the same,
and the examples do when no mapping has their file.
-/

namespace ProviderDocs

namespace Batch

open FileAction

/-! ## Naming -/

/-- The pairs of an option with its values stand one behind the other. -/
theorem getElem?_flatMap_pair (option : String) (values : List String) (index : Nat) :
    (values.flatMap ([option, ·]))[2 * index]? = values[index]?.map (fun _ ↦ option) ∧
      (values.flatMap ([option, ·]))[2 * index + 1]? = values[index]? := by
  induction values generalizing index with
  | nil => simp
  | cons value rest ih =>
    cases index with
    | zero => simp
    | succ index => simpa [Nat.mul_add, Nat.add_right_comm] using ih index

theorem getElem?_arguments (outputDirectory examplesName : String) {files : List String}
    {index : Nat} {file : String} (h : files[index]? = some file) :
    (arguments outputDirectory files examplesName)[8 + 2 * index]? = some "--mappings" ∧
      (arguments outputDirectory files examplesName)[9 + 2 * index]? = some file := by
  obtain ⟨hoption, hvalue⟩ := getElem?_flatMap_pair "--mappings" files index
  rw [h, Option.map_some] at hoption
  rw [h] at hvalue
  have hat : ∀ (place : Nat) (word : String),
      (files.flatMap (["--mappings", ·]))[place]? = some word →
        (arguments outputDirectory files examplesName)[8 + place]? = some word := by
    intro place word hword
    obtain ⟨hlt, -⟩ := List.getElem?_eq_some_iff.mp hword
    unfold arguments
    rw [List.append_assoc, List.getElem?_append_right (by simp), List.getElem?_append_left]
    · simpa using hword
    · simpa using hlt
  refine ⟨hat _ _ hoption, ?_⟩
  have hnext := hat _ _ hvalue
  rwa [← Nat.add_assoc, Nat.add_right_comm] at hnext

/-! ## Sharing -/

/-- The file of a mapping, which the arguments name. -/
def fileOf (outputDirectory : String) (provider : Provider) : String :=
  mappingFile (Path.join outputDirectory "mappings") provider

/-- A prefix without a slash is the name of the file, up to the ending. -/
theorem lastName_fileOf (outputDirectory : String) {provider : Provider}
    (h : '/' ∉ provider.entityPrefix.toList) :
    Path.lastName (fileOf outputDirectory provider) = provider.entityPrefix ++ ".json" := by
  have hdirectory : Path.IsProper (Path.lastName (Path.join outputDirectory "mappings")) := by
    have hjoin := Path.isProper_lastName_join outputDirectory ""
      (by decide : '/' ∉ "mappings".toList) (by decide)
    rwa [String.empty_append] at hjoin
  have hslash : '/' ∉ (provider.entityPrefix ++ ".json").toList := by
    rw [String.toList_append, List.mem_append, not_or]
    exact ⟨h, by decide⟩
  rw [fileOf, mappingFile, Path.join_of_isProper hdirectory (Path.isAbsolute_of_notMem hslash)]
  exact (Path.names_slash_of_notMem _ hslash).2

section Written

variable {outputDirectory examplesPath : String} {examples : Examples} {mappings : List Provider}
  {tree later : FileTree} {result : List String}

theorem exists_resolve_fileOf
    (h : Runs (writeInput outputDirectory examplesPath examples mappings) tree result later)
    (hground : tree.IsGrounded) {provider : Provider} (hprovider : provider ∈ mappings) :
    ∃ location, later.resolve (fileOf outputDirectory provider) = .ok location := by
  obtain ⟨front, rest, rfl⟩ := List.append_of_mem hprovider
  obtain ⟨-, written, prepared, hwrite, hprepared, hall⟩ := runs_writeInput h
  rw [mappingTexts, List.map_append, List.map_cons] at hall
  have hgrows := (FileTree.write_grows hwrite).trans hprepared.grows
  obtain ⟨_, _, hwatch, -, -⟩ := FileTree.watches_of_writeAll hall
    ((hground.isRooted _).of_grows hgrows) (isProper_lastName_mappingFile _ provider)
  exact ⟨_, hwatch.resolve⟩

/-- Prefixes without slashes share a file only when they are equal. -/
theorem sameFile_fileOf_iff
    (h : Runs (writeInput outputDirectory examplesPath examples mappings) tree result later)
    (hground : tree.IsGrounded) {provider other : Provider} (hprovider : provider ∈ mappings)
    (hslash : '/' ∉ provider.entityPrefix.toList) (hotherSlash : '/' ∉ other.entityPrefix.toList) :
    later.SameFile (fileOf outputDirectory provider) (fileOf outputDirectory other) ↔
      provider.entityPrefix = other.entityPrefix := by
  constructor
  · rintro ⟨location, otherLocation, hlocation, hother, hkey⟩
    obtain ⟨parent, -, rfl⟩ :=
      FileTree.resolve_eq_append (isProper_lastName_mappingFile _ provider) hlocation
    obtain ⟨above, -, rfl⟩ :=
      FileTree.resolve_eq_append (isProper_lastName_mappingFile _ other) hother
    rw [FileTree.key_append_singleton_inj (Path.slash_notMem_lastName _)
      (Path.slash_notMem_lastName _)] at hkey
    have hnames : provider.entityPrefix ++ ".json" = other.entityPrefix ++ ".json" := by
      rw [← lastName_fileOf outputDirectory hslash, ← lastName_fileOf outputDirectory hotherSlash]
      exact hkey.2
    exact (String.append_left_inj _).mp hnames
  · intro hprefix
    obtain ⟨location, hlocation⟩ := exists_resolve_fileOf h hground hprovider
    have hfile : fileOf outputDirectory other = fileOf outputDirectory provider := by
      rw [fileOf, fileOf, mappingFile, mappingFile, hprefix]
    exact ⟨location, location, hlocation, by rwa [hfile], rfl⟩

/-- Every mapping is in its file exactly when those that share a file have one text. -/
theorem forall_readText_fileOf_iff
    (h : Runs (writeInput outputDirectory examplesPath examples mappings) tree result later)
    (hground : tree.IsGrounded) :
    (∀ provider ∈ mappings,
      later.readText (fileOf outputDirectory provider) = .ok provider.toJson.compact) ↔
      ∀ provider ∈ mappings, ∀ other ∈ mappings,
        later.SameFile (fileOf outputDirectory provider) (fileOf outputDirectory other) →
          provider.toJson.compact = other.toJson.compact := by
  constructor
  · intro hread provider hprovider other hother hsame
    have htext := hsame.readText_eq
    rw [hread provider hprovider, hread other hother] at htext
    exact Except.ok.inj htext
  · intro hone provider hprovider
    obtain ⟨front, rest, rfl⟩ := List.append_of_mem hprovider
    refine readText_mappingFile front rest h (hground.isRooted _) ?_
    intro other hother hsame
    exact hone other (by simp [hother]) provider hprovider hsame

/-- The examples file holds the examples, unless a mapping is written to it. -/
theorem readText_examplesPath
    (h : Runs (writeInput outputDirectory examplesPath examples mappings) tree result later)
    (hground : tree.IsGrounded) :
    (later.readText examplesPath = .ok (Examples.toJson examples).compact ∧
      ∀ provider ∈ mappings, ¬ later.SameFile (fileOf outputDirectory provider) examplesPath) ∨
    ∃ provider ∈ mappings,
      later.SameFile (fileOf outputDirectory provider) examplesPath ∧
        later.readText examplesPath = .ok provider.toJson.compact := by
  obtain ⟨-, written, prepared, hwrite, hprepared, hall⟩ := runs_writeInput h
  have hproper := FileTree.isProper_lastName_of_write hwrite hground
  obtain ⟨location, -, hlocation, -, -⟩ := FileTree.write_eq_ok hwrite
  obtain ⟨parent, hparent, -, -⟩ := FileTree.leadsTo_of_resolveNew hproper hlocation
  obtain ⟨hwatch, hholds⟩ := FileTree.watches_of_write hwrite hproper hparent
    (hparent.isSome (hground.isRooted examplesPath))
  have hnames : ∀ text ∈ mappingTexts outputDirectory mappings,
      Path.IsProper (Path.lastName text.1) := by
    intro text htext
    obtain ⟨provider, -, rfl⟩ := List.mem_map.mp htext
    exact isProper_lastName_mappingFile _ provider
  rcases FileTree.readText_of_watches hwatch hholds hprepared hall hnames with
    ⟨hread, hnone⟩ | ⟨text, htext, hsame, -, hread⟩
  · refine .inl ⟨hread, fun provider hprovider ↦ ?_⟩
    exact hnone (fileOf outputDirectory provider, provider.toJson.compact)
      (List.mem_map.mpr ⟨provider, hprovider, rfl⟩)
  · obtain ⟨provider, hprovider, rfl⟩ := List.mem_map.mp htext
    exact .inr ⟨provider, hprovider, hsame, hread⟩

end Written

/-! ## Reaching the converter -/

/-- What the converter finds after its input was written. -/
structure Reaches (outputDirectory examplesPath : String) (examples : Examples)
    (mappings : List Provider) (result : List String) (later : FileTree) : Prop where
  /-- An option for each mapping names its file. -/
  named : ∀ index provider, mappings[index]? = some provider →
    result[8 + 2 * index]? = some "--mappings" ∧
      result[9 + 2 * index]? = some (fileOf outputDirectory provider)
  /-- A file holds the last of the mappings that share it. -/
  last : ∀ front provider rest, mappings = front ++ provider :: rest →
    (∀ other ∈ rest,
      ¬ later.SameFile (fileOf outputDirectory other) (fileOf outputDirectory provider)) →
    ∀ other, later.SameFile (fileOf outputDirectory other) (fileOf outputDirectory provider) →
      later.readText (fileOf outputDirectory other) = .ok provider.toJson.compact
  mappings_iff : (∀ (index : Nat) provider file, mappings[index]? = some provider →
      result[9 + 2 * index]? = some file → later.readText file = .ok provider.toJson.compact) ↔
    ∀ provider ∈ mappings, ∀ other ∈ mappings,
      later.SameFile (fileOf outputDirectory provider) (fileOf outputDirectory other) →
        provider.toJson.compact = other.toJson.compact
  sameFile_iff : ∀ provider ∈ mappings, ∀ other ∈ mappings,
    '/' ∉ provider.entityPrefix.toList → '/' ∉ other.entityPrefix.toList →
      (later.SameFile (fileOf outputDirectory provider) (fileOf outputDirectory other) ↔
        provider.entityPrefix = other.entityPrefix)
  examples_iff : ∃ text, later.readText examplesPath = .ok text ∧
    (Json.parseTexts? text = some examples ↔
      ∀ provider ∈ mappings, ¬ later.SameFile (fileOf outputDirectory provider) examplesPath)

/-- All mappings reach the converter exactly when those that share a file have one text, and the
examples do exactly when no mapping has their file. -/
theorem reaches_of_runs_writeInput {outputDirectory examplesPath : String} {examples : Examples}
    {mappings : List Provider} {tree later : FileTree} {result : List String}
    (h : Runs (writeInput outputDirectory examplesPath examples mappings) tree result later)
    (hground : tree.IsGrounded) :
    Reaches outputDirectory examplesPath examples mappings result later := by
  have hnamed : ∀ index provider, mappings[index]? = some provider →
      result[8 + 2 * index]? = some "--mappings" ∧
        result[9 + 2 * index]? = some (fileOf outputDirectory provider) := by
    intro index provider hprovider
    rw [(runs_writeInput h).1]
    exact getElem?_arguments _ _ (by rw [List.getElem?_map, hprovider]; rfl)
  refine ⟨hnamed, ?_, ?_, ?_, exists_parseTexts?_iff (readText_examplesPath h hground)⟩
  · rintro front provider rest rfl hrest other hsame
    rw [hsame.readText_eq]
    exact readText_mappingFile front rest h (hground.isRooted _) fun other hother hshares ↦
      absurd hshares (hrest other hother)
  · rw [← forall_readText_fileOf_iff h hground]
    constructor
    · intro hread provider hprovider
      obtain ⟨index, hindex⟩ := List.mem_iff_getElem?.mp hprovider
      exact hread index provider _ hindex (hnamed index provider hindex).2
    · intro hread index provider file hindex hfile
      rw [(hnamed index provider hindex).2] at hfile
      cases hfile
      exact hread provider (List.mem_of_getElem? hindex)
  · exact fun provider hprovider other _ ↦ sameFile_fileOf_iff h hground hprovider

/-! ## Mappings that reach the converter and mappings that do not -/

/-- A mapping without entities. -/
def plainMapping (organization resourcePrefix : Option String) : Provider :=
  { Provider.empty with name := "aws", organization, resourcePrefix }

theorem reaches_of_runs_writeInput_azure :
    FileTree.empty.IsGrounded ∧
      ∃ result later,
        Runs (writeInput "/out" "/examples.json" (single "a" "A")
          [plainMapping none none, plainMapping none (some "azurerm")]) .empty result later ∧
        Reaches "/out" "/examples.json" (single "a" "A")
          [plainMapping none none, plainMapping none (some "azurerm")] result later := by
  obtain ⟨result, later, hrun⟩ : ∃ result later,
      Runs (writeInput "/out" "/examples.json" (single "a" "A")
        [plainMapping none none, plainMapping none (some "azurerm")]) .empty result later :=
    exists_runs_of_isSome (by decide +kernel)
  exact ⟨FileTree.isGrounded_empty, result, later, hrun,
    reaches_of_runs_writeInput hrun FileTree.isGrounded_empty⟩

/-- The first of two mappings with one prefix does not reach the converter. -/
theorem exists_runs_samePrefix :
    ∃ result later,
      Runs (writeInput "/out" "/examples.json" ∅
        [plainMapping none none, plainMapping (some "hashicorp") none]) .empty result later ∧
      ∃ file, result[9]? = some file ∧
        later.readText file ≠ .ok (plainMapping none none).toJson.compact := by
  obtain ⟨result, later, hrun⟩ : ∃ result later,
      Runs (writeInput "/out" "/examples.json" ∅
        [plainMapping none none, plainMapping (some "hashicorp") none]) .empty result later :=
    exists_runs_of_isSome (by decide +kernel)
  have hread := readText_mappingFile [plainMapping none none] [] hrun
    (FileTree.isGrounded_empty.isRooted _) fun _ hnone ↦ absurd hnone List.not_mem_nil
  have hnamed := getElem?_arguments "/out" "examples.json"
    (rfl : [fileOf "/out" (plainMapping none none),
      fileOf "/out" (plainMapping (some "hashicorp") none)][0]? = some _)
  refine ⟨result, later, hrun, fileOf "/out" (plainMapping none none), ?_, ?_⟩
  · rw [(runs_writeInput hrun).1]
    exact hnamed.2
  · intro hfirst
    have htexts := Except.ok.inj (hread.symm.trans hfirst)
    exact absurd htexts (by decide +kernel)

/-- A mapping whose prefix leads out of its directory takes the place of the examples. -/
theorem exists_runs_inPlaceOfExamples :
    ∃ result later,
      Runs (writeInput "/out" "/examples.json" ∅ [plainMapping none (some "../../examples")]) .empty
        result later ∧
      ∃ text, later.readText "/examples.json" = .ok text ∧ Json.parseTexts? text = none := by
  have houtcome : let reached := outcome (writeInput "/out" "/examples.json" ∅
        [plainMapping none (some "../../examples")]) .empty
      reached.1.toOption.isSome ∧ (reached.2.resolve "/examples.json").toOption.isSome ∧
        (reached.2.resolve
          (fileOf "/out" (plainMapping none (some "../../examples")))).toOption =
            (reached.2.resolve "/examples.json").toOption := by
    decide +kernel
  obtain ⟨hruns, hsome, heq⟩ := houtcome
  obtain ⟨result, hresult⟩ := Option.isSome_iff_exists.mp hruns
  have hrun := runs_of_toOption hresult
  have hsame := FileTree.sameFile_of_toOption hsome heq
  rcases readText_examplesPath hrun FileTree.isGrounded_empty with
    ⟨-, hnone⟩ | ⟨provider, -, -, hread⟩
  · exact absurd hsame (hnone _ List.mem_cons_self)
  · exact ⟨result, _, hrun, _, hread, provider.parseTexts?_toJson⟩

/-- Mappings with different prefixes and no slashes in them are needed. -/
theorem not_reaches_input :
    (∃ result later,
      Runs (writeInput "/out" "/examples.json" ∅
        [plainMapping none none, plainMapping (some "hashicorp") none]) .empty result later ∧
      ∃ file, result[9]? = some file ∧
        later.readText file ≠ .ok (plainMapping none none).toJson.compact) ∧
    ∃ result later,
      Runs (writeInput "/out" "/examples.json" ∅ [plainMapping none (some "../../examples")]) .empty
        result later ∧
      ∃ text, later.readText "/examples.json" = .ok text ∧ Json.parseTexts? text = none :=
  ⟨exists_runs_samePrefix, exists_runs_inPlaceOfExamples⟩

end Batch

end ProviderDocs
