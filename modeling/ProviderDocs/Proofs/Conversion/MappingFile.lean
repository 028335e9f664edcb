import ProviderDocs.Proofs.Conversion.Input
import ProviderDocs.Proofs.Json.FlatRecord
import ProviderDocs.Proofs.Provider.Json
import ProviderDocs.Proofs.Schema.RoundTrip
import ProviderDocs.Provider.Load

/-!
# Mappings read back from their files

Every record is read back from its JSON value. The file of a mapping holds the text of that value,
and three more things decide whether the mapping is loaded from there: how deep its overrides nest,
whether the name of the file gives away its format, and whether another mapping is written to the
same file afterwards.
-/

namespace ProviderDocs

namespace Batch

open FileAction

/-! ## The format of the file -/

theorem lastName_mappingFile (directory : String) (provider : Provider) :
    ∃ front, Path.lastName (mappingFile directory provider) =
      front ++ Path.lastName provider.entityPrefix ++ ".json" := by
  obtain ⟨base, hbase⟩ := Path.exists_join_eq_append directory (provider.entityPrefix ++ ".json")
  obtain ⟨front, hfront⟩ := Path.lastName_append_eq base provider.entityPrefix
  refine ⟨front, ?_⟩
  rw [mappingFile, hbase, ← String.append_assoc,
    Path.lastName_append _ (by decide : '/' ∉ ".json".toList), hfront]

theorem isProper_lastName_mappingFile (directory : String) (provider : Provider) :
    Path.IsProper (Path.lastName (mappingFile directory provider)) :=
  Path.isProper_lastName_join _ _ (by decide) (by decide)

/-- A prefix that ends in a name gives the file of its mapping an extension. -/
theorem formatOf_mappingFile (directory : String) {provider : Provider}
    (h : Path.lastName provider.entityPrefix ≠ "") :
    Provider.formatOf (mappingFile directory provider) = .json := by
  obtain ⟨front, hfront⟩ := lastName_mappingFile directory provider
  have hextension : Path.extension? (mappingFile directory provider) = some "json" := by
    have hending : ".json" = "." ++ "json" := rfl
    rw [hending, ← String.append_assoc] at hfront
    refine Path.extension?_eq_some hfront ?_ (by decide)
      (isProper_lastName_mappingFile directory provider)
    intro hempty
    exact h (String.append_eq_empty_iff.mp hempty).2
  rw [Provider.formatOf, if_pos hextension]

/-! ## Loading -/

theorem load_of_readText {files : FileTree} {path text : String}
    (h : files.readText path = .ok text) :
    Provider.load files path =
      (Provider.parse (Provider.formatOf path) text).mapError
        (.mappingMalformed (Provider.formatOf path) path) := by
  rw [Provider.load, h]
  rfl

/-- The JSON text of a mapping is read unless the mapping nests too deep. -/
theorem parseJson_compact_iff {provider : Provider} (h : provider.IsOrdered) :
    Provider.parseJson provider.toJson.compact = .ok provider ↔
      provider.toJson.depth ≤ Json.maxDepth := by
  rw [← Json.parse_compact_eq_ok_iff provider.isNumberFree_toJson, Provider.parseJson,
    bind_eq_ok_iff]
  constructor
  · rintro ⟨json, hread, -⟩
    rw [mapError_eq_ok_iff] at hread
    rwa [Json.eq_of_parse_compact provider.isNumberFree_toJson hread] at hread
  · intro hread
    refine ⟨provider.toJson, mapError_eq_ok_iff.mpr hread, ?_⟩
    rw [Provider.ofJson?_toJson h]

section Written

variable {outputDirectory examplesPath : String} {examples : Examples} (front : List Provider)
  {provider : Provider} (rest : List Provider) {tree later : FileTree} {arguments : List String}

/-- The file of a mapping holds its JSON text when no other text is written there later. -/
theorem readText_mappingFile
    (h : Runs (writeInput outputDirectory examplesPath examples (front ++ provider :: rest)) tree
      arguments later)
    (hroot : tree.IsRooted (mappingFile (Path.join outputDirectory "mappings") provider))
    (hsame : ∀ other ∈ rest,
      later.SameFile (mappingFile (Path.join outputDirectory "mappings") other)
        (mappingFile (Path.join outputDirectory "mappings") provider) →
      other.toJson.compact = provider.toJson.compact) :
    later.readText (mappingFile (Path.join outputDirectory "mappings") provider) =
      .ok provider.toJson.compact := by
  obtain ⟨-, written, prepared, hwrite, hprepared, hall⟩ := runs_writeInput h
  rw [mappingTexts, List.map_append, List.map_cons] at hall
  have hgrows := (FileTree.write_grows hwrite).trans hprepared.grows
  refine FileTree.readText_of_writeAll hall (hroot.of_grows hgrows)
    (isProper_lastName_mappingFile _ provider) ?_ ?_
  · intro text htext
    obtain ⟨other, -, rfl⟩ := List.mem_map.mp htext
    exact isProper_lastName_mappingFile _ other
  · intro text htext hfile
    obtain ⟨other, hother, rfl⟩ := List.mem_map.mp htext
    exact hsame other hother hfile

theorem load_mappingFile_iff
    (h : Runs (writeInput outputDirectory examplesPath examples (front ++ provider :: rest)) tree
      arguments later)
    (hroot : tree.IsRooted (mappingFile (Path.join outputDirectory "mappings") provider))
    (hname : Path.lastName provider.entityPrefix ≠ "") (hordered : provider.IsOrdered)
    (hsame : ∀ other ∈ rest,
      later.SameFile (mappingFile (Path.join outputDirectory "mappings") other)
        (mappingFile (Path.join outputDirectory "mappings") provider) → other = provider) :
    Provider.load later (mappingFile (Path.join outputDirectory "mappings") provider) =
        .ok provider ↔
      provider.toJson.depth ≤ Json.maxDepth := by
  have hread := readText_mappingFile front rest h hroot fun other hother hfile ↦
    congrArg (·.toJson.compact) (hsame other hother hfile)
  rw [load_of_readText hread, formatOf_mappingFile _ hname, mapError_eq_ok_iff, Provider.parse,
    parseJson_compact_iff hordered]

end Written

/-! ## All records -/

/-- Records are read back from their JSON values. A mapping that is written to a file of its own
with the extension of JSON is loaded from there exactly when it does not nest too deep. -/
theorem ofJson?_toJson_and_load_iff :
    (∀ provider : Provider, provider.IsOrdered →
      Provider.ofJson? provider.toJson = some provider) ∧
    (∀ schema : EntitySchema, EntitySchema.ofJson? schema.toJson = some schema) ∧
    (∀ doc : EntityDoc, EntityDoc.ofJson? doc.toJson = some doc) ∧
    (∀ stats : Stats, stats.Fits → Stats.ofJson? stats.toJson = some stats) ∧
    (∀ translated : Dict TranslatedExample,
      Json.dict? TranslatedExample.ofJson? (.ofDict TranslatedExample.toJson translated) =
        some translated) ∧
    ∀ outputDirectory examplesPath examples front provider rest tree arguments later,
      Runs (writeInput outputDirectory examplesPath examples (front ++ provider :: rest)) tree
        arguments later →
      tree.IsRooted (mappingFile (Path.join outputDirectory "mappings") provider) →
      provider.IsOrdered → Path.lastName provider.entityPrefix ≠ "" →
      (∀ other ∈ rest,
        later.SameFile (mappingFile (Path.join outputDirectory "mappings") other)
          (mappingFile (Path.join outputDirectory "mappings") provider) → other = provider) →
      (Provider.load later (mappingFile (Path.join outputDirectory "mappings") provider) =
          .ok provider ↔
        provider.toJson.depth ≤ Json.maxDepth) := by
  refine ⟨fun _ ↦ Provider.ofJson?_toJson, EntitySchema.ofJson?_toJson, EntityDoc.ofJson?_toJson,
    fun _ ↦ Stats.ofJson?_toJson, ?_, ?_⟩
  · exact fun translated ↦ Json.dict?_ofDict fun entry _ ↦ entry.2.ofJson?_toJson
  · intro _ _ _ _ _ _ _ _ _ h hroot hordered hname hsame
    exact load_mappingFile_iff _ _ h hroot hname hordered hsame

/-! ## Mappings that are loaded and mappings that are not -/

theorem isRooted_empty (path : String) : FileTree.empty.IsRooted path := by
  intro above habove
  have hnil : above = [] := List.prefix_nil.mp (by simpa [FileTree.empty] using habove)
  rw [hnil]
  decide

/-- An override for the elements of the elements, and so on. -/
def nestedOverride : Nat → FieldOverride
  | 0 => .mk none false none none []
  | levels + 1 => .mk none false none (some (nestedOverride levels)) []

theorem isOrdered_nestedOverride (levels : Nat) : (nestedOverride levels).IsOrdered := by
  induction levels with
  | zero => exact .mk (by simp) .nil (by simp)
  | succ levels ih => exact .mk (by simpa using ih) .nil (by simp)

/-- A mapping of one resource with overrides for one field. -/
def nestedMapping (levels : Nat) : Provider :=
  { Provider.empty with
    name := "aws"
    resources := ⟨[("aws_bucket", ⟨"aws:s3/bucket:Bucket", none,
      [("rule", nestedOverride levels)]⟩)], List.pairwise_singleton _ _⟩ }

theorem isOrdered_nestedMapping (levels : Nat) : (nestedMapping levels).IsOrdered := by
  constructor
  · intro mapping hmapping
    obtain rfl := List.mem_singleton.mp hmapping
    exact ⟨List.pairwise_singleton _ _, by simpa using isOrdered_nestedOverride levels⟩
  · exact fun mapping hnone ↦ absurd hnone List.not_mem_nil

/-- The counts of a run that met one argument. -/
def oneArgument : Stats := { Stats.zero with arguments := 1 }

theorem ofJson?_toJson_and_load_iff_nestedMapping :
    (nestedMapping 122).IsOrdered ∧ oneArgument.Fits ∧
      Stats.ofJson? oneArgument.toJson = some oneArgument ∧
      ∃ arguments later,
        Runs (writeInput "/out" "/examples.json" ∅ [nestedMapping 122]) .empty arguments later ∧
        FileTree.empty.IsRooted (mappingFile (Path.join "/out" "mappings") (nestedMapping 122)) ∧
        Path.lastName (nestedMapping 122).entityPrefix ≠ "" ∧
        (nestedMapping 122).toJson.depth ≤ Json.maxDepth ∧
        Provider.load later (mappingFile (Path.join "/out" "mappings") (nestedMapping 122)) =
          .ok (nestedMapping 122) := by
  obtain ⟨-, -, -, hstats, -, hfiles⟩ := ofJson?_toJson_and_load_iff
  have hordered := isOrdered_nestedMapping 122
  have hfits : oneArgument.Fits := by
    unfold Stats.Fits
    decide
  obtain ⟨arguments, later, hrun⟩ : ∃ arguments later,
      Runs (writeInput "/out" "/examples.json" ∅ [nestedMapping 122]) .empty arguments later :=
    exists_runs_of_isSome (by decide +kernel)
  have hroot := isRooted_empty (mappingFile (Path.join "/out" "mappings") (nestedMapping 122))
  have hname : Path.lastName (nestedMapping 122).entityPrefix ≠ "" := by decide +kernel
  have hdepth : (nestedMapping 122).toJson.depth ≤ Json.maxDepth := by decide +kernel
  have hload := hfiles _ _ _ [] _ [] _ _ _ hrun hroot hordered hname
    fun _ hnone ↦ absurd hnone List.not_mem_nil
  exact ⟨hordered, hfits, hstats oneArgument hfits, arguments, later, hrun, hroot, hname, hdepth,
    hload.mpr hdepth⟩

/-- The mapping is written as one of these mappings and is not loaded from its file. -/
def IsLost (provider : Provider) (mappings : List Provider) : Prop :=
  provider ∈ mappings ∧ provider.IsOrdered ∧ ∃ arguments later,
    Runs (writeInput "/out" "/examples.json" ∅ mappings) .empty arguments later ∧
    Provider.load later (mappingFile (Path.join "/out" "mappings") provider) ≠ .ok provider

/-- A level more is too deep. -/
theorem isLost_nestedMapping : IsLost (nestedMapping 123) [nestedMapping 123] := by
  have hordered := isOrdered_nestedMapping 123
  obtain ⟨arguments, later, hrun⟩ : ∃ arguments later,
      Runs (writeInput "/out" "/examples.json" ∅ [nestedMapping 123]) .empty arguments later :=
    exists_runs_of_isSome (by decide +kernel)
  refine ⟨List.mem_cons_self, hordered, arguments, later, hrun, ?_⟩
  rw [Ne, load_mappingFile_iff [] [] hrun (isRooted_empty _) (by decide +kernel) hordered
    fun _ hnone ↦ absurd hnone List.not_mem_nil]
  decide +kernel

/-- The later one of two mappings with one prefix takes the place of the first. -/
theorem isLost_of_samePrefix :
    IsLost (nestedMapping 0) [nestedMapping 0, nestedMapping 1] := by
  obtain ⟨arguments, later, hrun⟩ : ∃ arguments later,
      Runs (writeInput "/out" "/examples.json" ∅ [nestedMapping 0, nestedMapping 1]) .empty
        arguments later := exists_runs_of_isSome (by decide +kernel)
  refine ⟨List.mem_cons_self, isOrdered_nestedMapping 0, arguments, later, hrun, ?_⟩
  have hload : Provider.load later
      (mappingFile (Path.join "/out" "mappings") (nestedMapping 0)) = .ok (nestedMapping 1) :=
    (load_mappingFile_iff [nestedMapping 0] [] hrun (isRooted_empty _) (by decide +kernel)
      (isOrdered_nestedMapping 1) fun _ hnone ↦ absurd hnone List.not_mem_nil).mpr
      (by decide +kernel)
  rw [hload]
  intro heq
  have hdepth := congrArg (·.toJson.depth) (Except.ok.inj heq)
  exact absurd hdepth (by decide +kernel)

/-- A mapping without a name, with a host that needs an escape in YAML and none in JSON. -/
def namelessMapping : Provider := { Provider.empty with gitHost := "\x7f" }

/-- The file of a mapping without a name has no extension and is read as YAML. -/
theorem isLost_namelessMapping : IsLost namelessMapping [namelessMapping] := by
  have hordered : namelessMapping.IsOrdered :=
    ⟨fun _ hnone ↦ absurd hnone List.not_mem_nil, fun _ hnone ↦ absurd hnone List.not_mem_nil⟩
  have hfails : (Provider.parseYaml namelessMapping.toJson.compact).isOk = false := by
    decide +kernel
  have hformat : Provider.formatOf (mappingFile (Path.join "/out" "mappings") namelessMapping) =
      .yaml := by
    decide +kernel
  obtain ⟨arguments, later, hrun⟩ : ∃ arguments later,
      Runs (writeInput "/out" "/examples.json" ∅ [namelessMapping]) .empty arguments later :=
    exists_runs_of_isSome (by decide +kernel)
  have hread := readText_mappingFile [] [] hrun (isRooted_empty _)
    fun _ hnone ↦ absurd hnone List.not_mem_nil
  refine ⟨List.mem_cons_self, hordered, arguments, later, hrun, ?_⟩
  rw [load_of_readText hread, hformat, Ne, mapError_eq_ok_iff, Provider.parse]
  intro hparse
  rw [hparse] at hfails
  cases hfails

/-- Each of the conditions on what is loaded is needed. -/
theorem not_load_mappingFile :
    IsLost (nestedMapping 123) [nestedMapping 123] ∧
      IsLost (nestedMapping 0) [nestedMapping 0, nestedMapping 1] ∧
      IsLost namelessMapping [namelessMapping] :=
  ⟨isLost_nestedMapping, isLost_of_samePrefix, isLost_namelessMapping⟩

end Batch

end ProviderDocs
