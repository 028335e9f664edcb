import ProviderDocs.Proofs.Conversion.Culprit

/-!
# The minimal reproduction of a failing batch

A batch with culprits fails, and when a reproduction can be written, it is one of the first
culprit alone. Its examples file is read back as that example unless a mapping has the same
file: mappings are written after the examples, to files named after their prefixes, and a prefix
may lead out of the directory of mappings.
-/

namespace ProviderDocs

namespace Batch

open FileAction

/-- A conversion fails after logarithmically many calls with a reproduction of the first culprit,
whose examples file holds it exactly when no mapping has that file. Only a mapping with a slash in
its prefix can have it. -/
structure ReproducesFirst {σ : Type} (behavior : Behavior σ) (culprits : String → Prop)
    (examples : Examples) (mappings : List Provider) (world : World σ) (id hcl : String)
    (cause : ConversionError) : Prop where
  first : IsFirstCulprit culprits examples id hcl
  answer : behavior.answer examples mappings world = .error cause
  search : ∀ before,
    ((Bisection.ofFailing behavior.converter examples mappings).run before).1.examples =
      single id hcl
  calls : ∃ calls, (converted behavior examples mappings world).2.calls = world.calls ++ calls ∧
    calls.length ≤ Nat.clog 2 examples.size + 1
  fails : ∃ error, (converted behavior examples mappings world).1 = .error error
  /-- Whenever the reproduction can be written to the files that narrowing leaves. -/
  repro : ∀ directory later,
    Runs (writeRepro (single id hcl) mappings) (narrowed behavior examples mappings world).2.files
      directory later →
    (converted behavior examples mappings world).1 = .error (.minimalRepro directory cause) ∧
      (converted behavior examples mappings world).2.files = later ∧
      ∃ text, later.readText (Path.join directory examplesFile) = .ok text ∧
        (Json.parseTexts? text = some (single id hcl) ↔
          ∀ provider ∈ mappings, ¬ later.SameFile
            (mappingFile (Path.join directory "mappings") provider)
            (Path.join directory examplesFile))
  plain : ∀ directory later,
    Runs (writeRepro (single id hcl) mappings) (narrowed behavior examples mappings world).2.files
      directory later →
    ∀ provider ∈ mappings, '/' ∉ provider.entityPrefix.toList →
      ¬ later.SameFile (mappingFile (Path.join directory "mappings") provider)
        (Path.join directory examplesFile)

/-- A batch that meets the culprits fails, and what its reproduction holds is the first of them,
unless a mapping takes the place of the examples. -/
theorem converted_of_failsOn {σ : Type} (behavior : Behavior σ) (culprits : String → Prop)
    (examples : Examples) (mappings : List Provider) (world : World σ)
    (hfails : behavior.FailsOn mappings culprits)
    (hmeets : ∃ id, culprits id ∧ examples.contains id = true) :
    ∃ id hcl cause,
      ReproducesFirst behavior culprits examples mappings world id hcl cause := by
  obtain ⟨id, hcl, hfirst⟩ := exists_isFirstCulprit hmeets
  obtain ⟨cause, hanswer⟩ := (hfails examples (world.state, world.files)).mpr hmeets
  have hempty : examples.isEmpty = false := by
    obtain ⟨hcl, hmem⟩ := Dict.exists_mem_of_contains hfirst.contains
    rw [Dict.isEmpty, List.isEmpty_eq_false_iff]
    exact List.ne_nil_of_mem hmem
  have hsearch := narrow_eq_single hfails hfirst true
  obtain ⟨hsingle, calls, hcalls, hlength⟩ := hsearch (behavior.called examples mappings world)
  refine ⟨id, hcl, cause, hfirst, hanswer, fun before ↦ (hsearch before).1, ?_,
    exists_converted_eq_error hempty hanswer, ?_, ?_⟩
  · refine ⟨examples :: calls, ?_, ?_⟩
    · rw [converted_calls hempty hanswer]
      refine hcalls.trans ?_
      rw [Behavior.called, List.append_assoc, List.singleton_append]
    · rw [List.length_cons]
      omega
  · intro directory later hrun
    have hexamples : (narrowed behavior examples mappings world).1.examples = single id hcl :=
      hsingle
    have hrepro := parseTexts?_examplesFile_iff hrun
    rw [← hexamples] at hrun
    rw [converted_of_runs hempty hanswer hrun]
    exact ⟨rfl, rfl, hrepro⟩
  · intro directory later hrun provider _ hslashes
    exact not_sameFile_mappingFile hrun hslashes

/-! ## A mapping in place of the examples -/

/-- A converter that fails on the batches with one example. -/
def failingOn (id : String) : Behavior Unit := fun examples _ before ↦
  (if examples.contains id then .error (.malformedOutput id) else .ok ∅, before)

theorem failsOn_failingOn (id : String) (mappings : List Provider) :
    (failingOn id).FailsOn mappings (· = id) := by
  intro examples before
  unfold failingOn
  cases hcontains : examples.contains id with
  | true => simp [hcontains]
  | false => simp [hcontains]

theorem converted_of_failsOn_second :
    (failingOn "b").FailsOn [] (· = "b") ∧
      (∃ id, id = "b" ∧ ((single "a" "A").insert "b" "B").contains id = true) ∧
      ∃ id hcl cause, ReproducesFirst (failingOn "b") (· = "b")
        ((single "a" "A").insert "b" "B") [] ⟨[], (), .empty⟩ id hcl cause := by
  have hmeets : ∃ id, id = "b" ∧ ((single "a" "A").insert "b" "B").contains id = true :=
    ⟨"b", rfl, by decide⟩
  exact ⟨failsOn_failingOn "b" [], hmeets,
    converted_of_failsOn (failingOn "b") (· = "b") _ [] _ (failsOn_failingOn "b" []) hmeets⟩

/-- A mapping whose file lies beside the directory of mappings. -/
def strayMapping : Provider :=
  { Provider.empty with name := "x", resourcePrefix := some "../examples" }

/-- Files with nothing but a root, where temporary directories are made. -/
def rootFiles : FileTree := { FileTree.empty with temporary := "/" }

/-- The reproduction of an example with a stray mapping has one file for both. -/
theorem exists_runs_writeRepro_strayMapping :
    ∃ later, Runs (writeRepro (single "a" "A") [strayMapping]) rootFiles "/convert-examples-repro0"
        later ∧
      later.SameFile
        (mappingFile (Path.join "/convert-examples-repro0" "mappings") strayMapping)
        (Path.join "/convert-examples-repro0" examplesFile) := by
  have houtcome : let result := outcome (writeRepro (single "a" "A") [strayMapping]) rootFiles
      result.1.toOption = some "/convert-examples-repro0" ∧
        (result.2.resolve (Path.join "/convert-examples-repro0" examplesFile)).toOption.isSome ∧
        (result.2.resolve (mappingFile (Path.join "/convert-examples-repro0" "mappings")
          strayMapping)).toOption =
        (result.2.resolve (Path.join "/convert-examples-repro0" examplesFile)).toOption := by
    decide +kernel
  obtain ⟨hdirectory, hsome, hsame⟩ := houtcome
  exact ⟨_, runs_of_toOption hdirectory, FileTree.sameFile_of_toOption hsome hsame⟩

/-- A stray mapping is what the reproduction of an example holds in place of the example. -/
theorem not_parseTexts?_of_strayMapping :
    (failingOn "a").FailsOn [strayMapping] (· = "a") ∧
      (∃ id, id = "a" ∧ (single "a" "A").contains id = true) ∧
      ∃ directory cause text,
        (converted (failingOn "a") (single "a" "A") [strayMapping] ⟨[], (), rootFiles⟩).1 =
            .error (.minimalRepro directory cause) ∧
          (converted (failingOn "a") (single "a" "A") [strayMapping]
            ⟨[], (), rootFiles⟩).2.files.readText (Path.join directory examplesFile) = .ok text ∧
          text = strayMapping.toJson.compact ∧ Json.parseTexts? text = none := by
  obtain ⟨later, hrun, hsame⟩ := exists_runs_writeRepro_strayMapping
  have hnarrowed : narrowed (failingOn "a") (single "a" "A") [strayMapping] ⟨[], (), rootFiles⟩ =
      (⟨single "a" "A", true⟩, ⟨[single "a" "A"], (), rootFiles⟩) :=
    narrow_of_size_lt (by decide) true _
  have hanswer : (failingOn "a").answer (single "a" "A") [strayMapping] ⟨[], (), rootFiles⟩ =
      .error (.malformedOutput "a") := rfl
  refine ⟨failsOn_failingOn "a" _, ⟨"a", rfl, by decide⟩, "/convert-examples-repro0",
    .malformedOutput "a", strayMapping.toJson.compact, ?_⟩
  rw [converted_of_runs rfl hanswer (by rw [hnarrowed]; exact hrun)]
  refine ⟨rfl, ?_, rfl, strayMapping.parseTexts?_toJson⟩
  rcases readText_examplesFile hrun with ⟨-, hnone⟩ | ⟨provider, hprovider, -, hread⟩
  · exact absurd hsame (hnone strayMapping List.mem_cons_self)
  · rw [List.mem_singleton] at hprovider
    rwa [hprovider] at hread

end Batch

end ProviderDocs
