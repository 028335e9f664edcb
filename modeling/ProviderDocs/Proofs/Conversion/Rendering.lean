import Mathlib.Data.List.Basic
import Mathlib.Data.List.Count
import ProviderDocs.Conversion.Translator
import ProviderDocs.Proofs.Error
import ProviderDocs.Proofs.StableSort
import ProviderDocs.Proofs.Stats
import ProviderDocs.Proofs.Text.Blank

/-!
# A snippet in several languages

When programs are rendered by a function, what becomes of a snippet depends on the language alone.
A snippet that converts to none of the languages asked for is lost and counted as one failure.
Otherwise each position that converts leaves one code block, which is never empty, and each other
position is counted under its language.
-/

namespace ProviderDocs

namespace TargetLanguage

/-- The languages as docs show them: four fixed places, then the others by name. -/
def docsOrder : List TargetLanguage := [typescript, python, csharp, go, java, pcl, yaml]

theorem docsLe_iff (a b : TargetLanguage) :
    a.docsLe b = true ↔ docsOrder.idxOf a ≤ docsOrder.idxOf b := by
  cases a <;> cases b <;> decide

example : docsOrder.Perm all ∧ (docsOrder.drop 4).Pairwise (·.name < ·.name) := by decide

theorem docsLe_trans (a b c : TargetLanguage) (hab : a.docsLe b = true) (hbc : b.docsLe c = true) :
    a.docsLe c = true := by
  rw [docsLe_iff] at *
  exact Nat.le_trans hab hbc

theorem docsLe_total (a b : TargetLanguage) : (a.docsLe b || b.docsLe a) = true := by
  rw [Bool.or_eq_true, docsLe_iff, docsLe_iff]
  exact Nat.le_total ..

theorem name_injective : Function.Injective name := by
  intro a b h
  revert h
  cases a <;> cases b <;> decide

end TargetLanguage

namespace Translator

/-! ## Converters that are functions -/

/-- Makes a program of an example in the intermediate language. -/
abbrev ProgramFunction := String → TargetLanguage → Except ConversionError GeneratedProgram

/-- What becomes of a snippet in a language when programs are rendered by a function. -/
def outcome (translator : Translator) (render : ProgramFunction) (hcl : String)
    (language : TargetLanguage) : Except ConversionError String := do
  let translated ← translator.translated hcl
  let program ← render translated.pcl language
  let source ← program.source
  pure (if isBlankLine source then unavailable else source)

/-- No code that a snippet converts to is blank. -/
theorem isBlankLine_of_outcome {translator : Translator} {render : ProgramFunction}
    {hcl code : String} {language : TargetLanguage}
    (h : translator.outcome render hcl language = .ok code) : isBlankLine code = false := by
  unfold outcome at h
  simp only [bind_eq_ok_iff] at h
  obtain ⟨-, -, -, -, source, -, h⟩ := h
  cases h
  split
  case isTrue => decide
  case isFalse hblank => simpa using hblank

section Function

variable {m : Type → Type} [Monad m] [LawfulMonad m]

/-- Renders programs by a function and does nothing else. -/
def ofFunction (render : ProgramFunction) : ProgramConverter m :=
  fun pcl language ↦ ExceptT.mk (pure (render pcl language))

theorem bind_mk_pure {ε α β : Type} (first : Except ε α) (next : α → ExceptT ε m β) :
    ExceptT.mk (pure first) >>= next =
      match first with
      | .ok value => next value
      | .error error => throw error := by
  apply ExceptT.ext
  rw [ExceptT.run_bind, ExceptT.run_mk, pure_bind]
  cases first <;> rfl

theorem run_convert_ofFunction (translator : Translator) (render : ProgramFunction) (hcl : String)
    (language : TargetLanguage) :
    (translator.convert (ofFunction render : ProgramConverter m) hcl language).run =
      pure (translator.outcome render hcl language) := by
  unfold outcome convert convert.liftExcept ofFunction
  rw [bind_mk_pure]
  cases translator.translated hcl with
  | error error => rfl
  | ok translated =>
    simp only [bind_mk_pure]
    cases hrender : render translated.pcl language with
    | error error => simp [hrender, bind, Except.bind]
    | ok program =>
      cases hsource : program.source with
      | error error => simp [hrender, hsource, bind, Except.bind]
      | ok source =>
        simp only [hrender, hsource, bind, Except.bind]
        rfl

/-! ## One position after the other -/

/-- The positions that convert, with their code, and those that do not. -/
def Conversions.ofOutcome (outcome : TargetLanguage → Except ConversionError String)
    (languages : List TargetLanguage) : Conversions where
  converted := languages.filterMap fun language ↦ (outcome language).toOption.map (language, ·)
  failed := languages.filter fun language ↦ !(outcome language).isOk

theorem convertAll_ofFunction (translator : Translator) (render : ProgramFunction) (hcl : String)
    (languages : List TargetLanguage) :
    translator.convertAll (ofFunction render : ProgramConverter m) hcl languages =
      pure (.ofOutcome (translator.outcome render hcl) languages) := by
  induction languages with
  | nil => rfl
  | cons language rest ih =>
    rw [convertAll, run_convert_ofFunction, pure_bind, ih, pure_bind]
    cases houtcome : translator.outcome render hcl language with
    | ok code => simp [Conversions.ofOutcome, houtcome, Except.toOption, Except.isOk, Except.toBool]
    | error error =>
      simp [Conversions.ofOutcome, houtcome, Except.toOption, Except.isOk, Except.toBool]

theorem renderAll_ofFunction (translator : Translator) (render : ProgramFunction) (hcl : String)
    (languages : List TargetLanguage) (stats : Stats) :
    let conversions := Conversions.ofOutcome (translator.outcome render hcl) languages
    translator.renderAll (ofFunction render : ProgramConverter m) hcl languages stats =
      pure (conversions.rendered?, conversions.count stats) := by
  rw [renderAll, convertAll_ofFunction, pure_bind]

end Function

/-! ## Code blocks -/

/-- The code block of a conversion. -/
def codeBlock (conversion : TargetLanguage × String) : String :=
  "```" ++ conversion.1.name ++ "\n" ++ trimmed conversion.2 ++ "\n```"

theorem codeBlock?_eq {conversion : TargetLanguage × String}
    (h : isBlankLine conversion.2 = false) :
    codeBlock? conversion.1 conversion.2 = some (codeBlock conversion) := by
  unfold codeBlock?
  simp [isEmpty_trimmed, h, codeBlock]

/-- The same conversions in docs order, where those of one language stay in their order. -/
structure InDocsOrder (conversions sorted : List (TargetLanguage × String)) : Prop where
  perm : sorted.Perm conversions
  pairwise : sorted.Pairwise fun a b ↦
    TargetLanguage.docsOrder.idxOf a.1 ≤ TargetLanguage.docsOrder.idxOf b.1
  filter : ∀ language,
    sorted.filter (·.1 = language) = conversions.filter (·.1 = language)

theorem inDocsOrder_mergeSort (conversions : List (TargetLanguage × String)) :
    InDocsOrder conversions (conversions.mergeSort fun a b ↦ a.1.docsLe b.1) where
  perm := List.mergeSort_perm ..
  pairwise := by
    have hsorted : (conversions.mergeSort fun a b ↦ a.1.docsLe b.1).Pairwise
        fun a b ↦ a.1.docsLe b.1 = true :=
      List.pairwise_mergeSort (fun a b c ↦ TargetLanguage.docsLe_trans a.1 b.1 c.1)
        (fun a b ↦ TargetLanguage.docsLe_total a.1 b.1) conversions
    exact hsorted.imp (TargetLanguage.docsLe_iff ..).mp
  filter language := by
    refine filter_mergeSort (fun a b c ↦ TargetLanguage.docsLe_trans a.1 b.1 c.1)
      (fun a b ↦ TargetLanguage.docsLe_total a.1 b.1) conversions fun a b ha hb ↦ ?_
    rw [of_decide_eq_true ha, of_decide_eq_true hb]
    exact (TargetLanguage.docsLe_iff ..).mpr (Nat.le_refl _)

/-- Conversions without blank code have a code block each. -/
theorem exists_fencedBlocks_eq {conversions : List (TargetLanguage × String)}
    (h : ∀ conversion ∈ conversions, isBlankLine conversion.2 = false) :
    ∃ sorted, InDocsOrder conversions sorted ∧
      fencedBlocks conversions = "\n".intercalate (sorted.map codeBlock) := by
  have hsorted := inDocsOrder_mergeSort conversions
  refine ⟨_, hsorted, ?_⟩
  have hblocks : ∀ conversion ∈ conversions.mergeSort fun a b ↦ a.1.docsLe b.1,
      codeBlock? conversion.1 conversion.2 = some (codeBlock conversion) :=
    fun conversion hmem ↦ codeBlock?_eq (h conversion (hsorted.perm.mem_iff.mp hmem))
  rw [fencedBlocks, List.filterMap_congr hblocks]
  simp

/-! ## What is rendered and counted -/

/-- Each language counts once more for each position at which it failed; nothing else changes. -/
structure CountsFailures (failed : List TargetLanguage) (tally later : Tally) : Prop where
  counted : ∀ language ∈ failed,
    later.get? language.name =
      some ((tally.get? language.name).getD 0 + failed.count language)
  other : ∀ key, (∀ language ∈ failed, language.name ≠ key) → later.get? key = tally.get? key

theorem countsFailures_foldl (failed : List TargetLanguage) (stats : Stats) :
    ∃ failures, CountsFailures failed stats.partialFailures failures ∧
      failed.foldl (fun stats language ↦ stats.partialFailure language.name) stats =
        { stats with partialFailures := failures } := by
  have hfold : failed.foldl (fun stats language ↦ stats.partialFailure language.name) stats =
      { stats with
        partialFailures := (failed.map (·.name)).foldl (fun tally key ↦ tally.add key 1)
          stats.partialFailures } := by
    induction failed generalizing stats with
    | nil => rfl
    | cons language rest ih => rw [List.foldl_cons, ih]; rfl
  refine ⟨_, ⟨?_, ?_⟩, hfold⟩
  · intro language hlanguage
    rw [Tally.get?_foldl_add, if_pos (List.mem_map_of_mem hlanguage),
      List.count_map_of_injective _ _ TargetLanguage.name_injective]
  · intro key hkey
    rw [Tally.get?_foldl_add, if_neg]
    simpa using hkey

/-- What is rendered of a snippet and counted, by what becomes of it in each language. -/
structure RendersAll (outcome : TargetLanguage → Except ConversionError String)
    (languages : List TargetLanguage) (stats : Stats) (result : Option String × Stats) : Prop where
  eq_none_iff : result.1 = none ↔
    languages ≠ [] ∧ ∀ language ∈ languages, ∃ error, outcome language = .error error
  /-- A snippet that is lost. -/
  lost : result.1 = none → result.2 =
    { stats with failedExamples := stats.failedExamples + 1, warnings := stats.warnings + 1 }
  /-- A code block for each position that converts. -/
  blocks : ∀ text, result.1 = some text → ∃ sorted,
    InDocsOrder (Conversions.ofOutcome outcome languages).converted sorted ∧
      (∀ conversion ∈ sorted, trimmed conversion.2 ≠ "") ∧
      text = "\n".intercalate (sorted.map codeBlock)
  counts : ∀ text, result.1 = some text → ∃ failures,
    CountsFailures (Conversions.ofOutcome outcome languages).failed stats.partialFailures
        failures ∧
      result.2 = { stats with
        partialFailures := failures
        warnings := stats.warnings +
          if (Conversions.ofOutcome outcome languages).failed = [] then 0 else 1 }

section OfOutcome

variable {outcome : TargetLanguage → Except ConversionError String}
  {languages : List TargetLanguage}

theorem converted_ofOutcome_eq_nil_iff :
    (Conversions.ofOutcome outcome languages).converted = [] ↔
      ∀ language ∈ languages, ∃ error, outcome language = .error error := by
  unfold Conversions.ofOutcome
  rw [List.filterMap_eq_nil_iff]
  refine forall₂_congr fun language _ ↦ ?_
  cases outcome language <;> simp [Except.toOption]

theorem failed_ofOutcome_eq_nil_iff :
    (Conversions.ofOutcome outcome languages).failed = [] ↔
      ∀ language ∈ languages, ∃ code, outcome language = .ok code := by
  unfold Conversions.ofOutcome
  rw [List.filter_eq_nil_iff]
  refine forall₂_congr fun language _ ↦ ?_
  cases outcome language <;> simp [Except.isOk, Except.toBool]

theorem eq_ok_of_mem_converted {conversion : TargetLanguage × String}
    (h : conversion ∈ (Conversions.ofOutcome outcome languages).converted) :
    outcome conversion.1 = .ok conversion.2 := by
  obtain ⟨language, -, hconverts⟩ := List.mem_filterMap.mp h
  cases houtcome : outcome language with
  | error error => simp [houtcome, Except.toOption] at hconverts
  | ok code =>
    simp only [houtcome, Except.toOption, Option.map_some, Option.some.injEq] at hconverts
    rw [← hconverts, houtcome]

/-- Where nothing converts, nothing fails either only when there is no position at all. -/
theorem failed_ofOutcome_eq_nil_iff_of_converted
    (h : (Conversions.ofOutcome outcome languages).converted = []) :
    (Conversions.ofOutcome outcome languages).failed = [] ↔ languages = [] := by
  rw [failed_ofOutcome_eq_nil_iff]
  rw [converted_ofOutcome_eq_nil_iff] at h
  constructor
  · intro hall
    refine List.eq_nil_iff_forall_not_mem.mpr fun language hmem ↦ ?_
    obtain ⟨error, herror⟩ := h language hmem
    obtain ⟨code, hcode⟩ := hall language hmem
    rw [herror] at hcode
    cases hcode
  · rintro rfl
    exact List.forall_mem_nil _

theorem eq_fencedBlocks_of_rendered?_eq_some {conversions : Conversions} {text : String}
    (h : conversions.rendered? = some text) : text = fencedBlocks conversions.converted := by
  unfold Conversions.rendered? at h
  split at h
  · cases h
  · exact (Option.some.inj h).symm

theorem converted_ne_nil_of_rendered?_eq_some {conversions : Conversions} {text : String}
    (h : conversions.rendered? = some text) (hfailed : conversions.failed ≠ []) :
    conversions.converted ≠ [] := by
  intro hconverted
  simp [Conversions.rendered?, hconverted, hfailed] at h

theorem rendered?_eq_none_iff :
    (Conversions.ofOutcome outcome languages).rendered? = none ↔
      languages ≠ [] ∧ ∀ language ∈ languages, ∃ error, outcome language = .error error := by
  have hnone : (Conversions.ofOutcome outcome languages).rendered? = none ↔
      (Conversions.ofOutcome outcome languages).converted = [] ∧
        (Conversions.ofOutcome outcome languages).failed ≠ [] := by
    simp [Conversions.rendered?]
  rw [hnone, ← converted_ofOutcome_eq_nil_iff, and_comm]
  exact and_congr_left fun hconverted ↦
    not_congr (failed_ofOutcome_eq_nil_iff_of_converted hconverted)

theorem rendersAll_ofOutcome (stats : Stats)
    (hblank : ∀ language code, outcome language = .ok code → isBlankLine code = false) :
    RendersAll outcome languages stats
      ((Conversions.ofOutcome outcome languages).rendered?,
        (Conversions.ofOutcome outcome languages).count stats) where
  eq_none_iff := rendered?_eq_none_iff
  lost hlost := by
    rw [rendered?_eq_none_iff, ← converted_ofOutcome_eq_nil_iff] at hlost
    obtain ⟨hne, hconverted⟩ := hlost
    have hfailed := mt (failed_ofOutcome_eq_nil_iff_of_converted hconverted).mp hne
    simp [Conversions.count, hfailed, hconverted]
  blocks text htext := by
    have hconverts : ∀ conversion ∈ (Conversions.ofOutcome outcome languages).converted,
        isBlankLine conversion.2 = false :=
      fun conversion hmem ↦ hblank _ _ (eq_ok_of_mem_converted hmem)
    obtain ⟨sorted, hsorted, hblocks⟩ := exists_fencedBlocks_eq hconverts
    refine ⟨sorted, hsorted, ?_, ?_⟩
    · intro conversion hmem hempty
      have hcode := hconverts conversion (hsorted.perm.mem_iff.mp hmem)
      rw [← isEmpty_trimmed, hempty] at hcode
      exact absurd hcode (by decide)
    · rw [← hblocks, eq_fencedBlocks_of_rendered?_eq_some htext]
  counts text htext := by
    by_cases hfailed : (Conversions.ofOutcome outcome languages).failed = []
    · refine ⟨stats.partialFailures, ?_, ?_⟩
      · rw [hfailed]
        exact ⟨List.forall_mem_nil _, fun _ _ ↦ rfl⟩
      · simp [Conversions.count, hfailed]
    · have hconverted := converted_ne_nil_of_rendered?_eq_some htext hfailed
      obtain ⟨failures, hcounts, hfold⟩ :=
        countsFailures_foldl (Conversions.ofOutcome outcome languages).failed stats
      refine ⟨failures, hcounts, ?_⟩
      simp [Conversions.count, hfailed, hconverted, hfold, Stats.warn]

end OfOutcome

/-- A snippet that is rendered by a function in several languages is lost when there is a language
and it converts to none. Otherwise each position that converts leaves a block, each other one is
counted, and one warning tells of them. -/
theorem renderAll_ofFunction_rendersAll {m : Type → Type} [Monad m] [LawfulMonad m]
    (translator : Translator) (render : ProgramFunction) (hcl : String)
    (languages : List TargetLanguage) (stats : Stats) :
    (∀ language, (translator.convert (ofFunction render : ProgramConverter m) hcl language).run =
      pure (translator.outcome render hcl language)) ∧
    ∃ result,
      translator.renderAll (ofFunction render : ProgramConverter m) hcl languages stats =
        pure result ∧
      RendersAll (translator.outcome render hcl) languages stats result :=
  ⟨run_convert_ofFunction translator render hcl, _,
    renderAll_ofFunction translator render hcl languages stats,
    rendersAll_ofOutcome stats fun _ _ ↦ isBlankLine_of_outcome⟩

/-- One prepared snippet. -/
def preparedBucket : Translator := ⟨Dict.ofList [("bucket", ⟨"pcl", []⟩)]⟩

/-- Renders a comment with the name of the language, and fails for one language. -/
def commentExcept (failing : TargetLanguage) : ProgramFunction := fun _ language ↦
  if language = failing then .error (.malformedOutput "unsupported")
  else .ok ⟨Dict.ofList [("main", "// " ++ language.name ++ "\n")], []⟩

theorem renderAll_ofFunction_rendersAll_withoutPython :
    LawfulMonad (StateM FileTree) ∧
      (preparedBucket.outcome (commentExcept .python) "bucket" .python =
        .error (.malformedOutput "unsupported")) ∧
      ∃ result,
        preparedBucket.renderAll (ofFunction (commentExcept .python) :
          ProgramConverter (StateM FileTree)) "bucket" [.python, .go, .python, .typescript] .zero =
            pure result ∧
        RendersAll (preparedBucket.outcome (commentExcept .python) "bucket")
          [.python, .go, .python, .typescript] .zero result :=
  ⟨inferInstance, rfl, (renderAll_ofFunction_rendersAll preparedBucket (commentExcept .python)
    "bucket" [.python, .go, .python, .typescript] .zero).2⟩

end Translator

end ProviderDocs
