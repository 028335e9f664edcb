import ProviderDocs.Proofs.Conversion.AnyConverter
import ProviderDocs.Proofs.Conversion.Rendering

/-!
# What a translator knows

Snippets are prepared by one batch of the distinct ones, numbered in increasing order. The ids are
sorted as texts, where ten comes before two, but each snippet is told apart by its own number. So a
translator knows each snippet by the answer under its id, knows no other text, and does not depend
on the order in which snippets are listed or on how often.
-/

namespace ProviderDocs

namespace Translator

open Batch

/-! ## Distinct snippets -/

/-- The distinct snippets in increasing order. -/
def distinct (snippets : List String) : List String :=
  (Dict.ofList (snippets.map (·, ()))).keys

theorem mem_distinct {snippets : List String} {hcl : String} :
    hcl ∈ distinct snippets ↔ hcl ∈ snippets := by
  rw [distinct, Dict.mem_keys_iff, Dict.contains_ofList]
  simp

theorem pairwise_distinct (snippets : List String) : (distinct snippets).Pairwise (· < ·) := by
  rw [distinct, Dict.keys, List.pairwise_map]
  exact (Dict.ofList _).sorted

/-- No snippet stands at two places. -/
theorem getElem?_distinct_inj {snippets : List String} {hcl : String} {number other : Nat}
    (h : (distinct snippets)[number]? = some hcl)
    (hother : (distinct snippets)[other]? = some hcl) : number = other := by
  obtain ⟨hlt, heq⟩ := List.getElem?_eq_some_iff.mp h
  obtain ⟨hltOther, heqOther⟩ := List.getElem?_eq_some_iff.mp hother
  have hsorted := List.pairwise_iff_getElem.mp (pairwise_distinct snippets)
  rcases Nat.lt_trichotomy number other with hless | hsame | hgreater
  · have hless := hsorted number other hlt hltOther hless
    rw [heq, heqOther] at hless
    exact absurd hless (String.lt_irrefl hcl)
  · exact hsame
  · have hless := hsorted other number hltOther hlt hgreater
    rw [heq, heqOther] at hless
    exact absurd hless (String.lt_irrefl hcl)

/-- Neither the order of the snippets nor their repetitions matter. -/
theorem distinct_congr {snippets other : List String}
    (h : ∀ hcl, hcl ∈ other ↔ hcl ∈ snippets) : distinct other = distinct snippets := by
  have hdict : Dict.ofList (other.map (·, ())) = Dict.ofList (snippets.map (·, ())) := by
    apply Dict.ext_get?
    intro hcl
    have hsome : ((Dict.ofList (other.map (·, ()))).get? hcl).isSome =
        ((Dict.ofList (snippets.map (·, ()))).get? hcl).isSome := by
      rw [Bool.eq_iff_iff, ← Dict.contains, ← Dict.contains, ← Dict.mem_keys_iff,
        ← Dict.mem_keys_iff]
      exact mem_distinct.trans ((h hcl).trans mem_distinct.symm)
    cases hget : (Dict.ofList (other.map (·, ()))).get? hcl <;>
      cases hgets : (Dict.ofList (snippets.map (·, ()))).get? hcl <;> simp [hget, hgets] at hsome ⊢
  rw [distinct, distinct, hdict]

/-! ## Numbers -/

/-- The id of the snippet with a number. -/
def snippetId (number : Nat) : String := "e" ++ toString number

theorem snippetId_inj {number other : Nat} (h : snippetId number = snippetId other) :
    number = other := by
  have hdigits := congrArg String.toList ((String.append_right_inj "e").mp h)
  rw [Nat.toString_eq_repr, Nat.toString_eq_repr, Nat.toList_repr, Nat.toList_repr] at hdigits
  have hvalue := congrArg (Nat.ofDigitChars 10 · 0) hdigits
  simpa only [Nat.ofDigitChars_toDigits (by decide : 1 < 10) (by decide : 10 ≤ 10)] using hvalue

theorem numbered_eq (snippets : List String) :
    numbered snippets =
      (distinct snippets).zipIdx.map fun entry ↦ (snippetId entry.2, entry.1) :=
  rfl

theorem mem_numbered {snippets : List String} {id hcl : String} :
    (id, hcl) ∈ numbered snippets ↔
      ∃ number, id = snippetId number ∧ (distinct snippets)[number]? = some hcl := by
  simp only [numbered_eq, List.mem_map, Prod.mk.injEq, Prod.exists,
    List.mk_mem_zipIdx_iff_getElem?]
  constructor
  · rintro ⟨_, number, hget, rfl, rfl⟩
    exact ⟨number, rfl, hget⟩
  · rintro ⟨number, rfl, hget⟩
    exact ⟨hcl, number, hget, rfl, rfl⟩

/-- The batch of the distinct snippets under their ids. -/
def batch (snippets : List String) : Examples := Dict.ofList (numbered snippets)

theorem get?_batch_eq_some_iff {snippets : List String} {id hcl : String} :
    (batch snippets).get? id = some hcl ↔
      ∃ number, id = snippetId number ∧ (distinct snippets)[number]? = some hcl := by
  rw [← mem_numbered]
  refine Dict.get?_ofList_eq_some_iff fun entry hentry other hother hid ↦ ?_
  obtain ⟨number, hnumber, hget⟩ := mem_numbered.mp hentry
  obtain ⟨again, hagain, hgetAgain⟩ := mem_numbered.mp hother
  obtain rfl := snippetId_inj (hnumber.symm.trans (hid.trans hagain))
  rw [hget] at hgetAgain
  exact Prod.ext hid (Option.some.inj hgetAgain)

theorem isEmpty_batch {snippets : List String} (h : snippets ≠ []) :
    (batch snippets).isEmpty = false := by
  obtain ⟨hcl, hmem⟩ := List.exists_mem_of_ne_nil snippets h
  obtain ⟨number, hnumber⟩ := List.mem_iff_getElem?.mp (mem_distinct.mpr hmem)
  have hget := get?_batch_eq_some_iff.mpr ⟨number, rfl, hnumber⟩
  rw [Bool.eq_false_iff]
  intro hempty
  rw [Dict.eq_empty_of_isEmpty hempty] at hget
  cases hget

section OfAnswer

variable {snippets : List String} {answer : Dict TranslatedExample} {hcl : String}

theorem get?_ofAnswer_eq_some_iff {translated : TranslatedExample} :
    (ofAnswer (numbered snippets) answer).prepared.get? hcl = some translated ↔
      ∃ number, (distinct snippets)[number]? = some hcl ∧
        (answer.get? (snippetId number)).getD .empty = translated := by
  have hmem : ∀ hcl translated, (hcl, translated) ∈ (numbered snippets).map (fun entry ↦
      (entry.2, (answer.get? entry.1).getD .empty)) ↔ ∃ number,
        (distinct snippets)[number]? = some hcl ∧
          (answer.get? (snippetId number)).getD .empty = translated := by
    intro hcl translated
    simp only [List.mem_map, Prod.exists, Prod.mk.injEq, mem_numbered]
    constructor
    · rintro ⟨_, _, ⟨number, rfl, hget⟩, rfl, rfl⟩
      exact ⟨number, hget, rfl⟩
    · rintro ⟨number, hget, rfl⟩
      exact ⟨_, _, ⟨number, rfl, hget⟩, rfl, rfl⟩
  rw [← hmem]
  refine Dict.get?_ofList_eq_some_iff fun entry hentry other hother hsame ↦ ?_
  obtain ⟨number, hget, hentry⟩ := (hmem _ _).mp hentry
  obtain ⟨again, hgetAgain, hother⟩ := (hmem _ _).mp hother
  rw [hsame] at hget
  obtain rfl := getElem?_distinct_inj hget hgetAgain
  exact Prod.ext hsame (hentry.symm.trans hother)

theorem get?_ofAnswer_eq_none (h : hcl ∉ distinct snippets) :
    (ofAnswer (numbered snippets) answer).prepared.get? hcl = none := by
  rw [Option.eq_none_iff_forall_ne_some]
  intro translated hget
  obtain ⟨number, hnumber, -⟩ := get?_ofAnswer_eq_some_iff.mp hget
  exact h (List.mem_of_getElem? hnumber)

end OfAnswer

/-! ## Converting -/

section Convert

variable {m : Type → Type} [Monad m] [LawfulMonad m] {translator : Translator} {hcl : String}
  (render : ProgramConverter m) (language : TargetLanguage)

/-- Renders what a snippet was translated to, unless errors were reported of it. -/
def renderTranslated (translated : TranslatedExample) : ExceptT ConversionError m String :=
  match Diagnostic.errorText? translated.diagnostics with
  | some errors => throw (.diagnosed errors)
  | none => do
    let program ← render translated.pcl language
    let source ← convert.liftExcept program.source
    pure (if isBlankLine source then unavailable else source)

theorem convert_of_get?_eq_some {translated : TranslatedExample}
    (h : translator.prepared.get? hcl = some translated) :
    translator.convert render hcl language = renderTranslated render language translated := by
  unfold convert Translator.translated renderTranslated
  simp only [h]
  cases Diagnostic.errorText? translated.diagnostics with
  | some errors => exact bind_mk_pure ..
  | none => exact bind_mk_pure ..

theorem convert_of_get?_eq_none (h : translator.prepared.get? hcl = none) :
    translator.convert render hcl language = throw (.unknownSnippet hcl) := by
  unfold convert Translator.translated
  simp only [h]
  exact bind_mk_pure ..

end Convert

/-! ## Preparing -/

/-- Distinct snippets in increasing order, as a batch under their numbers. -/
structure Numbers (snippets distinct : List String) (batch : Examples) : Prop where
  sorted : distinct.Pairwise (· < ·)
  mem_iff : ∀ hcl, hcl ∈ distinct ↔ hcl ∈ snippets
  get?_iff : ∀ id hcl, batch.get? id = some hcl ↔
    ∃ number, id = snippetId number ∧ distinct[number]? = some hcl

/-- A translator converts the snippets by what an answer says under their ids, where a missing
answer says nothing, and no other text. -/
structure Knows (translator : Translator) (distinct : List String)
    (answer : Dict TranslatedExample) : Prop where
  listed : ∀ number hcl, distinct[number]? = some hcl →
    ∀ {m : Type → Type} [Monad m] [LawfulMonad m] (render : ProgramConverter m) language,
      translator.convert render hcl language =
        renderTranslated render language ((answer.get? (snippetId number)).getD .empty)
  unlisted : ∀ hcl, hcl ∉ distinct →
    ∀ {m : Type → Type} [Monad m] [LawfulMonad m] (render : ProgramConverter m) language,
      translator.convert render hcl language = throw (.unknownSnippet hcl)

theorem knows_ofAnswer (snippets : List String) (answer : Dict TranslatedExample) :
    (ofAnswer (numbered snippets) answer).Knows (distinct snippets) answer where
  listed number _ hnumber _ _ _ render language :=
    convert_of_get?_eq_some render language (get?_ofAnswer_eq_some_iff.mpr ⟨number, hnumber, rfl⟩)
  unlisted _ hnone _ _ _ render language :=
    convert_of_get?_eq_none render language (get?_ofAnswer_eq_none hnone)

section Prepare

variable {σ : Type} (behavior : Behavior σ) (snippets : List String) (mappings : List Provider)
  (world : World σ)

/-- The translator that preparing makes, or why there is none, and the world that it leaves. -/
def preparation : Except ConversionError Translator × World σ :=
  (prepare behavior.converter snippets mappings).run.run world

theorem preparation_eq :
    preparation behavior snippets mappings world =
      ((converted behavior (batch snippets) mappings world).1.map (ofAnswer (numbered snippets)),
        (converted behavior (batch snippets) mappings world).2) := by
  change (match converted behavior (batch snippets) mappings world with
    | (result, later) => (ExceptT.bindCont (fun answer ↦
        (pure (ofAnswer (numbered snippets) answer) : ExceptT ConversionError (StateM (World σ)) _))
          result).run later) = _
  rcases converted behavior (batch snippets) mappings world with ⟨error | answer, later⟩
  · rfl
  · rfl

end Prepare

section Prepares

variable {σ : Type} {behavior : Behavior σ} {snippets : List String} {mappings : List Provider}
  {world : World σ}

theorem preparation_nil :
    preparation behavior [] mappings world = (.ok (ofAnswer (numbered []) ∅), world) := by
  rw [preparation_eq, converted_of_isEmpty rfl]
  rfl

theorem preparation_of_answer (h : snippets ≠ []) {answer : Dict TranslatedExample}
    (hanswer : behavior.answer (batch snippets) mappings world = .ok answer) :
    preparation behavior snippets mappings world =
      (.ok (ofAnswer (numbered snippets) answer),
        behavior.called (batch snippets) mappings world) := by
  rw [preparation_eq, converted_of_ok (isEmpty_batch h) hanswer]
  rfl

theorem preparation_congr {other : List String} (h : ∀ hcl, hcl ∈ other ↔ hcl ∈ snippets) :
    preparation behavior other mappings world = preparation behavior snippets mappings world := by
  unfold preparation prepare
  rw [numbered_eq, distinct_congr h, ← numbered_eq]

end Prepares

/-- Preparing snippets makes one call on the distinct ones, or none when there are none, and gives
a translator that knows them by its answer. It only matters which snippets are listed. -/
theorem exists_numbers_and_preparation (snippets : List String) :
    ∃ distinct batch, Numbers snippets distinct batch ∧
      ∀ {σ : Type} (behavior : Behavior σ) (mappings : List Provider) (world : World σ),
        (snippets = [] → ∃ translator,
          preparation behavior snippets mappings world = (.ok translator, world) ∧
            translator.Knows [] ∅) ∧
        (snippets ≠ [] → ∀ answer, behavior.answer batch mappings world = .ok answer →
          ∃ translator,
            preparation behavior snippets mappings world =
                (.ok translator, behavior.called batch mappings world) ∧
              translator.Knows distinct answer) ∧
        ∀ other, (∀ hcl, hcl ∈ other ↔ hcl ∈ snippets) →
          preparation behavior other mappings world =
            preparation behavior snippets mappings world := by
  refine ⟨distinct snippets, batch snippets, ?_, ?_⟩
  · exact ⟨pairwise_distinct snippets, fun _ ↦ mem_distinct, fun _ _ ↦ get?_batch_eq_some_iff⟩
  · intro σ behavior mappings world
    refine ⟨?_, ?_, fun other ↦ preparation_congr⟩
    · rintro rfl
      exact ⟨_, preparation_nil, knows_ofAnswer [] ∅⟩
    · exact fun hne answer hanswer ↦
        ⟨_, preparation_of_answer hne hanswer, knows_ofAnswer snippets answer⟩

/-- Answers for one id that there may be and one that there is not. -/
def answerSecond : Behavior Unit := fun _ _ before ↦
  (.ok (Dict.ofList [("e1", ⟨"bucket", []⟩), ("e7", ⟨"queue", []⟩)]), before)

theorem exists_numbers_and_preparation_answerSecond :
    ["b", "a", "b"] ≠ [] ∧ ∃ distinct batch, Numbers ["b", "a", "b"] distinct batch ∧
      ∃ answer translator,
        answerSecond.answer batch [] ⟨[], (), .empty⟩ = .ok answer ∧
          preparation answerSecond ["b", "a", "b"] [] ⟨[], (), .empty⟩ =
            (.ok translator, answerSecond.called batch [] ⟨[], (), .empty⟩) ∧
          translator.Knows distinct answer := by
  obtain ⟨distinct, batch, hnumbers, hprepares⟩ :=
    exists_numbers_and_preparation ["b", "a", "b"]
  obtain ⟨-, hanswered, -⟩ := hprepares answerSecond [] ⟨[], (), .empty⟩
  obtain ⟨translator, hprepared, hknows⟩ := hanswered (by decide) _ rfl
  exact ⟨by decide, distinct, batch, hnumbers, _, translator, rfl, hprepared, hknows⟩

end Translator

end ProviderDocs
