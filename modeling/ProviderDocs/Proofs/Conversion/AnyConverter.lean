import ProviderDocs.Proofs.Conversion.Culprit

/-!
# Narrowing with any converter

Nothing is assumed of the converter here. It may keep a state, change files and answer the same
batch in another way each time. Whatever it answers, every call halves what is left of the batch,
so the number of calls is logarithmic and one example is left, which was in no batch that
converted. A conversion in bulk succeeds only through its first call, and its error is always that
of the first call.
-/

namespace ProviderDocs

/-- The error is the cause itself or tells of it beside a reproduction. -/
def ConversionError.Carries (error cause : ConversionError) : Prop :=
  error = cause ∨ ∃ directory, error = .minimalRepro directory cause

namespace Batch

/-! ## Calls and their answers -/

/-- A call on a batch, with the answer to it. -/
structure Trial where
  batch : Examples
  answer : Except ConversionError (Dict TranslatedExample)

def Trial.converts (trial : Trial) : Bool := trial.answer.isOk

/-- The half of the examples that is left after a call on the first half. -/
def Trial.half (trial : Trial) (examples : Examples) : Examples :=
  if trial.converts then (inHalves examples).2 else (inHalves examples).1

/-- Calls one after the other, each answered in the world that the one before it left. -/
inductive Behavior.Calls {σ : Type} (behavior : Behavior σ) (mappings : List Provider) :
    World σ → List Trial → World σ → Prop
  | none (world : World σ) : Calls behavior mappings world [] world
  | call {world later : World σ} {trials : List Trial} (batch : Examples)
      (rest : Calls behavior mappings (behavior.called batch mappings world) trials later) :
      Calls behavior mappings world (⟨batch, behavior.answer batch mappings world⟩ :: trials)
        later

theorem Behavior.Calls.calls_eq {σ : Type} {behavior : Behavior σ} {mappings : List Provider}
    {world later : World σ} {trials : List Trial}
    (h : behavior.Calls mappings world trials later) :
    later.calls = world.calls ++ trials.map (·.batch) := by
  induction h with
  | none world => exact (List.append_nil _).symm
  | call batch rest ih =>
    rw [ih, Behavior.called, List.append_assoc, List.singleton_append, List.map_cons]

/-! ## Halving -/

/-- Calls on first halves until fewer than two examples are left. -/
inductive Halving : Examples → List Trial → Examples → Prop
  | done {examples : Examples} (small : examples.size < 2) : Halving examples [] examples
  | halve {examples last : Examples} {trial : Trial} {trials : List Trial}
      (large : 2 ≤ examples.size) (batch : trial.batch = (inHalves examples).1)
      (rest : Halving (trial.half examples) trials last) : Halving examples (trial :: trials) last

section Half

variable (trial : Trial) (examples : Examples)

theorem Trial.size_half :
    examples.size / 2 ≤ (trial.half examples).size ∧
      (trial.half examples).size ≤ examples.size - examples.size / 2 := by
  obtain ⟨hfront, hback⟩ := size_inHalves examples
  unfold half
  split <;> omega

theorem Trial.half_sublist : (trial.half examples).entries.Sublist examples.entries := by
  unfold half
  split
  · exact List.drop_sublist ..
  · exact List.take_sublist ..

end Half

/-- No key of the second half is one of the first. -/
theorem contains_fst_inHalves {examples : Examples} {id : String}
    (h : (inHalves examples).2.contains id = true) : (inHalves examples).1.contains id = false := by
  rw [Bool.eq_false_iff]
  intro hfront
  exact String.lt_irrefl id (Dict.lt_of_contains_take hfront h)

theorem contains_of_sublist {some all : Examples} (h : some.entries.Sublist all.entries)
    {id : String} (hid : some.contains id = true) : all.contains id = true := by
  obtain ⟨hcl, hmem⟩ := Dict.exists_mem_of_contains hid
  rw [Dict.contains, Dict.get?, Entries.get?_eq_some_of_mem all.sorted (h.subset hmem)]
  rfl

namespace Halving

variable {examples last : Examples} {trials : List Trial}

theorem eq_nil_iff (h : Halving examples trials last) : trials = [] ↔ examples.size < 2 := by
  cases h with
  | done small => exact iff_of_true rfl small
  | halve large batch rest => exact iff_of_false (List.cons_ne_nil _ _) (by omega)

theorem sublist (h : Halving examples trials last) : last.entries.Sublist examples.entries := by
  induction h with
  | done small => exact .refl _
  | halve large batch rest ih => exact ih.trans (Trial.half_sublist _ _)

/-- One example is left, unless there was none. -/
theorem size_last (h : Halving examples trials last) : last.size = min 1 examples.size := by
  induction h with
  | done small => omega
  | @halve examples last trial trials large batch rest ih =>
    obtain ⟨hlower, -⟩ := trial.size_half examples
    omega

/-- A half, even the smaller one, needs at most one call less. -/
theorem log_le (h : Halving examples trials last) :
    Nat.log 2 examples.size ≤ trials.length := by
  induction h with
  | done small => rw [Nat.log_of_lt small, List.length_nil]
  | @halve examples last trial trials large batch rest ih =>
    obtain ⟨hlower, -⟩ := trial.size_half examples
    calc
      Nat.log 2 examples.size = Nat.log 2 (examples.size / 2) + 1 :=
        Nat.log_of_one_lt_of_le Nat.one_lt_two large
      _ ≤ Nat.log 2 (trial.half examples).size + 1 :=
        Nat.succ_le_succ (Nat.log_mono_right hlower)
      _ ≤ trials.length + 1 := Nat.succ_le_succ ih
      _ = (trial :: trials).length := List.length_cons.symm

theorem le_clog (h : Halving examples trials last) :
    trials.length ≤ Nat.clog 2 examples.size := by
  induction h with
  | done small => exact Nat.zero_le _
  | @halve examples last trial trials large batch rest ih =>
    obtain ⟨-, hupper⟩ := trial.size_half examples
    calc
      (trial :: trials).length = trials.length + 1 := List.length_cons
      _ ≤ Nat.clog 2 (trial.half examples).size + 1 := Nat.succ_le_succ ih
      _ ≤ Nat.clog 2 examples.size := clog_half_lt large hupper

/-- When a first half converts, what is left lies in the second, and it never comes back. -/
theorem contains_batch (h : Halving examples trials last) :
    ∀ trial ∈ trials, trial.converts = true → ∀ id, last.contains id = true →
      trial.batch.contains id = false := by
  induction h with
  | done small => exact List.forall_mem_nil _
  | @halve examples last trial trials large batch rest ih =>
    refine List.forall_mem_cons.mpr ⟨fun hconverts id hid ↦ ?_, ih⟩
    have hhalf := contains_of_sublist rest.sublist hid
    rw [Trial.half, if_pos hconverts] at hhalf
    rw [batch]
    exact contains_fst_inHalves hhalf

/-- The last call that fails was made on what is left. -/
theorem batch_of_getLast? (h : Halving examples trials last) :
    ∀ trial ∈ trials.getLast?, trial.converts = false → trial.batch = last := by
  induction h with
  | done small => exact fun trial hlast ↦ nomatch hlast
  | @halve examples last trial trials large batch rest ih =>
    intro other hother hfails
    cases rest with
    | done small =>
      obtain rfl : trial = other := by simpa using hother
      rw [batch, Trial.half, if_neg (by simp [hfails])]
    | halve large' batch' rest' =>
      rw [List.getLast?_cons_cons] at hother
      exact ih other hother hfails

end Halving

/-! ## Narrowing -/

/-- What narrowing comes to, by calls with any answers. -/
structure Narrows (examples : Examples) (trials : List Trial) (found : Bisection) : Prop where
  halving : Halving examples trials found.examples
  log_le : Nat.log 2 examples.size ≤ trials.length
  le_clog : trials.length ≤ Nat.clog 2 examples.size
  size : found.examples.size = min 1 examples.size
  get? : ∀ id hcl, found.examples.get? id = some hcl → examples.get? id = some hcl
  contains : ∀ trial ∈ trials, trial.converts = true → ∀ id,
    found.examples.contains id = true → trial.batch.contains id = false
  isConfirmed : found.isConfirmed = true ↔ examples.size < 2 ∨
    ∃ trial ∈ trials.getLast?, trial.converts = false ∧ trial.batch = found.examples

/-- Whether the last call failed, or what was known before any call. -/
def lastFailed (isConfirmed : Bool) (trials : List Trial) : Bool :=
  (trials.getLast?.map (!·.converts)).getD isConfirmed

theorem lastFailed_cons (isConfirmed : Bool) (trial : Trial) (trials : List Trial) :
    lastFailed isConfirmed (trial :: trials) = lastFailed (!trial.converts) trials := by
  unfold lastFailed
  rw [List.getLast?_cons]
  cases trials.getLast? <;> rfl

section Narrow

variable {σ : Type} (behavior : Behavior σ) (mappings : List Provider)

/-- One call on the first half, after which its answer says what is left. -/
theorem run_narrow_halve {examples : Examples} (h : 2 ≤ examples.size) (isConfirmed : Bool)
    (world : World σ) :
    let trial : Trial :=
      ⟨(inHalves examples).1, behavior.answer (inHalves examples).1 mappings world⟩
    (narrow behavior.converter mappings examples isConfirmed).run world =
      (narrow behavior.converter mappings (trial.half examples) (!trial.converts)).run
        (behavior.called (inHalves examples).1 mappings world) := by
  intro trial
  rw [narrow_of_le_size h]
  cases hanswer : behavior.answer (inHalves examples).1 mappings world with
  | error error =>
    have hconverts : trial.converts = false := by simp only [trial, Trial.converts, hanswer]; rfl
    rw [Trial.half, hconverts]
    rfl
  | ok answer =>
    have hconverts : trial.converts = true := by simp only [trial, Trial.converts, hanswer]; rfl
    rw [Trial.half, hconverts]
    rfl

/-- Narrowing halves, and remembers whether its last call failed. -/
theorem exists_halving (examples : Examples) (isConfirmed : Bool) (world : World σ) :
    ∃ trials last later,
      (narrow behavior.converter mappings examples isConfirmed).run world =
        (⟨last, lastFailed isConfirmed trials⟩, later) ∧
      behavior.Calls mappings world trials later ∧ Halving examples trials last := by
  induction hsize : examples.size using Nat.strongRecOn generalizing examples isConfirmed world with
  | ind size ih =>
    subst hsize
    rcases Nat.lt_or_ge examples.size 2 with hsmall | hlarge
    · exact ⟨[], examples, world, narrow_of_size_lt hsmall isConfirmed world, .none world,
        .done hsmall⟩
    · let trial : Trial :=
        ⟨(inHalves examples).1, behavior.answer (inHalves examples).1 mappings world⟩
      have hstep := run_narrow_halve behavior mappings hlarge isConfirmed world
      obtain ⟨-, hupper⟩ := trial.size_half examples
      obtain ⟨trials, last, later, hrun, hcalls, hhalving⟩ :=
        ih (trial.half examples).size (by omega) (trial.half examples) (!trial.converts)
          (behavior.called (inHalves examples).1 mappings world) rfl
      refine ⟨trial :: trials, last, later, ?_, .call _ hcalls, .halve hlarge rfl hhalving⟩
      rw [hstep, hrun, lastFailed_cons]

theorem Narrows.of_halving {examples last : Examples} {trials : List Trial}
    (h : Halving examples trials last) :
    Narrows examples trials ⟨last, lastFailed true trials⟩ where
  halving := h
  log_le := h.log_le
  le_clog := h.le_clog
  size := h.size_last
  get? id hcl hget := Entries.get?_eq_some_of_mem examples.sorted
    (h.sublist.subset (Entries.mem_of_get?_eq_some hget))
  contains := h.contains_batch
  isConfirmed := by
    rw [← h.eq_nil_iff, ← List.getLast?_eq_none_iff, lastFailed]
    have hbatch := h.batch_of_getLast?
    cases hlast : trials.getLast? with
    | none => simp
    | some trial =>
      have hbatch := hbatch trial hlast
      simpa using fun hfails ↦ hbatch hfails

/-- Narrowing a batch that was seen to fail, from any world. -/
theorem exists_narrows (examples : Examples) (world : World σ) :
    ∃ trials found later,
      (Bisection.ofFailing behavior.converter examples mappings).run world = (found, later) ∧
        behavior.Calls mappings world trials later ∧
        later.calls = world.calls ++ trials.map (·.batch) ∧ Narrows examples trials found := by
  obtain ⟨trials, last, later, hrun, hcalls, hhalving⟩ :=
    exists_halving behavior mappings examples true world
  exact ⟨trials, _, later, hrun, hcalls, hcalls.calls_eq, .of_halving hhalving⟩

end Narrow

/-! ## Converting in bulk -/

/-- How a conversion in bulk ends, by the answer to its first call. -/
structure EndsByFirstCall {σ : Type} (behavior : Behavior σ) (examples : Examples)
    (mappings : List Provider) (world : World σ) : Prop where
  succeeds : (∃ answer, (converted behavior examples mappings world).1 = .ok answer) ↔
    examples.isEmpty = true ∨ ∃ answer, behavior.answer examples mappings world = .ok answer
  empty : examples.isEmpty = true → converted behavior examples mappings world = (.ok ∅, world)
  answered : examples.isEmpty = false → ∀ answer,
    behavior.answer examples mappings world = .ok answer →
      converted behavior examples mappings world =
        (.ok answer, behavior.called examples mappings world)
  /-- The calls after the first one narrow the batch, and their answers do not change the error. -/
  failed : examples.isEmpty = false → ∀ cause,
    behavior.answer examples mappings world = .error cause →
      (∃ error, (converted behavior examples mappings world).1 = .error error ∧
        error.Carries cause) ∧
      ∃ trials found later,
        behavior.Calls mappings world (⟨examples, .error cause⟩ :: trials) later ∧
        (converted behavior examples mappings world).2.calls =
          world.calls ++ examples :: trials.map (·.batch) ∧
        Narrows examples trials found

section Convert

variable {σ : Type} {behavior : Behavior σ} {examples : Examples} {mappings : List Provider}
  {world : World σ}

theorem converted_of_isEmpty (h : examples.isEmpty = true) :
    converted behavior examples mappings world = (.ok ∅, world) := by
  unfold converted convert
  simp only [h]
  rfl

theorem converted_of_ok (hempty : examples.isEmpty = false) {answer : Dict TranslatedExample}
    (hanswer : behavior.answer examples mappings world = .ok answer) :
    converted behavior examples mappings world =
      (.ok answer, behavior.called examples mappings world) := by
  unfold converted convert
  simp only [hempty]
  refine (run_bind_converter _ world).trans ?_
  rw [hanswer]
  rfl

theorem exists_converted_carries (hempty : examples.isEmpty = false) {cause : ConversionError}
    (hanswer : behavior.answer examples mappings world = .error cause) :
    ∃ error, (converted behavior examples mappings world).1 = .error error ∧
      error.Carries cause := by
  rw [converted_of_error hempty hanswer]
  dsimp only
  split
  · exact ⟨_, rfl, .inr ⟨_, rfl⟩⟩
  · exact ⟨_, rfl, .inl rfl⟩

theorem exists_converted_calls (hempty : examples.isEmpty = false) {cause : ConversionError}
    (hanswer : behavior.answer examples mappings world = .error cause) :
    ∃ trials found later,
      behavior.Calls mappings world (⟨examples, .error cause⟩ :: trials) later ∧
        (converted behavior examples mappings world).2.calls =
          world.calls ++ examples :: trials.map (·.batch) ∧
        Narrows examples trials found := by
  obtain ⟨trials, found, later, hrun, hcalls, -, hnarrows⟩ :=
    exists_narrows behavior mappings examples (behavior.called examples mappings world)
  have hall : behavior.Calls mappings world (⟨examples, .error cause⟩ :: trials) later := by
    rw [← hanswer]
    exact .call examples hcalls
  refine ⟨trials, found, later, hall, ?_, hnarrows⟩
  rw [converted_calls hempty hanswer, narrowed, hrun, hall.calls_eq, List.map_cons]

theorem exists_converted_eq_ok_iff :
    (∃ answer, (converted behavior examples mappings world).1 = .ok answer) ↔
      examples.isEmpty = true ∨
        ∃ answer, behavior.answer examples mappings world = .ok answer := by
  cases hempty : examples.isEmpty with
  | true =>
    rw [converted_of_isEmpty hempty]
    exact iff_of_true ⟨_, rfl⟩ (.inl rfl)
  | false =>
    cases hanswer : behavior.answer examples mappings world with
    | ok answer =>
      rw [converted_of_ok hempty hanswer]
      exact iff_of_true ⟨_, rfl⟩ (.inr ⟨_, rfl⟩)
    | error cause =>
      obtain ⟨error, herror⟩ := exists_converted_eq_error hempty hanswer
      rw [herror]
      exact iff_of_false (fun ⟨_, h⟩ ↦ nomatch h) (by simp)

end Convert

/-- Whatever the converter answers, narrowing halves down to one example that was in no batch that
converted, and a conversion in bulk ends as its first call says. -/
theorem narrows_and_endsByFirstCall {σ : Type} (behavior : Behavior σ) (examples : Examples)
    (mappings : List Provider) (world : World σ) :
    (∃ trials found later,
      (Bisection.ofFailing behavior.converter examples mappings).run world = (found, later) ∧
        behavior.Calls mappings world trials later ∧
        later.calls = world.calls ++ trials.map (·.batch) ∧ Narrows examples trials found) ∧
      EndsByFirstCall behavior examples mappings world where
  left := exists_narrows behavior mappings examples world
  right :=
    { succeeds := exists_converted_eq_ok_iff
      empty := converted_of_isEmpty
      answered := fun hempty _ hanswer ↦ converted_of_ok hempty hanswer
      failed := fun hempty _ hanswer ↦
        ⟨exists_converted_carries hempty hanswer, exists_converted_calls hempty hanswer⟩ }

end Batch

end ProviderDocs
