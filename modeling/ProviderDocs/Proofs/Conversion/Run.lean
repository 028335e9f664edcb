import ProviderDocs.Conversion.Bisection
import ProviderDocs.Proofs.FileTree.Action

/-!
# Runs of a batch conversion

A converter may keep a state of its own and may change files. A run records the batches that it
is called on, in order. Narrowing makes one call for each halving and goes on with one of the
halves.
-/

namespace ProviderDocs

namespace Batch

variable {σ : Type}

/-- What a converter with states `σ` answers to a batch, and the state and files that it leaves. -/
abbrev Behavior (σ : Type) :=
  Examples → List Provider → σ × FileTree →
    Except ConversionError (Dict TranslatedExample) × (σ × FileTree)

structure World (σ : Type) where
  /-- The batches of the calls, the last one at the end. -/
  calls : List Examples
  /-- The state of the converter. -/
  state : σ
  files : FileTree

instance : MonadStateOf FileTree (StateM (World σ)) where
  get := fun world ↦ (world.files, world)
  set files := fun world ↦ (⟨⟩, { world with files := files })
  modifyGet change := fun world ↦
    ((change world.files).1, { world with files := (change world.files).2 })

namespace Behavior

variable (behavior : Behavior σ) (examples : Examples) (mappings : List Provider)

def answer (world : World σ) : Except ConversionError (Dict TranslatedExample) :=
  (behavior examples mappings (world.state, world.files)).1

/-- The world after one call. -/
def called (world : World σ) : World σ where
  calls := world.calls ++ [examples]
  state := (behavior examples mappings (world.state, world.files)).2.1
  files := (behavior examples mappings (world.state, world.files)).2.2

/-- The converter that behaves so and has its calls recorded. -/
def converter : BatchConverter (StateM (World σ)) := fun examples mappings ↦
  ExceptT.mk fun world ↦
    (behavior.answer examples mappings world, behavior.called examples mappings world)

end Behavior

/-! ## Narrowing -/

section Narrow

variable {behavior : Behavior σ} {mappings : List Provider} {examples : Examples}

theorem narrow_of_size_lt (h : examples.size < 2) (isConfirmed : Bool) (world : World σ) :
    (narrow behavior.converter mappings examples isConfirmed).run world =
      (⟨examples, isConfirmed⟩, world) := by
  rw [narrow, dif_neg (by omega)]
  rfl

/-- A batch of two or more is narrowed by a call on its first half. -/
theorem narrow_of_le_size (h : 2 ≤ examples.size) (isConfirmed : Bool) (world : World σ) :
    (narrow behavior.converter mappings examples isConfirmed).run world =
      (match behavior.answer (inHalves examples).1 mappings world with
        | .error _ => narrow behavior.converter mappings (inHalves examples).1 true
        | .ok _ => narrow behavior.converter mappings (inHalves examples).2 false).run
          (behavior.called (inHalves examples).1 mappings world) := by
  rw [narrow, dif_pos h]
  rfl

end Narrow

/-! ## Converting in bulk -/

section Convert

variable {behavior : Behavior σ} {mappings : List Provider} {examples : Examples}
  {world : World σ} {cause : ConversionError}

/-- How the narrowing of a batch ends that fails in the first call. -/
def narrowed (behavior : Behavior σ) (examples : Examples) (mappings : List Provider)
    (world : World σ) : Bisection × World σ :=
  (Bisection.ofFailing behavior.converter examples mappings).run
    (behavior.called examples mappings world)

/-- The result of a conversion and the world that it leaves. -/
def converted (behavior : Behavior σ) (examples : Examples) (mappings : List Provider)
    (world : World σ) : Except ConversionError (Dict TranslatedExample) × World σ :=
  (convert behavior.converter examples mappings).run.run world

/-- A call of the converter, and then what depends on its answer. -/
theorem run_bind_converter {α : Type}
    (next : Except ConversionError (Dict TranslatedExample) → StateM (World σ) α)
    (world : World σ) :
    ((behavior.converter examples mappings).run >>= next).run world =
      (next (behavior.answer examples mappings world)).run
        (behavior.called examples mappings world) := rfl

/-- Narrowing first, and then an action on the files that depends on what was found. -/
theorem run_bind_modifyGet {α β γ : Type} (search : StateM (World σ) α)
    (action : α → FileTree → β × FileTree) (next : β → StateM (World σ) γ) (world : World σ) :
    (do
      let found ← search
      let result ← modifyGet (action found)
      next result : StateM (World σ) γ).run world =
        (next (action (search.run world).1 (search.run world).2.files).1).run
          { (search.run world).2 with
            files := (action (search.run world).1 (search.run world).2.files).2 } := rfl

/-- A batch whose first call fails leaves a reproduction of what it was narrowed down to. -/
theorem converted_of_error (hempty : examples.isEmpty = false)
    (hanswer : behavior.answer examples mappings world = .error cause) :
    converted behavior examples mappings world =
      let narrowed := narrowed behavior examples mappings world
      match FileAction.outcome (writeRepro narrowed.1.examples mappings) narrowed.2.files with
      | (.ok directory, files) =>
        (.error (.minimalRepro directory cause), { narrowed.2 with files := files })
      | (.error _, files) => (.error cause, { narrowed.2 with files := files }) := by
  unfold converted convert
  simp only [hempty]
  refine (run_bind_converter _ world).trans ?_
  rw [hanswer]
  refine (run_bind_modifyGet (Bisection.ofFailing behavior.converter examples mappings)
    (fun minimal ↦ FileAction.outcome (writeRepro minimal.examples mappings)) _ _).trans ?_
  unfold narrowed
  generalize (Bisection.ofFailing behavior.converter examples mappings).run
    (behavior.called examples mappings world) = found
  dsimp only
  generalize FileAction.outcome (writeRepro found.1.examples mappings) found.2.files = written
  rcases written with ⟨error | directory, files⟩
  · rfl
  · rfl

theorem exists_converted_eq_error (hempty : examples.isEmpty = false)
    (hanswer : behavior.answer examples mappings world = .error cause) :
    ∃ error, (converted behavior examples mappings world).1 = .error error := by
  rw [converted_of_error hempty hanswer]
  dsimp only
  split
  · exact ⟨_, rfl⟩
  · exact ⟨_, rfl⟩

theorem converted_calls (hempty : examples.isEmpty = false)
    (hanswer : behavior.answer examples mappings world = .error cause) :
    (converted behavior examples mappings world).2.calls =
      (narrowed behavior examples mappings world).2.calls := by
  rw [converted_of_error hempty hanswer]
  dsimp only
  split
  · rfl
  · rfl

theorem converted_of_runs (hempty : examples.isEmpty = false)
    (hanswer : behavior.answer examples mappings world = .error cause) {directory : String}
    {later : FileTree}
    (hrun : FileAction.Runs
      (writeRepro (narrowed behavior examples mappings world).1.examples mappings)
      (narrowed behavior examples mappings world).2.files directory later) :
    converted behavior examples mappings world = (.error (.minimalRepro directory cause),
      { (narrowed behavior examples mappings world).2 with files := later }) := by
  rw [converted_of_error hempty hanswer]
  dsimp only
  rw [hrun]

end Convert

end Batch

end ProviderDocs
