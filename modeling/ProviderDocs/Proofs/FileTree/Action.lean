import ProviderDocs.FileTree.Action
import ProviderDocs.Proofs.FileTree.SameFile

/-!
# Runs of file actions

A run is known by its result and the tree it leaves. A sequence of actions succeeds when each of
them does in the tree that the ones before it left.
-/

namespace ProviderDocs

namespace FileAction

variable {ε α β : Type} {tree later : FileTree}

/-- The result of an action and the tree that it leaves. -/
def outcome (action : FileAction ε α) (tree : FileTree) : Except ε α × FileTree :=
  action.run.run tree

theorem outcome_pure (value : α) (tree : FileTree) :
    outcome (pure value : FileAction ε α) tree = (.ok value, tree) := rfl

theorem outcome_get (tree : FileTree) :
    outcome (get : FileAction ε FileTree) tree = (.ok tree, tree) := rfl

theorem outcome_bind (action : FileAction ε α) (next : α → FileAction ε β) (tree : FileTree) :
    outcome (action >>= next) tree = match outcome action tree with
      | (.ok value, between) => outcome (next value) between
      | (.error error, between) => (.error error, between) := by
  change (match outcome action tree with
    | (result, between) => (ExceptT.bindCont next result).run between) = _
  rcases outcome action tree with ⟨result, between⟩
  cases result <;> rfl

theorem outcome_change (operation : FileTree → Except FileError FileTree) (tree : FileTree) :
    outcome (change operation) tree = match operation tree with
      | .ok changed => (.ok (), changed)
      | .error error => (.error error, tree) := by
  unfold change
  rw [outcome_bind, outcome_get]
  dsimp only
  cases operation tree <;> rfl

theorem outcome_makeTemporary (namePrefix : String) (tree : FileTree) :
    outcome (makeTemporary namePrefix) tree = match tree.makeTemporary namePrefix with
      | .ok (path, changed) => (.ok path, changed)
      | .error error => (.error error, tree) := by
  unfold makeTemporary
  rw [outcome_bind, outcome_get]
  dsimp only
  generalize tree.makeTemporary namePrefix = made
  rcases made with error | ⟨path, changed⟩
  · rfl
  · rfl

/-! ## Success -/

/-- The action succeeds. -/
def Runs (action : FileAction ε α) (tree : FileTree) (result : α) (later : FileTree) : Prop :=
  outcome action tree = (.ok result, later)

theorem runs_of_toOption {action : FileAction ε α} {result : α}
    (h : (outcome action tree).1.toOption = some result) :
    Runs action tree result (outcome action tree).2 := by
  unfold Runs
  generalize outcome action tree = reached at h
  rcases reached with ⟨error | value, later⟩
  · cases h
  · cases h
    rfl

theorem exists_runs_of_isSome {action : FileAction ε α}
    (h : (outcome action tree).1.toOption.isSome) :
    ∃ result later, Runs action tree result later := by
  obtain ⟨result, hresult⟩ := Option.isSome_iff_exists.mp h
  exact ⟨result, _, runs_of_toOption hresult⟩

theorem runs_pure_iff {value result : α} :
    Runs (pure value : FileAction ε α) tree result later ↔ value = result ∧ tree = later := by
  simp [Runs, outcome_pure]

theorem runs_bind_iff {action : FileAction ε α} {next : α → FileAction ε β} {result : β} :
    Runs (action >>= next) tree result later ↔
      ∃ value between, Runs action tree value between ∧ Runs (next value) between result later := by
  unfold Runs
  rw [outcome_bind]
  rcases outcome action tree with ⟨first, between⟩
  cases first with
  | error error => simp
  | ok value =>
    constructor
    · exact fun h ↦ ⟨value, between, rfl, h⟩
    · rintro ⟨value, between, hfirst, h⟩
      cases hfirst
      exact h

theorem runs_change_iff {operation : FileTree → Except FileError FileTree} {result : Unit} :
    Runs (change operation) tree result later ↔ operation tree = .ok later := by
  unfold Runs
  rw [outcome_change]
  cases operation tree <;> simp

theorem runs_makeTemporary_iff {namePrefix path : String} :
    Runs (makeTemporary namePrefix) tree path later ↔
      tree.makeTemporary namePrefix = .ok (path, later) := by
  unfold Runs
  rw [outcome_makeTemporary]
  rcases tree.makeTemporary namePrefix with error | made
  · simp
  · simp [Prod.ext_iff]

/-- A loop that writes one text for each item writes them all. -/
theorem runs_forIn_writeText_iff {items : List α} {path text : α → String} {result : PUnit} :
    Runs (forIn items PUnit.unit fun item _ ↦ do
        change (·.writeText (path item) (text item))
        pure (.yield PUnit.unit)) tree result later ↔
      tree.writeAll (items.map fun item ↦ (path item, text item)) = .ok later := by
  induction items generalizing tree with
  | nil =>
    rw [List.forIn_nil, runs_pure_iff]
    simp [FileTree.writeAll, pure, Except.pure]
  | cons item rest ih =>
    have hrest : tree.writeAll ((item :: rest).map fun item ↦ (path item, text item)) =
        match tree.writeText (path item) (text item) with
        | .ok next => next.writeAll (rest.map fun item ↦ (path item, text item))
        | .error error => .error error := by
      simp only [FileTree.writeAll, List.map_cons, List.foldlM_cons]
      cases tree.writeText (path item) (text item) <;> rfl
    rw [List.forIn_cons, bind_assoc, runs_bind_iff, hrest]
    simp only [runs_change_iff, pure_bind, ih]
    cases tree.writeText (path item) (text item) <;> simp

end FileAction

end ProviderDocs
