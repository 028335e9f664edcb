import ProviderDocs.FileTree.Basic

/-!
# Sequences of file operations

What was done before a failure stays done.
-/

namespace ProviderDocs

abbrev FileAction (ε : Type) := ExceptT ε (StateM FileTree)

namespace FileAction

variable {ε α : Type}

/-- Applies one operation, which changes nothing when it fails. -/
def change (operation : FileTree → Except FileError FileTree) : FileAction FileError Unit := do
  match operation (← get) with
  | .ok files => set files
  | .error error => throw error

/-- Looks at the files. -/
def inspect (operation : FileTree → Except FileError α) : FileAction FileError α := do
  match operation (← get) with
  | .ok value => pure value
  | .error error => throw error

/-- Says what a failure of an operation means for the caller. -/
def explain {δ : Type} (cause : δ → ε) (action : FileAction δ α) : FileAction ε α :=
  ExceptT.adapt cause action

/-- Makes a new temporary directory and returns its path. -/
def makeTemporary (namePrefix : String) : FileAction FileError String := do
  match (← get).makeTemporary namePrefix with
  | .ok (path, files) => set files; pure path
  | .error error => throw error

/-- Runs an action in a new temporary directory, which is removed afterwards. -/
def withTemporary (namePrefix : String) (cause : FileError → ε) (action : String → FileAction ε α) :
    FileAction ε α := do
  let path ← explain cause (makeTemporary namePrefix)
  ExceptT.mk do
    let outcome ← (action path).run
    modify fun files ↦
      match files.resolve path with
      | .ok location => files.removeBelow location
      | .error _ => files
    pure outcome

end FileAction

end ProviderDocs
