import ProviderDocs.CommandLine.Program

/-!
# The executable

The files that an invocation may look at are read into a tree, the program runs on the tree,
and what it changed there is written back. The converter is a script, which runs on the tree
as well.
-/

namespace ProviderDocs.Executable

/-- The variables of the environment that the program and its converter see. -/
def variableNames : List String := [DocSource.requireDocsVariable, "HOME", "PATH", "TMPDIR"]

def readEnvironment : IO (Dict String) := do
  let mut environment := ∅
  for name in variableNames do
    if let some value ← IO.getEnv name then environment := environment.insert name value
  return environment

/-- Where a path leads in a tree. -/
def location (files : FileTree) (path : String) : List String :=
  (Path.components path).foldl
    (fun location name ↦
      if name = "." then location
      else if name = ".." then location.dropLast
      else location ++ [name])
    (if Path.isAbsolute path then [] else files.workingDirectory)

/-- Takes what is at a path into a tree; what cannot be read as a file is a directory. -/
def lookAt (files : FileTree) (path : String) : IO FileTree := do
  try
    return files.place (location files path) (.file (← IO.FS.readBinFile path) true)
  catch error =>
    match error with
    | .noFileOrDirectory .. => return files
    | _ => return files.place (location files path) .directory

/-- The tree that an invocation starts from. -/
def startingTree (invocation : CommandLine.Invocation) (temporary : String) : IO FileTree := do
  let directory := (Path.components (toString (← IO.currentDir)))
  let start := (FileTree.empty.place directory .directory).place (Path.components temporary)
    .directory
  let files := { start with workingDirectory := directory, temporary := temporary }
  let named := invocation.command.paths
  let files ← (named.filterMap Path.parent? ++ named).foldlM lookAt files
  (invocation.documentPaths files).foldlM lookAt files

/-- Writes what a run changed. -/
def store (before after : FileTree) : IO Unit := do
  for (path, node) in after.nodes.entries do
    match node, before.nodes.get? path with
    | .directory, none => IO.FS.createDirAll path
    | .file content _, some (.file earlier _) =>
      unless content.data = earlier.data do IO.FS.writeBinFile path content
    | .file content _, _ => IO.FS.writeBinFile path content
    | .directory, some _ => pure ()

/-- Runs the program on the files of the system. -/
def run (arguments : List String) : IO CommandLine.Outcome := do
  let environment ← readEnvironment
  let temporary := (environment.get? "TMPDIR").getD "/tmp"
  let before ← match CommandLine.Invocation.parse arguments with
    | .ok invocation => startingTree invocation temporary
    | .error _ => pure .empty
  let outcome := CommandLine.run arguments environment before
  store before outcome.files
  return outcome

end ProviderDocs.Executable

def main (arguments : List String) : IO UInt32 := do
  let outcome ← ProviderDocs.Executable.run arguments
  IO.print outcome.output
  IO.eprint outcome.errors
  return UInt32.ofNat outcome.status
