import ProviderDocs.CommandLine.Failure
import ProviderDocs.FileTree.Action
import ProviderDocs.Provider.Load
import ProviderDocs.Report.Summary

/-!
# Sessions

A command works on the files and writes to two streams. What it wrote before a failure stays.
-/

namespace ProviderDocs.CommandLine

structure Session where
  files : FileTree
  output : String
  errors : String

abbrev Action := ExceptT Failure (StateM Session)

namespace Action

variable {α ε : Type}

/-- Writes a line of output. -/
def say (line : String) : Action Unit :=
  modify fun session ↦ { session with output := session.output ++ line ++ "\n" }

def warn (line : String) : Action Unit :=
  modify fun session ↦ { session with errors := session.errors ++ line ++ "\n" }

/-- The files as they are. -/
def files : Action FileTree := do return (← get).files

def demand (cause : ε → Failure) (outcome : Except ε α) : Action α :=
  match outcome with
  | .ok value => pure value
  | .error error => throw (cause error)

/-- Carries out what only concerns files. -/
def onFiles (action : StateM FileTree α) : Action α := do
  let (value, files) := action.run (← files)
  modify fun session ↦ { session with files := files }
  return value

def readText (path : String) : Action String := do
  demand (.unreadable path) ((← files).readText path)

def writeText (path text : String) : Action Unit := do
  demand (.unwritable path) (← onFiles (FileAction.change (·.writeText path text)).run)

def loadMapping (path : String) : Action Provider := do
  demand (.mappingNotLoaded path) (Provider.load (← files) path)

/-- The provider of a mapping, under a name that is given on its own if there is one. -/
def readProvider (mapping name : Option String) : Action Provider := do
  let provider ← match mapping with
    | some path => loadMapping path
    | none => pure Provider.empty
  let provider := { provider with name := name.getD provider.name }
  if provider.name.isEmpty then throw .providerUnnamed
  return provider

/-- Writes the counters of a run. -/
def saySummary (stats : Stats) (typeCount : Option Nat) : Action Unit := do
  say "\nSummary:"
  let text := Report.summary stats typeCount
  modify fun session ↦ { session with output := session.output ++ text }

end Action

end ProviderDocs.CommandLine
