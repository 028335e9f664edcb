import ProviderDocs.FileTree.Action
import ProviderDocs.Shell.Run
import ProviderDocs.Text.Lossy

/-!
# Processes

A program is a file of the tree that names its interpreter in the first line. The shells are
the only interpreters there are. A name without a slash is that of a utility.
-/

namespace ProviderDocs.Shell

/-! ## Outcomes -/

inductive Ending where
  | exited (status : Nat)
  | signaled (signal : Nat)
  deriving DecidableEq

namespace Ending

def isSuccess (ending : Ending) : Bool := ending = exited 0

def message : Ending → String
  | exited status => s!"exit status: {status}"
  | signaled signal =>
    match if signal = 0 then none else Run.signalNames[signal - 1]? with
    | some name => s!"signal: {signal} (SIG{name})"
    | none => s!"signal: {signal}"

end Ending

structure Outcome where
  ending : Ending
  output : String
  errors : String

/-! ## Interpreters -/

/-- Where the system keeps its programs. -/
def systemDirectories : List String := ["/bin", "/usr/bin"]

/-- The name of a program that the system has. -/
def systemName? (program : String) : Option String :=
  if !program.toList.contains '/' then some program
  else
    match Path.parent? program, Path.fileName? program with
    | some directory, some name => if systemDirectories.contains directory then some name else none
    | _, _ => none

inductive Interpreter where
  /-- A shell with its flags. -/
  | shell (plainEcho : Bool) (flags : Bytes)
  /-- The program that looks for an interpreter by its name did not find it. -/
  | unknown (name : String)

/-- The interpreter of the program that a name and a flag call. -/
def Interpreter.ofName? : String → Bytes → Option Interpreter
  | "sh", flags | "dash", flags => some (.shell false flags)
  | "bash", flags => some (.shell true flags)
  | "env", name =>
    match String.ofList name with
    | "sh" | "dash" => some (.shell false [])
    | "bash" => some (.shell true [])
    | name => some (.unknown name)
  | _, _ => none

def isBlank (c : Char) : Bool := c = ' ' || c = '\t'

/-- The interpreter that the first line of a file names, with one argument at most. -/
def interpreter (content : Bytes) : Except FileError Interpreter :=
  match content with
  | '#' :: '!' :: rest =>
    let line := (rest.takeWhile (· != '\n')).dropWhile isBlank
    let line := (line.reverse.dropWhile isBlank).reverse
    let (path, rest) := Text.span (!isBlank ·) line
    if path.isEmpty then .error .notExecutable
    else
      let path := String.ofList path
      let found := if Path.isAbsolute path then systemName? path else none
      match found.bind fun name ↦ Interpreter.ofName? name (rest.dropWhile isBlank) with
      | some interpreter => .ok interpreter
      | none => .error .notFound
  | _ => .error .notExecutable

/-! ## Running programs -/

structure Call where
  program : String
  arguments : List String
  environment : Dict String
  /-- Relative paths start here, that of the program too. -/
  directory : String

namespace Call

/-- The shell in which a call runs: nothing to read, and two streams to write. -/
def machine (call : Call) (files : FileTree) (location : List String) (plainEcho : Bool)
    (flags : Bytes) : Machine where
  files := { files with workingDirectory := location }
  streams := #[[], []]
  environment := call.environment.map fun _ value ↦ Bytes.ofText value
  name := Bytes.ofText call.program
  parameters := call.arguments.map Bytes.ofText
  functions := []
  targets := [(0, .nowhere), (1, .stream 0), (2, .stream 1)]
  status := 0
  line := 1
  exitsOnError := flags.head? = some '-' && flags.contains 'e'
  requiresSet := flags.head? = some '-' && flags.contains 'u'
  isHalted := false
  plainEcho := plainEcho

/-- What a shell leaves behind; the working directory is the caller's own. -/
def leave (files : FileTree) (flow : Flow) (machine : Machine) : Outcome × FileTree :=
  let text := fun index ↦
    String.ofList (Text.decodeLossy (((machine.streams[index]?).getD []).map Char.toNat))
  (⟨match flow with
    | .killed signal => .signaled signal
    | _ => .exited machine.status, text 0, text 1⟩,
    { machine.files with workingDirectory := files.workingDirectory })

/-- Runs a script, or the message that its interpreter is missing. -/
def interpret (call : Call) (files : FileTree) (location : List String) (content : Bytes) :
    Except FileError (Outcome × FileTree) := do
  match ← interpreter content with
  | .shell plainEcho flags =>
    let (flow, machine) := run content (call.machine files location plainEcho flags)
    .ok (leave files flow machine)
  | .unknown name =>
    .ok (⟨.exited 127, "", s!"/usr/bin/env: '{name}': No such file or directory\n"⟩, files)

/-- Runs a file of the tree. -/
def runFile (call : Call) (files : FileTree) (location : List String) :
    Except FileError (Outcome × FileTree) := do
  let here := { files with workingDirectory := location }
  match here.node? (← here.resolve call.program) with
  | some (.file content true) => call.interpret files location (Bytes.ofArray content)
  | some _ => .error .permissionDenied
  | none => .error .notFound

/-- Runs a program; what it wrote to the files stays, however it ends. -/
def run (call : Call) (files : FileTree) : Except FileError (Outcome × FileTree) := do
  let location ← files.resolve call.directory
  match systemName? call.program with
  | some name =>
    match Utility.run? name (call.arguments.map Bytes.ofText) with
    | some utility =>
      let (status, machine) := utility (call.machine files location true [])
      .ok (leave files .exit { machine with status := status })
    | none => .error .notFound
  | none => call.runFile files location

/-- Runs a program on the files of an action. -/
def act (call : Call) : FileAction FileError Outcome := do
  match call.run (← get) with
  | .ok (outcome, files) => set files; pure outcome
  | .error error => throw error

end Call

end ProviderDocs.Shell
