import ProviderDocs.FileTree.Basic
import ProviderDocs.Shell.Pattern

/-!
# The state of a shell

A shell works on a file tree. Its descriptors lead to files or to streams, which are texts that
are written at the end and read from the front.
-/

namespace ProviderDocs.Shell

/-- Where a descriptor leads. -/
inductive Target where
  | stream (index : Nat)
  | file (location : List String)
  /-- Takes everything and holds nothing. -/
  | nowhere
  deriving DecidableEq

/-- How a command left off. -/
inductive Flow where
  | next
  | exit
  | returned
  | broken (levels : Nat)
  | continued (levels : Nat)
  /-- The process was ended by a signal. -/
  | killed (signal : Nat)
  deriving DecidableEq

structure Machine where
  files : FileTree
  streams : Array Bytes
  environment : Dict Bytes
  /-- The name of the script, for messages. -/
  name : Bytes
  parameters : List Bytes
  functions : List (String × Command)
  targets : List (Nat × Target)
  /-- The status of the last command. -/
  status : Nat
  /-- The line of the command that runs. -/
  line : Nat
  /-- A failing command ends the script. -/
  exitsOnError : Bool
  /-- An unset parameter ends the script. -/
  requiresSet : Bool
  /-- An expansion failed, which ends the script. -/
  isHalted : Bool
  /-- `echo` leaves backslashes alone. -/
  plainEcho : Bool

abbrev Run := StateM Machine

namespace Machine

/-- The number of the shell's own process. -/
def processId : Nat := 4242

def target (machine : Machine) (descriptor : Nat) : Target :=
  (machine.targets.lookup descriptor).getD .nowhere

/-- Characters that divide the fields of an expansion. -/
def dividers (machine : Machine) : Bytes := (machine.environment.get? "IFS").getD [' ', '\t', '\n']

def value? (machine : Machine) (name : String) : Option Bytes :=
  match name with
  | "#" => some (toString machine.parameters.length).toList
  | "?" => some (toString machine.status).toList
  | "$" => some (toString processId).toList
  | "0" => some machine.name
  | "-" => some []
  | "!" => none
  | "*" | "@" => some ((machine.dividers.take 1).intercalate machine.parameters)
  | name =>
    match name.toNat? with
    | some number => machine.parameters[number - 1]?
    | none => machine.environment.get? name

def setVariable (machine : Machine) (name : String) (value : Bytes) : Machine :=
  { machine with environment := machine.environment.insert name value }

def unset (machine : Machine) (name : String) : Machine :=
  { machine with
    environment := Dict.ofList (machine.environment.entries.filter fun entry ↦ entry.1 != name) }

/-- Gives variables the values that they had before. -/
def restore (machine before : Machine) (names : List String) : Machine :=
  names.foldl (fun machine name ↦
    match before.environment.get? name with
    | some value => machine.setVariable name value
    | none => machine.unset name) machine

/-- Writes to a descriptor. -/
def write (machine : Machine) (descriptor : Nat) (text : Bytes) : Machine :=
  match machine.target descriptor with
  | .stream index => { machine with streams := machine.streams.modify index (· ++ text) }
  | .file location =>
    match machine.files.node? location with
    | some (.file content isExecutable) =>
      { machine with
        files := machine.files.set location (.file (content ++ Bytes.toArray text) isExecutable) }
    | _ => machine
  | .nowhere => machine

/-- What a descriptor still holds. -/
def pending (machine : Machine) (descriptor : Nat) : Bytes :=
  match machine.target descriptor with
  | .stream index => (machine.streams[index]?).getD []
  | _ => []

/-- Takes characters from the front of a descriptor. -/
def consume (machine : Machine) (descriptor count : Nat) : Machine :=
  match machine.target descriptor with
  | .stream index => { machine with streams := machine.streams.modify index (·.drop count) }
  | _ => machine

/-- A new stream with a text. -/
def addStream (machine : Machine) (text : Bytes) : Machine × Nat :=
  ({ machine with streams := machine.streams.push text }, machine.streams.size)

def redirect (machine : Machine) (descriptor : Nat) (target : Target) : Machine :=
  { machine with targets := (descriptor, target) :: machine.targets }

/-- Paths to the device that holds nothing. -/
def nullDevice : String := "/dev/null"

/-- The text of a path, which messages and the file tree share. -/
def pathText (path : Bytes) : String := (String.fromUTF8? (Bytes.toArray path)).getD ""

def read (machine : Machine) (path : Bytes) : Except FileError Bytes :=
  if pathText path = nullDevice then .ok []
  else (machine.files.read (pathText path)).map Bytes.ofArray

/-- The last command failed and thereby ends the script, unless it is a condition. -/
def endsScript (machine : Machine) (inCondition : Bool) : Bool :=
  machine.exitsOnError && !inCondition && machine.status != 0

/-- The message that the shell itself gives. -/
def complain (machine : Machine) (text : String) : Machine :=
  machine.write 2 (machine.name ++ Bytes.ofText s!": {machine.line}: {text}\n")

/-- The message of a failure that ends the script. -/
def halt (machine : Machine) (text : String) : Machine :=
  { machine.complain text with status := 2, isHalted := true }

end Machine

end ProviderDocs.Shell
