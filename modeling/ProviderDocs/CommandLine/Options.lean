import ProviderDocs.Text.Search

/-!
# Options of a command line

Options are given by name as `--name value` or `--name=value`, and by letter as `-n value`,
`-nvalue` or `-n=value`; letters without values may be run together. All else is an operand,
and so is everything behind `--`. A value that is an argument of its own does not look like an
option.
-/

namespace ProviderDocs.CommandLine

/-- Why arguments are not carried out. -/
inductive Refusal where
  | misuse
  | help
  | version
  deriving DecidableEq, Repr

/-! ## Rules -/

inductive Arity where
  /-- No value, and at most once. -/
  | switch
  /-- A value, and at most once. -/
  | single
  /-- Values with commas between them, as often as wanted. -/
  | list
  /-- Ends the reading at once. -/
  | interrupt (refusal : Refusal)

structure OptionRule where
  name : String
  letter : Option Char
  arity : Arity
  /-- The values that are allowed. -/
  accepts : String → Bool

structure Grammar where
  rules : List OptionRule
  acceptsOperand : String → Bool
  /-- The first operand is a command, which has all arguments behind it. -/
  hasCommands : Bool

/-! ## What is given -/

structure Given where
  values : List (String × String)
  operands : List String

namespace Given

def empty : Given := ⟨[], []⟩

def has (given : Given) (name : String) : Bool := (given.values.lookup name).isSome

def value? (given : Given) (name : String) : Option String := given.values.lookup name

def list (given : Given) (name : String) : List String :=
  given.values.filterMap fun value ↦ if value.1 = name then some value.2 else none

/-- Enters an option with the text behind it. -/
def add (given : Given) (rule : OptionRule) (text : String) : Except Refusal Given :=
  let values := match rule.arity with
    | .list => (text.toList.splitOn ',').map String.ofList
    | _ => [text]
  let repeats := match rule.arity with
    | .list => false
    | _ => given.has rule.name
  if repeats || !values.all rule.accepts then .error .misuse
  else .ok { given with values := given.values ++ values.map (rule.name, ·) }

def addOperands (given : Given) (grammar : Grammar) (operands : List String) :
    Except Refusal Given :=
  if operands.all grammar.acceptsOperand then
    .ok { given with operands := given.operands ++ operands }
  else .error .misuse

end Given

/-! ## Reading arguments -/

inductive Argument where
  | named (name : String) (value : Option String)
  | letters (letters : List Char)
  | plain
  /-- All arguments behind it are operands. -/
  | ending

def Argument.ofText (text : String) : Argument :=
  match text.toList with
  | ['-', '-'] => ending
  | '-' :: '-' :: rest =>
    match Text.splitAt? ['='] rest with
    | some (name, value) => named (String.ofList name) (some (String.ofList value))
    | none => named (String.ofList rest) none
  | '-' :: letter :: rest => letters (letter :: rest)
  | _ => plain

/-- The option that waits for its value, if one does, and what is given before it. -/
abbrev Progress := Option OptionRule × Given

namespace Grammar

variable (grammar : Grammar)

/-- Takes an option by name. -/
def takeNamed (given : Given) (name : String) (value : Option String) : Except Refusal Progress :=
  match grammar.rules.find? (·.name = name) with
  | none => .error .misuse
  | some rule =>
    match rule.arity, value with
    | .interrupt refusal, none => .error refusal
    | .switch, none => do .ok (none, ← given.add rule "")
    | .interrupt _, some _ | .switch, some _ => .error .misuse
    | _, none => .ok (some rule, given)
    | _, some value => do .ok (none, ← given.add rule value)

/-- Takes options by letter; the first that has a value has all that follows. -/
def takeLetters (given : Given) : List Char → Except Refusal Progress
  | [] => .ok (none, given)
  | letter :: rest =>
    match grammar.rules.find? (·.letter = some letter) with
    | none => .error .misuse
    | some rule =>
      match rule.arity, rest with
      | .interrupt refusal, _ => .error refusal
      | .switch, rest => do takeLetters (← given.add rule "") rest
      | _, [] => .ok (some rule, given)
      | _, '=' :: value | _, value => do .ok (none, ← given.add rule (String.ofList value))

def readFrom : Progress → List String → Except Refusal Given
  | (some _, _), [] => .error .misuse
  | (none, given), [] => .ok given
  | (waiting, given), text :: rest =>
    match Argument.ofText text, waiting with
    | .plain, some rule => do readFrom (none, ← given.add rule text) rest
    | .plain, none =>
      if grammar.hasCommands then .ok { given with operands := text :: rest }
      else do readFrom (none, ← given.addOperands grammar [text]) rest
    | _, some _ => .error .misuse
    | .named name value, none => do readFrom (← grammar.takeNamed given name value) rest
    | .letters letters, none => do readFrom (← grammar.takeLetters given letters) rest
    | .ending, none =>
      if grammar.hasCommands then .error .misuse else given.addOperands grammar rest

def read (arguments : List String) : Except Refusal Given :=
  grammar.readFrom (none, .empty) arguments

end Grammar

end ProviderDocs.CommandLine
