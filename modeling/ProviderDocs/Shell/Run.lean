import ProviderDocs.Shell.Arithmetic
import ProviderDocs.Shell.Parser
import ProviderDocs.Shell.PathPattern
import ProviderDocs.Shell.Utility

/-!
# Running shell scripts

Commands run one after the other, those of a pipe too, and change the machine. All of it is
bounded by fuel, so a script that would run forever is cut off.
-/

namespace ProviderDocs.Shell

namespace Run

/-- Sets the status of a command that is done. -/
def done (status : Nat) : Run Flow := do
  modify fun machine ↦ { machine with status := status }
  return .next

/-- What a subshell changes of the shell around it: files, streams and the status. -/
def leaveSubshell (before after : Machine) : Machine :=
  { before with
    files := { after.files with workingDirectory := before.files.workingDirectory }
    streams := after.streams
    status := after.status }

/-- The names of signals in the order of their numbers, which start at one. -/
def signalNames : List String :=
  ["HUP", "INT", "QUIT", "ILL", "TRAP", "ABRT", "BUS", "FPE", "KILL", "USR1", "SEGV", "USR2",
    "PIPE", "ALRM", "TERM"]

/-- The signal that scripts send by name or number. -/
def signal? (name : String) : Option Nat :=
  let name := (after? name "SIG").getD name
  match signalNames.idxOf? name with
  | some index => some (index + 1)
  | none => name.toNat?

/-! ## Redirections -/

/-- Opens the file of a redirection. -/
def openFile (kind : RedirectKind) (path : Bytes) : Run (Except FileError Target) := do
  let machine ← get
  let text := Machine.pathText path
  if text = Machine.nullDevice then return .ok .nowhere
  else
    match kind with
    | .input =>
      match machine.read path with
      | .error error => return .error error
      | .ok content =>
        let (machine, index) := machine.addStream content
        set machine
        return .ok (.stream index)
    | _ =>
      let keeps := kind = .append && machine.files.isFile text
      match if keeps then .ok machine.files else machine.files.writeText text "" with
      | .error error => return .error error
      | .ok files =>
        set { machine with files := files }
        return (files.resolve text).map .file

/-- What the shell says of a file that it cannot open. -/
def openFailure (kind : RedirectKind) (path : Bytes) (error : FileError) : String :=
  let path := Machine.pathText path
  match kind, error with
  | .input, .notFound => s!"cannot open {path}: No such file"
  | .input, error => s!"cannot open {path}: {Utility.causeText error}"
  | _, .notFound => s!"cannot create {path}: Directory nonexistent"
  | _, error => s!"cannot create {path}: {Utility.causeText error}"

/-- Points a descriptor to where a redirection leads; `false` when that cannot be opened. -/
def redirect (redirect : Redirect) (word : Bytes) : Run Bool := do
  match redirect.kind with
  | .document =>
    modify fun machine ↦
      let (machine, index) := machine.addStream word
      machine.redirect redirect.descriptor (.stream index)
    return true
  | .duplicate =>
    modify fun machine ↦
      let target := (String.ofList word).toNat?.map machine.target
      machine.redirect redirect.descriptor (target.getD .nowhere)
    return true
  | kind =>
    match ← openFile kind word with
    | .ok target =>
      modify (·.redirect redirect.descriptor target)
      return true
    | .error error =>
      modify (·.complain (openFailure kind word error))
      return false

/-! ## Builtin commands -/

/-- Does something with the number that the first argument gives. -/
def withNumber (name : String) (arguments : List Bytes) (default : Nat)
    (act : Nat → Run Flow) : Run Flow :=
  match arguments.head? with
  | none => act default
  | some argument =>
    match (String.ofList argument).toNat? with
    | some number => act number
    | none => do
      modify (·.halt s!"{name}: Illegal number: {Machine.pathText argument}")
      return .exit

/-- Sets options of the shell by their letters. -/
def setOptions (flags : Bytes) (value : Bool) : Run Unit := modify fun machine ↦
  { machine with
    exitsOnError := if flags.contains 'e' then value else machine.exitsOnError
    requiresSet := if flags.contains 'u' then value else machine.requiresSet }

/-- Why a test cannot be understood. -/
def testFailure (arguments : List Bytes) : String :=
  let unexpected := s!"{Machine.pathText (arguments.head?.getD [])}: unexpected operator"
  match arguments with
  | [a, operator, b] =>
    if (Utility.compare? (String.ofList operator) 0 0).isSome then
      let wrong := if (Utility.number? a).isSome then b else a
      s!"Illegal number: {Machine.pathText wrong}"
    else unexpected
  | _ => unexpected

/-- Sets variables to the fields of a line, the last one to all that is left. -/
def readFields (machine : Machine) (line : Bytes) : List String → Machine
  | [] => machine
  | [name] =>
    let isEdge := fun c ↦ Piece.isBlank c && machine.dividers.contains c
    machine.setVariable name ((line.dropWhile isEdge).reverse.dropWhile isEdge).reverse
  | name :: names =>
    let (field, rest) := Piece.firstField machine.dividers line
    readFields (machine.setVariable name field) rest names

/-- Commands that change the shell itself. -/
def builtin? (name : String) (arguments : List Bytes) : Option (Run Flow) :=
  match name with
  | "exit" => some do
    withNumber name arguments (← get).status fun number ↦ do
      modify fun machine ↦ { machine with status := number % 256 }
      return .exit
  | "return" => some do
    withNumber name arguments (← get).status fun number ↦ do
      modify fun machine ↦ { machine with status := number }
      return .returned
  | "break" => some (withNumber name arguments 1 fun number ↦ return .broken number)
  | "continue" => some (withNumber name arguments 1 fun number ↦ return .continued number)
  | "shift" => some <| withNumber name arguments 1 fun number ↦ do
    let machine ← get
    if number ≤ machine.parameters.length then
      set { machine with parameters := machine.parameters.drop number }
      done 0
    else
      set (machine.halt "shift: can't shift that many")
      return .exit
  | "cd" => some do
    let machine ← get
    let path := Machine.pathText (arguments.head?.getD [])
    match machine.files.resolve path with
    | .ok location =>
      set { machine with files := { machine.files with workingDirectory := location } }
      done 0
    | .error _ =>
      set (machine.complain s!"cd: can't cd to {path}")
      done 2
  | "pwd" => some do
    let machine ← get
    set (machine.write 1 (Bytes.ofText (FileTree.key machine.files.workingDirectory ++ "\n")))
    done 0
  | "set" => some do
    match arguments with
    | ['-', '-'] :: rest => modify fun machine ↦ { machine with parameters := rest }
    | ('-' :: flags) :: _ => setOptions flags true
    | ('+' :: flags) :: _ => setOptions flags false
    | [] => pure ()
    | rest => modify fun machine ↦ { machine with parameters := rest }
    done 0
  | "export" | "local" | "readonly" => some do
    for argument in arguments do
      match Parser.assignment? argument with
      | some name => modify (·.setVariable name (argument.drop (name.length + 1)))
      | none => pure ()
    done 0
  | "unset" => some do
    modify fun machine ↦ (arguments.map String.ofList).foldl Machine.unset machine
    done 0
  | "umask" | "trap" | "wait" => some (done 0)
  | "read" => some do
    let machine ← get
    let names := (arguments.filter (· != ['-', 'r'])).map String.ofList
    let text := machine.pending 0
    let line := text.takeWhile (· != '\n')
    let machine := machine.consume 0 (line.length + 1)
    set (readFields machine line (if names.isEmpty then ["REPLY"] else names))
    done (if text.length ≤ line.length then 1 else 0)
  | "kill" => some do
    let (signal, targets) := match arguments with
      | ['-', 's'] :: name :: rest => (signal? (String.ofList name), rest)
      | ('-' :: name) :: rest => (signal? (String.ofList name), rest)
      | rest => (some 15, rest)
    match signal, targets with
    | some signal, [target] =>
      if (String.ofList target).toNat? = some Machine.processId && signal != 0 then
        return .killed signal
      else done 0
    | _, _ => done 1
  | "test" | "[" => some do
    let closed := name = "test" || arguments.getLast? = some [']']
    let arguments := if name = "test" then arguments else arguments.dropLast
    let files := (← get).files
    match Utility.test files (arguments.length + 1) arguments, closed with
    | some truth, true => done (if truth then 0 else 1)
    | _, true => modify (·.complain s!"{name}: {testFailure arguments}"); done 2
    | _, false => modify (·.complain "[: missing ]"); done 2
  | _ => none

/-- A utility, or a failure when there is none of the name. -/
def utility (name : Bytes) (arguments : List Bytes) : Run Flow := do
  match Utility.run? (Machine.pathText name) arguments with
  | some run => done (← run)
  | none =>
    modify (·.complain s!"{Machine.pathText name}: not found")
    done 127

/-! ## Expansion and commands -/

/-- How a loop goes on after its body; `none` when the next round is due. -/
def afterBody : Flow → Option Flow
  | .next => none
  | .broken levels => some (if levels ≤ 1 then .next else .broken (levels - 1))
  | .continued levels => if levels ≤ 1 then none else some (.continued (levels - 1))
  | flow => some flow

/-- The numeric value of a variable. -/
def intOf (machine : Machine) (name : String) : Int :=
  ((machine.value? name).bind fun
    | '-' :: digits => (Arithmetic.number? digits).map (-·)
    | digits => Arithmetic.number? digits).getD 0

/-- The value of a parameter, which the shell may require to be set. -/
def valueOf (name : String) : Run Bytes := do
  let machine ← get
  match machine.value? name with
  | some value => return value
  | none =>
    if machine.requiresSet then set (machine.halt s!"{name}: parameter not set")
    return []

/-- Does something unless an expansion failed. -/
def unlessHalted (act : Run Flow) : Run Flow := do
  if (← get).isHalted then return .exit else act

mutual

/-- The output of a script that runs in a subshell. -/
def capture (script : Bytes) : Nat → Run Bytes
  | 0 => return []
  | fuel + 1 => do
    let before ← get
    let (machine, index) := before.addStream []
    set (machine.redirect 1 (.stream index))
    match parse? before.line script with
    | some body =>
      let _ ← command false body fuel
      pure ()
    | none => modify fun machine ↦ { machine with status := 2 }
    let text := ((← get).streams[index]?).getD []
    modify (leaveSubshell before)
    return (text.reverse.dropWhile (· = '\n')).reverse
termination_by structural fuel => fuel

/-- The pieces of a word. -/
def expand : Word → Nat → Run (List Piece)
  | _, 0 => return []
  | [], _ => return []
  | part :: rest, fuel + 1 => do
    let pieces ← match part with
      | .text text isQuoted => pure (Piece.ofText text isQuoted false)
      | .parameter name isQuoted =>
        let machine ← get
        match name with
        | "@" => pure (Piece.ofFields isQuoted machine.parameters)
        | "*" =>
          if isQuoted then pure (Piece.ofText ((machine.value? "*").getD []) true true)
          else pure (Piece.ofFields false machine.parameters)
        | name => pure (Piece.ofText (← valueOf name) isQuoted true)
      | .modified name operation orEmpty word isQuoted =>
        modified name operation orEmpty word isQuoted fuel
      | .output script isQuoted => pure (Piece.ofText (← capture script fuel) isQuoted true)
      | .arithmetic expression isQuoted => do
        let text := (Piece.joined (← expand expression fuel)).text
        match Arithmetic.eval? (intOf (← get)) text with
        | some value => pure (Piece.ofText (toString value).toList isQuoted true)
        | none =>
          modify (·.halt s!"arithmetic expression: expecting primary: \"{Machine.pathText text}\"")
          pure []
    return pieces ++ (← expand rest fuel)
termination_by structural _ fuel => fuel

def modified (name : String) (operation : Operation) (orEmpty : Bool) (word : Word)
    (isQuoted : Bool) : Nat → Run (List Piece)
  | 0 => return []
  | fuel + 1 => do
    let value := (← get).value? name
    let isSet := value.any fun value ↦ !(orEmpty && value.isEmpty)
    let own := Piece.ofText (value.getD []) isQuoted true
    match operation with
    | .length => return Piece.ofText (toString (← valueOf name).length).toList isQuoted true
    | .default =>
      if isSet then return own else return (← expand word fuel).map Piece.ofExpansion
    | .alternative =>
      if isSet then return (← expand word fuel).map Piece.ofExpansion
      else return Piece.ofText [] isQuoted true
    | .assign =>
      if isSet then return own
      else
        let text := (Piece.joined (← expand word fuel)).text
        modify (·.setVariable name text)
        return Piece.ofText text isQuoted true
    | .demand =>
      unless isSet do
        let text := (Piece.joined (← expand word fuel)).text
        let text :=
          if !text.isEmpty then Machine.pathText text
          else if orEmpty then "parameter not set or null"
          else "parameter not set"
        modify (·.halt s!"{name}: {text}")
      return own
    | .dropFront longest =>
      let pattern := Piece.joined (← expand word fuel)
      return Piece.ofText (pattern.dropFront longest (← valueOf name)) isQuoted true
    | .dropEnd longest =>
      let pattern := Piece.joined (← expand word fuel)
      return Piece.ofText (pattern.dropEnd longest (← valueOf name)) isQuoted true
termination_by structural fuel => fuel

/-- The text of a word that is one field. -/
def textOf (word : Word) : Nat → Run Bytes
  | 0 => return []
  | fuel + 1 => do return (Piece.joined (← expand word fuel)).text
termination_by structural fuel => fuel

/-- The fields of words. -/
def fieldsOf : List Word → Nat → Run (List Bytes)
  | _, 0 => return []
  | [], _ => return []
  | word :: rest, fuel + 1 => do
    let pieces ← expand word fuel
    let machine ← get
    let fields := (Piece.fields machine.dividers pieces).flatMap (Pattern.expandPaths machine.files)
    return fields ++ (← fieldsOf rest fuel)
termination_by structural _ fuel => fuel

def assignAll : List (String × Word) → Nat → Run Unit
  | _, 0 => return
  | [], _ => return
  | (name, word) :: rest, fuel + 1 => do
    let text ← textOf word fuel
    modify (·.setVariable name text)
    assignAll rest fuel
termination_by structural _ fuel => fuel

def redirectAll : List Redirect → Nat → Run Bool
  | _, 0 => return false
  | [], _ => return true
  | next :: rest, fuel + 1 => do
    let text ← textOf next.word fuel
    if ← redirect next text then redirectAll rest fuel else return false
termination_by structural _ fuel => fuel

/-- Runs a command with its own descriptors. -/
def withRedirects (redirects : List Redirect) (body : Run Flow) : Nat → Run Flow
  | 0 => return .exit
  | fuel + 1 => do
    let targets := (← get).targets
    let flow ← if ← redirectAll redirects fuel then unlessHalted body else done 2
    modify fun machine ↦ { machine with targets := targets }
    return flow
termination_by structural fuel => fuel

/-- Runs a command by its name: a function, a builtin command or a utility. -/
def call (inCondition : Bool) (name : Bytes) (arguments : List Bytes) : Nat → Run Flow
  | 0 => return .exit
  | fuel + 1 => do
    let machine ← get
    match machine.functions.lookup (String.ofList name) with
    | some body =>
      set { machine with parameters := arguments }
      let flow ← command inCondition body fuel
      modify fun after ↦ { after with parameters := machine.parameters }
      return if flow = .returned then .next else flow
    | none =>
      if name = "eval".toList then
        match parse? 1 ([' '].intercalate arguments) with
        | some body => command inCondition body fuel
        | none => done 2
      else if name = "exec".toList || name = "command".toList then
        match arguments with
        | [] => done 0
        | name' :: rest =>
          let flow ← call inCondition name' rest fuel
          return if name = "exec".toList then .exit else flow
      else
        match builtin? (String.ofList name) arguments with
        | some run => run
        | none => utility name arguments
termination_by structural fuel => fuel

def simple (inCondition : Bool) (command : SimpleCommand) : Nat → Run Flow
  | 0 => return .exit
  | fuel + 1 => do
    modify fun machine ↦ { machine with line := command.line }
    let before ← get
    let fields ← fieldsOf command.words fuel
    unlessHalted do
      match fields with
      | [] =>
        if command.words.isEmpty then modify fun machine ↦ { machine with status := 0 }
        assignAll command.assignments fuel
        let status := (← get).status
        withRedirects command.redirects (done status) fuel
      | name :: arguments =>
        assignAll command.assignments fuel
        if name = "exec".toList && arguments.isEmpty then
          if ← redirectAll command.redirects fuel then unlessHalted (done 0)
          else modify fun machine ↦ { machine with status := 2 }; return .exit
        else
          let flow ← withRedirects command.redirects (call inCondition name arguments fuel) fuel
          modify (·.restore before (command.assignments.map Prod.fst))
          return flow
termination_by structural fuel => fuel

/-- Runs a command. In a condition a failure does not end the script. -/
def command (inCondition : Bool) : Command → Nat → Run Flow
  | _, 0 => return .exit
  | body, fuel + 1 => do
    match body with
    | .nothing => return .next
    | .simple body =>
      let flow ← simple inCondition body fuel
      let machine ← get
      return if flow = .next && machine.endsScript inCondition then .exit else flow
    | .sequence first second =>
      match ← command inCondition first fuel with
      | .next => command inCondition second fuel
      | flow => return flow
    | .andThen first second =>
      match ← command true first fuel with
      | .next => if (← get).status = 0 then command inCondition second fuel else return .next
      | flow => return flow
    | .orElse first second =>
      match ← command true first fuel with
      | .next => if (← get).status = 0 then return .next else command inCondition second fuel
      | flow => return flow
    | .not body =>
      match ← command true body fuel with
      | .next => do
        let status := (← get).status
        done (if status = 0 then 1 else 0)
      | flow => return flow
    | .pipe left right =>
      let before ← get
      let (machine, index) := before.addStream []
      set (machine.redirect 1 (.stream index))
      let _ ← command true left fuel
      modify fun machine ↦ (leaveSubshell before machine).redirect 0 (.stream index)
      let _ ← command true right fuel
      modify (leaveSubshell before)
      return .next
    | .ifThen condition body otherwise =>
      match ← command true condition fuel with
      | .next =>
        if (← get).status = 0 then command inCondition body fuel
        else
          modify fun machine ↦ { machine with status := 0 }
          command inCondition otherwise fuel
      | flow => return flow
    | .whileDo condition isUntil body => loop inCondition condition isUntil body 0 fuel
    | .forEach name words body =>
      let values ← match words with
        | some words => fieldsOf words fuel
        | none => pure (← get).parameters
      unlessHalted (forEach inCondition name body values fuel)
    | .choose word arms =>
      let text ← textOf word fuel
      modify fun machine ↦ { machine with status := 0 }
      unlessHalted (choose inCondition text arms fuel)
    | .subshell body =>
      let before ← get
      let flow ← command inCondition body fuel
      modify (leaveSubshell before)
      match flow with
      | .killed signal => return .killed signal
      | _ => return if (← get).endsScript inCondition then .exit else .next
    | .redirected body redirects =>
      withRedirects redirects (command inCondition body fuel) fuel
    | .define name body =>
      modify fun machine ↦ { machine with functions := (name, body) :: machine.functions }
      done 0
termination_by structural _ fuel => fuel

/-- Runs the rounds of a loop; its status is that of the last body. -/
def loop (inCondition : Bool) (condition : Command) (isUntil : Bool) (body : Command)
    (status : Nat) : Nat → Run Flow
  | 0 => return .exit
  | fuel + 1 => do
    match ← command true condition fuel with
    | .next =>
      if ((← get).status = 0) = isUntil then done status
      else
        let flow ← command inCondition body fuel
        match afterBody flow with
        | some flow => return flow
        | none => loop inCondition condition isUntil body (← get).status fuel
    | flow => return flow
termination_by structural fuel => fuel

def forEach (inCondition : Bool) (name : String) (body : Command) : List Bytes → Nat → Run Flow
  | _, 0 => return .exit
  | [], _ => return .next
  | value :: rest, fuel + 1 => do
    modify (·.setVariable name value)
    let flow ← command inCondition body fuel
    match afterBody flow with
    | some flow => return flow
    | none => forEach inCondition name body rest fuel
termination_by structural _ fuel => fuel

def choose (inCondition : Bool) (text : Bytes) : List (List Word × Command) → Nat → Run Flow
  | _, 0 => return .exit
  | [], _ => return .next
  | (patterns, body) :: rest, fuel + 1 => do
    if ← fitsAny text patterns fuel then command inCondition body fuel
    else choose inCondition text rest fuel
termination_by structural _ fuel => fuel

def fitsAny (text : Bytes) : List Word → Nat → Run Bool
  | _, 0 => return false
  | [], _ => return false
  | word :: rest, fuel + 1 => do
    let pattern := Piece.joined (← expand word fuel)
    if pattern.accepts text then return true else fitsAny text rest fuel
termination_by structural _ fuel => fuel

end

/-- The number of steps that a script may take in depth. -/
def maxSteps : Nat := 100000

end Run

/-- Runs a whole script on a machine. -/
def run (script : Bytes) (machine : Machine) : Flow × Machine :=
  match parse? 1 script with
  | some body => Run.command false body Run.maxSteps machine
  | none =>
    (.exit, machine.halt "Syntax error")

end ProviderDocs.Shell
