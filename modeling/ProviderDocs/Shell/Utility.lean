import ProviderDocs.Shell.Format
import ProviderDocs.Shell.Machine

/-!
# Utilities of the shell

The commands that scripts use on files and texts. Each returns its status.
-/

namespace ProviderDocs.Shell

namespace Utility

open Machine (pathText)

def say (text : Bytes) : Run Unit := modify (·.write 1 text)

/-- Tells a failure and returns its status. -/
def fail (text : String) (status : Nat) : Run Nat := do
  modify (·.write 2 (Bytes.ofText (text ++ "\n")))
  return status

/-- What messages of utilities say of a failure. -/
def causeText : FileError → String
  | .notFound => "No such file or directory"
  | .permissionDenied => "Permission denied"
  | .alreadyExists => "File exists"
  | .notADirectory => "Not a directory"
  | .isADirectory => "Is a directory"
  | .notExecutable => "Exec format error"
  | .nameTooLong => "File name too long"
  | .zeroInName | .invalidText => "Invalid argument"

/-- Applies an operation to the files and tells a failure. -/
def change (operation : FileTree → Except FileError FileTree) (failure : String) : Run Nat := do
  let machine ← get
  match operation machine.files with
  | .ok files => set { machine with files := files }; return 0
  | .error cause => fail s!"{failure}: {causeText cause}" 1

/-- All that the standard input holds. -/
def input : Run Bytes := do
  let machine ← get
  let text := machine.pending 0
  set (machine.consume 0 text.length)
  return text

/-- Splits flags, which begin with a dash, from operands. -/
def options (arguments : List Bytes) : Bytes × List Bytes :=
  let flags := (arguments.takeWhile fun argument ↦
    argument.head? = some '-' && argument.length > 1 && argument != ['-', '-'])
  let operands := arguments.drop flags.length
  (flags.flatMap List.tail, if operands.head? = some ['-', '-'] then operands.tail else operands)

/-- Runs a command on each operand; the status is that of the worst. -/
def each (act : Bytes → Run Nat) : List Bytes → Run Nat
  | [] => return 0
  | operand :: rest => do
    let status ← act operand
    return max status (← each act rest)

/-! ## Files -/

/-- The text of a file, or of the standard input for a dash. -/
def contentOf (command : String) (path : Bytes) : Run (Option Bytes) := do
  if path = ['-'] then return some (← input)
  else
    match (← get).read path with
    | .ok text => return some text
    | .error cause =>
      let _ ← fail s!"{command}: {pathText path}: {causeText cause}" 1
      return none

def cat (arguments : List Bytes) : Run Nat := do
  let (_, operands) := options arguments
  each (fun path ↦ do
    match ← contentOf "cat" path with
    | some text => say text; return 0
    | none => return 1) (if operands.isEmpty then [['-']] else operands)

/-- Where a file goes that is copied or moved to a path, which may be a directory. -/
def destination (machine : Machine) (source target : Bytes) : String :=
  if machine.files.isDirectory (pathText target) then
    Path.join (pathText target) ((Path.fileName? (pathText source)).getD "")
  else pathText target

/-- Copies a file, and a directory when that is asked for. -/
def copyTo (command : String) (recursive : Bool) (source target : Bytes) : Run Nat := do
  let machine ← get
  match machine.files.read (pathText source) with
  | .error .isADirectory =>
    if recursive then
      let target := destination machine source target
      change (fun files ↦ do
          .ok (files.copyBelow (← files.resolve (pathText source)) (← files.resolveNew target)))
        s!"{command}: cannot create directory '{target}'"
    else fail s!"{command}: -r not specified; omitting directory '{pathText source}'" 1
  | .error cause => fail s!"{command}: cannot stat '{pathText source}': {causeText cause}" 1
  | .ok content =>
    let target := destination machine source target
    change (·.write target content) s!"{command}: cannot create regular file '{target}'"

def removeFile (files : FileTree) (path : String) : Except FileError FileTree := do
  let location ← files.resolve path
  match files.node? location with
  | some .directory => .error .isADirectory
  | _ => .ok (files.removeBelow location)

def removeAll (files : FileTree) (path : String) : Except FileError FileTree := do
  .ok (files.removeBelow (← files.resolve path))

/-- Copies or moves to the last operand. -/
def transfer (command : String) (keepSource : Bool) (arguments : List Bytes) : Run Nat := do
  let (flags, operands) := options arguments
  let recursive := !keepSource || flags.any "rRa".toList.contains
  match operands.getLast?, operands.dropLast with
  | none, _ => fail s!"{command}: missing file operand" 1
  | some target, [] =>
    fail s!"{command}: missing destination file operand after '{pathText target}'" 1
  | some target, sources =>
    each (fun source ↦ do
      let status ← copyTo command recursive source target
      if status = 0 && !keepSource then
        change (removeAll · (pathText source)) s!"{command}: cannot remove '{pathText source}'"
      else return status) sources

def remove (arguments : List Bytes) : Run Nat := do
  let (flags, operands) := options arguments
  let recursive := flags.contains 'r' || flags.contains 'R'
  each (fun path ↦ do
    let machine ← get
    match machine.files.resolve (pathText path) with
    | .error cause =>
      if flags.contains 'f' then return 0
      else fail s!"rm: cannot remove '{pathText path}': {causeText cause}" 1
    | .ok _ =>
      change ((if recursive then removeAll else removeFile) · (pathText path))
        s!"rm: cannot remove '{pathText path}'") operands

def removeDirectories (arguments : List Bytes) : Run Nat :=
  each (fun path ↦ do
    let files := (← get).files
    let failure := s!"rmdir: failed to remove '{pathText path}'"
    match files.resolve (pathText path) with
    | .error cause => fail s!"{failure}: {causeText cause}" 1
    | .ok location =>
      if files.isFile (pathText path) then fail s!"{failure}: {causeText .notADirectory}" 1
      else if !(files.names location).isEmpty then fail s!"{failure}: Directory not empty" 1
      else change (removeAll · (pathText path)) failure) (options arguments).2

def makeDirectory (arguments : List Bytes) : Run Nat := do
  let (flags, operands) := options arguments
  each (fun path ↦
    change (fun files ↦
        if flags.contains 'p' then files.makeDirectories (pathText path)
        else files.makeDirectory (pathText path))
      s!"mkdir: cannot create directory '{pathText path}'") operands

def touch (arguments : List Bytes) : Run Nat :=
  each (fun path ↦ do
    if ((← get).files.resolve (pathText path)).isOk then return 0
    else change (·.writeText (pathText path) "") s!"touch: cannot touch '{pathText path}'")
    (options arguments).2

/-! ## Paths -/

def withoutEndSlashes (path : Bytes) : Bytes := (path.reverse.dropWhile (· = '/')).reverse

/-- The directory part of a path. -/
def directoryName (path : Bytes) : Bytes :=
  let trimmed := withoutEndSlashes path
  if trimmed.isEmpty then if path.isEmpty then ['.'] else ['/']
  else if !trimmed.contains '/' then ['.']
  else
    let front := withoutEndSlashes (trimmed.reverse.dropWhile (· != '/')).reverse
    if front.isEmpty then ['/'] else front

/-- The last name of a path, without an ending unless that is all of it. -/
def baseName (path ending : Bytes) : Bytes :=
  let trimmed := withoutEndSlashes path
  let name := if trimmed.isEmpty then path.take 1 else Text.afterLast '/' trimmed
  if ending != name && ending.isSuffixOf name then name.take (name.length - ending.length)
  else name

/-! ## Texts -/

def lineCount (text : Bytes) : Nat := text.count '\n'

def isSpace (c : Char) : Bool := c = ' ' || ('\t' ≤ c && c ≤ '\r')

def wordCount (text : Bytes) : Nat :=
  ((text.splitBy fun a b ↦ isSpace a = isSpace b).filter fun run ↦ !run.head?.all isSpace).length

def counts (flags : Bytes) (text : Bytes) : List Nat :=
  let shows := fun c ↦ flags.isEmpty || flags.contains c
  (if shows 'l' then [lineCount text] else []) ++ (if shows 'w' then [wordCount text] else []) ++
    if shows 'c' || flags.contains 'm' then [text.length] else []

def countWords (arguments : List Bytes) : Run Nat := do
  let (flags, operands) := options arguments
  let row := fun (text : Bytes) ↦ " ".intercalate ((counts flags text).map toString)
  if operands.isEmpty then
    say ((row (← input)).toList ++ ['\n'])
    return 0
  else
    each (fun path ↦ do
      match ← contentOf "wc" path with
      | some text => say ((row text).toList ++ ' ' :: path ++ ['\n']); return 0
      | none => return 1) operands

/-- Classes of characters that sets name. -/
def characterClass? (name : String) : Option (List (Char × Char)) :=
  match name with
  | "[:upper:]" => some [('A', 'Z')]
  | "[:lower:]" => some [('a', 'z')]
  | "[:digit:]" => some [('0', '9')]
  | "[:alpha:]" => some [('A', 'Z'), ('a', 'z')]
  | "[:alnum:]" => some [('0', '9'), ('A', 'Z'), ('a', 'z')]
  | "[:space:]" => some [('\t', '\r'), (' ', ' ')]
  | _ => none

def charactersOf (low high : Char) : Bytes :=
  (List.range (high.toNat + 1 - low.toNat)).map fun offset ↦ Char.ofNat (low.toNat + offset)

/-- The characters of a set with ranges and escapes. -/
def characters : Bytes → Bytes
  | [] => []
  | low :: '-' :: high :: rest => charactersOf low high ++ characters rest
  | c :: rest => c :: characters rest

def setOf (text : Bytes) : Bytes :=
  match characterClass? (String.ofList text) with
  | some ranges => ranges.flatMap fun (low, high) ↦ charactersOf low high
  | none => characters (unescape false (text.length + 1) text).1

/-- Drops repetitions of characters in a set. -/
def squeeze (set : Bytes) : Bytes → Bytes
  | a :: b :: rest =>
    if a = b && set.contains a then squeeze set (b :: rest) else a :: squeeze set (b :: rest)
  | text => text

def translate (arguments : List Bytes) : Run Nat := do
  let (flags, operands) := options arguments
  let text ← input
  let inSet := fun (set : Bytes) (c : Char) ↦
    set.contains c != (flags.contains 'c' || flags.contains 'C')
  match operands with
  | [] => fail "tr: missing operand" 1
  | first :: rest =>
    let set := setOf first
    let second := setOf (rest.head?.getD [])
    let text :=
      if flags.contains 'd' then text.filter (!inSet set ·)
      else if second.isEmpty then text
      else
        text.map fun c ↦
          if inSet set c then (second[set.idxOf c]?).getD (second.getLast?.getD c) else c
    say (if flags.contains 's' then squeeze (if rest.isEmpty then set else second) text else text)
    return 0

/-- How many lines or characters an option asks for. -/
def amount (arguments : List Bytes) : Char × Nat × List Bytes :=
  match arguments with
  | ('-' :: kind :: number) :: rest =>
    if kind.isDigit then ('n', (String.ofList (kind :: number)).toNat?.getD 0, rest)
    else if number.isEmpty then
      (kind, (rest.head?.bind fun number ↦ (String.ofList number).toNat?).getD 0, rest.tail)
    else (kind, (String.ofList number).toNat?.getD 0, rest)
  | operands => ('n', 10, operands)

/-- The lines of a text, each with its line feed. -/
def linesOf (text : Bytes) : List Bytes :=
  let lines := text.splitOn '\n'
  lines.dropLast.map (· ++ ['\n']) ++ (lines.getLast?.toList.filter (!·.isEmpty))

def part (command : String) (isHead : Bool) (arguments : List Bytes) : Run Nat := do
  let (kind, number, operands) := amount arguments
  each (fun path ↦ do
    match ← contentOf command path with
    | none => return 1
    | some text =>
      let cut := fun {α : Type} (list : List α) ↦
        if isHead then list.take number else list.drop (list.length - number)
      say (if kind = 'c' then cut text else (cut (linesOf text)).flatten)
      return 0) (if operands.isEmpty then [['-']] else operands)

def tee (arguments : List Bytes) : Run Nat := do
  let text ← input
  say text
  each (fun path ↦ change (·.write (pathText path) (Bytes.toArray text)) s!"tee: {pathText path}")
    (options arguments).2

def sortLines : Run Nat := do
  let lines := (linesOf (← input)).map fun line ↦
    if line.getLast? = some '\n' then line else line ++ ['\n']
  say (lines.mergeSort fun a b ↦ String.ofList a ≤ String.ofList b).flatten
  return 0

/-- The names in a directory. -/
def listNames (arguments : List Bytes) : Run Nat := do
  let (flags, operands) := options arguments
  each (fun path ↦ do
    let machine ← get
    match machine.files.resolve (pathText path) with
    | .error cause => fail s!"ls: cannot access '{pathText path}': {causeText cause}" 2
    | .ok location =>
      if machine.files.isFile (pathText path) then say (path ++ ['\n'])
      else
        let names := (if flags.contains 'a' then [".", ".."] else []) ++
          (machine.files.names location).filter fun name ↦
            flags.contains 'a' || flags.contains 'A' || !startsWith name "."
        say (names.flatMap fun name ↦ Bytes.ofText (name ++ "\n"))
      return 0) (if operands.isEmpty then [['.']] else operands)

/-! ## Tests -/

def number? (text : Bytes) : Option Int := (String.ofList text).trimAscii.toString.toInt?

def compare? (operator : String) (a b : Int) : Option Bool :=
  match operator with
  | "-eq" => some (a = b)
  | "-ne" => some (a ≠ b)
  | "-lt" => some (a < b)
  | "-le" => some (a ≤ b)
  | "-gt" => some (a > b)
  | "-ge" => some (a ≥ b)
  | _ => none

def testFile? (files : FileTree) (operator : String) (path : String) : Option Bool :=
  match operator with
  | "-e" | "-r" | "-w" => some (files.resolve path).isOk
  | "-f" => some (files.isFile path)
  | "-d" => some (files.isDirectory path)
  | "-s" => some ((files.read path).toOption.any (0 < ·.size))
  | "-x" =>
    some (match (files.resolve path).toOption.bind files.node? with
      | some (.file _ isExecutable) => isExecutable
      | some .directory => true
      | none => false)
  | _ => none

/-- The truth of an expression; `none` when it cannot be understood. -/
def test (files : FileTree) : Nat → List Bytes → Option Bool
  | 0, _ => none
  | _ + 1, [] => some false
  | _ + 1, [text] => some (!text.isEmpty)
  | fuel + 1, ['!'] :: rest => (test files fuel rest).map not
  | _ + 1, [operator, operand] =>
    match String.ofList operator with
    | "-n" => some (!operand.isEmpty)
    | "-z" => some operand.isEmpty
    | operator => testFile? files operator (pathText operand)
  | fuel + 1, a :: operator :: b :: rest =>
    match rest with
    | [] =>
      match String.ofList operator with
      | "=" | "==" => some (a = b)
      | "!=" => some (a != b)
      | "-a" => some (!a.isEmpty && !b.isEmpty)
      | "-o" => some (!a.isEmpty || !b.isEmpty)
      | name => do compare? name (← number? a) (← number? b)
    | _ =>
      let arguments := a :: operator :: b :: rest
      match arguments.idxOf? ['-', 'o'], arguments.idxOf? ['-', 'a'] with
      | some index, _ => do
        return (← test files fuel (arguments.take index)) ||
          (← test files fuel (arguments.drop (index + 1)))
      | none, some index => do
        return (← test files fuel (arguments.take index)) &&
          (← test files fuel (arguments.drop (index + 1)))
      | none, none => none

/-! ## Looking up utilities -/

/-- The utilities that work on texts and files alone. -/
def run? (name : String) (arguments : List Bytes) : Option (Run Nat) :=
  match name with
  | "true" | ":" | "sleep" | "sync" => some (return 0)
  | "false" => some (return 1)
  | "cat" => some (cat arguments)
  | "cp" => some (transfer "cp" true arguments)
  | "mv" => some (transfer "mv" false arguments)
  | "rm" => some (remove arguments)
  | "mkdir" => some (makeDirectory arguments)
  | "touch" => some (touch arguments)
  | "rmdir" => some (removeDirectories arguments)
  | "dirname" => some do
    say (directoryName (arguments.head?.getD []) ++ ['\n'])
    return 0
  | "basename" => some do
    say (baseName (arguments.head?.getD []) (arguments[1]?.getD []) ++ ['\n'])
    return 0
  | "wc" => some (countWords arguments)
  | "tr" => some (translate arguments)
  | "head" => some (part "head" true arguments)
  | "tail" => some (part "tail" false arguments)
  | "tee" => some (tee arguments)
  | "sort" => some sortLines
  | "ls" => some (listNames arguments)
  | "seq" => some do
    let numbers := arguments.map fun argument ↦ (String.ofList argument).toNat?.getD 0
    let (first, last) := match numbers with
      | [last] => (1, last)
      | first :: last :: _ => (first, last)
      | [] => (1, 0)
    say ((List.range (last + 1 - first)).flatMap fun offset ↦
      (toString (first + offset)).toList ++ ['\n'])
    return 0
  | "printf" => some do
    match arguments with
    | [] => return 2
    | format :: rest => say (printfText format (rest.length + 1) rest); return 0
  | "echo" => some do
    say (echoText (← get).plainEcho arguments)
    return 0
  | _ => none

end Utility

end ProviderDocs.Shell
