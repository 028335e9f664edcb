import ProviderDocs.Shell.Arithmetic

/-!
# Formatted output of shell commands
-/

namespace ProviderDocs.Shell

def isOctal (c : Char) : Bool := '0' ≤ c && c ≤ '7'

def octalValue (digits : Bytes) : Char :=
  Char.ofNat (digits.foldl (fun value digit ↦ 8 * value + (digit.toNat - '0'.toNat)) 0 % 256)

def simpleEscape? : Char → Option Char
  | 'a' => some '\x07'
  | 'b' => some '\x08'
  | 'f' => some '\x0c'
  | 'n' => some '\n'
  | 'r' => some '\r'
  | 't' => some '\t'
  | 'v' => some '\x0b'
  | '\\' => some '\\'
  | _ => none

/-- A text with escapes replaced, and whether an escape ends all output. -/
def unescape (leadingZero : Bool) : Nat → Bytes → Bytes × Bool
  | 0, _ => ([], false)
  | _ + 1, [] => ([], false)
  | fuel + 1, '\\' :: c :: rest =>
    if c = 'c' then ([], true)
    else
      let add := fun (front : Bytes) (rest : Bytes) ↦
        let (text, ends) := unescape leadingZero fuel rest
        (front ++ text, ends)
      match simpleEscape? c with
      | some value => add [value] rest
      | none =>
        let digits := if leadingZero && c = '0' then rest else c :: rest
        let octal := (digits.takeWhile isOctal).take 3
        if (leadingZero && c = '0') || (!leadingZero && isOctal c) then
          add [octalValue octal] (digits.drop octal.length)
        else add ['\\', c] rest
  | fuel + 1, c :: rest =>
    let (text, ends) := unescape leadingZero fuel rest
    (c :: text, ends)

/-- What `echo` writes. -/
def echoText (plain : Bool) (arguments : List Bytes) : Bytes :=
  let (arguments, newline) := match arguments with
    | ['-', 'n'] :: rest => (rest, false)
    | arguments => (arguments, true)
  let (arguments, plain) := match arguments with
    | ['-', 'e'] :: rest => if plain then (rest, false) else (arguments, plain)
    | arguments => (arguments, plain)
  let text := [' '].intercalate arguments
  let (text, ends) := if plain then (text, false) else unescape true (text.length + 1) text
  if ends || !newline then text else text ++ ['\n']

/-! ## Formats -/

/-- How a value is laid out. -/
structure Layout where
  alignsLeft : Bool
  zeros : Bool
  width : Nat
  precision : Option Nat

def pad (layout : Layout) (text : Bytes) : Bytes :=
  let missing := layout.width - text.length
  if layout.alignsLeft then text ++ List.replicate missing ' '
  else if layout.zeros then
    match text with
    | '-' :: digits => '-' :: List.replicate missing '0' ++ digits
    | text => List.replicate missing '0' ++ text
  else List.replicate missing ' ' ++ text

/-- The flags, width and precision behind a percent sign. -/
def layout (text : Bytes) : Layout × Bytes :=
  let flags := text.takeWhile ("-+ #0".toList.contains ·)
  let text := text.drop flags.length
  let width := text.takeWhile Char.isDigit
  let text := text.drop width.length
  let (precision, text) := match text with
    | '.' :: rest =>
      let digits := rest.takeWhile Char.isDigit
      (some ((String.ofList digits).toNat?.getD 0), rest.drop digits.length)
    | text => (none, text)
  (⟨flags.contains '-', flags.contains '0', (String.ofList width).toNat?.getD 0, precision⟩, text)

def intValue (text : Bytes) : Int :=
  match text.dropWhile Arithmetic.isBlank with
  | ['\'', c] | ['"', c] => c.toNat
  | '-' :: digits => -(Arithmetic.number? digits).getD 0
  | '+' :: digits | digits => (Arithmetic.number? digits).getD 0

/-- One argument in the form that a letter names; `none` for another letter. -/
def formatted? (layout : Layout) (letter : Char) (argument : Bytes) : Option (Bytes × Bool) :=
  let number := fun (base : Nat) ↦ (Nat.toDigits base (intValue argument).toNat)
  let cut := fun (text : Bytes) ↦ layout.precision.elim text text.take
  match letter with
  | 's' => some (pad layout (cut argument), false)
  | 'b' =>
    let (text, ends) := unescape true (argument.length + 1) argument
    some (pad layout (cut text), ends)
  | 'c' => some (pad layout (argument.take 1), false)
  | 'd' | 'i' => some (pad layout (toString (intValue argument)).toList, false)
  | 'u' => some (pad layout (number 10), false)
  | 'o' => some (pad layout (number 8), false)
  | 'x' => some (pad layout (number 16), false)
  | 'X' => some (pad layout ((number 16).map Char.toUpper), false)
  | _ => none

/-- One pass over a format: the text, the arguments left and whether all output ends. -/
def formatOnce : Nat → Bytes → List Bytes → Bytes × List Bytes × Bool
  | 0, _, arguments => ([], arguments, false)
  | _ + 1, [], arguments => ([], arguments, false)
  | fuel + 1, '%' :: '%' :: rest, arguments =>
    let (text, arguments, ends) := formatOnce fuel rest arguments
    ('%' :: text, arguments, ends)
  | fuel + 1, '%' :: rest, arguments =>
    let (layout, rest) := layout rest
    match rest with
    | [] => ([], arguments, false)
    | letter :: rest =>
      match formatted? layout letter (arguments.head?.getD []) with
      | none => ([], arguments, true)
      | some (front, ends) =>
        if ends then (front, [], true)
        else
          let (text, arguments, ends) := formatOnce fuel rest arguments.tail
          (front ++ text, arguments, ends)
  | fuel + 1, '\\' :: c :: rest, arguments =>
    let escaped := '\\' :: c :: (rest.take 2)
    let length := if isOctal c then ((c :: rest.take 2).takeWhile isOctal).length + 1 else 2
    let (front, ends) := unescape false 2 (escaped.take length)
    let front := if c = '"' then ['"'] else front
    if ends then ([], [], true)
    else
      let (text, arguments, ends) := formatOnce fuel (('\\' :: c :: rest).drop length) arguments
      (front ++ text, arguments, ends)
  | fuel + 1, c :: rest, arguments =>
    let (text, arguments, ends) := formatOnce fuel rest arguments
    (c :: text, arguments, ends)

/-- What `printf` writes: the format is used again while arguments are left. -/
def printfText (format : Bytes) : Nat → List Bytes → Bytes
  | 0, _ => []
  | fuel + 1, arguments =>
    let (text, left, ends) := formatOnce (format.length + 1) format arguments
    if ends || left.isEmpty || left.length = arguments.length then text
    else text ++ printfText format fuel left

end ProviderDocs.Shell
