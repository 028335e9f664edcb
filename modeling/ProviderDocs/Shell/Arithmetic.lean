import ProviderDocs.Shell.Command

/-!
# Arithmetic of the shell

Expressions over integers and the values of variables, with the usual operators. They are
evaluated while they are read.
-/

namespace ProviderDocs.Shell.Arithmetic

/-! ## Tokens -/

inductive Token where
  | number (value : Int)
  | name (name : String)
  | sign (text : String)
  deriving DecidableEq

def signs : List String :=
  ["<<", ">>", "<=", ">=", "==", "!=", "&&", "||", "+", "-", "*", "/", "%", "<", ">", "!", "(", ")",
    "&", "|", "^", "~", "?", ":"]

def isBlank (c : Char) : Bool := c = ' ' || c = '\t' || c = '\n'

def digitValue? (c : Char) : Option Nat :=
  if c.isDigit then some (c.toNat - '0'.toNat)
  else if 'a' ≤ c.toLower && c.toLower ≤ 'f' then some (c.toLower.toNat - 'a'.toNat + 10)
  else none

/-- The number that digits write in a base. -/
def ofDigits? (base : Nat) (digits : Bytes) : Option Int :=
  digits.foldlM (fun value c ↦ do
    let digit ← digitValue? c
    if digit < base then some (base * value + (digit : Int)) else none) 0

/-- The number that a word stands for: `0x` leads hexadecimal digits and `0` octal ones. -/
def number? : Bytes → Option Int
  | '0' :: 'x' :: digits | '0' :: 'X' :: digits => ofDigits? 16 digits
  | '0' :: digits => ofDigits? 8 digits
  | digits => ofDigits? 10 digits

def isWordChar (c : Char) : Bool := c.isAlphanum || c = '_'

def tokens : Nat → Bytes → Option (List Token)
  | 0, _ => none
  | _ + 1, [] => some []
  | fuel + 1, c :: rest =>
    if isBlank c then tokens fuel rest
    else if isWordChar c then do
      let word := (c :: rest).takeWhile isWordChar
      let following ← tokens fuel ((c :: rest).drop word.length)
      if c.isDigit then some (.number (← number? word) :: following)
      else some (.name (String.ofList word) :: following)
    else
      match signs.find? fun sign ↦ sign.toList.isPrefixOf (c :: rest) with
      | some sign => (tokens fuel ((c :: rest).drop sign.length)).map (.sign sign :: ·)
      | none => none

/-! ## Values -/

/-- Operators by rank, the loosest first. -/
def ranks : List (List String) :=
  [["||"], ["&&"], ["|"], ["^"], ["&"], ["==", "!="], ["<", "<=", ">", ">="], ["<<", ">>"],
    ["+", "-"], ["*", "/", "%"]]

def ofBool (truth : Bool) : Int := if truth then 1 else 0

/-- Applies an operation on words of 64 bits. -/
def onWords (operation : Int64 → Int64 → Int64) (a b : Int) : Int :=
  (operation (Int64.ofInt a) (Int64.ofInt b)).toInt

def operate? (sign : String) (a b : Int) : Option Int :=
  match sign with
  | "||" => some (ofBool (a != 0 || b != 0))
  | "&&" => some (ofBool (a != 0 && b != 0))
  | "|" => some (onWords (· ||| ·) a b)
  | "^" => some (onWords (· ^^^ ·) a b)
  | "&" => some (onWords (· &&& ·) a b)
  | "==" => some (ofBool (a = b))
  | "!=" => some (ofBool (a ≠ b))
  | "<" => some (ofBool (a < b))
  | "<=" => some (ofBool (a ≤ b))
  | ">" => some (ofBool (a > b))
  | ">=" => some (ofBool (a ≥ b))
  | "<<" => some (onWords (· <<< ·) a b)
  | ">>" => some (onWords (· >>> ·) a b)
  | "+" => some (onWords (· + ·) a b)
  | "-" => some (onWords (· - ·) a b)
  | "*" => some (onWords (· * ·) a b)
  | "/" => if b = 0 then none else some (a.tdiv b)
  | "%" => if b = 0 then none else some (a.tmod b)
  | _ => none

mutual

/-- Reads an operand. -/
def operand (value : String → Int) : Nat → List Token → Option (Int × List Token)
  | 0, _ => none
  | fuel + 1, tokens =>
    match tokens with
    | .number number :: rest => some (number, rest)
    | .name name :: rest => some (value name, rest)
    | .sign "-" :: rest => (operand value fuel rest).map fun (a, rest) ↦ (-a, rest)
    | .sign "+" :: rest => operand value fuel rest
    | .sign "!" :: rest => (operand value fuel rest).map fun (a, rest) ↦ (ofBool (a = 0), rest)
    | .sign "~" :: rest => (operand value fuel rest).map fun (a, rest) ↦ (-a - 1, rest)
    | .sign "(" :: rest => do
      match ← choice value fuel rest with
      | (a, .sign ")" :: rest) => some (a, rest)
      | _ => none
    | _ => none

/-- Reads an expression that may choose between two others. -/
def choice (value : String → Int) : Nat → List Token → Option (Int × List Token)
  | 0, _ => none
  | fuel + 1, tokens => do
    match ← expression value ranks fuel tokens with
    | (condition, .sign "?" :: rest) =>
      match ← choice value fuel rest with
      | (first, .sign ":" :: rest) =>
        let (second, rest) ← choice value fuel rest
        some (if condition = 0 then second else first, rest)
      | _ => none
    | result => some result

/-- Reads an expression with the operators of some ranks. -/
def expression (value : String → Int) (ranks : List (List String)) :
    Nat → List Token → Option (Int × List Token)
  | 0, _ => none
  | fuel + 1, tokens =>
    match ranks with
    | [] => operand value fuel tokens
    | rank :: tighter => do
      let (a, rest) ← expression value tighter fuel tokens
      continued value rank tighter a fuel rest

/-- Goes on with operators of one rank, from the left. -/
def continued (value : String → Int) (rank : List String) (tighter : List (List String)) (a : Int) :
    Nat → List Token → Option (Int × List Token)
  | 0, _ => none
  | fuel + 1, tokens =>
    match tokens with
    | .sign sign :: rest =>
      if rank.contains sign then do
        let (b, rest) ← expression value tighter fuel rest
        continued value rank tighter (← operate? sign a b) fuel rest
      else some (a, tokens)
    | _ => some (a, tokens)

end

/-- The value of an expression; one that is empty is zero. -/
def eval? (value : String → Int) (text : Bytes) : Option Int := do
  let tokens ← tokens (text.length + 1) text
  if tokens.isEmpty then some 0
  else
    match ← choice value (16 * tokens.length + 16) tokens with
    | (result, []) => some result
    | _ => none

end ProviderDocs.Shell.Arithmetic
