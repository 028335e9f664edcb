import ProviderDocs.Json.Value

/-!
# Reading JSON

A strict reader of one JSON text: blanks may surround values and nothing may follow the last
one. Arrays and objects may lie at most 127 deep in each other, and a number must not exceed
the range of binary floating point.
-/

namespace ProviderDocs.Json

/-- Where reading stopped; lines and columns count from one. -/
structure SyntaxError where
  line : Nat
  column : Nat
  deriving DecidableEq

def SyntaxError.message (error : SyntaxError) : String :=
  s!"malformed JSON at line {error.line} column {error.column}"

/-! ## Strings -/

def hexValue? (c : Char) : Option Nat :=
  if '0' ≤ c && c ≤ '9' then some (c.toNat - '0'.toNat)
  else if 'a' ≤ c && c ≤ 'f' then some (c.toNat - 'a'.toNat + 10)
  else if 'A' ≤ c && c ≤ 'F' then some (c.toNat - 'A'.toNat + 10)
  else none

def hexValue4? (a b c d : Char) : Option Nat := do
  some ((((← hexValue? a) * 16 + (← hexValue? b)) * 16 + (← hexValue? c)) * 16 + (← hexValue? d))

/-- The character of a high and a low surrogate. -/
def surrogatePair? (high low : Nat) : Option Char :=
  if 0xD800 ≤ high && high < 0xDC00 && 0xDC00 ≤ low && low < 0xE000 then
    some (Char.ofNat (0x10000 + (high - 0xD800) * 0x400 + (low - 0xDC00)))
  else none

def simpleEscape? : Char → Option Char
  | '"' => some '"'
  | '\\' => some '\\'
  | '/' => some '/'
  | 'b' => some '\x08'
  | 'f' => some '\x0c'
  | 'n' => some '\n'
  | 'r' => some '\r'
  | 't' => some '\t'
  | _ => none

/-- The characters up to the closing quote, and what follows it. -/
def stringBody? : List Char → Option (List Char × List Char)
  | [] => none
  | '"' :: rest => some ([], rest)
  | '\\' :: 'u' :: a :: b :: c :: d :: rest =>
    match hexValue4? a b c d with
    | none => none
    | some code =>
      if code < 0xD800 || 0xE000 ≤ code then
        (stringBody? rest).map fun (body, rest) ↦ (Char.ofNat code :: body, rest)
      else match rest with
        | '\\' :: 'u' :: a :: b :: c :: d :: rest =>
          match (hexValue4? a b c d).bind (surrogatePair? code) with
          | some char => (stringBody? rest).map fun (body, rest) ↦ (char :: body, rest)
          | none => none
        | _ => none
  | '\\' :: escape :: rest =>
    match simpleEscape? escape with
    | some char => (stringBody? rest).map fun (body, rest) ↦ (char :: body, rest)
    | none => none
  | c :: rest =>
    if c = '\\' || c.toNat < 0x20 then none
    else (stringBody? rest).map fun (body, rest) ↦ (c :: body, rest)

/-! ## Numbers -/

def digitsValue (digits : List Char) : Nat :=
  digits.foldl (fun value c ↦ value * 10 + (c.toNat - '0'.toNat)) 0

/-- The least number that rounds to infinity in binary64. -/
def overflow64 : Nat := Nat.pow 2 1024 - Nat.pow 2 970

/-- `mantissa · 10 ^ exponent` rounds to a finite binary64 number. -/
def isFinite64 (mantissa : Nat) (exponent : Int) : Bool :=
  let digits : Int := (Nat.toDigits 10 mantissa).length
  if mantissa = 0 || digits + exponent < 300 then true
  else if digits + exponent > 310 then false
  else if exponent ≥ 0 then mantissa * Nat.pow 10 exponent.toNat < overflow64
  else mantissa < overflow64 * Nat.pow 10 (-exponent).toNat

/-- Reads the digits of a whole part: zero alone, or no zero in front. -/
def wholePart? (text : List Char) : Option (List Char × List Char) :=
  match text with
  | '0' :: rest =>
    match rest with
    | c :: _ => if c.isDigit then none else some (['0'], rest)
    | [] => some (['0'], rest)
  | c :: _ =>
    if c.isDigit then some (text.takeWhile Char.isDigit, text.dropWhile Char.isDigit) else none
  | [] => none

def fractionPart? (text : List Char) : Option (List Char × List Char) :=
  match text with
  | '.' :: rest =>
    match rest.takeWhile Char.isDigit with
    | [] => none
    | digits => some (digits, rest.dropWhile Char.isDigit)
  | _ => some ([], text)

/-- The sign and the digits of an exponent, both empty when there is none. -/
def exponentPart? (text : List Char) : Option (Bool × List Char × List Char) :=
  match text with
  | e :: rest =>
    if e = 'e' || e = 'E' then
      let (negative, rest) := match rest with
        | '-' :: rest => (true, rest)
        | '+' :: rest => (false, rest)
        | rest => (false, rest)
      match rest.takeWhile Char.isDigit with
      | [] => none
      | digits => some (negative, digits, rest.dropWhile Char.isDigit)
    else some (false, [], text)
  | [] => some (false, [], [])

/-- An integer of 64 bits, with or without a sign. -/
def fits64 (value : Int) : Bool := -0x8000000000000000 ≤ value && value < 0x10000000000000000

def number? (text : List Char) : Option (Json × List Char) := do
  let (negative, unsigned) := match text with
    | '-' :: rest => (true, rest)
    | rest => (false, rest)
  let (whole, afterWhole) ← wholePart? unsigned
  let (fraction, afterFraction) ← fractionPart? afterWhole
  let (negativeExponent, exponent, rest) ← exponentPart? afterFraction
  let value : Int := if negative then -(digitsValue whole : Int) else digitsValue whole
  let isInteger := fraction.isEmpty && exponent.isEmpty && !(negative && value = 0)
  if isInteger && fits64 value then
    some (.int value, rest)
  else
    let scale : Int := if negativeExponent then -(digitsValue exponent : Int)
      else digitsValue exponent
    if isFinite64 (digitsValue (whole ++ fraction)) (scale - fraction.length) then
      some (.decimal (String.ofList (text.take (text.length - rest.length))), rest)
    else none

/-! ## Values -/

def isSpace (c : Char) : Bool := c = ' ' || c = '\t' || c = '\n' || c = '\r'

def skipSpace (text : List Char) : List Char := text.dropWhile isSpace

mutual

/--
Reads one value. The first number bounds the steps and the second the depth; the remaining
text of a failure tells where it happened.
-/
def value (fuel depth : Nat) (text : List Char) : Except (List Char) (Json × List Char) :=
  match fuel with
  | 0 => .error text
  | fuel + 1 =>
    match skipSpace text with
    | 'n' :: 'u' :: 'l' :: 'l' :: rest => .ok (.null, rest)
    | 't' :: 'r' :: 'u' :: 'e' :: rest => .ok (.bool true, rest)
    | 'f' :: 'a' :: 'l' :: 's' :: 'e' :: rest => .ok (.bool false, rest)
    | '"' :: rest =>
      match stringBody? rest with
      | some (body, rest) => .ok (.str (String.ofList body), rest)
      | none => .error rest
    | '[' :: rest =>
      match depth with
      | 0 => .error rest
      | depth + 1 =>
        match skipSpace rest with
        | ']' :: rest => .ok (.arr [], rest)
        | rest => (items fuel depth rest).map fun (list, rest) ↦ (.arr list, rest)
    | '\x7b' :: rest =>
      match depth with
      | 0 => .error rest
      | depth + 1 =>
        match skipSpace rest with
        | '\x7d' :: rest => .ok (.obj [], rest)
        | rest => (members fuel depth rest).map fun (list, rest) ↦ (.obj list, rest)
    | text =>
      match number? text with
      | some result => .ok result
      | none => .error text

/-- Reads items up to the closing bracket. -/
def items (fuel depth : Nat) (text : List Char) : Except (List Char) (List Json × List Char) :=
  match fuel with
  | 0 => .error text
  | fuel + 1 =>
    match value fuel depth text with
    | .error text => .error text
    | .ok (item, rest) =>
      match skipSpace rest with
      | ']' :: rest => .ok ([item], rest)
      | ',' :: rest => (items fuel depth rest).map fun (list, rest) ↦ (item :: list, rest)
      | rest => .error rest

/-- Reads members up to the closing brace. -/
def members (fuel depth : Nat) (text : List Char) :
    Except (List Char) (List (String × Json) × List Char) :=
  match fuel with
  | 0 => .error text
  | fuel + 1 =>
    match skipSpace text with
    | '"' :: rest =>
      match stringBody? rest with
      | none => .error rest
      | some (key, rest) =>
        match skipSpace rest with
        | ':' :: rest =>
          match value fuel depth rest with
          | .error text => .error text
          | .ok (member, rest) =>
            let entry := (String.ofList key, member)
            match skipSpace rest with
            | '\x7d' :: rest => .ok ([entry], rest)
            | ',' :: rest => (members fuel depth rest).map fun (list, rest) ↦ (entry :: list, rest)
            | rest => .error rest
        | rest => .error rest
    | rest => .error rest

end

/-- Where `rest`, a remainder of `text`, begins. -/
def positionOf (text rest : List Char) : SyntaxError :=
  let consumed := text.take (text.length - rest.length)
  { line := consumed.count '\n' + 1
    column := (consumed.reverse.takeWhile (· != '\n')).length + 1 }

/-- How deep arrays and objects may lie in each other. -/
def maxDepth : Nat := 127

def parse (text : String) : Except SyntaxError Json :=
  let chars := text.toList
  match value (2 * chars.length + 2) maxDepth chars with
  | .error rest => .error (positionOf chars rest)
  | .ok (json, rest) =>
    match skipSpace rest with
    | [] => .ok json
    | rest => .error (positionOf chars rest)

end ProviderDocs.Json
