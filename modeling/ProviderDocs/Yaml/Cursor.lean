import ProviderDocs.Text.Search

/-!
# Places in a YAML text

A cursor is a place in a text with the characters that follow it. Line breaks come in several
forms and read as one character each.
-/

namespace ProviderDocs.Yaml

/-! ## Marks and faults -/

structure Mark where
  /-- The number of characters before the place. -/
  index : Nat
  line : Nat
  column : Nat
  deriving DecidableEq

namespace Mark

def start : Mark := ⟨0, 0, 0⟩

def isAtStart (mark : Mark) : Bool := mark.line = 0 && mark.column = 0

def isSamePlace (a b : Mark) : Bool := a.line = b.line && a.column = b.column

def text (mark : Mark) : String := s!"line {mark.line + 1} column {mark.column + 1}"

/-- The place as a message tells it; the first place goes without saying. -/
def suffix (mark : Mark) : String := if mark.isAtStart then "" else " at " ++ mark.text

end Mark

/-- Why a text is no YAML, and what was being read there. -/
structure Fault where
  problem : String
  mark : Mark
  context : Option (String × Mark)

def Fault.message (fault : Fault) : String :=
  fault.problem ++ fault.mark.suffix ++
    match fault.context with
    | none => ""
    | some (context, mark) =>
      ", " ++ context ++ if mark.isSamePlace fault.mark then "" else mark.suffix

/-- A problem met while something that began at `start` was being read. -/
def faultIn {α : Type} (context : String) (start : Mark) (problem : String) (mark : Mark) :
    Except Fault α :=
  .error ⟨problem, mark, some (context, start)⟩

/-! ## Characters -/

def isBlank (c : Char) : Bool := c = ' ' || c = '\t'

def isBreak (c : Char) : Bool :=
  c = '\n' || c = '\r' || c = '\u0085' || c = '\u2028' || c = '\u2029'

def isBlankOrBreak (c : Char) : Bool := isBlank c || isBreak c

/-- The text ends, or a line break follows. -/
def endsLine (text : List Char) : Bool := text.head?.all isBreak

/-- The text ends, or a blank or a line break follows. -/
def endsWord (text : List Char) : Bool := text.head?.all isBlankOrBreak

/-- Characters of names. -/
def isNameChar (c : Char) : Bool := c.isAlphanum || c = '_' || c = '-'

/-- Characters that a text may hold. -/
def isAllowed (c : Char) : Bool :=
  let code := c.toNat
  code = 0x09 || code = 0x0A || code = 0x0D || (0x20 ≤ code && code ≤ 0x7E) || code = 0x85 ||
    (0xA0 ≤ code && code ≤ 0xFFFD) || 0x10000 ≤ code

/-! ## Cursors -/

structure Cursor where
  rest : List Char
  mark : Mark

namespace Cursor

def ofText (text : String) : Cursor := ⟨text.toList, .start⟩

def column (cursor : Cursor) : Nat := cursor.mark.column

/-- Moves over characters of one line. -/
def advance (cursor : Cursor) (count : Nat) : Cursor :=
  ⟨cursor.rest.drop count,
    { cursor.mark with
      index := cursor.mark.index + count
      column := cursor.mark.column + count }⟩

/-- Moves over characters of one line as long as they are in a class. -/
def takeWhile (cursor : Cursor) (inClass : Char → Bool) : List Char × Cursor :=
  let taken := cursor.rest.takeWhile inClass
  (taken, cursor.advance taken.length)

def skipWhile (cursor : Cursor) (inClass : Char → Bool) : Cursor := (cursor.takeWhile inClass).2

/-- The cursor behind a line break of so many characters. -/
def nextLine (cursor : Cursor) (count : Nat) : Cursor :=
  ⟨cursor.rest.drop count, ⟨cursor.mark.index + count, cursor.mark.line + 1, 0⟩⟩

/-- Reads a line break. All forms but two read as a line feed. -/
def lineBreak? (cursor : Cursor) : Option (Char × Cursor) :=
  match cursor.rest with
  | '\r' :: '\n' :: _ => some ('\n', cursor.nextLine 2)
  | c :: _ =>
    if c = '\u2028' || c = '\u2029' then some (c, cursor.nextLine 1)
    else if isBreak c then some ('\n', cursor.nextLine 1)
    else none
  | [] => none

def skipLineBreak (cursor : Cursor) : Cursor := (cursor.lineBreak?.map (·.2)).getD cursor

/-- A line that only marks the start or the end of a document. -/
def isAtDocumentMark (cursor : Cursor) : Bool :=
  cursor.column = 0 &&
    match cursor.rest with
    | '-' :: '-' :: '-' :: rest | '.' :: '.' :: '.' :: rest => endsWord rest
    | _ => false

end Cursor

end ProviderDocs.Yaml
