import ProviderDocs.Shell.Pattern
import ProviderDocs.Text.Search

/-!
# Fields of expanded words

Expanding a word yields pieces. Dividers that come from an unquoted expansion divide fields:
blank ones do so together, every other one on its own. What is quoted keeps a field even when
it is empty.
-/

namespace ProviderDocs.Shell

inductive Piece where
  | glyph (glyph : Glyph) (mayDivide : Bool)
  /-- Quotes were here. -/
  | quotes
  /-- One field ends and another begins. -/
  | division
  deriving DecidableEq

namespace Piece

/-- The pieces of a text; one from an expansion may divide fields. -/
def ofText (text : Bytes) (isQuoted isExpanded : Bool) : List Piece :=
  (if isQuoted then [quotes] else []) ++
    text.map fun c ↦ glyph ⟨c, isQuoted⟩ (isExpanded && !isQuoted)

def isBlank (c : Char) : Bool := c = ' ' || c = '\t' || c = '\n'

/-- Puts a field in front unless it is empty and unquoted. -/
def addField (field : Pattern) (isKept : Bool) (fields : List Pattern) : List Pattern :=
  if field.isEmpty && !isKept then fields else field :: fields

/-- The fields that pieces make. A blank ended the last one if `isEnded`, and a divider that is
not blank may still belong to that end. -/
def fieldsFrom (dividers : Bytes) (field : Pattern) (isKept isEnded : Bool) :
    List Piece → List Pattern
  | [] => addField field isKept []
  | quotes :: rest => fieldsFrom dividers field true false rest
  | division :: rest => addField field isKept (fieldsFrom dividers [] false false rest)
  | glyph c mayDivide :: rest =>
    let isOpen := !field.isEmpty || isKept
    if !(mayDivide && dividers.contains c.char) then
      fieldsFrom dividers (field ++ [c]) isKept false rest
    else if isBlank c.char then
      addField field isKept (fieldsFrom dividers [] false (isEnded || isOpen) rest)
    else if isEnded then fieldsFrom dividers [] false false rest
    else field :: fieldsFrom dividers [] false false rest

def fields (dividers : Bytes) (pieces : List Piece) : List Pattern :=
  fieldsFrom dividers [] false false pieces

/-- The first field of a text, and what follows the dividers behind it. -/
def firstField (dividers text : Bytes) : Bytes × Bytes :=
  let skipBlanks := List.dropWhile fun c ↦ isBlank c && dividers.contains c
  let (field, rest) := Text.span (!dividers.contains ·) (skipBlanks text)
  match skipBlanks rest with
  | c :: rest => (field, if dividers.contains c then skipBlanks rest else c :: rest)
  | [] => (field, [])

/-- A piece of a word that takes the place of a parameter. -/
def ofExpansion : Piece → Piece
  | glyph c _ => glyph c !c.isQuoted
  | piece => piece

/-- All pieces as one text. -/
def joined (pieces : List Piece) : Pattern :=
  pieces.filterMap fun
    | glyph c _ => some c
    | division => some ⟨' ', true⟩
    | quotes => none

/-- Each text is a field of its own. -/
def ofFields (isQuoted : Bool) : List Bytes → List Piece
  | [] => []
  | [text] => ofText text isQuoted true
  | text :: rest => ofText text isQuoted true ++ division :: ofFields isQuoted rest

end Piece

def Pattern.text (pattern : Pattern) : Bytes := pattern.map (·.char)

end ProviderDocs.Shell
