import ProviderDocs.Json.Parser
import ProviderDocs.Yaml.Cursor

/-!
# Texts of YAML scalars

A scalar is plain, quoted, or a block of indented lines. Line breaks inside are folded: one
reads as a blank, and of several the first is dropped. Literal blocks keep theirs.
-/

namespace ProviderDocs.Yaml

inductive ScalarStyle where
  | plain
  | singleQuoted
  | doubleQuoted
  | literal
  | folded
  deriving DecidableEq, Repr

/-! ## Gaps between words -/

/-- Blanks and line breaks between two words of a scalar. -/
structure Gap where
  /-- The blanks before the first line break. -/
  blanks : List Char
  breaks : List Char

namespace Gap

def empty : Gap := ⟨[], []⟩

/-- What the gap reads as. -/
def folded (gap : Gap) : List Char :=
  match gap.breaks with
  | [] => gap.blanks
  | ['\n'] => [' ']
  | '\n' :: breaks => breaks
  | breaks => breaks

/--
Reads a gap; `isFollowing` says that it began with a line break. It fails at a tab that
stands for indentation, where blanks are `required`.
-/
def read (required : Nat) : Nat → Bool → Cursor → Except Mark (Gap × Cursor)
  | 0, _, cursor => .ok (empty, cursor)
  | fuel + 1, isFollowing, cursor =>
    match cursor.rest with
    | [] => .ok (empty, cursor)
    | c :: _ =>
      if isBlank c then
        if isFollowing && cursor.column < required && c = '\t' then .error cursor.mark
        else do
          let (gap, cursor) ← read required fuel isFollowing (cursor.advance 1)
          .ok ({ gap with blanks := if isFollowing then [] else c :: gap.blanks }, cursor)
      else
        match cursor.lineBreak? with
        | none => .ok (empty, cursor)
        | some (c, cursor) => do
          let (gap, cursor) ← read required fuel true cursor
          .ok (⟨[], c :: gap.breaks⟩, cursor)

end Gap

/-! ## Plain scalars -/

def isFlowMark (c : Char) : Bool := c = ',' || c = '[' || c = ']' || c = '\x7b' || c = '\x7d'

/-- A word of a plain scalar ends here. -/
def endsPlainWord (inFlow : Bool) : List Char → Bool
  | [] => true
  | c :: rest => isBlankOrBreak c || (c = ':' && endsWord rest) || (inFlow && isFlowMark c)

/-- A colon inside a flow collection that neither separates nor belongs to a word. -/
def isStrayColon (inFlow : Bool) : List Char → Bool
  | ':' :: c :: _ => inFlow && (isFlowMark c || c = '?')
  | _ => false

def plainWord (inFlow : Bool) : List Char → List Char
  | [] => []
  | c :: rest =>
    if endsPlainWord inFlow (c :: rest) || isStrayColon inFlow (c :: rest) then []
    else c :: plainWord inFlow rest

/-- The text, whether a line break was read behind it, and the cursor behind that. -/
structure PlainScalar where
  text : List Char
  endsLine : Bool
  cursor : Cursor

/-- Reads words and the gaps before them; the lines after the first are indented. -/
def plainWords (inFlow : Bool) (indent : Nat) (start : Mark) :
    Nat → Gap → Cursor → Except Fault PlainScalar
  | 0, gap, cursor => .ok ⟨[], !gap.breaks.isEmpty, cursor⟩
  | fuel + 1, gap, cursor =>
    let context := "while scanning a plain scalar"
    let ended : PlainScalar := ⟨[], !gap.breaks.isEmpty, cursor⟩
    if cursor.isAtDocumentMark || cursor.rest.head? = some '#' then .ok ended
    else
      let word := plainWord inFlow cursor.rest
      let after := cursor.advance word.length
      if isStrayColon inFlow after.rest then
        faultIn context start "found unexpected ':'" after.mark
      else if word.isEmpty then .ok ended
      else
        let text := gap.folded ++ word
        if !after.rest.head?.any isBlankOrBreak then .ok ⟨text, false, after⟩
        else
          match Gap.read indent after.rest.length false after with
          | .error mark =>
            faultIn context start "found a tab character that violates indentation" mark
          | .ok (gap, cursor) =>
            if !inFlow && cursor.column < indent then .ok ⟨text, !gap.breaks.isEmpty, cursor⟩
            else do
              let scalar ← plainWords inFlow indent start fuel gap cursor
              .ok { scalar with text := text ++ scalar.text }

def plainScalar (inFlow : Bool) (indent : Nat) (cursor : Cursor) : Except Fault PlainScalar :=
  plainWords inFlow indent cursor.mark (cursor.rest.length + 1) .empty cursor

/-! ## Quoted scalars -/

/-- Escapes with one character after the backslash. -/
def simpleEscape? : Char → Option Char
  | '0' => some '\x00'
  | 'a' => some '\x07'
  | 'b' => some '\x08'
  | 't' | '\t' => some '\t'
  | 'n' => some '\n'
  | 'v' => some '\x0b'
  | 'f' => some '\x0c'
  | 'r' => some '\r'
  | 'e' => some '\x1b'
  | ' ' => some ' '
  | '"' => some '"'
  | '/' => some '/'
  | '\\' => some '\\'
  | 'N' => some '\u0085'
  | '_' => some '\u00a0'
  | 'L' => some '\u2028'
  | 'P' => some '\u2029'
  | _ => none

/-- The number of hexadecimal digits after an escape that gives a code point. -/
def escapeLength? : Char → Option Nat
  | 'x' => some 2
  | 'u' => some 4
  | 'U' => some 8
  | _ => none

def codePoint? (code : Nat) : Option Char :=
  if code < 0xD800 || (0xDFFF < code && code ≤ 0x10FFFF) then some (Char.ofNat code) else none

/-- Reads what follows a backslash, which is not a line break. -/
def escape (start : Mark) (cursor : Cursor) : Except Fault (Char × Cursor) :=
  let context := "while parsing a quoted scalar"
  match cursor.rest with
  | [] => faultIn context start "found unknown escape character" cursor.mark
  | c :: rest =>
    match simpleEscape? c, escapeLength? c with
    | some value, _ => .ok (value, cursor.advance 1)
    | none, some length =>
      match (rest.take length).mapM Json.hexValue? with
      | none => faultIn context start "did not find expected hexdecimal number" cursor.mark
      | some digits =>
        if digits.length < length then
          faultIn context start "did not find expected hexdecimal number" cursor.mark
        else
          match codePoint? (digits.foldl (fun code digit ↦ 16 * code + digit) 0) with
          | some value => .ok (value, cursor.advance (length + 1))
          | none =>
            faultIn context start "found invalid Unicode character escape code" cursor.mark
    | none, none => faultIn context start "found unknown escape character" cursor.mark

/-- Reads up to the closing quote and moves over it. -/
def quotedText (isDouble : Bool) (start : Mark) :
    Nat → Cursor → Except Fault (List Char × Cursor)
  | 0, cursor => .ok ([], cursor)
  | fuel + 1, cursor =>
    let context := "while scanning a quoted scalar"
    if cursor.isAtDocumentMark then
      faultIn context start "found unexpected document indicator" cursor.mark
    else
      match cursor.rest with
      | [] => faultIn context start "found unexpected end of stream" cursor.mark
      | c :: rest =>
        let continue' := fun (text : List Char) (cursor : Cursor) ↦ do
          let (more, cursor) ← quotedText isDouble start fuel cursor
          .ok (text ++ more, cursor)
        if isBlankOrBreak c then
          match Gap.read 0 cursor.rest.length false cursor with
          | .ok (gap, cursor) => continue' gap.folded cursor
          | .error _ => continue' [] cursor
        else if isDouble && c = '\\' then
          match (cursor.advance 1).lineBreak? with
          | some (_, cursor) =>
            match Gap.read 0 cursor.rest.length true cursor with
            | .ok (gap, cursor) => continue' gap.breaks cursor
            | .error _ => continue' [] cursor
          | none => do
            let (value, cursor) ← escape start (cursor.advance 1)
            continue' [value] cursor
        else if !isDouble && c = '\'' && rest.head? = some '\'' then
          continue' ['\''] (cursor.advance 2)
        else if c = (if isDouble then '"' else '\'') then .ok ([], cursor.advance 1)
        else continue' [c] (cursor.advance 1)

/-- Reads a scalar from its opening quote on. -/
def quotedScalar (isDouble : Bool) (cursor : Cursor) : Except Fault (List Char × Cursor) :=
  quotedText isDouble cursor.mark (cursor.rest.length + 1) (cursor.advance 1)

/-! ## Block scalars -/

/-- What becomes of the line breaks at the end of a block. -/
inductive Chomping where
  | strip
  | clip
  | keep
  deriving DecidableEq

/-- The signs behind the indicator of a block. -/
structure BlockHeader where
  chomping : Chomping
  /-- The indentation, if it is given. -/
  increment : Option Nat

def chomping? : Char → Option Chomping
  | '+' => some .keep
  | '-' => some .strip
  | _ => none

def increment? (c : Char) : Option Nat := if c.isDigit then some (c.toNat - '0'.toNat) else none

/-- Reads the signs, of which each kind may stand first. -/
def blockHeader (cursor : Cursor) : BlockHeader × Cursor :=
  match cursor.rest.head?.bind chomping?, cursor.rest.head?.bind increment? with
  | some chomping, _ =>
    let cursor := cursor.advance 1
    match cursor.rest.head?.bind increment? with
    | some increment => (⟨chomping, some increment⟩, cursor.advance 1)
    | none => (⟨chomping, none⟩, cursor)
  | none, some increment =>
    let cursor := cursor.advance 1
    match cursor.rest.head?.bind chomping? with
    | some chomping => (⟨chomping, some increment⟩, cursor.advance 1)
    | none => (⟨.clip, some increment⟩, cursor)
  | none, none => (⟨.clip, none⟩, cursor)

/-- Empty lines inside a block, and the indentation of the line after them. -/
structure BlockBreaks where
  breaks : List Char
  /-- The widest indentation seen. -/
  widest : Nat
  cursor : Cursor

/-- Reads indentation, up to `indent` when that is known, and line breaks. -/
def blockBreaks (indent : Option Nat) (start : Mark) : Nat → Cursor → Except Fault BlockBreaks
  | 0, cursor => .ok ⟨[], cursor.column, cursor⟩
  | fuel + 1, cursor =>
    let blanks := (cursor.rest.takeWhile (· = ' ')).length
    let cursor := cursor.advance
      (indent.elim blanks fun indent ↦ min blanks (indent - cursor.column))
    if cursor.rest.head? = some '\t' && indent.all (cursor.column < ·) then
      faultIn "while scanning a block scalar" start
        "found a tab character where an indentation space is expected" cursor.mark
    else
      match cursor.lineBreak? with
      | none => .ok ⟨[], cursor.column, cursor⟩
      | some (c, next) => do
        let breaks ← blockBreaks indent start fuel next
        .ok ⟨c :: breaks.breaks, max cursor.column breaks.widest, breaks.cursor⟩

/-- The end of a block: its last line break and the empty lines after it. -/
structure BlockEnd where
  text : List Char
  lastBreak : List Char
  breaks : List Char
  cursor : Cursor

/-- The line breaks between two lines; a folded block keeps those around indented lines. -/
def betweenLines (isFolded : Bool) (lastBreak breaks : List Char) (isIndented : Bool) :
    List Char :=
  if isFolded && lastBreak = ['\n'] && !isIndented then
    if breaks.isEmpty then [' '] else breaks
  else lastBreak ++ breaks

/-- Reads the lines of a block that are indented so far. -/
def blockLines (isFolded : Bool) (indent : Nat) (start : Mark) :
    Nat → List Char → List Char → Bool → Cursor → Except Fault BlockEnd
  | 0, lastBreak, breaks, _, cursor => .ok ⟨[], lastBreak, breaks, cursor⟩
  | fuel + 1, lastBreak, breaks, wasIndented, cursor =>
    if cursor.column != indent || cursor.rest.isEmpty then .ok ⟨[], lastBreak, breaks, cursor⟩
    else do
      let isIndented := cursor.rest.head?.any isBlank
      let (line, cursor) := cursor.takeWhile (!isBreak ·)
      let gap := betweenLines isFolded lastBreak breaks (wasIndented || isIndented)
      let (lastBreak, cursor) := match cursor.lineBreak? with
        | some (c, cursor) => ([c], cursor)
        | none => ([], cursor)
      let next ← blockBreaks (some indent) start cursor.rest.length cursor
      let ending ←
        blockLines isFolded indent start fuel lastBreak next.breaks isIndented next.cursor
      .ok { ending with text := gap ++ line ++ ending.text }

/-- Reads a block from its indicator on, inside a collection with an indentation, if any. -/
def blockScalar (isFolded : Bool) (outer : Option Nat) (cursor : Cursor) :
    Except Fault (List Char × Cursor) := do
  let start := cursor.mark
  let context := "while scanning a block scalar"
  let (header, cursor) := blockHeader (cursor.advance 1)
  if header.increment = some 0 then
    faultIn context start "found an indentation indicator equal to 0" cursor.mark
  else
    let cursor := cursor.skipWhile isBlank
    let cursor :=
      if cursor.rest.head? = some '#' then cursor.skipWhile (!isBreak ·) else cursor
    if !endsLine cursor.rest then
      faultIn context start "did not find expected comment or line break" cursor.mark
    else
      let cursor := cursor.skipLineBreak
      let given := header.increment.map (outer.getD 0 + ·)
      let first ← blockBreaks given start cursor.rest.length cursor
      let indent := given.getD (max first.widest (outer.elim 1 fun outer ↦ max 1 (outer + 1)))
      let ending ← blockLines isFolded indent start (cursor.rest.length + 1) [] first.breaks false
        first.cursor
      let tail := match header.chomping with
        | .strip => []
        | .clip => ending.lastBreak
        | .keep => ending.lastBreak ++ ending.breaks
      .ok (ending.text ++ tail, ending.cursor)

end ProviderDocs.Yaml
