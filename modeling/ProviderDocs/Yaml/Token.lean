import ProviderDocs.Yaml.ScalarText

/-!
# YAML tokens

The text is cut into tokens. Indentation opens and closes block collections, and a colon turns
the text before it on its line into a key, so both yield tokens that the text does not show.
-/

namespace ProviderDocs.Yaml

inductive TokenKind where
  | versionDirective (major minor : Nat)
  /-- A shorthand for the front of tags. -/
  | tagDirective (handle replacement : String)
  | documentStart
  | documentEnd
  | blockSequenceStart
  | blockMappingStart
  | blockEnd
  | flowSequenceStart
  | flowSequenceEnd
  | flowMappingStart
  | flowMappingEnd
  | blockEntry
  | flowEntry
  | key
  | value
  /-- An alias for a node with an anchor. -/
  | reference (name : String)
  | anchor (name : String)
  | tag (handle suffix : String)
  | scalar (text : String) (style : ScalarStyle)
  | streamEnd
  deriving DecidableEq, Repr

structure Token where
  kind : TokenKind
  mark : Mark

/-! ## Anchors and tags -/

/-- Reads the name of an anchor behind its indicator. -/
def anchorName (context : String) (cursor : Cursor) : Except Fault (String × Cursor) :=
  let (name, after) := (cursor.advance 1).takeWhile isNameChar
  if name.isEmpty || !after.rest.head?.all fun c ↦
      isBlankOrBreak c || "?:,]\x7d%@`".toList.contains c then
    faultIn context cursor.mark "did not find expected alphabetic or numeric character" after.mark
  else .ok (String.ofList name, after)

def isTagChar (inBrackets : Bool) (c : Char) : Bool :=
  isNameChar c || ";/?:@&=+$.!~*'()".toList.contains c || (inBrackets && ",[]".toList.contains c)

/-- Reads the rest of a tag; escaped bytes are kept as they are written. -/
def tagText (inBrackets : Bool) : Nat → Cursor → Option (List Char × Cursor)
  | 0, cursor => some ([], cursor)
  | fuel + 1, cursor =>
    match cursor.rest with
    | '%' :: a :: b :: _ =>
      if (Json.hexValue? a).isSome && (Json.hexValue? b).isSome then
        (tagText inBrackets fuel (cursor.advance 3)).map fun (text, cursor) ↦
          ('%' :: a :: b :: text, cursor)
      else none
    | '%' :: _ => none
    | c :: _ =>
      if isTagChar inBrackets c then
        (tagText inBrackets fuel (cursor.advance 1)).map fun (text, cursor) ↦ (c :: text, cursor)
      else some ([], cursor)
    | [] => some ([], cursor)

/-- Reads a non-empty part of a tag. -/
def tagPart (context : String) (start : Mark) (inBrackets isOptional : Bool) (cursor : Cursor) :
    Except Fault (String × Cursor) :=
  match tagText inBrackets cursor.rest.length cursor with
  | none => faultIn context start "did not find URI escaped octet" cursor.mark
  | some (text, after) =>
    if text.isEmpty && !isOptional then
      faultIn context start "did not find expected tag URI" after.mark
    else .ok (String.ofList text, after)

/-- Reads a handle between exclamation marks, or what could become one. -/
def tagHandle (cursor : Cursor) : String × Cursor :=
  let (name, after) := (cursor.advance 1).takeWhile isNameChar
  if after.rest.head? = some '!' then
    ("!" ++ String.ofList name ++ "!", after.advance 1)
  else ("!" ++ String.ofList name, after)

/-- Reads a tag from its indicator on. -/
def tagToken (inFlow : Bool) (cursor : Cursor) : Except Fault (TokenKind × Cursor) := do
  let start := cursor.mark
  let (kind, after) ←
    if cursor.rest[1]? = some '<' then do
      let (suffix, after) ← tagPart "while parsing a tag" start true false (cursor.advance 2)
      if after.rest.head? = some '>' then .ok (TokenKind.tag "" suffix, after.advance 1)
      else faultIn "while scanning a tag" start "did not find the expected '>'" after.mark
    else
      let (handle, after) := tagHandle cursor
      if handle.length > 1 && endsWith handle "!" then do
        let (suffix, after) ← tagPart "while parsing a tag" start false false after
        .ok (TokenKind.tag handle suffix, after)
      else do
        let (suffix, after) ← tagPart "while parsing a tag" start false true after
        let suffix := String.ofList (handle.toList.drop 1) ++ suffix
        .ok (if suffix.isEmpty then TokenKind.tag "" "!" else .tag "!" suffix, after)
  if endsWord after.rest || (inFlow && after.rest.head? = some ',') then .ok (kind, after)
  else
    faultIn "while scanning a tag" start "did not find expected whitespace or line break" after.mark

/-! ## Directives -/

def number (start : Mark) (cursor : Cursor) : Except Fault (Nat × Cursor) :=
  let context := "while scanning a %YAML directive"
  let (digits, after) := cursor.takeWhile Char.isDigit
  if digits.isEmpty then faultIn context start "did not find expected version number" after.mark
  else if digits.length > 9 then
    faultIn context start "found extremely long version number" after.mark
  else .ok (digits.foldl (fun n d ↦ 10 * n + (d.toNat - '0'.toNat)) 0, after)

def versionDirective (start : Mark) (cursor : Cursor) : Except Fault (TokenKind × Cursor) := do
  let (major, after) ← number start (cursor.skipWhile isBlank)
  if after.rest.head? != some '.' then
    faultIn "while scanning a %YAML directive" start "did not find expected digit or '.' character"
      after.mark
  else
    let (minor, after) ← number start (after.advance 1)
    .ok (.versionDirective major minor, after)

def tagDirective (start : Mark) (cursor : Cursor) : Except Fault (TokenKind × Cursor) := do
  let context := "while scanning a %TAG directive"
  let cursor := cursor.skipWhile isBlank
  if cursor.rest.head? != some '!' then
    faultIn context start "did not find expected '!'" cursor.mark
  else
    let (handle, after) := tagHandle cursor
    if handle != "!" && !endsWith handle "!" then
      faultIn "while parsing a tag directive" start "did not find expected '!'" after.mark
    else if !after.rest.head?.any isBlank then
      faultIn context start "did not find expected whitespace" after.mark
    else
      let (replacement, after) ←
        tagPart "while parsing a %TAG directive" start true false (after.skipWhile isBlank)
      if endsWord after.rest then .ok (.tagDirective handle replacement, after)
      else faultIn context start "did not find expected whitespace or line break" after.mark

/-- Reads a directive with its line. -/
def directive (cursor : Cursor) : Except Fault (TokenKind × Cursor) := do
  let start := cursor.mark
  let context := "while scanning a directive"
  let (name, after) := (cursor.advance 1).takeWhile isNameChar
  if name.isEmpty then faultIn context start "could not find expected directive name" after.mark
  else if !endsWord after.rest then
    faultIn context start "found unexpected non-alphabetical character" after.mark
  else
    let (kind, after) ← match String.ofList name with
      | "YAML" => versionDirective start after
      | "TAG" => tagDirective start after
      | _ => faultIn context start "found unknown directive name" after.mark
    let after := after.skipWhile isBlank
    let after := if after.rest.head? = some '#' then after.skipWhile (!isBreak ·) else after
    if endsLine after.rest then .ok (kind, after.skipLineBreak)
    else faultIn context start "did not find expected comment or line break" after.mark

/-! ## The state of a scan -/

/-- A place that a colon on the same line turns into a key. -/
structure PossibleKey where
  /-- A block mapping goes on here, so there has to be a key. -/
  isRequired : Bool
  /-- The number of tokens before it. -/
  position : Nat
  mark : Mark

structure Scan where
  cursor : Cursor
  tokens : Array Token
  /-- The indentations of the open block collections, the innermost first. -/
  indents : List Nat
  /-- The possible key of each open flow collection, the innermost first, and of the block. -/
  keys : List (Option PossibleKey)
  /-- A key may stand here. -/
  allowsKey : Bool

namespace Scan

def ofCursor (cursor : Cursor) : Scan := ⟨cursor, #[], [], [none], true⟩

def inFlow (scan : Scan) : Bool := scan.keys.length > 1

def mark (scan : Scan) : Mark := scan.cursor.mark

def push (scan : Scan) (kind : TokenKind) (mark : Mark) : Scan :=
  { scan with tokens := scan.tokens.push ⟨kind, mark⟩ }

/-- Adds a token that is as long as its indicator. -/
def pushIndicator (scan : Scan) (kind : TokenKind) (length : Nat) : Scan :=
  { scan.push kind scan.mark with cursor := scan.cursor.advance length }

/-- Inserts a token before others. -/
def insert (scan : Scan) (position : Nat) (kind : TokenKind) (mark : Mark) : Scan :=
  { scan with
    tokens := ((scan.tokens.toList.take position ++ ⟨kind, mark⟩ ::
      scan.tokens.toList.drop position)).toArray }

/-! ### Indentation -/

/-- Opens a block collection when the column is beyond the indentation. -/
def indent (scan : Scan) (column position : Nat) (kind : TokenKind) (mark : Mark) : Scan :=
  if scan.inFlow || scan.indents.head?.any (column ≤ ·) then scan
  else { scan.insert position kind mark with indents := column :: scan.indents }

/-- Closes the block collections that are beyond the column. -/
def closeIndents (column : Option Nat) (mark : Mark) :
    List Nat → Array Token → List Nat × Array Token
  | [], tokens => ([], tokens)
  | indent :: rest, tokens =>
    if column.all (· < indent) then closeIndents column mark rest (tokens.push ⟨.blockEnd, mark⟩)
    else (indent :: rest, tokens)

def unindent (scan : Scan) (column : Option Nat) : Scan :=
  if scan.inFlow then scan
  else
    let (indents, tokens) := closeIndents column scan.mark scan.indents scan.tokens
    { scan with indents := indents, tokens := tokens }

/-! ### Possible keys -/

def missingColon {α : Type} (key : PossibleKey) (mark : Mark) : Except Fault α :=
  faultIn "while scanning a simple key" key.mark "could not find expected ':'" mark

/-- Drops the possible key of the innermost collection. -/
def dropKey (scan : Scan) : Except Fault Scan :=
  match scan.keys with
  | some key :: rest =>
    if key.isRequired then missingColon key scan.mark else .ok { scan with keys := none :: rest }
  | _ => .ok scan

/-- A key ends on its line and has at most 1024 characters. -/
def isStale (mark : Mark) (key : PossibleKey) : Bool :=
  key.mark.line < mark.line || key.mark.index + 1024 < mark.index

def dropStaleKeys (scan : Scan) : Except Fault Scan := do
  let keys ← scan.keys.mapM fun key ↦
    match key with
    | some key =>
      if isStale scan.mark key then
        if key.isRequired then missingColon key scan.mark else .ok none
      else .ok (some key)
    | none => .ok none
  .ok { scan with keys := keys }

/-- Notes that a key may begin here. -/
def noteKey (scan : Scan) : Except Fault Scan :=
  if scan.allowsKey then do
    let scan ← scan.dropKey
    let isRequired := !scan.inFlow && scan.indents.head? = some scan.cursor.column
    .ok { scan with keys := some ⟨isRequired, scan.tokens.size, scan.mark⟩ :: scan.keys.tail }
  else .ok scan

/-! ### Blanks and comments -/

/-- Moves to the next token. Tabs may stand where no indentation counts. -/
def skipBlanks : Nat → Scan → Scan
  | 0, scan => scan
  | fuel + 1, scan =>
    let cursor := scan.cursor.skipWhile fun c ↦
      c = ' ' || ((scan.inFlow || !scan.allowsKey) && c = '\t')
    let cursor := if cursor.rest.head? = some '#' then cursor.skipWhile (!isBreak ·) else cursor
    match cursor.lineBreak? with
    | some (_, cursor) =>
      skipBlanks fuel { scan with cursor := cursor, allowsKey := scan.allowsKey || !scan.inFlow }
    | none => { scan with cursor := cursor }

/-! ### Tokens -/

def documentMark (scan : Scan) (kind : TokenKind) : Except Fault Scan := do
  let scan ← (scan.unindent none).dropKey
  .ok { scan.pushIndicator kind 3 with allowsKey := false }

def directiveLine (scan : Scan) : Except Fault Scan := do
  let scan ← (scan.unindent none).dropKey
  let (kind, cursor) ← directive scan.cursor
  .ok { scan.push kind scan.mark with cursor := cursor, allowsKey := false }

def openFlow (scan : Scan) (kind : TokenKind) : Except Fault Scan := do
  let scan ← scan.noteKey
  .ok { scan.pushIndicator kind 1 with keys := none :: scan.keys, allowsKey := true }

def closeFlow (scan : Scan) (kind : TokenKind) : Except Fault Scan := do
  let scan ← scan.dropKey
  let keys := if scan.inFlow then scan.keys.tail else scan.keys
  .ok { scan.pushIndicator kind 1 with keys := keys, allowsKey := false }

def flowEntry (scan : Scan) : Except Fault Scan := do
  let scan ← scan.dropKey
  .ok { scan.pushIndicator .flowEntry 1 with allowsKey := true }

def misplaced {α : Type} (scan : Scan) (what : String) : Except Fault α :=
  .error ⟨what ++ " not allowed in this context", scan.mark, none⟩

def blockEntry (scan : Scan) : Except Fault Scan := do
  if !scan.inFlow && !scan.allowsKey then scan.misplaced "block sequence entries are"
  else
    let scan ←
      (scan.indent scan.cursor.column scan.tokens.size .blockSequenceStart scan.mark).dropKey
    .ok { scan.pushIndicator .blockEntry 1 with allowsKey := true }

def explicitKey (scan : Scan) : Except Fault Scan := do
  if !scan.inFlow && !scan.allowsKey then scan.misplaced "mapping keys are"
  else
    let scan ←
      (scan.indent scan.cursor.column scan.tokens.size .blockMappingStart scan.mark).dropKey
    .ok { scan.pushIndicator .key 1 with allowsKey := !scan.inFlow }

def value (scan : Scan) : Except Fault Scan :=
  match scan.keys with
  | some key :: rest =>
    let scan := (scan.insert key.position .key key.mark).indent key.mark.column key.position
      .blockMappingStart key.mark
    .ok { scan.pushIndicator .value 1 with keys := none :: rest, allowsKey := false }
  | _ =>
    if !scan.inFlow && !scan.allowsKey then scan.misplaced "mapping values are"
    else
      let scan := scan.indent scan.cursor.column scan.tokens.size .blockMappingStart scan.mark
      .ok { scan.pushIndicator .value 1 with allowsKey := !scan.inFlow }

/-- Adds a token that may begin a key. -/
def keyToken (scan : Scan) (read : Cursor → Except Fault (TokenKind × Cursor)) :
    Except Fault Scan := do
  let scan ← scan.noteKey
  let (kind, cursor) ← read scan.cursor
  .ok { scan.push kind scan.mark with cursor := cursor, allowsKey := false }

def anchor (scan : Scan) : Except Fault Scan :=
  scan.keyToken fun cursor ↦
    (anchorName "while scanning an anchor" cursor).map fun (name, cursor) ↦ (.anchor name, cursor)

def reference (scan : Scan) : Except Fault Scan :=
  scan.keyToken fun cursor ↦
    (anchorName "while scanning an alias" cursor).map fun (name, cursor) ↦ (.reference name, cursor)

def quoted (scan : Scan) (isDouble : Bool) : Except Fault Scan :=
  scan.keyToken fun cursor ↦ do
    let (text, cursor) ← quotedScalar isDouble cursor
    let style := if isDouble then ScalarStyle.doubleQuoted else .singleQuoted
    .ok (.scalar (String.ofList text) style, cursor)

def plain (scan : Scan) : Except Fault Scan := do
  let scan ← scan.noteKey
  let scalar ← plainScalar scan.inFlow (scan.indents.head?.elim 0 (· + 1)) scan.cursor
  .ok { scan.push (.scalar (String.ofList scalar.text) .plain) scan.mark with
    cursor := scalar.cursor
    allowsKey := scalar.endsLine }

def block (scan : Scan) (isFolded : Bool) : Except Fault Scan := do
  let scan ← scan.dropKey
  let (text, cursor) ← blockScalar isFolded scan.indents.head? scan.cursor
  let style := if isFolded then ScalarStyle.folded else .literal
  .ok { scan.push (.scalar (String.ofList text) style) scan.mark with
    cursor := cursor
    allowsKey := true }

/-- Indicators, which a plain scalar does not begin with. -/
def isIndicator (c : Char) : Bool := "-?:,[]\x7b\x7d#&*!|>'\"%@`".toList.contains c

/-- A plain scalar may begin here. Some indicators begin one when no blank follows. -/
def beginsPlain (inFlow : Bool) (c : Char) (rest : List Char) : Bool :=
  (!isBlankOrBreak c && !isIndicator c) || (c = '-' && !rest.head?.any isBlank) ||
    (!inFlow && (c = '?' || c = ':') && !endsWord rest)

/-- Reads the token that begins with a character. -/
def token (scan : Scan) (c : Char) (rest : List Char) : Except Fault Scan :=
  if scan.cursor.column = 0 && c = '%' then scan.directiveLine
  else if scan.cursor.isAtDocumentMark then
    scan.documentMark (if c = '-' then .documentStart else .documentEnd)
  else if c = '[' then scan.openFlow .flowSequenceStart
  else if c = '\x7b' then scan.openFlow .flowMappingStart
  else if c = ']' then scan.closeFlow .flowSequenceEnd
  else if c = '\x7d' then scan.closeFlow .flowMappingEnd
  else if c = ',' then scan.flowEntry
  else if c = '-' && endsWord rest then scan.blockEntry
  else if c = '?' && (scan.inFlow || endsWord rest) then scan.explicitKey
  else if c = ':' && (scan.inFlow || endsWord rest) then scan.value
  else if c = '*' then scan.reference
  else if c = '&' then scan.anchor
  else if c = '!' then scan.keyToken (tagToken scan.inFlow)
  else if c = '|' && !scan.inFlow then scan.block false
  else if c = '>' && !scan.inFlow then scan.block true
  else if c = '\'' then scan.quoted false
  else if c = '"' then scan.quoted true
  else if beginsPlain scan.inFlow c rest then scan.plain
  else
    faultIn "while scanning for the next token" scan.mark
      "found character that cannot start any token" scan.mark

/-- Closes all that is open at the end of the text. -/
def finish (scan : Scan) : Except Fault (List Token) := do
  let mark := scan.mark
  let mark := if mark.column = 0 then mark else ⟨mark.index, mark.line + 1, 0⟩
  let scan := { scan with cursor := ⟨[], mark⟩ }
  let scan ← (scan.unindent none).dropKey
  .ok (scan.push .streamEnd mark).tokens.toList

/-- Reads all tokens; every one but the last takes at least one character. -/
def run : Nat → Scan → Except Fault (List Token)
  | 0, scan => scan.finish
  | fuel + 1, scan => do
    let scan := skipBlanks (scan.cursor.rest.length + 1) scan
    let scan ← scan.dropStaleKeys
    let scan := scan.unindent (some scan.cursor.column)
    match scan.cursor.rest with
    | [] => scan.finish
    | c :: rest => do
      let scan ← scan.token c rest
      run fuel scan

end Scan

/-- The tokens of a text. A byte order mark in front of it is skipped. -/
def tokens (text : String) : Except Fault (List Token) :=
  match text.toList.findIdx? (!isAllowed ·) with
  | some index =>
    let offset := (String.ofList (text.toList.take index)).utf8ByteSize
    let place := if offset = 0 then "" else s!" at position {offset}"
    .error ⟨"control characters are not allowed" ++ place, .start, none⟩
  | none =>
    let cursor := Cursor.ofText text
    let cursor := if cursor.rest.head? = some '\ufeff' then cursor.advance 1 else cursor
    Scan.run (text.length + 1) (Scan.ofCursor cursor)

end ProviderDocs.Yaml
