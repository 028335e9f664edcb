import ProviderDocs.Dict
import ProviderDocs.Yaml.Token

/-!
# YAML nodes

Tokens are put together to the node of a document: a scalar, a sequence or a mapping. An alias
stands for the node that last had its anchor.
-/

namespace ProviderDocs.Yaml

inductive Node where
  | scalar (mark : Mark) (tag : Option String) (style : ScalarStyle) (text : String)
  | sequence (mark : Mark) (items : List Node)
  /-- Keys may repeat. -/
  | mapping (mark : Mark) (entries : List (Node × Node))
  /-- An alias inside the node that it stands for. -/
  | recursive (mark : Mark)

namespace Node

instance : Inhabited Node := ⟨recursive .start⟩

def mark : Node → Mark
  | scalar mark .. | sequence mark _ | mapping mark _ | recursive mark => mark

/-- What stands where nothing is written. -/
def absent (mark : Mark) : Node := scalar mark none .plain ""

end Node

/-! ## Reading nodes from tokens -/

structure NodeReader where
  tokens : List Token
  anchors : Dict Node
  /-- The tags that handles are short for. -/
  tags : List (String × String)

abbrev Reading := StateT NodeReader (Except Fault)

namespace Reading

/-- The next token; there is always one at the end of the stream. -/
def peek : Reading Token := do
  return (← get).tokens.head?.getD ⟨.streamEnd, .start⟩

def skip : Reading Unit := modify fun reader ↦ { reader with tokens := reader.tokens.tail }

def fail {α : Type} (context : String) (start : Mark) (problem : String) (mark : Mark) :
    Reading α :=
  throw ⟨problem, mark, some (context, start)⟩

def nextIs (kinds : List TokenKind) : Reading Bool := do
  return kinds.contains (← peek).kind

/-! ### Properties of nodes -/

structure Properties where
  mark : Mark
  anchor : Option String
  tag : Option String

def resolveTag (start : Mark) (handle suffix : String) (mark : Mark) : Reading String := do
  if handle.isEmpty then return suffix
  else
    match (← get).tags.lookup handle with
    | some replacement => return replacement ++ suffix
    | none => fail "while parsing a node" start "found undefined tag handle" mark

/-- Reads an anchor and a tag, in either order, each at most once. -/
def properties : Reading Properties := do
  let first ← peek
  match first.kind with
  | .anchor name =>
    skip
    let next ← peek
    match next.kind with
    | .tag handle suffix =>
      skip
      return ⟨first.mark, some name, ← resolveTag first.mark handle suffix next.mark⟩
    | _ => return ⟨first.mark, some name, none⟩
  | .tag handle suffix =>
    skip
    let next ← peek
    match next.kind with
    | .anchor name =>
      skip
      return ⟨first.mark, some name, ← resolveTag first.mark handle suffix first.mark⟩
    | _ => return ⟨first.mark, none, ← resolveTag first.mark handle suffix first.mark⟩
  | _ => return ⟨first.mark, none, none⟩

/-- An alias inside the node with the anchor finds that the node is not finished. -/
def anchorUnfinished (properties : Properties) : Reading Unit := do
  if let some name := properties.anchor then
    modify fun reader ↦
      { reader with anchors := reader.anchors.insert name (.recursive properties.mark) }

/-- Enters the finished node, unless the anchor was given to another one inside it. -/
def anchorFinished (properties : Properties) (node : Node) : Reading Node := do
  if let some name := properties.anchor then
    modify fun reader ↦
      match reader.anchors.get? name with
      | some (.recursive mark) =>
        if mark = properties.mark then
          { reader with anchors := reader.anchors.insert name node }
        else reader
      | _ => reader
  return node

/-! ### Nodes -/

/-- Where a node may stand, which decides what it may be. -/
inductive Place where
  | flow
  | block
  /-- Inside a mapping, where a sequence need not be indented. -/
  | blockValue
  deriving DecidableEq

def Place.context : Place → String
  | flow => "while parsing a flow node"
  | block | blockValue => "while parsing a block node"

mutual

/-- Reads a node, with fuel for its parts. -/
def node (place : Place) : Nat → Reading Node
  | 0 => return default
  | fuel + 1 => do
    let token ← peek
    if let .reference name := token.kind then
      skip
      match (← get).anchors.get? name with
      | some node => return node
      | none => throw ⟨"unknown anchor", token.mark, none⟩
    else
      let properties ← properties
      anchorUnfinished properties
      anchorFinished properties (← content place properties fuel)

/-- Reads a node behind its properties. -/
def content (place : Place) (properties : Properties) : Nat → Reading Node
  | 0 => return default
  | fuel + 1 => do
    let token ← peek
    let mark := properties.mark
    match token.kind with
    | .scalar text style => skip; return .scalar mark properties.tag style text
    | .flowSequenceStart => skip; return .sequence mark (← flowItems token.mark true fuel)
    | .flowMappingStart => skip; return .mapping mark (← flowEntries token.mark true fuel)
    | .blockEntry =>
      if place = .blockValue then return .sequence mark (← indentlessItems fuel)
      else missing properties token
    | .blockSequenceStart =>
      if place = .flow then missing properties token
      else skip; return .sequence mark (← blockItems token.mark fuel)
    | .blockMappingStart =>
      if place = .flow then missing properties token
      else skip; return .mapping mark (← blockEntries token.mark fuel)
    | _ => missing properties token
where
  missing (properties : Properties) (token : Token) : Reading Node :=
    if properties.anchor.isSome || properties.tag.isSome then
      return .scalar properties.mark properties.tag .plain ""
    else
      fail place.context properties.mark "did not find expected node content" token.mark

/-- Reads a node unless one of some tokens follows. -/
def nodeUnless (place : Place) (ends : List TokenKind) : Nat → Reading Node
  | 0 => return default
  | fuel + 1 => do
    if ← nextIs ends then return .absent (← peek).mark else node place fuel

/-- Reads the items of an indented sequence. -/
def blockItems (start : Mark) : Nat → Reading (List Node)
  | 0 => return []
  | fuel + 1 => do
    let token ← peek
    match token.kind with
    | .blockEntry =>
      skip
      let item ← nodeUnless .block [.blockEntry, .blockEnd] fuel
      return item :: (← blockItems start fuel)
    | .blockEnd => skip; return []
    | _ =>
      fail "while parsing a block collection" start "did not find expected '-' indicator" token.mark

def indentlessItems : Nat → Reading (List Node)
  | 0 => return []
  | fuel + 1 => do
    if ← nextIs [.blockEntry] then
      skip
      let item ← nodeUnless .block [.blockEntry, .key, .value, .blockEnd] fuel
      return item :: (← indentlessItems fuel)
    else return []

/-- Reads the entries of a block mapping. -/
def blockEntries (start : Mark) : Nat → Reading (List (Node × Node))
  | 0 => return []
  | fuel + 1 => do
    let ends := [TokenKind.key, .value, .blockEnd]
    let token ← peek
    match token.kind with
    | .key =>
      skip
      let key ← nodeUnless .blockValue ends fuel
      let value ←
        if ← nextIs [.value] then skip; nodeUnless .blockValue ends fuel
        else pure (.absent (← peek).mark)
      return (key, value) :: (← blockEntries start fuel)
    | .blockEnd => skip; return []
    | _ => fail "while parsing a block mapping" start "did not find expected key" token.mark

/-- Reads the value of a key in a flow collection, if it has one. -/
def flowValue (ends : List TokenKind) : Nat → Reading Node
  | 0 => return default
  | fuel + 1 => do
    if ← nextIs [.value] then skip; nodeUnless .flow ends fuel
    else return .absent (← peek).mark

/-- Reads an item of a flow sequence; a lone entry of a mapping may stand for the mapping. -/
def flowItem : Nat → Reading Node
  | 0 => return default
  | fuel + 1 => do
    let token ← peek
    if token.kind = .key then
      skip
      let ends := [TokenKind.flowEntry, .flowSequenceEnd]
      let key ←
        if ← nextIs (.value :: ends) then
          let mark := (← peek).mark
          skip
          pure (.absent mark)
        else node .flow fuel
      return .mapping token.mark [(key, ← flowValue ends fuel)]
    else node .flow fuel

def flowItems (start : Mark) (isFirst : Bool) : Nat → Reading (List Node)
  | 0 => return []
  | fuel + 1 => do
    if ← nextIs [.flowSequenceEnd] then skip; return []
    else
      unless isFirst do
        if ← nextIs [.flowEntry] then skip
        else
          fail "while parsing a flow sequence" start "did not find expected ',' or ']'"
            (← peek).mark
      if ← nextIs [.flowSequenceEnd] then skip; return []
      else
        let item ← flowItem fuel
        return item :: (← flowItems start false fuel)

/-- Reads the entries of a flow mapping; a key may stand alone. -/
def flowEntries (start : Mark) (isFirst : Bool) : Nat → Reading (List (Node × Node))
  | 0 => return []
  | fuel + 1 => do
    if ← nextIs [.flowMappingEnd] then skip; return []
    else
      unless isFirst do
        if ← nextIs [.flowEntry] then skip
        else
          fail "while parsing a flow mapping" start "did not find expected ',' or '\x7d'"
            (← peek).mark
      let ends := [TokenKind.flowEntry, .flowMappingEnd]
      if ← nextIs [.key] then
        skip
        let key ← nodeUnless .flow (.value :: ends) fuel
        let value ← flowValue ends fuel
        return (key, value) :: (← flowEntries start false fuel)
      else if ← nextIs [.flowMappingEnd] then skip; return []
      else
        let key ← node .flow fuel
        return (key, .absent (← peek).mark) :: (← flowEntries start false fuel)

end

/-! ### Documents -/

def defaultTags : List (String × String) := [("!", "!"), ("!!", "tag:yaml.org,2002:")]

/-- Reads the directives of a document; the version may be given once. -/
def directives (hasVersion : Bool) : Nat → Reading Unit
  | 0 => return
  | fuel + 1 => do
    let token ← peek
    match token.kind with
    | .versionDirective major minor =>
      skip
      if hasVersion then throw ⟨"found duplicate %YAML directive", token.mark, none⟩
      else if major = 1 && (minor = 1 || minor = 2) then directives true fuel
      else throw ⟨"found incompatible YAML document", token.mark, none⟩
    | .tagDirective handle replacement =>
      skip
      if ((← get).tags.drop defaultTags.length).any (·.1 = handle) then
        throw ⟨"found duplicate %TAG directive", token.mark, none⟩
      else
        modify fun reader ↦ { reader with tags := reader.tags ++ [(handle, replacement)] }
        directives hasVersion fuel
    | _ => return

/-- Reads a document from `---` on. -/
def explicitDocument (fuel : Nat) : Reading Node := do
  directives false fuel
  modify fun reader ↦
    { reader with tags := reader.tags.drop defaultTags.length ++ defaultTags }
  let token ← peek
  if token.kind = .documentStart then
    skip
    nodeUnless .block [.documentStart, .documentEnd, .streamEnd] fuel
  else throw ⟨"did not find expected <document start>", token.mark, none⟩

def isDirective : TokenKind → Bool
  | .versionDirective .. | .tagDirective .. => true
  | _ => false

def skipDocumentEnds : Nat → Reading Unit
  | 0 => return
  | fuel + 1 => do
    if ← nextIs [.documentEnd] then
      skip
      skipDocumentEnds fuel

/-- Reads the only document of a text. -/
def onlyDocument (fuel : Nat) : Reading Node := do
  let token ← peek
  if token.kind = .streamEnd then throw ⟨"EOF while parsing a value", .start, none⟩
  else
    let isExplicit := token.kind = .documentStart || isDirective token.kind
    let document ← if isExplicit then explicitDocument fuel else node .block fuel
    skipDocumentEnds fuel
    if ← nextIs [.streamEnd] then return document
    else
      throw ⟨"deserializing from YAML containing more than one document is not supported", .start,
        none⟩

end Reading

/-- The node of a text with one document. -/
def parse (text : String) : Except Fault Node := do
  let tokens ← tokens text
  (Reading.onlyDocument (8 * tokens.length + 8)).run' ⟨tokens, ∅, Reading.defaultTags⟩

end ProviderDocs.Yaml
