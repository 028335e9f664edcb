import ProviderDocs.Doc.Basic
import ProviderDocs.Markdown.Line
import ProviderDocs.Stats.Basic

/-!
# Generated schema sections

The generator of reference pages lists the parameters of an entity under headings that say
whether they are required, and the fields of each nested block under a heading of its own.
-/

namespace ProviderDocs.Markdown

inductive Requirement where
  | required
  | optional
  | readOnly
  deriving DecidableEq, Repr

structure Parameter where
  name : String
  description : String
  /-- The declared type, such as `Block List, Max: 1`. -/
  type : Option String
  requirement : Requirement
  deriving DecidableEq

structure NestedSchema where
  /-- The dotted path of the block. -/
  path : String
  parameters : List Parameter
  deriving DecidableEq

structure SchemaSection where
  parameters : List Parameter
  nested : List NestedSchema
  deriving DecidableEq

namespace SchemaSection

def empty : SchemaSection := ⟨[], []⟩

def isEmpty (schema : SchemaSection) : Bool :=
  schema.parameters.isEmpty && schema.nested.all (·.parameters.isEmpty)

end SchemaSection

/-! ## Lines of a schema section -/

/-- A heading or a label that says which parameters follow. -/
def requirement? (line : String) : Option Requirement :=
  let label := Text.trim ((Text.trim line.toList).dropWhile (· = '#'))
  match String.ofList (label.reverse.dropWhile (· = ':')).reverse with
  | "Required" => some .required
  | "Optional" => some .optional
  | "Read-Only" | "Read-only" | "Read Only" => some .readOnly
  | _ => none

/-- The path in a heading of three or four signs `#` for a nested block. -/
def nestedPath? (line : String) : Option String := do
  let rest ← Text.after? ['#', '#', '#'] line.toList
  let rest := match rest with
    | '#' :: rest => rest
    | rest => rest
  let rest ← Text.skipBlanks1? rest
  let rest ← Text.after? "Nested Schema for `".toList rest
  match ← Text.span1? (· != '`') rest with
  | (path, '`' :: _) => some (String.ofList path)
  | _ => none

/-- The target of links to a nested block. -/
def isAnchor (line : String) : Bool :=
  match Text.after? "<a id=\"".toList (Text.trim line.toList) with
  | some rest => rest.dropWhile (· != '"') = "\"></a>".toList
  | none => false

/-- Reads a link to a nested block, with the blanks before it. -/
def nestedLink? (text : List Char) : Option (List Char × List Char) := do
  let rest ← Text.after? "(see [below for nested schema](".toList (Text.dropBlank text)
  let rest ← Text.after? "))".toList (rest.dropWhile (· != ')'))
  some ([], rest)

/-- Reads a name between backticks or between pairs of asterisks. -/
def parameterName? (text : List Char) : Option (List Char × List Char) :=
  match text with
  | '`' :: rest =>
    match Text.span1? (· != '`') rest with
    | some (name, '`' :: rest) => some (name, rest)
    | _ => none
  | '*' :: '*' :: rest =>
    match Text.span1? (· != '*') rest with
    | some (name, '*' :: '*' :: rest) => some (name, rest)
    | _ => none
  | _ => none

/-- A parameter bullet without its requirement. -/
structure ParameterBullet where
  name : List Char
  type : Option (List Char)
  description : List Char

def parameterBullet? (line : List Char) : Option ParameterBullet :=
  match Text.dropBlank line with
  | marker :: rest =>
    if marker = '-' || marker = '*' then do
      let (name, rest) ← parameterName? (← Text.skipBlanks1? rest)
      let rest := Text.dropBlank rest
      let (type, description) := match rest with
        | '(' :: afterBracket =>
          match Text.span (· != ')') afterBracket with
          | (type, ')' :: rest) => (some type, Text.dropBlank rest)
          | _ => (none, rest)
        | _ => (none, rest)
      if description.contains '\n' then none else some ⟨name, type, description⟩
    else none
  | [] => none

def ParameterBullet.toParameter (bullet : ParameterBullet) (requirement : Requirement) :
    Parameter where
  name := String.ofList bullet.name
  description := String.ofList (Text.trim (Text.substitute nestedLink? bullet.description))
  type := bullet.type.map String.ofList
  requirement := requirement

inductive SchemaLine where
  | nestedHeading (path : String)
  | label (requirement : Requirement)
  | parameter (bullet : ParameterBullet) (text : String)
  | text (text : String)
  /-- A blank line or an anchor. -/
  | gap

def SchemaLine.ofLine (line : String) : SchemaLine :=
  match nestedPath? line with
  | some path => nestedHeading path
  | none =>
    match requirement? line with
    | some requirement => label requirement
    | none =>
      if isBlankLine line || isAnchor line then gap
      else match parameterBullet? line.toList with
        | some bullet => parameter bullet (trimmed line)
        | none => text (trimmed line)

/-! ## Reading a schema section -/

structure SchemaScan where
  schema : SchemaSection
  requirement : Option Requirement
  /-- The line before belongs to a parameter. -/
  afterParameter : Bool

namespace SchemaScan

/-- Changes the list that parameters go to: that of the last block, once there is one. -/
def updateParameters (schema : SchemaSection) (change : List Parameter → List Parameter) :
    SchemaSection :=
  match schema.nested.getLast? with
  | some block =>
    { schema with
      nested := schema.nested.dropLast ++ [{ block with parameters := change block.parameters }] }
  | none => { schema with parameters := change schema.parameters }

/-- One more line of description for the last parameter. -/
def continueLast (text : String) (parameters : List Parameter) : List Parameter :=
  match parameters.getLast? with
  | some last =>
    parameters.dropLast ++ [{ last with description := last.description ++ "\n" ++ text }]
  | none => parameters

def continuation (scan : SchemaScan) (text : String) : SchemaScan :=
  if scan.afterParameter then
    { scan with schema := updateParameters scan.schema (continueLast text) }
  else scan

def step (scan : SchemaScan) (line : SchemaLine) : SchemaScan :=
  match line with
  | .nestedHeading path =>
    { schema := { scan.schema with nested := scan.schema.nested ++ [⟨path, []⟩] }
      requirement := none
      afterParameter := false }
  | .label requirement => { scan with requirement := some requirement, afterParameter := false }
  | .gap => { scan with afterParameter := false }
  | .parameter bullet text =>
    match scan.requirement with
    | some requirement =>
      { scan with
        schema := updateParameters scan.schema (· ++ [bullet.toParameter requirement])
        afterParameter := true }
    | none => scan.continuation text
  | .text text => scan.continuation text

end SchemaScan

def SchemaSection.ofLines (lines : List String) : SchemaSection :=
  ((lines.map SchemaLine.ofLine).foldl SchemaScan.step ⟨.empty, none, false⟩).schema

/-! ## Recording a schema section -/

/-- Sets the description of an argument; replacing another one is worth a warning. -/
def putArgument (name description : String) (isNested : Bool) (state : EntityDoc × Stats) :
    EntityDoc × Stats :=
  let old := (state.1.argument name).description
  let conflict := !old.isEmpty && old != description
  (state.1.updateArgument name fun argument ↦
      { argument with description := description, isNested := isNested },
    if conflict then state.2.warn else state.2)

/-- Records a field under its block and under its dotted path. -/
def setNestedArgument (path : String) (parameter : Parameter) (state : EntityDoc × Stats) :
    EntityDoc × Stats :=
  let doc := state.1.updateArgument path fun argument ↦
    { argument with
      nested := argument.nested.insert parameter.name parameter.description
      isNested := true }
  putArgument (path ++ "." ++ parameter.name) parameter.description true (doc, state.2)

/-- Top-level parameters become arguments; the fields of blocks follow. -/
def SchemaSection.record (schema : SchemaSection) (doc : EntityDoc) (stats : Stats) :
    EntityDoc × Stats :=
  let state := schema.parameters.foldl
    (fun state parameter ↦ putArgument parameter.name parameter.description false state)
    (doc, stats)
  schema.nested.foldl
    (fun state block ↦ block.parameters.foldl
      (fun state parameter ↦ setNestedArgument block.path parameter state) state)
    state

end ProviderDocs.Markdown
