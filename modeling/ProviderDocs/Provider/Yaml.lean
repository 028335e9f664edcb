import ProviderDocs.Provider.Basic
import ProviderDocs.Text.Quoted
import ProviderDocs.Yaml.Node

/-!
# Provider mappings as YAML

The records are those of JSON. A text is any scalar as it is written, so `name: 12` and
`name: ~` give texts too; a value that is left empty or written as null is absent where absence
is allowed, and empty where a mapping is expected.
-/

namespace ProviderDocs

namespace Yaml

/-! ## Reading plain values -/

/-- Reads a node that stands at a path below the root; failures are told in full. -/
abbrev Reader (α : Type) := String → Node → Except String α

/-- A failure at a path, which is empty for the root. -/
def failure {α : Type} (path : String) (mark : Mark) (problem : String) : Except String α :=
  .error ((if path.isEmpty then "" else path ++ ": ") ++ problem ++ mark.suffix)

def childPath (path key : String) : String := if path.isEmpty then key else path ++ "." ++ key

def isNull (text : String) : Bool := ["null", "Null", "NULL", "~"].contains text

def bool? (text : String) : Option Bool :=
  if ["true", "True", "TRUE"].contains text then some true
  else if ["false", "False", "FALSE"].contains text then some false
  else none

/-- A decimal number as messages name it. -/
def isDecimal (text : String) : Bool :=
  match text.toList with
  | '-' :: digits | digits =>
    !digits.isEmpty && digits.all Char.isDigit && (digits.head? != some '0' || digits.length = 1)

/-- A node as messages name it. -/
def nodeText : Node → String
  | .scalar _ _ style text =>
    if style != .plain then "string " ++ quoted text
    else if text.isEmpty || isNull text then "unit value"
    else if (bool? text).isSome then s!"boolean `{text.toLower}`"
    else if isDecimal text then s!"integer `{text}`"
    else "string " ++ quoted text
  | .sequence .. => "sequence"
  | .mapping .. => "map"
  | .recursive _ => "map"

def wrongType {α : Type} (path expected : String) (node : Node) : Except String α :=
  failure path node.mark s!"invalid type: {nodeText node}, expected {expected}"

def readText : Reader String := fun path node ↦
  match node with
  | .scalar _ _ _ text => .ok text
  | node => wrongType path "a string" node

def nullTag : String := "tag:yaml.org,2002:null"

def boolTag : String := "tag:yaml.org,2002:bool"

def readOptional {α : Type} (read : Reader α) : Reader (Option α) := fun path node ↦
  match node with
  | .scalar mark tag .plain text =>
    if tag = some nullTag then
      if isNull text then .ok none
      else failure path mark s!"invalid value: string {quoted text}, expected null"
    else if text.isEmpty || isNull text then .ok none
    else (read path node).map some
  | node => (read path node).map some

def readBool : Reader Bool := fun path node ↦
  let value? := match node with
    | .scalar _ _ .plain text => bool? text
    | .scalar _ tag .literal text => if tag = some boolTag then bool? text else none
    | _ => none
  match value? with
  | some value => .ok value
  | none => wrongType path "a boolean" node

/-- Mappings nest at most so deep. -/
def maxDepth : Nat := 128

/-- The entries of a mapping, which is `depth` levels above the deepest that is read. -/
def entries (depth : Nat) (path expected : String) (node : Node) :
    Except String (List (String × Node)) :=
  match node with
  | .mapping mark entries =>
    if depth = 0 then failure path mark "recursion limit exceeded"
    else entries.mapM fun (key, value) ↦ do .ok (← readText path key, value)
  | .scalar _ _ .plain "" => .ok []
  | .recursive mark => failure path mark "recursion limit exceeded"
  | node => wrongType path expected node

/-- Reads a mapping by key; the last of several entries with one key stays. -/
def readDict {α : Type} (depth : Nat) (read : Reader α) : Reader (Dict α) := fun path node ↦ do
  let entries ← entries depth path "a map" node
  let values ← entries.mapM fun (key, value) ↦ do .ok (key, ← read (childPath path key) value)
  .ok (Dict.ofList values)

/-! ## Reading records -/

/-- The fields of a record, which do not repeat. -/
structure Fields where
  path : String
  mark : Mark
  values : List (String × Node)

/-- Reads the fields that a record knows; all others are ignored. -/
def readFields (depth : Nat) (expected : String) (known : List String) : Reader Fields :=
  fun path node ↦ do
    let entries ← entries depth path expected node
    let values := entries.filter fun (key, _) ↦ known.contains key
    match known.find? fun name ↦ 1 < values.countP (·.1 = name) with
    | some name => failure path node.mark s!"duplicate field `{name}`"
    | none => .ok ⟨path, node.mark, values⟩

namespace Fields

def field? {α : Type} (fields : Fields) (name : String) (read : Reader α) :
    Except String (Option α) :=
  match fields.values.lookup name with
  | some node => (read (childPath fields.path name) node).map some
  | none => .ok none

def required {α : Type} (fields : Fields) (name : String) (read : Reader α) : Except String α := do
  match ← fields.field? name read with
  | some value => .ok value
  | none => failure fields.path fields.mark s!"missing field `{name}`"

def optional {α : Type} (fields : Fields) (name : String) (read : Reader α) :
    Except String (Option α) := do
  .ok (← fields.field? name (readOptional read)).join

def withDefault {α : Type} (fields : Fields) (name : String) (default : α) (read : Reader α) :
    Except String α := do
  .ok ((← fields.field? name read).getD default)

end Fields

end Yaml

/-! ## Provider mappings -/

open Yaml (Reader Fields)

/-- Overrides nest below each other, so they are read to a depth. -/
def FieldOverride.ofYaml : Nat → Reader FieldOverride
  | 0 => fun path node ↦ Yaml.failure path node.mark "recursion limit exceeded"
  | depth + 1 => fun path node ↦ do
    let fields ← Yaml.readFields (depth + 1) "a field override"
      ["name", "omit", "nested_type_name", "elem", "fields"] path node
    let entries ← fields.withDefault "fields" ∅
      (Yaml.readDict depth (FieldOverride.ofYaml (depth - 1)))
    .ok (.mk (← fields.optional "name" Yaml.readText)
      (← fields.withDefault "omit" false Yaml.readBool)
      (← fields.optional "nested_type_name" Yaml.readText)
      (← fields.optional "elem" (FieldOverride.ofYaml depth)) entries.entries)

def DocOverride.ofYaml (depth : Nat) : Reader DocOverride := fun path node ↦ do
  let fields ← Yaml.readFields depth "a documentation override"
    ["markdown", "source", "import_details", "include_attributes_from",
      "include_attributes_from_arguments", "include_arguments_from"] path node
  let text? := fun name ↦ fields.optional name Yaml.readText
  .ok {
    markdown := ← text? "markdown"
    source := ← text? "source"
    importDetails := ← text? "import_details"
    attributesFrom := ← text? "include_attributes_from"
    attributesFromArguments := ← text? "include_attributes_from_arguments"
    argumentsFrom := ← text? "include_arguments_from" }

def EntityMapping.ofYaml (depth : Nat) : Reader EntityMapping := fun path node ↦ do
  let fields ← Yaml.readFields depth "an entity mapping" ["tok", "docs", "fields"] path node
  .ok {
    token := ← fields.required "tok" Yaml.readText
    docs := ← fields.optional "docs" (DocOverride.ofYaml (depth - 1))
    fields := (← fields.withDefault "fields" ∅
      (Yaml.readDict (depth - 1) (FieldOverride.ofYaml (depth - 2)))).entries }

def Provider.ofYaml : Reader Provider := fun path node ↦ do
  let depth := Yaml.maxDepth
  let fields ← Yaml.readFields depth "struct ProviderInfo"
    ["name", "resource_prefix", "github_org", "git_host", "resources", "data_sources"] path node
  let entities := Yaml.readDict (depth - 1) (EntityMapping.ofYaml (depth - 2))
  .ok {
    name := ← fields.required "name" Yaml.readText
    resourcePrefix := ← fields.optional "resource_prefix" Yaml.readText
    organization := ← fields.optional "github_org" Yaml.readText
    gitHost := ← fields.withDefault "git_host" Provider.defaultHost Yaml.readText
    resources := ← fields.withDefault "resources" ∅ entities
    dataSources := ← fields.withDefault "data_sources" ∅ entities }

/-- The provider mapping of a YAML text. -/
def Provider.parseYaml (text : String) : Except String Provider := do
  let node ← (Yaml.parse text).mapError Yaml.Fault.message
  Provider.ofYaml "" node

end ProviderDocs
