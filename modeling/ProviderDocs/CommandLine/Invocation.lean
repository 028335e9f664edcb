import ProviderDocs.CommandLine.Options
import ProviderDocs.EntityKind
import ProviderDocs.Language

/-!
# Commands of the command line

There are three commands: `docs` parses the document of an entity, `types` names the nested
types of schemas, and `convert` translates examples.
-/

namespace ProviderDocs.CommandLine

/-! ## Commands -/

structure DocsCommand where
  name : String
  file : Option String
  repository : Option String
  mapping : Option String
  /-- The name of the provider, over that in the mapping. -/
  provider : Option String
  kind : EntityKind
  language : OutputLanguage
  requireDocs : Bool
  output : Option String

structure TypesCommand where
  schemas : String
  mapping : Option String
  provider : Option String
  /-- The directory of the report. -/
  output : Option String

structure ConvertCommand where
  /-- Files with an example each. -/
  examples : List String
  mappings : List String
  /-- The target languages as users name them. -/
  languages : List String
  converter : String

inductive Command where
  | docs (options : DocsCommand)
  | types (options : TypesCommand)
  | convert (options : ConvertCommand)

structure Invocation where
  command : Command
  isVerbose : Bool

/-! ## Options -/

def kind? (name : String) : Option EntityKind :=
  match name with
  | "resource" => some .resource
  | "data-source" => some .dataSource
  | _ => none

def language? (name : String) : Option OutputLanguage :=
  if name = "golang" then none
  else if name = "go" then some .golang
  else OutputLanguage.ofName? name

def anyText (_ : String) : Bool := true

/-- A path has to have a name. -/
def isPath (text : String) : Bool := !text.isEmpty

def single (name : String) (letter : Char) (accepts : String → Bool) : OptionRule :=
  ⟨name, some letter, .single, accepts⟩

def verboseRule : OptionRule := ⟨"verbose", some 'v', .switch, anyText⟩

def helpRule : OptionRule := ⟨"help", some 'h', .interrupt .help, anyText⟩

/-- The options that stand in front of a command. -/
def mainGrammar : Grammar where
  rules := [verboseRule, helpRule, ⟨"version", some 'V', .interrupt .version, anyText⟩]
  acceptsOperand := anyText
  hasCommands := true

/-- The options of a command, which may be verbose and tell its use. -/
def grammarOf (rules : List OptionRule) (acceptsOperand : String → Bool) : Grammar where
  rules := rules ++ [verboseRule, helpRule]
  acceptsOperand := acceptsOperand
  hasCommands := false

def docsGrammar : Grammar :=
  grammarOf
    [single "name" 'n' anyText, single "file" 'f' isPath, single "repo" 'r' isPath,
      single "config" 'c' isPath, single "provider" 'p' anyText,
      single "kind" 'k' fun name ↦ (kind? name).isSome,
      single "language" 'l' fun name ↦ (language? name).isSome,
      ⟨"missing-docs-error", none, .switch, anyText⟩, single "output" 'o' isPath]
    fun _ ↦ false

def typesGrammar : Grammar :=
  grammarOf
    [single "schemas" 's' isPath, single "config" 'c' isPath, single "provider" 'p' anyText,
      single "output" 'o' isPath]
    fun _ ↦ false

def convertGrammar : Grammar :=
  grammarOf
    [⟨"config", some 'c', .list, isPath⟩, ⟨"languages", some 'l', .list, anyText⟩,
      ⟨"pulumi", none, .single, isPath⟩]
    isPath

/-! ## Reading commands -/

def demand (value : Option String) : Except Refusal String :=
  match value with
  | some value => .ok value
  | none => .error .misuse

/-- A document comes from a file or from a checkout, not from both. -/
def DocsCommand.ofGiven (given : Given) : Except Refusal DocsCommand := do
  if given.has "file" && given.has "repo" then throw .misuse
  .ok {
    name := ← demand (given.value? "name")
    file := given.value? "file"
    repository := given.value? "repo"
    mapping := given.value? "config"
    provider := given.value? "provider"
    kind := ((given.value? "kind").bind kind?).getD .resource
    language := ((given.value? "language").bind language?).getD .schema
    requireDocs := given.has "missing-docs-error"
    output := given.value? "output" }

def TypesCommand.ofGiven (given : Given) : Except Refusal TypesCommand := do
  .ok {
    schemas := ← demand (given.value? "schemas")
    mapping := given.value? "config"
    provider := given.value? "provider"
    output := given.value? "output" }

def defaultLanguages : List String := ["typescript", "python", "csharp", "go"]

def defaultConverter : String := "pulumi"

def ConvertCommand.ofGiven (given : Given) : Except Refusal ConvertCommand := do
  if given.operands.isEmpty then throw .misuse
  .ok {
    examples := given.operands
    mappings := given.list "config"
    languages := if given.has "languages" then given.list "languages" else defaultLanguages
    converter := (given.value? "pulumi").getD defaultConverter }

/-- The command of a name with its grammar. -/
def command? (name : String) : Option (Grammar × (Given → Except Refusal Command)) :=
  match name with
  | "docs" => some (docsGrammar, fun given ↦ (DocsCommand.ofGiven given).map .docs)
  | "types" => some (typesGrammar, fun given ↦ (TypesCommand.ofGiven given).map .types)
  | "convert" => some (convertGrammar, fun given ↦ (ConvertCommand.ofGiven given).map .convert)
  | _ => none

/-- What is asked for when help is wanted on something. -/
def helpOn : List String → Refusal
  | [] | ["help"] => .help
  | [name] => if (command? name).isSome then .help else .misuse
  | _ => .misuse

/-- The command that arguments ask for. -/
def Invocation.parse (arguments : List String) : Except Refusal Invocation := do
  let before ← mainGrammar.read arguments
  match before.operands with
  | [] => .error .misuse
  | "help" :: topics => .error (helpOn topics)
  | name :: rest =>
    match command? name with
    | none => .error .misuse
    | some (grammar, ofGiven) =>
      let given ← grammar.read rest
      let command ← ofGiven given
      .ok ⟨command, before.has "verbose" || given.has "verbose"⟩

/-! ## Files -/

/-- The paths of the files that a command reads or writes; those of a checkout depend on the
mapping. -/
def Command.paths : Command → List String
  | docs command => command.file.toList ++ command.mapping.toList ++ command.output.toList
  | types command => [command.schemas] ++ command.mapping.toList ++ command.output.toList
  | convert command => command.examples ++ command.mappings ++ [command.converter]

end ProviderDocs.CommandLine
