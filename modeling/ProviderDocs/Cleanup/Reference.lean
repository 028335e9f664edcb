import ProviderDocs.Language
import ProviderDocs.Naming.Case
import ProviderDocs.Provider.Basic
import ProviderDocs.Provider.Token
import ProviderDocs.Text.Blank
import ProviderDocs.Text.Search

/-!
# References to entities and properties

A word of segments joined by underscores, between blanks, quotes, backticks or brackets, is
taken for the name of an entity or a property and renamed to the form that the output
language uses. Between backticks a word of one segment is a name as well.
-/

namespace ProviderDocs.Cleanup

/-- What the cleanup of a text depends on. -/
structure Context where
  language : OutputLanguage
  provider : Provider
  linkTargets : Dict String

/-! ## Renaming -/

/-- How the output language writes a resource. -/
def resourceReference (context : Context) (token : TypeToken) : String :=
  match context.language with
  | .golang | .python => token.qualifiedName
  | _ => context.provider.name ++ "." ++ token.qualifiedName

/-- How the output language writes a data source. -/
def dataSourceReference (context : Context) (token : TypeToken) : String :=
  match context.language with
  | .golang => token.qualifiedName
  | .python => Naming.snakeCase token.qualifiedName
  | _ => context.provider.name ++ "." ++ token.qualifiedName

/-- How the output language writes a property, when that is another name. -/
def propertyReference? (context : Context) (name : String) : Option String :=
  match context.language with
  | .nodejs | .golang => some (Naming.camelCase name)
  | _ => none

/-- The new name of a resource, a data source or a property, looked for in this order. -/
def newName? (context : Context) (name : String) : Option String :=
  let token? := fun (mappings : Dict EntityMapping) ↦
    (mappings.get? name).bind (TypeToken.parse? ·.token)
  match token? context.provider.resources with
  | some token => some (resourceReference context token)
  | none =>
    match token? context.provider.dataSources with
    | some token => some (dataSourceReference context token)
    | none => propertyReference? context name

/-- The new name, or the word itself when it has none. -/
def renamed (context : Context) (word : List Char) : List Char :=
  match newName? context (String.ofList word) with
  | some name => name.toList
  | none => word

/-! ## Words -/

def isSegmentChar (c : Char) : Bool := c.isDigit || ('a' ≤ c && c ≤ 'z')

def isWordChar (c : Char) : Bool := isSegmentChar c || c = '_'

def opensWord (c : Char) : Bool := Text.isBlank c || c = '"' || c = '`' || c = '['

def closesWord (c : Char) : Bool := Text.isBlank c || c = '"' || c = '`' || c = ']'

/-- At least two segments, none of them empty, joined by underscores. -/
def isSnakeWord (word : List Char) : Bool :=
  let segments := word.splitOn '_'
  2 ≤ segments.length && segments.all (!·.isEmpty)

/-- Reads a word of several segments with the characters that delimit it. -/
def delimitedWord? (context : Context) (text : List Char) : Option (List Char × List Char) :=
  match text with
  | opening :: rest =>
    match Text.span isWordChar rest with
    | (word, closing :: rest) =>
      if opensWord opening && closesWord closing && isSnakeWord word then
        some (opening :: renamed context word ++ [closing], rest)
      else none
    | _ => none
  | [] => none

/-- Reads a word of one segment between backticks. -/
def tickedWord? (context : Context) (text : List Char) : Option (List Char × List Char) :=
  match text with
  | '`' :: rest =>
    match Text.span1? isSegmentChar rest with
    | some (word, '`' :: rest) => some ('`' :: renamed context word ++ ['`'], rest)
    | _ => none
  | _ => none

/-- Renames the references in a text. A closing delimiter does not open the next word. -/
def renameReferences (context : Context) (text : List Char) : List Char :=
  Text.substitute (fun text ↦ (delimitedWord? context text).or (tickedWord? context text)) text

end ProviderDocs.Cleanup
