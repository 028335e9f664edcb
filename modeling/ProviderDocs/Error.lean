import ProviderDocs.EntityKind
import ProviderDocs.FileTree.Basic
import ProviderDocs.Text.Quoted

/-!
# Errors

What can go wrong outside the conversion of examples, and what users are told.
-/

namespace ProviderDocs

inductive MappingFormat where
  | json
  | yaml
  deriving DecidableEq, Repr

def MappingFormat.name : MappingFormat → String
  | json => "JSON"
  | yaml => "YAML"

inductive Error where
  | docsUnreadable (path : String) (cause : FileError)
  | docsMissing (kind : EntityKind) (name : String)
  | mappingUnreadable (path : String) (cause : FileError)
  | mappingMalformed (format : MappingFormat) (path : String) (cause : String)
  | unknownLanguage (name : String)
  /-- A type name belongs to another type, and no other name is left. -/
  | duplicateType (name : String) (declarer : String)
  | requiredFieldOmitted (entity field : String)
  | outputDirectory (cause : FileError)
  | outputFile (name : String) (cause : FileError)
  deriving DecidableEq

namespace Error

/-- Where an error belongs. -/
inductive Area where
  | parse
  | generation
  | config
  | duplicateType
  | requiredFieldOmitted
  deriving DecidableEq, Repr

def area : Error → Area
  | docsUnreadable .. | docsMissing .. => .parse
  | mappingUnreadable .. | mappingMalformed .. | unknownLanguage .. => .config
  | duplicateType .. => .duplicateType
  | requiredFieldOmitted .. => .requiredFieldOmitted
  | outputDirectory .. | outputFile .. => .generation

/-- The message without the words that name its area. -/
def detail : Error → String
  | docsUnreadable path cause => s!"Failed to read docs {path}: {cause.message}"
  | docsMissing kind name =>
    s!"could not find docs for {kind.label} {name}; override the docs in the {kind.label} mapping"
  | mappingUnreadable path cause =>
    s!"Failed to read provider mapping {quoted path}: {cause.message}"
  | mappingMalformed format path cause =>
    s!"Failed to parse provider mapping {format.name} from {quoted path}: {cause}"
  | unknownLanguage name => s!"unrecognized target language '{name}'"
  | duplicateType name declarer =>
    s!"duplicate type {name}: already declared by {declarer} with a different shape"
  | requiredFieldOmitted entity field =>
    s!"required field '{field}' of '{entity}' cannot be omitted"
  | outputDirectory cause => s!"Failed to create output directory: {cause.message}"
  | outputFile name cause => s!"Failed to write {name}: {cause.message}"

def message (error : Error) : String :=
  (match error.area with
    | .parse => "Parse error: "
    | .generation => "Generation error: "
    | .config => "Configuration error: "
    | .duplicateType | .requiredFieldOmitted => "") ++ error.detail

end Error

end ProviderDocs
