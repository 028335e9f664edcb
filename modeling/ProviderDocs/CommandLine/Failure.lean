import ProviderDocs.Conversion.Error
import ProviderDocs.Error

/-!
# Failures of commands

A command that fails tells what it could not do, and below that the causes, each of which
brought about the one before it.
-/

namespace ProviderDocs

/-- The causes of an error from the outermost in. -/
def ConversionError.causes : ConversionError → List String
  | minimalRepro directory cause => (minimalRepro directory cause).message :: cause.causes
  | files cause => [(files cause).message, cause.message]
  | error => [error.message]

namespace CommandLine

inductive Failure where
  | mappingNotLoaded (path : String) (cause : Error)
  | providerUnnamed
  | unreadable (path : String) (cause : FileError)
  | unwritable (path : String) (cause : FileError)
  | docsNotLoaded (name : String) (cause : Error)
  | noDocument
  | schemasMalformed (cause : String)
  | typesUnresolved (cause : Error)
  | typesNotWritten (cause : Error)
  | languagesInvalid (cause : Error)
  | notConverted (cause : ConversionError)

namespace Failure

def summary : Failure → String
  | mappingNotLoaded path _ => s!"Failed to load provider mapping {path}"
  | providerUnnamed => "A provider name is required: pass --provider or a mapping with a name"
  | unreadable path _ => s!"Failed to read {path}"
  | unwritable path _ => s!"Failed to write {path}"
  | docsNotLoaded name _ => s!"Failed to load docs for {name}"
  | noDocument => "Either --file or --repo is required"
  | schemasMalformed _ => "Failed to parse entity schemas"
  | typesUnresolved _ => "Failed to resolve nested types"
  | typesNotWritten _ => "Failed to write nested types"
  | languagesInvalid _ => "Invalid --languages"
  | notConverted _ => "Failed to convert examples"

def causes : Failure → List String
  | providerUnnamed | noDocument => []
  | unreadable _ cause | unwritable _ cause => [cause.message]
  | mappingNotLoaded _ cause | docsNotLoaded _ cause | typesUnresolved cause
  | typesNotWritten cause | languagesInvalid cause => [cause.message]
  | schemasMalformed cause => [cause]
  | notConverted cause => cause.causes

/-! ## The report of a failure -/

/-- A text behind a label; its further lines are indented to the width of the label. -/
def labelled (label text : String) : String :=
  let indentation := String.ofList (List.replicate label.length ' ')
  label ++ ("\n" ++ indentation).intercalate ((text.toList.splitOn '\n').map String.ofList)

/-- The label of a cause, its number in a column of five. -/
def numberLabel (number : Nat) : String :=
  let digits := toString number
  String.ofList (List.replicate (5 - digits.length) ' ') ++ digits ++ ": "

/-- Causes below each other, with numbers when there are several. -/
def causesText : List String → String
  | [cause] => labelled "    " cause
  | causes => "\n".intercalate (causes.zipIdx.map fun (cause, number) ↦
      labelled (numberLabel number) cause)

def report (failure : Failure) : String :=
  "Error: " ++ failure.summary ++
    (if failure.causes.isEmpty then "" else "\n\nCaused by:\n" ++ causesText failure.causes) ++ "\n"

end Failure

end CommandLine

end ProviderDocs
