import ProviderDocs.Conversion.Diagnostic
import ProviderDocs.Conversion.Error
import ProviderDocs.FileTree.Action
import ProviderDocs.Json.Printer
import ProviderDocs.Provider.Json

/-!
# Batches of examples

A batch of examples is translated by one call of the converter. Its input is a directory with
the examples and the provider mappings, each in a file, and arguments that name them.
-/

namespace ProviderDocs

/-- Examples by their names. -/
abbrev Examples := Dict String

/-- Translates a batch in a monad that carries what the converter changes. -/
abbrev BatchConverter (m : Type → Type) :=
  Examples → List Provider → ExceptT ConversionError m (Dict TranslatedExample)

namespace Batch

/-- The file of the examples, in the input and in the answer. -/
def examplesFile : String := "examples.json"

def Examples.toJson (examples : Examples) : Json := .ofDict .str examples

/-- The arguments of a call; the examples file is named from its own directory. -/
def arguments (outputDirectory : String) (mappingFiles : List String) (examplesName : String) :
    List String :=
  ["convert", "--from", "terraform", "--language", "pcl", "--out", outputDirectory,
      "--generate-only"] ++
    mappingFiles.flatMap (["--mappings", ·]) ++ ["--", "--convert-examples", examplesName]

/-- A mapping is in a file named after the prefix of its entities. -/
def mappingFile (directory : String) (provider : Provider) : String :=
  Path.join directory (provider.entityPrefix ++ ".json")

/-- Writes the mappings below a directory, which is made when there are any. -/
def writeMappings (outputDirectory : String) (mappings : List Provider) :
    FileAction FileError (List String) := do
  let directory := Path.join outputDirectory "mappings"
  unless mappings.isEmpty do
    .change (·.makeDirectories directory)
  for provider in mappings do
    .change (·.writeText (mappingFile directory provider) provider.toJson.compact)
  pure (mappings.map (mappingFile directory))

/-- Writes the input of a call and returns its arguments. -/
def writeInput (outputDirectory examplesPath : String) (examples : Examples)
    (mappings : List Provider) : FileAction FileError (List String) := do
  .change (·.writeText examplesPath (Examples.toJson examples).compact)
  let mappingFiles ← writeMappings outputDirectory mappings
  pure (arguments outputDirectory mappingFiles ((Path.fileName? examplesPath).getD examplesFile))

end Batch

end ProviderDocs
