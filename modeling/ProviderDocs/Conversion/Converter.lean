import ProviderDocs.Conversion.Program
import ProviderDocs.Json.Parser
import ProviderDocs.Shell.Process

/-!
# The converter program

Batches are translated and programs rendered by one program, which is called in a temporary
directory with all that it needs and leaves its answer in another one.
-/

namespace ProviderDocs

structure Converter where
  /-- The name of the program, or the path of its file. -/
  program : String
  environment : Dict String

namespace Converter

/-- Calls the program in a directory; a status other than zero is a failure. -/
def call (converter : Converter) (arguments : List String) (directory : String) :
    FileAction ConversionError Unit := do
  let call : Shell.Call := ⟨converter.program, arguments, converter.environment, directory⟩
  let outcome ← .explain .files call.act
  unless outcome.ending.isSuccess do
    throw (.toolFailed (arguments.head?.getD "") outcome.ending.message outcome.output
      outcome.errors)

/-! ## Batches -/

/-- The translated examples that the text of an answer lists. -/
def parseAnswer (text : String) : Except String (Dict TranslatedExample) := do
  let json ← (Json.parse text).mapError (·.message)
  match Json.dict? TranslatedExample.ofJson? json with
  | some examples => .ok (examples.map fun _ translated ↦ translated.normalize)
  | none => .error "no translated examples at line 1 column 1"

/-- Reads the answer to a batch from a directory. -/
def readAnswer (directory : String) : FileAction ConversionError (Dict TranslatedExample) := do
  let name := Batch.examplesFile
  let text ← .explain (fun cause ↦ .malformedOutput (s!"failed to read {name}: {cause.message}; " ++
      "the pulumi CLI may be too old to convert examples in bulk"))
    (.inspect (·.readText (Path.join directory name)))
  match parseAnswer text with
  | .ok examples => pure examples
  | .error reason => throw (.malformedOutput s!"failed to parse {name}: {reason}")

/-- Translates a batch by a call of the program. -/
def translateBatch (converter : Converter) : BatchConverter (StateM FileTree) :=
  fun examples mappings ↦
    FileAction.withTemporary "bridge-examples" .files fun directory ↦ do
      let output := Path.join directory "out"
      .explain .files (.change (·.makeDirectories output))
      let arguments ← .explain .files
        (Batch.writeInput output (Path.join directory Batch.examplesFile) examples mappings)
      converter.call arguments directory
      readAnswer output

/-! ## Programs -/

/-- The file of an example in the intermediate language. -/
def sourceFile : String := "main.pp"

def programArguments (backend : Backend) (output : String) : List String :=
  ["convert", "--from", "pcl", "--language", backend.name, "--out", output, "--generate-only"]

/-- The only file that a backend leaves in a directory. -/
def readProgram (backend : Backend) (language : TargetLanguage) (directory : String) :
    FileAction ConversionError GeneratedProgram := do
  let source ← .explain (fun cause ↦ .malformedOutput
      s!"expected {backend.mainFile} to be generated for {language.name}: {cause.message}")
    (.inspect (·.readText (Path.join directory backend.mainFile)))
  pure ⟨.ofList [(backend.mainFile, source)], []⟩

/-- Renders an example by a call of the program; the intermediate language needs none. -/
def renderProgram (converter : Converter) : ProgramConverter (StateM FileTree) :=
  fun pcl language ↦
    match language.backend? with
    | none => pure ⟨.ofList [(sourceFile, pcl)], []⟩
    | some backend =>
      FileAction.withTemporary "pcl-program" .files fun directory ↦ do
        let source := Path.join directory "src"
        let output := Path.join directory "out"
        .explain .files do
          .change (·.makeDirectories source)
          .change (·.writeText (Path.join source sourceFile) pcl)
        converter.call (programArguments backend output) source
        readProgram backend language output

end Converter

end ProviderDocs
