import ProviderDocs.Conversion.Batch
import ProviderDocs.Language

/-!
# Programs in target languages

A translated example is rendered in each target language by a call of its own, which leaves
one file with the program.
-/

namespace ProviderDocs

/-- How the converter produces a target language. -/
structure Backend where
  /-- The name of the language in arguments. -/
  name : String
  /-- The file that holds the program. -/
  mainFile : String
  deriving DecidableEq

/-- The intermediate language needs no backend. -/
def TargetLanguage.backend? : TargetLanguage → Option Backend
  | typescript => some ⟨"typescript", "index.ts"⟩
  | python => some ⟨"python", "__main__.py"⟩
  | csharp => some ⟨"csharp", "Program.cs"⟩
  | go => some ⟨"go", "main.go"⟩
  | yaml => some ⟨"yaml", "Pulumi.yaml"⟩
  | java => some ⟨"java", "src/main/java/generated_program/App.java"⟩
  | pcl => none

structure GeneratedProgram where
  /-- The files by their names. -/
  files : Dict String
  diagnostics : List Diagnostic

/-- Renders a translated example in a language. -/
abbrev ProgramConverter (m : Type → Type) :=
  String → TargetLanguage → ExceptT ConversionError m GeneratedProgram

/-- The only file of a program, which may have no other. -/
def GeneratedProgram.source (program : GeneratedProgram) : Except ConversionError String :=
  match Diagnostic.errorText? program.diagnostics, program.files.values with
  | some errors, _ => .error (.diagnosed errors)
  | none, [source] => .ok source
  | none, files =>
    .error (.malformedOutput s!"expected 1 file to be generated, got {files.length}")

end ProviderDocs
