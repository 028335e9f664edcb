import ProviderDocs.CommandLine.Invocation
import ProviderDocs.CommandLine.Session
import ProviderDocs.Conversion.Converter
import ProviderDocs.Conversion.Translator

/-!
# The `convert` command

Translates example files by the converter program. All that is read is read before the
converter is called.
-/

namespace ProviderDocs.CommandLine.ConvertCommand

def targetLanguage (name : String) : Except Error TargetLanguage :=
  match TargetLanguage.ofUserName? name with
  | some language => .ok language
  | none => .error (.unknownLanguage name)

/-- Renders an example and writes it, unless no language converts. -/
def renderExample (translator : Translator) (converter : Converter)
    (languages : List TargetLanguage) (stats : Stats) (path hcl : String) : Action Stats := do
  let (rendered, stats) ←
    .onFiles (translator.renderAll converter.renderProgram hcl languages stats)
  match rendered with
  | some text =>
    .say ("\n" ++ path)
    .say text
  | none => .warn s!"⚠ Skipping {path}: no language converted"
  return stats

def run (command : ConvertCommand) (environment : Dict String) : Action Unit := do
  let languages ← .demand .languagesInvalid (command.languages.mapM targetLanguage)
  let mappings ← command.mappings.mapM .loadMapping
  let examples ← command.examples.mapM fun path ↦ do return (path, ← .readText path)
  .say s!"→ Converting {examples.length} examples with {command.converter}"
  let converter : Converter := ⟨command.converter, environment⟩
  let translator ← .demand .notConverted
    (← .onFiles (Translator.prepare converter.translateBatch (examples.map (·.2)) mappings).run)
  let stats ← examples.foldlM (fun stats (path, hcl) ↦
    renderExample translator converter languages stats path hcl) .zero
  .saySummary stats none

end ProviderDocs.CommandLine.ConvertCommand
