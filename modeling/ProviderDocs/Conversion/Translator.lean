import ProviderDocs.Conversion.Bisection
import ProviderDocs.Conversion.Program
import ProviderDocs.Stats.Basic
import ProviderDocs.Text.Blank

/-!
# Translating examples

All snippets are translated to the intermediate language by one batch. Each of them is then
rendered in the languages asked for, as fenced code blocks one below the other.
-/

namespace ProviderDocs

/-- The translated snippets that were prepared. -/
structure Translator where
  prepared : Dict TranslatedExample

namespace Translator

variable {m : Type → Type} [Monad m]

/-! ## Preparing -/

/-- Numbers distinct snippets in increasing order. -/
def numbered (snippets : List String) : List (String × String) :=
  (Dict.ofList (snippets.map (·, ()))).keys.zipIdx.map fun (hcl, number) ↦
    ("e" ++ toString number, hcl)

/-- A snippet that is missing from the answer counts as translated to nothing. -/
def ofAnswer (snippets : List (String × String)) (answer : Dict TranslatedExample) : Translator :=
  ⟨Dict.ofList (snippets.map fun (name, hcl) ↦ (hcl, (answer.get? name).getD .empty))⟩

/-- Translates snippets by one batch. -/
def prepare [MonadStateOf FileTree m] (convert : BatchConverter m) (snippets : List String)
    (mappings : List Provider) : ExceptT ConversionError m Translator := do
  let snippets := numbered snippets
  let answer ← Batch.convert convert (Dict.ofList snippets) mappings
  pure (ofAnswer snippets answer)

/-! ## Rendering -/

/-- Stands for a program without any text. -/
def unavailable : String := "Example currently unavailable in this language\n"

/-- What a snippet was translated to; it must be prepared and free of errors. -/
def translated (translator : Translator) (hcl : String) :
    Except ConversionError TranslatedExample :=
  match translator.prepared.get? hcl with
  | none => .error (.unknownSnippet hcl)
  | some translated =>
    match Diagnostic.errorText? translated.diagnostics with
    | some errors => .error (.diagnosed errors)
    | none => .ok translated

/-- Renders a prepared snippet in a language. -/
def convert (translator : Translator) (render : ProgramConverter m) (hcl : String)
    (language : TargetLanguage) : ExceptT ConversionError m String := do
  let translated ← liftExcept (translator.translated hcl)
  let program ← render translated.pcl language
  let source ← liftExcept program.source
  pure (if isBlankLine source then unavailable else source)
where
  liftExcept {α : Type} (outcome : Except ConversionError α) : ExceptT ConversionError m α :=
    ExceptT.mk (pure outcome)

/-- A fenced code block of a language, unless there is no code. -/
def codeBlock? (language : TargetLanguage) (code : String) : Option String :=
  let code := trimmed code
  if code.isEmpty then none else some ("```" ++ language.name ++ "\n" ++ code ++ "\n```")

/-- Code blocks in docs order; those of one language stay in their order. -/
def fencedBlocks (conversions : List (TargetLanguage × String)) : String :=
  let sorted := conversions.mergeSort fun a b ↦ a.1.docsLe b.1
  "\n".intercalate (sorted.filterMap fun conversion ↦ codeBlock? conversion.1 conversion.2)

/-- What became of a snippet in one language after the other. -/
structure Conversions where
  converted : List (TargetLanguage × String)
  failed : List TargetLanguage

def convertAll (translator : Translator) (render : ProgramConverter m) (hcl : String) :
    List TargetLanguage → m Conversions
  | [] => pure ⟨[], []⟩
  | language :: rest => do
    let outcome ← (translator.convert render hcl language).run
    let conversions ← translator.convertAll render hcl rest
    match outcome with
    | .ok code => pure { conversions with converted := (language, code) :: conversions.converted }
    | .error _ => pure { conversions with failed := language :: conversions.failed }

/-- The code blocks of a snippet, unless it converted to none of the languages asked for. -/
def Conversions.rendered? (conversions : Conversions) : Option String :=
  if conversions.converted.isEmpty && !conversions.failed.isEmpty then none
  else some (fencedBlocks conversions.converted)

/-- A snippet lost in every language counts as failed, another one for each lost language. -/
def Conversions.count (conversions : Conversions) (stats : Stats) : Stats :=
  if conversions.failed.isEmpty then stats
  else if conversions.converted.isEmpty then
    { stats with failedExamples := stats.failedExamples + 1, warnings := stats.warnings + 1 }
  else
    (conversions.failed.foldl (fun stats language ↦ stats.partialFailure language.name)
      stats).warn

/-- Renders a snippet in languages, or in none when no language converts. -/
def renderAll (translator : Translator) (render : ProgramConverter m) (hcl : String)
    (languages : List TargetLanguage) (stats : Stats) : m (Option String × Stats) := do
  let conversions ← translator.convertAll render hcl languages
  pure (conversions.rendered?, conversions.count stats)

end Translator

end ProviderDocs
