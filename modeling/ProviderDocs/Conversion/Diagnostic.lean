import ProviderDocs.Json.Decode
import ProviderDocs.Text.Fold

/-!
# Diagnostics of conversions

The converter reports diagnostics with a severity. Only errors make a conversion fail, and a
few warnings count as errors since the program they come with cannot be used.
-/

namespace ProviderDocs

structure Diagnostic where
  severity : UInt8
  summary : String
  detail : String
  deriving DecidableEq

namespace Diagnostic

/-- The severity of errors. -/
def errorSeverity : UInt8 := 1

def isError (diagnostic : Diagnostic) : Bool := diagnostic.severity = errorSeverity

/-- The diagnostic as a line of text. -/
def text (diagnostic : Diagnostic) : String := diagnostic.summary ++ ": " ++ diagnostic.detail

/-- Texts, in any case, of warnings after which a program cannot be used. -/
def unusableTexts : List String := ["not yet implemented", "lifecycle hook is not supported"]

/-- Raises a warning to an error when its program cannot be used. -/
def normalize (diagnostic : Diagnostic) : Diagnostic :=
  if unusableTexts.any fun text ↦ Text.occursFolded text.toList diagnostic.text.toList then
    { diagnostic with severity := errorSeverity }
  else diagnostic

/-- The texts of all errors, if there are any. -/
def errorText? (diagnostics : List Diagnostic) : Option String :=
  match diagnostics.filter isError with
  | [] => none
  | errors => some ("; ".intercalate (errors.map text))

/-! ## JSON -/

def toJson (diagnostic : Diagnostic) : Json :=
  .obj [("Severity", .ofNat diagnostic.severity.toNat), ("Summary", .str diagnostic.summary),
    ("Detail", .str diagnostic.detail)]

def fieldNames : List String := ["Severity", "Summary", "Detail"]

def ofJson? (json : Json) : Option Diagnostic := do
  let field := json.field? fieldNames
  guard (json.isRecord fieldNames)
  some {
    severity := UInt8.ofNat (← Json.required (Json.natBelow? 256) (field "Severity"))
    summary := ← Json.withDefault "" Json.str? (field "Summary")
    detail := ← Json.withDefault "" Json.str? (field "Detail") }

end Diagnostic

/-! ## Translated examples -/

/-- An example in the intermediate language. -/
structure TranslatedExample where
  pcl : String
  diagnostics : List Diagnostic
  deriving DecidableEq

namespace TranslatedExample

def empty : TranslatedExample := ⟨"", []⟩

instance : Inhabited TranslatedExample := ⟨empty⟩

def normalize (translated : TranslatedExample) : TranslatedExample :=
  { translated with diagnostics := translated.diagnostics.map .normalize }

def toJson (translated : TranslatedExample) : Json :=
  .obj [("pcl", .str translated.pcl),
    ("diagnostics", .ofList Diagnostic.toJson translated.diagnostics)]

def fieldNames : List String := ["pcl", "diagnostics"]

/-- Absent diagnostics may be written as null. -/
def ofJson? (json : Json) : Option TranslatedExample := do
  let field := json.field? fieldNames
  guard (json.isRecord fieldNames)
  some {
    pcl := ← Json.withDefault "" Json.str? (field "pcl")
    diagnostics := (← Json.optional (Json.list? Diagnostic.ofJson?) (field "diagnostics")).getD [] }

end TranslatedExample

end ProviderDocs
