import ProviderDocs.FileTree.Basic
import ProviderDocs.Text.Quoted

/-!
# Conversion errors
-/

namespace ProviderDocs

inductive ConversionError where
  /-- The converter exited with a failure. -/
  | toolFailed (command status stdout stderr : String)
  /-- The converter left something behind that is no answer. -/
  | malformedOutput (reason : String)
  /-- A snippet that was not prepared. -/
  | unknownSnippet (hcl : String)
  /-- The converter reported errors. -/
  | diagnosed (errors : String)
  /-- A batch failed; the directory holds one example to look into. -/
  | minimalRepro (directory : String) (cause : ConversionError)
  | files (cause : FileError)
  deriving DecidableEq

def ConversionError.message : ConversionError → String
  | toolFailed command status stdout stderr =>
    s!"pulumi {command} failed: {status}\nStdout:\n{stdout}\n\nStderr:\n{stderr}"
  | malformedOutput reason => s!"malformed converter output: {reason}"
  | unknownSnippet hcl => s!"unexpected HCL snippet in conversion: {quoted hcl}"
  | diagnosed errors => s!"conversion errors: {errors}"
  | minimalRepro directory cause =>
    s!"\n######\n  pulumi convert failed\n  minimal repro: {directory}\n" ++
      s!"  full error below\n######\n{cause.message}"
  | files cause => s!"IO error: {cause.message}"

end ProviderDocs
