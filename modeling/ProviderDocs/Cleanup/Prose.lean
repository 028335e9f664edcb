import ProviderDocs.Cleanup.CodeBlock
import ProviderDocs.Cleanup.Link
import ProviderDocs.Cleanup.Reference

/-!
# Cleaning up text

Prose is adapted to the SDKs: note markers, links and references. Prose that names
Terraform cannot be adapted, and the text it stands in is elided. Code blocks are left
alone.
-/

namespace ProviderDocs.Cleanup

/-- Prose that names Terraform is elided. -/
def namesTerraform (text : List Char) : Bool :=
  Text.occursIn "Terraform".toList text || Text.occursIn "terraform".toList text

/-- Note markers become the mark of a quoted line. -/
def replaceNoteMarks (text : List Char) : List Char :=
  Text.replaceAll "~> ".toList "> ".toList (Text.replaceAll "-> ".toList "> ".toList text)

/-- Drops what is left of a bullet whose qualifier stands on a line of its own. -/
def dropQualifierLines (text : List Char) : List Char :=
  ((Text.after? "-\n(Required)\n".toList text).or
    (Text.after? "-\n(Optional)\n".toList text)).getD text

/-- Prose that may be kept, adapted. -/
def adaptProse (context : Context) (text : List Char) : List Char :=
  let text := dropQualifierLines (replaceNoteMarks text)
  let text := Text.substitute pageReference? text
  let text := replaceNumberedReferences context.linkTargets text
  renameReferences context (Text.substitute inlineLink? text)

/-- A piece of a text after cleanup, or nothing when the text has to be elided. -/
def cleanPiece? (context : Context) : Piece → Option (List Char)
  | .prose text => if namesTerraform text then none else some (adaptProse context text)
  | .code text => some text

/-- The text after cleanup, trimmed, or nothing when it is elided. -/
def cleanText? (context : Context) (text : String) : Option String :=
  ((pieces text.toList).mapM (cleanPiece? context)).map fun parts ↦
    String.ofList (Text.trim parts.flatten)

/-- The references in a text renamed, and nothing else changed. -/
def renameIn (context : Context) (text : String) : String :=
  String.ofList (renameReferences context text.toList)

end ProviderDocs.Cleanup
