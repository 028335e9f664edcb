import ProviderDocs.Text.Blank
import ProviderDocs.Text.Search

/-!
# The head of a document

The prose before the first heading describes the entity. It follows the title, which is
dropped, and in most documents a block of metadata between `---` lines.
-/

namespace ProviderDocs.Markdown

structure FrontMatter where
  /-- The prose, each line with a line feed, a run of blank lines written as one. -/
  description : String
  /-- The metadata is closed by a line `---`. -/
  foundDelimiter : Bool
  /-- Some line is a title. -/
  foundTitle : Bool
  deriving DecidableEq

namespace FrontMatter

def empty : FrontMatter := ⟨"", false, false⟩

/-- The state of reading prose. -/
structure Reading where
  description : String
  foundTitle : Bool
  /-- Blank lines stand between the description so far and the next line. -/
  pendingBlank : Bool

def Reading.step (reading : Reading) (line : String) : Reading :=
  if !reading.foundTitle && startsWith line "# " then
    { reading with foundTitle := true, pendingBlank := false }
  else if isBlankLine line then { reading with pendingBlank := !reading.description.isEmpty }
  else
    { reading with
      description :=
        reading.description ++ (if reading.pendingBlank then "\n" else "") ++ line ++ "\n"
      pendingBlank := false }

/-- Prose without metadata: the first title is dropped, later ones are text. -/
def ofPreamble (lines : List String) : FrontMatter :=
  let reading := lines.foldl Reading.step ⟨"", false, false⟩
  ⟨reading.description, false, reading.foundTitle⟩

def isDelimiter (line : String) : Bool := trimmed line = "---"

/-- Metadata up to a line `---`, then prose; nothing when the metadata is not closed. -/
def ofLines (lines : List String) : FrontMatter :=
  match lines.dropWhile (!isDelimiter ·) with
  | _ :: prose => { ofPreamble prose with foundDelimiter := true }
  | [] => empty

end FrontMatter

end ProviderDocs.Markdown
