import ProviderDocs.Text.Blank
import ProviderDocs.Text.Search

/-!
# Sections of a document

A document is cut at its headings. The first group of lines is what stands before the first
heading, and every later group begins with its heading. Sections are told apart by their
first line.
-/

namespace ProviderDocs.Markdown

/-- Left in documents by the generator of reference pages. -/
def generatorMarker : String := "<!-- schema generated by tfplugindocs -->"

/-- Line ends become line feeds, and generator markers go. -/
def withoutMarkers (markdown : String) : String :=
  replaced (replaced markdown "\r\n" "\n") generatorMarker ""

/-! ## Groups of lines -/

/-- The lines before the first heading, and the groups that the headings open. -/
def cutGroups (heading : String) : List String → List String × List (List String)
  | [] => ([], [])
  | line :: rest =>
    let (front, groups) := cutGroups heading rest
    if startsWith line heading then ([], (line :: front) :: groups) else (line :: front, groups)

/-- Groups of lines, each but the first opened by a line that begins with `heading`. -/
def sectionize (heading : String) (lines : List String) : List (List String) :=
  match lines with
  | [] => []
  | lines =>
    let (front, groups) := cutGroups heading lines
    front :: groups

/-- The groups of the lines of a text. -/
def sectionizeText (heading text : String) : List (List String) :=
  sectionize heading (splitLines text)

/-! ## Kinds of sections -/

inductive SectionKind where
  /-- Opened by `---`, which starts the metadata of a document. -/
  | frontMatter
  /-- Text before the first heading of a document without metadata. -/
  | preamble
  | exampleUsage
  | argumentsReference
  | attributesReference
  | imports
  /-- Written by the generator of reference pages. -/
  | schema
  /-- Skipped and counted. -/
  | ignored (header : String)
  | other
  deriving DecidableEq, Repr

namespace SectionKind

/-- The kind of a section with a trimmed heading. -/
def ofHeader (header : String) : SectionKind :=
  match header with
  | "Timeout" | "Timeouts" | "User Project Override" | "User Project Overrides" => ignored header
  | "Example Usage" => exampleUsage
  | "Arguments Reference" | "Argument Reference" | "Argument reference"
  | "Nested Blocks" | "Nested blocks" => argumentsReference
  | "Attributes Reference" | "Attribute Reference" | "Attribute reference" =>
    attributesReference
  | "Import" | "Imports" => imports
  | "Schema" => schema
  | _ => other

/-- The kind of the section that a line opens. -/
def ofLine (line : String) : SectionKind :=
  match after? line "## " with
  | some header => ofHeader (trimmed header)
  | none => if trimmed line = "---" then frontMatter else preamble

end SectionKind

/-! ## Subsections -/

structure Subsection where
  lines : List String
  /-- Some line is a code fence. -/
  hasExamples : Bool
  /-- All lines are blank or code fences. -/
  isEmpty : Bool
  deriving DecidableEq

/--
The lines outside the markup of a button, which begins with a division that names the button
and ends at the first line that begins with a closing tag.
-/
def withoutButtons (inButton : Bool) : List String → List String
  | [] => []
  | line :: rest =>
    if inButton then withoutButtons (!startsWith line "</div") rest
    else if startsWith line "<div" && contains line "oics-button" then withoutButtons true rest
    else line :: withoutButtons false rest

def isFence (line : String) : Bool := startsWith line "```"

def Subsection.ofLines (lines : List String) : Subsection :=
  let kept := withoutButtons false lines
  { lines := kept
    hasExamples := kept.any isFence
    isEmpty := kept.all fun line ↦ isFence line || isBlankLine line }

end ProviderDocs.Markdown
