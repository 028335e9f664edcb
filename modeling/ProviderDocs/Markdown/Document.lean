import ProviderDocs.Cleanup.Record
import ProviderDocs.Markdown.Arguments
import ProviderDocs.Markdown.Examples
import ProviderDocs.Markdown.FrontMatter
import ProviderDocs.Markdown.Import
import ProviderDocs.Markdown.SchemaSection

/-!
# Documents

A document is cut into sections, its example sections are folded into one, and every section
is read by its kind. Prose, examples and sections of no special kind add to the description.
What was read is cleaned up for the output language.
-/

namespace ProviderDocs.Markdown

/-! ## The state of reading -/

structure Reading where
  doc : EntityDoc
  stats : Stats
  importParts : List String

namespace Reading

def empty : Reading := ⟨.empty, .zero, []⟩

def warn (reading : Reading) : Reading := { reading with stats := reading.stats.warn }

def describe (reading : Reading) (text : String) : Reading :=
  { reading with
    doc := { reading.doc with description := reading.doc.description ++ text } }

/-- The description at the head of a document; a missing title is worth a warning. -/
def addFrontMatter (reading : Reading) (frontMatter : FrontMatter) : Reading :=
  (if frontMatter.foundTitle then reading else reading.warn).describe frontMatter.description

def scan (reading : Reading) (parent : Option String) (lines : List String) : Reading :=
  let (doc, stats) := scanArguments reading.doc reading.stats parent lines
  { reading with doc := doc, stats := stats }

/-! ## Sections titled after an argument -/

/-- The argument a title names, without the words that say it is a block. -/
def argumentOfTitle (title : String) : String :=
  trimmed (replaced title " Configuration Block" "")

/-- The paths of the arguments with a name, at the top level or nested in another one. -/
def argumentsNamed (doc : EntityDoc) (name : String) : List String :=
  (match doc.arguments.get? name with
    | some argument => if argument.isNested then [] else [name]
    | none => []) ++
  (doc.arguments.entries.filter (·.2.nested.contains name)).map fun entry ↦
    entry.1 ++ "." ++ name

/-- Reads a section titled after exactly one known argument as the nested block of it. -/
def scanTitled (reading : Reading) (title : String) (lines : List String) : Reading :=
  match argumentsNamed reading.doc (argumentOfTitle title) with
  | [] => reading
  | [parent] => reading.scan (some parent) lines
  | _ =>
    { reading with
      stats := { reading.stats with
        ambiguousSections := reading.stats.ambiguousSections + 1 }.warn }

/-! ## Subsections -/

/-- Code blocks are unexpected outside examples and imports. -/
def expectsExamples : SectionKind → Bool
  | .exampleUsage | .imports => true
  | _ => false

def countSnippets (reading : Reading) (kind : SectionKind) (subsection : Subsection) : Reading :=
  if subsection.hasExamples && !expectsExamples kind then
    { reading with
      stats := { reading.stats with
        unexpectedSnippets := reading.stats.unexpectedSnippets + 1 }.warn }
  else reading

/-- The heading of a section, written before the first subsection that is kept. -/
def describeHeader (reading : Reading) (header : String) (lines : List String) : Reading :=
  let reading := reading.describe ("## " ++ header ++ "\n")
  match lines with
  | first :: _ => if isBlankLine first then reading else reading.describe "\n"
  | [] => reading.describe "\n"

/-- A subsection of a section of no special kind. -/
def addProse (reading : Reading) (header : String) (isFirst : Bool) (firstLine : String)
    (subsection : Subsection) : Reading :=
  let title := (after? firstLine "### ").getD header
  let reading := reading.scanTitled title subsection.lines
  let reading := if isFirst then reading.describeHeader header subsection.lines else reading
  reading.describe (joinLines subsection.lines ++ "\n")

def addSubsection (reading : Reading) (kind : SectionKind) (header : String)
    (token : Option String) (isFirst : Bool) (firstLine : String) (subsection : Subsection) :
    Reading :=
  match kind with
  | .argumentsReference => reading.scan none subsection.lines
  | .attributesReference => { reading with doc := readAttributes reading.doc subsection.lines }
  | .imports =>
    { reading with importParts := reading.importParts ++ Import.parts token subsection.lines }
  | _ => reading.addProse header isFirst firstLine subsection

/-- The subsection of a group of lines, with its first line, unless it is skipped. -/
def keptSubsection? (group : List String) : Option (String × Subsection) :=
  match group with
  | [] => none
  | firstLine :: _ =>
    if trimmed firstLine = "### Timeouts" then none
    else
      let subsection := Subsection.ofLines group
      if subsection.isEmpty then none else some (firstLine, subsection)

def addSubsections (reading : Reading) (kind : SectionKind) (header : String)
    (token : Option String) (body : List String) : Reading :=
  ((sectionize "### " body).filterMap keptSubsection?).zipIdx.foldl
    (fun reading entry ↦
      (reading.countSnippets kind entry.1.2).addSubsection kind header token (entry.2 = 0)
        entry.1.1 entry.1.2)
    reading

/-! ## Sections -/

/-- The trimmed heading of a section. -/
def headerOf (line : String) : String := trimmed ((after? line "## ").getD line)

def addSchema (reading : Reading) (body : List String) : Reading :=
  let schema := SchemaSection.ofLines body
  if schema.isEmpty then reading.warn
  else
    let (doc, stats) := schema.record reading.doc reading.stats
    { reading with doc := doc, stats := stats }

/-- Reads a section of an entity that has a token, if it has one. -/
def addSection (token : Option String) (reading : Reading) (lines : List String) : Reading :=
  match lines with
  | [] => reading
  | first :: body =>
    match SectionKind.ofLine first with
    | .ignored header => { reading with stats := reading.stats.countIgnored header }
    | .frontMatter =>
      let frontMatter := FrontMatter.ofLines body
      (if frontMatter.foundDelimiter then reading else reading.warn).addFrontMatter frontMatter
    | .preamble => reading.addFrontMatter (FrontMatter.ofPreamble lines)
    | .schema => reading.addSchema body
    | kind => reading.addSubsections kind (headerOf first) token body

def addSections (token : Option String) (sections : List (List String)) : Reading :=
  sections.foldl (addSection token) empty

end Reading

/-! ## Parsing -/

structure ParsedDoc where
  doc : EntityDoc
  stats : Stats
  /-- Some text is lost. -/
  elided : Bool

namespace ParsedDoc

def empty : ParsedDoc := ⟨.empty, .zero, false⟩

/-- The record as it is written: line breaks for the placeholders in its import text. -/
def rendered (parsed : ParsedDoc) : EntityDoc :=
  if parsed.doc.importText.isEmpty then parsed.doc
  else { parsed.doc with importText := Import.render parsed.doc.importText }

end ParsedDoc

/-- The sections of a document without markers, its examples folded. -/
def sectionsOf (markdown : String) : List (List String) :=
  foldExamples (sectionizeText "## " markdown)

/-- What is read from a document without markers before cleanup. -/
def readDocument (mapping : Option EntityMapping) (markdown : String) : Reading :=
  let reading := Reading.addSections (mapping.map (·.token)) (sectionsOf markdown)
  let details := mapping.bind fun mapping ↦ mapping.docs.bind (·.importDetails)
  { reading with
    doc := { reading.doc with
      importText := (Import.assemble reading.importParts details).getD reading.doc.importText } }

/-- The documentation of an entity with a mapping, if it has one. -/
def parse (provider : Provider) (language : OutputLanguage) (mapping : Option EntityMapping)
    (markdown : String) : ParsedDoc :=
  let markdown := withoutMarkers markdown
  let reading := readDocument mapping markdown
  let cleaned := Cleanup.cleanDoc ⟨language, provider, Cleanup.linkTargets markdown⟩
    reading.doc reading.stats
  { doc := cleaned.doc
    stats := if cleaned.elided then cleaned.stats.warn else cleaned.stats
    elided := cleaned.elided }

end ProviderDocs.Markdown
