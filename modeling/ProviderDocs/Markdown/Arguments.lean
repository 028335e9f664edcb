import ProviderDocs.Doc.Basic
import ProviderDocs.Markdown.Line
import ProviderDocs.Stats.Basic

/-!
# Scanning reference sections

The lines of a reference section are read in order into a documentation record. The scan
remembers the last bullet, which continuation lines add to, and the argument whose nested
block is being described.
-/

namespace ProviderDocs.Markdown

/-- The text with one more line below it. -/
def appendLine (description text : String) : String := description ++ "\n" ++ text

/-! ## Arguments -/

structure ArgumentScan where
  doc : EntityDoc
  stats : Stats
  /-- The name in the last bullet, until a blank line. -/
  last : Option String
  /-- The argument whose nested block is being described. -/
  parent : Option String

namespace ArgumentScan

/--
A field of the argument `parent`. It is copied under its own name unless there is a record
of that name.
-/
def addNested (doc : EntityDoc) (parent name description : String) : EntityDoc :=
  let doc := doc.updateArgument parent fun argument ↦
    { argument with nested := argument.nested.insert name description }
  if doc.arguments.contains name then doc
  else doc.updateArgument name fun _ ↦ ⟨description, ∅, true⟩

def addTopLevel (doc : EntityDoc) (name description : String) : EntityDoc :=
  doc.updateArgument name fun argument ↦
    { argument with description := description, isNested := false }

/-- A continuation of the field `last` of the argument `parent`, and of its copy. -/
def continueNested (doc : EntityDoc) (parent last text : String) : EntityDoc :=
  let doc := doc.updateArgument parent fun argument ↦
    { argument with nested := argument.nested.modify last (appendLine · text) }
  { doc with
    arguments := doc.arguments.modify last fun argument ↦
      if argument.isNested then
        { argument with description := appendLine argument.description text }
      else argument }

/-- A continuation of a top-level argument; one of a bullet that was skipped is lost. -/
def continueTopLevel (scan : ArgumentScan) (last text : String) : ArgumentScan :=
  if scan.doc.arguments.contains last then
    { scan with
      doc := scan.doc.updateArgument last fun argument ↦
        { argument with description := appendLine argument.description text } }
  else { scan with stats := scan.stats.warn }

def bullet (scan : ArgumentScan) (name description : String) (introducesBlock : Bool) :
    ArgumentScan :=
  let scan := match scan.parent with
    | some parent => { scan with doc := addNested scan.doc parent name description }
    | none =>
      if introducesBlock then scan
      else
        { scan with
          doc := addTopLevel scan.doc name description
          stats := { scan.stats with arguments := scan.stats.arguments + 1 } }
  { scan with last := some name }

/-- A text below the bullet `last`. -/
def continuation (scan : ArgumentScan) (last text : String) : ArgumentScan :=
  match scan.parent with
  | some parent => { scan with doc := continueNested scan.doc parent last text }
  | none => scan.continueTopLevel last text

/-- The nested block of the argument `name` begins. -/
def enterBlock (scan : ArgumentScan) (name : String) : ArgumentScan :=
  { scan with
    stats :=
      if scan.doc.arguments.contains name then scan.stats
      else { scan.stats with unmatchedBlocks := scan.stats.unmatchedBlocks + 1 }
    parent := some name
    last := none }

def step (scan : ArgumentScan) (line : Line) : ArgumentScan :=
  match line, scan.last with
  | .bullet name description introducesBlock, _ => scan.bullet name description introducesBlock
  | .blank, _ => { scan with last := none }
  | .continuation text, some last => scan.continuation last text
  | .blockIntro _ text, some last => scan.continuation last text
  | .blockIntro name _, none => scan.enterBlock name
  | .continuation _, none => scan

end ArgumentScan

/-- Reads an argument reference, inside the nested block of `parent` when one is given. -/
def scanArguments (doc : EntityDoc) (stats : Stats) (parent : Option String)
    (lines : List String) : EntityDoc × Stats :=
  let scan := (lines.map Line.ofArguments).foldl ArgumentScan.step ⟨doc, stats, none, parent⟩
  (scan.doc, scan.stats)

/-! ## Attributes -/

structure AttributeScan where
  doc : EntityDoc
  /-- The name in the last bullet, until a blank line. -/
  last : Option String

namespace AttributeScan

def step (scan : AttributeScan) (line : Line) : AttributeScan :=
  match line with
  | .bullet name description _ =>
    { doc := scan.doc.setAttribute name description, last := some name }
  | .blank => { scan with last := none }
  | .continuation text | .blockIntro _ text =>
    match scan.last with
    | some last =>
      { scan with
        doc := { scan.doc with
          attributes := scan.doc.attributes.modify last (appendLine · text) } }
    | none => scan

end AttributeScan

/-- Reads an attribute reference. -/
def readAttributes (doc : EntityDoc) (lines : List String) : EntityDoc :=
  ((lines.map Line.ofAttributes).foldl AttributeScan.step ⟨doc, none⟩).doc

end ProviderDocs.Markdown
