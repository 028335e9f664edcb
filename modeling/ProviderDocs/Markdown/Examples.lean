import ProviderDocs.Markdown.Section
import ProviderDocs.Naming.Case
import ProviderDocs.Text.Fold
import ProviderDocs.Text.Punctuation

/-!
# Folding example sections

Documents spread examples over sections such as `## Example Usage`, `## Example Usage - Name`
or `## Example Usage for Name`. They are folded into one section, in which each named example
has a title.
-/

namespace ProviderDocs.Markdown

/-! ## Headings of example sections -/

/-- The rest of a heading up to trailing blanks, when that is a single line. -/
def titleText? (text : List Char) : Option (List Char) :=
  let title := Text.dropBlankEnd text
  if title.contains '\n' then none else some title

/-- Drops one leading `for`, `of` or run of punctuation, and the blanks after it. -/
def afterLinkWord? (text : List Char) : Option (List Char) :=
  ((Text.afterFolded? "for".toList text).or
    ((Text.afterFolded? "of".toList text).or
      ((Text.span1? Text.isPunctuation text).map (·.2)))).map Text.dropBlank

/--
The name of the example that a heading announces, in any case; empty for the plain heading
`## Example Usage`, which may end with blanks.
-/
def exampleName? (line : String) : Option String := do
  let rest ← Text.afterFolded? "## example usage".toList line.toList
  let rest := Text.dropBlank rest
  let name ← ((afterLinkWord? rest).bind titleText?).or (titleText? rest)
  some (String.ofList name)

/-- The line is the plain heading of examples, up to trailing blanks. -/
def isPlainExampleHeading (line : String) : Bool :=
  match Text.afterFolded? "## example usage".toList line.toList with
  | some rest => rest.all Text.isBlank
  | none => false

/-! ## Titles -/

/-- The opening fence of a block comes next, blank lines aside. -/
def fenceFollows : List String → Bool
  | [] => false
  | line :: rest => isFence line || (isBlankLine line && fenceFollows rest)

/-- A heading `#### ` that titles the code block below it is raised to `### `. -/
def raiseTitles : List String → List String
  | [] => []
  | line :: rest =>
    (match after? line "#### " with
      | some title => if fenceFollows rest then "### " ++ title else line
      | none => line) :: raiseTitles rest

/-! ## Folding -/

structure ExampleFold where
  /-- The index of the first plain section. -/
  plain : Option Nat
  /-- The index of the first example section. -/
  first : Option Nat
  /-- The lines of the folded section. The first one holds the place of the heading, once
  there is a plain section. -/
  lines : List String
  /-- How many example sections there are. -/
  count : Nat

namespace ExampleFold

def empty : ExampleFold := ⟨none, none, [], 0⟩

/-- Adds the section number `index`, when it is an example section. -/
def step (fold : ExampleFold) (index : Nat) (sectionLines : List String) : ExampleFold :=
  match sectionLines with
  | [] => fold
  | heading :: body =>
    match exampleName? heading with
    | none => fold
    | some name =>
      let fold := { fold with first := fold.first.or (some index), count := fold.count + 1 }
      if isPlainExampleHeading heading then
        if fold.plain.isNone then
          { fold with
            plain := some index
            lines := "" :: "" :: body.dropWhile isBlankLine ++ fold.lines }
        else { fold with lines := fold.lines ++ "" :: "### Additional Examples" :: body }
      else
        let spacing := if contains heading "## Example Usage -" then [] else [""]
        { fold with
          lines := fold.lines ++ spacing ++ ("### " ++ Naming.titleCase name) :: body }

def ofSections (sections : List (List String)) : ExampleFold :=
  sections.zipIdx.foldl (fun fold entry ↦ fold.step entry.2 entry.1) empty

/-- The folded section: the heading takes the first line's place. -/
def sectionLines (fold : ExampleFold) : List String :=
  let lines := if fold.plain.isNone then "" :: fold.lines else fold.lines
  raiseTitles ("## Example Usage" :: lines.tail)

end ExampleFold

def isExampleSection (sectionLines : List String) : Bool :=
  match sectionLines with
  | heading :: _ => (exampleName? heading).isSome
  | [] => false

/--
Folds all example sections into one, which stands where the first plain one stood, or the
first of all when none is plain.
-/
def foldExamples (sections : List (List String)) : List (List String) :=
  let fold := ExampleFold.ofSections sections
  match fold.plain.or fold.first with
  | none => sections
  | some place =>
    sections.zipIdx.filterMap fun entry ↦
      if entry.2 = place then some fold.sectionLines
      else if isExampleSection entry.1 then none
      else some entry.1

end ProviderDocs.Markdown
