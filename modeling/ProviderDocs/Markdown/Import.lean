import ProviderDocs.Text.Blank
import ProviderDocs.Text.Search

/-!
# Import sections

The command that imports an entity into Terraform becomes the one that imports it into
Pulumi, in a code block of its own. The parts of a section are joined with spaces; line breaks
around code blocks are placeholders until the text is rendered.
-/

namespace ProviderDocs.Markdown

namespace Import

/-- Stands for the token of an entity that has none. -/
def missingToken : String := "MISSING_TOK"

/-- Placeholder for a line break. -/
def breakMark : String := "<break>"

/-- Lines with one of these are left out. -/
def skippedTexts : List String :=
  ["**NOTE:", "**Please Note:", "**Note:**", "Import is supported using the following syntax"]

/-- Code fences, longer ones first. -/
def fences : List String := ["```shell", "```sh", "```"]

def isSkipped (line : String) : Bool := skippedTexts.any (contains line ·)

def withoutFences (line : String) : String :=
  fences.foldl (fun line fence ↦ replaced line fence "") line

/-- The words between spaces, blank ones left out. -/
def words (text : String) : List String :=
  ((text.toList.splitOn ' ').map String.ofList).filter (!isBlankLine ·)

/-- The name of the entity at an address: what follows the last dot. -/
def entityName (address : String) : String := String.ofList (Text.afterLast '.' address.toList)

/-- The import command for a line with one of the other tool. -/
def command (line token : String) : String :=
  match words (replaced (replaced line "$ " "") "terraform import " "") with
  | [] => "$ pulumi import " ++ token
  | address :: ids => " ".intercalate ("$ pulumi import" :: token :: entityName address :: ids)

/-- The parts that a line of an import section yields. -/
def partsOfLine (token line : String) : List String :=
  if isSkipped line then []
  else
    let line := withoutFences line
    if contains line "terraform import" then
      [breakMark ++ breakMark ++ "```sh" ++ breakMark, command line token,
        breakMark ++ "```" ++ breakMark ++ breakMark]
    else if isBlankLine line then []
    else [line]

/-- The parts of an import section for an entity with a token, if it has one. -/
def parts (token : Option String) (lines : List String) : List String :=
  lines.flatMap (partsOfLine (token.getD missingToken))

/-- The import text of an entity: given details, or else the parts that were found. -/
def assemble (parts : List String) (details : Option String) : Option String :=
  match details, parts with
  | some details, _ => some ("## Import\n\n" ++ details)
  | none, [] => none
  | none, parts => some ("## Import\n\n" ++ " ".intercalate parts)

/-! ## Rendering -/

/-- Of several empty lines on end only the first is kept. -/
def collapseEmpty (afterEmpty : Bool) : List (List Char) → List (List Char)
  | [] => []
  | line :: rest =>
    if line.isEmpty && afterEmpty then collapseEmpty true rest
    else line :: collapseEmpty line.isEmpty rest

/-- Line breaks for placeholders, trimmed lines, and no two empty lines on end. -/
def render (importText : String) : String :=
  let lines := (Text.splitLines (replaced importText breakMark "\n").toList).map Text.trim
  trimmed (joinLines ((collapseEmpty false lines).map String.ofList))

end Import

end ProviderDocs.Markdown
