import ProviderDocs.Dict
import ProviderDocs.Text.Blank
import ProviderDocs.Text.Digit
import ProviderDocs.Text.Search

/-!
# Links

Documents link to other pages of the provider by paths that only work on its own site. Links
from the root of the site gain its host, and links that cannot be resolved lose their target.
-/

namespace ProviderDocs.Cleanup

/-- The host that paths from the root belong to. -/
def host : List Char := "https://www.terraform.io".toList

/-! ## Footer links -/

/-- Reads a number in brackets whose digits are in a class. -/
def bracketNumber? (isDigit : Char → Bool) (text : List Char) :
    Option (List Char × List Char) :=
  match text with
  | '[' :: rest =>
    match Text.span1? isDigit rest with
    | some (digits, ']' :: rest) => some ('[' :: digits ++ [']'], rest)
    | _ => none
  | _ => none

/-- Reads the definition of a footer link: a number, a colon, a blank and the target. -/
def linkDefinition? (text : List Char) : Option ((List Char × List Char) × List Char) := do
  let (label, rest) ← bracketNumber? Text.isDecimalDigit text
  match rest with
  | ':' :: c :: rest =>
    if Text.isBlank c then some ((label, Text.firstLine rest), rest.dropWhile (· != '\n'))
    else none
  | _ => none

/-- The footer links that are defined at the start of lines. -/
def footerLinksFrom (atLineStart : Bool) : List Char → List (List Char × List Char)
  | [] => []
  | c :: text =>
    let here := if atLineStart then linkDefinition? (c :: text) else none
    match here with
    | none => footerLinksFrom (c = '\n') text
    | some (link, rest) =>
      if _ : rest.length ≤ text.length then
        let consumed := (c :: text).take (text.length + 1 - rest.length)
        link :: footerLinksFrom (consumed.getLast? = some '\n') rest
      else footerLinksFrom (c = '\n') text
termination_by text => text.length

/-- The targets of the footer links of a document; the last definition counts. -/
def linkTargets (markdown : String) : Dict String :=
  Dict.ofList ((footerLinksFrom true markdown.toList).map fun (label, target) ↦
    (String.ofList label, String.ofList target))

/-- Characters of a label that refers to a footer link. -/
def isLabelChar (c : Char) : Bool :=
  c.isAlpha || c = '?' || c = '.' || c = '!' || c = ' '

/-- Reads a label in brackets and the number of a footer link; the link becomes inline. -/
def numberedReference? (links : Dict String) (text : List Char) :
    Option (List Char × List Char) :=
  match text with
  | '[' :: rest => do
    let (label, rest) ← Text.span1? isLabelChar rest
    let rest ← Text.after? [']'] rest
    let (number, rest) ← bracketNumber? Char.isDigit rest
    let label := '[' :: label ++ [']']
    match links.get? (String.ofList number) with
    | some target => some (label ++ '(' :: target.toList ++ [')'], rest)
    | none => some (label ++ number, rest)
  | _ => none

def replaceNumberedReferences (links : Dict String) (text : List Char) : List Char :=
  if links.isEmpty then text else Text.substitute (numberedReference? links) text

/-! ## Definitions of links to provider pages -/

def isPathChar (c : Char) : Bool :=
  ('a' ≤ c && c ≤ 'z') || ('1' ≤ c && c ≤ '9') || c = '_'

/-- Reads segments of a path, each with a slash before it. -/
def pathSegments (fuel : Nat) (text : List Char) : List Char × List Char :=
  match fuel, text with
  | fuel + 1, '/' :: rest =>
    match Text.span1? isPathChar rest with
    | some (segment, rest) =>
      let (more, rest) := pathSegments fuel rest
      ('/' :: segment ++ more, rest)
    | none => ([], text)
  | _, _ => ([], text)

def isSmallLetter (c : Char) : Bool := 'a' ≤ c && c ≤ 'z'

/-- Reads the definition of a link to a page of a provider and gives its path the host. -/
def pageReference? (text : List Char) : Option (List Char × List Char) := do
  let (label, rest) ← bracketNumber? (fun c ↦ '1' ≤ c && c ≤ '9') text
  let rest ← Text.after? ": /docs/providers".toList rest
  match pathSegments rest.length rest with
  | ([], _) => none
  | (segments, '.' :: rest) =>
    let (ending, rest) ← Text.span1? isSmallLetter rest
    some (label ++ ": ".toList ++ host ++ "/docs/providers".toList ++ segments ++ '.' :: ending,
      rest)
  | _ => none

/-! ## Inline links -/

/-- What an inline link becomes, by its target. -/
def resolveLink (label target : List Char) : List Char :=
  if "http".toList.isPrefixOf target then '[' :: label ++ ']' :: '(' :: target ++ [')']
  else if ['/'].isPrefixOf target then '[' :: label ++ ']' :: '(' :: host ++ target ++ [')']
  else label

/-- Reads an inline link and resolves it. -/
def inlineLink? (text : List Char) : Option (List Char × List Char) :=
  match text with
  | '[' :: rest =>
    match Text.span (· != ']') rest with
    | (label, ']' :: '(' :: rest) =>
      match Text.span (· != ')') rest with
      | (target, ')' :: rest) => some (resolveLink label target, rest)
      | _ => none
    | _ => none
  | _ => none

end ProviderDocs.Cleanup
