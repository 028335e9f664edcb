import ProviderDocs.Text.Blank
import ProviderDocs.Text.Case
import ProviderDocs.Text.Digit
import ProviderDocs.Text.Fold
import ProviderDocs.Text.Search

/-!
# Lines of reference sections

A reference section is a list of bullets with continuation lines between them and lines that
introduce the nested block of an argument.
-/

namespace ProviderDocs.Markdown

inductive Line where
  | bullet (name description : String) (introducesBlock : Bool)
  /-- The name is in small letters and the text trimmed. -/
  | blockIntro (name text : String)
  | continuation (text : String)
  | blank
  deriving DecidableEq, Repr

/-! ## Bullets -/

def isNameChar (c : Char) : Bool := c.isAlphanum || c = '_'

def isBulletMarker (c : Char) : Bool := c = '*' || c = '+' || c = '-'

/-- A hyphen or an en dash. -/
def isDash (c : Char) : Bool := c = '-' || c = '–'

/-- Reads a text in brackets that holds no closing bracket, and the blanks after it. -/
def bracketed? (inside : Char → Bool) : List Char → Option (List Char)
  | '(' :: rest =>
    match rest.dropWhile inside with
    | ')' :: rest => some rest
    | _ => none
  | _ => none

/-- Reads the marker, and the name between backticks, of a bullet. -/
def bulletHead? (line : List Char) : Option (List Char × List Char) :=
  match Text.dropBlank line with
  | marker :: rest =>
    if isBulletMarker marker then
      match Text.skipBlanks1? rest with
      | some ('`' :: rest) =>
        match Text.span isNameChar rest with
        | (name, '`' :: rest) => some (name, rest)
        | _ => none
      | _ => none
    else none
  | [] => none

/--
Reads an optional dash and at least one blank. When no blank follows the dash, the blanks
before it serve, and the dash belongs to what comes next.
-/
def separator? (blanksBefore : Bool) (text : List Char) : Option (List Char) :=
  let afterDash := match text with
    | c :: rest => if isDash c then Text.skipBlanks1? rest else none
    | [] => none
  match afterDash with
  | some rest => some rest
  | none => if blanksBefore then some text else none

/-- Drops blanks and tells whether there were any. -/
def blanks (text : List Char) : Bool × List Char :=
  ((text.head?.map Text.isBlank).getD false, Text.dropBlank text)

/-- The description of an argument: no qualifier in brackets, and one line of text. -/
def argumentDescription (text : List Char) : List Char :=
  Text.firstLine <|
    match bracketed? (· != ')') text with
    | some rest => Text.dropBlank rest
    | none => text

/--
The name and the description of an argument bullet. A type in brackets may stand between the
name and the dash, a qualifier in brackets between the dash and the description.
-/
def argumentBullet? (line : List Char) : Option (List Char × List Char) := do
  let (name, rest) ← bulletHead? line
  let (hasBlanks, rest) := blanks rest
  let afterType := (bracketed? Char.isAlpha rest).bind fun rest ↦
    let (hasBlanks, rest) := blanks rest
    separator? hasBlanks rest
  let description ← afterType.or (separator? hasBlanks rest)
  some (name, argumentDescription description)

/-- The name and the description of an attribute bullet. -/
def attributeBullet? (line : List Char) : Option (List Char × List Char) := do
  let (name, rest) ← bulletHead? line
  let afterBlanks ← Text.skipBlanks1? rest
  let severalBlanks := rest.length - afterBlanks.length ≥ 2
  let description ← separator? severalBlanks afterBlanks
  some (name, Text.firstLine description)

/-! ## Introductions of nested blocks -/

/-- Reads the first name between backticks after which `accept` takes the rest of the line. -/
def quotedName? (inName : Char → Bool) (accept : List Char → Bool) :
    List Char → Option (List Char)
  | [] => none
  | c :: rest =>
    let here := if c = '`' then
        match Text.span inName rest with
        | ([], _) => none
        | (name, '`' :: rest) => if accept (Text.firstLine rest) then some name else none
        | _ => none
      else none
    here.or (quotedName? inName accept rest)

def isSmallLetter (c : Char) : Bool := 'a' ≤ c && c ≤ 'z'

def isSmallName (c : Char) : Bool := isSmallLetter c || c = '_'

def isSmallPath (c : Char) : Bool := isSmallName c || c = '.'

/-- Counts as a small English letter when case does not matter. -/
def isFoldedLetter (c : Char) : Bool := isSmallLetter (Text.fold c)

/-- The name in a heading such as `## website Argument Reference`, in any case. -/
def headingName? : List Char → Option (List Char)
  | [] => none
  | c :: rest =>
    let here := (Text.after? "## ".toList (c :: rest)).bind fun rest ↦
      match rest with
      | first :: rest =>
        if isFoldedLetter first then
          match Text.span (fun c ↦ isFoldedLetter c || Text.isDecimalDigit c || c = '_') rest with
          | ([], _) => none
          | (name, rest) =>
            if Text.occursFolded " argument reference".toList (Text.firstLine rest) then
              some (first :: name)
            else none
        else none
      | [] => none
    here.or (headingName? rest)

/-- The line says `block` and later `supports:`. -/
def saysBlockSupports (rest : List Char) : Bool :=
  match Text.splitAt? "block".toList rest with
  | some (_, rest) => Text.occursIn "supports:".toList rest
  | none => false

/-- The name, as written, of the argument whose nested block a line introduces. -/
def introducedName? (line : List Char) : Option (List Char) :=
  (quotedName? isSmallName (Text.occursIn "following".toList) line).or <|
  (headingName? line).or <|
  (quotedName? isSmallName (Text.occursIn "block supports:".toList) line).or <|
  (quotedName? isSmallPath (Text.occursIn "sublist supports:".toList) line).or <|
  (quotedName? isSmallPath (Text.occursIn "subblock supports:".toList) line).or <|
  quotedName? isSmallPath saysBlockSupports line

/-- The argument whose nested block a line introduces, in small letters. -/
def blockName? (line : String) : Option String :=
  (introducedName? line.toList).map fun name ↦ String.ofList (name.flatMap Text.lower)

/-! ## Lines -/

/-- Ends a bullet that only introduces a nested list. -/
def introEnding : String := "supports the following:"

namespace Line

/-- A line that is no bullet. -/
def ofText (line : String) (mayIntroduce : Bool) : Line :=
  let text := trimmed line
  if text.isEmpty then blank
  else match if mayIntroduce then blockName? line else none with
    | some name => blockIntro name text
    | none => continuation text

/-- A line of an argument reference. -/
def ofArguments (line : String) : Line :=
  match argumentBullet? line.toList with
  | some (name, description) =>
    bullet (String.ofList name) (String.ofList description) (endsWith (trimmedEnd line) introEnding)
  | none => ofText line true

/-- A line of an attribute reference, where no nested blocks are introduced. -/
def ofAttributes (line : String) : Line :=
  match attributeBullet? line.toList with
  | some (name, description) => bullet (String.ofList name) (String.ofList description) false
  | none => ofText line false

end Line

end ProviderDocs.Markdown
