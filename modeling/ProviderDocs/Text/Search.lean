/-!
# Finding and replacing text

Recognizers read a piece at the front of a text and return what is left. `substitute` moves such
a recognizer over a whole text: it replaces the leftmost piece that is recognized and goes on
behind it.
-/

namespace ProviderDocs.Text

/-- What follows `front`, when the text begins with it. -/
def after? : List Char → List Char → Option (List Char)
  | [], text => some text
  | _ :: _, [] => none
  | p :: front, c :: text => if p = c then after? front text else none

/-- Reads characters of one class up to the first of another. -/
def span (inClass : Char → Bool) (text : List Char) : List Char × List Char :=
  (text.takeWhile inClass, text.dropWhile inClass)

/-- Like `span`, but at least one character has to be in the class. -/
def span1? (inClass : Char → Bool) (text : List Char) : Option (List Char × List Char) :=
  match span inClass text with
  | ([], _) => none
  | (front, rest) => some (front, rest)

/-- The text from the first occurrence of `pattern` on is split off, the occurrence dropped. -/
def splitAt? (pattern : List Char) : List Char → Option (List Char × List Char)
  | [] => (after? pattern []).map ([], ·)
  | c :: text =>
    match after? pattern (c :: text) with
    | some rest => some ([], rest)
    | none => (splitAt? pattern text).map fun (before, rest) ↦ (c :: before, rest)

def occursIn (pattern text : List Char) : Bool := (splitAt? pattern text).isSome

/-- The remainder behind the last occurrence of a character, or the whole text. -/
def afterLast (c : Char) (text : List Char) : List Char :=
  (text.reverse.takeWhile (· != c)).reverse

/-- The part of a text before its first line feed. -/
def firstLine (text : List Char) : List Char := text.takeWhile (· != '\n')

/--
Moves over the text from left to right. Where `step?` reads a piece it puts the replacement
and goes on behind the piece; any other character is kept. A step that reads nothing counts
as none.
-/
def substitute (step? : List Char → Option (List Char × List Char)) : List Char → List Char
  | [] => []
  | c :: text =>
    match step? (c :: text) with
    | none => c :: substitute step? text
    | some (replacement, rest) =>
      if _ : rest.length ≤ text.length then replacement ++ substitute step? rest
      else c :: substitute step? text
termination_by text => text.length

/-- Replaces every occurrence of a non-empty pattern. -/
def replaceAll (pattern replacement : List Char) : List Char → List Char :=
  substitute fun text ↦ (after? pattern text).map (replacement, ·)

/-- The pieces between line feeds; there is one more of them than of line feeds. -/
def splitLines (text : List Char) : List (List Char) := text.splitOn '\n'

def count (pattern : List Char) (text : List Char) : Nat :=
  match splitAt? pattern text with
  | none => 0
  | some (_, rest) => if _ : rest.length < text.length then count pattern rest + 1 else 0
termination_by text.length

end ProviderDocs.Text

namespace ProviderDocs

/-- The text begins with `front`. -/
def startsWith (text front : String) : Bool := front.toList.isPrefixOf text.toList

def endsWith (text ending : String) : Bool := ending.toList.isSuffixOf text.toList

def contains (text pattern : String) : Bool := Text.occursIn pattern.toList text.toList

/-- Replaces every occurrence of a non-empty pattern. -/
def replaced (text pattern replacement : String) : String :=
  String.ofList (Text.replaceAll pattern.toList replacement.toList text.toList)

/-- What follows `front`, when the text begins with it. -/
def after? (text front : String) : Option String :=
  (Text.after? front.toList text.toList).map String.ofList

/-- The pieces between line feeds. -/
def splitLines (text : String) : List String := (Text.splitLines text.toList).map String.ofList

/-- The lines put one below the other, without a line feed at the end. -/
def joinLines (lines : List String) : String := "\n".intercalate lines

end ProviderDocs
