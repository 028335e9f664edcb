import ProviderDocs.Text.Blank
import ProviderDocs.Text.Case
import ProviderDocs.Text.Letter

/-!
# Cases of a name

Provider schemas write names with underscores; SDKs write types in Pascal case and
properties in camel case. Capitals inside a name are kept by all conversions that do not
undo them.
-/

namespace ProviderDocs.Naming

/-! ## On characters -/

def capitalizeChars : List Char → List Char
  | [] => []
  | c :: rest => Text.upper c ++ rest

def titleChars (atWordStart : Bool) : List Char → List Char
  | [] => []
  | c :: rest =>
    if Text.isBlank c then c :: titleChars true rest
    else if atWordStart then Text.upper c ++ titleChars false rest
    else c :: titleChars false rest

def pascalChars (name : List Char) : List Char :=
  ((name.splitOn '_').filter (!·.isEmpty)).flatMap capitalizeChars

def camelChars (name : List Char) : List Char :=
  match pascalChars name with
  | [] => []
  | c :: rest => Text.lower c ++ rest

def snakeChars (afterSmall : Bool) : List Char → List Char
  | [] => []
  | c :: rest =>
    if Text.isCapital c then
      (if afterSmall then ['_'] else []) ++ Text.lower c ++ snakeChars false rest
    else c :: snakeChars (Text.isSmall c || c.isDigit) rest

/-! ## On names -/

/-- The name with a capital first letter, the rest untouched. -/
def capitalize (name : String) : String := String.ofList (capitalizeChars name.toList)

/-- Every word between blank characters gets a capital first letter. -/
def titleCase (text : String) : String := String.ofList (titleChars true text.toList)

/-- The capitalized segments between underscores, joined. -/
def pascalCase (name : String) : String := String.ofList (pascalChars name.toList)

/-- Pascal case with a small first letter. -/
def camelCase (name : String) : String := String.ofList (camelChars name.toList)

/-- A capital becomes small; after a small letter or a digit it gets an underscore before it. -/
def snakeCase (name : String) : String := String.ofList (snakeChars false name.toList)

end ProviderDocs.Naming
