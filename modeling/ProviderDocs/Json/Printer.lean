import ProviderDocs.Json.Value

/-!
# Printing JSON

Two layouts: compact, without any blank, and pretty, with one member or item to a line and
two spaces for each level. Quotes, backslashes and control characters are escaped and all
else is written as it is.
-/

namespace ProviderDocs.Json

def hexDigit (n : Nat) : Char := Nat.digitChar (n % 16)

def escapeChar (c : Char) : List Char :=
  match c with
  | '"' => ['\\', '"']
  | '\\' => ['\\', '\\']
  | '\x08' => ['\\', 'b']
  | '\t' => ['\\', 't']
  | '\n' => ['\\', 'n']
  | '\x0c' => ['\\', 'f']
  | '\r' => ['\\', 'r']
  | c =>
    if c.toNat < 0x20 then ['\\', 'u', '0', '0', hexDigit (c.toNat / 16), hexDigit c.toNat]
    else [c]

def quotedChars (text : String) : List Char :=
  '"' :: text.toList.flatMap escapeChar ++ ['"']

def scalarChars : Json → List Char
  | .null => ['n', 'u', 'l', 'l']
  | .bool true => ['t', 'r', 'u', 'e']
  | .bool false => ['f', 'a', 'l', 's', 'e']
  | .int value => (toString value).toList
  | .decimal text => text.toList
  | .str text => quotedChars text
  | .arr _ | .obj _ => []

/-! ## Compact -/

mutual

def compactChars : Json → List Char
  | .arr items => '[' :: compactItems items ++ [']']
  | .obj members => '\x7b' :: compactMembers members ++ ['\x7d']
  | json => json.scalarChars

def compactItems : List Json → List Char
  | [] => []
  | [item] => item.compactChars
  | item :: rest => item.compactChars ++ ',' :: compactItems rest

def compactMembers : List (String × Json) → List Char
  | [] => []
  | [(key, value)] => quotedChars key ++ ':' :: value.compactChars
  | (key, value) :: rest =>
    quotedChars key ++ ':' :: value.compactChars ++ ',' :: compactMembers rest

end

def compact (json : Json) : String := String.ofList json.compactChars

/-! ## Pretty -/

/-- A new line at a level. -/
def breakLine (level : Nat) : List Char := '\n' :: List.replicate (2 * level) ' '

mutual

def prettyChars (level : Nat) : Json → List Char
  | .arr [] => ['[', ']']
  | .arr items => '[' :: prettyItems (level + 1) items ++ breakLine level ++ [']']
  | .obj [] => ['\x7b', '\x7d']
  | .obj members => '\x7b' :: prettyMembers (level + 1) members ++ breakLine level ++ ['\x7d']
  | json => json.scalarChars

def prettyItems (level : Nat) : List Json → List Char
  | [] => []
  | [item] => breakLine level ++ item.prettyChars level
  | item :: rest => breakLine level ++ item.prettyChars level ++ ',' :: prettyItems level rest

def prettyMembers (level : Nat) : List (String × Json) → List Char
  | [] => []
  | [(key, value)] => breakLine level ++ quotedChars key ++ ':' :: ' ' :: value.prettyChars level
  | (key, value) :: rest =>
    breakLine level ++ quotedChars key ++ ':' :: ' ' :: value.prettyChars level ++
      ',' :: prettyMembers level rest

end

def pretty (json : Json) : String := String.ofList (json.prettyChars 0)

end ProviderDocs.Json
