/-!
# Comparing text without regard to case

Under simple case folding an English letter has its capital as its only other form, with two
exceptions: the long s `ſ` counts as `s`, and the kelvin sign `K` as `k`.
-/

namespace ProviderDocs.Text

/-- The small English letter a character counts as; any other character stands for itself. -/
def fold (c : Char) : Char :=
  if c = 'ſ' then 's' else if c = '\u212A' then 'k' else c.toLower

/-- What follows `front`, given in small letters, when the text begins with it in any case. -/
def afterFolded? : List Char → List Char → Option (List Char)
  | [], text => some text
  | _ :: _, [] => none
  | p :: front, c :: text => if p = fold c then afterFolded? front text else none

/-- A pattern in small letters occurs in the text in any case. -/
def occursFolded (pattern : List Char) : List Char → Bool
  | [] => pattern.isEmpty
  | c :: text => (afterFolded? pattern (c :: text)).isSome || occursFolded pattern text

end ProviderDocs.Text
