/-!
# Reading bytes as text

Bytes that may not be UTF-8 are read as text all the same. The longest front that begins a
character but does not end it is replaced by one mark, and so is a byte that begins none.
-/

namespace ProviderDocs.Text

/-- The mark in the place of bytes that are no text. -/
def replacementMark : Char := '\uFFFD'

/--
What follows the first byte of a character of several bytes: how many bytes, and the range of
the next one. The ranges leave out spellings that are too long, surrogates, and numbers beyond
the last character.
-/
def continuation? (first : Nat) : Option (Nat × Nat × Nat) :=
  if 0xC2 ≤ first && first ≤ 0xDF then some (1, 0x80, 0xBF)
  else if first = 0xE0 then some (2, 0xA0, 0xBF)
  else if first = 0xED then some (2, 0x80, 0x9F)
  else if 0xE1 ≤ first && first ≤ 0xEF then some (2, 0x80, 0xBF)
  else if first = 0xF0 then some (3, 0x90, 0xBF)
  else if 0xF1 ≤ first && first ≤ 0xF3 then some (3, 0x80, 0xBF)
  else if first = 0xF4 then some (3, 0x80, 0x8F)
  else none

/-- How many of the bytes owed are there; the next one has a range of its own. -/
def continuationLength : Nat → Nat → Nat → List Nat → Nat
  | owed + 1, low, high, byte :: rest =>
    if low ≤ byte && byte ≤ high then continuationLength owed 0x80 0xBF rest + 1 else 0
  | _, _, _, _ => 0

/-- The character of a first byte and all bytes that it owes. -/
def joinBytes (first : Nat) (rest : List Nat) : Char :=
  Char.ofNat (rest.foldl (fun number byte ↦ 64 * number + byte % 64)
    (first % (64 >>> rest.length)))

/-- The characters of bytes, with marks for what is no character. -/
def decodeLossy : List Nat → List Char
  | [] => []
  | first :: rest =>
    match continuation? first with
    | none => (if first < 0x80 then Char.ofNat first else replacementMark) :: decodeLossy rest
    | some (owed, low, high) =>
      let length := continuationLength owed low high rest
      (if length = owed then joinBytes first (rest.take length) else replacementMark) ::
        decodeLossy (rest.drop length)
termination_by bytes => bytes.length
decreasing_by
  all_goals
    simp only [List.length_drop, List.length_cons]
    omega

end ProviderDocs.Text
