import ProviderDocs.Shell.Command

/-!
# Patterns

A pattern matches whole texts: `*` any text, `?` any character and brackets one of a set. Quoted
characters stand for themselves.
-/

namespace ProviderDocs.Shell

/-- A character of an expanded word. -/
structure Glyph where
  char : Char
  isQuoted : Bool
  deriving DecidableEq

abbrev Pattern := List Glyph

namespace Pattern

/-- The members of a set, as ranges, up to the bracket that closes it. -/
def members : Nat → Pattern → Option (List (Char × Char) × Pattern)
  | 0, _ => none
  | _ + 1, [] => none
  | fuel + 1, c :: rest =>
    if c = ⟨']', false⟩ then some ([], rest)
    else
      match rest with
      | ⟨'-', false⟩ :: d :: more =>
        if d = ⟨']', false⟩ then
          (members fuel rest).map fun (set, rest) ↦ ((c.char, c.char) :: set, rest)
        else (members fuel more).map fun (set, rest) ↦ ((c.char, d.char) :: set, rest)
      | _ => (members fuel rest).map fun (set, rest) ↦ ((c.char, c.char) :: set, rest)

/-- The set behind an opening bracket, and whether it is negated. -/
def set? (pattern : Pattern) : Option (Bool × List (Char × Char) × Pattern) :=
  let isNegated := pattern.head?.any fun c ↦ !c.isQuoted && (c.char = '!' || c.char = '^')
  let pattern := if isNegated then pattern.tail else pattern
  match pattern with
  | first :: rest =>
    if first = ⟨']', false⟩ then
      (members (rest.length + 1) rest).map fun (set, rest) ↦ (isNegated, (']', ']') :: set, rest)
    else (members (pattern.length + 1) pattern).map fun (set, rest) ↦ (isNegated, set, rest)
  | [] => none

def fits : Nat → Pattern → Bytes → Bool
  | 0, _, _ => false
  | _ + 1, [], text => text.isEmpty
  | fuel + 1, c :: rest, text =>
    let literal := text.head? = some c.char && fits fuel rest text.tail
    if c.isQuoted then literal
    else
      match c.char, text with
      | '*', [] => fits fuel rest []
      | '*', _ :: more => fits fuel rest text || fits fuel (c :: rest) more
      | '?', _ :: more => fits fuel rest more
      | '?', [] => false
      | '[', d :: more =>
        match set? rest with
        | some (isNegated, set, rest) =>
          (set.any fun (low, high) ↦ low ≤ d && d ≤ high) != isNegated && fits fuel rest more
        | none => literal
      | _, _ => literal

def accepts (pattern : Pattern) (text : Bytes) : Bool :=
  fits (pattern.length + text.length + 1) pattern text

/-- The text without what the pattern matches in front. -/
def dropFront (pattern : Pattern) (longest : Bool) (text : Bytes) : Bytes :=
  let lengths := List.range (text.length + 1)
  let lengths := if longest then lengths.reverse else lengths
  match lengths.find? fun length ↦ pattern.accepts (text.take length) with
  | some length => text.drop length
  | none => text

def dropEnd (pattern : Pattern) (longest : Bool) (text : Bytes) : Bytes :=
  let lengths := List.range (text.length + 1)
  let lengths := if longest then lengths else lengths.reverse
  match lengths.find? fun length ↦ pattern.accepts (text.drop length) with
  | some length => text.take length
  | none => text

end Pattern

end ProviderDocs.Shell
