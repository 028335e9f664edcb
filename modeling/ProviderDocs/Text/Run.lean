/-!
# Runs of code points

Character properties are tables of runs: the code points `first`, `first + step`, … up to
`last`. Alternating alphabets, where every second letter is a capital, take a step of two.
-/

namespace ProviderDocs.Text

structure Run where
  first : Nat
  last : Nat
  step : Nat

def Run.contains (run : Run) (code : Nat) : Bool :=
  run.first ≤ code && code ≤ run.last && (code - run.first) % run.step == 0

/-- The property holds of the characters that some run of its table holds. -/
def inRuns (table : List Run) (c : Char) : Bool :=
  table.any (·.contains c.toNat)

/-- A run whose members map, in order, to the code points from `target` on. -/
structure CaseRun where
  run : Run
  target : Nat

/-- The image of a character under the first run that holds it. -/
def mapRuns? (table : List CaseRun) (c : Char) : Option Char :=
  (table.find? (·.run.contains c.toNat)).map fun entry ↦
    Char.ofNat (entry.target + (c.toNat - entry.run.first))

end ProviderDocs.Text
