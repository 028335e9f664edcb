import ProviderDocs.Conversion.Batch

/-!
# Narrowing failing batches

A batch that fails is narrowed down by halves to one example. The narrowing only serves to
show where to look; answers always come from the whole batch.
-/

namespace ProviderDocs

namespace Batch

/-- The first half in key order, which is the smaller one, and the second. -/
def inHalves (examples : Examples) : Examples × Examples :=
  (examples.take (examples.size / 2), examples.drop (examples.size / 2))

structure Bisection where
  examples : Examples
  /-- The converter was seen to fail on these examples alone. -/
  isConfirmed : Bool

variable {m : Type → Type} [Monad m]

/--
Narrows a failing batch to fewer than two examples. Only the first half is tried: when that
converts, the second is to blame.
-/
def narrow (convert : BatchConverter m) (mappings : List Provider) (examples : Examples)
    (isConfirmed : Bool) : m Bisection :=
  if _h : 2 ≤ examples.size then do
    let halves := inHalves examples
    match ← (convert halves.1 mappings).run with
    | .error _ => narrow convert mappings halves.1 true
    | .ok _ => narrow convert mappings halves.2 false
  else pure ⟨examples, isConfirmed⟩
termination_by examples.size
decreasing_by
  all_goals
    simp only [inHalves, Dict.take, Dict.drop, Dict.size, List.length_take,
      List.length_drop] at *
    omega

/-- Narrows a batch that was seen to fail. -/
def Bisection.ofFailing (convert : BatchConverter m) (examples : Examples)
    (mappings : List Provider) : m Bisection :=
  narrow convert mappings examples true

/-! ## Reproductions -/

/-- A script that repeats a call. -/
def reproScript (arguments : List String) : String :=
  "#!/usr/bin/env bash\nset -euo pipefail\n\npulumi " ++ " ".intercalate arguments ++ "\n"

/-- Writes examples and the script that converts them to a new directory, which is kept. -/
def writeRepro (examples : Examples) (mappings : List Provider) :
    FileAction FileError String := do
  let directory ← .makeTemporary "convert-examples-repro"
  let arguments ← writeInput directory (Path.join directory examplesFile) examples mappings
  for (name, hcl) in examples.entries do
    .change (·.writeText (Path.join directory (name ++ ".tf")) hcl)
  .change (·.writeText (Path.join directory "repro.sh") (reproScript arguments))
  pure directory

/-! ## Converting in bulk -/

/--
Converts a batch by one call. When it fails, one example of it is left in a directory; if not
even that can be written, the failure is told as it is.
-/
def convert [MonadStateOf FileTree m] (convert : BatchConverter m) (examples : Examples)
    (mappings : List Provider) : ExceptT ConversionError m (Dict TranslatedExample) :=
  ExceptT.mk do
    if examples.isEmpty then return .ok ∅
    match ← (convert examples mappings).run with
    | .ok answer => return .ok answer
    | .error cause =>
      let minimal ← Bisection.ofFailing convert examples mappings
      match ← modifyGet (writeRepro minimal.examples mappings).run.run with
      | .ok directory => return .error (.minimalRepro directory cause)
      | .error _ => return .error cause

end Batch

end ProviderDocs
