import ProviderDocs.Text.Fold

/-!
# Singulars

The type of a list is named after one of its elements. English singulars follow a list of
rules; the first rule that fits the end of the name decides. Endings are compared without
regard to case, and what is kept of the name keeps its case.
-/

namespace ProviderDocs.Naming

/-- What stands before the ending a rule takes off. -/
inductive Stem where
  /-- The name goes on with one of these endings. -/
  | anyOf (endings : List String)
  /-- The name goes on with a letter other than `a`, `e`, `i`, `o`, `u` and `y`, or with `qu`. -/
  | consonant
  | anything

structure SingularRule where
  stem : Stem
  ending : String
  replacement : String

def pluralEndings : List SingularRule := [
  ⟨.anyOf ["news", "series", "species", "data", "info", "equipment"], "", ""⟩,
  ⟨.anyOf ["alias", "status", "bus", "campus", "virus", "corpus"], "es", ""⟩,
  ⟨.anyOf ["alias", "status", "bus", "campus", "virus", "corpus"], "", ""⟩,
  ⟨.anyOf ["analy", "diagno", "parenthe", "progno", "synop", "hypothe"], "ses", "sis"⟩,
  ⟨.anyOf ["p"], "eople", "erson"⟩,
  ⟨.anyOf ["c"], "hildren", "hild"⟩,
  ⟨.anyOf ["matr"], "ices", "ix"⟩,
  ⟨.anyOf ["vert", "ind"], "ices", "ex"⟩,
  ⟨.anyOf ["quiz"], "zes", ""⟩,
  ⟨.anyOf ["movie", "cookie", "calorie", "rookie", "selfie", "zombie"], "s", ""⟩,
  ⟨.consonant, "ies", "y"⟩,
  ⟨.anyOf ["cache", "niche", "ache", "avalanche", "mustache"], "s", ""⟩,
  ⟨.anyOf ["x", "ch", "ss", "sh", "zz"], "es", ""⟩,
  ⟨.anyOf ["shel", "hal", "wol", "lea", "loa", "thie", "cal", "sel"], "ves", "f"⟩,
  ⟨.anyOf ["li", "wi", "kni"], "ves", "fe"⟩,
  ⟨.anyOf ["her", "potat", "tomat", "ech", "vet"], "oes", "o"⟩,
  ⟨.anyOf ["ss", "us", "is"], "", ""⟩,
  ⟨.anything, "s", ""⟩]

/-- What stands before `ending` in a reversed name that ends with it. -/
def beforeEnding? (ending : String) (reversed : List Char) : Option (List Char) :=
  Text.afterFolded? ending.toList.reverse reversed

def Stem.fits (stem : Stem) (reversed : List Char) : Bool :=
  match stem with
  | .anyOf endings => endings.any fun ending ↦ (beforeEnding? ending reversed).isSome
  | .consonant =>
    match reversed with
    | [] => false
    | c :: _ => !"aeiouy".toList.contains (Text.fold c) || (beforeEnding? "qu" reversed).isSome
  | .anything => true

/-- The reversed singular of a reversed name, when the rule fits. -/
def SingularRule.singular? (rule : SingularRule) (reversed : List Char) : Option (List Char) :=
  match beforeEnding? rule.ending reversed with
  | some kept =>
    if rule.stem.fits kept then some (rule.replacement.toList.reverse ++ kept) else none
  | none => none

/-- The English singular of a name; a name that no rule fits is its own singular. -/
def singularize (name : String) : String :=
  let reversed := name.toList.reverse
  String.ofList ((pluralEndings.findSome? (·.singular? reversed)).getD reversed).reverse

end ProviderDocs.Naming
