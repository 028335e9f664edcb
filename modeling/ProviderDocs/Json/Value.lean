import ProviderDocs.Dict

/-!
# JSON values

Objects keep their members in the order of the text, repeated keys included: whether a
repetition is an error is up to the reader of the record.
-/

namespace ProviderDocs

inductive Json where
  | null
  | bool (value : Bool)
  | int (value : Int)
  /-- A number with a fraction or an exponent, or beyond the range of integers, as written. -/
  | decimal (text : String)
  | str (value : String)
  | arr (items : List Json)
  | obj (members : List (String × Json))
  deriving Inhabited

namespace Json

mutual

/-- Every object keeps only the last of several members with one key. -/
def lastMembers : Json → Json
  | .arr items => .arr (lastMembersOfItems items)
  | .obj members => .obj (Entries.ofList (lastMembersOfMembers members))
  | json => json

def lastMembersOfItems : List Json → List Json
  | [] => []
  | item :: rest => item.lastMembers :: lastMembersOfItems rest

def lastMembersOfMembers : List (String × Json) → List (String × Json)
  | [] => []
  | (key, value) :: rest => (key, value.lastMembers) :: lastMembersOfMembers rest

end

/-- The members of an object in key order. -/
def ofDict {α : Type} (encode : α → Json) (dict : Dict α) : Json :=
  .obj (dict.entries.map fun entry ↦ (entry.1, encode entry.2))

def ofList {α : Type} (encode : α → Json) (items : List α) : Json := .arr (items.map encode)

def ofOption {α : Type} (encode : α → Json) : Option α → Json
  | some value => encode value
  | none => .null

def ofNat (value : Nat) : Json := .int value

/-- A member that is left out when there is no value. -/
def optionalMember {α : Type} (key : String) (encode : α → Json) :
    Option α → List (String × Json)
  | some value => [(key, encode value)]
  | none => []

end Json

end ProviderDocs
