import ProviderDocs.Json.Value

/-!
# Reading records from JSON

A record is an object, whose known members must not repeat, or an array that lists its fields
in their order. Unknown members are ignored. A field is required, or optional when absent and
null mean the same, or it has a default for absence only.
-/

namespace ProviderDocs.Json

/-! ## Plain values -/

def str? : Json → Option String
  | .str value => some value
  | _ => none

def bool? : Json → Option Bool
  | .bool value => some value
  | _ => none

/-- A count below a bound. -/
def natBelow? (bound : Nat) : Json → Option Nat
  | .int value => if 0 ≤ value && value < bound then some value.toNat else none
  | _ => none

/-- A count of 64 bits. -/
def count? : Json → Option Nat := natBelow? 0x10000000000000000

def list? {α : Type} (decode : Json → Option α) : Json → Option (List α)
  | .arr items => items.mapM decode
  | _ => none

/-- The last of several members with one key stays. -/
def dict? {α : Type} (decode : Json → Option α) : Json → Option (Dict α)
  | .obj members =>
    (members.mapM fun member ↦ (decode member.2).map (member.1, ·)).map Dict.ofList
  | _ => none

/-- A choice is named by a text, or by an object with the name as its only key and no value. -/
def choice? {α : Type} (ofName? : String → Option α) : Json → Option α
  | .str name => ofName? name
  | .obj [(name, .null)] => ofName? name
  | _ => none

/-! ## Records -/

def isRecord (names : List String) : Json → Bool
  | .obj members => names.all fun name ↦ members.countP (·.1 = name) ≤ 1
  | .arr items => items.length ≤ names.length
  | _ => false

def field? (names : List String) (json : Json) (name : String) : Option Json :=
  match json with
  | .obj members => Entries.get? name members
  | .arr items => items[names.idxOf name]?
  | _ => none

theorem sizeOf_lt_of_get? {name : String} {value : Json} {members : List (String × Json)}
    (h : Entries.get? name members = some value) : sizeOf value < sizeOf members := by
  induction members with
  | nil => simp [Entries.get?] at h
  | cons head rest ih =>
    obtain ⟨key, first⟩ := head
    rw [Entries.get?] at h
    split at h
    · cases h
      simp only [List.cons.sizeOf_spec, Prod.mk.sizeOf_spec]
      omega
    · have hrest := ih h
      simp only [List.cons.sizeOf_spec]
      omega

/-- A field is smaller than its record. -/
theorem sizeOf_field?_lt {names : List String} {json value : Json} {name : String}
    (h : json.field? names name = some value) : sizeOf value < sizeOf json := by
  cases json with
  | obj members =>
    have hlt := sizeOf_lt_of_get? h
    simp only [obj.sizeOf_spec]
    omega
  | arr items =>
    have hlt := List.sizeOf_lt_of_mem (List.mem_of_getElem? h)
    simp only [arr.sizeOf_spec]
    omega
  | _ => simp [field?] at h

def required {α : Type} (decode : Json → Option α) (field : Option Json) : Option α :=
  field.bind decode

def optional {α : Type} (decode : Json → Option α) : Option Json → Option (Option α)
  | none | some .null => some none
  | some value => (decode value).map some

def withDefault {α : Type} (default : α) (decode : Json → Option α) : Option Json → Option α
  | none => some default
  | some value => decode value

end ProviderDocs.Json
