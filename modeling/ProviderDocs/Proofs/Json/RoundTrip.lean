import ProviderDocs.Json.Parser
import ProviderDocs.Json.Printer
import ProviderDocs.Proofs.Error

/-!
# Reading back printed JSON

The compact text of a value without numbers is read back as that value when arrays and objects do
not lie too deep in each other, and otherwise it is not read at all. What follows the value is
left for the caller, so the statements for items and members are put together from those for
the values in them.
-/

namespace ProviderDocs.Json

/-! ## Strings -/

theorem hexValue4?_escape {n : Nat} (h : n < 0x20) :
    hexValue4? '0' '0' (hexDigit (n / 16)) (hexDigit n) = some n := by
  have hall : ∀ n < 0x20, hexValue4? '0' '0' (hexDigit (n / 16)) (hexDigit n) = some n := by
    decide
  exact hall n h

theorem stringBody?_escapeChar (c : Char) (text : List Char) :
    stringBody? (escapeChar c ++ text) =
      (stringBody? text).map fun (body, rest) ↦ (c :: body, rest) := by
  unfold escapeChar
  split
  case h_1 => simp [stringBody?, simpleEscape?]
  case h_2 => simp [stringBody?, simpleEscape?]
  case h_3 => simp [stringBody?, simpleEscape?]
  case h_4 => simp [stringBody?, simpleEscape?]
  case h_5 => simp [stringBody?, simpleEscape?]
  case h_6 => simp [stringBody?, simpleEscape?]
  case h_7 => simp [stringBody?, simpleEscape?]
  case h_8 hquote hbackslash _ _ _ _ _ =>
    split
    case isTrue hcontrol =>
      have hcode := hexValue4?_escape hcontrol
      have hsmall : c.toNat < 0xD800 := by omega
      simp [stringBody?, hcode, hsmall]
    case isFalse hcontrol =>
      rw [List.singleton_append, stringBody?, if_neg]
      · simpa [hcontrol] using hbackslash
      · exact hquote
      · exact fun _ _ _ _ _ h _ ↦ hbackslash h
      · exact fun _ _ h _ ↦ hbackslash h

/-- A printed text is read back up to its closing quote. -/
theorem stringBody?_flatMap_escapeChar (text rest : List Char) :
    stringBody? (text.flatMap escapeChar ++ '"' :: rest) = some (text, rest) := by
  induction text with
  | nil => simp [stringBody?]
  | cons c text ih =>
    rw [List.flatMap_cons, List.append_assoc, stringBody?_escapeChar, ih]
    rfl

/-! ## Values -/

mutual

/-- How deep arrays and objects lie in each other. -/
def depth : Json → Nat
  | .arr items => depthOfItems items + 1
  | .obj members => depthOfMembers members + 1
  | _ => 0

def depthOfItems : List Json → Nat
  | [] => 0
  | item :: rest => max item.depth (depthOfItems rest)

def depthOfMembers : List (String × Json) → Nat
  | [] => 0
  | (_, value) :: rest => max value.depth (depthOfMembers rest)

end

mutual

def isNumberFree : Json → Bool
  | .int _ | .decimal _ => false
  | .arr items => areNumberFree items
  | .obj members => membersAreNumberFree members
  | _ => true

def areNumberFree : List Json → Bool
  | [] => true
  | item :: rest => item.isNumberFree && areNumberFree rest

def membersAreNumberFree : List (String × Json) → Bool
  | [] => true
  | (_, value) :: rest => value.isNumberFree && membersAreNumberFree rest

end

theorem skipSpace_cons {c : Char} (h : isSpace c = false) (text : List Char) :
    skipSpace (c :: text) = c :: text :=
  List.dropWhile_cons_of_neg (Bool.eq_false_iff.mp h)

/-- A printed value begins with a character that neither is blank nor closes an array. -/
theorem compactChars_eq_cons {json : Json} (h : json.isNumberFree = true) :
    ∃ c text, json.compactChars = c :: text ∧ isSpace c = false ∧ c ≠ ']' := by
  cases json with
  | null => exact ⟨_, _, rfl, by decide, by decide⟩
  | bool value => cases value <;> exact ⟨_, _, rfl, by decide, by decide⟩
  | int => simp [isNumberFree] at h
  | decimal => simp [isNumberFree] at h
  | str => exact ⟨_, _, rfl, by decide, by decide⟩
  | arr => exact ⟨'[', _, rfl, by decide, by decide⟩
  | obj => exact ⟨'\x7b', _, rfl, by decide, by decide⟩

theorem compactItems_cons (item next : Json) (rest : List Json) :
    compactItems (item :: next :: rest) =
      item.compactChars ++ ',' :: compactItems (next :: rest) := by
  rw [compactItems]
  exact List.cons_ne_nil _ _

theorem compactMembers_cons (key : String) (value : Json) (next : String × Json)
    (rest : List (String × Json)) :
    compactMembers ((key, value) :: next :: rest) =
      quotedChars key ++ ':' :: value.compactChars ++ ',' :: compactMembers (next :: rest) := by
  rw [compactMembers]
  exact List.cons_ne_nil _ _

theorem quotedChars_append (key : String) (rest : List Char) :
    quotedChars key ++ rest = '"' :: (key.toList.flatMap escapeChar ++ '"' :: rest) := by
  simp [quotedChars]

/-- A printed list of items begins like its first item. -/
theorem compactItems_eq_cons {item : Json} (h : item.isNumberFree = true) (more : List Json) :
    ∃ c text, compactItems (item :: more) = c :: text ∧ isSpace c = false ∧ c ≠ ']' := by
  obtain ⟨c, text, htext, hc⟩ := compactChars_eq_cons h
  cases more with
  | nil => exact ⟨c, text, by rw [compactItems, htext], hc⟩
  | cons next more =>
    exact ⟨c, _, by rw [compactItems_cons, htext, List.cons_append], hc⟩

/-- The text of the members begins with a quote. -/
theorem compactMembers_eq_cons (key : String) (value : Json) (more : List (String × Json)) :
    ∃ text, compactMembers ((key, value) :: more) = '"' :: text := by
  cases more with
  | nil => exact ⟨_, by rw [compactMembers, quotedChars_append]⟩
  | cons next more =>
    exact ⟨_, by rw [compactMembers_cons, List.append_assoc, quotedChars_append]⟩

/-- An array is read when its items are. -/
theorem value_compactChars_arr {item : Json} {more : List Json}
    (hitem : item.isNumberFree = true) {fuel bound : Nat} {rest : List Char}
    (hitems : items fuel bound (compactItems (item :: more) ++ ']' :: rest) =
      .ok (item :: more, rest)) :
    value (fuel + 1) (bound + 1) ((arr (item :: more)).compactChars ++ rest) =
      .ok (arr (item :: more), rest) := by
  obtain ⟨c, text, htext, hspace, hclose⟩ := compactItems_eq_cons hitem more
  rw [htext, List.cons_append] at hitems
  rw [compactChars]
  simp only [List.cons_append, List.append_assoc, List.nil_append, htext]
  rw [value, skipSpace_cons (by decide)]
  simp only [skipSpace_cons hspace]
  split
  case h_1 heq =>
    cases heq
    exact absurd rfl hclose
  case h_2 =>
    rw [hitems]
    rfl

/-- An object is read when its members are. -/
theorem value_compactChars_obj {key : String} {member : Json} {more : List (String × Json)}
    {fuel bound : Nat} {rest : List Char}
    (hmembers : members fuel bound (compactMembers ((key, member) :: more) ++ '\x7d' :: rest) =
      .ok ((key, member) :: more, rest)) :
    value (fuel + 1) (bound + 1) ((obj ((key, member) :: more)).compactChars ++ rest) =
      .ok (obj ((key, member) :: more), rest) := by
  obtain ⟨text, htext⟩ := compactMembers_eq_cons key member more
  rw [htext, List.cons_append] at hmembers
  rw [compactChars]
  simp only [List.cons_append, List.append_assoc, List.nil_append, htext]
  rw [value, skipSpace_cons (by decide)]
  simp only [skipSpace_cons (by decide : isSpace '"' = false)]
  change (members fuel bound ('"' :: (text ++ '\x7d' :: rest))).map _ = _
  rw [hmembers]
  rfl

mutual

/-- A printed value is read back, whatever follows it. -/
theorem value_compactChars {json : Json} (hnumbers : json.isNumberFree = true) {fuel bound : Nat}
    (hfuel : json.compactChars.length ≤ fuel) (hdepth : json.depth ≤ bound) (rest : List Char) :
    value fuel bound (json.compactChars ++ rest) = .ok (json, rest) := by
  obtain ⟨fuel, rfl⟩ : ∃ steps, fuel = steps + 1 := by
    obtain ⟨c, text, htext, -⟩ := compactChars_eq_cons hnumbers
    rw [htext, List.length_cons] at hfuel
    exact ⟨fuel - 1, by omega⟩
  cases json with
  | null => rfl
  | bool value => cases value <;> rfl
  | int => simp [isNumberFree] at hnumbers
  | decimal => simp [isNumberFree] at hnumbers
  | str text =>
    rw [compactChars, scalarChars, quotedChars_append, value, skipSpace_cons (by decide)]
    simp only [stringBody?_flatMap_escapeChar, String.ofList_toList]
    all_goals simp
  | arr list =>
    obtain ⟨bound, rfl⟩ : ∃ below, bound = below + 1 := by
      rw [depth] at hdepth
      exact ⟨bound - 1, by omega⟩
    cases list with
    | nil => rfl
    | cons item more =>
      rw [isNumberFree] at hnumbers
      rw [depth] at hdepth
      rw [compactChars] at hfuel
      simp only [List.length_append, List.length_cons, List.length_nil] at hfuel
      have hitem : item.isNumberFree = true := And.left (by simpa [areNumberFree] using hnumbers)
      apply value_compactChars_arr hitem
      exact items_compactItems hnumbers (by omega) (by omega) rest
  | obj list =>
    obtain ⟨bound, rfl⟩ : ∃ below, bound = below + 1 := by
      rw [depth] at hdepth
      exact ⟨bound - 1, by omega⟩
    cases list with
    | nil => rfl
    | cons member more =>
      obtain ⟨key, member⟩ := member
      rw [isNumberFree] at hnumbers
      rw [depth] at hdepth
      rw [compactChars] at hfuel
      simp only [List.length_append, List.length_cons, List.length_nil] at hfuel
      apply value_compactChars_obj
      exact members_compactMembers hnumbers (by omega) (by omega) rest
termination_by fuel

theorem items_compactItems {item : Json} {more : List Json}
    (hnumbers : areNumberFree (item :: more) = true) {fuel bound : Nat}
    (hfuel : (compactItems (item :: more)).length < fuel)
    (hdepth : depthOfItems (item :: more) ≤ bound) (rest : List Char) :
    items fuel bound (compactItems (item :: more) ++ ']' :: rest) = .ok (item :: more, rest) := by
  obtain ⟨fuel, rfl⟩ : ∃ steps, fuel = steps + 1 := ⟨fuel - 1, by omega⟩
  rw [areNumberFree, Bool.and_eq_true] at hnumbers
  rw [depthOfItems] at hdepth
  cases more with
  | nil =>
    rw [compactItems] at hfuel ⊢
    rw [items, value_compactChars hnumbers.1 (by omega) (by omega)]
    rfl
  | cons next more =>
    rw [compactItems_cons] at hfuel ⊢
    simp only [List.length_append, List.length_cons] at hfuel
    rw [items, List.append_assoc, value_compactChars hnumbers.1 (by omega) (by omega)]
    simp only [List.cons_append, skipSpace_cons (by decide : isSpace ',' = false)]
    rw [items_compactItems hnumbers.2 (by omega) (by omega)]
    rfl
termination_by fuel

theorem members_compactMembers {key : String} {member : Json} {more : List (String × Json)}
    (hnumbers : membersAreNumberFree ((key, member) :: more) = true) {fuel bound : Nat}
    (hfuel : (compactMembers ((key, member) :: more)).length < fuel)
    (hdepth : depthOfMembers ((key, member) :: more) ≤ bound) (rest : List Char) :
    members fuel bound (compactMembers ((key, member) :: more) ++ '\x7d' :: rest) =
      .ok ((key, member) :: more, rest) := by
  obtain ⟨fuel, rfl⟩ : ∃ steps, fuel = steps + 1 := ⟨fuel - 1, by omega⟩
  rw [membersAreNumberFree, Bool.and_eq_true] at hnumbers
  rw [depthOfMembers] at hdepth
  cases more with
  | nil =>
    rw [compactMembers] at hfuel ⊢
    simp only [List.length_append, List.length_cons] at hfuel
    rw [members, List.append_assoc, quotedChars_append, skipSpace_cons (by decide)]
    simp only [stringBody?_flatMap_escapeChar, List.cons_append,
      skipSpace_cons (by decide : isSpace ':' = false)]
    rw [value_compactChars hnumbers.1 (by omega) (by omega), String.ofList_toList]
    rfl
  | cons next more =>
    obtain ⟨nextKey, nextMember⟩ := next
    rw [compactMembers_cons] at hfuel ⊢
    simp only [List.length_append, List.length_cons] at hfuel
    rw [members, List.append_assoc, List.append_assoc, quotedChars_append,
      skipSpace_cons (by decide)]
    simp only [stringBody?_flatMap_escapeChar, List.cons_append,
      skipSpace_cons (by decide : isSpace ':' = false)]
    rw [value_compactChars hnumbers.1 (by omega) (by omega), String.ofList_toList]
    simp only [skipSpace_cons (by decide : isSpace ',' = false)]
    rw [members_compactMembers hnumbers.2 (by omega) (by omega)]
    rfl
termination_by fuel

end

/-! ## More steps and more depth -/

theorem map_eq_ok_of_imp {ε α β : Type} {f : α → β} {first second : Except ε α} {result : β}
    (h : ∀ value, first = .ok value → second = .ok value) (hfirst : first.map f = .ok result) :
    second.map f = .ok result := by
  cases first with
  | error => cases hfirst
  | ok value => rw [h value rfl]; exact hfirst

mutual

/-- What is read is read with more steps and more depth as well. -/
theorem value_mono {fuel more bound deeper : Nat} (hfuel : fuel ≤ more) (hbound : bound ≤ deeper)
    {text : List Char} {result : Json × List Char} (h : value fuel bound text = .ok result) :
    value more deeper text = .ok result := by
  cases fuel with
  | zero => cases h
  | succ fuel =>
    obtain ⟨more, rfl⟩ : ∃ steps, more = steps + 1 := ⟨more - 1, by omega⟩
    rw [value] at h ⊢
    revert h
    split
    case h_5 =>
      cases bound with
      | zero => exact fun h ↦ nomatch h
      | succ bound =>
        obtain ⟨deeper, rfl⟩ : ∃ below, deeper = below + 1 := ⟨deeper - 1, by omega⟩
        dsimp only
        split
        case h_1 => exact id
        case h_2 =>
          exact map_eq_ok_of_imp fun _ ↦ items_mono (by omega) (by omega)
    case h_6 =>
      cases bound with
      | zero => exact fun h ↦ nomatch h
      | succ bound =>
        obtain ⟨deeper, rfl⟩ : ∃ below, deeper = below + 1 := ⟨deeper - 1, by omega⟩
        dsimp only
        split
        case h_1 => exact id
        case h_2 =>
          exact map_eq_ok_of_imp fun _ ↦ members_mono (by omega) (by omega)
    all_goals exact id
termination_by fuel

theorem items_mono {fuel more bound deeper : Nat} (hfuel : fuel ≤ more) (hbound : bound ≤ deeper)
    {text : List Char} {result : List Json × List Char} (h : items fuel bound text = .ok result) :
    items more deeper text = .ok result := by
  cases fuel with
  | zero => cases h
  | succ fuel =>
    obtain ⟨more, rfl⟩ : ∃ steps, more = steps + 1 := ⟨more - 1, by omega⟩
    rw [items] at h ⊢
    cases hvalue : value fuel bound text with
    | error rest => simp [hvalue] at h
    | ok read =>
      rw [hvalue] at h
      rw [value_mono (by omega) hbound hvalue]
      revert h
      dsimp only
      split
      case h_2 => exact map_eq_ok_of_imp fun _ ↦ items_mono (by omega) hbound
      all_goals exact id
termination_by fuel

theorem members_mono {fuel more bound deeper : Nat} (hfuel : fuel ≤ more)
    (hbound : bound ≤ deeper) {text : List Char} {result : List (String × Json) × List Char}
    (h : members fuel bound text = .ok result) : members more deeper text = .ok result := by
  cases fuel with
  | zero => cases h
  | succ fuel =>
    obtain ⟨more, rfl⟩ : ∃ steps, more = steps + 1 := ⟨more - 1, by omega⟩
    rw [members] at h ⊢
    revert h
    split
    case h_2 => exact id
    case h_1 rest _ =>
      split
      case h_1 => exact id
      case h_2 =>
        split
        case h_2 => exact id
        case h_1 rest _ =>
          cases hvalue : value fuel bound rest with
          | error rest => exact fun h ↦ nomatch h
          | ok read =>
            rw [value_mono (by omega) hbound hvalue]
            dsimp only
            split
            case h_2 => exact map_eq_ok_of_imp fun _ ↦ members_mono (by omega) hbound
            all_goals exact id
termination_by fuel

end

/-! ## Less depth -/

theorem depth_number? {text rest : List Char} {json : Json}
    (h : number? text = some (json, rest)) : json.depth = 0 := by
  unfold number? at h
  simp only [Option.bind_eq_bind, Option.bind_eq_some_iff] at h
  obtain ⟨whole, -, fraction, -, exponent, -, h⟩ := h
  grind [depth]

mutual

/-- What is read lies within the bound. -/
theorem depth_le_of_value {fuel bound : Nat} {text rest : List Char} {json : Json}
    (h : value fuel bound text = .ok (json, rest)) : json.depth ≤ bound := by
  cases fuel with
  | zero => cases h
  | succ fuel =>
    rw [value] at h
    revert h
    split
    case h_5 =>
      cases bound with
      | zero => exact fun h ↦ nomatch h
      | succ bound =>
        dsimp only
        split
        case h_1 =>
          rintro ⟨⟩
          exact Nat.le_add_left 1 bound
        case h_2 =>
          rw [map_eq_ok_iff]
          rintro ⟨⟨list, left⟩, hread, ⟨⟩⟩
          exact Nat.succ_le_succ (depthOfItems_le_of_items hread)
    case h_6 =>
      cases bound with
      | zero => exact fun h ↦ nomatch h
      | succ bound =>
        dsimp only
        split
        case h_1 =>
          rintro ⟨⟩
          exact Nat.le_add_left 1 bound
        case h_2 =>
          rw [map_eq_ok_iff]
          rintro ⟨⟨list, left⟩, hread, ⟨⟩⟩
          exact Nat.succ_le_succ (depthOfMembers_le_of_members hread)
    case h_7 =>
      split
      case h_1 result hnumber =>
        rintro ⟨⟩
        rw [depth_number? hnumber]
        exact Nat.zero_le bound
      case h_2 => exact fun h ↦ nomatch h
    case h_4 =>
      split
      case h_1 =>
        rintro ⟨⟩
        exact Nat.zero_le bound
      case h_2 => exact fun h ↦ nomatch h
    all_goals
      rintro ⟨⟩
      exact Nat.zero_le bound
termination_by fuel

theorem depthOfItems_le_of_items {fuel bound : Nat} {text rest : List Char} {list : List Json}
    (h : items fuel bound text = .ok (list, rest)) : depthOfItems list ≤ bound := by
  cases fuel with
  | zero => cases h
  | succ fuel =>
    rw [items] at h
    cases hvalue : value fuel bound text with
    | error rest => simp [hvalue] at h
    | ok read =>
      have hfirst := depth_le_of_value hvalue
      rw [hvalue] at h
      revert h
      dsimp only
      split
      case h_1 =>
        rintro ⟨⟩
        exact Nat.max_le.mpr ⟨hfirst, Nat.zero_le bound⟩
      case h_2 =>
        rw [map_eq_ok_iff]
        rintro ⟨⟨list, left⟩, hread, ⟨⟩⟩
        exact Nat.max_le.mpr ⟨hfirst, depthOfItems_le_of_items hread⟩
      case h_3 => exact fun h ↦ nomatch h
termination_by fuel

theorem depthOfMembers_le_of_members {fuel bound : Nat} {text rest : List Char}
    {list : List (String × Json)} (h : members fuel bound text = .ok (list, rest)) :
    depthOfMembers list ≤ bound := by
  cases fuel with
  | zero => cases h
  | succ fuel =>
    rw [members] at h
    revert h
    split
    case h_2 => exact fun h ↦ nomatch h
    case h_1 rest _ =>
      split
      case h_1 => exact fun h ↦ nomatch h
      case h_2 =>
        split
        case h_2 => exact fun h ↦ nomatch h
        case h_1 rest _ =>
          cases hvalue : value fuel bound rest with
          | error rest => exact fun h ↦ nomatch h
          | ok read =>
            have hfirst := depth_le_of_value hvalue
            dsimp only
            split
            case h_1 =>
              rintro ⟨⟩
              exact Nat.max_le.mpr ⟨hfirst, Nat.zero_le bound⟩
            case h_2 =>
              rw [map_eq_ok_iff]
              rintro ⟨⟨list, left⟩, hread, ⟨⟩⟩
              exact Nat.max_le.mpr ⟨hfirst, depthOfMembers_le_of_members hread⟩
            case h_3 => exact fun h ↦ nomatch h
termination_by fuel

end
/-! ## Whole texts -/

theorem toList_compact (json : Json) : json.compact.toList = json.compactChars :=
  String.toList_ofList

/-- The compact text of a value without numbers is read back. -/
theorem parse_compact {json : Json} (hnumbers : json.isNumberFree = true)
    (hdepth : json.depth ≤ maxDepth) : parse json.compact = .ok json := by
  have hread := value_compactChars hnumbers
    (by omega : json.compactChars.length ≤ 2 * json.compactChars.length + 2) hdepth []
  rw [List.append_nil] at hread
  simp only [parse, toList_compact, hread]
  rfl

/-- What is read from the compact text of a value is that value. -/
theorem eq_of_parse_compact {json read : Json} (hnumbers : json.isNumberFree = true)
    (h : parse json.compact = .ok read) : read = json := by
  simp only [parse, toList_compact] at h
  split at h
  case h_1 => cases h
  case h_2 first rest hread =>
    have hdeep := value_compactChars hnumbers
      (by omega : json.compactChars.length ≤ 2 * json.compactChars.length + 2)
      (Nat.le_max_right maxDepth json.depth) []
    rw [List.append_nil] at hdeep
    rw [value_mono (Nat.le_refl _) (Nat.le_max_left maxDepth json.depth) hread] at hdeep
    cases hdeep
    cases h
    rfl

/-- The compact text is read as long as arrays and objects do not lie too deep. -/
theorem parse_compact_eq_ok_iff {json : Json} (hnumbers : json.isNumberFree = true) :
    parse json.compact = .ok json ↔ json.depth ≤ maxDepth := by
  constructor
  · intro h
    simp only [parse] at h
    split at h
    case h_1 => cases h
    case h_2 first rest hread =>
      split at h
      · cases h
        exact depth_le_of_value hread
      · cases h
  · exact parse_compact hnumbers

end ProviderDocs.Json
