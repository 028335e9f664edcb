import ProviderDocs.Cleanup.Link
import ProviderDocs.Proofs.Dict
import ProviderDocs.Proofs.Text.Blank
import ProviderDocs.Proofs.Text.Lines

/-!
# Footer links

Footer links are defined line by line: a label, a colon, a blank and the target, which is the next
line when the definition ends behind the colon.
-/

namespace ProviderDocs

namespace Cleanup

/-- What stands behind a line: nothing, or a line feed and more. -/
def BehindLine (text : List Char) : Prop := ∀ c ∈ text.head?, c = '\n'

theorem behindLine_nil : BehindLine [] := nofun

theorem behindLine_newline (more : List Char) : BehindLine ('\n' :: more) := by
  rintro c ⟨⟩
  rfl

/-- Lines put one below the other begin with the first one. -/
theorem exists_behindLine (line : String) (rest : List String) :
    ∃ tail, BehindLine tail ∧ (joinLines (line :: rest)).toList = line.toList ++ tail ∧
      tail.tail = (joinLines rest).toList := by
  cases rest with
  | nil => exact ⟨[], behindLine_nil, by simp [joinLines_singleton], rfl⟩
  | cons next rest =>
    exact ⟨'\n' :: (joinLines (next :: rest)).toList, behindLine_newline _,
      by simp [joinLines_cons_cons], rfl⟩

theorem firstLine_line_append {line tail : List Char} (h : '\n' ∉ line) (htail : BehindLine tail) :
    Text.firstLine (line ++ tail) = line ∧ (line ++ tail).dropWhile (· != '\n') = tail := by
  have hline := Text.ne_of_notMem h
  rw [Text.firstLine, List.takeWhile_append_of_pos hline, List.dropWhile_append_of_pos hline]
  cases tail with
  | nil => simp
  | cons c more =>
    obtain rfl : c = '\n' := htail c rfl
    simp

/-- What holds no line feed and begins a line with more behind it ends in the line. -/
theorem exists_line_eq_append {line tail front rest : List Char} (h : '\n' ∉ front)
    (htail : BehindLine tail) (htext : line ++ tail = front ++ rest) :
    ∃ behind, line = front ++ behind := by
  rcases List.append_eq_append_iff.mp htext with ⟨behind, hfront, hrest⟩ | ⟨behind, hline, -⟩
  · cases behind with
    | nil => exact ⟨[], by simpa using hfront.symm⟩
    | cons c behind =>
      have hc : c = '\n' := htail c (by rw [hrest]; rfl)
      exact absurd (hfront ▸ List.mem_append_right _ (hc ▸ List.mem_cons_self)) h
  · exact ⟨behind, hline⟩

/-! ## Numbers in brackets -/

section Number

variable {isDigit : Char → Bool} (hbracket : isDigit ']' = false)

include hbracket

theorem bracketNumber?_eq_some_iff {text label rest : List Char} :
    bracketNumber? isDigit text = some (label, rest) ↔
      ∃ digits, digits ≠ [] ∧ (∀ c ∈ digits, isDigit c = true) ∧
        label = '[' :: digits ++ [']'] ∧ text = label ++ rest := by
  constructor
  · intro h
    unfold bracketNumber? at h
    split at h
    · next behind =>
      split at h
      · next digits _ hspan =>
        cases h
        obtain ⟨hne, hall, rfl⟩ := Text.eq_append_of_span1? hspan
        exact ⟨digits, hne, hall, rfl, by simp⟩
      · cases h
    · cases h
  · rintro ⟨digits, hne, hall, rfl, rfl⟩
    have hspan := Text.span1?_append hall hne hbracket rest
    simp [bracketNumber?, hspan]

variable (hfeed : isDigit '\n' = false)

include hfeed

/-- A number is read within a line. -/
theorem bracketNumber?_line_append {line tail : List Char} (h : '\n' ∉ line)
    (htail : BehindLine tail) :
    bracketNumber? isDigit (line ++ tail) =
      (bracketNumber? isDigit line).map fun (label, rest) ↦ (label, rest ++ tail) := by
  have hfound := @bracketNumber?_eq_some_iff isDigit hbracket
  cases hline : bracketNumber? isDigit line with
  | some found =>
    obtain ⟨label, rest⟩ := found
    obtain ⟨digits, hne, hall, hlabel, rfl⟩ := hfound.mp hline
    exact hfound.mpr ⟨digits, hne, hall, hlabel, List.append_assoc ..⟩
  | none =>
    rw [Option.map_none, Option.eq_none_iff_forall_ne_some]
    rintro ⟨label, rest⟩ hlong
    obtain ⟨digits, hne, hall, hlabel, htext⟩ := hfound.mp hlong
    have hin : '\n' ∉ label := by
      simpa [hlabel] using Text.notMem_of_class hall hfeed
    obtain ⟨behind, rfl⟩ := exists_line_eq_append hin htail htext
    exact Option.some_ne_none _ ((hfound.mpr ⟨digits, hne, hall, hlabel, rfl⟩).symm.trans hline)

end Number

/-! ## Definitions by line -/

/-- The label that a line defines and its target, unless that is the next line. -/
def lineDefinition? (line : List Char) : Option (List Char × Option (List Char)) :=
  match bracketNumber? Text.isDecimalDigit line with
  | some (label, [':']) => some (label, none)
  | some (label, ':' :: c :: target) => if Text.isBlank c then some (label, some target) else none
  | _ => none

/-- A line that defines something begins with a label and a colon. -/
theorem exists_number_of_lineDefinition? {line label : List Char} {target : Option (List Char)}
    (h : lineDefinition? line = some (label, target)) :
    ∃ rest, bracketNumber? Text.isDecimalDigit line = some (label, ':' :: rest) := by
  unfold lineDefinition? at h
  split at h
  · cases h
    exact ⟨_, ‹_›⟩
  · split at h
    · cases h
      exact ⟨_, ‹_›⟩
    · cases h
  · cases h

theorem linkDefinition?_line_append {line tail : List Char} (h : '\n' ∉ line)
    (htail : BehindLine tail) :
    linkDefinition? (line ++ tail) =
      match lineDefinition? line, tail with
      | some (label, some target), tail => some ((label, target), tail)
      | some (label, none), _ :: more =>
        some ((label, Text.firstLine more), more.dropWhile (· != '\n'))
      | _, _ => none := by
  have hnumber : bracketNumber? Text.isDecimalDigit (line ++ tail) =
      (bracketNumber? Text.isDecimalDigit line).map fun (label, rest) ↦ (label, rest ++ tail) :=
    bracketNumber?_line_append rfl rfl h htail
  unfold linkDefinition? lineDefinition?
  rw [hnumber]
  cases hline : bracketNumber? Text.isDecimalDigit line with
  | none => rfl
  | some found =>
    obtain ⟨label, rest⟩ := found
    obtain ⟨digits, -, -, -, rfl⟩ := (bracketNumber?_eq_some_iff rfl).mp hline
    rcases rest with _ | ⟨colon, _ | ⟨c, target⟩⟩
    · cases tail with
      | nil => rfl
      | cons c more =>
        obtain rfl : c = '\n' := htail c rfl
        rfl
    · by_cases hcolon : colon = ':'
      · subst hcolon
        cases tail with
        | nil => rfl
        | cons c more =>
          obtain rfl : c = '\n' := htail c rfl
          rfl
      · simp [hcolon]
    · by_cases hcolon : colon = ':'
      · subst hcolon
        have htarget : '\n' ∉ target := fun hmem ↦ h (by simp [hmem])
        obtain ⟨hfirst, hlast⟩ := firstLine_line_append htarget htail
        cases hblank : Text.isBlank c with
        | true => simp [hblank, hfirst, hlast]
        | false => simp [hblank]
      · simp [hcolon]

/-- The footer links that lines define. -/
def linksOfLines : List String → List (String × String)
  | [] => []
  | line :: rest =>
    match lineDefinition? line.toList with
    | none => linksOfLines rest
    | some (label, some target) => (String.ofList label, String.ofList target) :: linksOfLines rest
    | some (label, none) =>
      match rest with
      | [] => []
      | target :: rest => (String.ofList label, target) :: linksOfLines rest

theorem footerLinksFrom_behindLine {tail : List Char} (h : BehindLine tail) (atLineStart : Bool) :
    footerLinksFrom atLineStart tail = footerLinksFrom true tail.tail := by
  cases tail with
  | nil => simp only [footerLinksFrom, List.tail_nil]
  | cons c more =>
    obtain rfl : c = '\n' := h c rfl
    have hnone : linkDefinition? ('\n' :: more) = none := rfl
    rw [footerLinksFrom, hnone, ite_self]
    rfl

/-- Behind the start of a line nothing is defined up to the next one. -/
theorem footerLinksFrom_false_line {line tail : List Char} (h : '\n' ∉ line)
    (htail : BehindLine tail) :
    footerLinksFrom false (line ++ tail) = footerLinksFrom true tail.tail := by
  induction line with
  | nil => exact footerLinksFrom_behindLine htail false
  | cons c line ih =>
    obtain ⟨hc, hline⟩ := not_or.mp (mt List.mem_cons.mpr h)
    have hfeed : decide (c = '\n') = false := decide_eq_false (Ne.symm hc)
    rw [List.cons_append, footerLinksFrom]
    simp only [Bool.false_eq_true, if_false, hfeed]
    exact ih hline

theorem footerLinksFrom_of_none {line tail : List Char} (h : '\n' ∉ line)
    (htail : BehindLine tail) (hnone : linkDefinition? (line ++ tail) = none) :
    footerLinksFrom true (line ++ tail) = footerLinksFrom true tail.tail := by
  cases line with
  | nil => exact footerLinksFrom_behindLine htail true
  | cons c line =>
    obtain ⟨hc, hline⟩ := not_or.mp (mt List.mem_cons.mpr h)
    have hfeed : decide (c = '\n') = false := decide_eq_false (Ne.symm hc)
    rw [List.cons_append] at hnone ⊢
    rw [footerLinksFrom]
    simp only [if_true, hnone, hfeed]
    exact footerLinksFrom_false_line hline htail

theorem footerLinksFrom_of_some {text rest : List Char} {link : List Char × List Char}
    (h : linkDefinition? text = some (link, rest)) (hlength : rest.length < text.length)
    (hrest : BehindLine rest) :
    footerLinksFrom true text = link :: footerLinksFrom true rest.tail := by
  cases text with
  | nil => cases hlength
  | cons c text =>
    have hle : rest.length ≤ text.length := Nat.le_of_lt_succ hlength
    rw [footerLinksFrom]
    simp only [if_true, h, hle, dif_pos, footerLinksFrom_behindLine hrest]

section Line

variable {line tail label target : List Char} (hline : '\n' ∉ line) (htail : BehindLine tail)

include hline htail

theorem footerLinksFrom_line_of_none (h : lineDefinition? line = none) :
    footerLinksFrom true (line ++ tail) = footerLinksFrom true tail.tail := by
  have hdefinition := linkDefinition?_line_append hline htail
  rw [h] at hdefinition
  exact footerLinksFrom_of_none hline htail hdefinition

theorem footerLinksFrom_line_of_some (h : lineDefinition? line = some (label, some target)) :
    footerLinksFrom true (line ++ tail) = (label, target) :: footerLinksFrom true tail.tail := by
  have hdefinition := linkDefinition?_line_append hline htail
  rw [h] at hdefinition
  refine footerLinksFrom_of_some hdefinition ?_ htail
  have hne : line ≠ [] := by
    rintro rfl
    cases h
  have hpos := List.length_pos_iff.mpr hne
  rw [List.length_append]
  omega

/-- A definition that its line leaves open goes on to the end of the next one. -/
theorem footerLinksFrom_line_of_open (h : lineDefinition? line = some (label, none))
    (htarget : '\n' ∉ target) :
    footerLinksFrom true (line ++ '\n' :: (target ++ tail)) =
      (label, target) :: footerLinksFrom true tail.tail := by
  obtain ⟨hfirst, hlast⟩ := firstLine_line_append htarget htail
  have hdefinition := linkDefinition?_line_append hline (behindLine_newline (target ++ tail))
  simp only [h, hfirst, hlast] at hdefinition
  refine footerLinksFrom_of_some hdefinition ?_ htail
  simp only [List.length_append, List.length_cons]
  omega

end Line

theorem map_footerLinksFrom_joinLines {lines : List String} (h : AreLines lines) :
    (footerLinksFrom true (joinLines lines).toList).map
        (fun link ↦ (String.ofList link.1, String.ofList link.2)) =
      linksOfLines lines := by
  fun_induction linksOfLines lines with
  | case1 =>
    have hempty : (joinLines []).toList = [] := rfl
    rw [hempty, footerLinksFrom, List.map_nil]
  | case2 line rest hnone ih =>
    obtain ⟨hline, hrest⟩ := List.forall_mem_cons.mp h
    obtain ⟨tail, htail, htext, hmore⟩ := exists_behindLine line rest
    rw [htext, footerLinksFrom_line_of_none hline htail hnone, hmore, ih hrest]
  | case3 line rest label target hsome ih =>
    obtain ⟨hline, hrest⟩ := List.forall_mem_cons.mp h
    obtain ⟨tail, htail, htext, hmore⟩ := exists_behindLine line rest
    rw [htext, footerLinksFrom_line_of_some hline htail hsome, hmore, List.map_cons, ih hrest]
  | case4 line label hsome =>
    -- There is no next line for the target.
    have hline := List.forall_mem_singleton.mp h
    have hdefinition := linkDefinition?_line_append hline behindLine_nil
    rw [hsome] at hdefinition
    have hskip := footerLinksFrom_of_none hline behindLine_nil hdefinition
    rw [List.append_nil] at hskip
    rw [joinLines_singleton, hskip, List.tail_nil, footerLinksFrom, List.map_nil]
  | case5 line label hsome target rest ih =>
    obtain ⟨hline, htarget, hrest⟩ :
        '\n' ∉ line.toList ∧ '\n' ∉ target.toList ∧ AreLines rest := by
      simpa only [AreLines, List.forall_mem_cons] using h
    obtain ⟨tail, htail, htext, hmore⟩ := exists_behindLine target rest
    have hlines : (joinLines (line :: target :: rest)).toList =
        line.toList ++ '\n' :: (target.toList ++ tail) := by
      simp [joinLines_cons_cons, ← htext]
    rw [hlines, footerLinksFrom_line_of_open hline htail hsome htarget, hmore, List.map_cons,
      ih hrest, String.ofList_toList]

/-- The footer links of a document are those that its lines define. -/
theorem linkTargets_joinLines {lines : List String} (h : AreLines lines) :
    linkTargets (joinLines lines) = Dict.ofList (linksOfLines lines) :=
  congrArg Dict.ofList (map_footerLinksFrom_joinLines h)

end Cleanup

end ProviderDocs
