import Mathlib.Data.List.TakeWhile
import ProviderDocs.Markdown.Line
import ProviderDocs.Proofs.Text.Blank
import ProviderDocs.Proofs.Text.Search

/-!
# Bullets as they are written

Documents write the bullet of an argument as a marker, the name between backticks, a dash, maybe a
qualifier in brackets, and the description. Such a line is read back with its name and description,
whatever these hold: a description may itself begin with a dash, or with a bracket behind a
qualifier.
-/

namespace ProviderDocs

/-! ## Endings of trimmed lines -/

theorem Text.suffix_append_iff_of_isBlank {c : Char} (hc : isBlank c = false)
    {front : List Char} (hfront : ∀ b ∈ front, isBlank b = true) (ending text : List Char) :
    c :: ending <:+ front ++ text ↔ c :: ending <:+ text := by
  refine ⟨fun h ↦ ?_, fun h ↦ h.trans (List.suffix_append front text)⟩
  rcases List.suffix_or_suffix_of_suffix h (List.suffix_append front text) with
    hshort | ⟨before, hbefore⟩
  · exact hshort
  cases before with
  | nil => exact hbefore ▸ List.suffix_rfl
  | cons b before =>
    -- An ending that goes on over the front would begin with a blank.
    obtain ⟨more, hmore⟩ := h
    obtain ⟨rfl, -⟩ := List.cons.inj hbefore
    rw [← hbefore, ← List.append_assoc] at hmore
    have hmem : b ∈ front := by
      rw [← List.append_cancel_right hmore]
      exact List.mem_append_right _ List.mem_cons_self
    exact absurd (hfront b hmem) (by rw [hc]; decide)

/-- An ending that does not begin with a blank is one of the line without the blanks before it. -/
theorem endsWith_trimmedEnd {ending : String} {c : Char} {rest : List Char}
    (hending : ending.toList = c :: rest) (hc : Text.isBlank c = false) (line : String) :
    endsWith (trimmedEnd line) ending = endsWith (trimmed line) ending := by
  have hsplit : ∃ front : List Char, (∀ b ∈ front, Text.isBlank b = true) ∧
      Text.dropBlankEnd line.toList = front ++ Text.trim line.toList := by
    by_cases hempty : Text.trim line.toList = []
    · refine ⟨[], List.forall_mem_nil _, ?_⟩
      have hblank := (Text.trim_eq_nil_iff _).mp hempty
      have hnone := Text.dropBlankEnd_append_blanks [] hblank
      rw [hempty]
      exact hnone
    · have htrim := Text.dropBlankEnd_append_of_trim_ne hempty []
      exact ⟨_, List.all_eq_true.mp List.all_takeWhile, htrim⟩
  obtain ⟨front, hfront, heq⟩ := hsplit
  rw [endsWith, endsWith, trimmedEnd, trimmed, String.toList_ofList, String.toList_ofList, heq,
    hending, Bool.eq_iff_iff, List.isSuffixOf_iff_suffix, List.isSuffixOf_iff_suffix,
    Text.suffix_append_iff_of_isBlank hc hfront]

namespace Markdown

/-! ## Markers and dashes -/

theorem isBlank_of_isBulletMarker {c : Char} (h : isBulletMarker c = true) :
    Text.isBlank c = false := by
  simp only [isBulletMarker, Bool.or_eq_true, decide_eq_true_eq] at h
  rcases h with (rfl | rfl) | rfl <;> rfl

theorem isBlank_of_isDash {c : Char} (h : isDash c = true) : Text.isBlank c = false := by
  simp only [isDash, Bool.or_eq_true, decide_eq_true_eq] at h
  rcases h with rfl | rfl <;> rfl

theorem bracketed?_of_isDash {c : Char} (h : isDash c = true) (inside : Char → Bool)
    (rest : List Char) : bracketed? inside (c :: rest) = none := by
  simp only [isDash, Bool.or_eq_true, decide_eq_true_eq] at h
  rcases h with rfl | rfl <;> rfl

/-! ## The parts of a bullet -/

theorem bulletHead?_append {indent name : List Char} {marker : Char}
    (hindent : ∀ c ∈ indent, Text.isBlank c = true) (hmarker : isBulletMarker marker = true)
    (hname : ∀ c ∈ name, isNameChar c = true) (rest : List Char) :
    bulletHead? (indent ++ marker :: ' ' :: '`' :: (name ++ '`' :: rest)) = some (name, rest) := by
  have hblank : Text.skipBlanks1? (' ' :: '`' :: (name ++ '`' :: rest)) =
      some ('`' :: (name ++ '`' :: rest)) := rfl
  have hclosed : isNameChar '`' = false := rfl
  rw [bulletHead?, Text.dropBlank, List.dropWhile_append_of_pos hindent, ← Text.dropBlank,
    Text.dropBlank_of_not_blank (isBlank_of_isBulletMarker hmarker)]
  simp only [hmarker, if_true, hblank, Text.span_append hname hclosed]

/-- Between blanks a dash only parts what stands around it. -/
theorem separator?_dash {dash : Char} (hdash : isDash dash = true) {text : List Char}
    (htext : Text.dropBlank text = text) :
    separator? true (dash :: ' ' :: text) = some text := by
  have hskip : Text.skipBlanks1? (' ' :: text) = some text := by
    rw [← htext]
    simp [Text.skipBlanks1?, Text.dropBlank_dropBlank, show Text.isBlank ' ' = true from rfl]
  simp only [separator?, hdash, if_true, hskip]

theorem firstLine_eq_self {text : List Char} (h : '\n' ∉ text) : Text.firstLine text = text :=
  List.takeWhile_eq_self_iff.mpr (Text.ne_of_notMem h)

theorem argumentDescription_bracketed {qualifier description : List Char}
    (hqualifier : ')' ∉ qualifier) (hbegins : Text.dropBlank description = description)
    (hline : '\n' ∉ description) :
    argumentDescription ('(' :: (qualifier ++ ')' :: ' ' :: description)) = description := by
  have hread : bracketed? (· != ')') ('(' :: (qualifier ++ ')' :: ' ' :: description)) =
      some (' ' :: description) := by
    rw [bracketed?, List.dropWhile_append_of_pos (Text.ne_of_notMem hqualifier)]
    rfl
  simp only [argumentDescription, hread]
  rw [Text.dropBlank_space, hbegins, firstLine_eq_self hline]

theorem argumentDescription_of_head? {description : List Char}
    (hbegins : ∀ c ∈ description.head?, c ≠ '(') (hline : '\n' ∉ description) :
    argumentDescription description = description := by
  have hread : bracketed? (· != ')') description = none := by
    unfold bracketed?
    split
    · next rest => exact absurd rfl (hbegins '(' rfl)
    · rfl
  simp only [argumentDescription, hread]
  exact firstLine_eq_self hline

/-! ## Bullets -/

/-- A bullet as documents write it. -/
structure WrittenBullet where
  indent : String
  marker : Char
  name : String
  dash : Char
  /-- What stands in brackets before the description, such as `Optional`. -/
  qualifier : Option String
  description : String
  isBlank_indent : ∀ c ∈ indent.toList, Text.isBlank c = true
  isBulletMarker_marker : isBulletMarker marker = true
  isNameChar_name : ∀ c ∈ name.toList, isNameChar c = true
  isDash_dash : isDash dash = true
  notMem_qualifier : ∀ text ∈ qualifier, ')' ∉ text.toList
  notMem_description : '\n' ∉ description.toList
  /-- The description begins with text, and not like a qualifier when there is none. -/
  begins : ∀ c ∈ description.toList.head?,
    Text.isBlank c = false ∧ (qualifier = none → c ≠ '(')

namespace WrittenBullet

variable (bullet : WrittenBullet)

def qualifierText : String :=
  match bullet.qualifier with
  | some text => "(" ++ text ++ ") "
  | none => ""

def line : String :=
  bullet.indent ++ String.singleton bullet.marker ++ " `" ++ bullet.name ++ "` " ++
    String.singleton bullet.dash ++ " " ++ bullet.qualifierText ++ bullet.description

theorem toList_line : bullet.line.toList =
    bullet.indent.toList ++ bullet.marker :: ' ' :: '`' :: (bullet.name.toList ++ '`' ::
      ' ' :: bullet.dash :: ' ' :: (bullet.qualifierText.toList ++ bullet.description.toList)) := by
  simp [line]

theorem dropBlank_description :
    Text.dropBlank bullet.description.toList = bullet.description.toList := by
  cases hchars : bullet.description.toList with
  | nil => rfl
  | cons c rest => exact Text.dropBlank_of_not_blank (bullet.begins c (by rw [hchars]; rfl)).1 rest

theorem dropBlank_qualified :
    Text.dropBlank (bullet.qualifierText.toList ++ bullet.description.toList) =
      bullet.qualifierText.toList ++ bullet.description.toList := by
  unfold qualifierText
  cases bullet.qualifier with
  | none => exact bullet.dropBlank_description
  | some text => simp [Text.dropBlank_of_not_blank (c := '(') rfl]

theorem argumentDescription_qualified :
    argumentDescription (bullet.qualifierText.toList ++ bullet.description.toList) =
      bullet.description.toList := by
  unfold qualifierText
  cases hqualifier : bullet.qualifier with
  | none =>
    exact argumentDescription_of_head? (fun c hc ↦ (bullet.begins c hc).2 hqualifier)
      bullet.notMem_description
  | some text =>
    have hread := argumentDescription_bracketed (bullet.notMem_qualifier text hqualifier)
      bullet.dropBlank_description bullet.notMem_description
    simpa using hread

theorem argumentBullet?_line :
    argumentBullet? bullet.line.toList =
      some (bullet.name.toList, bullet.description.toList) := by
  have hhead := bulletHead?_append bullet.isBlank_indent bullet.isBulletMarker_marker
    bullet.isNameChar_name (' ' :: bullet.dash :: ' ' ::
      (bullet.qualifierText.toList ++ bullet.description.toList))
  have hdash := Text.dropBlank_of_not_blank (isBlank_of_isDash bullet.isDash_dash)
    (' ' :: (bullet.qualifierText.toList ++ bullet.description.toList))
  have hblanks : blanks (' ' :: bullet.dash :: ' ' ::
      (bullet.qualifierText.toList ++ bullet.description.toList)) =
        (true, bullet.dash :: ' ' ::
          (bullet.qualifierText.toList ++ bullet.description.toList)) := by
    rw [blanks, Text.dropBlank_space, hdash]
    rfl
  rw [argumentBullet?, toList_line, hhead]
  simp only [Option.bind_eq_bind, Option.bind_some, hblanks,
    bracketed?_of_isDash bullet.isDash_dash, Option.bind_none, Option.none_or,
    separator?_dash bullet.isDash_dash bullet.dropBlank_qualified, argumentDescription_qualified]

/-- A written bullet is read back with its name and its description, and it introduces a nested
block exactly when the trimmed line ends with the words for it. -/
theorem ofArguments_line :
    Line.ofArguments bullet.line =
      .bullet bullet.name bullet.description (endsWith (trimmed bullet.line) introEnding) := by
  have hending : introEnding.toList = 's' :: "upports the following:".toList := rfl
  rw [Line.ofArguments, argumentBullet?_line, endsWith_trimmedEnd hending rfl]
  simp only [String.ofList_toList]

/-- A bullet whose description itself begins with a bracket and holds a dash. -/
def acl : WrittenBullet where
  indent := "  "
  marker := '+'
  name := "acl"
  dash := '–'
  qualifier := some "Optional, `Forces new resource`"
  description := "(Deprecated) - The canned ACL."
  isBlank_indent := List.all_eq_true.mp rfl
  isBulletMarker_marker := rfl
  isNameChar_name := List.all_eq_true.mp rfl
  isDash_dash := rfl
  notMem_qualifier := by decide +kernel
  notMem_description := by decide +kernel
  begins c hc := by
    obtain rfl : '(' = c := Option.some.inj hc
    exact ⟨rfl, nofun⟩

example : acl.line =
    "  + `acl` – (Optional, `Forces new resource`) (Deprecated) - The canned ACL." := by
  decide +kernel

end WrittenBullet

end Markdown

end ProviderDocs
