import ProviderDocs.Proofs.Text.Blank
import ProviderDocs.Proofs.Text.Search

/-!
# Lines of a text

A text is cut at its line feeds, and its lines put one below the other make it again. A text
that is written in pieces of whole lines has the lines of the pieces, one piece after the other.
-/

namespace ProviderDocs

/-- No text in the list has a line feed, so each one is a single line. -/
def AreLines (lines : List String) : Prop := ∀ line ∈ lines, '\n' ∉ line.toList

instance (lines : List String) : Decidable (AreLines lines) :=
  inferInstanceAs (Decidable (∀ line ∈ lines, '\n' ∉ line.toList))

theorem AreLines.of_subset {lines more : List String} (h : AreLines more) (hsubset : lines ⊆ more) :
    AreLines lines := fun line hline ↦ h line (hsubset hline)

/-! ## Cutting and joining -/

theorem joinLines_splitLines (text : String) : joinLines (splitLines text) = text := by
  have hfeed : "\n".toList = ['\n'] := rfl
  rw [← String.toList_inj, joinLines, splitLines, String.toList_intercalate, List.map_map, hfeed]
  simp only [Function.comp_def, String.toList_ofList, List.map_id']
  exact List.intercalate_splitOn '\n'

theorem joinLines_singleton (line : String) : joinLines [line] = line :=
  String.intercalate_singleton

theorem joinLines_cons_cons (first second : String) (rest : List String) :
    joinLines (first :: second :: rest) = first ++ "\n" ++ joinLines (second :: rest) := by
  rw [joinLines, String.intercalate_cons_cons, ← joinLines]

/-- The first two lines may be put together beforehand. -/
theorem joinLines_append_cons (first second : String) (rest : List String) :
    joinLines ((first ++ "\n" ++ second) :: rest) = joinLines (first :: second :: rest) := by
  cases rest with
  | nil => rw [joinLines_cons_cons, joinLines_singleton, joinLines_singleton]
  | cons third rest => simp only [joinLines_cons_cons, String.append_assoc]

theorem joinLines_append_singleton {lines : List String} (hne : lines ≠ []) (last : String) :
    joinLines (lines ++ [last]) = joinLines lines ++ "\n" ++ last := by
  induction lines with
  | nil => exact absurd rfl hne
  | cons first rest ih =>
    cases rest with
    | nil =>
      rw [List.singleton_append, joinLines_cons_cons, joinLines_singleton, joinLines_singleton]
    | cons second rest =>
      have hrest := ih (List.cons_ne_nil second rest)
      rw [List.cons_append, List.cons_append, joinLines_cons_cons, ← List.cons_append, hrest,
        joinLines_cons_cons]
      simp only [String.append_assoc]

/-- Lines of which the first and the last are trimmed, and not empty, make a trimmed text. -/
theorem trimmed_joinLines {first last : String} (middle : List String) (hfirst : first ≠ "")
    (hlast : last ≠ "") (htrimFirst : trimmed first = first) (htrimLast : trimmed last = last) :
    trimmed (joinLines (first :: middle ++ [last])) = joinLines (first :: middle ++ [last]) := by
  obtain ⟨behind, hbehind⟩ : ∃ behind, joinLines (first :: middle) = first ++ behind := by
    cases middle with
    | nil => exact ⟨"", by rw [joinLines_singleton, String.append_empty]⟩
    | cons second rest => exact ⟨_, by rw [joinLines_cons_cons, String.append_assoc]⟩
  have hjoin : (joinLines (first :: middle ++ [last])).toList =
      first.toList ++ ((behind ++ "\n").toList ++ last.toList) := by
    rw [joinLines_append_singleton (List.cons_ne_nil first middle), hbehind]
    simp only [String.toList_append, List.append_assoc]
  have htrim {line : String} (h : trimmed line = line) : Text.trim line.toList = line.toList := by
    rw [← toList_trimmed, h]
  have hend := Text.dropBlankEnd_of_trim_eq (htrim htrimLast)
  have hlastNe : last.toList ≠ [] := mt String.toList_eq_nil_iff.mp hlast
  rw [← String.toList_inj, toList_trimmed, hjoin,
    Text.trim_append (mt String.toList_eq_nil_iff.mp hfirst) (htrim htrimFirst),
    Text.dropBlankEnd_append (by rwa [hend]), hend]

theorem trimmed_joinLines_cons_of_blank {line : String} (h : isBlankLine line = true)
    (rest : List String) : trimmed (joinLines (line :: rest)) = trimmed (joinLines rest) := by
  have hblank : line.toList.all Text.isBlank = true := h
  rw [← String.toList_inj, toList_trimmed, toList_trimmed]
  cases rest with
  | nil => rw [joinLines_singleton, (Text.trim_eq_nil_iff _).mpr hblank]; rfl
  | cons second rest =>
    have hfront : (line ++ "\n").toList.all Text.isBlank = true := by
      rw [String.toList_append, List.all_append, hblank]
      decide
    rw [joinLines_cons_cons, String.toList_append, Text.trim_blanks_append hfront]

theorem trimmed_joinLines_append_of_blank {line : String} (h : isBlankLine line = true)
    (lines : List String) : trimmed (joinLines (lines ++ [line])) = trimmed (joinLines lines) := by
  cases lines with
  | nil => exact trimmed_joinLines_cons_of_blank h []
  | cons first rest =>
    have hend : ("\n" ++ line).toList.all Text.isBlank = true := by
      rw [String.toList_append, List.all_append, Bool.and_eq_true]
      exact ⟨by decide, h⟩
    rw [← String.toList_inj, toList_trimmed, toList_trimmed,
      joinLines_append_singleton (List.cons_ne_nil first rest), String.append_assoc,
      String.toList_append, Text.trim_append_blanks _ hend]

theorem exists_splitLines_eq_cons (text : String) :
    ∃ first rest, splitLines text = first :: rest := by
  apply List.exists_cons_of_ne_nil
  rw [splitLines, Ne, List.map_eq_nil_iff]
  exact List.splitOnP_ne_nil _ _

theorem splitLines_joinLines {lines : List String} (hne : lines ≠ []) (h : AreLines lines) :
    splitLines (joinLines lines) = lines := by
  have hfeed : "\n".toList = ['\n'] := rfl
  rw [joinLines, splitLines, String.toList_intercalate, hfeed, Text.splitLines,
    List.splitOn_intercalate]
  · simp [Function.comp_def]
  · exact List.forall_mem_map.mpr h
  · simpa using hne

theorem Text.newline_notMem_of_mem_splitLines {text line : List Char}
    (h : line ∈ Text.splitLines text) : '\n' ∉ line := by
  unfold Text.splitLines List.splitOn at h
  induction text generalizing line with
  | nil =>
    rw [List.splitOnP_nil, List.mem_singleton] at h
    exact h ▸ List.not_mem_nil
  | cons c text ih =>
    rw [List.splitOnP_cons_eq_if_modifyHead] at h
    split at h
    case isTrue =>
      rcases List.mem_cons.mp h with rfl | h
      · exact List.not_mem_nil
      · exact ih h
    case isFalse hc =>
      obtain ⟨first, rest, hsplit⟩ := List.exists_cons_of_ne_nil (List.splitOnP_ne_nil _ text)
      rw [hsplit] at h ih
      rcases List.mem_cons.mp h with rfl | h
      · have hfirst := ih List.mem_cons_self
        simpa [hfirst] using Ne.symm (by simpa using hc)
      · exact ih (List.mem_cons_of_mem _ h)

theorem areLines_splitLines (text : String) : AreLines (splitLines text) := by
  intro line hline
  obtain ⟨piece, hpiece, rfl⟩ := List.mem_map.mp hline
  rw [String.toList_ofList]
  exact Text.newline_notMem_of_mem_splitLines hpiece

theorem Text.infix_intercalate_of_mem {separator piece : List Char} {pieces : List (List Char)}
    (h : piece ∈ pieces) : piece <:+: separator.intercalate pieces := by
  induction pieces with
  | nil => exact absurd h List.not_mem_nil
  | cons first rest ih =>
    cases rest with
    | nil =>
      obtain rfl := List.mem_singleton.mp h
      simp
    | cons second rest =>
      rw [List.intercalate_cons_cons, List.append_assoc]
      rcases List.mem_cons.mp h with rfl | h
      · exact (List.prefix_append ..).isInfix
      · rw [← List.append_assoc]
        exact (ih h).trans (List.suffix_append ..).isInfix

theorem Text.forall_mem_intercalate {p : Char → Prop} {separator : List Char}
    {pieces : List (List Char)} (hseparator : ∀ c ∈ separator, p c)
    (h : ∀ piece ∈ pieces, ∀ c ∈ piece, p c) : ∀ c ∈ separator.intercalate pieces, p c := by
  induction pieces with
  | nil => exact List.forall_mem_nil _
  | cons first rest ih =>
    obtain ⟨hfirst, hrest⟩ := List.forall_mem_cons.mp h
    cases rest with
    | nil => simpa using hfirst
    | cons second rest =>
      rw [List.intercalate_cons_cons, List.append_assoc]
      exact List.forall_mem_append.mpr ⟨hfirst, List.forall_mem_append.mpr ⟨hseparator, ih hrest⟩⟩

/-- What a text is cut into stands in it. -/
theorem Text.infix_of_mem_splitOn {c : Char} {text piece : List Char}
    (h : piece ∈ text.splitOn c) : piece <:+: text := by
  have hjoin : [c].intercalate (text.splitOn c) = text := List.intercalate_splitOn c
  have hpiece : piece <:+: [c].intercalate (text.splitOn c) := infix_intercalate_of_mem h
  rwa [hjoin] at hpiece

/-- What stands in a line of a text stands in the text. -/
theorem contains_of_mem_splitLines {text line pattern : String} (h : line ∈ splitLines text)
    (hfound : contains line pattern = true) : contains text pattern = true := by
  obtain ⟨piece, hpiece, rfl⟩ := List.mem_map.mp h
  rw [contains_iff, String.toList_ofList] at hfound
  exact contains_iff.mpr (hfound.trans (Text.infix_of_mem_splitOn hpiece))

/-- A line is cut off at its line feed. -/
theorem splitLines_line_append {line : String} (h : '\n' ∉ line.toList) (rest : String) :
    splitLines (line ++ "\n" ++ rest) = line :: splitLines rest := by
  have hfeed : "\n".toList = ['\n'] := rfl
  simp only [splitLines, Text.splitLines, String.toList_append, hfeed, List.append_assoc,
    List.singleton_append, List.splitOn_append_cons_self, List.splitOn_eq_singleton h,
    List.map_cons, String.ofList_toList]

/-- What does not go on over the end of a line is found in a line. -/
theorem contains_joinLines {pattern : String} (hne : pattern ≠ "") (hline : '\n' ∉ pattern.toList)
    {lines : List String} (h : ∀ line ∈ lines, contains line pattern = false) :
    contains (joinLines lines) pattern = false := by
  induction lines with
  | nil =>
    have hempty : (joinLines []).toList = [] := rfl
    rw [Bool.eq_false_iff, Ne, contains_iff, hempty, List.infix_nil]
    exact mt String.toList_eq_nil_iff.mp hne
  | cons line rest ih =>
    obtain ⟨hfirst, hrest⟩ := List.forall_mem_cons.mp h
    cases rest with
    | nil => rwa [joinLines_singleton]
    | cons next rest =>
      have hfeed : "\n".toList = ['\n'] := rfl
      rw [joinLines_cons_cons, contains_append_append hfeed hne hline, hfirst, ih hrest,
        Bool.or_false]

/-! ## Lines that are not blank -/

@[simp] theorem isBlankLine_append (front rest : String) :
    isBlankLine (front ++ rest) = (isBlankLine front && isBlankLine rest) := by
  simp [isBlankLine]

/-- The lines that hold more than blank characters. -/
def nonblankLines (lines : List String) : List String := lines.filter (!isBlankLine ·)

@[simp] theorem nonblankLines_nil : nonblankLines [] = [] := rfl

@[simp] theorem nonblankLines_append (lines more : List String) :
    nonblankLines (lines ++ more) = nonblankLines lines ++ nonblankLines more :=
  List.filter_append ..

theorem nonblankLines_cons (line : String) (rest : List String) :
    nonblankLines (line :: rest) = nonblankLines [line] ++ nonblankLines rest := by
  rw [← List.singleton_append, nonblankLines_append]

theorem nonblankLines_cons_of_blank {line : String} (h : isBlankLine line = true)
    (rest : List String) : nonblankLines (line :: rest) = nonblankLines rest := by
  simp [nonblankLines, h]

theorem nonblankLines_cons_of_not_blank {line : String} (h : isBlankLine line = false)
    (rest : List String) : nonblankLines (line :: rest) = line :: nonblankLines rest := by
  simp [nonblankLines, h]

theorem count_eq_count_nonblankLines {line : String} (h : isBlankLine line = false)
    (lines : List String) : lines.count line = (nonblankLines lines).count line := by
  rw [nonblankLines, List.count_filter]
  rw [h, Bool.not_false]

/-! ## Writing whole lines -/

/-- The text consists of whole lines, and these are the ones that are not blank. -/
def Writes (text : String) (lines : List String) : Prop :=
  ∃ all : List String, AreLines all ∧ text = String.join (all.map (· ++ "\n")) ∧
    nonblankLines all = lines

namespace Writes

theorem empty : Writes "" [] := ⟨[], List.forall_mem_nil _, rfl, rfl⟩

theorem append {text more : String} {lines others : List String} (h : Writes text lines)
    (hmore : Writes more others) : Writes (text ++ more) (lines ++ others) := by
  obtain ⟨all, hall, rfl, rfl⟩ := h
  obtain ⟨rest, hrest, rfl, rfl⟩ := hmore
  refine ⟨all ++ rest, List.forall_mem_append.mpr ⟨hall, hrest⟩, ?_, nonblankLines_append ..⟩
  rw [List.map_append, String.join_append]

theorem of_line {line : String} (h : '\n' ∉ line.toList) :
    Writes (line ++ "\n") (nonblankLines [line]) := by
  refine ⟨[line], List.forall_mem_singleton.mpr h, ?_, rfl⟩
  simp

theorem newline : Writes "\n" [] := by
  have hempty : '\n' ∉ "".toList := List.not_mem_nil
  exact of_line hempty

theorem of_lines {lines : List String} (h : AreLines lines) :
    Writes (joinLines lines ++ "\n") (nonblankLines lines) := by
  induction lines with
  | nil => exact newline
  | cons first rest ih =>
    obtain ⟨hfirst, hrest⟩ := List.forall_mem_cons.mp h
    cases rest with
    | nil =>
      rw [joinLines_singleton]
      exact of_line hfirst
    | cons second rest =>
      rw [joinLines_cons_cons, String.append_assoc, nonblankLines_cons]
      exact (of_line hfirst).append (ih hrest)

/-- The lines of the text are those that were written, and an empty one behind the last feed. -/
theorem nonblankLines_splitLines {text : String} {lines : List String} (h : Writes text lines) :
    nonblankLines (splitLines text) = lines := by
  obtain ⟨all, hall, rfl, rfl⟩ := h
  induction all with
  | nil => rfl
  | cons first rest ih =>
    obtain ⟨hfirst, hrest⟩ := List.forall_mem_cons.mp hall
    rw [List.map_cons, String.join_cons, splitLines_line_append hfirst, nonblankLines_cons,
      ih hrest, ← nonblankLines_cons]

end Writes

end ProviderDocs
