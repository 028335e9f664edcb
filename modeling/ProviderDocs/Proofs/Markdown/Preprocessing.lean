import ProviderDocs.Markdown.Section
import ProviderDocs.Proofs.Text.Lines
import ProviderDocs.Proofs.Text.Removal

/-!
# Preprocessing of a document

Line ends become line feeds in one pass over a document, and generator markers go in another. What
one of the passes leaves side by side is not looked at again: a carriage return comes to stand
before a line feed where a whole line end stood behind it, or markers stood between the two, and a
marker comes together where others cut it into pieces. In every other document nothing is left for
preprocessing.
-/

namespace ProviderDocs.Markdown

open Text

/-- A text with nothing to preprocess. -/
@[mk_iff]
structure IsPlain (text : String) : Prop where
  lineEnds : contains text "\r\n" = false
  markers : contains text generatorMarker = false

/-- Markers, one behind the other. -/
def markers (count : Nat) : String := String.join (List.replicate count generatorMarker)

/-- A carriage return stands before a line end, with nothing or markers between the two, or before
a line feed behind markers. -/
def JoinsLineEnd (text : String) : Prop :=
  ∃ count, contains text ("\r" ++ markers count ++ "\r\n") = true ∨
    0 < count ∧ contains text ("\r" ++ markers count ++ "\n") = true

/-- Markers cut a marker into pieces. -/
def JoinsMarker (text : String) : Prop := HoldsSplit generatorMarker.toList text.toList

theorem toList_markers (count : Nat) :
    (markers count).toList = (List.replicate count generatorMarker.toList).flatten := by
  rw [markers, String.toList_join, List.flatMap_def, List.map_replicate]

/-- A marker has its opening bracket at its front only. -/
theorem exists_generatorMarker_eq :
    ∃ tail, generatorMarker.toList = '<' :: tail ∧ '<' ∉ tail :=
  ⟨_, rfl, by decide⟩

theorem generatorMarker_ne_nil : generatorMarker.toList ≠ [] := by decide

theorem toList_lineEnd : "\r\n".toList = ['\r', '\n'] := rfl

theorem return_notMem_generatorMarker : '\r' ∉ generatorMarker.toList := by decide

theorem newline_notMem_generatorMarker : '\n' ∉ generatorMarker.toList := by decide

theorem notMem_flatten_replicate {c : Char} {text : List Char} (h : c ∉ text) (count : Nat) :
    c ∉ (List.replicate count text).flatten := by
  intro hmem
  obtain ⟨piece, hpiece, hc⟩ := List.mem_flatten.mp hmem
  exact h (List.eq_of_mem_replicate hpiece ▸ hc)

theorem toList_withoutMarkers (text : String) : (withoutMarkers text).toList =
    replaceAll generatorMarker.toList [] (replaceAll ['\r', '\n'] ['\n'] text.toList) := by
  rw [withoutMarkers, toList_replaced, toList_replaced]
  rfl

/-! ## What is left -/

/-- A line end is left where the passes join one. -/
theorem contains_lineEnd_withoutMarkers_iff (text : String) :
    contains (withoutMarkers text) "\r\n" = true ↔ JoinsLineEnd text := by
  have hreturn (count : Nat) := notMem_flatten_replicate return_notMem_generatorMarker count
  have hnewline (count : Nat) := notMem_flatten_replicate newline_notMem_generatorMarker count
  rw [contains_iff, toList_withoutMarkers, toList_lineEnd,
    pair_infix_replaceAll_nil_iff generatorMarker_ne_nil return_notMem_generatorMarker
      newline_notMem_generatorMarker]
  refine exists_congr fun count ↦ ?_
  rw [infix_replaceAll_pair_iff (by decide) (hreturn count) (hnewline count), contains_iff,
    contains_iff]
  have hpos : (List.replicate count generatorMarker.toList).flatten ≠ [] ↔ 0 < count := by
    cases count with
    | zero => simp
    | succ count =>
      rw [List.replicate_succ, List.flatten_cons]
      exact iff_of_true (List.append_ne_nil_of_left_ne_nil generatorMarker_ne_nil _) count.succ_pos
  have hfirst : "\r".toList = ['\r'] := rfl
  have hlast : "\n".toList = ['\n'] := rfl
  simp only [String.toList_append, toList_markers, hpos, hfirst, hlast, toList_lineEnd,
    List.cons_append, List.nil_append]

example : contains (withoutMarkers ("a\r" ++ generatorMarker ++ "\nb")) "\r\n" = true := by
  decide +kernel

/-- A marker has no part in a line end, so line ends go from between markers only. -/
theorem holdsSplit_replaceAll_lineEnds (text : List Char) :
    HoldsSplit generatorMarker.toList (replaceAll ['\r', '\n'] ['\n'] text) ↔
      HoldsSplit generatorMarker.toList text := by
  refine exists_congr fun pieces ↦ and_congr_right fun _ ↦ and_congr_right fun _ ↦
    and_congr_right fun _ ↦ and_congr_right fun hflatten ↦ ?_
  have hchars : ∀ c ∈ generatorMarker.toList.intercalate pieces, c ∈ generatorMarker.toList := by
    refine forall_mem_intercalate (fun _ hc ↦ hc) fun piece hpiece c hc ↦ ?_
    exact hflatten ▸ List.mem_flatten.mpr ⟨piece, hpiece, hc⟩
  have hline : ∀ c ∈ ['\r', '\n'], c ∉ generatorMarker.toList :=
    List.forall_mem_cons.mpr ⟨return_notMem_generatorMarker,
      List.forall_mem_singleton.mpr newline_notMem_generatorMarker⟩
  exact infix_replaceAll_iff_of_disjoint (fun c hc hmem ↦ hline c hmem (hchars c hc))
    fun hmem ↦ newline_notMem_generatorMarker (hchars _ hmem)

/-- A marker is left where others cut it into pieces. -/
theorem contains_marker_withoutMarkers_iff (text : String) :
    contains (withoutMarkers text) generatorMarker = true ↔ JoinsMarker text := by
  obtain ⟨tail, hmarker, hopen⟩ := exists_generatorMarker_eq
  rw [contains_iff, toList_withoutMarkers, JoinsMarker, ← holdsSplit_replaceAll_lineEnds, hmarker,
    infix_replaceAll_nil_iff hopen]

example : contains (withoutMarkers ("<!-- schema gen" ++ generatorMarker ++
    "erated by tfplugindocs -->")) generatorMarker = true := by
  decide +kernel

/-- Only a text with nothing to preprocess stays as it is. -/
theorem withoutMarkers_eq_self_iff {text : String} : withoutMarkers text = text ↔ IsPlain text := by
  rw [isPlain_iff, ← Bool.not_eq_true, ← Bool.not_eq_true, contains_iff, contains_iff,
    toList_lineEnd, ← String.toList_inj, toList_withoutMarkers]
  constructor
  · intro h
    have hlineEnds : ¬ ['\r', '\n'] <:+: text.toList := by
      -- Once a line end became shorter, the second pass cannot bring the length back.
      intro hfound
      have hlt : (replaceAll ['\r', '\n'] ['\n'] text.toList).length < text.toList.length :=
        length_replaceAll_lt (by decide) hfound
      have hle : (replaceAll generatorMarker.toList [] _).length ≤
          (replaceAll ['\r', '\n'] ['\n'] text.toList).length :=
        length_replaceAll_le generatorMarker_ne_nil (Nat.zero_le _) _
      rw [h] at hle
      exact Nat.not_lt_of_le hle hlt
    rw [replaceAll_eq_self hlineEnds, replaceAll_eq_self_iff (by decide)] at h
    exact ⟨hlineEnds, h⟩
  · rintro ⟨hlineEnds, hmarkers⟩
    rw [replaceAll_eq_self hlineEnds, replaceAll_eq_self hmarkers]

/-- Preprocessing leaves nothing to preprocess, and does nothing more when repeated, unless a
carriage return and a line feed or the pieces of a marker come together. -/
theorem isPlain_withoutMarkers_iff (text : String) :
    (IsPlain (withoutMarkers text) ↔ ¬ JoinsLineEnd text ∧ ¬ JoinsMarker text) ∧
      (withoutMarkers (withoutMarkers text) = withoutMarkers text ↔
        ¬ JoinsLineEnd text ∧ ¬ JoinsMarker text) := by
  have hplain : IsPlain (withoutMarkers text) ↔ ¬ JoinsLineEnd text ∧ ¬ JoinsMarker text := by
    rw [← contains_lineEnd_withoutMarkers_iff, ← contains_marker_withoutMarkers_iff,
      Bool.not_eq_true, Bool.not_eq_true]
    exact isPlain_iff _
  exact ⟨hplain, withoutMarkers_eq_self_iff.trans hplain⟩

/-- Of a line end behind a carriage return only the carriage return between the two goes, and a line
end is left. -/
theorem not_isPlain_withoutMarkers :
    ¬ IsPlain (withoutMarkers "a\r\r\nb") ∧
      withoutMarkers (withoutMarkers "a\r\r\nb") ≠ withoutMarkers "a\r\r\nb" := by
  constructor
  · intro h
    exact absurd h.lineEnds (by decide +kernel)
  · decide +kernel

end ProviderDocs.Markdown
