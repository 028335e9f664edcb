import ProviderDocs.Proofs.Text.Substitute

/-!
# Replacing text

Occurrences of a pattern are replaced from left to right. A character that is not in the pattern
keeps what stands on its two sides apart, so a text may be cut there before its pieces are
replaced.
-/

namespace ProviderDocs

namespace Text

section Steps

variable {pattern replacement : List Char}

@[simp] theorem replaceAll_nil : replaceAll pattern replacement [] = [] := by
  rw [replaceAll, substitute]

theorem replaceAll_cons_of_no_match {c : Char} {text : List Char}
    (h : ¬ pattern <+: c :: text) :
    replaceAll pattern replacement (c :: text) = c :: replaceAll pattern replacement text := by
  have hnone : after? pattern (c :: text) = none := by
    rwa [← Option.not_isSome_iff_eq_none, isSome_after?_iff]
  rw [replaceAll, substitute, hnone]
  rfl

theorem replaceAll_append_self (hne : pattern ≠ []) (rest : List Char) :
    replaceAll pattern replacement (pattern ++ rest) =
      replacement ++ replaceAll pattern replacement rest := by
  obtain ⟨p, tail, rfl⟩ := List.exists_cons_of_ne_nil hne
  have hfound : after? (p :: tail) (p :: (tail ++ rest)) = some rest := after?_append ..
  have hle : rest.length ≤ (tail ++ rest).length := by simp
  rw [replaceAll, List.cons_append, substitute, hfound]
  exact dif_pos hle

/-- A text is read from occurrence to occurrence of a pattern. -/
@[elab_as_elim]
theorem occurrence_induction (hne : pattern ≠ []) {motive : List Char → Prop} (nil : motive [])
    (cons : ∀ c text, ¬ pattern <+: c :: text → motive text → motive (c :: text))
    (found : ∀ rest, motive rest → motive (pattern ++ rest)) (text : List Char) :
    motive text := by
  induction hlength : text.length using Nat.strongRecOn generalizing text with
  | ind length ih =>
    subst hlength
    by_cases hbegins : pattern <+: text
    · obtain ⟨rest, rfl⟩ := hbegins
      have hpos := List.length_pos_iff.mpr hne
      exact found rest (ih rest.length (by rw [List.length_append]; omega) rest rfl)
    · cases text with
      | nil => exact nil
      | cons c text => exact cons c text hbegins (ih text.length (Nat.lt_succ_self _) text rfl)

end Steps

/-! ## Cutting a text -/

section Cutting

variable {pattern : List Char} (replacement : List Char)

theorem replaceAll_append_cons (hne : pattern ≠ []) {c : Char} (h : c ∉ pattern)
    (front rest : List Char) :
    replaceAll pattern replacement (front ++ c :: rest) =
      replaceAll pattern replacement front ++ c :: replaceAll pattern replacement rest := by
  induction front using occurrence_induction hne with
  | nil =>
    have hover : ¬ pattern <+: c :: rest :=
      fun hbegins ↦ hne (List.prefix_nil.mp ((prefix_append_cons_iff h [] rest).mp hbegins))
    rw [List.nil_append, replaceAll_cons_of_no_match hover, replaceAll_nil, List.nil_append]
  | cons b front hbegins ih =>
    have hover : ¬ pattern <+: b :: (front ++ c :: rest) :=
      mt (prefix_append_cons_iff h (b :: front) rest).mp hbegins
    rw [List.cons_append, replaceAll_cons_of_no_match hover, ih,
      replaceAll_cons_of_no_match hbegins, List.cons_append]
  | found front ih =>
    rw [List.append_assoc, replaceAll_append_self hne, ih, replaceAll_append_self hne,
      List.append_assoc]

/-- Nothing is replaced before the first character with which the pattern begins. -/
theorem replaceAll_append_of_notMem {p : Char} {front : List Char} (h : p ∉ front)
    (rest : List Char) :
    replaceAll (p :: pattern) replacement (front ++ rest) =
      front ++ replaceAll (p :: pattern) replacement rest := by
  induction front with
  | nil => rfl
  | cons b front ih =>
    obtain ⟨hb, hfront⟩ := List.ne_and_not_mem_of_not_mem_cons h
    have hbegins : ¬ p :: pattern <+: b :: (front ++ rest) :=
      fun hbegins ↦ hb (List.cons_prefix_cons.mp hbegins).1
    rw [List.cons_append, replaceAll_cons_of_no_match hbegins, ih hfront, List.cons_append]

theorem prefix_intercalate (separator first : List Char) (rest : List (List Char)) :
    first <+: separator.intercalate (first :: rest) := by
  cases rest with
  | nil => exact List.intercalate_singleton ▸ List.prefix_rfl
  | cons second rest =>
    rw [List.intercalate_cons_cons, List.append_assoc]
    exact List.prefix_append _ _

/-- The pieces of a text between occurrences of a pattern hold none, and they stay when something
else is put for the occurrences. -/
theorem exists_pieces_of_replaceAll (hne : pattern ≠ []) (text : List Char) :
    ∃ first rest, text = pattern.intercalate (first :: rest) ∧
      replaceAll pattern replacement text = replacement.intercalate (first :: rest) ∧
      ∀ piece ∈ first :: rest, ¬ pattern <:+: piece := by
  induction text using occurrence_induction hne with
  | nil =>
    have hnone : ¬ pattern <:+: [] := mt List.infix_nil.mp hne
    exact ⟨[], [], rfl, replaceAll_nil, List.forall_mem_singleton.mpr hnone⟩
  | cons c text hbegins ih =>
    obtain ⟨first, rest, htext, hreplaced, hpieces⟩ := ih
    obtain ⟨hfirst, hrest⟩ := List.forall_mem_cons.mp hpieces
    have hbelow : first <+: text := htext ▸ prefix_intercalate pattern first rest
    have hfront : ¬ pattern <+: c :: first := fun hfound ↦
      hbegins (hfound.trans (List.cons_prefix_cons.mpr ⟨rfl, hbelow⟩))
    refine ⟨c :: first, rest, ?_, ?_, List.forall_mem_cons.mpr ⟨?_, hrest⟩⟩
    · rw [List.intercalate_cons_cons_left, ← htext]
    · rw [replaceAll_cons_of_no_match hbegins, hreplaced, List.intercalate_cons_cons_left]
    · rw [List.infix_cons_iff, not_or]
      exact ⟨hfront, hfirst⟩
  | found text ih =>
    obtain ⟨first, rest, htext, hreplaced, hpieces⟩ := ih
    have hnone : ¬ pattern <:+: [] := mt List.infix_nil.mp hne
    refine ⟨[], first :: rest, ?_, ?_, List.forall_mem_cons.mpr ⟨hnone, hpieces⟩⟩
    · rw [List.intercalate_cons_cons, List.nil_append, ← htext]
    · rw [replaceAll_append_self hne, hreplaced, List.intercalate_cons_cons, List.nil_append]

end Cutting

/-! ## Occurrences as pieces -/

section Occurrence

variable {pattern replacement : List Char}

/-- Reads an occurrence of a pattern. -/
def occurrence? (pattern replacement text : List Char) : Option (List Char × List Char) :=
  (after? pattern text).map (replacement, ·)

theorem occurrence?_eq_some_iff {text put rest : List Char} :
    occurrence? pattern replacement text = some (put, rest) ↔
      put = replacement ∧ text = pattern ++ rest := by
  rw [occurrence?, Option.map_eq_some_iff]
  constructor
  · rintro ⟨rest, hrest, ⟨⟩⟩
    exact ⟨rfl, after?_eq_some_iff.mp hrest⟩
  · rintro ⟨rfl, htext⟩
    exact ⟨rest, after?_eq_some_iff.mpr htext, rfl⟩

theorem readsFront_occurrence? (hne : pattern ≠ []) :
    ReadsFront (occurrence? pattern replacement) := by
  intro text put rest h
  exact ⟨pattern, hne, (occurrence?_eq_some_iff.mp h).2⟩

/-- A character that is in neither the pattern nor what is put for it stands where it stood. -/
theorem exists_eq_append_cons_of_replaceAll (hne : pattern ≠ []) {c : Char} (hc : c ∉ replacement)
    {text front rest : List Char} (h : replaceAll pattern replacement text = front ++ c :: rest) :
    ∃ before behind, text = before ++ c :: behind ∧
      replaceAll pattern replacement behind = rest := by
  induction text using occurrence_induction hne generalizing front with
  | nil => simp at h
  | cons b text hbegins ih =>
    rw [replaceAll_cons_of_no_match hbegins] at h
    cases front with
    | nil =>
      obtain ⟨rfl, hrest⟩ := List.cons.inj h
      exact ⟨[], text, rfl, hrest⟩
    | cons d front =>
      obtain ⟨before, behind, rfl, hbehind⟩ := ih (List.cons.inj h).2
      exact ⟨b :: before, behind, rfl, hbehind⟩
  | found text ih =>
    rw [replaceAll_append_self hne] at h
    rcases List.append_eq_append_iff.mp h with ⟨more, -, htext⟩ | ⟨more, hput, htext⟩
    · obtain ⟨before, behind, rfl, hbehind⟩ := ih htext
      exact ⟨pattern ++ before, behind, (List.append_assoc ..).symm, hbehind⟩
    · cases more with
      | nil =>
        have hrest : replaceAll pattern replacement text = [] ++ c :: rest := htext.symm
        obtain ⟨before, behind, rfl, hbehind⟩ := ih hrest
        exact ⟨pattern ++ before, behind, (List.append_assoc ..).symm, hbehind⟩
      | cons d more =>
        obtain ⟨rfl, -⟩ := List.cons.inj htext
        exact absurd (hput ▸ List.mem_append_right front List.mem_cons_self) hc

end Occurrence

/-! ## What occurs afterwards -/

/-- What a text begins with after a character is put for occurrences, it begins with before. -/
theorem prefix_of_prefix_replaceAll {pattern : List Char} (hne : pattern ≠ []) {c : Char}
    {text other : List Char} (h : c ∉ other) (hbegins : other <+: replaceAll pattern [c] text) :
    other <+: text := by
  induction text using occurrence_induction hne generalizing other with
  | nil => rwa [replaceAll_nil] at hbegins
  | cons b text hpattern ih =>
    rw [replaceAll_cons_of_no_match hpattern] at hbegins
    cases other with
    | nil => exact List.nil_prefix
    | cons a other =>
      obtain ⟨rfl, hrest⟩ := List.cons_prefix_cons.mp hbegins
      have hbehind := ih (fun hmem ↦ h (List.mem_cons_of_mem _ hmem)) hrest
      exact List.cons_prefix_cons.mpr ⟨rfl, hbehind⟩
  | found rest =>
    rw [replaceAll_append_self hne] at hbegins
    cases other with
    | nil => exact List.nil_prefix
    | cons a other =>
      obtain ⟨rfl, -⟩ := List.cons_prefix_cons.mp hbegins
      exact absurd List.mem_cons_self h

/-- A character put for occurrences of a pattern makes no occurrence of what does not hold it. -/
theorem infix_of_infix_replaceAll {pattern other : List Char} (hne : pattern ≠ []) {c : Char}
    (h : c ∉ other) {text : List Char} (hfound : other <:+: replaceAll pattern [c] text) :
    other <:+: text := by
  induction text using occurrence_induction hne with
  | nil => rwa [replaceAll_nil] at hfound
  | cons b text hpattern ih =>
    rw [replaceAll_cons_of_no_match hpattern, List.infix_cons_iff,
      ← replaceAll_cons_of_no_match hpattern] at hfound
    rcases hfound with hbegins | hfound
    · exact (prefix_of_prefix_replaceAll hne h hbegins).isInfix
    · exact (ih hfound).trans (List.suffix_cons b text).isInfix
  | found rest ih =>
    rw [replaceAll_append_self hne, List.singleton_append, List.infix_cons_iff] at hfound
    rcases hfound with hbegins | hfound
    · have hempty := (prefix_append_cons_iff h [] _).mp hbegins
      rw [List.prefix_nil.mp hempty]
      exact List.nil_infix
    · exact (ih hfound).trans (List.suffix_append pattern rest).isInfix

theorem replaceAll_nil_sublist {pattern : List Char} (hne : pattern ≠ []) (text : List Char) :
    (replaceAll pattern [] text).Sublist text := by
  induction text using occurrence_induction hne with
  | nil => simp
  | cons c text hpattern ih =>
    rw [replaceAll_cons_of_no_match hpattern]
    exact ih.cons_cons c
  | found rest ih =>
    rw [replaceAll_append_self hne, List.nil_append]
    exact ih.trans (List.sublist_append_right pattern rest)

/-- Of a run of one character too little is left to be such a run again. -/
theorem length_replaceAll_replicate_lt (c : Char) {size : Nat} (hsize : 0 < size) (length : Nat) :
    (replaceAll (List.replicate size c) [] (List.replicate length c)).length < size := by
  have hne : List.replicate size c ≠ [] := by simpa using Nat.ne_of_gt hsize
  induction length using Nat.strongRecOn with
  | ind length ih =>
    rcases Nat.lt_or_ge length size with hlt | hge
    · have hnone : ¬ List.replicate size c <:+: List.replicate length c :=
        fun hfound ↦ Nat.not_le_of_lt hlt (by simpa using hfound.length_le)
      rw [replaceAll_eq_self hnone, List.length_replicate]
      exact hlt
    · obtain ⟨rest, rfl⟩ := Nat.exists_eq_add_of_le hge
      rw [← List.replicate_append_replicate, replaceAll_append_self hne, List.nil_append]
      exact ih rest (Nat.lt_add_of_pos_left hsize)

/-- Once runs of one character are taken out, none is left. -/
theorem not_infix_replaceAll_replicate (c : Char) {size : Nat} (hsize : 0 < size)
    (text : List Char) :
    ¬ List.replicate size c <:+: replaceAll (List.replicate size c) [] text := by
  have hne : List.replicate size c ≠ [] := by simpa using Nat.ne_of_gt hsize
  have hrun (length : Nat) : ¬ List.replicate size c <:+:
      replaceAll (List.replicate size c) [] (List.replicate length c) := fun hfound ↦
    Nat.not_le_of_lt (length_replaceAll_replicate_lt c hsize length)
      (by simpa using hfound.length_le)
  induction hlength : text.length using Nat.strongRecOn generalizing text with
  | ind length ih =>
    subst hlength
    have hsplit : text.takeWhile (· == c) ++ text.dropWhile (· == c) = text :=
      List.takeWhile_append_dropWhile
    have hfront : text.takeWhile (· == c) =
        List.replicate (text.takeWhile (· == c)).length c :=
      List.eq_replicate_of_mem fun b hb ↦
        beq_iff_eq.mp (List.all_eq_true.mp List.all_takeWhile b hb)
    cases hrest : text.dropWhile (· == c) with
    | nil =>
      rw [hrest, List.append_nil] at hsplit
      rw [← hsplit, hfront]
      exact hrun _
    | cons b rest =>
      have hb : b ≠ c := by
        have hhead := List.head?_dropWhile_not (· == c) text
        rw [hrest] at hhead
        simpa using hhead
      have hapart : b ∉ List.replicate size c := fun hmem ↦ hb (List.eq_of_mem_replicate hmem)
      have hlt : rest.length < text.length := by
        rw [← hsplit, hrest, List.length_append, List.length_cons]
        omega
      rw [← hsplit, hrest, hfront, replaceAll_append_cons [] hne hapart,
        infix_append_cons_iff hne hapart]
      exact not_or.mpr ⟨hrun _, ih rest.length hlt rest rfl⟩

end Text

section Strings

variable {pattern : String} (replacement : String)

theorem toList_replaced (text pattern replacement : String) :
    (replaced text pattern replacement).toList =
      Text.replaceAll pattern.toList replacement.toList text.toList :=
  String.toList_ofList

theorem replaced_pattern_append (hne : pattern ≠ "") (rest : String) :
    replaced (pattern ++ rest) pattern replacement =
      replacement ++ replaced rest pattern replacement := by
  have hpattern : pattern.toList ≠ [] := mt String.toList_eq_nil_iff.mp hne
  rw [← String.toList_inj, String.toList_append, toList_replaced, toList_replaced,
    String.toList_append, Text.replaceAll_append_self hpattern]

theorem replaced_append_of_notMem {p : Char} (hpattern : pattern.toList.head? = some p)
    {front : String} (h : p ∉ front.toList) (rest : String) :
    replaced (front ++ rest) pattern replacement =
      front ++ replaced rest pattern replacement := by
  obtain ⟨tail, htail⟩ := List.head?_eq_some_iff.mp hpattern
  rw [← String.toList_inj, String.toList_append, toList_replaced, toList_replaced,
    String.toList_append, htail, Text.replaceAll_append_of_notMem _ h]

theorem exists_pieces_of_replaced (hne : pattern ≠ "") (text : String) :
    ∃ pieces, pieces ≠ [] ∧ text = pattern.intercalate pieces ∧
      replaced text pattern replacement = replacement.intercalate pieces ∧
      ∀ piece ∈ pieces, contains piece pattern = false := by
  have hpattern : pattern.toList ≠ [] := mt String.toList_eq_nil_iff.mp hne
  obtain ⟨first, rest, htext, hreplaced, hpieces⟩ :=
    Text.exists_pieces_of_replaceAll replacement.toList hpattern text.toList
  have hmap (pieces : List (List Char)) : (pieces.map String.ofList).map String.toList = pieces := by
    simp [Function.comp_def]
  refine ⟨(first :: rest).map String.ofList, List.cons_ne_nil _ _, ?_, ?_, ?_⟩
  · rw [← String.toList_inj, String.toList_intercalate, hmap, ← htext]
  · rw [← String.toList_inj, String.toList_intercalate, hmap, toList_replaced, hreplaced]
  · refine List.forall_mem_map.mpr fun piece hpiece ↦ ?_
    rw [Bool.eq_false_iff, Ne, contains_iff, String.toList_ofList]
    exact hpieces piece hpiece

theorem mem_of_mem_replaced {text : String} (hne : pattern ≠ "") {c : Char}
    (h : c ∈ (replaced text pattern "").toList) : c ∈ text.toList := by
  have hpattern : pattern.toList ≠ [] := mt String.toList_eq_nil_iff.mp hne
  rw [toList_replaced] at h
  exact (Text.replaceAll_nil_sublist hpattern text.toList).subset h

theorem replaced_append_append {c : Char} {separator : String}
    (hseparator : separator.toList = [c]) (hne : pattern ≠ "") (h : c ∉ pattern.toList)
    (front rest : String) :
    replaced (front ++ separator ++ rest) pattern replacement =
      replaced front pattern replacement ++ separator ++ replaced rest pattern replacement := by
  have hpattern : pattern.toList ≠ [] := mt String.toList_eq_nil_iff.mp hne
  rw [← String.toList_inj]
  simp only [toList_replaced, String.toList_append, hseparator, List.append_assoc,
    List.singleton_append, Text.replaceAll_append_cons _ hpattern h]

end Strings

end ProviderDocs
