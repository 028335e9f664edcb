import ProviderDocs.Text.Blank
import ProviderDocs.Text.Fold
import ProviderDocs.Text.Punctuation

/-!
# Trimming

Nothing is left of a text by trimming exactly when all its characters are blank.
-/

namespace ProviderDocs

/-- A visible character of ASCII is not blank. -/
theorem Text.isBlank_eq_false {c : Char} (hlower : 0x21 ≤ c.toNat) (hupper : c.toNat ≤ 0x7E) :
    isBlank c = false := by
  simp only [isBlank, inRuns, blankRuns, List.any_cons, List.any_nil, Run.contains,
    Bool.or_false, Bool.or_eq_false_iff, Bool.and_eq_false_iff, decide_eq_false_iff_not]
  omega

theorem Text.Run.mem_range'_of_contains {run : Run} {code : Nat} (h : run.contains code = true) :
    code ∈ List.range' run.first (run.last - run.first + 1) := by
  simp only [contains, Bool.and_eq_true, decide_eq_true_eq] at h
  rw [List.mem_range'_1]
  omega

theorem Text.isPunctuation_of_isBlank {c : Char} (h : isBlank c = true) :
    isPunctuation c = false := by
  have hapart : ∀ run ∈ blankRuns, ∀ code ∈ List.range' run.first (run.last - run.first + 1),
      punctuationRuns.any (·.contains code) = false := by decide +kernel
  obtain ⟨run, hrun, hcode⟩ := List.any_eq_true.mp h
  exact hapart run hrun _ (Run.mem_range'_of_contains hcode)

/-- The codes of letters. -/
theorem Text.toNat_of_isAlpha {c : Char} (h : c.isAlpha = true) :
    (0x41 ≤ c.toNat ∧ c.toNat ≤ 0x5A) ∨ (0x61 ≤ c.toNat ∧ c.toNat ≤ 0x7A) := by
  rcases Bool.or_eq_true_iff.mp h with hupper | hlower
  · obtain ⟨hlow, hhigh⟩ := of_decide_eq_true hupper
    exact .inl ⟨UInt32.le_iff_toNat_le.mp hlow, UInt32.le_iff_toNat_le.mp hhigh⟩
  · obtain ⟨hlow, hhigh⟩ := Bool.and_eq_true_iff.mp hlower
    exact .inr ⟨UInt32.le_iff_toNat_le.mp (of_decide_eq_true hlow),
      UInt32.le_iff_toNat_le.mp (of_decide_eq_true hhigh)⟩

/-- The characters of a table without letters that have two cases are folded to themselves. -/
theorem Text.fold_of_inRuns {table : List Run}
    (hcases : ∀ code ∈ 0x17F :: 0x212A :: List.range' 0x41 26,
      table.any (·.contains code) = false) {c : Char} (h : inRuns table c = true) :
    fold c = c := by
  have hcode : c.toNat ∉ 0x17F :: 0x212A :: List.range' 0x41 26 :=
    fun hmem ↦ Bool.false_ne_true ((hcases _ hmem).symm.trans h)
  have hlong : c ≠ 'ſ' := by
    rintro rfl
    exact hcode (by decide)
  have hkelvin : c ≠ '\u212A' := by
    rintro rfl
    exact hcode (by decide)
  rw [fold, if_neg hlong, if_neg hkelvin]
  refine dif_neg ?_
  rintro ⟨hlower, hupper⟩
  have hlower : 0x41 ≤ c.toNat := UInt32.le_iff_toNat_le.mp hlower
  have hupper : c.toNat ≤ 0x5A := UInt32.le_iff_toNat_le.mp hupper
  refine hcode (List.mem_cons_of_mem _ (List.mem_cons_of_mem _ ?_))
  rw [List.mem_range'_1]
  omega

theorem Text.fold_of_isBlank {c : Char} (h : isBlank c = true) : fold c = c :=
  fold_of_inRuns (by decide +kernel) h

theorem Text.fold_of_isPunctuation {c : Char} (h : isPunctuation c = true) : fold c = c :=
  fold_of_inRuns (by decide +kernel) h

theorem Text.dropBlank_eq_nil_iff (text : List Char) :
    dropBlank text = [] ↔ text.all isBlank = true := by
  unfold dropBlank
  induction text with
  | nil => simp
  | cons c rest ih => by_cases h : isBlank c = true <;> simp [h, ih]

theorem Text.all_dropBlank (text : List Char) :
    (dropBlank text).all isBlank = text.all isBlank := by
  unfold dropBlank
  induction text with
  | nil => rfl
  | cons c rest ih =>
    by_cases h : isBlank c = true
    · rw [List.dropWhile_cons_of_pos h, ih, List.all_cons, h, Bool.true_and]
    · rw [List.dropWhile_cons_of_neg h]

theorem Text.trim_eq_nil_iff (text : List Char) : trim text = [] ↔ text.all isBlank = true := by
  have hend := dropBlank_eq_nil_iff (dropBlank text).reverse
  rw [List.all_reverse, all_dropBlank] at hend
  rwa [trim, dropBlankEnd, List.reverse_eq_nil_iff]

theorem Text.dropBlank_of_not_blank {c : Char} (h : isBlank c = false) (rest : List Char) :
    dropBlank (c :: rest) = c :: rest :=
  List.dropWhile_cons_of_neg (Bool.eq_false_iff.mp h)

theorem Text.dropBlank_space (rest : List Char) : dropBlank (' ' :: rest) = dropBlank rest := rfl

/-- What is dropped at the end of a text does not reach a character that is to stay. -/
theorem Text.reverse_dropWhile_reverse_cons (drops : Char → Bool) {c : Char} (h : drops c = false)
    (rest : List Char) :
    ((c :: rest).reverse.dropWhile drops).reverse =
      c :: (rest.reverse.dropWhile drops).reverse := by
  rw [List.reverse_cons, List.dropWhile_append]
  split
  case isTrue hrest => simp [List.isEmpty_iff.mp hrest, h]
  case isFalse => simp

theorem Text.trim_cons_of_not_blank {c : Char} (h : isBlank c = false) (rest : List Char) :
    trim (c :: rest) = c :: dropBlankEnd rest := by
  rw [trim, dropBlank_of_not_blank h]
  exact reverse_dropWhile_reverse_cons isBlank h rest

theorem Text.exists_eq_dropBlankEnd_append (text : List Char) :
    ∃ blanks, text = dropBlankEnd text ++ blanks ∧ blanks.all isBlank = true := by
  refine ⟨(text.reverse.takeWhile isBlank).reverse, ?_, ?_⟩
  · rw [dropBlankEnd, ← List.reverse_append, List.takeWhile_append_dropWhile, List.reverse_reverse]
  · rw [List.all_reverse]
    exact List.all_takeWhile

theorem Text.dropBlankEnd_sublist (text : List Char) : (dropBlankEnd text).Sublist text := by
  rw [dropBlankEnd, ← List.reverse_sublist, List.reverse_reverse]
  exact List.dropWhile_sublist _

theorem Text.trim_sublist (text : List Char) : (trim text).Sublist text :=
  (dropBlankEnd_sublist _).trans (List.dropWhile_sublist _)

/-- A trimmed text begins with no blank. -/
theorem Text.dropBlank_of_trim_eq {text : List Char} (h : trim text = text) :
    dropBlank text = text := by
  have hle : (trim text).Sublist (dropBlank text) := dropBlankEnd_sublist _
  rw [h] at hle
  exact (List.dropWhile_sublist isBlank).eq_of_length_le hle.length_le

/-- A trimmed text ends with no blank. -/
theorem Text.dropBlankEnd_of_trim_eq {text : List Char} (h : trim text = text) :
    dropBlankEnd text = text := by
  rwa [trim, dropBlank_of_trim_eq h] at h

theorem Text.dropBlank_dropBlank (text : List Char) :
    dropBlank (dropBlank text) = dropBlank text := by
  unfold dropBlank
  induction text with
  | nil => rfl
  | cons c rest ih =>
    by_cases h : isBlank c = true
    · rw [List.dropWhile_cons_of_pos h, ih]
    · rw [List.dropWhile_cons_of_neg h, List.dropWhile_cons_of_neg h]

theorem Text.dropBlankEnd_dropBlankEnd (text : List Char) :
    dropBlankEnd (dropBlankEnd text) = dropBlankEnd text := by
  unfold dropBlankEnd
  rw [List.reverse_reverse, ← dropBlank, ← dropBlank, dropBlank_dropBlank]

theorem Text.trim_trim (text : List Char) : trim (trim text) = trim text := by
  unfold trim
  cases hbegin : dropBlank text with
  | nil => rfl
  | cons c rest =>
    have hc : isBlank c = false := by
      have hhead := List.head?_dropWhile_not isBlank text
      rwa [← dropBlank, hbegin] at hhead
    have hend (rest : List Char) : dropBlankEnd (c :: rest) = c :: dropBlankEnd rest :=
      reverse_dropWhile_reverse_cons isBlank hc rest
    rw [hend, dropBlank_of_not_blank hc, hend, dropBlankEnd_dropBlankEnd]

theorem Text.trim_infix (text : List Char) : trim text <:+: text := by
  obtain ⟨blanks, hblanks, -⟩ := exists_eq_dropBlankEnd_append (dropBlank text)
  have hfront : trim text <+: dropBlank text := ⟨blanks, hblanks.symm⟩
  exact hfront.isInfix.trans (List.dropWhile_suffix isBlank).isInfix

theorem Text.dropBlankEnd_append {rest : List Char} (h : dropBlankEnd rest ≠ [])
    (front : List Char) : dropBlankEnd (front ++ rest) = front ++ dropBlankEnd rest := by
  have hrest : rest.reverse.dropWhile isBlank ≠ [] := mt List.reverse_eq_nil_iff.mpr h
  rw [dropBlankEnd, dropBlankEnd, List.reverse_append, List.dropWhile_append,
    if_neg (mt List.isEmpty_iff.mp hrest), List.reverse_append, List.reverse_reverse]

theorem Text.dropBlankEnd_append_blanks (text : List Char) {blanks : List Char}
    (h : blanks.all isBlank = true) : dropBlankEnd (text ++ blanks) = dropBlankEnd text := by
  have hend : blanks.reverse.dropWhile isBlank = [] := by
    rw [← dropBlank, dropBlank_eq_nil_iff, List.all_reverse]
    exact h
  rw [dropBlankEnd, List.reverse_append, List.dropWhile_append, hend, List.isEmpty_nil, if_pos rfl,
    ← dropBlankEnd]

/-- Behind a trimmed text only what follows it is trimmed at the end. -/
theorem Text.trim_append {front : List Char} (hne : front ≠ []) (h : trim front = front)
    (rest : List Char) : trim (front ++ rest) = front ++ dropBlankEnd rest := by
  have hbegin : dropBlank front = front := dropBlank_of_trim_eq h
  have hend : dropBlankEnd front = front := dropBlankEnd_of_trim_eq h
  have hfront : dropBlank (front ++ rest) = front ++ rest := by
    rw [dropBlank, List.dropWhile_append, ← dropBlank, hbegin,
      if_neg (mt List.isEmpty_iff.mp hne)]
  rw [trim, hfront]
  by_cases hrest : dropBlankEnd rest = []
  · have hblanks : rest.all isBlank = true := by
      rw [dropBlankEnd, List.reverse_eq_nil_iff, ← dropBlank, dropBlank_eq_nil_iff,
        List.all_reverse] at hrest
      exact hrest
    rw [dropBlankEnd_append_blanks front hblanks, hend, hrest, List.append_nil]
  · exact dropBlankEnd_append hrest front

/-- Around a trimmed text only what stands before and behind it is trimmed. -/
theorem Text.trim_append_append {middle : List Char} (hne : middle ≠ []) (h : trim middle = middle)
    (front back : List Char) :
    trim (front ++ (middle ++ back)) = dropBlank front ++ (middle ++ dropBlankEnd back) := by
  have hbegin : dropBlank (middle ++ back) = middle ++ back := by
    have hmiddle : dropBlank middle = middle := dropBlank_of_trim_eq h
    rw [dropBlank, List.dropWhile_append, ← dropBlank, hmiddle, if_neg (mt List.isEmpty_iff.mp hne)]
  have hfront : dropBlank (front ++ (middle ++ back)) = dropBlank front ++ (middle ++ back) := by
    rw [dropBlank, List.dropWhile_append, ← dropBlank, ← dropBlank, hbegin]
    split
    case isTrue hempty => rw [List.isEmpty_iff.mp hempty, List.nil_append]
    case isFalse => rfl
  have hend : dropBlankEnd (middle ++ back) = middle ++ dropBlankEnd back := by
    rw [← trim_append hne h back, trim, hbegin]
  rw [trim, hfront, dropBlankEnd_append (by simp [hend, hne]), hend]

theorem Text.trim_blanks_append {blanks : List Char} (h : blanks.all isBlank = true)
    (text : List Char) : trim (blanks ++ text) = trim text := by
  rw [trim, dropBlank, List.dropWhile_append_of_pos (List.all_eq_true.mp h), ← dropBlank, ← trim]

/-- Blank characters at the end of a text are dropped by trimming it. -/
theorem Text.trim_append_blanks (text : List Char) {blanks : List Char}
    (h : blanks.all isBlank = true) : trim (text ++ blanks) = trim text := by
  unfold trim
  rw [dropBlank, List.dropWhile_append, ← dropBlank]
  split
  case isTrue hempty =>
    have hblanks : blanks.dropWhile isBlank = [] := (dropBlank_eq_nil_iff blanks).mpr h
    rw [List.isEmpty_iff.mp hempty, hblanks]
  case isFalse => exact dropBlankEnd_append_blanks (dropBlank text) h

/-- Blank characters at the front of a text stay when only its end is trimmed. -/
theorem Text.dropBlankEnd_append_of_trim_ne {words : List Char} (h : trim words ≠ [])
    (front : List Char) :
    dropBlankEnd (front ++ words) = front ++ words.takeWhile isBlank ++ trim words := by
  have hwords : words = words.takeWhile isBlank ++ dropBlank words :=
    List.takeWhile_append_dropWhile.symm
  calc dropBlankEnd (front ++ words)
    _ = dropBlankEnd (front ++ words.takeWhile isBlank ++ dropBlank words) := by
      rw [List.append_assoc, ← hwords]
    _ = front ++ words.takeWhile isBlank ++ trim words := dropBlankEnd_append h _

/-- A text without blank characters can be told from the blank ones between it and what follows. -/
theorem Text.eq_of_append_eq_append {link other words others : List Char}
    (hlink : ∀ c ∈ link, isBlank c = false) (hother : ∀ c ∈ other, isBlank c = false)
    (htext : link ++ words = other ++ others) (htrim : trim words = trim others)
    (hne : trim words ≠ []) : link = other ∧ words = others := by
  have hends : link ++ words.takeWhile isBlank = other ++ others.takeWhile isBlank := by
    have hend := congrArg dropBlankEnd htext
    rwa [dropBlankEnd_append_of_trim_ne hne, dropBlankEnd_append_of_trim_ne (htrim ▸ hne), htrim,
      List.append_left_inj] at hend
  have hfilter {front : List Char} (h : ∀ c ∈ front, isBlank c = false) (rest : List Char) :
      (front ++ rest.takeWhile isBlank).filter (!isBlank ·) = front := by
    have hfront : front.filter (!isBlank ·) = front :=
      List.filter_eq_self.mpr fun c hc ↦ by rw [h c hc, Bool.not_false]
    have hblank : (rest.takeWhile isBlank).filter (!isBlank ·) = [] :=
      List.filter_eq_nil_iff.mpr fun c hc ↦ by
        rw [List.all_eq_true.mp List.all_takeWhile c hc]
        exact Bool.false_ne_true
    rw [List.filter_append, hfront, hblank, List.append_nil]
  obtain rfl : link = other := by rw [← hfilter hlink words, hends, hfilter hother]
  exact ⟨rfl, List.append_cancel_left htext⟩

theorem toList_trimmed (text : String) : (trimmed text).toList = Text.trim text.toList :=
  String.toList_ofList

theorem trimmed_trimmed (text : String) : trimmed (trimmed text) = trimmed text := by
  rw [← String.toList_inj, toList_trimmed, toList_trimmed, Text.trim_trim]

theorem isEmpty_trimmed (line : String) : (trimmed line).isEmpty = isBlankLine line := by
  rw [Bool.eq_iff_iff]
  unfold trimmed isBlankLine
  rw [← Text.trim_eq_nil_iff]
  simp

end ProviderDocs
