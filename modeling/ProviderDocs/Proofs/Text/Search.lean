import ProviderDocs.Text.Fold
import ProviderDocs.Text.Search

/-!
# Beginnings of texts

What is left behind a beginning of a text is the text without it.
-/

namespace ProviderDocs

namespace Text

theorem after?_eq_some_iff {front text rest : List Char} :
    after? front text = some rest ↔ text = front ++ rest := by
  induction front generalizing text with
  | nil => simp [after?]
  | cons p front ih =>
    cases text with
    | nil => simp [after?]
    | cons c text =>
      by_cases h : p = c
      · simp [after?, h, ih]
      · simp [after?, h, Ne.symm h]

@[simp] theorem after?_append (front rest : List Char) : after? front (front ++ rest) = some rest :=
  after?_eq_some_iff.mpr rfl

/-- A text begins with a pattern in any case when the beginning is folded to the pattern. -/
theorem afterFolded?_eq_some_iff {front text rest : List Char} :
    afterFolded? front text = some rest ↔ ∃ word, word.map fold = front ∧ text = word ++ rest := by
  induction front generalizing text with
  | nil => simp [afterFolded?, eq_comm]
  | cons p front ih =>
    cases text with
    | nil =>
      rw [afterFolded?, iff_false_left (by simp)]
      rintro ⟨word, hword, htext⟩
      rw [(List.append_eq_nil_iff.mp htext.symm).1] at hword
      cases hword
    | cons c text =>
      rw [afterFolded?, Option.ite_none_right_eq_some, ih]
      constructor
      · rintro ⟨rfl, word, rfl, rfl⟩
        exact ⟨c :: word, rfl, rfl⟩
      · rintro ⟨word, hword, htext⟩
        cases word with
        | nil => cases hword
        | cons d word =>
          obtain ⟨hfold, hfront⟩ := List.cons.inj hword
          obtain ⟨rfl, hrest⟩ := List.cons.inj htext
          exact ⟨hfold.symm, word, hfront, hrest⟩

/-- Characters of a class are read up to the first of another. -/
theorem span_append {inClass : Char → Bool} {front : List Char}
    (hfront : ∀ c ∈ front, inClass c = true) {stop : Char} (hstop : inClass stop = false)
    (rest : List Char) : span inClass (front ++ stop :: rest) = (front, stop :: rest) := by
  have hneg : ¬ inClass stop = true := Bool.eq_false_iff.mp hstop
  rw [span, List.takeWhile_append_of_pos hfront, List.dropWhile_append_of_pos hfront,
    List.takeWhile_cons_of_neg hneg, List.dropWhile_cons_of_neg hneg, List.append_nil]

theorem span1?_append {inClass : Char → Bool} {front : List Char}
    (hfront : ∀ c ∈ front, inClass c = true) (hne : front ≠ []) {stop : Char}
    (hstop : inClass stop = false) (rest : List Char) :
    span1? inClass (front ++ stop :: rest) = some (front, stop :: rest) := by
  rw [span1?, span_append hfront hstop]
  cases front with
  | nil => exact absurd rfl hne
  | cons => rfl

theorem ne_of_notMem {stop : Char} {front : List Char} (h : stop ∉ front) :
    ∀ c ∈ front, (c != stop) = true :=
  fun _ hc ↦ bne_iff_ne.mpr (ne_of_mem_of_not_mem hc h)

/-- Characters of a class are none outside it. -/
theorem notMem_of_class {inClass : Char → Bool} {text : List Char}
    (h : ∀ c ∈ text, inClass c = true) {c : Char} (hc : inClass c = false) : c ∉ text :=
  fun hmem ↦ Bool.false_ne_true (hc.symm.trans (h c hmem))

/-- A text is cut at the last place of a character. -/
theorem exists_eq_append_cons_of_mem {c : Char} {text : List Char} (h : c ∈ text) :
    ∃ front back, text = front ++ c :: back ∧ c ∉ back := by
  obtain ⟨back, front, heq, hback⟩ := List.eq_append_cons_of_mem (List.mem_reverse.mpr h)
  refine ⟨front.reverse, back.reverse, ?_, ?_⟩
  · rw [← List.reverse_reverse text, heq]
    simp
  · simpa using hback

theorem afterLast_append_cons (front : List Char) {c : Char} {back : List Char}
    (h : c ∉ back) : afterLast c (front ++ c :: back) = back := by
  have hback : ∀ other ∈ back.reverse, (other != c) = true :=
    ne_of_notMem (mt List.mem_reverse.mp h)
  rw [afterLast, List.reverse_append, List.reverse_cons, List.append_assoc,
    List.takeWhile_append_of_pos hback, List.singleton_append,
    List.takeWhile_cons_of_neg (by simp), List.append_nil, List.reverse_reverse]

/-- Characters other than `stop` are read up to the first `stop`. -/
theorem span_append_cons {stop : Char} {front : List Char} (h : stop ∉ front) (rest : List Char) :
    span (· != stop) (front ++ stop :: rest) = (front, stop :: rest) :=
  span_append (ne_of_notMem h) (bne_self_eq_false stop) rest

/-- The first `stop` parts a text in one way only. -/
theorem eq_of_append_cons_eq {stop : Char} {front other rest more : List Char} (h : stop ∉ front)
    (hother : stop ∉ other) (heq : front ++ stop :: rest = other ++ stop :: more) :
    front = other ∧ rest = more := by
  have hspan := congrArg (span (· != stop)) heq
  rw [span_append_cons h, span_append_cons hother] at hspan
  obtain ⟨hfront, hrest⟩ := Prod.mk.inj hspan
  exact ⟨hfront, (List.cons.inj hrest).2⟩

theorem span1?_append_cons {stop : Char} {front : List Char} (h : stop ∉ front) (hne : front ≠ [])
    (rest : List Char) :
    span1? (· != stop) (front ++ stop :: rest) = some (front, stop :: rest) :=
  span1?_append (ne_of_notMem h) hne (bne_self_eq_false stop) rest

/-- What is read of a class and what is left make up the text. -/
theorem eq_append_of_span {inClass : Char → Bool} {text front rest : List Char}
    (h : span inClass text = (front, rest)) :
    (∀ c ∈ front, inClass c = true) ∧ text = front ++ rest := by
  obtain ⟨rfl, rfl⟩ := Prod.mk.inj h
  exact ⟨List.all_eq_true.mp List.all_takeWhile, List.takeWhile_append_dropWhile.symm⟩

/-- A text is cut at its first character outside a class, and a list at its first such item. -/
theorem exists_eq_append_of_class {α : Type} (inClass : α → Bool) (text : List α) :
    ∃ front rest, text = front ++ rest ∧ (∀ c ∈ front, inClass c = true) ∧
      ∀ c ∈ rest.head?, inClass c = false := by
  refine ⟨text.takeWhile inClass, text.dropWhile inClass, List.takeWhile_append_dropWhile.symm,
    List.all_eq_true.mp List.all_takeWhile, fun c hc ↦ ?_⟩
  have hhead := List.head?_dropWhile_not inClass text
  rwa [Option.mem_def.mp hc] at hhead

theorem eq_append_of_span1? {inClass : Char → Bool} {text front rest : List Char}
    (h : span1? inClass text = some (front, rest)) :
    front ≠ [] ∧ (∀ c ∈ front, inClass c = true) ∧ text = front ++ rest := by
  unfold span1? at h
  split at h
  · cases h
  · next hne hspan =>
    cases h
    exact ⟨hne, eq_append_of_span hspan⟩

/-- What is read of a class is all of it at the front of the text. -/
theorem span_eq_iff {inClass : Char → Bool} {text front rest : List Char} :
    span inClass text = (front, rest) ↔
      (∀ c ∈ front, inClass c = true) ∧ (∀ c ∈ rest.head?, inClass c = false) ∧
        text = front ++ rest := by
  constructor
  · intro h
    obtain ⟨hall, htext⟩ := eq_append_of_span h
    refine ⟨hall, fun c hc ↦ ?_, htext⟩
    have hrest : text.dropWhile inClass = rest := (Prod.mk.inj h).2
    have hhead := List.head?_dropWhile_not inClass text
    rwa [hrest, Option.mem_def.mp hc] at hhead
  · rintro ⟨hall, hhead, rfl⟩
    cases rest with
    | cons c rest => exact span_append hall (hhead c rfl) rest
    | nil =>
      have hread : (front ++ []).takeWhile inClass = front ++ [] :=
        List.takeWhile_append_of_pos hall
      have hleft : (front ++ []).dropWhile inClass = [] := List.dropWhile_append_of_pos hall
      rw [span, hread, hleft, List.append_nil]

theorem span1?_eq_some_iff {inClass : Char → Bool} {text front rest : List Char} :
    span1? inClass text = some (front, rest) ↔
      front ≠ [] ∧ (∀ c ∈ front, inClass c = true) ∧ (∀ c ∈ rest.head?, inClass c = false) ∧
        text = front ++ rest := by
  rw [← span_eq_iff, span1?]
  cases hspan : span inClass text with
  | mk read left =>
    cases read with
    | nil =>
      refine ⟨nofun, ?_⟩
      rintro ⟨hne, ⟨⟩⟩
      exact absurd rfl hne
    | cons c read =>
      constructor
      · rintro ⟨⟩
        exact ⟨List.cons_ne_nil _ _, rfl⟩
      · rintro ⟨-, ⟨⟩⟩
        rfl

theorem span_eq_cons_iff {stop : Char} {text front rest : List Char} :
    span (· != stop) text = (front, stop :: rest) ↔
      stop ∉ front ∧ text = front ++ stop :: rest := by
  constructor
  · intro h
    obtain ⟨hfront, htext⟩ := eq_append_of_span h
    exact ⟨fun hmem ↦ by simpa using hfront stop hmem, htext⟩
  · rintro ⟨hfront, rfl⟩
    exact span_append_cons hfront rest

theorem eq_append_of_splitAt? {pattern text before rest : List Char}
    (h : splitAt? pattern text = some (before, rest)) : text = before ++ pattern ++ rest := by
  induction text generalizing before with
  | nil =>
    obtain ⟨found, hfound, ⟨⟩⟩ := Option.map_eq_some_iff.mp h
    simpa using after?_eq_some_iff.mp hfound
  | cons c text ih =>
    rw [splitAt?] at h
    split at h
    · next found hfound =>
      cases h
      simpa using after?_eq_some_iff.mp hfound
    · obtain ⟨⟨front, _⟩, hfront, ⟨⟩⟩ := Option.map_eq_some_iff.mp h
      exact congrArg (c :: ·) (ih hfront)

/-- A text in which nothing is recognized stays as it is. -/
theorem substitute_eq_self {step? : List Char → Option (List Char × List Char)} {text : List Char}
    (h : ∀ rest, rest <:+ text → step? rest = none) : substitute step? text = text := by
  induction text with
  | nil => rw [substitute]
  | cons c text ih =>
    rw [substitute, h _ List.suffix_rfl]
    exact congrArg (c :: ·) (ih fun rest hrest ↦ h rest (hrest.trans (List.suffix_cons c text)))

/-! ## Occurrences -/

/-- What stands before a character goes on over it only with that character. -/
theorem prefix_append_cons_iff {c : Char} {pattern : List Char} (h : c ∉ pattern)
    (front rest : List Char) : pattern <+: front ++ c :: rest ↔ pattern <+: front := by
  refine ⟨fun hbegins ↦ ?_, fun hbegins ↦ hbegins.trans (List.prefix_append ..)⟩
  rcases List.prefix_or_prefix_of_prefix hbegins (List.prefix_append front (c :: rest)) with
    hfront | ⟨behind, rfl⟩
  · exact hfront
  · cases behind with
    | nil => simp
    | cons b behind =>
      have hover := (List.prefix_append_right_inj front).mp hbegins
      obtain rfl := (List.cons_prefix_cons.mp hover).1
      exact absurd (List.mem_append_right front List.mem_cons_self) h

/-- What holds a character at its front at most begins no later than that character. -/
theorem prefix_of_cons_prefix_append {mark p : Char} {tail text : List Char} (h : mark ∉ tail)
    (hne : text ≠ []) {rest : List Char} (hbegins : p :: tail <+: text ++ mark :: rest) :
    p :: tail <+: text := by
  obtain ⟨c, text, rfl⟩ := List.exists_cons_of_ne_nil hne
  rw [List.cons_append, List.cons_prefix_cons, prefix_append_cons_iff h] at hbegins
  exact List.cons_prefix_cons.mpr hbegins

/-- What does not hold a character occurs on one side of it. -/
theorem infix_append_cons_iff {c : Char} {pattern : List Char} (hne : pattern ≠ [])
    (h : c ∉ pattern) (front rest : List Char) :
    pattern <:+: front ++ c :: rest ↔ pattern <:+: front ∨ pattern <:+: rest := by
  induction front with
  | nil =>
    have hover : ¬ pattern <+: c :: rest :=
      fun hbegins ↦ hne (List.prefix_nil.mp ((prefix_append_cons_iff h [] rest).mp hbegins))
    rw [List.nil_append, List.infix_cons_iff, List.infix_nil, or_iff_right hover,
      or_iff_right hne]
  | cons b front ih =>
    rw [List.cons_append, List.infix_cons_iff, ih, ← List.cons_append,
      prefix_append_cons_iff h, List.infix_cons_iff, or_assoc]

theorem infix_cons_iff_of_notMem {c : Char} {pattern : List Char} (hne : pattern ≠ [])
    (h : c ∉ pattern) (rest : List Char) : pattern <:+: c :: rest ↔ pattern <:+: rest := by
  have hsplit := infix_append_cons_iff hne h [] rest
  rwa [List.nil_append, List.infix_nil, or_iff_right hne] at hsplit

/-- What begins with a character occurs behind those that are others. -/
theorem infix_of_infix_append {p : Char} {pattern front rest : List Char} (h : p ∉ front)
    (hfound : p :: pattern <:+: front ++ rest) : p :: pattern <:+: rest := by
  induction front with
  | nil => exact hfound
  | cons b front ih =>
    obtain ⟨hb, hfront⟩ := List.ne_and_not_mem_of_not_mem_cons h
    rw [List.cons_append, List.infix_cons_iff, List.cons_prefix_cons] at hfound
    exact ih hfront (hfound.resolve_left fun hbegins ↦ hb hbegins.1)

theorem isSome_after?_iff {front text : List Char} :
    (after? front text).isSome = true ↔ front <+: text := by
  rw [Option.isSome_iff_exists]
  exact exists_congr fun rest ↦ after?_eq_some_iff.trans eq_comm

theorem occursIn_iff {pattern text : List Char} :
    occursIn pattern text = true ↔ pattern <:+: text := by
  unfold occursIn
  induction text with
  | nil => rw [splitAt?, Option.isSome_map, isSome_after?_iff, List.prefix_nil, List.infix_nil]
  | cons c text ih =>
    rw [splitAt?, List.infix_cons_iff, ← isSome_after?_iff, ← ih]
    cases after? pattern (c :: text) with
    | some rest => simp
    | none => simp

/-- A text without the pattern stays as it is. -/
theorem replaceAll_eq_self {pattern replacement text : List Char} (h : ¬ pattern <:+: text) :
    replaceAll pattern replacement text = text := by
  refine substitute_eq_self fun rest hrest ↦ ?_
  rw [Option.map_eq_none_iff, ← Option.not_isSome_iff_eq_none, isSome_after?_iff]
  exact fun hbegins ↦ h (List.infix_iff_prefix_suffix.mpr ⟨rest, hbegins, hrest⟩)

end Text

theorem contains_iff {text pattern : String} :
    contains text pattern = true ↔ pattern.toList <:+: text.toList :=
  Text.occursIn_iff

theorem contains_eq_false_of_notMem {c : Char} {text pattern : String} (hc : c ∈ pattern.toList)
    (h : c ∉ text.toList) : contains text pattern = false := by
  rw [Bool.eq_false_iff, Ne, contains_iff]
  exact fun hfound ↦ h (hfound.subset hc)

/-- A text holds what something in it holds. -/
theorem contains_of_contains {text pattern part : String} (h : contains pattern part = true)
    (hfound : contains text pattern = true) : contains text part = true :=
  contains_iff.mpr ((contains_iff.mp h).trans (contains_iff.mp hfound))

theorem contains_of_append {front rest pattern : String} (h : contains rest pattern = true) :
    contains (front ++ rest) pattern = true := by
  rw [contains_iff, String.toList_append]
  exact (contains_iff.mp h).trans (List.suffix_append ..).isInfix

theorem contains_of_append_of_notMem {p : Char} {front rest pattern : String}
    (hpattern : pattern.toList.head? = some p) (hp : p ∉ front.toList)
    (h : contains (front ++ rest) pattern = true) : contains rest pattern = true := by
  obtain ⟨tail, htail⟩ := List.head?_eq_some_iff.mp hpattern
  rw [contains_iff, String.toList_append, htail] at h
  rw [contains_iff, htail]
  exact Text.infix_of_infix_append hp h

theorem contains_append_append {c : Char} {separator pattern : String}
    (hseparator : separator.toList = [c]) (hne : pattern ≠ "") (h : c ∉ pattern.toList)
    (front rest : String) :
    contains (front ++ separator ++ rest) pattern =
      (contains front pattern || contains rest pattern) := by
  have hpattern : pattern.toList ≠ [] := mt String.toList_eq_nil_iff.mp hne
  rw [Bool.eq_iff_iff, Bool.or_eq_true, contains_iff, contains_iff, contains_iff,
    String.toList_append, String.toList_append, hseparator, List.append_assoc,
    List.singleton_append, Text.infix_append_cons_iff hpattern h]

theorem replaced_eq_self {text pattern : String} (h : contains text pattern = false)
    (replacement : String) : replaced text pattern replacement = text := by
  rw [replaced, Text.replaceAll_eq_self (mt contains_iff.mpr (Bool.eq_false_iff.mp h)),
    String.ofList_toList]

theorem after?_eq_some_iff {text front rest : String} :
    after? text front = some rest ↔ text = front ++ rest := by
  unfold after?
  rw [Option.map_eq_some_iff, ← String.toList_inj, String.toList_append]
  constructor
  · rintro ⟨found, hfound, rfl⟩
    rw [String.toList_ofList]
    exact Text.after?_eq_some_iff.mp hfound
  · intro h
    exact ⟨rest.toList, Text.after?_eq_some_iff.mpr h, String.ofList_toList⟩

theorem startsWith_iff {text front : String} :
    startsWith text front = true ↔ ∃ rest, text = front ++ rest := by
  unfold startsWith
  rw [List.isPrefixOf_iff_prefix]
  constructor
  · rintro ⟨rest, hrest⟩
    refine ⟨String.ofList rest, ?_⟩
    rw [← String.toList_inj, String.toList_append, String.toList_ofList, hrest]
  · rintro ⟨rest, rfl⟩
    rw [String.toList_append]
    exact List.prefix_append ..

theorem after?_eq_none_iff {text front : String} :
    after? text front = none ↔ startsWith text front = false := by
  rw [← Bool.not_eq_true, startsWith_iff, Option.eq_none_iff_forall_ne_some, not_exists]
  exact forall_congr' fun rest ↦ not_congr after?_eq_some_iff

end ProviderDocs
