import ProviderDocs.Cleanup.Reference
import ProviderDocs.Proofs.Text.Lines
import ProviderDocs.Proofs.Text.Substitute

/-!
# Words that share a delimiter

A delimiter between two words closes the first and opens the second, but reading a word uses up both
of its delimiters. So of words in a row every second one is kept as it is.
-/

namespace ProviderDocs

namespace Cleanup

/-! ## Characters of words -/

theorem toNat_bounds_of_isWordChar {c : Char} (h : isWordChar c = true) :
    0x21 ≤ c.toNat ∧ c.toNat ≤ 0x7E := by
  simp only [isWordChar, isSegmentChar, Char.isDigit, Bool.or_eq_true, Bool.and_eq_true,
    decide_eq_true_eq] at h
  rcases h with (⟨hlow, hhigh⟩ | ⟨hlow, hhigh⟩) | rfl
  · have hlow : 0x30 ≤ c.toNat := UInt32.le_iff_toNat_le.mp hlow
    have hhigh : c.toNat ≤ 0x39 := UInt32.le_iff_toNat_le.mp hhigh
    omega
  · have hlow : 0x61 ≤ c.toNat := UInt32.le_iff_toNat_le.mp hlow
    have hhigh : c.toNat ≤ 0x7A := UInt32.le_iff_toNat_le.mp hhigh
    omega
  · decide

/-- A word is delimited by none of its own characters. -/
theorem not_delimits_of_isWordChar {c : Char} (h : isWordChar c = true) :
    opensWord c = false ∧ closesWord c = false := by
  obtain ⟨hlow, hhigh⟩ := toNat_bounds_of_isWordChar h
  have hblank := Text.isBlank_eq_false hlow hhigh
  have hne {mark : Char} (hmark : isWordChar mark = false) : c ≠ mark := by
    rintro rfl
    exact Bool.false_ne_true (hmark.symm.trans h)
  have hquote : c ≠ '"' := hne (by decide)
  have htick : c ≠ '`' := hne (by decide)
  have hopen : c ≠ '[' := hne (by decide)
  have hclose : c ≠ ']' := hne (by decide)
  simp [opensWord, closesWord, hblank, hquote, htick, hopen, hclose]

theorem isWordChar_of_closesWord {c : Char} (h : closesWord c = true) : isWordChar c = false := by
  rw [Bool.eq_false_iff]
  intro hword
  exact Bool.false_ne_true ((not_delimits_of_isWordChar hword).2.symm.trans h)

/-! ## Words -/

/-- A word of at least two segments of small letters and digits, joined by underscores. -/
structure SnakeWord where
  segments : List (List Char)
  two_le_length : 2 ≤ segments.length
  ne_nil : ∀ segment ∈ segments, segment ≠ []
  allSegmentChars : ∀ segment ∈ segments, ∀ c ∈ segment, isSegmentChar c = true

namespace SnakeWord

def text (word : SnakeWord) : List Char := ['_'].intercalate word.segments

theorem splitOn_text (word : SnakeWord) : word.text.splitOn '_' = word.segments := by
  have hapart : ∀ segment ∈ word.segments, '_' ∉ segment := fun segment hsegment ↦
    Text.notMem_of_class (word.allSegmentChars segment hsegment) (by decide)
  have hne : word.segments ≠ [] := by
    intro hnil
    exact absurd word.two_le_length (by simp [hnil])
  exact List.splitOn_intercalate '_' hapart hne

theorem isSnakeWord_text (word : SnakeWord) : isSnakeWord word.text = true := by
  simpa [isSnakeWord, splitOn_text, word.two_le_length] using word.ne_nil

theorem isWordChar_of_mem_text (word : SnakeWord) : ∀ c ∈ word.text, isWordChar c = true := by
  refine Text.forall_mem_intercalate (List.forall_mem_singleton.mpr (by decide))
    fun segment hsegment c hc ↦ ?_
  rw [isWordChar, word.allSegmentChars segment hsegment c hc, Bool.true_or]

end SnakeWord

/-! ## Reading -/

/-- A reference: its word and the delimiters on both sides. -/
structure IsReference (opening : Char) (word : List Char) (closing : Char) : Prop where
  opens : opensWord opening = true
  wordChars : ∀ c ∈ word, isWordChar c = true
  closes : closesWord closing = true
  isName : isSnakeWord word = true ∨
    opening = '`' ∧ closing = '`' ∧ word ≠ [] ∧ ∀ c ∈ word, isSegmentChar c = true

section Reading

variable (context : Context)

/-- Reads a reference in one of its two forms. -/
def reference? (text : List Char) : Option (List Char × List Char) :=
  (delimitedWord? context text).or (tickedWord? context text)

theorem isReference_of_delimitedWord? {text replacement rest : List Char}
    (h : delimitedWord? context text = some (replacement, rest)) :
    ∃ opening word closing, IsReference opening word closing ∧
      text = opening :: word ++ closing :: rest ∧
      replacement = opening :: renamed context word ++ [closing] := by
  unfold delimitedWord? at h
  split at h
  · next opening _ =>
    split at h
    · next word closing _ hspan =>
      split at h
      · next hword =>
        cases h
        obtain ⟨hall, rfl⟩ := Text.eq_append_of_span hspan
        obtain ⟨⟨hopens, hcloses⟩, hname⟩ := by simpa only [Bool.and_eq_true] using hword
        exact ⟨opening, word, closing, ⟨hopens, hall, hcloses, .inl hname⟩, rfl, rfl⟩
      · cases h
    · cases h
  · cases h

theorem isReference_of_tickedWord? {text replacement rest : List Char}
    (h : tickedWord? context text = some (replacement, rest)) :
    ∃ opening word closing, IsReference opening word closing ∧
      text = opening :: word ++ closing :: rest ∧
      replacement = opening :: renamed context word ++ [closing] := by
  unfold tickedWord? at h
  split at h
  · split at h
    · next word _ hspan =>
      cases h
      obtain ⟨hne, hall, rfl⟩ := Text.eq_append_of_span1? hspan
      have hword : ∀ c ∈ word, isWordChar c = true := fun c hc ↦ by
        rw [isWordChar, hall c hc, Bool.true_or]
      exact ⟨'`', word, '`', ⟨by decide, hword, by decide, .inr ⟨rfl, rfl, hne, hall⟩⟩, rfl, rfl⟩
    · cases h
  · cases h

/-- What is read is a reference, and every reference is read. -/
theorem reference?_eq_some_iff {text replacement rest : List Char} :
    reference? context text = some (replacement, rest) ↔
      ∃ opening word closing, IsReference opening word closing ∧
        text = opening :: word ++ closing :: rest ∧
        replacement = opening :: renamed context word ++ [closing] := by
  constructor
  · intro h
    rcases Option.or_eq_some_iff.mp h with hdelimited | ⟨-, hticked⟩
    · exact isReference_of_delimitedWord? context hdelimited
    · exact isReference_of_tickedWord? context hticked
  · rintro ⟨opening, word, closing, href, rfl, rfl⟩
    have hspan := Text.span_append href.wordChars (isWordChar_of_closesWord href.closes) rest
    have hdelimited : delimitedWord? context (opening :: word ++ closing :: rest) =
        if isSnakeWord word then some (opening :: renamed context word ++ [closing], rest)
        else none := by
      simp [delimitedWord?, hspan, href.opens, href.closes]
    rw [reference?, hdelimited]
    rcases href.isName with hsnake | ⟨rfl, rfl, hne, hall⟩
    · rw [if_pos hsnake, Option.some_or]
    · have hticked := Text.span1?_append hall hne (by decide : isSegmentChar '`' = false) rest
      split
      · rfl
      · simp [tickedWord?, hticked]

/-- A reference begins with a character that opens a word. -/
theorem reference?_eq_none {c : Char} (h : opensWord c = false) (text : List Char) :
    reference? context (c :: text) = none := by
  rw [Option.eq_none_iff_forall_ne_some]
  rintro ⟨replacement, rest⟩ hread
  obtain ⟨opening, word, closing, href, htext, -⟩ := (reference?_eq_some_iff context).mp hread
  obtain rfl : c = opening := (List.cons.inj htext).1
  exact Bool.false_ne_true (h.symm.trans href.opens)

/-- A word between two delimiters is read with both. -/
theorem reference?_word {opening closing : Char} (hopening : opensWord opening = true)
    (hclosing : closesWord closing = true) (word : SnakeWord) (rest : List Char) :
    reference? context (opening :: (word.text ++ closing :: rest)) =
      some (opening :: renamed context word.text ++ [closing], rest) :=
  (reference?_eq_some_iff context).mpr ⟨opening, word.text, closing,
    ⟨hopening, word.isWordChar_of_mem_text, hclosing, .inl word.isSnakeWord_text⟩, rfl, rfl⟩

/-- Nothing is read from a delimiter that ends the text. -/
theorem reference?_singleton (c : Char) : reference? context [c] = none := by
  rw [Option.eq_none_iff_forall_ne_some]
  rintro ⟨replacement, rest⟩ hread
  obtain ⟨opening, word, closing, -, htext, -⟩ := (reference?_eq_some_iff context).mp hread
  simp at htext

theorem renameReferences_eq : renameReferences context = Text.substitute (reference? context) := rfl

@[simp] theorem renameReferences_nil : renameReferences context [] = [] := Text.substitute_nil

@[simp] theorem renameReferences_singleton (c : Char) : renameReferences context [c] = [c] := by
  rw [renameReferences_eq, Text.substitute_cons_of_none (reference?_singleton context c),
    ← renameReferences_eq, renameReferences_nil]

/-- The text goes on behind the delimiter that closes a word. -/
theorem renameReferences_word {opening closing : Char} (hopening : opensWord opening = true)
    (hclosing : closesWord closing = true) (word : SnakeWord) (rest : List Char) :
    renameReferences context (opening :: (word.text ++ closing :: rest)) =
      opening :: renamed context word.text ++ closing :: renameReferences context rest := by
  have hword := reference?_word context hopening hclosing word rest
  rw [renameReferences_eq, Text.substitute_of_some hword (by simp; omega), List.append_assoc,
    List.singleton_append]

/-- A word with no delimiter left before it is kept. -/
theorem renameReferences_word_append (word : SnakeWord) (rest : List Char) :
    renameReferences context (word.text ++ rest) = word.text ++ renameReferences context rest :=
  Text.substitute_append_of_none
    (fun _ hc ↦ reference?_eq_none context
      (not_delimits_of_isWordChar (word.isWordChar_of_mem_text _ hc)).1) rest

end Reading

/-! ## Words in a row -/

/-- Each word stands between delimiters that may stand there; `before` is the one before the first
word, and each word comes with the one behind it. -/
def AreDelimited (before : Char) : List (SnakeWord × Char) → Prop
  | [] => True
  | (_, behind) :: rest =>
    opensWord before = true ∧ closesWord behind = true ∧ AreDelimited behind rest

/-- Words put one behind the other, with their delimiters. -/
def delimitedText (before : Char) (words : List (List Char × Char)) : List Char :=
  before :: words.flatMap fun (word, behind) ↦ word ++ [behind]

/-- The words of a row, the first, the third and so on renamed. -/
def renamedEverySecond (context : Context) : List (SnakeWord × Char) → List (List Char × Char)
  | [] => []
  | [(word, behind)] => [(renamed context word.text, behind)]
  | (word, between) :: (other, behind) :: rest =>
    (renamed context word.text, between) :: (other.text, behind) :: renamedEverySecond context rest

theorem delimitedText_cons (before : Char) (word : List Char) (behind : Char)
    (rest : List (List Char × Char)) :
    delimitedText before ((word, behind) :: rest) =
      before :: (word ++ delimitedText behind rest) := by
  simp [delimitedText]

/-- A delimiter that closes a renamed word does not open the next one, so of words in a row only the
first, the third and so on are renamed. -/
theorem renameReferences_delimitedText (context : Context) {before : Char}
    {words : List (SnakeWord × Char)} (h : AreDelimited before words) :
    renameReferences context
        (delimitedText before (words.map fun (word, behind) ↦ (word.text, behind))) =
      delimitedText before (renamedEverySecond context words) := by
  fun_induction renamedEverySecond context words generalizing before with
  | case1 => exact renameReferences_singleton context before
  | case2 word behind =>
    obtain ⟨hopening, hclosing, -⟩ := h
    have hword := renameReferences_word context hopening hclosing word []
    simpa [delimitedText] using hword
  | case3 word between other behind rest ih =>
    obtain ⟨hopening, hclosing, -, -, hrest⟩ := h
    rw [List.map_cons, List.map_cons, delimitedText_cons, delimitedText_cons, delimitedText_cons,
      delimitedText_cons, renameReferences_word context hopening hclosing,
      renameReferences_word_append, ih hrest, List.cons_append]

/-! ## A word that is not renamed -/

def bucketName : SnakeWord where
  segments := ["bucket".toList, "name".toList]
  two_le_length := by decide
  ne_nil := by decide
  allSegmentChars := by simp [isSegmentChar, Char.isDigit]

def keyId : SnakeWord where
  segments := ["key".toList, "id".toList]
  two_le_length := by decide
  ne_nil := by decide
  allSegmentChars := by simp [isSegmentChar, Char.isDigit]

theorem renameReferences_delimitedText_bucketName :
    AreDelimited ' ' [(bucketName, ' '), (keyId, ' ')] ∧
      renameReferences ⟨.nodejs, .empty, ∅⟩ " bucket_name key_id ".toList =
        " bucketName key_id ".toList := by
  have hdelimited : AreDelimited ' ' [(bucketName, ' '), (keyId, ' ')] := by
    simp only [AreDelimited, and_true]
    decide
  refine ⟨hdelimited, ?_⟩
  have hrow := renameReferences_delimitedText ⟨.nodejs, .empty, ∅⟩ hdelimited
  have hkept : delimitedText ' ' (renamedEverySecond ⟨.nodejs, .empty, ∅⟩
      [(bucketName, ' '), (keyId, ' ')]) = " bucketName key_id ".toList := by decide +kernel
  exact hrow.trans hkept

/-- Not every word in a row is renamed. -/
theorem not_renameReferences_map_renamed :
    ¬ ∀ (context : Context) before words, AreDelimited before words →
      renameReferences context
          (delimitedText before (words.map fun (word, behind) ↦ (word.text, behind))) =
        delimitedText before
          (words.map fun (word, behind) ↦ (renamed context word.text, behind)) := by
  intro hall
  have hrow := hall ⟨.nodejs, .empty, ∅⟩ ' ' [(bucketName, ' '), (keyId, ' ')] (by
    simp only [AreDelimited, and_true]
    decide)
  exact absurd hrow (by decide +kernel)

end Cleanup

end ProviderDocs
