import ProviderDocs.Proofs.Shell.Reads

/-!
# Words without quotes

A word whose text is as long as what was read for it was written as it is. So a text comes back
from the reader unchanged, without more characters around it, if and only if none of its own
means something to the shell.
-/

namespace ProviderDocs.Shell

/-- The part is replaced by something when the command runs. -/
def Part.isExpansion : Part → Bool
  | .text .. => false
  | _ => true

namespace Parser

variable {α β : Type} {source later : Source}

/-! ## Texts of words -/

/-- The text of a word without expansions, its quotes taken off. -/
def text? (word : Word) : Option Bytes := (literal? word).map Prod.fst

theorem text?_cons_eq_some_iff {part : Part} {word : Word} {text : Bytes} :
    text? (part :: word) = some text ↔
      ∃ front quoted back, part = .text front quoted ∧ text? word = some back ∧
        text = front ++ back := by
  simp only [text?, literal?, List.foldrM_cons, Option.bind_eq_bind, Option.map_eq_some_iff,
    Option.bind_eq_some_iff, Prod.exists]
  constructor
  · rintro ⟨_, _, ⟨back, isQuoted, hback, hpart⟩, rfl⟩
    cases part with
    | text front quoted =>
      simp only [Option.some.injEq, Prod.mk.injEq] at hpart
      obtain ⟨rfl, -⟩ := hpart
      exact ⟨front, quoted, back, rfl, ⟨_, _, hback, rfl⟩, rfl⟩
    | _ => exact absurd hpart nofun
  · rintro ⟨front, quoted, _, rfl, ⟨back, isQuoted, hback, rfl⟩, rfl⟩
    exact ⟨_, _, ⟨_, _, hback, rfl⟩, rfl⟩

theorem text?_append_eq_some_iff {front back : Word} {text : Bytes} :
    text? (front ++ back) = some text ↔
      ∃ first second, text? front = some first ∧ text? back = some second ∧
        text = first ++ second := by
  induction front generalizing text with
  | nil => simp [text?, literal?]
  | cons part front ih =>
    simp only [List.cons_append, text?_cons_eq_some_iff, ih]
    constructor
    · rintro ⟨first, quoted, _, rfl, ⟨second, third, hsecond, hthird, rfl⟩, rfl⟩
      exact ⟨_, third, ⟨first, quoted, second, rfl, hsecond, rfl⟩, hthird,
        (List.append_assoc ..).symm⟩
    · rintro ⟨_, third, ⟨first, quoted, second, rfl, hsecond, rfl⟩, hthird, rfl⟩
      exact ⟨first, quoted, _, rfl, ⟨second, third, hsecond, hthird, rfl⟩,
        List.append_assoc ..⟩

/-! ## Dollar signs -/

/-- Every result of the parser has the property. -/
def Yields (parser : Parser α) (P : α → Prop) : Prop :=
  ∀ ⦃source result later⦄, Reads parser source result later → P result

theorem yields_pure {value : α} {P : α → Prop} (h : P value) : Yields (pure value) P := by
  intro source result later hreads
  rwa [(reads_pure_iff.1 hreads).1]

theorem yields_failure {P : α → Prop} : Yields failure P :=
  fun _ _ _ hreads ↦ absurd hreads not_reads_failure

theorem Yields.ite {c : Prop} [Decidable c] {first second : Parser α} {P : α → Prop}
    (hfirst : Yields first P) (hsecond : Yields second P) :
    Yields (if c then first else second) P := by
  split
  · exact hfirst
  · exact hsecond

theorem Yields.bind {first : Parser α} {next : α → Parser β} {P : β → Prop}
    (h : ∀ value, Yields (next value) P) : Yields (first >>= next) P := by
  intro source result later hreads
  obtain ⟨value, middle, -, hnext⟩ := reads_bind_iff.1 hreads
  exact h value hnext

theorem yields_commandOutput (text : Bytes) (isQuoted : Bool) :
    Yields (dollar.commandOutput text isQuoted) (·.isExpansion = true) :=
  .bind fun _ ↦ .bind fun _ ↦ yields_pure rfl

/-- After a dollar sign the character begins an expansion. -/
def startsExpansion (c : Char) : Bool := isNameStart c || isSpecial c || c = '(' || c = '\x7b'

/-- The character begins or ends a quotation, or hides the one after it. -/
def isQuote (c : Char) : Bool := "\\'\"`".toList.contains c

theorem isQuote_eq_false_iff {c : Char} :
    isQuote c = false ↔ c ≠ '\\' ∧ c ≠ '\'' ∧ c ≠ '"' ∧ c ≠ '`' := by
  simp [isQuote]

/-- No character of the text means something to the shell. -/
def isUnmarked : Bytes → Bool
  | [] => true
  | c :: rest =>
    !isMeta c && !isQuote c && (c != '$' || !rest.head?.any startsExpansion) && isUnmarked rest

/-- A dollar sign that is text is followed by no expansion. -/
theorem reads_dollar_text {text : Bytes} {isQuoted quoted : Bool} {fuel : Nat}
    (h : Reads (dollar isQuoted fuel) source (.text text quoted) later) :
    text = ['$'] ∧ later = source ∧ source.rest.head?.any startsExpansion = false := by
  have not_of_yields {parser : Parser Part} (hyields : Yields parser (·.isExpansion = true)) :
      ¬ Reads parser source (.text text quoted) later :=
    fun hreads ↦ Bool.false_ne_true (hyields hreads)
  cases fuel with
  | zero => rw [dollar] at h; exact absurd h not_reads_failure
  | succ fuel =>
    rw [dollar, reads_rest_bind_iff] at h
    -- Whatever is in parentheses, in braces or a name becomes an expansion.
    split at h
    · refine absurd h (not_of_yields (.bind fun inner ↦ ?_))
      split
      · exact .bind fun _ ↦ .bind fun _ ↦ yields_pure rfl
      · exact yields_commandOutput _ _
    · exact absurd h (not_of_yields (yields_commandOutput _ _))
    · refine absurd h (not_of_yields ?_)
      split
      · exact .bind fun _ ↦ yields_pure rfl
      · exact .bind fun _ ↦ .bind fun _ ↦ .bind fun _ ↦ yields_pure rfl
    · refine absurd h (not_of_yields (.bind fun _ ↦ .bind fun _ ↦ .bind fun _ ↦ ?_))
      split
      · exact .bind fun _ ↦ yields_pure rfl
      · exact .bind fun _ ↦ .bind fun _ ↦ .bind fun _ ↦ yields_pure rfl
    · rename_i c after _ hparenthesis _ hbrace hrest
      split at h
      · exact absurd h (not_of_yields (.bind fun _ ↦ yields_pure rfl))
      · rename_i hname
        obtain ⟨htext, hlater⟩ := reads_pure_iff.1 h
        cases htext
        refine ⟨rfl, hlater, ?_⟩
        have hplain : startsExpansion c = false := by
          rw [startsExpansion, Bool.eq_false_iff.2 hname, decide_eq_false hparenthesis,
            decide_eq_false hbrace]
          rfl
        rw [hrest, List.head?_cons, Option.any_some, hplain]
    · rename_i hrest
      obtain ⟨htext, hlater⟩ := reads_pure_iff.1 h
      cases htext
      exact ⟨rfl, hlater, by rw [hrest]; rfl⟩

/-! ## Reading a word -/

/--
The text was read up to `after`. It is no longer than what was read, and with nothing left out
it stands there as it is.
-/
structure Spells (text before after : Bytes) : Prop where
  length_le : text.length + after.length ≤ before.length
  eq_append : text.length + after.length = before.length → before = text ++ after
  /-- A backslash before nothing is read as it is, but hides what is put after it. -/
  unmarked : text.length + after.length = before.length → after ≠ [] → isUnmarked text = true

/-- With a text in front for which more was read, something is left out. -/
theorem Spells.append_of_lt {front text before middle after : Bytes} (h : Spells text middle after)
    (hlt : front.length + middle.length < before.length) :
    Spells (front ++ text) before after := by
  have hless : (front ++ text).length + after.length < before.length := by
    have := h.length_le
    rw [List.length_append]
    omega
  exact ⟨Nat.le_of_lt hless, fun heq ↦ absurd heq (Nat.ne_of_lt hless),
    fun heq _ ↦ absurd heq (Nat.ne_of_lt hless)⟩

theorem spells_nil (before : Bytes) : Spells [] before before where
  length_le := Nat.le_of_eq (Nat.zero_add _)
  eq_append _ := rfl
  unmarked _ _ := rfl

theorem Spells.cons {c : Char} {text before after : Bytes} (h : Spells text before after)
    (hmeta : isMeta c = false) (hquote : after ≠ [] → isQuote c = false)
    (hdollar : c = '$' → before.head?.any startsExpansion = false) :
    Spells (c :: text) (c :: before) after where
  length_le := by
    have := h.length_le
    rw [List.length_cons, List.length_cons]
    omega
  eq_append hlength := by
    rw [List.length_cons, List.length_cons] at hlength
    rw [h.eq_append (by omega), List.cons_append]
  unmarked hlength hafter := by
    rw [List.length_cons, List.length_cons] at hlength
    have hnext : c = '$' → text.head?.any startsExpansion = false := by
      intro hc
      have hbefore := hdollar hc
      rw [h.eq_append (by omega)] at hbefore
      cases text with
      | nil => rfl
      | cons next text => exact hbefore
    rw [isUnmarked, hmeta, hquote hafter, h.unmarked (by omega) hafter]
    by_cases hc : c = '$'
    · rw [hnext hc]; simp
    · simp [hc]

theorem Reads.of_part_bind {part : Part} {parser : Parser Word} {word : Word} {text : Bytes}
    (h : Reads (parser >>= fun tail ↦ pure (part :: tail)) source word later)
    (htext : text? word = some text) :
    ∃ front quoted tail back, part = .text front quoted ∧ Reads parser source tail later ∧
      text? tail = some back ∧ text = front ++ back := by
  obtain ⟨tail, middle, htail, hpure⟩ := reads_bind_iff.1 h
  obtain ⟨rfl, rfl⟩ := reads_pure_iff.1 hpure
  obtain ⟨front, quoted, back, hpart, hback, happend⟩ := text?_cons_eq_some_iff.1 htext
  exact ⟨front, quoted, tail, back, hpart, htail, hback, happend⟩

/-- In double quotes at least the quote at the end is left out. -/
theorem length_lt_of_reads_doubleQuoted {fuel : Nat} {word : Word} {text : Bytes}
    (h : Reads (doubleQuoted true fuel) source word later) (htext : text? word = some text) :
    text.length + later.rest.length < source.rest.length := by
  induction fuel generalizing source word text with
  | zero => rw [doubleQuoted] at h; exact absurd h not_reads_failure
  | succ fuel ih =>
    rw [doubleQuoted, reads_rest_bind_iff] at h
    -- In order: the end, the closing quote, a continued line, a backslash, a dollar sign,
    -- backquotes and any other character.
    split at h
    · exact absurd h not_reads_failure
    · rename_i hrest
      obtain ⟨middle, rfl, hpure⟩ := h.of_skip_append ['"'] hrest
      obtain ⟨rfl, rfl⟩ := reads_pure_iff.1 hpure
      cases htext
      simp [hrest]
    · rename_i rest hrest
      obtain ⟨middle, rfl, htail⟩ := h.of_skip_append ['\\', '\n'] hrest
      have := ih htail htext
      rw [hrest, List.length_cons, List.length_cons]
      omega
    · rename_i c rest _ hrest
      obtain ⟨middle, rfl, hpart⟩ := h.of_skip_append ['\\', c] hrest
      obtain ⟨front, quoted, tail, back, hfront, htail, hback, rfl⟩ := hpart.of_part_bind htext
      have hlength : front.length ≤ 2 := by
        cases hfront
        split <;> simp
      have := ih htail hback
      rw [hrest, List.length_cons, List.length_cons, List.length_append]
      omega
    · rename_i rest hrest
      obtain ⟨middle, rfl, hbind⟩ := h.of_skip_append ['$'] hrest
      obtain ⟨part, next, hdollar, hpart⟩ := reads_bind_iff.1 hbind
      obtain ⟨front, quoted, tail, back, rfl, htail, hback, rfl⟩ := hpart.of_part_bind htext
      obtain ⟨rfl, rfl, -⟩ := reads_dollar_text hdollar
      have := ih htail hback
      rw [hrest, List.length_cons, List.length_append, List.length_singleton]
      omega
    · obtain ⟨_, _, hbind⟩ := reads_liftM_bind_iff.1 h
      obtain ⟨middle, hmiddle, hpart⟩ := hbind.of_skip_bind
      obtain ⟨_, _, _, _, houtput, _⟩ := hpart.of_part_bind htext
      exact absurd houtput nofun
    · rename_i c rest _ _ _ _ _ hrest
      obtain ⟨middle, rfl, hpart⟩ := h.of_skip_append [c] hrest
      obtain ⟨front, quoted, tail, back, hfront, htail, hback, rfl⟩ := hpart.of_part_bind htext
      cases hfront
      have := ih htail hback
      rw [hrest, List.length_cons, List.length_append, List.length_singleton]
      omega

theorem length_of_upTo {quote : Char} {text quoted rest : Bytes}
    (h : upTo quote text = some (quoted, rest)) : quoted.length < text.length := by
  rw [upTo] at h
  split at h
  · rename_i hdrop
    cases h
    have hlength := congrArg List.length
      (List.takeWhile_append_dropWhile (p := (· != quote)) (l := text))
    rw [List.length_append, hdrop, List.length_cons] at hlength
    omega
  · exact absurd h nofun

theorem spells_of_reads_parts {fuel : Nat} {word : Word} {text : Bytes}
    (h : Reads (parts isMeta false fuel) source word later) (htext : text? word = some text) :
    Spells text source.rest later.rest ∧ later.rest.head?.all isMeta = true := by
  induction fuel generalizing source word text with
  | zero => rw [parts] at h; exact absurd h not_reads_failure
  | succ fuel ih =>
    rw [parts, reads_rest_bind_iff] at h
    -- In order: the end, a continued line, a hidden character, single and double quotes, a dollar
    -- sign, backquotes and any other character.
    split at h
    · rename_i hrest
      obtain ⟨rfl, rfl⟩ := reads_pure_iff.1 h
      cases htext
      exact ⟨spells_nil _, by rw [hrest]; rfl⟩
    · rename_i hrest
      obtain ⟨middle, rfl, htail⟩ := h.of_skip_append ['\\', '\n'] hrest
      obtain ⟨hspells, hhead⟩ := ih htail htext
      have hlt : ([] : Bytes).length + middle.rest.length < source.rest.length := by
        rw [hrest, List.length_nil, List.length_cons, List.length_cons]
        omega
      exact ⟨hspells.append_of_lt hlt, hhead⟩
    · rename_i c rest _ hrest
      obtain ⟨middle, rfl, hpart⟩ := h.of_skip_append ['\\', c] hrest
      obtain ⟨_, _, tail, back, hfront, htail, hback, rfl⟩ := hpart.of_part_bind htext
      cases hfront
      obtain ⟨hspells, hhead⟩ := ih htail hback
      have hlt : [c].length + middle.rest.length < source.rest.length := by
        rw [hrest, List.length_singleton, List.length_cons, List.length_cons]
        omega
      exact ⟨hspells.append_of_lt hlt, hhead⟩
    · rename_i rest hrest
      rw [if_neg Bool.false_ne_true] at h
      obtain ⟨⟨quoted, afterQuote⟩, hquoted, hbind⟩ := reads_liftM_bind_iff.1 h
      have hlength := length_of_upTo hquoted
      obtain ⟨middle, hmiddle, hpart⟩ := hbind.of_skip_bind
      obtain ⟨_, _, tail, back, hfront, htail, hback, rfl⟩ := hpart.of_part_bind htext
      cases hfront
      obtain ⟨hspells, hhead⟩ := ih htail hback
      have hlt : quoted.length + middle.rest.length < source.rest.length := by
        rw [hmiddle, hrest, List.length_drop, List.length_cons]
        omega
      exact ⟨hspells.append_of_lt hlt, hhead⟩
    · rename_i rest hrest
      obtain ⟨middle, rfl, hbind⟩ := h.of_skip_append ['"'] hrest
      obtain ⟨quoted, next, hquoted, hbind⟩ := reads_bind_iff.1 hbind
      obtain ⟨tail, final, htail, hpure⟩ := reads_bind_iff.1 hbind
      obtain ⟨rfl, rfl⟩ := reads_pure_iff.1 hpure
      obtain ⟨front, _, back, hfront, happend, rfl⟩ := text?_cons_eq_some_iff.1 htext
      obtain ⟨inner, outer, hinner, houter, rfl⟩ := text?_append_eq_some_iff.1 happend
      cases hfront
      obtain ⟨hspells, hhead⟩ := ih htail houter
      have hlt : inner.length + next.rest.length < source.rest.length := by
        have := length_lt_of_reads_doubleQuoted hquoted hinner
        rw [hrest, List.length_cons]
        omega
      exact ⟨hspells.append_of_lt hlt, hhead⟩
    · rename_i rest hrest
      obtain ⟨middle, rfl, hbind⟩ := h.of_skip_append ['$'] hrest
      obtain ⟨part, next, hdollar, hpart⟩ := reads_bind_iff.1 hbind
      obtain ⟨_, _, tail, back, rfl, htail, hback, rfl⟩ := hpart.of_part_bind htext
      obtain ⟨rfl, rfl, hplain⟩ := reads_dollar_text hdollar
      obtain ⟨hspells, hhead⟩ := ih htail hback
      rw [hrest]
      exact ⟨hspells.cons (by decide) (fun _ ↦ by decide) fun _ ↦ hplain, hhead⟩
    · obtain ⟨_, _, hbind⟩ := reads_liftM_bind_iff.1 h
      obtain ⟨middle, hmiddle, hpart⟩ := hbind.of_skip_bind
      obtain ⟨_, _, _, _, houtput, _⟩ := hpart.of_part_bind htext
      exact absurd houtput nofun
    · rename_i c rest _ hescape hsingle hdouble hdollar hbackquote hrest
      split at h
      · rename_i hmeta
        obtain ⟨rfl, rfl⟩ := reads_pure_iff.1 h
        cases htext
        exact ⟨spells_nil _, by rw [hrest]; exact hmeta⟩
      · rename_i hmeta
        obtain ⟨middle, rfl, hpart⟩ := h.of_skip_append [c] hrest
        obtain ⟨_, _, tail, back, hfront, htail, hback, rfl⟩ := hpart.of_part_bind htext
        cases hfront
        obtain ⟨hspells, hhead⟩ := ih htail hback
        rw [hrest]
        have hbackslash (hlater : later.rest ≠ []) : c ≠ '\\' := by
          intro hc
          cases hnext : middle.rest with
          | nil =>
            have := hspells.length_le
            rw [hnext, List.length_nil] at this
            exact hlater (List.eq_nil_of_length_eq_zero (by omega))
          | cons next after => exact hescape next after hc hnext
        have hquote (hlater : later.rest ≠ []) : isQuote c = false :=
          isQuote_eq_false_iff.2 ⟨hbackslash hlater, hsingle, hdouble, hbackquote⟩
        exact ⟨hspells.cons (Bool.eq_false_iff.2 hmeta) hquote fun hc ↦ absurd hc hdollar, hhead⟩

/-! ## Words without marks -/

/-- The word that a text without marks is read as. -/
def plainWord (text : Bytes) : Word := text.map fun c ↦ .text [c] false

theorem text?_plainWord (text : Bytes) : text? (plainWord text) = some text := by
  induction text with
  | nil => rfl
  | cons c text ih => exact text?_cons_eq_some_iff.2 ⟨[c], false, text, rfl, ih, rfl⟩

theorem reads_dollar_of_plain {isQuoted : Bool} {fuel : Nat}
    (h : source.rest.head?.any startsExpansion = false) :
    Reads (dollar isQuoted (fuel + 1)) source (.text ['$'] isQuoted) source := by
  rw [dollar, reads_rest_bind_iff]
  split
  all_goals rename_i hrest; rw [hrest] at h
  · simp [startsExpansion] at h
  · simp [startsExpansion] at h
  · simp [startsExpansion] at h
  · simp [startsExpansion] at h
  · simp only [List.head?_cons, Option.any_some, startsExpansion, Bool.or_eq_false_iff] at h
    rw [if_neg (by rw [h.1.1.1, h.1.1.2]; decide)]
    exact reads_pure_iff.2 ⟨rfl, rfl⟩
  · exact reads_pure_iff.2 ⟨rfl, rfl⟩

theorem Reads.part_bind {part : Part} {parser : Parser Word} {tail : Word}
    (h : Reads parser source tail later) :
    Reads (parser >>= fun tail ↦ pure (part :: tail)) source (part :: tail) later :=
  reads_bind_iff.2 ⟨tail, later, h, reads_pure_iff.2 ⟨rfl, rfl⟩⟩

/-- What follows a word when its end is not hidden. -/
def EndsWord (after : Bytes) : Prop := after.head? = some ' ' ∨ after.head? = some '\n'

theorem EndsWord.exists_cons {after : Bytes} (h : EndsWord after) :
    ∃ c rest, after = c :: rest ∧ (c = ' ' ∨ c = '\n') := by
  rcases h with hhead | hhead <;> obtain ⟨rest, rfl⟩ := List.head?_eq_some_iff.1 hhead
  · exact ⟨' ', rest, rfl, .inl rfl⟩
  · exact ⟨'\n', rest, rfl, .inr rfl⟩

theorem EndsWord.all_isMeta {after : Bytes} (h : EndsWord after) :
    after.head?.all isMeta = true := by
  obtain ⟨_, _, rfl, rfl | rfl⟩ := h.exists_cons <;> rfl

theorem any_startsExpansion_append {text after : Bytes} (hafter : EndsWord after)
    (h : text.head?.any startsExpansion = false) :
    (text ++ after).head?.any startsExpansion = false := by
  cases text with
  | nil =>
    obtain ⟨_, _, rfl, rfl | rfl⟩ := hafter.exists_cons <;> rfl
  | cons c text => exact h

/-- A text without marks is read up to the end of the word. -/
theorem exists_reads_parts {fuel : Nat} {text after : Bytes} (htext : isUnmarked text = true)
    (hafter : EndsWord after) (hrest : source.rest = text ++ after) (hfuel : text.length < fuel) :
    ∃ later, later.rest = after ∧
      Reads (parts isMeta false fuel) source (plainWord text) later := by
  induction text generalizing source fuel with
  | nil =>
    obtain ⟨fuel, rfl⟩ : ∃ less, fuel = less + 1 := ⟨fuel - 1, by omega⟩
    refine ⟨source, hrest, ?_⟩
    rw [parts, reads_rest_bind_iff, hrest]
    obtain ⟨_, _, rfl, rfl | rfl⟩ := hafter.exists_cons <;> exact reads_pure_iff.2 ⟨rfl, rfl⟩
  | cons c text ih =>
    obtain ⟨fuel, rfl⟩ : ∃ less, fuel = less + 1 := ⟨fuel - 1, by omega⟩
    rw [List.length_cons] at hfuel
    simp only [isUnmarked, Bool.and_eq_true, Bool.not_eq_true', isQuote_eq_false_iff] at htext
    obtain ⟨⟨⟨hmeta, hbackslash, hsingle, hdouble, hbackquote⟩, hdollar⟩, hmarks⟩ := htext
    obtain ⟨middle, hmiddle, hskip⟩ := exists_reads_skip source 1
    rw [hrest, List.cons_append, List.drop_succ_cons, List.drop_zero] at hmiddle
    obtain ⟨later, hlater, htail⟩ := ih hmarks hmiddle (by omega : text.length < fuel)
    refine ⟨later, hlater, ?_⟩
    rw [parts, reads_rest_bind_iff, hrest, List.cons_append]
    split
    all_goals rename_i heq
    · exact absurd heq nofun
    · exact absurd (List.cons.inj heq).1 hbackslash
    · exact absurd (List.cons.inj heq).1 hbackslash
    · exact absurd (List.cons.inj heq).1 hsingle
    · exact absurd (List.cons.inj heq).1 hdouble
    · obtain ⟨rfl, -⟩ := List.cons.inj heq
      have hplain : middle.rest.head?.any startsExpansion = false := by
        rw [hmiddle]
        exact any_startsExpansion_append hafter (by simpa using hdollar)
      obtain ⟨fuel, rfl⟩ : ∃ less, fuel = less + 1 := ⟨fuel - 1, by omega⟩
      exact reads_bind_iff.2 ⟨_, _, hskip, reads_bind_iff.2
        ⟨_, _, reads_dollar_of_plain hplain, htail.part_bind⟩⟩
    · exact absurd (List.cons.inj heq).1 hbackquote
    · obtain ⟨rfl, -⟩ := List.cons.inj heq
      rw [if_neg (Bool.eq_false_iff.1 hmeta)]
      exact reads_bind_iff.2 ⟨_, _, hskip, htail.part_bind⟩

/-- A text that is a word of its own, and means only itself. -/
def isPlainWord (text : Bytes) : Bool :=
  !text.isEmpty && text.head? != some '#' && isUnmarked text

theorem isMeta_eq_false_of_mem {text : Bytes} (h : isUnmarked text = true) {c : Char}
    (hc : c ∈ text) : isMeta c = false := by
  induction text with
  | nil => exact absurd hc List.not_mem_nil
  | cons first text ih =>
    simp only [isUnmarked, Bool.and_eq_true, Bool.not_eq_true'] at h
    rcases List.mem_cons.1 hc with rfl | hc
    · exact h.1.1.1
    · exact ih h.2 hc

/-- The first character of a plain word. -/
theorem exists_plain_head {text : Bytes} (h : isPlainWord text = true) (after : Bytes) :
    ∃ c, (text ++ after).head? = some c ∧ isMeta c = false ∧ c ≠ '#' ∧ c ≠ '\\' := by
  cases text with
  | nil => exact absurd h Bool.false_ne_true
  | cons c text =>
    simp only [isPlainWord, isUnmarked, Bool.and_eq_true, Bool.not_eq_true',
      isQuote_eq_false_iff] at h
    obtain ⟨⟨-, hcomment⟩, ⟨⟨hmeta, hbackslash, -⟩, -⟩, -⟩ := h
    exact ⟨c, rfl, hmeta, by simpa using hcomment, hbackslash⟩

theorem isUnmarked_of_isPlainWord {text : Bytes} (h : isPlainWord text = true) :
    isUnmarked text = true := by
  rw [isPlainWord, Bool.and_eq_true] at h
  exact h.2

end Parser

end ProviderDocs.Shell
