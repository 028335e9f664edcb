import ProviderDocs.Proofs.Shell.Bytes
import ProviderDocs.Proofs.Shell.PlainWord

/-!
# Words of a command line

A line of words with a blank before each is read as these words if and only if every word is
plain. The other direction counts: texts that are as long together as the words of the line
leave nothing out.
-/

namespace ProviderDocs.Shell

/--
The words of a line, which is one simple command without assignments, redirections and
expansions. Quotes are taken off; patterns are not replaced by the names of files.
-/
def words? (line : Bytes) : Option (List Bytes) := do
  let (command, source) ←
    (Parser.simpleParts ⟨1, [], [], []⟩ (4 * line.length + 16)).run ⟨line ++ ['\n'], 1, 0⟩
  if command.assignments.isEmpty && command.redirects.isEmpty && source.rest == ['\n'] then
    command.words.mapM Parser.text?
  else none

/-! ## Words with a blank before each -/

def spaced (texts : List Bytes) : Bytes := texts.flatMap (' ' :: ·)

theorem spaced_cons (text : Bytes) (texts : List Bytes) :
    spaced (text :: texts) = ' ' :: (text ++ spaced texts) := rfl

theorem length_spaced_cons (text : Bytes) (texts : List Bytes) :
    (spaced (text :: texts)).length = text.length + 1 + (spaced texts).length := by
  rw [spaced_cons, List.length_cons, List.length_append, Nat.add_right_comm]

theorem ofText_intercalate_cons (first : String) (rest : List String) :
    Bytes.ofText (" ".intercalate (first :: rest)) =
      Bytes.ofText first ++ spaced (rest.map Bytes.ofText) := by
  induction rest generalizing first with
  | nil => rw [String.intercalate_singleton, List.map_nil, spaced, List.flatMap_nil,
      List.append_nil]
  | cons second rest ih =>
    have hblank : Bytes.ofText " " = [' '] := by decide +kernel
    rw [String.intercalate_cons_cons, Bytes.ofText_append, Bytes.ofText_append, ih, hblank,
      List.map_cons, spaced_cons, List.append_assoc, List.singleton_append]

theorem lineFeed_notMem_spaced {texts : List Bytes} (h : ∀ text ∈ texts, '\n' ∉ text) :
    '\n' ∉ spaced texts := by
  rw [spaced, List.mem_flatMap]
  rintro ⟨text, htext, hmem⟩
  rcases List.mem_cons.1 hmem with hfeed | hmem
  · exact absurd hfeed (by decide)
  · exact h text htext hmem

/-! ## Commands -/

def SimpleCommand.addWord (command : SimpleCommand) (word : Word) : SimpleCommand :=
  { command with words := command.words ++ [word] }

theorem SimpleCommand.redirects_addWord (command : SimpleCommand) (word : Word) :
    (command.addWord word).redirects = command.redirects := rfl

theorem SimpleCommand.words_addWord_ne_nil (command : SimpleCommand) (word : Word) :
    (command.addWord word).words ≠ [] :=
  List.append_ne_nil_of_right_ne_nil _ (List.cons_ne_nil _ _)

namespace Parser

variable {source later : Source} {command result : SimpleCommand} {fuel : Nat}

/-! ## Nothing but a word -/

theorem exists_head?_dropWhile (inClass : Char → Bool) (hblank : inClass ' ' = false)
    (hfeed : inClass '\n' = false) (text : Bytes) {after : Bytes} (hafter : EndsWord after) :
    ∃ c, ((text ++ after).dropWhile inClass).head? = some c ∧ (c ∈ text ∨ c = ' ' ∨ c = '\n') := by
  induction text with
  | nil =>
    obtain ⟨c, rest, rfl, hc⟩ := hafter.exists_cons
    have hstop : inClass c = false := by rcases hc with rfl | rfl <;> assumption
    exact ⟨c, by rw [List.nil_append, List.dropWhile_cons, hstop]; rfl, .inr hc⟩
  | cons c text ih =>
    rw [List.cons_append, List.dropWhile_cons]
    split
    · obtain ⟨other, hhead, hmem⟩ := ih
      exact ⟨other, hhead, hmem.imp_left (List.mem_cons_of_mem c)⟩
    · exact ⟨c, rfl, .inl List.mem_cons_self⟩

theorem redirectHead?_eq_none {text after : Bytes} (htext : isUnmarked text = true)
    (hafter : EndsWord after) : redirectHead? (text ++ after) = none := by
  obtain ⟨c, hhead, hc⟩ := exists_head?_dropWhile Char.isDigit rfl rfl text hafter
  have hne : ¬ (c = '<' ∨ c = '>') := by
    rcases hc with hc | rfl | rfl
    · have hmeta := isMeta_eq_false_of_mem htext hc
      rintro (rfl | rfl) <;> exact absurd hmeta (by decide)
    · decide
    · decide
  obtain ⟨rest, hrest⟩ := List.head?_eq_some_iff.1 hhead
  simp only [redirectHead?, drop_length_takeWhile, hrest]
  rw [if_neg]
  simpa using hne

theorem assignment?_eq_none {text after : Bytes} (htext : '=' ∉ text) (hafter : EndsWord after) :
    assignment? (text ++ after) = none := by
  obtain ⟨c, hhead, hc⟩ := exists_head?_dropWhile isNameChar rfl rfl text hafter
  have hne : c ≠ '=' := by
    rcases hc with hc | rfl | rfl
    · rintro rfl; exact htext hc
    · decide
    · decide
  simp only [assignment?, drop_length_takeWhile, hhead]
  rw [if_neg]
  simp [hne]

theorem reads_redirect?_none (h : redirectHead? source.rest = none) :
    Reads (redirect? fuel) source none source := by
  rw [redirect?, reads_rest_bind_iff, h]
  exact reads_pure_iff.2 ⟨rfl, rfl⟩

theorem eq_of_reads_redirect?_none (h : Reads (redirect? fuel) source none later) :
    later = source := by
  rw [redirect?, reads_rest_bind_iff] at h
  split at h
  · exact (reads_pure_iff.1 h).2
  · have hyields {parser : Parser (Option Redirect)} (h : Yields parser (·.isSome = true)) :
        ¬ Reads parser source none later :=
      fun hreads ↦ Bool.false_ne_true (h hreads)
    exact absurd h (hyields (.bind fun _ ↦ .bind fun _ ↦ .bind fun _ ↦
      .ite (.bind fun _ ↦ yields_pure rfl)
        (.bind fun _ ↦ .bind fun _ ↦ .ite yields_failure (yields_pure rfl))))

/-- A plain word, with blanks before it, is read as the next word of a command. -/
theorem exists_simpleParts_word_iff {blanks text after : Bytes}
    (hblanks : ∀ c ∈ blanks, isBlank c = true) (hplain : isPlainWord text = true)
    (hafter : EndsWord after) (hrest : source.rest = blanks ++ (text ++ after))
    (hcommand : command.words ≠ [] ∨ '=' ∉ text) (hfuel : source.rest.length ≤ fuel) :
    ∃ middle, middle.rest = after ∧ ∀ {result later},
      Reads (simpleParts command (fuel + 1)) source result later ↔
        Reads (simpleParts (command.addWord (plainWord text)) fuel) middle result later := by
  obtain ⟨c, hhead, hmeta, hcomment, hbackslash⟩ := exists_plain_head hplain after
  have hunmarked := isUnmarked_of_isPlainWord hplain
  have hlength : blanks.length + text.length < source.rest.length := by
    obtain ⟨_, _, rfl, -⟩ := hafter.exists_cons
    rw [hrest, List.length_append, List.length_append, List.length_cons]
    omega
  have hblank : ∀ c ∈ (text ++ after).head?, isBlank c = false ∧ c ≠ '#' ∧ c ≠ '\\' := by
    rw [hhead]
    rintro _ ⟨⟩
    exact ⟨(Bool.or_eq_false_iff.1 hmeta).1, hcomment, hbackslash⟩
  obtain ⟨start, hstart, hskip⟩ :=
    exists_reads_skipBlanks hblanks hrest hblank (by omega : blanks.length ≤ fuel)
  obtain ⟨middle, hmiddle, hword⟩ :=
    exists_reads_parts hunmarked hafter hstart (by omega : text.length < fuel)
  have hredirect : redirectHead? start.rest = none :=
    hstart ▸ redirectHead?_eq_none hunmarked hafter
  have hassignment : (if command.words.isEmpty = true then assignment? start.rest else none) =
      none := by
    rcases hcommand with hwords | hequals
    · rw [if_neg (by simpa using hwords)]
    · rw [hstart, assignment?_eq_none hequals hafter, ite_self]
  refine ⟨middle, hmiddle, fun {result later} ↦ ?_⟩
  rw [simpleParts, hskip.bind_iff, (reads_redirect?_none hredirect).bind_iff]
  simp only [reads_rest_bind_iff, hassignment]
  rw [if_neg (by rw [hstart, hhead, Option.all_some, hmeta]; exact Bool.false_ne_true)]
  exact hword.bind_iff

/-- The line feed ends a command. -/
theorem reads_simpleParts_lineFeed_iff (hrest : source.rest = ['\n']) :
    Reads (simpleParts command (fuel + 1)) source result later ↔
      result = command ∧ later = source := by
  have hskip : Reads (skipBlanks fuel) source () source := by
    cases fuel with
    | zero => exact reads_pure_iff.2 ⟨rfl, rfl⟩
    | succ fuel =>
      rw [skipBlanks, reads_rest_bind_iff, hrest]
      exact reads_pure_iff.2 ⟨rfl, rfl⟩
  rw [simpleParts, hskip.bind_iff, (reads_redirect?_none (by rw [hrest]; rfl)).bind_iff]
  simp only [reads_rest_bind_iff, hrest]
  rw [show assignment? ['\n'] = none from rfl, ite_self]
  exact reads_pure_iff

/-! ## Words after the first -/

theorem endsWord_spaced (texts : List Bytes) : EndsWord (spaced texts ++ ['\n']) := by
  cases texts with
  | nil => exact .inr rfl
  | cons text texts => exact .inl rfl

/-- Plain words are read one after the other. -/
theorem exists_reads_simpleParts {texts : List Bytes}
    (htexts : ∀ text ∈ texts, isPlainWord text = true) (hcommand : command.words ≠ [])
    (hrest : source.rest = spaced texts ++ ['\n']) (hfuel : source.rest.length < fuel) :
    ∃ later, later.rest = ['\n'] ∧ Reads (simpleParts command fuel) source
      { command with words := command.words ++ texts.map plainWord } later := by
  induction texts generalizing source command fuel with
  | nil =>
    obtain ⟨fuel, rfl⟩ : ∃ less, fuel = less + 1 := ⟨fuel - 1, by omega⟩
    refine ⟨source, hrest, (reads_simpleParts_lineFeed_iff hrest).2 ⟨?_, rfl⟩⟩
    rw [List.map_nil, List.append_nil]
  | cons text texts ih =>
    obtain ⟨fuel, rfl⟩ : ∃ less, fuel = less + 1 := ⟨fuel - 1, by omega⟩
    have hspaced : source.rest = [' '] ++ (text ++ (spaced texts ++ ['\n'])) := by
      rw [hrest, spaced_cons, List.cons_append, List.append_assoc, List.singleton_append]
    obtain ⟨middle, hmiddle, hword⟩ := exists_simpleParts_word_iff
      (List.forall_mem_singleton.2 rfl) (htexts text List.mem_cons_self) (endsWord_spaced texts) hspaced (.inl hcommand)
      (Nat.le_of_lt_succ hfuel)
    have hlength : middle.rest.length < fuel := by
      rw [hspaced, List.length_append, List.length_append, List.length_singleton] at hfuel
      rw [hmiddle]
      omega
    obtain ⟨later, hlater, h⟩ := ih (fun text htext ↦ htexts text (List.mem_cons_of_mem _ htext))
      (command.words_addWord_ne_nil (plainWord text)) hmiddle hlength
    refine ⟨later, hlater, hword.2 ?_⟩
    rwa [List.map_cons, List.append_cons]

/-! ## Counting -/

/--
The texts were read one after the other, each after a blank. They take no more than was read,
and with nothing left out they are plain.
-/
structure SpellsAll (texts : List Bytes) (before after : Bytes) : Prop where
  length_le : (spaced texts).length + after.length ≤ before.length
  plain : (spaced texts).length + after.length = before.length → after ≠ [] →
    ∀ text ∈ texts, isPlainWord text = true

theorem spellsAll_nil {before after : Bytes} (h : after.length ≤ before.length) :
    SpellsAll [] before after where
  length_le := by simpa [spaced] using h
  plain _ _ := nofun

theorem SpellsAll.cons {text before start middle after : Bytes} {texts : List Bytes}
    (h : SpellsAll texts middle after) (hword : Spells text start middle)
    (hbefore : start.length < before.length) (hcomment : start.head? ≠ some '#')
    (hstart : start.head?.all isMeta = false) (hmiddle : middle.head?.all isMeta = true) :
    SpellsAll (text :: texts) before after where
  length_le := by
    have := h.length_le
    have := hword.length_le
    rw [length_spaced_cons]
    omega
  plain hlength hafter := by
    have := h.length_le
    have := hword.length_le
    have hpos := List.length_pos_iff.2 hafter
    rw [length_spaced_cons] at hlength
    have hstand := hword.eq_append (by omega)
    have hunmarked := hword.unmarked (by omega) (List.length_pos_iff.1 (by omega))
    have hplain : isPlainWord text = true := by
      cases text with
      | nil =>
        rw [hstand, List.nil_append, hmiddle] at hstart
        exact absurd hstart.symm Bool.false_ne_true
      | cons c text =>
        rw [hstand, List.cons_append, List.head?_cons] at hcomment
        simp only [isPlainWord, hunmarked, List.isEmpty_cons, List.head?_cons, Bool.not_false,
          Bool.true_and, Bool.and_true]
        simpa using hcomment
    exact List.forall_mem_cons.2 ⟨hplain, h.plain (by omega) hafter⟩

/-- What the reader of a command can do after its first word. -/
theorem cases_of_reads_simpleParts
    (h : Reads (simpleParts command (fuel + 1)) source result later)
    (hcommand : command.words ≠ []) :
    ∃ start, Reads (skipBlanks fuel) source () start ∧
      ((∃ redirect middle, Reads
          (simpleParts { command with redirects := command.redirects ++ [redirect] } fuel)
          middle result later) ∨
        (result = command ∧ later = start) ∨
        ∃ word middle, start.rest.head?.all isMeta = false ∧
          Reads (parts isMeta false fuel) start word middle ∧
          Reads (simpleParts (command.addWord word) fuel) middle result later) := by
  rw [simpleParts] at h
  obtain ⟨_, start, hskip, h⟩ := reads_bind_iff.1 h
  refine ⟨start, hskip, ?_⟩
  obtain ⟨redirect, middle, hredirect, h⟩ := reads_bind_iff.1 h
  split at h
  · exact .inl ⟨_, middle, h⟩
  · rename_i hnone
    have hwords : command.words.isEmpty = false := by simpa using hcommand
    cases redirect with
    | some redirect => exact absurd rfl (hnone redirect)
    | none =>
      rw [eq_of_reads_redirect?_none hredirect] at h
      simp only [reads_rest_bind_iff, hwords, Bool.false_eq_true, if_false] at h
      split at h
      · exact .inr (.inl (reads_pure_iff.1 h))
      · rename_i hmeta
        obtain ⟨word, middle, hword, h⟩ := reads_bind_iff.1 h
        exact .inr (.inr ⟨word, middle, Bool.eq_false_iff.2 hmeta, hword, h⟩)

theorem redirects_isPrefix_of_reads
    (h : Reads (simpleParts command fuel) source result later) (hcommand : command.words ≠ []) :
    command.redirects <+: result.redirects := by
  induction fuel generalizing source command with
  | zero => rw [simpleParts] at h; exact absurd h not_reads_failure
  | succ fuel ih =>
    obtain ⟨start, -, ⟨redirect, middle, h⟩ | ⟨rfl, -⟩ | ⟨word, middle, -, -, h⟩⟩ :=
      cases_of_reads_simpleParts h hcommand
    · exact (List.prefix_append _ _).trans (ih h hcommand)
    · exact List.prefix_rfl
    · rw [← command.redirects_addWord word]
      exact ih h (command.words_addWord_ne_nil word)

/-- What a command reads besides its first word, when it is words to the end. -/
theorem spellsAll_of_reads_simpleParts
    (h : Reads (simpleParts command fuel) source result later) (hcommand : command.words ≠ [])
    (hredirects : result.redirects = []) :
    ∃ words, result.words = command.words ++ words ∧
      ∀ texts, words.mapM text? = some texts → source.rest.head?.all isMeta = true →
        source.rest.length < fuel → SpellsAll texts source.rest later.rest := by
  induction fuel generalizing source command with
  | zero => rw [simpleParts] at h; exact absurd h not_reads_failure
  | succ fuel ih =>
    obtain ⟨start, hskip, ⟨redirect, middle, h⟩ | ⟨rfl, rfl⟩ | ⟨word, middle, hmeta, hword, h⟩⟩ :=
      cases_of_reads_simpleParts h hcommand
    · have hprefix := redirects_isPrefix_of_reads h hcommand
      rw [hredirects] at hprefix
      exact absurd (List.prefix_nil.1 hprefix) (by simp)
    · refine ⟨[], (List.append_nil _).symm, fun texts htexts hhead hfuel ↦ ?_⟩
      cases htexts
      have := (rest_of_reads_skipBlanks (by omega) hskip).1
      exact spellsAll_nil this.length_le
    · obtain ⟨words, hresult, hall⟩ := ih h (command.words_addWord_ne_nil word)
      refine ⟨word :: words, by rw [hresult, SimpleCommand.addWord, ← List.append_cons],
        fun texts htexts hhead hfuel ↦ ?_⟩
      rw [List.mapM_cons] at htexts
      simp only [Option.bind_eq_bind, Option.bind_eq_some_iff, Option.pure_def,
        Option.some.injEq] at htexts
      obtain ⟨text, htext, others, hothers, rfl⟩ := htexts
      obtain ⟨hspells, hmiddle⟩ := spells_of_reads_parts hword htext
      obtain ⟨hsuffix, hcomment⟩ := rest_of_reads_skipBlanks (by omega) hskip
      have hbefore : start.rest.length < source.rest.length := by
        refine Nat.lt_of_le_of_ne hsuffix.length_le fun heq ↦ ?_
        rw [hsuffix.eq_of_length heq, hhead] at hmeta
        exact Bool.false_ne_true hmeta.symm
      have hlength : middle.rest.length < fuel := by
        have := hspells.length_le
        omega
      exact (hall others hothers hmiddle hlength).cons hspells hbefore hcomment hmeta hmiddle

theorem mapM_text?_plainWord (texts : List Bytes) :
    (texts.map plainWord).mapM text? = some texts := by
  induction texts with
  | nil => rfl
  | cons text texts ih =>
    rw [List.map_cons, List.mapM_cons, text?_plainWord, ih]
    rfl

end Parser

open ProviderDocs.Shell.Parser

theorem words?_eq_some_iff_reads {line : Bytes} {texts : List Bytes} :
    words? line = some texts ↔ ∃ command later,
      Reads (simpleParts ⟨1, [], [], []⟩ (4 * line.length + 16)) ⟨line ++ ['\n'], 1, 0⟩
        command later ∧
      command.assignments = [] ∧ command.redirects = [] ∧ later.rest = ['\n'] ∧
        command.words.mapM text? = some texts := by
  simp only [words?, Reads, Option.bind_eq_bind, Option.bind_eq_some_iff, Prod.exists,
    Option.ite_none_right_eq_some, Bool.and_eq_true, List.isEmpty_iff, beq_iff_eq, and_assoc]

theorem mapM_text?_plainWord_cons_iff {name : Bytes} {words : List Word} {texts : List Bytes} :
    (plainWord name :: words).mapM text? = some (name :: texts) ↔
      words.mapM text? = some texts := by
  rw [List.mapM_cons, text?_plainWord]
  simp [Option.bind_eq_some_iff]

/--
The words of a command line come back as they are if and only if they are plain; of the name
of the command it is assumed.
-/
theorem words?_spaced_iff {name : Bytes} (hname : isPlainWord name = true) (hequals : '=' ∉ name)
    (texts : List Bytes) :
    words? (name ++ spaced texts) = some (name :: texts) ↔
      ∀ text ∈ texts, isPlainWord text = true := by
  let source : Source := ⟨name ++ spaced texts ++ ['\n'], 1, 0⟩
  let command : SimpleCommand := ⟨1, [], [], []⟩
  have hrest : source.rest = [] ++ (name ++ (spaced texts ++ ['\n'])) :=
    List.append_assoc ..
  have hcommand : command.words ≠ [] ∨ '=' ∉ name := .inr hequals
  have hfuel : source.rest.length ≤ 4 * (name ++ spaced texts).length + 15 := by
    have : source.rest.length = (name ++ spaced texts).length + 1 := List.length_append
    omega
  obtain ⟨middle, hmiddle, hfirst⟩ := exists_simpleParts_word_iff
    (fun _ hc ↦ absurd hc List.not_mem_nil) hname (endsWord_spaced texts) hrest hcommand hfuel
  have hlength : middle.rest.length < 4 * (name ++ spaced texts).length + 15 := by
    rw [hmiddle, List.length_append, List.length_append, List.length_singleton]
    cases name with
    | nil => exact absurd hname Bool.false_ne_true
    | cons c name => rw [List.length_cons]; omega
  have hnext := command.words_addWord_ne_nil (plainWord name)
  rw [words?_eq_some_iff_reads]
  constructor
  · rintro ⟨result, later, hreads, -, hredirects, hlater, htexts⟩
    obtain ⟨words, hwords, hall⟩ :=
      spellsAll_of_reads_simpleParts (hfirst.1 hreads) hnext hredirects
    rw [hwords] at htexts
    have hmeta : middle.rest.head?.all isMeta = true :=
      hmiddle ▸ (endsWord_spaced texts).all_isMeta
    have hspells := hall texts (mapM_text?_plainWord_cons_iff.1 htexts) hmeta hlength
    refine hspells.plain ?_ (by rw [hlater]; exact List.cons_ne_nil _ _)
    rw [hlater, hmiddle, List.length_append]
  · intro htexts
    obtain ⟨later, hlater, hreads⟩ := exists_reads_simpleParts htexts hnext hmiddle hlength
    refine ⟨_, later, hfirst.2 hreads, rfl, rfl, hlater, ?_⟩
    exact mapM_text?_plainWord (name :: texts)

/-- Other words need quotes. -/
example : words? (Bytes.ofText "pulumi --out '/tmp/a b' c\\ d # e") =
    some (["pulumi", "--out", "/tmp/a b", "c d"].map Bytes.ofText) := by
  decide +kernel

end ProviderDocs.Shell
