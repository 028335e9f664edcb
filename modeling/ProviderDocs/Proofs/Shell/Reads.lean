import ProviderDocs.Shell.Parser

/-!
# Runs of the shell's reader

A run that succeeds is a judgement about a source, a result and the source that is left. It
splits at every step of a parser.
-/

namespace ProviderDocs.Shell.Parser

variable {α β : Type} {source later : Source}

/-- From the source the parser gives the result and leaves the later source. -/
def Reads (parser : Parser α) (source : Source) (result : α) (later : Source) : Prop :=
  parser.run source = some (result, later)

@[simp]
theorem reads_pure_iff {value result : α} :
    Reads (pure value) source result later ↔ result = value ∧ later = source := by
  simp only [Reads, StateT.run_pure, Option.pure_def, Option.some.injEq, Prod.mk.injEq]
  exact and_congr eq_comm eq_comm

@[simp]
theorem not_reads_failure {result : α} : ¬ Reads failure source result later :=
  nofun

theorem reads_bind_iff {first : Parser α} {next : α → Parser β} {result : β} :
    Reads (first >>= next) source result later ↔
      ∃ value middle, Reads first source value middle ∧ Reads (next value) middle result later := by
  simp only [Reads, StateT.run_bind, Option.bind_eq_bind, Option.bind_eq_some_iff, Prod.exists]

/-- A run goes on where its first step ends. -/
theorem Reads.bind_iff {first : Parser α} {next : α → Parser β} {value : α} {middle : Source}
    {result : β} (h : Reads first source value middle) :
    Reads (first >>= next) source result later ↔ Reads (next value) middle result later := by
  rw [Reads] at h
  simp only [Reads, StateT.run_bind, Option.bind_eq_bind, h, Option.bind_some]

@[simp]
theorem reads_rest_bind_iff {next : Bytes → Parser β} {result : β} :
    Reads (rest >>= next) source result later ↔ Reads (next source.rest) source result later := by
  simp [Reads, rest]

theorem reads_liftM_bind_iff {value : Option α} {next : α → Parser β} {result : β} :
    Reads (liftM value >>= next) source result later ↔
      ∃ found, value = some found ∧ Reads (next found) source result later := by
  cases value <;> simp [Reads]

theorem Reads.rest_of_skip {count : Nat} {result : Unit}
    (h : Reads (skip count) source result later) : later.rest = source.rest.drop count := by
  cases h
  rfl

theorem exists_reads_skip (source : Source) (count : Nat) :
    ∃ later, later.rest = source.rest.drop count ∧ Reads (skip count) source () later :=
  ⟨_, rfl, rfl⟩

/-- A run that begins by moving over characters goes on after them. -/
theorem Reads.of_skip_bind {count : Nat} {next : Parser β} {result : β}
    (h : Reads (skip count >>= fun _ ↦ next) source result later) :
    ∃ middle, middle.rest = source.rest.drop count ∧ Reads next middle result later := by
  obtain ⟨_, middle, hskip, hnext⟩ := reads_bind_iff.1 h
  exact ⟨middle, hskip.rest_of_skip, hnext⟩

theorem drop_length_takeWhile (inClass : Char → Bool) (text : Bytes) :
    text.drop (text.takeWhile inClass).length = text.dropWhile inClass := by
  conv => lhs; arg 2; rw [← List.takeWhile_append_dropWhile (p := inClass) (l := text)]
  rw [List.drop_left]

theorem rest_of_reads_takeWhile {inClass : Char → Bool} {taken : Bytes}
    (h : Reads (takeWhile inClass) source taken later) :
    later.rest = source.rest.dropWhile inClass := by
  rw [takeWhile, reads_rest_bind_iff] at h
  obtain ⟨middle, hmiddle, h⟩ := h.of_skip_bind
  rw [(reads_pure_iff.1 h).2, hmiddle, drop_length_takeWhile]

/-- The same over certain characters. -/
theorem Reads.of_skip_append {rest : Bytes} {next : Parser β} {result : β} (front : Bytes)
    (hrest : source.rest = front ++ rest)
    (h : Reads (skip front.length >>= fun _ ↦ next) source result later) :
    ∃ middle, middle.rest = rest ∧ Reads next middle result later := by
  obtain ⟨middle, hmiddle, h⟩ := h.of_skip_bind
  exact ⟨middle, by rw [hmiddle, hrest, List.drop_left], h⟩

/-! ## Blanks -/

/-- What blanks leave is the end of the source. It does not begin with a comment. -/
theorem rest_of_reads_skipBlanks {fuel : Nat} (hfuel : source.rest.length ≤ fuel)
    (h : Reads (skipBlanks fuel) source () later) :
    later.rest <:+ source.rest ∧ later.rest.head? ≠ some '#' := by
  induction fuel generalizing source with
  | zero =>
    have hempty : source.rest = [] := List.eq_nil_of_length_eq_zero (by omega)
    rw [skipBlanks, reads_pure_iff] at h
    rw [h.2, hempty]
    exact ⟨List.suffix_rfl, nofun⟩
  | succ fuel ih =>
    have hskip (count : Nat) (hpos : 0 < count) (hcount : count ≤ source.rest.length)
        (h : Reads (skip count >>= fun _ ↦ skipBlanks fuel) source () later) :
        later.rest <:+ source.rest ∧ later.rest.head? ≠ some '#' := by
      obtain ⟨middle, hmiddle, h⟩ := h.of_skip_bind
      have hlength := congrArg List.length hmiddle
      rw [List.length_drop] at hlength
      have := ih (by omega) h
      exact ⟨this.1.trans (hmiddle ▸ List.drop_suffix _ _), this.2⟩
    rw [skipBlanks, reads_rest_bind_iff] at h
    split at h
    · rename_i hrest
      exact hskip 2 (by omega) (by simp [hrest]) h
    · obtain ⟨taken, middle, htake, h⟩ := reads_bind_iff.1 h
      have hlater := rest_of_reads_takeWhile htake
      rw [(reads_pure_iff.1 h).2]
      refine ⟨hlater ▸ List.dropWhile_suffix _, fun hhead ↦ ?_⟩
      have := List.head?_dropWhile_not (· != '\n') source.rest
      rw [← hlater, hhead] at this
      exact absurd this (by decide)
    · rename_i c rest _ hcomment hrest
      split at h
      · exact hskip 1 (by omega) (by simp [hrest]) h
      · rw [(reads_pure_iff.1 h).2, hrest]
        exact ⟨List.suffix_rfl, fun hhead ↦ hcomment (by simpa using hhead)⟩
    · rename_i hrest
      rw [(reads_pure_iff.1 h).2, hrest]
      exact ⟨List.suffix_rfl, nofun⟩

theorem exists_reads_skipBlanks {fuel : Nat} {blanks after : Bytes}
    (hblanks : ∀ c ∈ blanks, isBlank c = true) (hrest : source.rest = blanks ++ after)
    (hafter : ∀ c ∈ after.head?, isBlank c = false ∧ c ≠ '#' ∧ c ≠ '\\')
    (hfuel : blanks.length ≤ fuel) :
    ∃ later, later.rest = after ∧ Reads (skipBlanks fuel) source () later := by
  induction blanks generalizing source fuel with
  | nil =>
    refine ⟨source, hrest, ?_⟩
    cases fuel with
    | zero => exact reads_pure_iff.2 ⟨rfl, rfl⟩
    | succ fuel =>
      rw [skipBlanks, reads_rest_bind_iff, hrest, List.nil_append]
      split
      · exact absurd rfl (hafter _ rfl).2.2
      · exact absurd rfl (hafter _ rfl).2.1
      · rw [if_neg (Bool.eq_false_iff.1 (hafter _ rfl).1)]
        exact reads_pure_iff.2 ⟨rfl, rfl⟩
      · exact reads_pure_iff.2 ⟨rfl, rfl⟩
  | cons c blanks ih =>
    rw [List.length_cons] at hfuel
    obtain ⟨fuel, rfl⟩ : ∃ less, fuel = less + 1 := ⟨fuel - 1, by omega⟩
    obtain ⟨middle, hmiddle, hskip⟩ := exists_reads_skip source 1
    rw [hrest, List.cons_append, List.drop_succ_cons, List.drop_zero] at hmiddle
    obtain ⟨later, hlater, h⟩ :=
      ih (fun c hc ↦ hblanks c (List.mem_cons_of_mem _ hc)) hmiddle (by omega : _ ≤ fuel)
    have hblank := hblanks c List.mem_cons_self
    refine ⟨later, hlater, ?_⟩
    rw [skipBlanks, reads_rest_bind_iff, hrest, List.cons_append]
    split
    all_goals rename_i heq
    · rw [(List.cons.inj heq).1] at hblank
      exact absurd hblank (by decide)
    · rw [(List.cons.inj heq).1] at hblank
      exact absurd hblank (by decide)
    · rw [← (List.cons.inj heq).1, if_pos hblank]
      exact hskip.bind_iff.2 h
    · exact absurd heq nofun

end ProviderDocs.Shell.Parser
