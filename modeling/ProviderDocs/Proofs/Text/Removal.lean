import Mathlib.Data.List.Infix
import ProviderDocs.Proofs.Text.Replace

/-!
# Taking occurrences out of a text

Where something shorter is put for the occurrences of a pattern, a text stays as it is only when it
has none. But what stands around an occurrence comes together when it is taken out, and may be an
occurrence of the pattern, or of something else, that was not there before.
-/

namespace ProviderDocs.Text

variable {pattern replacement text : List Char}

/-! ## Lengths -/

theorem length_replaceAll_le (hne : pattern ≠ []) (hle : replacement.length ≤ pattern.length)
    (text : List Char) : (replaceAll pattern replacement text).length ≤ text.length := by
  induction text using occurrence_induction hne with
  | nil => simp
  | cons c text hbegins ih =>
    rw [replaceAll_cons_of_no_match hbegins]
    exact Nat.succ_le_succ ih
  | found rest ih =>
    rw [replaceAll_append_self hne, List.length_append, List.length_append]
    exact Nat.add_le_add hle ih

theorem length_replaceAll_lt (hlt : replacement.length < pattern.length) (h : pattern <:+: text) :
    (replaceAll pattern replacement text).length < text.length := by
  have hne : pattern ≠ [] := List.ne_nil_of_length_pos (Nat.zero_lt_of_lt hlt)
  induction text using occurrence_induction hne with
  | nil => exact absurd (List.infix_nil.mp h) hne
  | cons c text hbegins ih =>
    rw [replaceAll_cons_of_no_match hbegins]
    exact Nat.succ_lt_succ (ih ((List.infix_cons_iff.mp h).resolve_left hbegins))
  | found rest =>
    rw [replaceAll_append_self hne, List.length_append, List.length_append]
    exact Nat.add_lt_add_of_lt_of_le hlt (length_replaceAll_le hne hlt.le rest)

/-- Where something shorter is put for a pattern, only a text without the pattern stays. -/
theorem replaceAll_eq_self_iff (hlt : replacement.length < pattern.length) :
    replaceAll pattern replacement text = text ↔ ¬ pattern <:+: text :=
  ⟨fun h hfound ↦ (length_replaceAll_lt hlt hfound).ne (congrArg List.length h), replaceAll_eq_self⟩

/-! ## Occurrences that come together -/

/-- An occurrence of the pattern stands in the text, cut into pieces by others. -/
def HoldsSplit (pattern text : List Char) : Prop :=
  ∃ pieces : List (List Char), 2 ≤ pieces.length ∧ pieces.head? ≠ some [] ∧
    pieces.getLast? ≠ some [] ∧ pieces.flatten = pattern ∧ pattern.intercalate pieces <:+: text

theorem HoldsSplit.mono {part : List Char} (h : HoldsSplit pattern part)
    (hpart : part <:+: text) : HoldsSplit pattern text := by
  obtain ⟨pieces, hlength, hhead, hlast, hflatten, hinfix⟩ := h
  exact ⟨pieces, hlength, hhead, hlast, hflatten, hinfix.trans hpart⟩

/-- What a text begins with once occurrences are out, it begins with in pieces between them. -/
theorem exists_pieces_of_prefix_replaceAll (hne : pattern ≠ []) {word : List Char}
    (hword : word ≠ []) (h : word <+: replaceAll pattern [] text) :
    ∃ pieces : List (List Char), pieces ≠ [] ∧ pieces.getLast? ≠ some [] ∧ pieces.flatten = word ∧
      pattern.intercalate pieces <+: text := by
  induction text using occurrence_induction hne generalizing word with
  | nil => exact absurd (List.prefix_nil.mp (by simpa using h)) hword
  | cons c text hbegins ih =>
    obtain ⟨a, word, rfl⟩ := List.exists_cons_of_ne_nil hword
    rw [replaceAll_cons_of_no_match hbegins, List.cons_prefix_cons] at h
    obtain ⟨rfl, hrest⟩ := h
    by_cases hmore : word = []
    · subst hmore
      exact ⟨[[a]], by simp, by simp, rfl, by simp⟩
    · obtain ⟨pieces, hpieces, hlast, rfl, hprefix⟩ := ih hmore hrest
      obtain ⟨piece, pieces, rfl⟩ := List.exists_cons_of_ne_nil hpieces
      refine ⟨(a :: piece) :: pieces, by simp, ?_, rfl, ?_⟩
      · cases pieces with
        | nil => simp
        | cons => simpa using hlast
      · cases pieces with
        | nil => simpa using hprefix
        | cons second pieces => simpa [List.intercalate_cons_cons] using hprefix
  | found rest ih =>
    rw [replaceAll_append_self hne, List.nil_append] at h
    obtain ⟨pieces, hpieces, hlast, rfl, hprefix⟩ := ih hword h
    obtain ⟨piece, pieces, rfl⟩ := List.exists_cons_of_ne_nil hpieces
    refine ⟨[] :: piece :: pieces, by simp, by simpa using hlast, rfl, ?_⟩
    rw [List.intercalate_cons_cons, List.nil_append]
    exact (List.prefix_append_right_inj pattern).mpr hprefix

theorem holdsSplit_of_infix_replaceAll (hne : pattern ≠ [])
    (h : pattern <:+: replaceAll pattern [] text) : HoldsSplit pattern text := by
  obtain ⟨p, tail, rfl⟩ := List.exists_cons_of_ne_nil hne
  induction text using occurrence_induction hne with
  | nil => simp at h
  | cons c text hbegins ih =>
    rw [replaceAll_cons_of_no_match hbegins, List.infix_cons_iff, List.cons_prefix_cons] at h
    rcases h with ⟨rfl, hrest⟩ | hrest
    · have htail : tail ≠ [] := by
        rintro rfl
        exact hbegins (List.cons_prefix_cons.mpr ⟨rfl, List.nil_prefix⟩)
      obtain ⟨pieces, hpieces, hlast, hflatten, hprefix⟩ :=
        exists_pieces_of_prefix_replaceAll hne htail hrest
      rcases pieces with _ | ⟨piece, _ | ⟨second, more⟩⟩
      · exact absurd rfl hpieces
      · -- One piece is the whole of the pattern, which does not stand here.
        rw [List.flatten_singleton] at hflatten
        rw [List.intercalate_singleton, hflatten] at hprefix
        exact absurd (List.cons_prefix_cons.mpr ⟨rfl, hprefix⟩) hbegins
      · refine ⟨(p :: piece) :: second :: more, by simp, by simp, by simpa using hlast, ?_, ?_⟩
        · exact congrArg (p :: ·) hflatten
        · rw [List.intercalate_cons_cons] at hprefix ⊢
          exact (List.cons_prefix_cons.mpr ⟨rfl, hprefix⟩).isInfix
    · exact (ih hrest).mono (List.suffix_cons c text).isInfix
  | found rest ih =>
    rw [replaceAll_append_self hne, List.nil_append] at h
    exact (ih h).mono (List.suffix_append (p :: tail) rest).isInfix

section Marked

variable {p : Char} {tail : List Char}

/-- An occurrence of a pattern with its first character only at its front begins no earlier than
that character. -/
theorem replaceAll_append_mark (h : p ∉ tail) (replacement front rest : List Char) :
    replaceAll (p :: tail) replacement (front ++ p :: rest) =
      replaceAll (p :: tail) replacement front ++
        replaceAll (p :: tail) replacement (p :: rest) := by
  have hne : p :: tail ≠ [] := List.cons_ne_nil p tail
  induction front using occurrence_induction hne with
  | nil => rw [replaceAll_nil, List.nil_append, List.nil_append]
  | cons c front hbegins ih =>
    have hover : ¬ p :: tail <+: c :: (front ++ p :: rest) :=
      mt (prefix_of_cons_prefix_append h (List.cons_ne_nil c front)) hbegins
    rw [List.cons_append, replaceAll_cons_of_no_match hover, ih,
      replaceAll_cons_of_no_match hbegins, List.cons_append]
  | found front ih =>
    rw [List.append_assoc, replaceAll_append_self hne, ih, replaceAll_append_self hne,
      List.append_assoc]

/-- Between pieces without the first character of a pattern its occurrences go, and the pieces
stay. -/
theorem replaceAll_intercalate_append {pieces : List (List Char)}
    (h : ∀ piece ∈ pieces, p ∉ piece) (rest : List Char) :
    replaceAll (p :: tail) [] ((p :: tail).intercalate pieces ++ rest) =
      pieces.flatten ++ replaceAll (p :: tail) [] rest := by
  induction pieces with
  | nil => rfl
  | cons piece pieces ih =>
    obtain ⟨hpiece, hpieces⟩ := List.forall_mem_cons.mp h
    cases pieces with
    | nil =>
      rw [List.intercalate_singleton, List.flatten_singleton, replaceAll_append_of_notMem [] hpiece]
    | cons second more =>
      rw [List.flatten_cons, List.append_assoc, ← ih hpieces, List.intercalate_cons_cons,
        List.append_assoc, List.append_assoc, replaceAll_append_of_notMem [] hpiece,
        replaceAll_append_self (List.cons_ne_nil p tail), List.nil_append]

/-- A beginning of a pattern is not an occurrence of it when the pattern begins anew behind it. -/
theorem not_prefix_of_length_lt (h : p ∉ tail) {front : List Char}
    (hlt : front.length < tail.length) (rest : List Char) :
    ¬ p :: tail <+: p :: (front ++ p :: rest) := by
  rw [List.cons_prefix_cons, prefix_append_cons_iff h, not_and]
  exact fun _ hprefix ↦ Nat.not_le_of_lt hlt hprefix.length_le

/-- Once occurrences are out, one stands where one stood cut into pieces by others. -/
theorem infix_replaceAll_nil_iff (h : p ∉ tail) :
    p :: tail <:+: replaceAll (p :: tail) [] text ↔ HoldsSplit (p :: tail) text := by
  have hne : p :: tail ≠ [] := List.cons_ne_nil p tail
  refine ⟨holdsSplit_of_infix_replaceAll hne, ?_⟩
  rintro ⟨pieces, hlength, hhead, hlast, hflatten, front, back, rfl⟩
  rcases pieces with _ | ⟨_ | ⟨q, piece⟩, _ | ⟨second, more⟩⟩
  · simp at hlength
  · simp at hlength
  · simp at hhead
  · simp at hlength
  · obtain ⟨rfl, htail⟩ := List.cons.inj hflatten
    change piece ++ (second :: more).flatten = tail at htail
    have hbelow : ∀ part ∈ second :: more, q ∉ part := fun part hpart hmem ↦
      h (htail ▸ List.mem_append_right piece (List.mem_flatten.mpr ⟨part, hpart, hmem⟩))
    have hlt : piece.length < tail.length := by
      have hrest : (second :: more).flatten ≠ [] := fun hnil ↦ hlast <| by
        rw [List.getLast?_cons_cons, List.getLast?_eq_some_getLast (List.cons_ne_nil second more)]
        exact congrArg some (List.flatten_eq_nil_iff.mp hnil _ (List.getLast_mem _))
      rw [← htail, List.length_append]
      exact Nat.lt_add_of_pos_right (List.length_pos_iff.mpr hrest)
    have hpiece : q ∉ piece := fun hmem ↦ h (htail ▸ List.mem_append_left _ hmem)
    -- The first piece is too short for an occurrence, so the one behind it is the first to go.
    rw [List.intercalate_cons_cons]
    simp only [List.append_assoc, List.cons_append]
    rw [replaceAll_append_mark h, replaceAll_cons_of_no_match (not_prefix_of_length_lt h hlt _),
      replaceAll_append_of_notMem [] hpiece]
    change _ <:+: _ ++ q :: (piece ++ replaceAll _ [] ((q :: tail) ++ _))
    rw [replaceAll_append_self hne, List.nil_append, replaceAll_intercalate_append hbelow,
      ← List.append_assoc, htail]
    exact ⟨replaceAll (q :: tail) [] front, replaceAll (q :: tail) [] back, by simp⟩

end Marked

/-! ## What has nothing in common with a pattern -/

/-- What shares no character with a pattern or with what is put for it occurs where it did. -/
theorem infix_replaceAll_iff_of_disjoint {p c : Char} {tail other : List Char}
    (hapart : ∀ a ∈ other, a ∉ p :: tail) (hc : c ∉ other) :
    other <:+: replaceAll (p :: tail) [c] text ↔ other <:+: text := by
  refine ⟨infix_of_infix_replaceAll (List.cons_ne_nil p tail) hc, ?_⟩
  rintro ⟨front, back, rfl⟩
  cases other with
  | nil => exact List.nil_infix
  | cons first other =>
    obtain ⟨hfirst, hrest⟩ := List.forall_mem_cons.mp hapart
    have hp : p ∉ other := fun hmem ↦ hrest p hmem List.mem_cons_self
    rw [List.append_assoc, List.cons_append,
      replaceAll_append_cons _ (List.cons_ne_nil p tail) hfirst,
      replaceAll_append_of_notMem [c] hp]
    exact ⟨replaceAll (p :: tail) [c] front, replaceAll (p :: tail) [c] back, by simp⟩

/-! ## Pairs of characters -/

section Pair

variable {b c : Char}

theorem exists_replicate_of_prefix_replaceAll (hne : pattern ≠ [])
    (h : [c] <+: replaceAll pattern [] text) :
    ∃ count, (List.replicate count pattern).flatten ++ [c] <+: text := by
  induction text using occurrence_induction hne with
  | nil => simp at h
  | cons a text hbegins ih =>
    rw [replaceAll_cons_of_no_match hbegins, List.cons_prefix_cons] at h
    exact ⟨0, List.cons_prefix_cons.mpr ⟨h.1, List.nil_prefix⟩⟩
  | found rest ih =>
    rw [replaceAll_append_self hne, List.nil_append] at h
    obtain ⟨count, hprefix⟩ := ih h
    refine ⟨count + 1, ?_⟩
    rw [List.replicate_succ, List.flatten_cons, List.append_assoc]
    exact (List.prefix_append_right_inj pattern).mpr hprefix

theorem replaceAll_replicate_append (hne : pattern ≠ []) (count : Nat) (rest : List Char) :
    replaceAll pattern [] ((List.replicate count pattern).flatten ++ rest) =
      replaceAll pattern [] rest := by
  induction count with
  | zero => rfl
  | succ count ih =>
    rw [List.replicate_succ, List.flatten_cons, List.append_assoc, replaceAll_append_self hne, ih,
      List.nil_append]

/-- Two characters come together where only occurrences stood between them. -/
theorem pair_infix_replaceAll_nil_iff (hne : pattern ≠ []) (hb : b ∉ pattern) (hc : c ∉ pattern) :
    [b, c] <:+: replaceAll pattern [] text ↔
      ∃ count, b :: ((List.replicate count pattern).flatten ++ [c]) <:+: text := by
  constructor
  · intro h
    induction text using occurrence_induction hne with
    | nil => simp at h
    | cons a text hbegins ih =>
      rw [replaceAll_cons_of_no_match hbegins, List.infix_cons_iff, List.cons_prefix_cons] at h
      rcases h with ⟨rfl, hrest⟩ | hrest
      · obtain ⟨count, hprefix⟩ := exists_replicate_of_prefix_replaceAll hne hrest
        exact ⟨count, (List.cons_prefix_cons.mpr ⟨rfl, hprefix⟩).isInfix⟩
      · obtain ⟨count, hinfix⟩ := ih hrest
        exact ⟨count, hinfix.trans (List.suffix_cons a text).isInfix⟩
    | found rest ih =>
      rw [replaceAll_append_self hne, List.nil_append] at h
      obtain ⟨count, hinfix⟩ := ih h
      exact ⟨count, hinfix.trans (List.suffix_append pattern rest).isInfix⟩
  · rintro ⟨count, front, back, rfl⟩
    simp only [List.append_assoc, List.cons_append, List.nil_append]
    rw [replaceAll_append_cons [] hne hb, replaceAll_replicate_append hne]
    have hsplit := replaceAll_append_cons [] hne hc [] back
    rw [List.nil_append, replaceAll_nil, List.nil_append] at hsplit
    rw [hsplit]
    exact ⟨replaceAll pattern [] front, replaceAll pattern [] back, by simp⟩

variable {between : List Char}

theorem prefix_of_prefix_replaceAll_pair (hc : c ∉ between)
    (h : between ++ [c] <+: replaceAll [b, c] [c] text) :
    between ++ [b, c] <+: text ∨ between ++ [c] <+: text := by
  induction text using occurrence_induction (List.cons_ne_nil b [c]) generalizing between with
  | nil => simp at h
  | cons a text hbegins ih =>
    rw [replaceAll_cons_of_no_match hbegins] at h
    cases between with
    | nil =>
      have hc := (List.cons_prefix_cons.mp h).1
      exact .inr (List.cons_prefix_cons.mpr ⟨hc, List.nil_prefix⟩)
    | cons d between =>
      obtain ⟨rfl, hrest⟩ := List.cons_prefix_cons.mp h
      exact (ih (List.not_mem_of_not_mem_cons hc) hrest).imp
        (fun hprefix ↦ List.cons_prefix_cons.mpr ⟨rfl, hprefix⟩)
        (fun hprefix ↦ List.cons_prefix_cons.mpr ⟨rfl, hprefix⟩)
  | found rest =>
    cases between with
    | nil => exact .inl (List.prefix_append [b, c] rest)
    | cons d between =>
      rw [replaceAll_append_self (List.cons_ne_nil b [c])] at h
      exact absurd (List.mem_cons.mpr (.inl (List.cons_prefix_cons.mp h).1.symm)) hc

/-- Of a pair the second character is left. It stands behind the first again where the pair stood
there, and where something stood between the two. -/
theorem infix_replaceAll_pair_iff (hbc : b ≠ c) (hb : b ∉ between) (hc : c ∉ between) :
    b :: (between ++ [c]) <:+: replaceAll [b, c] [c] text ↔
      b :: (between ++ [b, c]) <:+: text ∨
        between ≠ [] ∧ b :: (between ++ [c]) <:+: text := by
  have hne : [b, c] ≠ [] := List.cons_ne_nil b [c]
  have hmark : b ∉ [c] := fun hmem ↦ hbc (List.mem_singleton.mp hmem)
  constructor
  · intro h
    induction text using occurrence_induction hne with
    | nil => simp at h
    | cons a text hbegins ih =>
      rw [replaceAll_cons_of_no_match hbegins, List.infix_cons_iff, List.cons_prefix_cons] at h
      rcases h with ⟨rfl, hrest⟩ | hrest
      · rcases prefix_of_prefix_replaceAll_pair hc hrest with hpair | hlast
        · exact .inl (List.cons_prefix_cons.mpr ⟨rfl, hpair⟩).isInfix
        · have hfound : b :: (between ++ [c]) <+: b :: text :=
            List.cons_prefix_cons.mpr ⟨rfl, hlast⟩
          refine .inr ⟨?_, hfound.isInfix⟩
          rintro rfl
          exact hbegins hfound
      · exact (ih hrest).imp (·.trans (List.suffix_cons a text).isInfix)
          (And.imp_right (·.trans (List.suffix_cons a text).isInfix))
    | found rest ih =>
      rw [replaceAll_append_self hne, List.singleton_append, List.infix_cons_iff,
        List.cons_prefix_cons] at h
      have hrest := h.resolve_left fun hbegins ↦ hbc hbegins.1
      exact (ih hrest).imp (·.trans (List.suffix_append [b, c] rest).isInfix)
        (And.imp_right (·.trans (List.suffix_append [b, c] rest).isInfix))
  · rintro (⟨front, back, rfl⟩ | ⟨hbetween, front, back, rfl⟩)
    · have hover : ¬ [b, c] <+: b :: (between ++ b :: c :: back) := by
        rw [List.cons_prefix_cons, prefix_append_cons_iff hmark]
        exact fun hbegins ↦ hc (hbegins.2.subset List.mem_cons_self)
      simp only [List.append_assoc, List.cons_append, List.nil_append]
      rw [replaceAll_append_mark hmark, replaceAll_cons_of_no_match hover,
        replaceAll_append_of_notMem [c] hb]
      change _ <:+: _ ++ b :: (between ++ replaceAll [b, c] [c] ([b, c] ++ back))
      rw [replaceAll_append_self hne]
      exact ⟨replaceAll [b, c] [c] front, replaceAll [b, c] [c] back, by simp⟩
    · have hover : ¬ [b, c] <+: b :: (between ++ c :: back) := by
        obtain ⟨d, between, rfl⟩ := List.exists_cons_of_ne_nil hbetween
        intro hbegins
        obtain ⟨rfl, -⟩ := List.cons_prefix_cons.mp (List.cons_prefix_cons.mp hbegins).2
        exact hc List.mem_cons_self
      have hlast : ¬ [b, c] <+: c :: back := fun hbegins ↦ hbc (List.cons_prefix_cons.mp hbegins).1
      simp only [List.append_assoc, List.cons_append, List.nil_append]
      rw [replaceAll_append_mark hmark, replaceAll_cons_of_no_match hover,
        replaceAll_append_of_notMem [c] hb, replaceAll_cons_of_no_match hlast]
      exact ⟨replaceAll [b, c] [c] front, replaceAll [b, c] [c] back, by simp⟩

end Pair

end ProviderDocs.Text
