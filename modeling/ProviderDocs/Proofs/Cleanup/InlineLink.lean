import ProviderDocs.Cleanup.Link
import ProviderDocs.Proofs.Text.Substitute

/-!
# Inline links of a text

The links of a text are known by its brackets: each stands where a closing bracket, with an opening
one before it, is followed by a target in parentheses. Resolving the links of a text resolves their
targets, one by one, as long as no link that is reduced to its label leaves a bracket of another one
behind.
-/

namespace ProviderDocs.Cleanup

def linkText (label target : List Char) : List Char :=
  '[' :: label ++ ']' :: '(' :: target ++ [')']

/-- Somewhere in the text stands a link to the target. -/
def HoldsLink (text target : List Char) : Prop :=
  ∃ front label rest, ']' ∉ label ∧ ')' ∉ target ∧ text = front ++ linkText label target ++ rest

/-! ## Reading links -/

/-- Reads a target in parentheses. -/
def target? (text : List Char) : Option (List Char × List Char) :=
  match text with
  | '(' :: rest =>
    match Text.span (· != ')') rest with
    | (target, ')' :: rest) => some (target, rest)
    | _ => none
  | _ => none

/-- Reads a link: its label and its target. -/
def link? (text : List Char) : Option (List Char × List Char × List Char) :=
  match text with
  | '[' :: rest =>
    match Text.span (· != ']') rest with
    | (label, ']' :: rest) => (target? rest).map (label, ·)
    | _ => none
  | _ => none

theorem target?_eq_some_iff {text target rest : List Char} :
    target? text = some (target, rest) ↔ ')' ∉ target ∧ text = '(' :: target ++ ')' :: rest := by
  constructor
  · intro h
    unfold target? at h
    split at h
    · split at h
      · next hspan =>
        cases h
        obtain ⟨htarget, rfl⟩ := Text.span_eq_cons_iff.mp hspan
        exact ⟨htarget, rfl⟩
      · cases h
    · cases h
  · rintro ⟨htarget, rfl⟩
    simp only [List.cons_append, target?, Text.span_append_cons htarget]

theorem target?_cons_of_ne {c : Char} (h : c ≠ '(') (text : List Char) :
    target? (c :: text) = none := by
  simp [target?, h]

theorem notMem_of_target?_eq_none {text : List Char} (h : target? ('(' :: text) = none) :
    ')' ∉ text := by
  intro hmem
  obtain ⟨target, rest, rfl, htarget⟩ := List.eq_append_cons_of_mem hmem
  have hread := target?_eq_some_iff.mpr ⟨htarget, (rfl : '(' :: (target ++ ')' :: rest) = _)⟩
  rw [hread] at h
  cases h

theorem link?_eq_some_iff {text label target rest : List Char} :
    link? text = some (label, target, rest) ↔
      ']' ∉ label ∧ ')' ∉ target ∧ text = linkText label target ++ rest := by
  constructor
  · intro h
    unfold link? at h
    split at h
    · split at h
      · next hspan =>
        obtain ⟨found, hfound, ⟨⟩⟩ := Option.map_eq_some_iff.mp h
        obtain ⟨hlabel, rfl⟩ := Text.span_eq_cons_iff.mp hspan
        obtain ⟨htarget, rfl⟩ := target?_eq_some_iff.mp hfound
        exact ⟨hlabel, htarget, by simp [linkText]⟩
      · cases h
    · cases h
  · rintro ⟨hlabel, htarget, rfl⟩
    have hread : target? ('(' :: target ++ ')' :: rest) = some (target, rest) :=
      target?_eq_some_iff.mpr ⟨htarget, rfl⟩
    have htext : linkText label target ++ rest =
        '[' :: (label ++ ']' :: ('(' :: target ++ ')' :: rest)) := by
      simp [linkText]
    simp only [htext, link?, Text.span_append_cons hlabel, hread, Option.map_some]

/-- An inline link is a link that is resolved. -/
theorem inlineLink?_eq (text : List Char) :
    inlineLink? text =
      (link? text).map fun (label, target, rest) ↦ (resolveLink label target, rest) := by
  cases h : link? text with
  | some found =>
    obtain ⟨label, target, rest⟩ := found
    obtain ⟨hlabel, htarget, rfl⟩ := link?_eq_some_iff.mp h
    have htext : linkText label target ++ rest =
        '[' :: (label ++ ']' :: '(' :: (target ++ ')' :: rest)) := by
      simp [linkText]
    simp only [htext, inlineLink?, Text.span_append_cons hlabel, Text.span_append_cons htarget,
      Option.map_some]
  | none =>
    unfold inlineLink?
    split
    · split
      · next label _ hspan =>
        obtain ⟨hlabel, rfl⟩ := Text.span_eq_cons_iff.mp hspan
        split
        · next target rest hspan =>
          obtain ⟨htarget, rfl⟩ := Text.span_eq_cons_iff.mp hspan
          have hlink := link?_eq_some_iff.mpr
            ⟨hlabel, htarget, (rfl : linkText label target ++ rest = _)⟩
          simp [linkText, h] at hlink
        · rfl
      · rfl
    · rfl

/-- A bracket opens a link whatever stands before the closing one. -/
theorem link?_bracket_cons {c : Char} (h : c ≠ ']') (text : List Char) :
    link? ('[' :: c :: text) =
      (link? ('[' :: text)).map fun (label, rest) ↦ (c :: label, rest) := by
  have hread : Text.span (· != ']') (c :: text) =
      (c :: (Text.span (· != ']') text).1, (Text.span (· != ']') text).2) := by
    simp [Text.span, h]
  simp only [link?, hread]
  generalize Text.span (· != ']') text = read
  obtain ⟨label, behind⟩ := read
  cases behind with
  | nil => rfl
  | cons d behind =>
    by_cases hd : d = ']'
    · subst hd
      simp [Function.comp_def]
    · simp [hd]

theorem link?_bracket_bracket (text : List Char) :
    link? ('[' :: ']' :: text) = (target? text).map ([], ·) := rfl

/-! ## All links -/

/-- The targets of the links in a text. A link is found at its closing bracket; `isOpen` says that
an opening one stands before the text. -/
def targetsFrom (isOpen : Bool) : List Char → List (List Char)
  | [] => []
  | c :: text =>
    if c = '[' then targetsFrom true text
    else if c = ']' then
      (if isOpen then ((target? text).map (·.1)).toList else []) ++ targetsFrom false text
    else targetsFrom isOpen text

def targets (text : List Char) : List (List Char) := targetsFrom false text

theorem targetsFrom_append {front : List Char} (h : ']' ∉ front) (isOpen : Bool)
    (rest : List Char) :
    targetsFrom isOpen (front ++ rest) = targetsFrom (isOpen || '[' ∈ front) rest := by
  induction front generalizing isOpen with
  | nil => simp
  | cons c front ih =>
    obtain ⟨hc, hfront⟩ := List.ne_and_not_mem_of_not_mem_cons h
    by_cases hopen : c = '['
    · simp [targetsFrom, hopen, ih hfront]
    · simp [targetsFrom, hopen, Ne.symm hc, ih hfront, Ne.symm hopen]

/-- Without an opening bracket no link begins. -/
theorem targets_append {front : List Char} (h : '[' ∉ front) (rest : List Char) :
    targets (front ++ rest) = targets rest := by
  induction front with
  | nil => rfl
  | cons c front ih =>
    obtain ⟨hc, hfront⟩ := List.ne_and_not_mem_of_not_mem_cons h
    rw [targets] at ih ⊢
    simp [targetsFrom, Ne.symm hc, ih hfront]

theorem targets_linkText_append {label target : List Char} (hlabel : ']' ∉ label)
    (htarget : ')' ∉ target) (hbracket : '[' ∉ target) (rest : List Char) :
    targets (linkText label target ++ rest) = target :: targets rest := by
  have htext : linkText label target ++ rest =
      ('[' :: label) ++ ']' :: ('(' :: target ++ ')' :: rest) := by
    simp [linkText]
  have hread : target? ('(' :: target ++ ')' :: rest) = some (target, rest) :=
    target?_eq_some_iff.mpr ⟨htarget, rfl⟩
  have hbehind : targets ('(' :: target ++ ')' :: rest) = targets rest := by
    have hfront : '[' ∉ '(' :: target ++ [')'] := by simp [hbracket]
    simpa using targets_append hfront rest
  have hlabel : ']' ∉ '[' :: label := by simp [hlabel]
  rw [targets, htext, targetsFrom_append hlabel, targetsFrom, if_neg (by decide), if_pos rfl,
    hread, ← targets, hbehind]
  simp

/-- The text begins with a link to the target. -/
def OpensLink (text target : List Char) : Prop :=
  ∃ label rest, link? text = some (label, target, rest)

theorem not_opensLink {c : Char} (h : c ≠ '[') (text target : List Char) :
    ¬ OpensLink (c :: text) target := by
  rintro ⟨label, rest, hlink⟩
  obtain ⟨-, -, htext⟩ := link?_eq_some_iff.mp hlink
  exact h (List.cons.inj htext).1

theorem opensLink_bracket_cons {c : Char} (h : c ≠ ']') (text target : List Char) :
    OpensLink ('[' :: c :: text) target ↔ OpensLink ('[' :: text) target := by
  rw [OpensLink, OpensLink, link?_bracket_cons h]
  constructor
  · rintro ⟨label, rest, hlink⟩
    obtain ⟨⟨label, _, _⟩, hfound, ⟨⟩⟩ := Option.map_eq_some_iff.mp hlink
    exact ⟨label, rest, hfound⟩
  · rintro ⟨label, rest, hlink⟩
    exact ⟨c :: label, rest, by rw [hlink, Option.map_some]⟩

theorem opensLink_bracket_bracket (text target : List Char) :
    OpensLink ('[' :: ']' :: text) target ↔ ∃ rest, target? text = some (target, rest) := by
  simp [OpensLink, link?_bracket_bracket]

theorem holdsLink_cons {c : Char} {text target : List Char} :
    HoldsLink (c :: text) target ↔ OpensLink (c :: text) target ∨ HoldsLink text target := by
  constructor
  · rintro ⟨front, label, rest, hlabel, htarget, htext⟩
    cases front with
    | nil => exact .inl ⟨label, rest, link?_eq_some_iff.mpr ⟨hlabel, htarget, htext⟩⟩
    | cons b front => exact .inr ⟨front, label, rest, hlabel, htarget, (List.cons.inj htext).2⟩
  · rintro (⟨label, rest, hlink⟩ | ⟨front, label, rest, hlabel, htarget, rfl⟩)
    · obtain ⟨hlabel, htarget, htext⟩ := link?_eq_some_iff.mp hlink
      exact ⟨[], label, rest, hlabel, htarget, htext⟩
    · exact ⟨c :: front, label, rest, hlabel, htarget, rfl⟩

/-- A link is found where a bracket before the text is closed, or in the text. -/
theorem mem_targetsFrom_iff {isOpen : Bool} {text target : List Char} :
    target ∈ targetsFrom isOpen text ↔
      (isOpen = true ∧ OpensLink ('[' :: text) target) ∨ HoldsLink text target := by
  induction text generalizing isOpen with
  | nil => simp [targetsFrom, HoldsLink, OpensLink, link?, Text.span, linkText]
  | cons c text ih =>
    rw [targetsFrom, holdsLink_cons]
    split
    · next hopen =>
      subst hopen
      rw [ih, opensLink_bracket_cons (by decide)]
      cases isOpen <;> simp
    · next hopen =>
      have hnone := not_opensLink hopen text target
      split
      · next hclose =>
        subst hclose
        rw [List.mem_append, ih, opensLink_bracket_bracket]
        cases isOpen <;> simp [hnone]
      · next hclose =>
        rw [ih, opensLink_bracket_cons hclose, or_iff_right hnone]

theorem mem_targets_iff {text target : List Char} :
    target ∈ targets text ↔ HoldsLink text target := by
  simp [targets, mem_targetsFrom_iff]

/-! ## Resolved links -/

/-- The target of a resolved link, when there is one. -/
def resolvedTarget? (target : List Char) : Option (List Char) :=
  if "http".toList.isPrefixOf target then some target
  else if ['/'].isPrefixOf target then some (host ++ target)
  else none

theorem resolveLink_eq (label target : List Char) :
    resolveLink label target = ((resolvedTarget? target).map (linkText label)).getD label := by
  unfold resolveLink resolvedTarget?
  split
  · rfl
  · split
    · simp [linkText]
    · rfl

theorem resolvedTarget?_of_prefix {target : List Char} (h : "http".toList <+: target) :
    resolvedTarget? target = some target := by
  rw [resolvedTarget?, if_pos (List.isPrefixOf_iff_prefix.mpr h)]

/-- A target is kept for its beginning, or gains the host. -/
theorem prefix_or_eq_of_resolvedTarget? {target resolved : List Char}
    (h : resolvedTarget? target = some resolved) :
    ("http".toList <+: target ∧ resolved = target) ∨ resolved = host ++ target := by
  unfold resolvedTarget? at h
  split at h
  · next hhttp =>
    cases h
    exact .inl ⟨List.isPrefixOf_iff_prefix.mp hhttp, rfl⟩
  · split at h <;> cases h
    exact .inr rfl

/-- A target has no opening bracket. A link that is reduced to its label leaves no bracket behind,
and behind a closing bracket it leaves something that is no target. -/
def IsApart (before : Option Char) (label target : List Char) : Prop :=
  '[' ∉ target ∧ (resolvedTarget? target = none →
    '[' ∉ label ∧ (before = some ']' → label ≠ [] ∧ label.head? ≠ some '('))

/-- The links of a text do not interfere when some of them are reduced to their labels; `before` is
the character that the text follows. -/
def LinksApart (before : Option Char) : List Char → Prop
  | [] => True
  | c :: text =>
    (∀ link ∈ link? (c :: text), IsApart before link.1 link.2.1) ∧ LinksApart (some c) text

instance (before : Option Char) (label target : List Char) :
    Decidable (IsApart before label target) :=
  inferInstanceAs (Decidable (_ ∧ _))

instance LinksApart.instDecidable : ∀ before text, Decidable (LinksApart before text)
  | _, [] => isTrue trivial
  | _, c :: text =>
    have := instDecidable (some c) text
    inferInstanceAs (Decidable (_ ∧ _))

theorem LinksApart.of_append {before : Option Char} {front : List Char} {c : Char}
    {rest : List Char} (h : LinksApart before (front ++ c :: rest)) : LinksApart (some c) rest := by
  induction front generalizing before with
  | nil => exact h.2
  | cons b front ih => exact ih h.2

theorem inlineLink?_eq_none_iff {text : List Char} :
    inlineLink? text = none ↔ link? text = none := by
  rw [inlineLink?_eq, Option.map_eq_none_iff]

theorem length_lt_of_link? {text label target rest : List Char}
    (h : link? text = some (label, target, rest)) : rest.length < text.length := by
  obtain ⟨-, -, rfl⟩ := link?_eq_some_iff.mp h
  simp [linkText]
  omega

theorem link?_eq_none_of_notMem {text : List Char} (h : ')' ∉ text) : link? text = none := by
  rw [Option.eq_none_iff_forall_ne_some]
  rintro ⟨label, target, rest⟩ hlink
  obtain ⟨-, -, rfl⟩ := link?_eq_some_iff.mp hlink
  simp [linkText] at h

theorem marks_notMem_of_resolvedTarget? {target resolved : List Char}
    (h : resolvedTarget? target = some resolved) (hparenthesis : ')' ∉ target)
    (hbracket : '[' ∉ target) : ')' ∉ resolved ∧ '[' ∉ resolved := by
  have hhost : ')' ∉ host ∧ '[' ∉ host := by decide +kernel
  rcases prefix_or_eq_of_resolvedTarget? h with ⟨-, rfl⟩ | rfl
  · exact ⟨hparenthesis, hbracket⟩
  · simp [hhost, hparenthesis, hbracket]

theorem substitute_of_link? {text label target rest : List Char}
    (h : link? text = some (label, target, rest)) :
    Text.substitute inlineLink? text =
      resolveLink label target ++ Text.substitute inlineLink? rest := by
  have hread : inlineLink? text = some (resolveLink label target, rest) := by
    rw [inlineLink?_eq, h, Option.map_some]
  exact Text.substitute_of_some hread (length_lt_of_link? h)

/-- What a link leaves of itself has its resolved target, if any. -/
theorem targets_resolveLink_append {before : Option Char} {label target : List Char}
    (hlabel : ']' ∉ label) (htarget : ')' ∉ target) (h : IsApart before label target)
    (rest : List Char) :
    targets (resolveLink label target ++ rest) =
      (resolvedTarget? target).toList ++ targets rest := by
  obtain ⟨hbracket, hdropped⟩ := h
  rw [resolveLink_eq]
  cases hresolved : resolvedTarget? target with
  | some resolved =>
    obtain ⟨hparenthesis, hbracket⟩ := marks_notMem_of_resolvedTarget? hresolved htarget hbracket
    exact targets_linkText_append hlabel hparenthesis hbracket rest
  | none => exact targets_append (hdropped hresolved).1 rest

/-- What stands behind a closing bracket and is no target becomes none. -/
theorem target?_substitute {text : List Char} (hnone : target? text = none)
    (h : LinksApart (some ']') text) : target? (Text.substitute inlineLink? text) = none := by
  cases text with
  | nil => rw [Text.substitute_nil, hnone]
  | cons c text =>
    by_cases hopens : c = '('
    · subst hopens
      have hend := notMem_of_target?_eq_none hnone
      rw [Text.substitute_eq_self fun rest hrest ↦ ?_, hnone]
      have hmore : ')' ∉ rest := fun hmem ↦ by simpa [hend] using hrest.subset hmem
      exact inlineLink?_eq_none_iff.mpr (link?_eq_none_of_notMem hmore)
    · cases hlink : link? (c :: text) with
      | none =>
        rw [Text.substitute_cons_of_none (inlineLink?_eq_none_iff.mpr hlink)]
        exact target?_cons_of_ne hopens _
      | some found =>
        obtain ⟨label, target, rest⟩ := found
        obtain ⟨-, hdropped⟩ := h.1 _ hlink
        rw [substitute_of_link? hlink, resolveLink_eq]
        cases hresolved : resolvedTarget? target with
        | some resolved => rfl
        | none =>
          obtain ⟨hne, hhead⟩ := (hdropped hresolved).2 rfl
          cases label with
          | nil => exact absurd rfl hne
          | cons d label => exact target?_cons_of_ne (fun hd ↦ hhead (congrArg some hd)) _

/-- Resolving the links of a text resolves their targets, even behind a bracket that opens none of
them. -/
theorem targetsFrom_substitute {isOpen : Bool} {before : Option Char} {text : List Char}
    (h : LinksApart before text) (hopen : isOpen = true → link? ('[' :: text) = none) :
    targetsFrom isOpen (Text.substitute inlineLink? text) =
      (targetsFrom isOpen text).filterMap resolvedTarget? := by
  fun_induction Text.substitute inlineLink? text generalizing isOpen before with
  | case1 => rfl
  | case2 c text hnone ih =>
    rw [targetsFrom, targetsFrom]
    split
    · next hbracket =>
      subst hbracket
      exact ih h.2 fun _ ↦ inlineLink?_eq_none_iff.mp hnone
    · split
      · next hbracket =>
        subst hbracket
        have hrest := @ih false (some ']') h.2 (absurd · Bool.false_ne_true)
        rw [List.filterMap_append, hrest]
        cases isOpen with
        | false => rfl
        | true =>
          have htarget : target? text = none := Option.map_eq_none_iff.mp (hopen rfl)
          rw [htarget, target?_substitute htarget h.2]
          rfl
      · next hbracket =>
        refine ih h.2 fun hisOpen ↦ ?_
        have hread := hopen hisOpen
        rwa [link?_bracket_cons hbracket, Option.map_eq_none_iff] at hread
  | case3 c text replacement rest hsome hlength ih =>
    rw [inlineLink?_eq, Option.map_eq_some_iff] at hsome
    obtain ⟨⟨label, target, _⟩, hlink, ⟨⟩⟩ := hsome
    obtain ⟨hlabel, htarget, htext⟩ := link?_eq_some_iff.mp hlink
    have hapart := h.1 _ hlink
    -- A bracket left open before the link would have taken the link's own target.
    obtain rfl : isOpen = false := by
      rw [Bool.eq_false_iff]
      intro hisOpen
      have hread := hopen hisOpen
      obtain rfl : c = '[' := (List.cons.inj htext).1
      rw [link?_bracket_cons (by decide), hlink] at hread
      cases hread
    have hrest : targets (Text.substitute inlineLink? rest) =
        (targets rest).filterMap resolvedTarget? := by
      have hfront : c :: text = ('[' :: label ++ ']' :: '(' :: target) ++ ')' :: rest := by
        simp [htext, linkText]
      rw [hfront] at h
      exact ih h.of_append (absurd · Bool.false_ne_true)
    change targets _ = (targets _).filterMap _
    rw [htext, targets_linkText_append hlabel htarget hapart.1,
      targets_resolveLink_append hlabel htarget hapart, hrest, List.filterMap_cons]
    cases resolvedTarget? target <;> rfl
  | case4 c text replacement rest hsome hlength ih =>
    rw [inlineLink?_eq, Option.map_eq_some_iff] at hsome
    obtain ⟨⟨label, target, _⟩, hlink, ⟨⟩⟩ := hsome
    exact absurd (Nat.le_of_lt_succ (length_lt_of_link? hlink)) hlength

end ProviderDocs.Cleanup
