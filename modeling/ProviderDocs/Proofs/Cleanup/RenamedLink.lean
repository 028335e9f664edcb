import ProviderDocs.Proofs.Cleanup.InlineLink
import ProviderDocs.Proofs.Cleanup.PlainName

/-!
# Links in a text with renamed references

No reference holds a parenthesis, so one in a target lies in it as a whole. Renaming the references
of a text renames those in its targets, and neither makes nor breaks a link.
-/

namespace ProviderDocs.Cleanup

variable (context : Context)

/-! ## Text around references -/

/-- Characters that a reference may hold. -/
def isReferenceChar (c : Char) : Bool := opensWord c || isWordChar c || closesWord c

theorem IsReference.isReferenceChar_of_mem {opening closing : Char} {word : List Char}
    (h : IsReference opening word closing) :
    ∀ c ∈ opening :: word ++ [closing], isReferenceChar c = true := by
  intro c hc
  rw [List.cons_append, List.mem_cons, List.mem_append, List.mem_singleton] at hc
  unfold isReferenceChar
  rcases hc with rfl | hc | rfl
  · simp [h.opens]
  · simp [h.wordChars c hc]
  · simp [h.closes]

theorem reference?_nil : reference? context [] = none := rfl

/-- A reference does not go on over a character that it may not hold. -/
theorem reference?_append_cons {stop : Char} (hstop : isReferenceChar stop = false)
    (front rest : List Char) :
    reference? context (front ++ stop :: rest) =
      (reference? context front).map fun (replacement, behind) ↦
        (replacement, behind ++ stop :: rest) := by
  cases h : reference? context front with
  | some found =>
    obtain ⟨replacement, behind⟩ := found
    obtain ⟨opening, word, closing, href, rfl, rfl⟩ := (reference?_eq_some_iff context).mp h
    exact (reference?_eq_some_iff context).mpr ⟨opening, word, closing, href, by simp, rfl⟩
  | none =>
    rw [Option.map_none, Option.eq_none_iff_forall_ne_some]
    rintro ⟨replacement, more⟩ hread
    obtain ⟨opening, word, closing, href, htext, -⟩ := (reference?_eq_some_iff context).mp hread
    have hnotMem : stop ∉ opening :: word ++ [closing] :=
      Text.notMem_of_class href.isReferenceChar_of_mem hstop
    have hbegins : opening :: word ++ [closing] <+: front ++ stop :: rest :=
      ⟨more, by simp [htext]⟩
    obtain ⟨behind, rfl⟩ := (Text.prefix_append_cons_iff hnotMem front rest).mp hbegins
    have hfront : opening :: word ++ [closing] ++ behind =
        opening :: word ++ closing :: behind := by
      simp
    have hfound := (reference?_eq_some_iff context).mpr ⟨opening, word, closing, href, hfront, rfl⟩
    rw [h] at hfound
    cases hfound

theorem renameReferences_append_cons {stop : Char} (hstop : isReferenceChar stop = false)
    (front rest : List Char) :
    renameReferences context (front ++ stop :: rest) =
      renameReferences context front ++ stop :: renameReferences context rest :=
  Text.substitute_append_cons (reference?_nil context) (reference?_append_cons context hstop)
    front rest

/-- Renaming keeps characters one by one and replaces the words of references. -/
theorem renameReferences_induct {motive : List Char → List Char → Prop} (nil : motive [] [])
    (keep : ∀ c text, motive text (renameReferences context text) →
      motive (c :: text) (c :: renameReferences context text))
    (word : ∀ opening name closing text, IsReference opening name closing →
      motive text (renameReferences context text) → motive (opening :: name ++ closing :: text)
        (opening :: renamed context name ++ closing :: renameReferences context text))
    (text : List Char) : motive text (renameReferences context text) := by
  rw [renameReferences_eq]
  fun_induction Text.substitute (reference? context) text with
  | case1 => exact nil
  | case2 c text hnone ih => exact keep c text ih
  | case3 c text replacement rest hsome hlength ih =>
    obtain ⟨opening, name, closing, href, hsplit, rfl⟩ := (reference?_eq_some_iff context).mp hsome
    rw [hsplit, List.append_assoc, List.singleton_append]
    exact word opening name closing rest href ih
  | case4 c text replacement rest hsome hlength ih => exact keep c text ih

/-- The first character of a text is kept. -/
theorem head?_renameReferences (text : List Char) :
    (renameReferences context text).head? = text.head? :=
  renameReferences_induct context (motive := fun text after ↦ after.head? = text.head?) rfl
    (fun _ _ _ ↦ rfl) (fun _ _ _ _ _ _ ↦ rfl) text

theorem exists_renameReferences_cons (c : Char) (text : List Char) :
    ∃ rest, renameReferences context (c :: text) = c :: rest :=
  List.head?_eq_some_iff.mp (head?_renameReferences context (c :: text))

/-- A text goes on beginning with what no reference begins with. -/
theorem prefix_renameReferences_iff {front : List Char} (h : front.any opensWord = false)
    {text : List Char} : front <+: renameReferences context text ↔ front <+: text := by
  induction front generalizing text with
  | nil => simp
  | cons b front ih =>
    obtain ⟨hb, hfront⟩ := Bool.or_eq_false_iff.mp h
    cases text with
    | nil => simp
    | cons c text =>
      by_cases hc : b = c
      · subst hc
        have hkept := Text.substitute_cons_of_none (reference?_eq_none context hb text)
        rw [renameReferences_eq, hkept, ← renameReferences_eq, List.cons_prefix_cons,
          List.cons_prefix_cons, ih hfront]
      · obtain ⟨rest, hrest⟩ := exists_renameReferences_cons context c text
        rw [hrest, List.cons_prefix_cons, List.cons_prefix_cons]
        simp [hc]

/-! ## Links -/

/-- Of a reference only the opening delimiter matters to what follows. -/
theorem targetsFrom_reference {opening : Char} (hopens : opensWord opening = true)
    {word : List Char} (hword : IsPlain word) (isOpen : Bool) (rest : List Char) :
    targetsFrom isOpen (opening :: word ++ rest) = targetsFrom (isOpen || opening = '[') rest := by
  have hclosed : opening ≠ ']' := by
    rintro rfl
    exact absurd hopens (by decide)
  have hfront : ']' ∉ opening :: word :=
    List.not_mem_cons_of_ne_of_not_mem hclosed.symm (hword.notMem (by decide))
  have hopen : '[' ∉ word := hword.notMem (by decide)
  rw [targetsFrom_append hfront]
  simp [hopen, eq_comm]

section Links

variable {context} (h : HasPlainNames context.provider)

include h

theorem notMem_renameReferences {mark : Char} (hmark : isLinkMark mark = true) (text : List Char) :
    mark ∉ text → mark ∉ renameReferences context text := by
  refine renameReferences_induct context
    (motive := fun text after ↦ mark ∉ text → mark ∉ after) ?nil ?keep ?word text
  case nil => exact id
  case keep =>
    intro c text ih htext
    obtain ⟨hc, htext⟩ := List.ne_and_not_mem_of_not_mem_cons htext
    exact List.not_mem_cons_of_ne_of_not_mem hc (ih htext)
  case word =>
    intro opening word closing text href ih htext
    have hname := (isPlain_renamed h href.wordChars).notMem hmark
    simp only [List.mem_cons, List.mem_append, List.cons_append, not_or] at htext
    obtain ⟨hopening, -, hclosing, hrest⟩ := htext
    simp [hopening, hname, hclosing, ih hrest]

/-- The target at the beginning of a text is renamed on its own. -/
theorem target?_renameReferences (text : List Char) :
    target? (renameReferences context text) = (target? text).map fun (target, rest) ↦
      (renameReferences context target, renameReferences context rest) := by
  have hopens (text : List Char) :
      renameReferences context ('(' :: text) = '(' :: renameReferences context text :=
    Text.substitute_cons_of_none (reference?_eq_none context (by decide) text)
  cases hread : target? text with
  | some found =>
    obtain ⟨target, rest⟩ := found
    obtain ⟨htarget, rfl⟩ := target?_eq_some_iff.mp hread
    refine target?_eq_some_iff.mpr ⟨notMem_renameReferences h (by decide) target htarget, ?_⟩
    rw [List.cons_append, hopens, renameReferences_append_cons context (by decide),
      List.cons_append]
  | none =>
    rw [Option.map_none]
    cases text with
    | nil => rw [renameReferences_nil, hread]
    | cons c text =>
      by_cases hc : c = '('
      · subst hc
        have hend := notMem_renameReferences h (by decide) text (notMem_of_target?_eq_none hread)
        rw [hopens, Option.eq_none_iff_forall_ne_some]
        rintro ⟨target, rest⟩ hfound
        obtain ⟨-, htext⟩ := target?_eq_some_iff.mp hfound
        obtain ⟨-, htext⟩ := List.cons.inj htext
        simp [htext] at hend
      · obtain ⟨rest, hrest⟩ := exists_renameReferences_cons context c text
        rw [hrest, target?_cons_of_ne hc]

theorem targetsFrom_cons_renameReferences (c : Char) {text : List Char}
    (ih : ∀ isOpen, targetsFrom isOpen (renameReferences context text) =
      (targetsFrom isOpen text).map (renameReferences context)) (isOpen : Bool) :
    targetsFrom isOpen (c :: renameReferences context text) =
      (targetsFrom isOpen (c :: text)).map (renameReferences context) := by
  rw [targetsFrom, targetsFrom]
  split
  · exact ih true
  · split
    · rw [target?_renameReferences h, ih, List.map_append]
      cases isOpen <;> cases target? text <;> rfl
    · exact ih isOpen

/-- The targets of a text are renamed, and no other ones come about. -/
theorem targetsFrom_renameReferences (text : List Char) :
    ∀ isOpen, targetsFrom isOpen (renameReferences context text) =
      (targetsFrom isOpen text).map (renameReferences context) := by
  refine renameReferences_induct context
    (motive := fun text after ↦ ∀ isOpen, targetsFrom isOpen after =
      (targetsFrom isOpen text).map (renameReferences context)) ?nil ?keep ?word text
  case nil => exact fun _ ↦ rfl
  case keep => exact fun c _ ih ↦ targetsFrom_cons_renameReferences h c ih
  case word =>
    intro opening word closing text href ih isOpen
    have hword : IsPlain word := fun c hc ↦ isLinkMark_of_isWordChar (href.wordChars c hc)
    rw [targetsFrom_reference href.opens (isPlain_renamed h href.wordChars),
      targetsFrom_reference href.opens hword]
    exact targetsFrom_cons_renameReferences h closing ih _

end Links

end ProviderDocs.Cleanup
