import ProviderDocs.Proofs.Cleanup.InlineLink
import ProviderDocs.Proofs.Cleanup.LinkTarget

/-!
# Links by number

A document may write a link as a label and the number of a footer link. Such references are put
inline one by one, and what stands between them is kept.
-/

namespace ProviderDocs

namespace Cleanup

/-- The key of a footer link. -/
def numberKey (number : List Char) : String := String.ofList ('[' :: number ++ [']'])

/-- A label in brackets and the number of a footer link. -/
def referenceText (label number : List Char) : List Char :=
  '[' :: label ++ ']' :: '[' :: number ++ [']']

/-- Reads a label in brackets and a number, also in brackets, each of its class. -/
def labelledNumber? (inLabel inNumber : Char → Bool) (text : List Char) :
    Option ((List Char × List Char) × List Char) :=
  match text with
  | '[' :: rest => do
    let (label, rest) ← Text.span1? inLabel rest
    let rest ← Text.after? [']'] rest
    let (number, rest) ← bracketNumber? inNumber rest
    some ((label, number), rest)
  | _ => none

/-- Reads a label and a number that name a footer link; the link becomes inline. -/
def footerReference? (inLabel inNumber : Char → Bool) (links : Dict String) (text : List Char) :
    Option (List Char × List Char) := do
  let ((label, number), rest) ← labelledNumber? inLabel inNumber text
  let target ← links.get? (String.ofList number)
  some (linkText label target.toList, rest)

/-- A label and a number, each of its class. -/
structure IsFooterReference (inLabel inNumber : Char → Bool) (label number : List Char) : Prop where
  label_ne_nil : label ≠ []
  inLabel : ∀ c ∈ label, inLabel c = true
  number_ne_nil : number ≠ []
  inNumber : ∀ c ∈ number, inNumber c = true

theorem IsFooterReference.mono {inLabel inNumber inOther inOtherNumber : Char → Bool}
    {label number : List Char} (h : IsFooterReference inLabel inNumber label number)
    (hlabel : ∀ c, inLabel c = true → inOther c = true)
    (hnumber : ∀ c, inNumber c = true → inOtherNumber c = true) :
    IsFooterReference inOther inOtherNumber label number :=
  ⟨h.label_ne_nil, fun c hc ↦ hlabel c (h.inLabel c hc), h.number_ne_nil,
    fun c hc ↦ hnumber c (h.inNumber c hc)⟩

theorem referenceText_append (label number rest : List Char) :
    referenceText label number ++ rest =
      '[' :: (label ++ ']' :: (('[' :: number ++ [']']) ++ rest)) := by
  simp [referenceText]

theorem exists_of_labelledNumber? {inLabel inNumber : Char → Bool}
    (hnumber : inNumber ']' = false) {text label name rest : List Char}
    (h : labelledNumber? inLabel inNumber text = some ((label, name), rest)) :
    ∃ number, name = '[' :: number ++ [']'] ∧ IsFooterReference inLabel inNumber label number ∧
      text = referenceText label number ++ rest := by
  unfold labelledNumber? at h
  split at h
  · simp only [Option.bind_eq_bind, Option.bind_eq_some_iff] at h
    obtain ⟨⟨label, behind⟩, hread, more, hmore, ⟨name, rest⟩, hname, ⟨⟩⟩ := h
    obtain ⟨hne, hall, rfl⟩ := Text.eq_append_of_span1? hread
    obtain rfl := Text.after?_eq_some_iff.mp hmore
    obtain ⟨number, hnumberNe, hdigits, rfl, rfl⟩ := (bracketNumber?_eq_some_iff hnumber).mp hname
    exact ⟨number, rfl, ⟨hne, hall, hnumberNe, hdigits⟩, (referenceText_append ..).symm⟩
  · cases h

section Reading

variable {inLabel inNumber : Char → Bool} (hlabel : inLabel ']' = false)
  (hnumber : inNumber ']' = false)

include hlabel hnumber

theorem labelledNumber?_referenceText {label number : List Char}
    (h : IsFooterReference inLabel inNumber label number) (rest : List Char) :
    labelledNumber? inLabel inNumber (referenceText label number ++ rest) =
      some ((label, '[' :: number ++ [']']), rest) := by
  have hread := Text.span1?_append h.inLabel h.label_ne_nil hlabel
    (('[' :: number ++ [']']) ++ rest)
  have hmore (behind : List Char) : Text.after? [']'] (']' :: behind) = some behind := rfl
  have hname : bracketNumber? inNumber (('[' :: number ++ [']']) ++ rest) =
      some ('[' :: number ++ [']'], rest) :=
    (bracketNumber?_eq_some_iff hnumber).mpr ⟨number, h.number_ne_nil, h.inNumber, rfl, rfl⟩
  simp only [referenceText_append, labelledNumber?, hread, hmore, hname, Option.bind_eq_bind,
    Option.bind_some]

theorem footerReference?_referenceText {label number : List Char}
    (h : IsFooterReference inLabel inNumber label number) (links : Dict String)
    (rest : List Char) :
    footerReference? inLabel inNumber links (referenceText label number ++ rest) =
      (links.get? (numberKey number)).map fun target ↦ (linkText label target.toList, rest) := by
  simp only [footerReference?, labelledNumber?_referenceText hlabel hnumber h, numberKey,
    Option.bind_eq_bind, Option.bind_some]
  exact Option.map_eq_bind.symm

/-- What is read is a reference to a footer link, and every such reference is read. -/
theorem footerReference?_eq_some_iff {links : Dict String} {text replacement rest : List Char} :
    footerReference? inLabel inNumber links text = some (replacement, rest) ↔
      ∃ label number target, IsFooterReference inLabel inNumber label number ∧
        links.get? (numberKey number) = some target ∧
        text = referenceText label number ++ rest ∧ replacement = linkText label target.toList := by
  constructor
  · intro h
    simp only [footerReference?, Option.bind_eq_bind, Option.bind_eq_some_iff] at h
    obtain ⟨⟨⟨label, name⟩, rest⟩, hread, target, htarget, ⟨⟩⟩ := h
    obtain ⟨number, rfl, href, rfl⟩ := exists_of_labelledNumber? hnumber hread
    exact ⟨label, number, target, href, htarget, rfl, rfl⟩
  · rintro ⟨label, number, target, href, htarget, rfl, rfl⟩
    rw [footerReference?_referenceText hlabel hnumber href, htarget, Option.map_some]

end Reading

/-! ## References that are read -/

/-- Labels and numbers that are read. -/
def IsNumbered (label number : List Char) : Prop :=
  IsFooterReference isLabelChar Char.isDigit label number

/-- Reads a reference that is replaced. -/
def mappedReference? (links : Dict String) : List Char → Option (List Char × List Char) :=
  footerReference? isLabelChar Char.isDigit links

section Mapped

variable {links : Dict String}

theorem mappedReference?_eq_some_iff {text replacement rest : List Char} :
    mappedReference? links text = some (replacement, rest) ↔
      ∃ label number target, IsNumbered label number ∧
        links.get? (numberKey number) = some target ∧
        text = referenceText label number ++ rest ∧ replacement = linkText label target.toList :=
  footerReference?_eq_some_iff rfl rfl

theorem mappedReference?_referenceText {label number : List Char} {target : String}
    (href : IsNumbered label number) (htarget : links.get? (numberKey number) = some target)
    (rest : List Char) : mappedReference? links (referenceText label number ++ rest) =
      some (linkText label target.toList, rest) :=
  mappedReference?_eq_some_iff.mpr ⟨label, number, target, href, htarget, rfl, rfl⟩

theorem mappedReference?_eq_none_of_ne {c : Char} (h : c ≠ '[') (text : List Char) :
    mappedReference? links (c :: text) = none := by
  rw [Option.eq_none_iff_forall_ne_some]
  rintro ⟨replacement, rest⟩ hread
  obtain ⟨label, number, target, -, -, htext, -⟩ := mappedReference?_eq_some_iff.mp hread
  exact h (List.cons.inj htext).1

/-- No reference begins with a digit in brackets. -/
theorem mappedReference?_eq_none_of_not_label {c : Char} (h : isLabelChar c = false)
    (text : List Char) : mappedReference? links ('[' :: c :: text) = none := by
  rw [Option.eq_none_iff_forall_ne_some]
  rintro ⟨replacement, rest⟩ hread
  obtain ⟨label, number, target, href, -, htext, -⟩ := mappedReference?_eq_some_iff.mp hread
  obtain ⟨d, label, rfl⟩ := List.exists_cons_of_ne_nil href.label_ne_nil
  obtain ⟨rfl, -⟩ := List.cons.inj (List.cons.inj htext).2
  exact Bool.false_ne_true (h.symm.trans (href.inLabel _ List.mem_cons_self))

theorem readsFront_mappedReference? : Text.ReadsFront (mappedReference? links) := by
  intro text replacement rest h
  obtain ⟨label, number, target, -, -, htext, -⟩ := mappedReference?_eq_some_iff.mp h
  exact ⟨referenceText label number, List.cons_ne_nil _ _, htext⟩

/-- The text with its references inline. -/
def inlined (links : Dict String) (text : List Char) : List Char :=
  Text.substitute (mappedReference? links) text

theorem inlined_cons_of_none {c : Char} {text : List Char}
    (h : mappedReference? links (c :: text) = none) :
    inlined links (c :: text) = c :: inlined links text :=
  Text.substitute_cons_of_none h

/-- What holds no opening bracket is kept. -/
theorem inlined_append_of_notMem {front : List Char} (h : '[' ∉ front) (rest : List Char) :
    inlined links (front ++ rest) = front ++ inlined links rest :=
  Text.substitute_append_of_none (fun _ hc ↦
    mappedReference?_eq_none_of_ne fun heq ↦ h (heq ▸ hc)) rest

theorem inlined_of_mappedReference? {text replacement rest : List Char}
    (h : mappedReference? links text = some (replacement, rest)) :
    inlined links text = replacement ++ inlined links rest :=
  readsFront_mappedReference?.substitute_of_some h

/-- The text begins as it does with its references inline, up to the first bracket. -/
theorem exists_eq_append_of_inlined {text front rest : List Char} (hfront : '[' ∉ front)
    (h : inlined links text = front ++ rest) :
    ∃ behind, text = front ++ behind ∧ inlined links behind = rest := by
  refine Text.exists_eq_append_of_substitute (fun text replacement rest hread ↦ ?_)
    readsFront_mappedReference? hfront h
  obtain ⟨label, number, target, -, -, -, rfl⟩ := mappedReference?_eq_some_iff.mp hread
  exact ⟨_, rfl⟩

theorem prefix_inlined_iff {front : List Char} (hfront : '[' ∉ front) {text : List Char} :
    front <+: inlined links text ↔ front <+: text := by
  constructor
  · rintro ⟨rest, hrest⟩
    obtain ⟨behind, rfl, -⟩ := exists_eq_append_of_inlined hfront hrest.symm
    exact List.prefix_append ..
  · rintro ⟨rest, rfl⟩
    rw [inlined_append_of_notMem hfront]
    exact List.prefix_append ..

theorem head?_inlined (text : List Char) : (inlined links text).head? = text.head? := by
  cases text with
  | nil => rw [inlined, Text.substitute_nil]
  | cons c text =>
    cases hread : mappedReference? links (c :: text) with
    | none => rw [inlined_cons_of_none hread, List.head?_cons, List.head?_cons]
    | some found =>
      obtain ⟨replacement, rest⟩ := found
      rw [inlined_of_mappedReference? hread]
      obtain ⟨label, number, target, -, -, htext, rfl⟩ := mappedReference?_eq_some_iff.mp hread
      obtain ⟨rfl, -⟩ := List.cons.inj htext
      rfl

theorem after?_inlined {front : List Char} (hfront : '[' ∉ front) (text : List Char) :
    Text.after? front (inlined links text) = (Text.after? front text).map (inlined links) := by
  cases hread : Text.after? front text with
  | some rest =>
    obtain rfl := Text.after?_eq_some_iff.mp hread
    rw [inlined_append_of_notMem hfront, Text.after?_append, Option.map_some]
  | none =>
    rw [Option.map_none, Option.eq_none_iff_forall_ne_some]
    intro rest hfound
    obtain ⟨behind, rfl, -⟩ :=
      exists_eq_append_of_inlined hfront (Text.after?_eq_some_iff.mp hfound)
    rw [Text.after?_append] at hread
    cases hread

theorem isLabelChar_of_isDigit {c : Char} (h : c.isDigit = true) : isLabelChar c = false := by
  have hne {mark : Char} (hmark : mark.isDigit = false) : c ≠ mark := by
    rintro rfl
    exact Bool.false_ne_true (hmark.symm.trans h)
  have halpha : c.isAlpha = false := by
    simp only [Char.isDigit, Bool.and_eq_true, decide_eq_true_eq] at h
    have hhigh : c.toNat ≤ 0x39 := UInt32.le_iff_toNat_le.mp h.2
    rw [Bool.eq_false_iff]
    intro halpha
    have hcodes := Text.toNat_of_isAlpha halpha
    omega
  have hquestion : c ≠ '?' := hne (by decide)
  have hstop : c ≠ '.' := hne (by decide)
  have hexclamation : c ≠ '!' := hne (by decide)
  have hspace : c ≠ ' ' := hne (by decide)
  simp [isLabelChar, halpha, hquestion, hstop, hexclamation, hspace]

theorem IsNumbered.notMem {label number : List Char} (h : IsNumbered label number) {c : Char}
    (hlabel : isLabelChar c = false) (hdigit : c.isDigit = false) : c ∉ label ∧ c ∉ number :=
  ⟨Text.notMem_of_class h.inLabel hlabel, Text.notMem_of_class h.inNumber hdigit⟩

/-- A reference to no footer link is kept, and none begins in it. -/
theorem inlined_referenceText_append {label number : List Char} (href : IsNumbered label number)
    (htarget : links.get? (numberKey number) = none) (rest : List Char) :
    inlined links (referenceText label number ++ rest) =
      referenceText label number ++ inlined links rest := by
  obtain ⟨hlabel, hnumber⟩ := href.notMem (c := '[') (by decide) (by decide)
  have hlabel : '[' ∉ label ++ [']'] := by simp [hlabel]
  have hnumber : '[' ∉ number ++ [']'] := by simp [hnumber]
  have hsplit : referenceText label number ++ rest =
      '[' :: (label ++ [']'] ++ '[' :: (number ++ [']'] ++ rest)) := by
    simp [referenceText]
  have hfront : mappedReference? links
      ('[' :: (label ++ [']'] ++ '[' :: (number ++ [']'] ++ rest))) = none := by
    rw [← hsplit, mappedReference?, footerReference?_referenceText rfl rfl href, htarget,
      Option.map_none]
  have hbehind : mappedReference? links ('[' :: (number ++ [']'] ++ rest)) = none := by
    obtain ⟨d, digits, rfl⟩ := List.exists_cons_of_ne_nil href.number_ne_nil
    exact mappedReference?_eq_none_of_not_label
      (isLabelChar_of_isDigit (href.inNumber d List.mem_cons_self)) _
  calc inlined links (referenceText label number ++ rest)
    _ = '[' :: inlined links (label ++ [']'] ++ '[' :: (number ++ [']'] ++ rest)) := by
      rw [hsplit, inlined_cons_of_none hfront]
    _ = '[' :: (label ++ [']'] ++ inlined links ('[' :: (number ++ [']'] ++ rest))) := by
      rw [inlined_append_of_notMem hlabel]
    _ = '[' :: (label ++ [']'] ++ '[' :: inlined links (number ++ [']'] ++ rest)) := by
      rw [inlined_cons_of_none hbehind]
    _ = '[' :: (label ++ [']'] ++ '[' :: (number ++ [']'] ++ inlined links rest)) := by
      rw [inlined_append_of_notMem hnumber]
    _ = referenceText label number ++ inlined links rest := by simp [referenceText]

theorem numberedReference?_eq (text : List Char) :
    numberedReference? links text =
      (labelledNumber? isLabelChar Char.isDigit text).map fun ((label, number), rest) ↦
        (((links.get? (String.ofList number)).map fun target ↦
          linkText label target.toList).getD ('[' :: label ++ ']' :: number), rest) := by
  cases text with
  | nil => rfl
  | cons c text =>
    by_cases hc : c = '['
    · subst hc
      simp only [numberedReference?, labelledNumber?, Option.bind_eq_bind]
      cases Text.span1? isLabelChar text with
      | none => rfl
      | some label =>
        simp only [Option.bind_some]
        cases Text.after? [']'] label.2 with
        | none => rfl
        | some behind =>
          simp only [Option.bind_some]
          cases bracketNumber? Char.isDigit behind with
          | none => rfl
          | some number =>
            simp only [Option.bind_some, Option.map_some]
            generalize links.get? (String.ofList number.1) = target
            cases target <;> simp [linkText]
    · simp [numberedReference?, labelledNumber?, hc]

theorem numberedReference?_referenceText {label number : List Char}
    (href : IsNumbered label number) (rest : List Char) :
    numberedReference? links (referenceText label number ++ rest) =
      some (((links.get? (numberKey number)).map fun target ↦
        linkText label target.toList).getD (referenceText label number), rest) := by
  rw [numberedReference?_eq, labelledNumber?_referenceText rfl rfl href, Option.map_some]
  simp [referenceText, numberKey]

theorem exists_reference_of_numberedReference? {text replacement rest : List Char}
    (h : numberedReference? links text = some (replacement, rest)) :
    ∃ label number, IsNumbered label number ∧ text = referenceText label number ++ rest := by
  rw [numberedReference?_eq, Option.map_eq_some_iff] at h
  obtain ⟨⟨⟨label, name⟩, _⟩, hread, ⟨⟩⟩ := h
  obtain ⟨number, -, href, htext⟩ := exists_of_labelledNumber? rfl hread
  exact ⟨label, number, href, htext⟩

/-- Only references to footer links are replaced. -/
theorem replaceNumberedReferences_eq_inlined (links : Dict String) (text : List Char) :
    replaceNumberedReferences links text = inlined links text := by
  rw [replaceNumberedReferences_eq]
  have hreads : Text.ReadsFront (numberedReference? links) := by
    intro text replacement rest hread
    obtain ⟨label, number, -, htext⟩ := exists_reference_of_numberedReference? hread
    exact ⟨referenceText label number, List.cons_ne_nil _ _, htext⟩
  induction text using hreads.induction with
  | nil => rw [inlined, Text.substitute_nil, Text.substitute_nil]
  | keep c text hnone ih =>
    have hread : mappedReference? links (c :: text) = none := by
      rw [Option.eq_none_iff_forall_ne_some]
      rintro ⟨replacement, rest⟩ hread
      obtain ⟨label, number, target, href, -, htext, -⟩ := mappedReference?_eq_some_iff.mp hread
      rw [htext, numberedReference?_referenceText href] at hnone
      cases hnone
    rw [Text.substitute_cons_of_none hnone, ih, inlined_cons_of_none hread]
  | read text replacement rest hsome ih =>
    rw [hreads.substitute_of_some hsome, ih]
    obtain ⟨label, number, href, rfl⟩ := exists_reference_of_numberedReference? hsome
    rw [numberedReference?_referenceText href] at hsome
    obtain ⟨rfl, -⟩ := Prod.mk.inj (Option.some.inj hsome)
    cases htarget : links.get? (numberKey number) with
    | none => exact (inlined_referenceText_append href htarget rest).symm
    | some target =>
      exact (inlined_of_mappedReference? (mappedReference?_referenceText href htarget rest)).symm

end Mapped

end Cleanup

end ProviderDocs
