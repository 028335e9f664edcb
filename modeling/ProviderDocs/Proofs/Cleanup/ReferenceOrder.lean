import ProviderDocs.Proofs.Cleanup.FooterReference
import ProviderDocs.Proofs.Cleanup.PageReference
import ProviderDocs.Proofs.Cleanup.RelativeLink
import ProviderDocs.Proofs.Text.Replace

/-!
# References among the other passes

Note marks are replaced, and pages put on the host, before references become inline. The order does
not matter when the targets of the references hold nothing that these passes change.
-/

namespace ProviderDocs.Cleanup

/-! ## What stands around references -/

/-- A target with nothing in it that is changed, or given up, before it is put for a reference, and
what stands behind the reference. -/
structure StandsApart (target rest : List Char) : Prop where
  namesTerraform_eq : namesTerraform target = false
  not_fence_infix : ¬ fence <:+: target
  not_arrow_infix : ¬ "-> ".toList <:+: target
  not_tilde_infix : ¬ "~> ".toList <:+: target
  not_pagePath_infix : ¬ pagePath <:+: target
  not_pagePath_prefix : ¬ pagePath <+: rest

def ReferencesApart (links : Dict String) (text : List Char) : Prop :=
  ∀ front label number target rest, IsNumbered label number →
    links.get? (numberKey number) = some target →
    text = front ++ (referenceText label number ++ rest) → StandsApart target.toList rest

section Apart

variable {links : Dict String}

theorem ReferencesApart.of_append {front rest : List Char}
    (h : ReferencesApart links (front ++ rest)) : ReferencesApart links rest := by
  intro before label number target behind href htarget htext
  exact h (front ++ before) label number target behind href htarget
    (by rw [htext, List.append_assoc])

/-! ## Note marks -/

/-- Puts the mark of a quoted line for a mark of a note. -/
def replaceMark (p : Char) : List Char → List Char :=
  Text.replaceAll [p, '>', ' '] ['>', ' ']

theorem replaceNoteMarks_eq (text : List Char) :
    replaceNoteMarks text = replaceMark '~' (replaceMark '-' text) := rfl

theorem exists_eq_append_of_replaceMark {p : Char} {text front rest : List Char}
    (hfront : '>' ∉ front) (h : replaceMark p text = front ++ rest) :
    ∃ behind, text = front ++ behind ∧ replaceMark p behind = rest := by
  refine Text.exists_eq_append_of_substitute (fun text put rest hread ↦ ?_)
    (Text.readsFront_occurrence? (List.cons_ne_nil p _)) hfront h
  exact ⟨[' '], (Text.occurrence?_eq_some_iff.mp hread).1⟩

/-- Where no reference begins, none does once note marks are replaced. -/
theorem mappedReference?_cons_replaceMark {p c : Char} {text : List Char}
    (h : mappedReference? links (c :: text) = none) :
    mappedReference? links (c :: replaceMark p text) = none := by
  rw [Option.eq_none_iff_forall_ne_some]
  rintro ⟨replacement, rest⟩ hread
  obtain ⟨label, number, target, href, htarget, htext, -⟩ := mappedReference?_eq_some_iff.mp hread
  obtain ⟨hlabel, hnumber⟩ := href.notMem (c := '>') (by decide) (by decide)
  have hname : '>' ∉ referenceText label number := by simp [referenceText, hlabel, hnumber]
  obtain ⟨rfl, htail⟩ := List.cons.inj htext
  obtain ⟨behind, rfl, -⟩ :=
    exists_eq_append_of_replaceMark (fun hmem ↦ hname (List.mem_cons_of_mem _ hmem)) htail
  exact Option.some_ne_none _ ((mappedReference?_referenceText href htarget behind).symm.trans h)

theorem ReferencesApart.replaceMark {p : Char} {text : List Char} (h : ReferencesApart links text) :
    ReferencesApart links (replaceMark p text) := by
  intro front label number target rest href htarget htext
  obtain ⟨hlabel, hnumber⟩ := href.notMem (c := '>') (by decide) (by decide)
  rw [referenceText_append] at htext
  obtain ⟨before, behind, rfl, hbehind⟩ :=
    Text.exists_eq_append_cons_of_replaceAll (List.cons_ne_nil p _) (by decide) htext
  have hname : '>' ∉ label ++ ']' :: ('[' :: number ++ [']']) := by simp [hlabel, hnumber]
  have hsplit : label ++ ']' :: (('[' :: number ++ [']']) ++ rest) =
      (label ++ ']' :: ('[' :: number ++ [']'])) ++ rest := by simp
  rw [hsplit] at hbehind
  obtain ⟨more, rfl, hrest⟩ := exists_eq_append_of_replaceMark hname hbehind
  have hapart := h before label number target more href htarget (by simp [referenceText])
  refine { hapart with not_pagePath_prefix := ?_ }
  rintro ⟨rest', rfl⟩
  obtain ⟨last, rfl, -⟩ := exists_eq_append_of_replaceMark (by decide) hrest
  exact hapart.not_pagePath_prefix (List.prefix_append ..)

section Marks

variable {p : Char} (hlabel : isLabelChar p = false) (hdigit : p.isDigit = false)
  (hplain : isLinkMark p = false)

include hlabel hdigit hplain

theorem IsNumbered.mark_notMem {label number : List Char} (href : IsNumbered label number) :
    p ∉ referenceText label number ∧ p ∉ '[' :: label ++ [']', '('] := by
  obtain ⟨hpLabel, hpNumber⟩ := href.notMem hlabel hdigit
  have hmarks : p ≠ '[' ∧ p ≠ ']' ∧ p ≠ '(' ∧ p ≠ ')' := by
    simpa [isLinkMark, and_assoc] using hplain
  simp [referenceText, hpLabel, hpNumber, hmarks]

/-- A link stays as it is when its target holds no note mark. -/
theorem replaceMark_linkText_append {label number : List Char} (href : IsNumbered label number)
    {target : List Char} (htarget : ¬ [p, '>', ' '] <:+: target) (rest : List Char) :
    replaceMark p (linkText label target ++ rest) =
      linkText label target ++ replaceMark p rest := by
  obtain ⟨-, hfront⟩ := href.mark_notMem hlabel hdigit hplain
  have hsplit (rest : List Char) : linkText label target ++ rest =
      (('[' :: label ++ [']', '(']) ++ target) ++ ')' :: rest := by
    simp [linkText]
  have hclosing : ')' ∉ [p, '>', ' '] := by
    have hp : p ≠ ')' := by
      rintro rfl
      exact absurd hplain (by decide)
    simpa using hp.symm
  have hkept : ¬ [p, '>', ' '] <:+: ('[' :: label ++ [']', '(']) ++ target :=
    fun hfound ↦ htarget (Text.infix_of_infix_append hfront hfound)
  rw [hsplit, hsplit, replaceMark, Text.replaceAll_append_cons _ (List.cons_ne_nil _ _) hclosing,
    Text.replaceAll_eq_self hkept, ← replaceMark]

/-- Note marks may be replaced before or after the references. -/
theorem replaceMark_inlined {text : List Char} (h : ReferencesApart links text)
    (htargets : ∀ target rest, StandsApart target rest → ¬ [p, '>', ' '] <:+: target) :
    replaceMark p (inlined links text) = inlined links (replaceMark p text) := by
  have hopen : '[' ∉ [p, '>', ' '] := by
    have hp : p ≠ '[' := by
      rintro rfl
      exact absurd hplain (by decide)
    simpa using hp.symm
  refine Text.substitute_comm (motive := ReferencesApart links) (fun _ _ hmore ↦ hmore.of_append)
    ?reference ?mark ?neither h
  case reference =>
    intro text htext replacement rest hread
    obtain ⟨label, number, target, href, htarget, rfl, rfl⟩ :=
      mappedReference?_eq_some_iff.mp hread
    have hnone := htargets _ _ (htext [] label number target rest href htarget rfl)
    exact ⟨referenceText label number, List.cons_ne_nil _ _, rfl,
      Text.replaceAll_append_of_notMem _ (href.mark_notMem hlabel hdigit hplain).1 rest,
      replaceMark_linkText_append hlabel hdigit hplain href hnone _,
      mappedReference?_referenceText href htarget _⟩
  case mark =>
    intro text htext put rest hread
    obtain ⟨rfl, rfl⟩ := Text.occurrence?_eq_some_iff.mp hread
    exact ⟨[p, '>', ' '], List.cons_ne_nil _ _, rfl, inlined_append_of_notMem hopen rest,
      inlined_append_of_notMem (by decide) _, Text.occurrence?_eq_some_iff.mpr ⟨rfl, rfl⟩⟩
  case neither =>
    intro c text htext hreference hmark
    refine ⟨mappedReference?_cons_replaceMark hreference, ?_⟩
    rw [Option.eq_none_iff_forall_ne_some]
    rintro ⟨put, rest⟩ hread
    obtain ⟨rfl, heq⟩ := Text.occurrence?_eq_some_iff.mp hread
    obtain ⟨rfl, hbehind⟩ := List.cons.inj heq
    obtain ⟨behind, rfl, -⟩ := exists_eq_append_of_inlined (by decide) hbehind
    exact Option.some_ne_none _ ((Text.occurrence?_eq_some_iff.mpr ⟨rfl, rfl⟩).symm.trans hmark)

end Marks

/-! ## References to pages -/

theorem isPageDigit_of_isLabelChar {c : Char} (h : isLabelChar c = true) :
    isPageDigit c = false := by
  rw [Bool.eq_false_iff]
  intro hdigit
  exact Bool.false_ne_true ((isLabelChar_of_isDigit (isDigit_of_isPageDigit hdigit)).symm.trans h)

/-- A label in brackets is no number of a page. -/
theorem hostPages_label_append {label number : List Char} (href : IsNumbered label number)
    (rest : List Char) :
    hostPages ('[' :: label ++ ']' :: rest) = '[' :: label ++ ']' :: hostPages rest := by
  have hopen : '[' ∉ label ++ [']'] := by
    simp [(href.notMem (c := '[') (by decide) (by decide)).1]
  have hnone : pageReference? ('[' :: (label ++ ']' :: rest)) = none := by
    obtain ⟨c, label, rfl⟩ := List.exists_cons_of_ne_nil href.label_ne_nil
    exact pageReference?_eq_none_of_not_digit
      (isPageDigit_of_isLabelChar (href.inLabel c List.mem_cons_self)) _
  have hkept := hostPages_append_of_notMem hopen rest
  rw [List.append_assoc, List.append_assoc, List.singleton_append, List.singleton_append] at hkept
  rw [List.cons_append, hostPages_cons_of_none hnone, hkept, List.cons_append]

theorem hostPages_referenceText_append {label number : List Char} (href : IsNumbered label number)
    {rest : List Char} (hrest : ¬ pagePath <+: rest) :
    hostPages (referenceText label number ++ rest) =
      referenceText label number ++ hostPages rest := by
  obtain ⟨-, hopen⟩ := href.notMem (c := '[') (by decide) (by decide)
  obtain ⟨-, hclose⟩ := href.notMem (c := ']') (by decide) (by decide)
  have hnone : pageReference? ('[' :: (number ++ [']'] ++ rest)) = none := by
    rw [Option.eq_none_iff_forall_ne_some]
    rintro ⟨replacement, behind⟩ hread
    obtain ⟨digits, more, -, hdigits, htext⟩ := exists_pagePath_of_pageReference? hread
    have hdigitsClose : ']' ∉ digits := Text.notMem_of_class hdigits (by decide)
    rw [List.append_assoc] at htext
    obtain ⟨-, rfl⟩ := Text.eq_of_append_cons_eq hclose hdigitsClose (List.cons.inj htext).2
    exact hrest (List.prefix_append ..)
  have hnumber : '[' ∉ number ++ [']'] := by simp [hopen]
  calc hostPages (referenceText label number ++ rest)
    _ = hostPages ('[' :: label ++ ']' :: ('[' :: (number ++ [']'] ++ rest))) := by
      simp [referenceText]
    _ = '[' :: label ++ ']' :: '[' :: hostPages (number ++ [']'] ++ rest) := by
      rw [hostPages_label_append href, hostPages_cons_of_none hnone]
    _ = '[' :: label ++ ']' :: '[' :: (number ++ [']'] ++ hostPages rest) := by
      rw [hostPages_append_of_notMem hnumber]
    _ = referenceText label number ++ hostPages rest := by simp [referenceText]

theorem hostPages_linkText_append {label number : List Char} (href : IsNumbered label number)
    {target : List Char} (htarget : ¬ pagePath <:+: target) (rest : List Char) :
    hostPages (linkText label target ++ rest) = linkText label target ++ hostPages rest := by
  have hnone : ∀ c text, c :: text <:+ target →
      pageReference? (c :: text ++ ')' :: rest) = none := by
    -- The path of a page that begins in the target stands before the parenthesis, in the target.
    intro c text hsuffix
    rw [Option.eq_none_iff_forall_ne_some]
    rintro ⟨replacement, behind⟩ hread
    obtain ⟨digits, more, -, hdigits, htext⟩ := exists_pagePath_of_pageReference? hread
    have hclosing : ')' ∉ digits := Text.notMem_of_class hdigits (by decide)
    have hfront : ')' ∉ '[' :: digits ++ ']' :: pagePath := by
      have hpath : ')' ∉ pagePath := by decide
      simp [hclosing, hpath]
    have hbegins : '[' :: digits ++ ']' :: pagePath <+: c :: text ++ ')' :: rest :=
      ⟨more, by simp [htext]⟩
    have hpath : pagePath <:+: '[' :: digits ++ ']' :: pagePath :=
      (List.suffix_append ('[' :: digits ++ [']']) pagePath).isInfix.trans (by simp)
    have hfound := (Text.prefix_append_cons_iff hfront _ _).mp hbegins
    exact htarget (hpath.trans (hfound.isInfix.trans hsuffix.isInfix))
  have hclosing : ')' ∉ ['['] := by decide
  calc hostPages (linkText label target ++ rest)
    _ = hostPages ('[' :: label ++ ']' :: ('(' :: (target ++ ')' :: rest))) := by simp [linkText]
    _ = '[' :: label ++ ']' :: '(' :: hostPages (target ++ ')' :: rest) := by
      rw [hostPages_label_append href,
        hostPages_cons_of_none (pageReference?_eq_none_of_ne (by decide) _)]
    _ = '[' :: label ++ ']' :: '(' :: (target ++ hostPages (')' :: rest)) := by
      rw [hostPages, Text.substitute_append_of_forall_none hnone, ← hostPages]
    _ = linkText label target ++ hostPages rest := by
      rw [hostPages_cons_of_none (pageReference?_eq_none_of_ne (by decide) _)]
      simp [linkText]

theorem inlined_text_append (page : PageAddress) {site ending : List Char}
    (hsite : ∀ c ∈ site, isAddressChar c = true) (hletters : ∀ c ∈ ending, isSmallLetter c = true)
    (rest : List Char) :
    inlined links (page.text site ending ++ rest) =
      page.text site ending ++ inlined links rest := by
  have htail : '[' ∉ (page.text site ending).tail :=
    page.notMem_tail hsite hletters (by decide) (by decide)
  have htext : page.text site ending = '[' :: (page.text site ending).tail := rfl
  have hnone : mappedReference? links ('[' :: ((page.text site ending).tail ++ rest)) = none := by
    obtain ⟨c, number, hnumber⟩ := List.exists_cons_of_ne_nil page.number_ne_nil
    have hdigit := isDigit_of_isPageDigit
      (page.isPageDigit_of_mem c (hnumber ▸ List.mem_cons_self))
    rw [PageAddress.text, pageText, hnumber]
    exact mappedReference?_eq_none_of_not_label (isLabelChar_of_isDigit hdigit) _
  rw [htext, List.cons_append, inlined_cons_of_none hnone, inlined_append_of_notMem htail,
    List.cons_append]

/-- Where no reference begins, none does once pages are on the host. -/
theorem mappedReference?_cons_hostPages {c : Char} {text : List Char}
    (h : mappedReference? links (c :: text) = none) :
    mappedReference? links (c :: hostPages text) = none := by
  rw [Option.eq_none_iff_forall_ne_some]
  rintro ⟨replacement, rest⟩ hread
  obtain ⟨label, number, target, href, htarget, htext, -⟩ := mappedReference?_eq_some_iff.mp hread
  obtain ⟨hlabelOpen, hopen⟩ := href.notMem (c := '[') (by decide) (by decide)
  obtain ⟨-, hclose⟩ := href.notMem (c := ']') (by decide) (by decide)
  have hlabel : '[' ∉ label ++ [']'] := by simp [hlabelOpen]
  have hsplit : referenceText label number ++ rest =
      '[' :: ((label ++ [']']) ++ ('[' :: number ++ ']' :: rest)) := by
    simp [referenceText]
  rw [hsplit] at htext
  obtain ⟨rfl, htail⟩ := List.cons.inj htext
  obtain ⟨more, rfl, hmore⟩ := exists_eq_append_of_hostPages hlabel htail
  obtain ⟨behind, rfl⟩ := exists_number_of_hostPages hopen hclose hmore
  have hfound := mappedReference?_referenceText href htarget behind
  have hsame : '[' :: (label ++ [']'] ++ ('[' :: number ++ ']' :: behind)) =
      referenceText label number ++ behind := by
    simp [referenceText]
  rw [hsame, hfound] at h
  cases h

/-- Where no page is referred to, none is once references are inline. -/
theorem pageReference?_cons_inlined {c : Char} {text : List Char}
    (h : pageReference? (c :: text) = none) : pageReference? (c :: inlined links text) = none := by
  rw [Option.eq_none_iff_forall_ne_some]
  rintro ⟨replacement, rest⟩ hread
  obtain ⟨page, ending, htext, -, hne, hletters, -⟩ := pageReference?_eq_some_iff.mp hread
  have htail : '[' ∉ (page.text [] ending).tail :=
    page.notMem_tail (List.forall_mem_nil _) hletters (by decide) (by decide)
  rw [← page.text_append] at htext
  obtain ⟨rfl, hmore⟩ := List.cons.inj htext
  obtain ⟨behind, rfl, -⟩ := exists_eq_append_of_inlined htail hmore
  obtain ⟨d, letters, rfl⟩ := List.exists_cons_of_ne_nil hne
  have hletter := hletters d List.mem_cons_self
  have hnone : pageReference? (page.text [] (d :: letters) ++ behind) = none := h
  rw [page.text_append, pageReference?_text, Option.map_eq_none_iff] at hnone
  simp [Text.span1?, Text.span, hletter] at hnone

/-- Pages may be put on the host before or after the references. -/
theorem hostPages_inlined {text : List Char} (h : ReferencesApart links text) :
    hostPages (inlined links text) = inlined links (hostPages text) := by
  refine Text.substitute_comm (motive := ReferencesApart links) (fun _ _ hmore ↦ hmore.of_append)
    ?reference ?page ?neither h
  case reference =>
    intro text htext replacement rest hread
    obtain ⟨label, number, target, href, htarget, rfl, rfl⟩ :=
      mappedReference?_eq_some_iff.mp hread
    have hapart := htext [] label number target rest href htarget rfl
    exact ⟨referenceText label number, List.cons_ne_nil _ _, rfl,
      hostPages_referenceText_append href hapart.not_pagePath_prefix,
      hostPages_linkText_append href hapart.not_pagePath_infix _,
      mappedReference?_referenceText href htarget _⟩
  case page =>
    intro text htext replacement rest hread
    obtain ⟨page, ending, rfl, rfl, hne, hletters, hhead⟩ := pageReference?_eq_some_iff.mp hread
    refine ⟨page.text [] ending, List.cons_ne_nil _ _, (page.text_append ..).symm,
      inlined_text_append page (List.forall_mem_nil _) hletters rest,
      inlined_text_append page isAddressChar_of_mem_host hletters _, ?_⟩
    rw [page.text_append]
    refine pageReference?_eq_some_iff.mpr ⟨page, ending, rfl, rfl, hne, hletters, ?_⟩
    exact fun c hc ↦ hhead c (head?_inlined rest ▸ hc)
  case neither =>
    intro c text htext hreference hpage
    exact ⟨mappedReference?_cons_hostPages hreference, pageReference?_cons_inlined hpage⟩

/-! ## Inline text -/

theorem dropQualifierLines_inlined (text : List Char) :
    dropQualifierLines (inlined links text) = inlined links (dropQualifierLines text) := by
  rw [dropQualifierLines, after?_inlined (by decide), after?_inlined (by decide),
    dropQualifierLines]
  cases Text.after? "-\n(Required)\n".toList text with
  | some rest => rfl
  | none => cases Text.after? "-\n(Optional)\n".toList text <;> rfl

theorem exists_append_dropQualifierLines (text : List Char) :
    ∃ front, text = front ++ dropQualifierLines text := by
  unfold dropQualifierLines
  cases hrequired : Text.after? "-\n(Required)\n".toList text with
  | some rest => exact ⟨_, Text.after?_eq_some_iff.mp hrequired⟩
  | none =>
    cases hoptional : Text.after? "-\n(Optional)\n".toList text with
    | some rest => exact ⟨_, Text.after?_eq_some_iff.mp hoptional⟩
    | none => exact ⟨[], rfl⟩

theorem inlined_replaceNoteMarks {text : List Char} (h : ReferencesApart links text) :
    inlined links (replaceNoteMarks text) = replaceNoteMarks (inlined links text) := by
  have harrow : replaceMark '-' (inlined links text) = inlined links (replaceMark '-' text) :=
    replaceMark_inlined (by decide) (by decide) (by decide) h
      fun _ _ hapart ↦ hapart.not_arrow_infix
  have htilde : replaceMark '~' (inlined links (replaceMark '-' text)) =
      inlined links (replaceMark '~' (replaceMark '-' text)) :=
    replaceMark_inlined (by decide) (by decide) (by decide) h.replaceMark
      fun _ _ hapart ↦ hapart.not_tilde_infix
  rw [replaceNoteMarks_eq, replaceNoteMarks_eq, harrow, htilde]

/-- References may be put inline beforehand. -/
theorem inlineText_inlined (language : OutputLanguage) (provider : Provider) {text : List Char}
    (h : ReferencesApart links text) :
    inlineText ⟨language, provider, links⟩ text =
      inlineText ⟨language, provider, ∅⟩ (inlined links text) := by
  have hmarks : ReferencesApart links (replaceNoteMarks text) := h.replaceMark.replaceMark
  obtain ⟨front, hfront⟩ := exists_append_dropQualifierLines (replaceNoteMarks text)
  have hdropped : ReferencesApart links (dropQualifierLines (replaceNoteMarks text)) :=
    (hfront ▸ hmarks).of_append
  calc inlineText ⟨language, provider, links⟩ text
    _ = inlined links (hostPages (dropQualifierLines (replaceNoteMarks text))) :=
      replaceNumberedReferences_eq_inlined links _
    _ = hostPages (inlined links (dropQualifierLines (replaceNoteMarks text))) :=
      (hostPages_inlined hdropped).symm
    _ = hostPages (dropQualifierLines (replaceNoteMarks (inlined links text))) := by
      rw [← dropQualifierLines_inlined, inlined_replaceNoteMarks h]
    _ = inlineText ⟨language, provider, ∅⟩ (inlined links text) := rfl

end Apart

end ProviderDocs.Cleanup
