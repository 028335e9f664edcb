import ProviderDocs.Proofs.Cleanup.ReferenceOrder

/-!
# References and inline links

Where the targets of its footer links stand apart from what cleanup changes before it, a document is
cleaned up as if its links by number were inline ones.
-/

namespace ProviderDocs

namespace Cleanup

section Occurrences

variable {links : Dict String}

/-! ## What occurs in the inline text -/

/-- No text without marks of links comes about or is lost when references are put inline. -/
theorem infix_inlined_iff {pattern : List Char} (hne : pattern ≠ []) (hplain : IsPlain pattern)
    (hdigit : ∃ c ∈ pattern, c.isDigit = false)
    (htargets : ∀ target rest, StandsApart target rest → ¬ pattern <:+: target)
    {text : List Char} (h : ReferencesApart links text) :
    pattern <:+: inlined links text ↔ pattern <:+: text := by
  have hmark {mark : Char} (hmark : isLinkMark mark = true) : mark ∉ pattern := hplain.notMem hmark
  have hreads : Text.ReadsFront (mappedReference? links) := readsFront_mappedReference?
  induction text using hreads.induction with
  | nil => rw [inlined, Text.substitute_nil]
  | keep c text hnone ih =>
    obtain ⟨p, tail, rfl⟩ := List.exists_cons_of_ne_nil hne
    have hbegins : tail <+: inlined links text ↔ tail <+: text :=
      prefix_inlined_iff fun hmem ↦ hmark (by decide) (List.mem_cons_of_mem _ hmem)
    have hapart : ReferencesApart links ([c] ++ text) := h
    have hbehind : p :: tail <:+: inlined links text ↔ p :: tail <:+: text := ih hapart.of_append
    rw [inlined_cons_of_none hnone, List.infix_cons_iff, List.infix_cons_iff,
      List.cons_prefix_cons, List.cons_prefix_cons, hbegins, hbehind]
  | read text replacement rest hsome ih =>
    rw [inlined_of_mappedReference? hsome]
    obtain ⟨label, number, target, href, htarget, htext, rfl⟩ :=
      mappedReference?_eq_some_iff.mp hsome
    rw [htext] at h ⊢
    have htargetNone := htargets _ _ (h [] label number target rest href htarget rfl)
    have hnumber : ¬ pattern <:+: number := by
      obtain ⟨c, hc, hdigit⟩ := hdigit
      exact fun hfound ↦ Text.notMem_of_class href.inNumber hdigit (hfound.subset hc)
    have hreference : referenceText label number ++ rest =
        '[' :: (label ++ ']' :: '[' :: (number ++ ']' :: rest)) := by
      simp [referenceText]
    have hlink (rest : List Char) : linkText label target.toList ++ rest =
        '[' :: (label ++ ']' :: '(' :: (target.toList ++ ')' :: rest)) := by
      simp [linkText]
    have hopen := hmark (by decide : isLinkMark '[' = true)
    have hclose := hmark (by decide : isLinkMark ']' = true)
    have hopening := hmark (by decide : isLinkMark '(' = true)
    have hclosing := hmark (by decide : isLinkMark ')' = true)
    -- The pattern goes over no mark, so it is in the label, the target, the number or the rest.
    have hbehind : pattern <:+: inlined links rest ↔ pattern <:+: rest := ih h.of_append
    rw [hreference, hlink, Text.infix_cons_iff_of_notMem hne hopen,
      Text.infix_append_cons_iff hne hclose, Text.infix_cons_iff_of_notMem hne hopening,
      Text.infix_append_cons_iff hne hclosing, or_iff_right htargetNone, hbehind,
      Text.infix_cons_iff_of_notMem hne hopen, Text.infix_append_cons_iff hne hclose,
      Text.infix_cons_iff_of_notMem hne hopen, Text.infix_append_cons_iff hne hclose,
      or_iff_right hnumber]

theorem namesTerraform_inlined {text : List Char} (h : ReferencesApart links text) :
    namesTerraform (inlined links text) = namesTerraform text := by
  have hnone (target rest : List Char) (hapart : StandsApart target rest) :
      ¬ "Terraform".toList <:+: target ∧ ¬ "terraform".toList <:+: target := by
    have hfalse := hapart.namesTerraform_eq
    rw [namesTerraform, Bool.or_eq_false_iff, ← Bool.not_eq_true, ← Bool.not_eq_true] at hfalse
    simpa only [Text.occursIn_iff] using hfalse
  rw [Bool.eq_iff_iff, namesTerraform, namesTerraform, Bool.or_eq_true, Bool.or_eq_true]
  simp only [Text.occursIn_iff]
  exact or_congr
    (infix_inlined_iff (by decide) (by decide +kernel) ⟨'T', by decide, by decide⟩
      (fun target rest hapart ↦ (hnone target rest hapart).1) h)
    (infix_inlined_iff (by decide) (by decide +kernel) ⟨'t', by decide, by decide⟩
      (fun target rest hapart ↦ (hnone target rest hapart).2) h)

theorem fence_infix_inlined_iff {text : List Char} (h : ReferencesApart links text) :
    fence <:+: inlined links text ↔ fence <:+: text :=
  infix_inlined_iff (by decide) (by decide) ⟨'`', by decide, by decide⟩
    (fun _ _ hapart ↦ hapart.not_fence_infix) h

/-- Where references stand apart they may be put inline before the text is cleaned up. -/
theorem cleanText?_inlined (language : OutputLanguage) (provider : Provider) {text : List Char}
    (hfence : ¬ fence <:+: text) (h : ReferencesApart links text) :
    cleanText? ⟨language, provider, links⟩ (String.ofList text) =
      cleanText? ⟨language, provider, ∅⟩ (String.ofList (inlined links text)) := by
  have hadapt : adaptProse ⟨language, provider, links⟩ text =
      adaptProse ⟨language, provider, ∅⟩ (inlined links text) := by
    rw [adaptProse_eq, adaptProse_eq, inlineText_inlined language provider h]
    rfl
  rw [cleanText?_of_not_fence _ hfence,
    cleanText?_of_not_fence _ (mt (fence_infix_inlined_iff h).mp hfence),
    namesTerraform_inlined h, hadapt]

end Occurrences

/-! ## Inline links -/

def isUnbracketed (c : Char) : Bool := c != '[' && c != ']'

/-- The text with an inline link for every label in brackets, whatever it holds, before the key of
a footer link. -/
def withInlineLinks (links : Dict String) (text : List Char) : List Char :=
  Text.substitute (footerReference? isUnbracketed isUnbracketed links) text

/-- Every label before the key of a footer link is one of letters, spaces and `?`, `.`, `!`, the key
is a number in ASCII digits, and the target stands apart. -/
def AreInlinable (links : Dict String) (text : List Char) : Prop :=
  ∀ front label number target rest, label ≠ [] → (∀ c ∈ label, isUnbracketed c = true) →
    links.get? (numberKey number) = some target →
    text = front ++ (referenceText label number ++ rest) →
      IsNumbered label number ∧ StandsApart target.toList rest

section Inlinable

variable {links : Dict String} {text : List Char}

theorem IsNumbered.isUnbracketed {label number : List Char} (h : IsNumbered label number) :
    IsFooterReference isUnbracketed isUnbracketed label number := by
  have hclass {inClass : Char → Bool} (hopen : inClass '[' = false) (hclose : inClass ']' = false)
      (c : Char) (hc : inClass c = true) : Cleanup.isUnbracketed c = true := by
    have hne {mark : Char} (hmark : inClass mark = false) : c ≠ mark := by
      rintro rfl
      exact Bool.false_ne_true (hmark.symm.trans hc)
    simp [Cleanup.isUnbracketed, hne hopen, hne hclose]
  exact h.mono (hclass (by decide) (by decide)) (hclass (by decide) (by decide))

theorem AreInlinable.of_suffix {rest : List Char} (h : AreInlinable links text)
    (hsuffix : rest <:+ text) : AreInlinable links rest := by
  obtain ⟨before, rfl⟩ := hsuffix
  intro front label number target behind hne hlabel htarget htext
  exact h (before ++ front) label number target behind hne hlabel htarget
    (by rw [htext, List.append_assoc])

theorem AreInlinable.referencesApart (h : AreInlinable links text) :
    ReferencesApart links text := by
  intro front label number target rest href htarget htext
  exact (h front label number target rest href.label_ne_nil href.isUnbracketed.inLabel htarget
    htext).2

theorem AreInlinable.footerReference?_eq (h : AreInlinable links text) :
    footerReference? isUnbracketed isUnbracketed links text = mappedReference? links text := by
  refine Option.ext fun (replacement, rest) ↦ ?_
  rw [footerReference?_eq_some_iff rfl rfl, mappedReference?_eq_some_iff]
  constructor
  · rintro ⟨label, number, target, href, htarget, htext, hreplacement⟩
    obtain ⟨hnumbered, -⟩ :=
      h [] label number target rest href.label_ne_nil href.inLabel htarget htext
    exact ⟨label, number, target, hnumbered, htarget, htext, hreplacement⟩
  · rintro ⟨label, number, target, href, htarget, htext, hreplacement⟩
    exact ⟨label, number, target, href.isUnbracketed, htarget, htext, hreplacement⟩

theorem AreInlinable.inlined_eq (h : AreInlinable links text) :
    withInlineLinks links text = inlined links text := by
  refine (Text.substitute_congr readsFront_mappedReference? fun rest hrest ↦ ?_).symm
  exact (h.of_suffix hrest).footerReference?_eq.symm

/-- A reference with no other brackets around it is the only one. -/
theorem areInlinable_of_one {front label number rest : List Char} {target : String}
    (hfront : '[' ∉ front) (hrest : ∀ c ∈ rest, isUnbracketed c = true)
    (href : IsNumbered label number) (htarget : links.get? (numberKey number) = some target)
    (hapart : StandsApart target.toList rest) :
    AreInlinable links (front ++ (referenceText label number ++ rest)) := by
  intro before other digits found behind hne hother hfound htext
  obtain ⟨hlabelOpen, hnumberOpen⟩ := href.notMem (c := '[') (by decide) (by decide)
  obtain ⟨hlabelClose, hnumberClose⟩ := href.notMem (c := ']') (by decide) (by decide)
  have hrestOpen : '[' ∉ rest := Text.notMem_of_class hrest (by decide)
  have hrestClose : ']' ∉ rest := Text.notMem_of_class hrest (by decide)
  have hbefore : '[' ∉ before := by
    have hopen := congrArg (List.count '[') htext
    simp [referenceText, List.count_eq_zero_of_not_mem, hfront, hlabelOpen, hnumberOpen,
      hrestOpen] at hopen
    exact List.count_eq_zero.mp (by omega)
  rw [referenceText_append, referenceText_append] at htext
  obtain ⟨-, hname⟩ := Text.eq_of_append_cons_eq hfront hbefore htext
  have hotherClose : ']' ∉ other := Text.notMem_of_class hother (by decide)
  obtain ⟨rfl, hname⟩ := Text.eq_of_append_cons_eq hlabelClose hotherClose hname
  have hname : number ++ ']' :: rest = digits ++ ']' :: behind := by simpa using hname
  have hdigits : ']' ∉ digits := by
    have hclose := congrArg (List.count ']') hname
    simp [List.count_eq_zero_of_not_mem, hnumberClose, hrestClose] at hclose
    exact List.count_eq_zero.mp (by omega)
  obtain ⟨rfl, rfl⟩ := Text.eq_of_append_cons_eq hnumberClose hdigits hname
  obtain rfl : target = found := Option.some.inj (htarget.symm.trans hfound)
  exact ⟨href, hapart⟩

/-- A text whose links by number may be written inline is cleaned up as if they were. -/
theorem cleanText?_withInlineLinks (language : OutputLanguage) (provider : Provider)
    {links : Dict String} {text : String} (hfence : ¬ fence <:+: text.toList)
    (h : AreInlinable links text.toList) :
    cleanText? ⟨language, provider, links⟩ text =
      cleanText? ⟨language, provider, ∅⟩
        (String.ofList (withInlineLinks links text.toList)) := by
  have hclean := cleanText?_inlined language provider hfence h.referencesApart
  rwa [String.ofList_toList, ← h.inlined_eq] at hclean

end Inlinable

/-! ## A text with links by number -/

def bucketGuide : String := "See [the docs][1] of `bucket_name`."

def guideLinks : Dict String := .ofList [("[1]", "https://docs.aws.amazon.com/s3/")]

theorem areInlinable_bucketGuide : AreInlinable guideLinks bucketGuide.toList := by
  have htarget : guideLinks.get? (numberKey "1".toList) =
      some "https://docs.aws.amazon.com/s3/" := by
    decide +kernel
  have hnumbered : IsNumbered "the docs".toList "1".toList :=
    ⟨by decide, List.all_eq_true.mp (by decide +kernel), by decide,
      List.all_eq_true.mp (by decide +kernel)⟩
  have hapart : StandsApart "https://docs.aws.amazon.com/s3/".toList
      " of `bucket_name`.".toList :=
    ⟨by decide +kernel, by decide +kernel, by decide +kernel, by decide +kernel,
      by decide +kernel, by decide +kernel⟩
  have hfront : '[' ∉ "See ".toList := by decide
  have hrest : " of `bucket_name`.".toList.all isUnbracketed = true := by decide +kernel
  exact areInlinable_of_one hfront (List.all_eq_true.mp hrest) hnumbered htarget hapart

theorem cleanText?_withInlineLinks_bucketGuide :
    ¬ fence <:+: bucketGuide.toList ∧ AreInlinable guideLinks bucketGuide.toList ∧
      cleanText? ⟨.nodejs, .empty, guideLinks⟩ bucketGuide =
        some "See [the docs](https://docs.aws.amazon.com/s3/) of `bucketName`." := by
  have hfence : ¬ fence <:+: bucketGuide.toList := by decide +kernel
  refine ⟨hfence, areInlinable_bucketGuide, ?_⟩
  have hclean := cleanText?_withInlineLinks .nodejs .empty hfence areInlinable_bucketGuide
  exact hclean.trans (by decide +kernel)

/-- A text is given up for what its inline links name, but not for what its footer links do. -/
theorem not_cleanText?_withInlineLinks :
    ¬ ∀ (language : OutputLanguage) (provider : Provider) (links : Dict String) (text : String),
      ¬ fence <:+: text.toList →
        cleanText? ⟨language, provider, links⟩ text =
          cleanText? ⟨language, provider, ∅⟩
            (String.ofList (withInlineLinks links text.toList)) := by
  intro hall
  have hfence : ¬ fence <:+: "See [docs][1].".toList := by decide +kernel
  have hclean := hall .schema .empty (.ofList [("[1]", "https://www.terraform.io/docs")])
    "See [docs][1]." hfence
  exact absurd hclean (by decide +kernel)

end Cleanup

end ProviderDocs
