import ProviderDocs.Proofs.Cleanup.ReferenceOrder

/-!
# Cutting a text before a bracket

Cleanup passes over a text may be made part by part when the text is cut at the end of a line,
before a bracket that is not followed by the target of a link, and no link target is left open.
-/

namespace ProviderDocs.Cleanup

/-- Behind every closing bracket and opening parenthesis there is a closing parenthesis. -/
def IsClosed : List Char → Prop
  | [] => True
  | c :: text => (c = ']' ∧ text.head? = some '(' → ')' ∈ text) ∧ IsClosed text

instance IsClosed.instDecidable : ∀ text, Decidable (IsClosed text)
  | [] => isTrue trivial
  | _ :: text =>
    have := instDecidable text
    inferInstanceAs (Decidable (_ ∧ _))

theorem IsClosed.of_append {front rest : List Char} (h : IsClosed (front ++ rest)) :
    IsClosed rest := by
  induction front with
  | nil => exact h
  | cons c front ih => exact ih h.2

theorem IsClosed.append_of_notMem {front rest : List Char} (hfront : ']' ∉ front)
    (h : IsClosed rest) : IsClosed (front ++ rest) := by
  induction front with
  | nil => exact h
  | cons c front ih =>
    obtain ⟨hc, hfront⟩ := List.ne_and_not_mem_of_not_mem_cons hfront
    exact ⟨fun hopen ↦ absurd hopen.1.symm hc, ih hfront⟩

/-- A parenthesis closes what stands before it. -/
theorem IsClosed.append_cons {rest : List Char} (h : IsClosed rest) (front : List Char) :
    IsClosed (front ++ ')' :: rest) := by
  induction front with
  | nil => exact ⟨fun hopen ↦ absurd hopen.1 (by decide), h⟩
  | cons c front ih => exact ⟨fun _ ↦ by simp, ih⟩

/-! ## Passes over a closed text -/

section Passes

variable {step? : List Char → Option (List Char × List Char)}

/-- The recognizer takes no closing parenthesis, and what it puts leaves nothing open. -/
structure KeepsClosed (step? : List Char → Option (List Char × List Char)) : Prop where
  takes : ∀ text replacement rest, step? text = some (replacement, rest) →
    ∃ piece, piece ≠ [] ∧ ')' ∉ piece ∧ text = piece ++ rest
  puts : ∀ text replacement rest, step? text = some (replacement, rest) →
    replacement.head? ≠ some '(' ∧ replacement ≠ [] ∧
      ∀ behind, IsClosed behind → IsClosed (replacement ++ behind)

namespace KeepsClosed

variable (hstep : KeepsClosed step?)

include hstep

theorem readsFront : Text.ReadsFront step? := by
  intro text replacement rest hread
  obtain ⟨piece, hne, -, htext⟩ := hstep.takes _ _ _ hread
  exact ⟨piece, hne, htext⟩

theorem parenthesis_mem {text : List Char} (h : ')' ∈ text) :
    ')' ∈ Text.substitute step? text := by
  induction text using hstep.readsFront.induction with
  | nil => cases h
  | keep c text hnone ih =>
    rw [Text.substitute_cons_of_none hnone]
    rcases List.mem_cons.mp h with rfl | h
    · exact List.mem_cons_self
    · exact List.mem_cons_of_mem _ (ih h)
  | read text replacement rest hsome ih =>
    obtain ⟨piece, -, hpiece, rfl⟩ := hstep.takes _ _ _ hsome
    rw [hstep.readsFront.substitute_of_some hsome]
    exact List.mem_append_right _ (ih ((List.mem_append.mp h).resolve_left hpiece))

theorem head?_eq {text : List Char} (h : (Text.substitute step? text).head? = some '(') :
    text.head? = some '(' := by
  cases text with
  | nil => rwa [Text.substitute_nil] at h
  | cons c text =>
    cases hread : step? (c :: text) with
    | none => rwa [Text.substitute_cons_of_none hread] at h
    | some found =>
      obtain ⟨replacement, rest⟩ := found
      obtain ⟨hhead, hne, -⟩ := hstep.puts _ _ _ hread
      rw [hstep.readsFront.substitute_of_some hread, List.head?_append_of_ne_nil _ hne] at h
      exact absurd h hhead

/-- A text stays closed. -/
theorem isClosed {text : List Char} (h : IsClosed text) :
    IsClosed (Text.substitute step? text) := by
  induction text using hstep.readsFront.induction with
  | nil => rwa [Text.substitute_nil]
  | keep c text hnone ih =>
    rw [Text.substitute_cons_of_none hnone]
    exact ⟨fun hopen ↦ hstep.parenthesis_mem (h.1 ⟨hopen.1, hstep.head?_eq hopen.2⟩), ih h.2⟩
  | read text replacement rest hsome ih =>
    obtain ⟨piece, -, -, rfl⟩ := hstep.takes _ _ _ hsome
    obtain ⟨-, -, hputs⟩ := hstep.puts _ _ _ hsome
    rw [hstep.readsFront.substitute_of_some hsome]
    exact hputs _ (ih h.of_append)

end KeepsClosed

end Passes

theorem keepsClosed_occurrence? {p : Char} (hp : p ≠ ')') :
    KeepsClosed (Text.occurrence? [p, '>', ' '] ['>', ' ']) where
  takes := by
    intro text put rest hread
    exact ⟨[p, '>', ' '], List.cons_ne_nil _ _, by simpa using hp.symm,
      (Text.occurrence?_eq_some_iff.mp hread).2⟩
  puts := by
    intro text put rest hread
    obtain ⟨rfl, -⟩ := Text.occurrence?_eq_some_iff.mp hread
    exact ⟨by decide, List.cons_ne_nil _ _, fun behind ↦ IsClosed.append_of_notMem (by decide)⟩

theorem keepsClosed_mappedReference? (links : Dict String) :
    KeepsClosed (mappedReference? links) where
  takes := by
    intro text replacement rest hread
    obtain ⟨label, number, target, href, -, htext, -⟩ := mappedReference?_eq_some_iff.mp hread
    obtain ⟨hlabel, hnumber⟩ := href.notMem (c := ')') (by decide) (by decide)
    exact ⟨referenceText label number, List.cons_ne_nil _ _,
      by simp [referenceText, hlabel, hnumber], htext⟩
  puts := by
    intro text replacement rest hread
    obtain ⟨label, number, target, -, -, -, rfl⟩ := mappedReference?_eq_some_iff.mp hread
    refine ⟨by simp [linkText], List.cons_ne_nil _ _, fun behind hbehind ↦ ?_⟩
    have hclosed := hbehind.append_cons ('[' :: label ++ ']' :: '(' :: target.toList)
    simpa [linkText] using hclosed

theorem keepsClosed_pageReference? : KeepsClosed pageReference? where
  takes := by
    intro text replacement rest hread
    obtain ⟨page, ending, rfl, -, -, hletters, -⟩ := pageReference?_eq_some_iff.mp hread
    have htail : ')' ∉ (page.text [] ending).tail :=
      page.notMem_tail (List.forall_mem_nil _) hletters (by decide) (by decide)
    exact ⟨page.text [] ending, List.cons_ne_nil _ _,
      List.not_mem_cons_of_ne_of_not_mem (by decide) htail, (page.text_append ..).symm⟩
  puts := by
    intro text replacement rest hread
    obtain ⟨page, ending, -, rfl, -, hletters, -⟩ := pageReference?_eq_some_iff.mp hread
    have hnumber : ']' ∉ page.number := Text.notMem_of_class page.isPageDigit_of_mem (by decide)
    have haddress : ']' ∉ addressText host page.segments ending := Text.notMem_of_class
      (page.isAddressChar_of_mem isAddressChar_of_mem_host hletters) (by decide)
    refine ⟨by simp [PageAddress.text, pageText], List.cons_ne_nil _ _, fun behind hbehind ↦ ?_⟩
    have htail : IsClosed (':' :: ' ' :: addressText host page.segments ending ++ behind) :=
      hbehind.append_of_notMem (by simp [haddress])
    have hbracket :
        IsClosed (']' :: ':' :: ' ' :: addressText host page.segments ending ++ behind) :=
      ⟨fun hopen ↦ absurd hopen.2 (by simp), htail⟩
    have hfront : ']' ∉ '[' :: page.number := by simp [hnumber]
    simpa [PageAddress.text, pageText] using hbracket.append_of_notMem hfront

/-- The text in which links are resolved is closed when the text is. -/
theorem isClosed_inlineText (context : Context) {text : List Char} (h : IsClosed text) :
    IsClosed (inlineText context text) := by
  have hmarks : IsClosed (replaceNoteMarks text) :=
    (keepsClosed_occurrence? (by decide)).isClosed
      ((keepsClosed_occurrence? (by decide)).isClosed h)
  obtain ⟨front, hfront⟩ := exists_append_dropQualifierLines (replaceNoteMarks text)
  rw [hfront] at hmarks
  rw [inlineText, replaceNumberedReferences_eq_inlined]
  exact (keepsClosed_mappedReference? _).isClosed
    (keepsClosed_pageReference?.isClosed hmarks.of_append)

/-! ## The end of a line -/

theorem EndsLine.substitute {step? : List Char → Option (List Char × List Char)}
    (hend : ∀ text replacement rest, step? text = some (replacement, rest) →
      ∃ piece last, text = piece ++ last :: rest ∧ last ≠ '\n')
    {text : List Char} (h : EndsLine text) : EndsLine (Text.substitute step? text) := by
  cases hlast : text.getLast? with
  | none =>
    obtain rfl := List.getLast?_eq_none_iff.mp hlast
    rwa [Text.substitute_nil]
  | some c =>
    obtain rfl := h c hlast
    have hpiece : ∀ text replacement rest, step? text = some (replacement, rest) →
        ∃ piece, text = piece ++ rest ∧ piece.getLast? ≠ some '\n' := by
      intro text replacement rest hread
      obtain ⟨piece, last, htext, hne⟩ := hend _ _ _ hread
      exact ⟨piece ++ [last], by simp [htext], by simpa using hne⟩
    have hkept := Text.getLast?_substitute hpiece hlast
    rintro d hd
    exact Option.some.inj ((Option.mem_def.mp hd).symm.trans hkept)

/-- Up to its references to footer links a text stops where it stopped. -/
theorem endsLine_hostPages {text : List Char} (h : EndsLine text) :
    EndsLine (hostPages (dropQualifierLines (replaceNoteMarks text))) := by
  have hmark {p : Char} {text : List Char} (h : EndsLine text) : EndsLine (replaceMark p text) := by
    refine h.substitute fun text put rest hread ↦ ⟨[p, '>'], ' ', ?_, by decide⟩
    exact (Text.occurrence?_eq_some_iff.mp hread).2
  obtain ⟨front, hfront⟩ := exists_append_dropQualifierLines (replaceNoteMarks text)
  have hdropped : EndsLine (dropQualifierLines (replaceNoteMarks text)) := by
    have hmarks : EndsLine (replaceNoteMarks text) := hmark (hmark h)
    rw [hfront] at hmarks
    exact hmarks.of_append
  refine hdropped.substitute fun text replacement rest hread ↦ ?_
  obtain ⟨page, ending, rfl, -, hne, hletters, -⟩ := pageReference?_eq_some_iff.mp hread
  obtain ⟨letters, last, rfl⟩ := (List.eq_nil_or_concat ending).resolve_left hne
  refine ⟨page.text [] letters, last, ?_, ?_⟩
  · rw [page.text_append]
    simp
  · rintro rfl
    exact absurd (hletters '\n' (by simp)) (by decide)

theorem endsLine_inlineText (context : Context) {text : List Char} (h : EndsLine text) :
    EndsLine (inlineText context text) := by
  rw [inlineText, replaceNumberedReferences_eq_inlined]
  refine (endsLine_hostPages h).substitute fun text replacement rest hread ↦ ?_
  obtain ⟨label, number, target, -, -, rfl, -⟩ := mappedReference?_eq_some_iff.mp hread
  exact ⟨'[' :: label ++ ']' :: '[' :: number, ']', by simp [referenceText], by decide⟩

theorem endsLine_renameReferences (context : Context) {text : List Char} :
    EndsLine text → EndsLine (renameReferences context text) := by
  have hlast : (renameReferences context text).getLast? = text.getLast? := by
    refine renameReferences_induct context
      (motive := fun text after ↦ after.getLast? = text.getLast?) rfl ?keep ?word text
    case keep =>
      intro c text ih
      rw [List.getLast?_cons, List.getLast?_cons, ih]
    case word =>
      intro opening name closing text _ ih
      rw [List.getLast?_append, List.getLast?_append, List.getLast?_cons, ih, Option.some_or,
        List.getLast?_cons, Option.some_or]
  intro h c hc
  exact h c (hlast ▸ hc)

/-- Adapted prose stops at the end of a line when the prose does. -/
theorem endsLine_adaptProse (context : Context) {text : List Char} (h : EndsLine text) :
    EndsLine (adaptProse context text) := by
  rw [adaptProse_eq]
  refine endsLine_renameReferences context
    ((endsLine_inlineText context h).substitute fun text replacement rest hread ↦ ?_)
  rw [inlineLink?_eq, Option.map_eq_some_iff] at hread
  obtain ⟨⟨label, target, _⟩, hlink, ⟨⟩⟩ := hread
  obtain ⟨-, -, rfl⟩ := link?_eq_some_iff.mp hlink
  exact ⟨'[' :: label ++ ']' :: '(' :: target, ')', by simp [linkText], by decide⟩

theorem BehindLine.substitute {step? : List Char → Option (List Char × List Char)}
    (hnone : ∀ text, step? ('\n' :: text) = none) {text : List Char} (h : BehindLine text) :
    BehindLine (Text.substitute step? text) := by
  cases text with
  | nil => rwa [Text.substitute_nil]
  | cons c text =>
    obtain rfl := h c rfl
    rw [Text.substitute_cons_of_none (hnone text)]
    exact behindLine_newline _

theorem BehindLine.replaceNoteMarks {text : List Char} (h : BehindLine text) :
    BehindLine (replaceNoteMarks text) :=
  BehindLine.substitute (fun _ ↦ rfl) (BehindLine.substitute (fun _ ↦ rfl) h)

/-- No qualifier is dropped at the end of a line. -/
theorem BehindLine.dropQualifierLines_eq {text : List Char} (h : BehindLine text) :
    dropQualifierLines text = text := by
  cases text with
  | nil => rfl
  | cons c text =>
    obtain rfl := h c rfl
    rfl

theorem BehindLine.adaptProse (context : Context) {text : List Char} (h : BehindLine text) :
    BehindLine (adaptProse context text) := by
  have hinline : BehindLine (inlineText context text) := by
    rw [inlineText, replaceNumberedReferences_eq_inlined, h.replaceNoteMarks.dropQualifierLines_eq]
    refine BehindLine.substitute (fun text ↦ mappedReference?_eq_none_of_ne (by decide) text) ?_
    exact h.replaceNoteMarks.substitute fun text ↦ pageReference?_eq_none_of_ne (by decide) text
  rw [adaptProse_eq]
  intro c hc
  rw [head?_renameReferences] at hc
  exact hinline.substitute (fun _ ↦ rfl) c hc

/-! ## Parts of a text -/

theorem replaceMark_append_bracket {p : Char} (hp : p ≠ '[') (front rest : List Char) :
    replaceMark p (front ++ '[' :: rest) = replaceMark p front ++ replaceMark p ('[' :: rest) := by
  have hbracket : '[' ∉ [p, '>', ' '] := by simpa using hp.symm
  have hcut := Text.replaceAll_append_cons ['>', ' '] (List.cons_ne_nil _ _) hbracket
  have hnone := hcut [] rest
  rw [List.nil_append, Text.replaceAll_nil, List.nil_append] at hnone
  rw [replaceMark, hcut, hnone]

theorem after?_append_bracket {pattern : List Char} (h : '[' ∉ pattern) (front rest : List Char) :
    Text.after? pattern (front ++ '[' :: rest) =
      (Text.after? pattern front).map (· ++ '[' :: rest) := by
  cases hread : Text.after? pattern front with
  | some behind =>
    obtain rfl := Text.after?_eq_some_iff.mp hread
    rw [List.append_assoc, Text.after?_append, Option.map_some]
  | none =>
    have hbegins : ¬ pattern <+: front := by
      rw [← Text.isSome_after?_iff, hread]
      exact Bool.false_ne_true
    rw [Option.map_none, ← Option.not_isSome_iff_eq_none, Text.isSome_after?_iff,
      Text.prefix_append_cons_iff h]
    exact hbegins

theorem dropQualifierLines_append_bracket (front rest : List Char) :
    dropQualifierLines (front ++ '[' :: rest) = dropQualifierLines front ++ '[' :: rest := by
  rw [dropQualifierLines, after?_append_bracket (by decide), after?_append_bracket (by decide),
    dropQualifierLines]
  cases Text.after? "-\n(Required)\n".toList front with
  | some behind => rfl
  | none => cases Text.after? "-\n(Optional)\n".toList front <;> rfl

/-- A piece that is read as a reference to a page. -/
def IsPagePiece (piece replacement : List Char) : Prop :=
  ∃ (page : PageAddress) (ending : List Char), ending ≠ [] ∧
    (∀ c ∈ ending, isSmallLetter c = true) ∧ piece = page.text [] ending ∧
    replacement = page.text host ending

theorem reads_pageReference? : Text.Reads pageReference? IsPagePiece
    fun rest ↦ ∀ c ∈ rest.head?, isSmallLetter c = false := by
  intro text replacement rest
  rw [pageReference?_eq_some_iff]
  constructor
  · rintro ⟨page, ending, rfl, rfl, hne, hletters, hhead⟩
    exact ⟨_, ⟨page, ending, hne, hletters, rfl, rfl⟩, hhead, (page.text_append ..).symm⟩
  · rintro ⟨_, ⟨page, ending, hne, hletters, rfl, rfl⟩, hhead, rfl⟩
    exact ⟨page, ending, page.text_append .., rfl, hne, hletters, hhead⟩

theorem hostPages_append_bracket (front rest : List Char) :
    hostPages (front ++ '[' :: rest) = hostPages front ++ hostPages ('[' :: rest) := by
  refine reads_pageReference?.substitute_append (fun behind _ ↦ ?follow) ?ne ?piece
  case follow =>
    cases behind with
    | nil => simp [isSmallLetter]
    | cons c behind => rfl
  case ne =>
    rintro _ _ ⟨page, ending, -, -, rfl, -⟩
    exact List.cons_ne_nil _ _
  case piece =>
    rintro text _ _ - hne ⟨page, ending, -, hletters, rfl, -⟩ hbegins
    have htail : '[' ∉ (page.text [] ending).tail :=
      page.notMem_tail (List.forall_mem_nil _) hletters (by decide) (by decide)
    exact Text.prefix_of_cons_prefix_append htail hne hbegins

theorem reads_mappedReference? (links : Dict String) :
    Text.Reads (mappedReference? links) (fun piece replacement ↦
      ∃ label number target, IsNumbered label number ∧
        links.get? (numberKey number) = some target ∧ piece = referenceText label number ∧
        replacement = linkText label target.toList) fun _ ↦ True := by
  intro text replacement rest
  rw [mappedReference?_eq_some_iff]
  constructor
  · rintro ⟨label, number, target, href, htarget, rfl, rfl⟩
    exact ⟨_, ⟨label, number, target, href, htarget, rfl, rfl⟩, trivial, rfl⟩
  · rintro ⟨_, ⟨label, number, target, href, htarget, rfl, rfl⟩, -, rfl⟩
    exact ⟨label, number, target, href, htarget, rfl, rfl⟩

/-- A reference to a footer link does not go on over the end of a line. -/
theorem inlined_append_of_endsLine {links : Dict String} {front : List Char} (h : EndsLine front)
    (rest : List Char) :
    inlined links (front ++ rest) = inlined links front ++ inlined links rest := by
  refine (reads_mappedReference? links).substitute_append (fun _ _ ↦ Iff.rfl) ?ne ?piece
  case ne =>
    rintro _ _ ⟨label, number, target, -, -, rfl, -⟩
    exact List.cons_ne_nil _ _
  case piece =>
    rintro text _ _ ⟨before, hbefore⟩ hne ⟨label, number, target, href, -, rfl, -⟩ hbegins
    obtain ⟨hlabel, hnumber⟩ := href.notMem (c := '\n') (by decide) (by decide)
    have hfeed : '\n' ∉ referenceText label number := by simp [referenceText, hlabel, hnumber]
    obtain ⟨line, rfl⟩ := (hbefore ▸ h).of_append.exists_eq_append hne
    rw [List.append_assoc, List.singleton_append, Text.prefix_append_cons_iff hfeed] at hbegins
    exact hbegins.trans (List.prefix_append ..)

theorem reads_inlineLink? : Text.Reads inlineLink? (fun piece replacement ↦
    ∃ label target, ']' ∉ label ∧ ')' ∉ target ∧ piece = linkText label target ∧
      replacement = resolveLink label target) fun _ ↦ True := by
  intro text replacement rest
  rw [inlineLink?_eq, Option.map_eq_some_iff]
  constructor
  · rintro ⟨⟨label, target, _⟩, hlink, ⟨⟩⟩
    obtain ⟨hlabel, htarget, htext⟩ := link?_eq_some_iff.mp hlink
    exact ⟨_, ⟨label, target, hlabel, htarget, rfl, rfl⟩, trivial, htext⟩
  · rintro ⟨_, ⟨label, target, hlabel, htarget, rfl, rfl⟩, -, htext⟩
    exact ⟨(label, target, rest), link?_eq_some_iff.mpr ⟨hlabel, htarget, htext⟩, rfl⟩

/-- A link that begins in a closed text ends in it, when behind the text comes a bracket that no
target follows. -/
theorem linkText_prefix_of_isClosed {text number rest label target : List Char}
    (hclosed : IsClosed text) (hne : text ≠ []) (hnumber : ']' ∉ number) (hlabel : ']' ∉ label)
    (htarget : ')' ∉ target)
    (h : linkText label target <+: text ++ ('[' :: number ++ ']' :: ':' :: rest)) :
    linkText label target <+: text := by
  obtain ⟨more, hmore⟩ := h
  have hlabel : ']' ∉ '[' :: label := by simp [hlabel]
  have hsplit : linkText label target ++ more =
      ('[' :: label) ++ ']' :: ('(' :: (target ++ ')' :: more)) := by
    simp [linkText]
  rw [hsplit] at hmore
  -- The label ends at the first closing bracket, which is one of the text or that of the number.
  by_cases hmem : ']' ∈ text
  · obtain ⟨front, behind, rfl, hfront⟩ := List.eq_append_cons_of_mem hmem
    rw [List.append_assoc, List.cons_append] at hmore
    obtain ⟨rfl, hbehind⟩ := Text.eq_of_append_cons_eq hlabel hfront hmore
    cases behind with
    | nil =>
      -- The text stops at this bracket, and the next one opens no target.
      exact absurd (List.cons.inj hbehind).1 (by decide)
    | cons c behind =>
      obtain ⟨rfl, hopened⟩ := List.cons.inj hbehind
      have hclose : ')' ∈ '(' :: behind := hclosed.of_append.1 ⟨rfl, rfl⟩
      obtain ⟨before, last, rfl, hbefore⟩ :=
        List.eq_append_cons_of_mem ((List.mem_cons.mp hclose).resolve_left (by decide))
      have hends : target ++ ')' :: more =
          before ++ ')' :: (last ++ ('[' :: number ++ ']' :: ':' :: rest)) :=
        hopened.trans (List.append_assoc ..)
      obtain ⟨rfl, -⟩ := Text.eq_of_append_cons_eq htarget hbefore hends
      exact ⟨last, by simp [linkText]⟩
  · have hfront : ']' ∉ text ++ '[' :: number := by simp [hmem, hnumber]
    have hwhole : ('[' :: label) ++ ']' :: ('(' :: (target ++ ')' :: more)) =
        (text ++ '[' :: number) ++ ']' :: (':' :: rest) := hmore.trans (by simp)
    obtain ⟨-, hbehind⟩ := Text.eq_of_append_cons_eq hlabel hfront hwhole
    exact absurd (List.cons.inj hbehind).1 (by decide)

/-- Links are resolved part by part when the second part begins with a bracket that no target
follows. -/
theorem substitute_inlineLink?_append {front : List Char} (h : IsClosed front) {number : List Char}
    (hnumber : ']' ∉ number) (rest : List Char) :
    Text.substitute inlineLink? (front ++ ('[' :: number ++ ']' :: ':' :: rest)) =
      Text.substitute inlineLink? front ++
        Text.substitute inlineLink? ('[' :: number ++ ']' :: ':' :: rest) := by
  refine reads_inlineLink?.substitute_append (fun _ _ ↦ Iff.rfl) ?ne ?piece
  case ne =>
    rintro _ _ ⟨label, target, -, -, rfl, -⟩
    exact List.cons_ne_nil _ _
  case piece =>
    rintro text _ _ ⟨before, hbefore⟩ hne ⟨label, target, hlabel, htarget, rfl, -⟩ hbegins
    exact linkText_prefix_of_isClosed (hbefore ▸ h).of_append hne hnumber hlabel htarget hbegins

theorem reads_reference? (context : Context) :
    Text.Reads (reference? context) (fun piece replacement ↦
      ∃ opening word closing, IsReference opening word closing ∧
        piece = opening :: word ++ [closing] ∧
        replacement = opening :: renamed context word ++ [closing]) fun _ ↦ True := by
  intro text replacement rest
  rw [reference?_eq_some_iff]
  constructor
  · rintro ⟨opening, word, closing, href, rfl, rfl⟩
    exact ⟨_, ⟨opening, word, closing, href, rfl, rfl⟩, trivial, by simp⟩
  · rintro ⟨_, ⟨opening, word, closing, href, rfl, rfl⟩, -, rfl⟩
    exact ⟨opening, word, closing, href, by simp, rfl⟩

/-- A bracket opens a reference and is in no other place in it. -/
theorem renameReferences_append_bracket (context : Context) (front rest : List Char) :
    renameReferences context (front ++ '[' :: rest) =
      renameReferences context front ++ renameReferences context ('[' :: rest) := by
  rw [renameReferences_eq]
  refine (reads_reference? context).substitute_append (fun _ _ ↦ Iff.rfl) ?ne ?piece
  case ne =>
    rintro _ _ ⟨opening, word, closing, -, rfl, -⟩
    exact List.cons_ne_nil _ _
  case piece =>
    rintro text _ _ - hne ⟨opening, word, closing, href, rfl, -⟩ hbegins
    have hword : '[' ∉ word := Text.notMem_of_class href.wordChars (by decide)
    have hclosing : '[' ≠ closing := by
      rintro rfl
      exact absurd href.closes (by decide)
    exact Text.prefix_of_cons_prefix_append (by simp [hword, hclosing]) hne hbegins

end ProviderDocs.Cleanup
