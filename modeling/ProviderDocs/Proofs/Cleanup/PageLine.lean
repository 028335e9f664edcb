import ProviderDocs.Proofs.Cleanup.BracketCut

/-!
# Lines that refer to pages

A line that refers to a page of the provider by its number gains the host, unless a digit 0 stands
in the number or the path, or the ending of the path begins with a capital letter. No other pass
changes such a line.
-/

namespace ProviderDocs

namespace Cleanup

/-! ## Digits and characters of paths -/

theorem isPageDigit_of_isDigit {c : Char} (h : c.isDigit = true) (hne : c ≠ '0') :
    isPageDigit c = true := by
  simp only [Char.isDigit, Bool.and_eq_true, decide_eq_true_eq] at h
  have hlow : 0x30 ≤ c.toNat := UInt32.le_iff_toNat_le.mp h.1
  have hzero : c.toNat ≠ 0x30 := fun heq ↦ hne (Char.ext (UInt32.toNat_inj.mp heq))
  have hone : '1' ≤ c := UInt32.le_iff_toNat_le.mpr (Nat.lt_of_le_of_ne hlow hzero.symm)
  simp only [isPageDigit, Bool.and_eq_true, decide_eq_true_eq]
  exact ⟨hone, h.2⟩

theorem isPathChar_of_isWordChar {c : Char} (h : isWordChar c = true) (hne : c ≠ '0') :
    isPathChar c = true := by
  simp only [isWordChar, isSegmentChar, Bool.or_eq_true] at h
  rcases h with (hdigit | hletter) | hline
  · exact isPathChar_of_isPageDigit (isPageDigit_of_isDigit hdigit hne)
  · exact isPathChar_of_isSmallLetter hletter
  · simp [isPathChar, hline]

theorem notMem_segmentsText {mark : Char} (hslash : mark ≠ '/') {segments : List (List Char)}
    (h : ∀ segment ∈ segments, mark ∉ segment) : mark ∉ segmentsText segments := by
  intro hmem
  obtain ⟨segment, hsegment, hmem⟩ := List.mem_flatMap.mp hmem
  exact h segment hsegment ((List.mem_cons.mp hmem).resolve_left hslash)

/-- A page of a provider and the number that it is referred to by. -/
structure Page where
  number : Nat
  segments : List (List Char)
  ending : List Char
  segments_ne_nil : segments ≠ []
  ne_nil : ∀ segment ∈ segments, segment ≠ []
  isWordChar_of_mem : ∀ segment ∈ segments, ∀ c ∈ segment, isWordChar c = true
  ending_ne_nil : ending ≠ []
  isAlpha_of_mem : ∀ c ∈ ending, c.isAlpha = true

theorem isBlank_of_isAlpha {c : Char} (h : c.isAlpha = true) : Text.isBlank c = false := by
  have hcodes := Text.toNat_of_isAlpha h
  exact Text.isBlank_eq_false (by omega) (by omega)

theorem isBlank_of_isAddressChar {c : Char} (h : isAddressChar c = true) :
    Text.isBlank c = false := by
  simp only [isAddressChar, Bool.or_eq_true, decide_eq_true_eq] at h
  rcases h with (((hword | halpha) | rfl) | rfl) | rfl
  · obtain ⟨hlow, hhigh⟩ := toNat_bounds_of_isWordChar hword
    exact Text.isBlank_eq_false hlow hhigh
  · exact isBlank_of_isAlpha halpha
  · decide +kernel
  · decide +kernel
  · decide +kernel

theorem opensWord_of_isAddressChar {c : Char} (h : isAddressChar c = true) :
    opensWord c = false := by
  have hne {mark : Char} (hmark : isAddressChar mark = false) : c ≠ mark := by
    rintro rfl
    exact Bool.false_ne_true (hmark.symm.trans h)
  have hquote : c ≠ '"' := hne (by decide)
  have htick : c ≠ '`' := hne (by decide)
  have hopen : c ≠ '[' := hne (by decide)
  simp [opensWord, isBlank_of_isAddressChar h, hquote, htick, hopen]

/-! ## The line -/

/-- Nothing is read where a word is none of a reference. -/
theorem reference?_eq_none_of_not_isReference (context : Context) {opening stop : Char}
    {word : List Char} (hword : ∀ c ∈ word, isWordChar c = true) (hstop : isWordChar stop = false)
    (h : ¬ IsReference opening word stop) (rest : List Char) :
    reference? context (opening :: word ++ stop :: rest) = none := by
  rw [Option.eq_none_iff_forall_ne_some]
  rintro ⟨replacement, behind⟩ hread
  obtain ⟨first, other, closing, href, htext, -⟩ := (reference?_eq_some_iff context).mp hread
  obtain rfl : opening = first := (List.cons.inj htext).1
  have hwords : word ++ stop :: rest = other ++ closing :: behind := (List.cons.inj htext).2
  have hspan := congrArg (Text.span isWordChar) hwords
  rw [Text.span_append hword hstop,
    Text.span_append href.wordChars (isWordChar_of_closesWord href.closes)] at hspan
  obtain ⟨rfl, hbehind⟩ := Prod.mk.inj hspan
  obtain ⟨rfl, -⟩ := List.cons.inj hbehind
  exact h href

namespace Page

variable (page : Page)

def digits : List Char := Nat.toDigits 10 page.number

/-- The address of the page on a site. -/
def address (site : List Char) : List Char := addressText site page.segments page.ending

/-- The line that refers to the page on a site. -/
def line (site : List Char) : List Char :=
  pageText site page.digits page.segments page.ending

/-- The line is one that is read. -/
def IsRead : Prop :=
  '0' ∉ page.digits ∧ '0' ∉ segmentsText page.segments ∧
    page.ending.head?.all isSmallLetter = true

instance : Decidable page.IsRead := inferInstanceAs (Decidable (_ ∧ _ ∧ _))

/-- The site of the page once the line is adapted. -/
def siteAfter : List Char := if page.IsRead then host else []

theorem siteAfter_eq : page.siteAfter = [] ∨ page.siteAfter = host := by
  unfold siteAfter
  split
  · exact .inr rfl
  · exact .inl rfl

theorem isAddressChar_of_mem_siteAfter : ∀ c ∈ page.siteAfter, isAddressChar c = true := by
  unfold siteAfter
  split
  · exact isAddressChar_of_mem_host
  · exact List.forall_mem_nil _

theorem digits_ne_nil : page.digits ≠ [] := Nat.toDigits_ne_nil

theorem isDigit_of_mem_digits : ∀ c ∈ page.digits, c.isDigit = true :=
  fun _ ↦ Nat.isDigit_of_mem_toDigits (by decide) (by decide)

theorem notMem_digits {mark : Char} (h : mark.isDigit = false) : mark ∉ page.digits :=
  Text.notMem_of_class page.isDigit_of_mem_digits h

theorem line_eq (site : List Char) :
    page.line site = '[' :: (page.digits ++ ']' :: ':' :: ' ' :: page.address site) := rfl

theorem cons_tail_line (site : List Char) : '[' :: (page.line site).tail = page.line site := rfl

theorem line_append (site rest : List Char) :
    page.line site ++ rest =
      '[' :: page.digits ++ ']' :: ':' :: (' ' :: (page.address site ++ rest)) := by
  simp [line, pageText, address]

section Characters

variable {site : List Char} (hsite : ∀ c ∈ site, isAddressChar c = true)

include hsite

theorem isAddressChar_of_mem_address : ∀ c ∈ page.address site, isAddressChar c = true :=
  isAddressChar_of_mem_addressText hsite page.isWordChar_of_mem fun c hc ↦ by
    simp [isAddressChar, page.isAlpha_of_mem c hc]

theorem notMem_address {mark : Char} (h : isAddressChar mark = false) : mark ∉ page.address site :=
  Text.notMem_of_class (page.isAddressChar_of_mem_address hsite) h

end Characters

/-! ## Passes over the line -/

/-- A pass that reads at opening brackets only keeps the line unless it reads the whole of it. -/
theorem substitute_line_append {step? : List Char → Option (List Char × List Char)}
    (hstep : ∀ {c}, c ≠ '[' → ∀ text, step? (c :: text) = none) {site : List Char}
    (hsite : ∀ c ∈ site, isAddressChar c = true) {rest : List Char}
    (hnone : step? (page.line site ++ rest) = none) :
    Text.substitute step? (page.line site ++ rest) =
      page.line site ++ Text.substitute step? rest := by
  have hopen : '[' ∉ page.digits ++ ']' :: ':' :: ' ' :: page.address site := by
    simp [page.notMem_digits (by decide : '['.isDigit = false),
      page.notMem_address hsite (by decide : isAddressChar '[' = false)]
  rw [line_eq, List.cons_append] at hnone ⊢
  rw [Text.substitute_cons_of_none hnone, Text.substitute_append_of_none, List.cons_append]
  exact fun c hc ↦ hstep fun heq ↦ hopen (heq ▸ hc)

theorem replaceMark_line_append {p : Char} (hdigit : p.isDigit = false)
    (haddress : isAddressChar p = false) (hcolon : p ∉ ['[', ']', ':', ' ']) (rest : List Char) :
    replaceMark p (page.line [] ++ rest) = page.line [] ++ replaceMark p rest := by
  have hp : p ∉ page.line [] := by
    simp only [List.mem_cons, List.not_mem_nil, or_false, not_or] at hcolon
    simp [line, pageText, page.notMem_digits hdigit, hcolon]
    exact page.notMem_address (List.forall_mem_nil _) haddress
  exact Text.replaceAll_append_of_notMem _ hp rest

/-- The number and the segments as they are read. -/
def readAddress (h : page.IsRead) : PageAddress where
  number := page.digits
  segments := page.segments
  number_ne_nil := page.digits_ne_nil
  isPageDigit_of_mem c hc :=
    isPageDigit_of_isDigit (page.isDigit_of_mem_digits c hc) fun hzero ↦ h.1 (hzero ▸ hc)
  segments_ne_nil := page.segments_ne_nil
  areSegments segment hsegment := by
    refine ⟨page.ne_nil segment hsegment, fun c hc ↦ ?_⟩
    refine isPathChar_of_isWordChar (page.isWordChar_of_mem segment hsegment c hc) ?_
    rintro rfl
    exact h.2.1 (List.mem_flatMap.mpr ⟨segment, hsegment, List.mem_cons_of_mem _ hc⟩)

/-- The small letters at the front of the ending are read, the rest of it is kept. -/
theorem hostPages_of_isRead (h : page.IsRead) {rest : List Char} (hrest : BehindLine rest) :
    hostPages (page.line [] ++ rest) = page.line host ++ hostPages rest := by
  -- Reading stops at the first letter of the ending that is not small, or at the end of the line.
  obtain ⟨letters, others, hending, hletters, hothers⟩ :=
    Text.exists_eq_append_of_class isSmallLetter page.ending
  have hline (site rest : List Char) :
      page.line site ++ rest = (page.readAddress h).text site (letters ++ (others ++ rest)) := by
    rw [← List.append_assoc, ← hending, ← PageAddress.text_append]
    rfl
  have hne : letters ≠ [] := by
    rintro rfl
    rw [List.nil_append] at hending
    obtain ⟨c, ending, hcons⟩ := List.exists_cons_of_ne_nil page.ending_ne_nil
    have hsmall : isSmallLetter c = true := by simpa [hcons] using h.2.2
    exact Bool.false_ne_true ((hothers c (by rw [← hending, hcons]; rfl)).symm.trans hsmall)
  have hhead : ∀ c ∈ (others ++ rest).head?, isSmallLetter c = false := by
    intro c hc
    cases others with
    | nil =>
      rw [hrest c hc]
      decide
    | cons d others => exact hothers c hc
  have hread := pageReference?_eq_some_iff.mpr
    ⟨page.readAddress h, letters, rfl, rfl, hne, hletters, hhead⟩
  have hopen : '[' ∉ others := by
    have hnone : '[' ∉ page.ending := Text.notMem_of_class page.isAlpha_of_mem (by decide)
    rw [hending] at hnone
    exact fun hmem ↦ hnone (List.mem_append_right _ hmem)
  calc hostPages (page.line [] ++ rest)
    _ = (page.readAddress h).text host letters ++ hostPages (others ++ rest) := by
      rw [hline, hostPages_of_pageReference? hread]
    _ = (page.readAddress h).text host letters ++ (others ++ hostPages rest) := by
      rw [hostPages_append_of_notMem hopen]
    _ = page.line host ++ hostPages rest := by
      rw [PageAddress.text_append, hline]

/-- Only digits and path characters other than 0 are read, and small letters behind them. -/
theorem isRead_of_pageReference? {rest : List Char} {found : List Char × List Char}
    (h : pageReference? (page.line [] ++ rest) = some found) : page.IsRead := by
  obtain ⟨address, ending, htext, -, hne, hletters, -⟩ := pageReference?_eq_some_iff.mp h
  have hclose : ']' ∉ page.digits := page.notMem_digits (by decide)
  have hcloseRead : ']' ∉ address.number :=
    Text.notMem_of_class address.isPageDigit_of_mem (by decide)
  rw [line, pageText_append] at htext
  obtain ⟨hdigits, hpath⟩ := Text.eq_of_append_cons_eq hclose hcloseRead (List.cons.inj htext).2
  have hstop : '.' ∉ segmentsText page.segments :=
    notMem_segmentsText (by decide) fun segment hsegment ↦
      Text.notMem_of_class (page.isWordChar_of_mem segment hsegment) (by decide)
  have hstopRead : '.' ∉ segmentsText address.segments :=
    notMem_segmentsText (by decide) fun segment hsegment ↦
      Text.notMem_of_class (address.areSegments segment hsegment).2 (by decide)
  have haddress : "/docs/providers".toList ++
        (segmentsText page.segments ++ '.' :: (page.ending ++ rest)) =
      "/docs/providers".toList ++
        (segmentsText address.segments ++ '.' :: (ending ++ found.2)) := by
    have hmore := (List.cons.inj (List.cons.inj hpath).2).2
    rwa [addressText, addressText, List.nil_append, List.append_assoc, List.append_assoc] at hmore
  obtain ⟨hsegments, hending⟩ :=
    Text.eq_of_append_cons_eq hstop hstopRead (List.append_cancel_left haddress)
  refine ⟨?_, ?_, ?_⟩
  · rw [hdigits]
    exact Text.notMem_of_class address.isPageDigit_of_mem (by decide)
  · rw [hsegments]
    exact notMem_segmentsText (by decide) fun segment hsegment ↦
      Text.notMem_of_class (address.areSegments segment hsegment).2 (by decide)
  · obtain ⟨c, others, hcons⟩ := List.exists_cons_of_ne_nil page.ending_ne_nil
    obtain ⟨d, letters, rfl⟩ := List.exists_cons_of_ne_nil hne
    rw [hcons] at hending ⊢
    obtain ⟨rfl, -⟩ := List.cons.inj hending
    exact hletters _ List.mem_cons_self

theorem hostPages_line_append {rest : List Char} (h : BehindLine rest) :
    hostPages (page.line [] ++ rest) = page.line page.siteAfter ++ hostPages rest := by
  unfold siteAfter
  split
  case isTrue hread => exact page.hostPages_of_isRead hread h
  case isFalse hread =>
    refine page.substitute_line_append pageReference?_eq_none_of_ne (List.forall_mem_nil _) ?_
    exact Option.eq_none_iff_forall_ne_some.mpr fun _ hfound ↦
      hread (page.isRead_of_pageReference? hfound)

section Site

variable {site : List Char} (hsite : ∀ c ∈ site, isAddressChar c = true)

include hsite

theorem inlined_line_append {links : Dict String} (rest : List Char) :
    inlined links (page.line site ++ rest) = page.line site ++ inlined links rest := by
  refine page.substitute_line_append mappedReference?_eq_none_of_ne hsite ?_
  obtain ⟨d, digits, hdigits⟩ := List.exists_cons_of_ne_nil page.digits_ne_nil
  have hd := page.isDigit_of_mem_digits d (hdigits ▸ List.mem_cons_self)
  rw [line_eq, hdigits]
  exact mappedReference?_eq_none_of_not_label (isLabelChar_of_isDigit hd) _

theorem substitute_inlineLink?_line_append (rest : List Char) :
    Text.substitute inlineLink? (page.line site ++ rest) =
      page.line site ++ Text.substitute inlineLink? rest := by
  refine page.substitute_line_append (fun hc text ↦ by simp [inlineLink?, hc]) hsite ?_
  have hclose : ']' ∉ page.digits := page.notMem_digits (by decide)
  rw [line_append]
  simp [inlineLink?, Text.span_append_cons hclose]

end Site

/-- No word at the front of an address is delimited. -/
theorem exists_address_eq {site : List Char} (hsite : site = [] ∨ site = host) :
    ∃ word stop more, page.address site = word ++ stop :: more ∧
      (∀ c ∈ word, isWordChar c = true) ∧ isWordChar stop = false ∧ closesWord stop = false := by
  rcases hsite with rfl | rfl
  · exact ⟨[], '/', _, rfl, List.forall_mem_nil _, by decide, by decide⟩
  · exact ⟨"https".toList, ':', _, rfl, List.all_eq_true.mp (by decide +kernel), by decide,
      by decide⟩

/-- The number in its brackets is no reference to a name. -/
theorem reference?_digits (context : Context) (behind : List Char) :
    reference? context ('[' :: (page.digits ++ ']' :: behind)) = none := by
  have hline : '_' ∉ page.digits := page.notMem_digits (by decide)
  have hsnake : isSnakeWord page.digits = false := by
    simp [isSnakeWord, List.splitOn_eq_singleton hline]
  refine reference?_eq_none_of_not_isReference context (fun c hc ↦ ?_) (by decide)
    (fun href ↦ ?_) behind
  · simp [isWordChar, isSegmentChar, page.isDigit_of_mem_digits c hc]
  · rcases href.isName with hname | ⟨htick, -⟩
    · exact Bool.false_ne_true (hsnake.symm.trans hname)
    · exact absurd htick (by decide)

theorem reference?_address (context : Context) {site : List Char} (hsite : site = [] ∨ site = host)
    (behind : List Char) : reference? context (' ' :: (page.address site ++ behind)) = none := by
  obtain ⟨word, stop, more, haddress, hword, hstop, hcloses⟩ := page.exists_address_eq hsite
  rw [haddress, List.append_assoc, List.cons_append]
  exact reference?_eq_none_of_not_isReference context hword hstop
    (fun href ↦ Bool.false_ne_true (hcloses.symm.trans href.closes)) _

theorem renameReferences_line_append (context : Context) {site : List Char}
    (hsite : site = [] ∨ site = host) (rest : List Char) :
    renameReferences context (page.line site ++ rest) =
      page.line site ++ renameReferences context rest := by
  have hkept {front : List Char} (hfront : ∀ c ∈ front, opensWord c = false) (behind : List Char) :
      renameReferences context (front ++ behind) = front ++ renameReferences context behind :=
    Text.substitute_append_of_none (fun c hc ↦ reference?_eq_none context (hfront c hc)) behind
  have hsiteChars : ∀ c ∈ site, isAddressChar c = true := by
    rcases hsite with rfl | rfl
    · exact List.forall_mem_nil _
    · exact isAddressChar_of_mem_host
  have hbehind : ∀ c ∈ page.address site, opensWord c = false := fun c hc ↦
    opensWord_of_isAddressChar (page.isAddressChar_of_mem_address hsiteChars c hc)
  have hfront : ∀ c ∈ page.digits ++ [']', ':'], opensWord c = false := by
    rw [List.forall_mem_append, List.forall_mem_cons, List.forall_mem_singleton]
    refine ⟨fun c hc ↦ opensWord_of_isAddressChar ?_, by decide, by decide⟩
    simp [isAddressChar, isWordChar, isSegmentChar, page.isDigit_of_mem_digits c hc]
  calc renameReferences context (page.line site ++ rest)
    _ = renameReferences context
        ('[' :: page.digits ++ ']' :: ':' :: (' ' :: (page.address site ++ rest))) := by
      rw [line_append]
    _ = '[' :: renameReferences context
        ((page.digits ++ [']', ':']) ++ (' ' :: (page.address site ++ rest))) := by
      rw [renameReferences_eq, List.cons_append,
        Text.substitute_cons_of_none (page.reference?_digits context _), List.append_assoc]
      rfl
    _ = '[' :: ((page.digits ++ [']', ':']) ++
        renameReferences context (' ' :: (page.address site ++ rest))) := by
      rw [hkept hfront]
    _ = '[' :: ((page.digits ++ [']', ':']) ++
        (' ' :: (page.address site ++ renameReferences context rest))) := by
      rw [renameReferences_eq,
        Text.substitute_cons_of_none (page.reference?_address context hsite rest),
        ← renameReferences_eq, hkept hbehind]
    _ = page.line site ++ renameReferences context rest := by
      simp [line_append]

end Page

/-! ## The line in a text -/

section Text

variable (page : Page) {front back : List Char}

theorem replaceNoteMarks_line (front back : List Char) :
    replaceNoteMarks (front ++ (page.line [] ++ back)) =
      replaceNoteMarks front ++ (page.line [] ++ replaceNoteMarks back) := by
  have hmark {p : Char} (hdigit : p.isDigit = false) (haddress : isAddressChar p = false)
      (hcolon : p ∉ ['[', ']', ':', ' ']) (front back : List Char) :
      replaceMark p (front ++ (page.line [] ++ back)) =
        replaceMark p front ++ (page.line [] ++ replaceMark p back) := by
    have hcut := replaceMark_append_bracket (List.ne_of_not_mem_cons hcolon) front
      ((page.line []).tail ++ back)
    rwa [← List.cons_append, page.cons_tail_line,
      page.replaceMark_line_append hdigit haddress hcolon] at hcut
  rw [replaceNoteMarks_eq, hmark (by decide) (by decide) (by decide),
    hmark (by decide) (by decide) (by decide)]
  rfl

/-- Up to its links the text is adapted line by line. -/
theorem inlineText_line (context : Context) (hfront : EndsLine front) (hback : BehindLine back) :
    inlineText context (front ++ (page.line [] ++ back)) =
      inlineText context front ++ (page.line page.siteAfter ++ inlineText context back) := by
  have hdrop := dropQualifierLines_append_bracket (replaceNoteMarks front)
    ((page.line []).tail ++ replaceNoteMarks back)
  rw [← List.cons_append, page.cons_tail_line] at hdrop
  have hhost := hostPages_append_bracket (dropQualifierLines (replaceNoteMarks front))
    ((page.line []).tail ++ replaceNoteMarks back)
  rw [← List.cons_append, page.cons_tail_line, page.hostPages_line_append hback.replaceNoteMarks]
    at hhost
  have hinline (text : List Char) : inlineText context text =
      inlined context.linkTargets (hostPages (dropQualifierLines (replaceNoteMarks text))) :=
    replaceNumberedReferences_eq_inlined ..
  calc inlineText context (front ++ (page.line [] ++ back))
    _ = inlined context.linkTargets (hostPages (dropQualifierLines (replaceNoteMarks front)) ++
        (page.line page.siteAfter ++ hostPages (replaceNoteMarks back))) := by
      rw [hinline, replaceNoteMarks_line, hdrop, hhost]
    _ = inlineText context front ++ (page.line page.siteAfter ++
        inlined context.linkTargets (hostPages (replaceNoteMarks back))) := by
      rw [inlined_append_of_endsLine (endsLine_hostPages hfront),
        page.inlined_line_append page.isAddressChar_of_mem_siteAfter, ← hinline]
    _ = inlineText context front ++ (page.line page.siteAfter ++ inlineText context back) := by
      rw [hinline back, hback.replaceNoteMarks.dropQualifierLines_eq]

/-- The line is adapted on its own, and so is what stands before and behind it. -/
theorem adaptProse_line (context : Context) (hfront : EndsLine front) (hback : BehindLine back)
    (hclosed : IsClosed front) :
    adaptProse context (front ++ (page.line [] ++ back)) =
      adaptProse context front ++ (page.line page.siteAfter ++ adaptProse context back) := by
  -- Links are cut off at the line since no target is open there, names at its opening bracket.
  have hclose : ']' ∉ page.digits := page.notMem_digits (by decide)
  have hlinks := substitute_inlineLink?_append (isClosed_inlineText context hclosed) hclose
    (' ' :: (page.address page.siteAfter ++ inlineText context back))
  rw [← page.line_append,
    page.substitute_inlineLink?_line_append page.isAddressChar_of_mem_siteAfter] at hlinks
  have hrename := renameReferences_append_bracket context
    (Text.substitute inlineLink? (inlineText context front))
    ((page.line page.siteAfter).tail ++ Text.substitute inlineLink? (inlineText context back))
  rw [← List.cons_append, page.cons_tail_line,
    page.renameReferences_line_append context page.siteAfter_eq] at hrename
  rw [adaptProse_eq, inlineText_line page context hfront hback, hlinks, hrename]
  rfl

theorem trim_line (site : List Char) : Text.trim (page.line site) = page.line site := by
  obtain ⟨letters, last, hending⟩ := (List.eq_nil_or_concat page.ending).resolve_left
    page.ending_ne_nil
  have hblank : Text.isBlank last = false :=
    isBlank_of_isAlpha (page.isAlpha_of_mem last (by simp [hending]))
  have hlast : Text.dropBlankEnd [last] = [last] := by simp [Text.dropBlankEnd, hblank]
  have hline : page.line site =
      '[' :: ((pageText site page.digits page.segments letters).tail ++ [last]) := by
    rw [Page.line, hending, List.concat_eq_append, ← pageText_append]
    rfl
  rw [hline, Text.trim_cons_of_not_blank (by decide +kernel),
    Text.dropBlankEnd_append (by simp [hlast]), hlast]

/--
A line of its own that refers to a page stays one when a text is cleaned up, as long as no link
target is left open before it. It gains the host exactly when the line is one that is read.
-/
theorem cleanText?_pageLine (context : Context) (page : Page) {front back : List Char}
    (hfront : EndsLine front) (hback : BehindLine back) (hclosed : IsClosed front)
    (hfence : ¬ fence <:+: front ++ (page.line [] ++ back))
    (hnames : namesTerraform (front ++ (page.line [] ++ back)) = false) :
    cleanText? context (String.ofList (front ++ (page.line [] ++ back))) =
        some (String.ofList (Text.dropBlank (adaptProse context front) ++
          (page.line page.siteAfter ++ Text.dropBlankEnd (adaptProse context back)))) ∧
      EndsLine (Text.dropBlank (adaptProse context front)) ∧
      BehindLine (Text.dropBlankEnd (adaptProse context back)) := by
  refine ⟨?_, ?_, ?_⟩
  · have hne : page.line page.siteAfter ≠ [] := List.cons_ne_nil _ _
    rw [cleanText?_of_not_fence context hfence, hnames, if_neg Bool.false_ne_true,
      adaptProse_line page context hfront hback hclosed,
      Text.trim_append_append hne (trim_line page _)]
  · obtain ⟨blanks, hblanks⟩ := List.dropWhile_suffix (l := adaptProse context front) Text.isBlank
    have hends := endsLine_adaptProse context hfront
    rw [← hblanks] at hends
    exact hends.of_append
  · obtain ⟨blanks, hblanks, -⟩ :=
      Text.exists_eq_dropBlankEnd_append (adaptProse context back)
    intro c hc
    refine hback.adaptProse context c ?_
    rw [hblanks]
    exact List.mem_head?_append_of_mem_head? hc

end Text

/-! ## Lines that are read, and one that is not -/

def bucketPage : Page where
  number := 2
  segments := ["aws".toList, "r".toList, "s3_bucket".toList]
  ending := "html".toList
  segments_ne_nil := List.cons_ne_nil _ _
  ne_nil := by decide
  isWordChar_of_mem segment hsegment := by
    have hwords : ["aws".toList, "r".toList, "s3_bucket".toList].all (·.all isWordChar) = true := by
      decide +kernel
    exact List.all_eq_true.mp (List.all_eq_true.mp hwords segment hsegment)
  ending_ne_nil := by decide
  isAlpha_of_mem := List.all_eq_true.mp (by decide +kernel)

/-- The tenth page of a document. -/
def tenthPage : Page := { bucketPage with number := 10 }

theorem cleanText?_pageLine_bucketPage :
    let front := "See the [logs](/logs.html):\n".toList
    EndsLine front ∧ BehindLine ['\n'] ∧ IsClosed front ∧
      cleanText? ⟨.nodejs, .empty, ∅⟩
          "See the [logs](/logs.html):\n[2]: /docs/providers/aws/r/s3_bucket.html\n" =
        some ("See the [logs](https://www.terraform.io/logs.html):\n" ++
          "[2]: https://www.terraform.io/docs/providers/aws/r/s3_bucket.html") := by
  intro front
  have hfront : EndsLine front := by
    rintro c ⟨⟩
    rfl
  have hback : BehindLine ['\n'] := behindLine_newline []
  have hclosed : IsClosed front := by decide +kernel
  have hclean := cleanText?_pageLine ⟨.nodejs, .empty, ∅⟩ bucketPage hfront hback hclosed
    (by decide +kernel) (by decide +kernel)
  exact ⟨hfront, hback, hclosed, hclean.1.trans (by decide +kernel)⟩

/-- Not every line that refers to a page gains the host. -/
theorem not_cleanText?_pageLine :
    ¬ ∀ (context : Context) (page : Page) (front back : List Char), 0 < page.number →
      EndsLine front → BehindLine back → ¬ fence <:+: front ++ (page.line [] ++ back) →
      namesTerraform (front ++ (page.line [] ++ back)) = false →
        ∃ before behind, EndsLine before ∧ BehindLine behind ∧
          cleanText? context (String.ofList (front ++ (page.line [] ++ back))) =
            some (String.ofList (before ++ (page.line host ++ behind))) := by
  intro hall
  obtain ⟨before, behind, -, -, hclean⟩ := hall ⟨.schema, .empty, ∅⟩ tenthPage [] []
    (by decide) nofun behindLine_nil (by decide +kernel) (by decide +kernel)
  have hkept : cleanText? ⟨.schema, .empty, ∅⟩ (String.ofList ([] ++ (tenthPage.line [] ++ []))) =
      some (String.ofList (tenthPage.line [])) := by decide +kernel
  have hlines : tenthPage.line [] = before ++ (tenthPage.line host ++ behind) :=
    String.ofList_injective (Option.some.inj (hkept.symm.trans hclean))
  -- The line with the host is longer than the whole result.
  have hlength := congrArg List.length hlines
  have hshort : (tenthPage.line []).length < (tenthPage.line host).length := by decide +kernel
  simp only [List.length_append] at hlength
  omega

end Cleanup

end ProviderDocs
