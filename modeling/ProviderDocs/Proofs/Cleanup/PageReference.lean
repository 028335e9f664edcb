import ProviderDocs.Cleanup.Reference
import ProviderDocs.Proofs.Cleanup.FooterLink
import ProviderDocs.Proofs.Text.Substitute

/-!
# References to pages

A reference to a page of a provider is a number in brackets and a path of segments with an ending.
The digit 0 is neither a digit of such a number nor a character of such a path.
-/

namespace ProviderDocs.Cleanup

/-- Digits that the number of a page may have. -/
def isPageDigit (c : Char) : Bool := '1' ≤ c && c ≤ '9'

theorem isDigit_of_isPageDigit {c : Char} (h : isPageDigit c = true) : c.isDigit = true := by
  simp only [isPageDigit, Bool.and_eq_true, decide_eq_true_eq] at h
  have hlow : '0' ≤ c := Char.le_trans (by decide) h.1
  simp only [Char.isDigit, Bool.and_eq_true, decide_eq_true_eq]
  exact ⟨hlow, h.2⟩

theorem isPathChar_of_isPageDigit {c : Char} (h : isPageDigit c = true) : isPathChar c = true := by
  rw [isPathChar, ← isPageDigit, h, Bool.or_true, Bool.true_or]

theorem isPathChar_of_isSmallLetter {c : Char} (h : isSmallLetter c = true) :
    isPathChar c = true := by
  rw [isPathChar, ← isSmallLetter, h, Bool.true_or, Bool.true_or]

/-! ## Paths -/

/-- The segments of a path, each with a slash before it. -/
def segmentsText (segments : List (List Char)) : List Char := segments.flatMap ('/' :: ·)

theorem segmentsText_cons (segment : List Char) (segments : List (List Char)) :
    segmentsText (segment :: segments) = '/' :: (segment ++ segmentsText segments) := rfl

theorem length_le_length_segmentsText (segments : List (List Char)) :
    segments.length ≤ (segmentsText segments).length := by
  induction segments with
  | nil => exact Nat.zero_le _
  | cons segment segments ih =>
    rw [segmentsText_cons, List.length_cons, List.length_cons, List.length_append]
    omega

/-- Segments that are read. -/
def AreSegments (segments : List (List Char)) : Prop :=
  ∀ segment ∈ segments, segment ≠ [] ∧ ∀ c ∈ segment, isPathChar c = true

theorem exists_segments_of_pathSegments {fuel : Nat} {text front rest : List Char}
    (h : pathSegments fuel text = (front, rest)) :
    ∃ segments, AreSegments segments ∧ front = segmentsText segments ∧ text = front ++ rest := by
  fun_induction pathSegments fuel text generalizing front rest with
  | case1 fuel behind segment afterSegment hsegment more left hmore ih =>
    obtain ⟨rfl, rfl⟩ := Prod.mk.inj h
    obtain ⟨hne, hall, rfl⟩ := Text.eq_append_of_span1? hsegment
    obtain ⟨segments, hsegments, rfl, rfl⟩ := ih hmore
    exact ⟨segment :: segments, List.forall_mem_cons.mpr ⟨⟨hne, hall⟩, hsegments⟩,
      by rw [segmentsText_cons, List.cons_append], by simp⟩
  | case2 fuel behind hnone =>
    obtain ⟨rfl, rfl⟩ := Prod.mk.inj h
    exact ⟨[], nofun, rfl, rfl⟩
  | case3 fuel text hother =>
    obtain ⟨rfl, rfl⟩ := Prod.mk.inj h
    exact ⟨[], nofun, rfl, rfl⟩

/-- All segments before a full stop are read. -/
theorem pathSegments_segmentsText {segments : List (List Char)} (h : AreSegments segments)
    {fuel : Nat} (hfuel : segments.length ≤ fuel) (rest : List Char) :
    pathSegments fuel (segmentsText segments ++ '.' :: rest) =
      (segmentsText segments, '.' :: rest) := by
  induction segments generalizing fuel with
  | nil => cases fuel <;> rfl
  | cons segment segments ih =>
    obtain ⟨⟨hne, hall⟩, hsegments⟩ := List.forall_mem_cons.mp h
    obtain ⟨fuel, rfl⟩ := Nat.exists_eq_add_of_lt (Nat.lt_of_lt_of_le (Nat.zero_lt_succ _) hfuel)
    rw [Nat.zero_add]
    have hread : Text.span1? isPathChar (segment ++ (segmentsText segments ++ '.' :: rest)) =
        some (segment, segmentsText segments ++ '.' :: rest) := by
      refine Text.span1?_eq_some_iff.mpr ⟨hne, hall, fun c hc ↦ ?_, rfl⟩
      cases segments with
      | nil =>
        obtain rfl := Option.some.inj hc
        decide
      | cons next segments =>
        obtain rfl := Option.some.inj hc
        decide
    have hmore := ih hsegments (Nat.le_of_succ_le_succ (Nat.zero_add fuel ▸ hfuel))
    rw [segmentsText_cons, List.cons_append, List.append_assoc, pathSegments, hread]
    simp only [hmore, List.cons_append]

/-! ## References -/

/-- The address of a page on a site; `behind` begins with the ending of its path. -/
def addressText (site : List Char) (segments : List (List Char)) (behind : List Char) :
    List Char :=
  site ++ "/docs/providers".toList ++ segmentsText segments ++ '.' :: behind

/-- A number in brackets and the address of a page. -/
def pageText (site number : List Char) (segments : List (List Char)) (behind : List Char) :
    List Char :=
  '[' :: number ++ ']' :: ':' :: ' ' :: addressText site segments behind

theorem addressText_append (site : List Char) (segments : List (List Char))
    (behind rest : List Char) :
    addressText site segments behind ++ rest = addressText site segments (behind ++ rest) := by
  simp [addressText]

theorem pageText_append (site number : List Char) (segments : List (List Char))
    (behind rest : List Char) :
    pageText site number segments behind ++ rest =
      pageText site number segments (behind ++ rest) := by
  simp [pageText, addressText_append]

theorem pageText_eq (site number : List Char) (segments : List (List Char))
    (behind : List Char) :
    pageText site number segments behind =
      ('[' :: number ++ [']']) ++ (": ".toList ++ (site ++ ("/docs/providers".toList ++
        (segmentsText segments ++ '.' :: behind)))) := by
  have hcolon : ": ".toList = [':', ' '] := rfl
  simp [pageText, addressText, hcolon]

/-- A number and segments that are read. -/
structure PageAddress where
  number : List Char
  segments : List (List Char)
  number_ne_nil : number ≠ []
  isPageDigit_of_mem : ∀ c ∈ number, isPageDigit c = true
  segments_ne_nil : segments ≠ []
  areSegments : AreSegments segments

namespace PageAddress

def text (page : PageAddress) (site behind : List Char) : List Char :=
  pageText site page.number page.segments behind

theorem text_append (page : PageAddress) (site behind rest : List Char) :
    page.text site behind ++ rest = page.text site (behind ++ rest) :=
  pageText_append ..

end PageAddress

/-- Up to its ending a reference is read whatever stands there. -/
theorem pageReference?_text (page : PageAddress) (behind : List Char) :
    pageReference? (page.text [] behind) =
      (Text.span1? isSmallLetter behind).map fun (ending, rest) ↦
        (page.text host ending, rest) := by
  obtain ⟨number, segments, hnumber, hdigits, hne, hsegments⟩ := page
  have hlabel (rest : List Char) :
      bracketNumber? (fun c ↦ '1' ≤ c && c ≤ '9') (('[' :: number ++ [']']) ++ rest) =
        some ('[' :: number ++ [']'], rest) :=
    (bracketNumber?_eq_some_iff rfl).mpr ⟨number, hnumber, hdigits, rfl, rfl⟩
  have hpath : Text.after? ": /docs/providers".toList (": ".toList ++
      ([] ++ ("/docs/providers".toList ++ (segmentsText segments ++ '.' :: behind)))) =
        some (segmentsText segments ++ '.' :: behind) := Text.after?_append ..
  have hread : pathSegments (segmentsText segments ++ '.' :: behind).length
      (segmentsText segments ++ '.' :: behind) = (segmentsText segments, '.' :: behind) := by
    refine pathSegments_segmentsText hsegments ?_ behind
    have hlength := length_le_length_segmentsText segments
    rw [List.length_append]
    omega
  obtain ⟨first, rest, rfl⟩ := List.exists_cons_of_ne_nil hne
  rw [segmentsText_cons] at hread hpath
  simp only [PageAddress.text, pageText_eq, pageReference?, hlabel, segmentsText_cons, hpath,
    hread, Option.bind_eq_bind, Option.bind_some]
  cases Text.span1? isSmallLetter behind with
  | none => rfl
  | some found =>
    rw [Option.map_some, Option.bind_some]
    simp only [List.append_assoc]

theorem exists_page_of_pageReference? {text replacement rest : List Char}
    (h : pageReference? text = some (replacement, rest)) :
    ∃ (page : PageAddress) (behind : List Char), text = page.text [] behind := by
  simp only [pageReference?, Option.bind_eq_bind, Option.bind_eq_some_iff] at h
  obtain ⟨⟨label, more⟩, hlabel, path, hpath, h⟩ := h
  obtain ⟨number, hnumber, hdigits, rfl, rfl⟩ := (bracketNumber?_eq_some_iff rfl).mp hlabel
  obtain rfl := Text.after?_eq_some_iff.mp hpath
  generalize hfound : pathSegments path.length path = found at h
  obtain ⟨front, left⟩ := found
  obtain ⟨segments, hsegments, rfl, rfl⟩ := exists_segments_of_pathSegments hfound
  split at h
  · cases h
  · next behind hne heq =>
    obtain ⟨rfl, rfl⟩ := Prod.mk.inj heq
    have hsegmentsNe : segments ≠ [] := by
      rintro rfl
      exact hne rfl
    exact ⟨⟨number, segments, hnumber, hdigits, hsegmentsNe, hsegments⟩, behind,
      (pageText_eq [] number segments behind).symm⟩
  · cases h

/-- What is read is a reference with all small letters of its ending, and each one is read. -/
theorem pageReference?_eq_some_iff {text replacement rest : List Char} :
    pageReference? text = some (replacement, rest) ↔
      ∃ (page : PageAddress) (ending : List Char), text = page.text [] (ending ++ rest) ∧
        replacement = page.text host ending ∧ ending ≠ [] ∧
        (∀ c ∈ ending, isSmallLetter c = true) ∧ ∀ c ∈ rest.head?, isSmallLetter c = false := by
  constructor
  · intro h
    obtain ⟨page, behind, rfl⟩ := exists_page_of_pageReference? h
    rw [pageReference?_text, Option.map_eq_some_iff] at h
    obtain ⟨⟨ending, rest⟩, hending, ⟨⟩⟩ := h
    obtain ⟨hne, hletters, hhead, rfl⟩ := Text.span1?_eq_some_iff.mp hending
    exact ⟨page, ending, rfl, rfl, hne, hletters, hhead⟩
  · rintro ⟨page, ending, rfl, rfl, hne, hletters, hhead⟩
    have hending := Text.span1?_eq_some_iff.mpr ⟨hne, hletters, hhead, rfl⟩
    rw [pageReference?_text, hending, Option.map_some]

theorem readsFront_pageReference? : Text.ReadsFront pageReference? := by
  intro text replacement rest h
  obtain ⟨page, ending, rfl, -, -⟩ := pageReference?_eq_some_iff.mp h
  exact ⟨page.text [] ending, List.cons_ne_nil _ _, (page.text_append [] ending rest).symm⟩

/-- Behind a number a reference to a page goes on like this. -/
def pagePath : List Char := ": /docs/providers".toList

theorem exists_pagePath_of_pageReference? {text replacement rest : List Char}
    (h : pageReference? text = some (replacement, rest)) :
    ∃ number more, number ≠ [] ∧ (∀ c ∈ number, isPageDigit c = true) ∧
      text = '[' :: number ++ ']' :: (pagePath ++ more) := by
  obtain ⟨page, behind, rfl⟩ := exists_page_of_pageReference? h
  have hpath : pagePath = ": ".toList ++ "/docs/providers".toList := rfl
  refine ⟨page.number, segmentsText page.segments ++ '.' :: behind, page.number_ne_nil,
    page.isPageDigit_of_mem, ?_⟩
  rw [PageAddress.text, pageText_eq, hpath]
  simp only [List.append_assoc, List.cons_append, List.nil_append]

theorem pageReference?_eq_none_of_ne {c : Char} (h : c ≠ '[') (text : List Char) :
    pageReference? (c :: text) = none := by
  rw [Option.eq_none_iff_forall_ne_some]
  rintro ⟨replacement, rest⟩ hread
  obtain ⟨number, more, -, -, htext⟩ := exists_pagePath_of_pageReference? hread
  exact h (List.cons.inj htext).1

theorem pageReference?_eq_none_of_not_digit {c : Char} (h : isPageDigit c = false)
    (text : List Char) : pageReference? ('[' :: c :: text) = none := by
  rw [Option.eq_none_iff_forall_ne_some]
  rintro ⟨replacement, rest⟩ hread
  obtain ⟨number, more, hne, hdigits, htext⟩ := exists_pagePath_of_pageReference? hread
  obtain ⟨d, number, rfl⟩ := List.exists_cons_of_ne_nil hne
  obtain ⟨rfl, -⟩ := List.cons.inj (List.cons.inj htext).2
  exact Bool.false_ne_true (h.symm.trans (hdigits _ List.mem_cons_self))

theorem PageAddress.exists_number_text (page : PageAddress) (site behind : List Char) :
    ∃ rest, page.text site behind = '[' :: page.number ++ ']' :: rest :=
  ⟨_, rfl⟩

/-! ## Characters of addresses -/

/-- Characters that the address of a page may hold. -/
def isAddressChar (c : Char) : Bool :=
  isWordChar c || c.isAlpha || c = '/' || c = '.' || c = ':'

theorem isAddressChar_of_mem_host : ∀ c ∈ host, isAddressChar c = true :=
  List.all_eq_true.mp (by decide +kernel)

theorem isWordChar_of_isPathChar {c : Char} (h : isPathChar c = true) : isWordChar c = true := by
  simp only [isPathChar, isWordChar, isSegmentChar, Bool.or_eq_true] at h ⊢
  rcases h with (hletter | hdigit) | hline
  · exact .inl (.inr hletter)
  · exact .inl (.inl (isDigit_of_isPageDigit hdigit))
  · exact .inr hline

theorem isAddressChar_of_mem_addressText {site ending : List Char} {segments : List (List Char)}
    (hsite : ∀ c ∈ site, isAddressChar c = true)
    (hsegments : ∀ segment ∈ segments, ∀ c ∈ segment, isWordChar c = true)
    (hending : ∀ c ∈ ending, isAddressChar c = true) :
    ∀ c ∈ addressText site segments ending, isAddressChar c = true := by
  have hpath : ∀ c ∈ "/docs/providers".toList, isAddressChar c = true :=
    List.all_eq_true.mp (by decide +kernel)
  have hsegmentsText : ∀ c ∈ segmentsText segments, isAddressChar c = true := by
    intro c hc
    obtain ⟨segment, hsegment, hmem⟩ := List.mem_flatMap.mp hc
    rcases List.mem_cons.mp hmem with rfl | hmem
    · decide
    · simp [isAddressChar, hsegments segment hsegment c hmem]
  simp only [addressText, List.forall_mem_append, List.forall_mem_cons]
  exact ⟨⟨⟨hsite, hpath⟩, hsegmentsText⟩, by decide, hending⟩

theorem isAddressChar_of_isPathChar {c : Char} (h : isPathChar c = true) :
    isAddressChar c = true := by
  simp [isAddressChar, isWordChar_of_isPathChar h]

namespace PageAddress

variable (page : PageAddress) {site ending : List Char}
  (hsite : ∀ c ∈ site, isAddressChar c = true) (hletters : ∀ c ∈ ending, isSmallLetter c = true)

include hsite hletters

theorem isAddressChar_of_mem : ∀ c ∈ addressText site page.segments ending,
    isAddressChar c = true :=
  isAddressChar_of_mem_addressText hsite
    (fun segment hsegment c hc ↦
      isWordChar_of_isPathChar ((page.areSegments segment hsegment).2 c hc))
    fun c hc ↦ isAddressChar_of_isPathChar (isPathChar_of_isSmallLetter (hletters c hc))

/-- The opening bracket of a reference is its only one, and other marks it has none. -/
theorem notMem_tail {mark : Char} (hmark : isAddressChar mark = false)
    (hcolon : mark ∉ [']', ':', ' ']) : mark ∉ (page.text site ending).tail := by
  have hnumber : mark ∉ page.number := Text.notMem_of_class
    (fun c hc ↦
      isAddressChar_of_isPathChar (isPathChar_of_isPageDigit (page.isPageDigit_of_mem c hc))) hmark
  have haddress : mark ∉ addressText site page.segments ending :=
    Text.notMem_of_class (page.isAddressChar_of_mem hsite hletters) hmark
  simp only [List.mem_cons, List.not_mem_nil, or_false, not_or] at hcolon
  simp [text, pageText, hnumber, haddress, hcolon]

end PageAddress

/-! ## All references of a text -/

/-- The text with its references to pages on the host. -/
def hostPages (text : List Char) : List Char := Text.substitute pageReference? text

theorem hostPages_append_of_notMem {front : List Char} (h : '[' ∉ front) (rest : List Char) :
    hostPages (front ++ rest) = front ++ hostPages rest :=
  Text.substitute_append_of_none
    (fun _ hc ↦ pageReference?_eq_none_of_ne fun heq ↦ h (heq ▸ hc)) rest

theorem hostPages_cons_of_none {c : Char} {text : List Char}
    (h : pageReference? (c :: text) = none) : hostPages (c :: text) = c :: hostPages text :=
  Text.substitute_cons_of_none h

theorem hostPages_of_pageReference? {text replacement rest : List Char}
    (h : pageReference? text = some (replacement, rest)) :
    hostPages text = replacement ++ hostPages rest :=
  readsFront_pageReference?.substitute_of_some h

/-- The text begins as it does with its references on the host, up to the first bracket. -/
theorem exists_eq_append_of_hostPages {text front rest : List Char} (hfront : '[' ∉ front)
    (h : hostPages text = front ++ rest) :
    ∃ behind, text = front ++ behind ∧ hostPages behind = rest := by
  refine Text.exists_eq_append_of_substitute (fun text replacement rest hread ↦ ?_)
    readsFront_pageReference? hfront h
  obtain ⟨page, ending, -, rfl, -⟩ := pageReference?_eq_some_iff.mp hread
  exact ⟨_, rfl⟩

/-- A number in brackets stands where it stood. -/
theorem exists_number_of_hostPages {text number rest : List Char} (hopen : '[' ∉ number)
    (hclose : ']' ∉ number) (h : hostPages text = '[' :: number ++ ']' :: rest) :
    ∃ behind, text = '[' :: number ++ ']' :: behind := by
  cases hread : pageReference? text with
  | some found =>
    obtain ⟨replacement, more⟩ := found
    rw [hostPages_of_pageReference? hread] at h
    obtain ⟨page, ending, rfl, rfl, -⟩ := pageReference?_eq_some_iff.mp hread
    have hpage : ']' ∉ page.number := Text.notMem_of_class page.isPageDigit_of_mem (by decide)
    obtain ⟨front, hfront⟩ := page.exists_number_text host (ending ++ hostPages more)
    obtain ⟨behind, hbehind⟩ := page.exists_number_text [] (ending ++ more)
    rw [page.text_append, hfront] at h
    obtain ⟨hnumber, -⟩ := Text.eq_of_append_cons_eq hpage hclose (List.cons.inj h).2
    exact ⟨behind, hnumber ▸ hbehind⟩
  | none =>
    cases text with
    | nil => simp [hostPages] at h
    | cons c text =>
      rw [hostPages_cons_of_none hread] at h
      obtain ⟨rfl, htext⟩ := List.cons.inj h
      have hfront : '[' ∉ number ++ [']'] := by simp [hopen]
      have hsplit : number ++ ']' :: rest = (number ++ [']']) ++ rest := List.append_cons ..
      obtain ⟨behind, rfl, -⟩ := exists_eq_append_of_hostPages hfront (htext.trans hsplit)
      exact ⟨behind, by simp⟩

end ProviderDocs.Cleanup
