import Mathlib.Data.List.Basic
import ProviderDocs.Cleanup.Record
import ProviderDocs.Proofs.Cleanup.FooterLink

/-!
# Targets of references

A reference names its footer link in ASCII digits, while the digits of a definition may be those of
any script. So a text is cleaned up alike with all footer links that agree on the labels in ASCII
digits, and lines that define none of these may stand in a document or not.
-/

namespace ProviderDocs

/-- A step that puts back what it reads changes nothing. -/
theorem Text.substitute_eq_self_of_append {step? : List Char → Option (List Char × List Char)}
    (h : ∀ text replacement rest, step? text = some (replacement, rest) →
      replacement ++ rest = text)
    (text : List Char) : substitute step? text = text := by
  fun_induction substitute step? text with
  | case1 => rfl
  | case2 c text hnone ih => rw [ih]
  | case3 c text replacement rest hsome hlength ih => rw [ih, h _ _ _ hsome]
  | case4 c text replacement rest hsome hlength ih => rw [ih]

namespace Cleanup

/-! ## Labels in ASCII digits -/

/-- The label is one that references can name. -/
def isNameable (label : String) : Bool :=
  label.toList.all fun c ↦ c.isDigit || c = '[' || c = ']'

/-- The line begins with a number in brackets, in ASCII digits, and a colon. -/
def isNumberedLine (line : String) : Bool :=
  match bracketNumber? Char.isDigit line.toList with
  | some (_, ':' :: _) => true
  | _ => false

theorem isNameable_of_bracketNumber? {text number rest : List Char}
    (h : bracketNumber? Char.isDigit text = some (number, rest)) :
    isNameable (String.ofList number) = true := by
  obtain ⟨digits, -, hall, rfl, -⟩ := (bracketNumber?_eq_some_iff rfl).mp h
  have hdigits : ∀ c ∈ digits, (c.isDigit || c = '[' || c = ']') = true := by
    intro c hc
    rw [hall c hc, Bool.true_or, Bool.true_or]
  simpa [isNameable] using hdigits

/-- A number that references can name is one in ASCII digits. -/
theorem bracketNumber?_isDigit {text number rest : List Char}
    (h : bracketNumber? Text.isDecimalDigit text = some (number, rest))
    (hname : isNameable (String.ofList number) = true) :
    bracketNumber? Char.isDigit text = some (number, rest) := by
  obtain ⟨digits, hne, hall, rfl, htext⟩ := (bracketNumber?_eq_some_iff rfl).mp h
  refine (bracketNumber?_eq_some_iff rfl).mpr ⟨digits, hne, fun c hc ↦ ?_, rfl, htext⟩
  have hclass : c.isDigit = true ∨ c = '[' ∨ c = ']' := by
    have hlabel := List.all_eq_true.mp hname c (by simp [hc])
    simpa [or_assoc] using hlabel
  rcases hclass with hdigit | rfl | rfl
  · exact hdigit
  · exact absurd (hall _ hc) (by decide)
  · exact absurd (hall _ hc) (by decide)

/-- The line defines no link that references can name. -/
def DefinesUnnameable (line : String) : Prop :=
  ∀ label target, lineDefinition? line.toList = some (label, target) →
    isNameable (String.ofList label) = false

theorem definesUnnameable_of_not_numbered {line : String} (hline : isNumberedLine line = false) :
    DefinesUnnameable line := by
  intro label target h
  rw [Bool.eq_false_iff] at hline ⊢
  intro hname
  obtain ⟨rest, hnumber⟩ := exists_number_of_lineDefinition? h
  refine hline ?_
  rw [isNumberedLine, bracketNumber?_isDigit hnumber hname]
  rfl

theorem lineDefinition?_heading {heading : String} (h : startsWith heading "## " = true) :
    lineDefinition? heading.toList = none := by
  obtain ⟨rest, rfl⟩ := startsWith_iff.mp h
  rw [String.toList_append]
  rfl

/-! ## Links that references can name -/

/-- The links that references can name, among those that lines define. -/
def nameableLinks (lines : List String) : List (String × String) :=
  (linksOfLines lines).filter (isNameable ·.1)

/-- A heading parts the lines, though it may be the target of the last one before it. -/
theorem nameableLinks_append_cons (before rest : List String) {heading : String}
    (h : startsWith heading "## " = true) :
    nameableLinks (before ++ heading :: rest) =
      nameableLinks (before ++ [heading]) ++ nameableLinks rest := by
  have hnone := lineDefinition?_heading h
  have hlinks : linksOfLines (before ++ heading :: rest) =
      linksOfLines (before ++ [heading]) ++ linksOfLines rest := by
    fun_induction linksOfLines before with
    | case1 => simp [linksOfLines, hnone]
    | case2 line before hline ih => simp [linksOfLines, hline, ih]
    | case3 line before label target hline ih => simp [linksOfLines, hline, ih]
    | case4 line label hline => simp [linksOfLines, hline]
    | case5 line label hline target before ih => simp [linksOfLines, hline, ih]
  rw [nameableLinks, hlinks, List.filter_append]
  rfl

theorem nameableLinks_cons {heading : String} (h : startsWith heading "## " = true)
    (rest : List String) : nameableLinks (heading :: rest) = nameableLinks rest := by
  simp [nameableLinks, linksOfLines, lineDefinition?_heading h]

/-- Links that no reference can name do not matter before a heading. -/
theorem nameableLinks_append {body rest : List String}
    (hbody : ∀ line ∈ body, DefinesUnnameable line)
    (hrest : ∀ heading ∈ rest.head?, startsWith heading "## " = true) :
    nameableLinks (body ++ rest) = nameableLinks rest := by
  unfold nameableLinks
  fun_induction linksOfLines body with
  | case1 => rfl
  | case2 line body hnone ih =>
    obtain ⟨-, hbody⟩ := List.forall_mem_cons.mp hbody
    simpa [linksOfLines, hnone] using ih hbody
  | case3 line body label target hsome ih =>
    obtain ⟨hline, hbody⟩ := List.forall_mem_cons.mp hbody
    simpa [linksOfLines, hsome, hline _ _ hsome] using ih hbody
  | case4 line label hsome =>
    have hline := hbody line List.mem_cons_self label none hsome
    cases rest with
    | nil => simp [linksOfLines, hsome]
    | cons heading rest =>
      have hheading := lineDefinition?_heading (hrest heading rfl)
      simp [linksOfLines, hsome, hline, hheading]
  | case5 line label hsome target body ih =>
    obtain ⟨hline, -, hbody⟩ := by simpa only [List.forall_mem_cons] using hbody
    simpa [linksOfLines, hsome, hline _ _ hsome] using ih hbody

/-- Nor does a heading matter that is the target of no link that can be named. -/
theorem nameableLinks_concat {before : List String} {heading : String}
    (hlast : ∀ line ∈ before.getLast?, DefinesUnnameable line)
    (h : startsWith heading "## " = true) :
    nameableLinks (before ++ [heading]) = nameableLinks before := by
  unfold nameableLinks
  fun_induction linksOfLines before with
  | case1 => simp [linksOfLines, lineDefinition?_heading h]
  | case2 line before hnone ih =>
    simpa [linksOfLines, hnone] using ih fun last hmem ↦ hlast last (List.mem_getLast?_cons hmem)
  | case3 line before label target hsome ih =>
    have hbefore := ih fun last hmem ↦ hlast last (List.mem_getLast?_cons hmem)
    simp [linksOfLines, hsome, List.filter_cons, hbefore]
  | case4 line label hsome => simp [linksOfLines, hsome, hlast line rfl label none hsome]
  | case5 line label hsome target before ih =>
    have hbefore := ih fun last hmem ↦
      hlast last (List.mem_getLast?_cons (List.mem_getLast?_cons hmem))
    simp [linksOfLines, hsome, List.filter_cons, hbefore]

/-! ## Cleanup with other footer links -/

/-- Every reference has the same target. -/
def SameTargets (links others : Dict String) : Prop :=
  ∀ label, isNameable label = true → links.get? label = others.get? label

/-- The target of a label is that of the last link under it. -/
theorem get?_linkTargets {lines : List String} (h : AreLines lines) {label : String}
    (hname : isNameable label = true) :
    (linkTargets (joinLines lines)).get? label =
      ((nameableLinks lines).findRev? (·.1 = label)).map (·.2) := by
  rw [linkTargets_joinLines h, Dict.get?_ofList, nameableLinks]
  simp only [List.findRev?_eq_find?_reverse, ← List.filter_reverse, List.find?_filter]
  congr 2
  funext link
  by_cases hlabel : link.1 = label
  · simp [hlabel, hname]
  · simp [hlabel]

theorem sameTargets_of_nameableLinks {lines others : List String} (hlines : AreLines lines)
    (hothers : AreLines others) (h : nameableLinks lines = nameableLinks others) :
    SameTargets (linkTargets (joinLines lines)) (linkTargets (joinLines others)) := by
  intro label hname
  rw [get?_linkTargets hlines hname, get?_linkTargets hothers hname, h]

/-- A reference without a target stays as it is. -/
theorem append_of_numberedReference? {links : Dict String} (h : links.isEmpty = true)
    {text replacement rest : List Char}
    (hread : numberedReference? links text = some (replacement, rest)) :
    replacement ++ rest = text := by
  have hnone (label : String) : links.get? label = none := by
    have hentries : links.entries = [] := List.isEmpty_iff.mp h
    rw [Dict.get?, hentries, Entries.get?]
  unfold numberedReference? at hread
  split at hread
  · simp only [Option.bind_eq_bind, Option.bind_eq_some_iff, hnone] at hread
    obtain ⟨⟨label, behind⟩, hlabel, more, hmore, ⟨number, rest⟩, hnumber, ⟨⟩⟩ := hread
    obtain ⟨-, -, rfl⟩ := Text.eq_append_of_span1? hlabel
    obtain rfl := Text.after?_eq_some_iff.mp hmore
    obtain ⟨digits, -, -, -, rfl⟩ := (bracketNumber?_eq_some_iff rfl).mp hnumber
    simp
  · cases hread

theorem replaceNumberedReferences_eq (links : Dict String) (text : List Char) :
    replaceNumberedReferences links text = Text.substitute (numberedReference? links) text := by
  unfold replaceNumberedReferences
  split
  case isTrue hempty =>
    exact (Text.substitute_eq_self_of_append
      (fun _ _ _ ↦ append_of_numberedReference? hempty) text).symm
  case isFalse => rfl

section

variable {links others : Dict String} (h : SameTargets links others)

include h

theorem numberedReference?_congr : numberedReference? links = numberedReference? others := by
  funext text
  unfold numberedReference?
  split
  · refine Option.bind_congr fun label _ ↦ Option.bind_congr fun rest _ ↦
      Option.bind_congr fun found hfound ↦ ?_
    have htarget := h (String.ofList found.1) (isNameable_of_bracketNumber? hfound)
    dsimp only
    rw [htarget]
  · rfl

variable (language : OutputLanguage) (provider : Provider)

/-- A text is cleaned up alike with footer links that give every reference the same target. -/
theorem cleanText?_congr :
    cleanText? ⟨language, provider, links⟩ = cleanText? ⟨language, provider, others⟩ := by
  have hpiece : cleanPiece? ⟨language, provider, links⟩ =
      cleanPiece? ⟨language, provider, others⟩ := by
    funext piece
    cases piece with
    | prose text =>
      simp only [cleanPiece?, adaptProse, replaceNumberedReferences_eq, numberedReference?_congr h]
      rfl
    | code text => rfl
  funext text
  rw [cleanText?, cleanText?, hpiece]

end

/-! ## Sections that define no links -/

section Headings

variable {before body after : List String} {heading : String}

/-- Footer links are the same whatever stands in a section that defines none. -/
theorem sameTargets_of_body {other : List String}
    (hlines : AreLines (before ++ heading :: (body ++ after)))
    (hothers : AreLines (before ++ heading :: (other ++ after)))
    (hheading : startsWith heading "## " = true)
    (hbody : ∀ line ∈ body, isNumberedLine line = false)
    (hother : ∀ line ∈ other, isNumberedLine line = false)
    (hafter : ∀ line ∈ after.head?, startsWith line "## " = true) :
    SameTargets (linkTargets (joinLines (before ++ heading :: (body ++ after))))
      (linkTargets (joinLines (before ++ heading :: (other ++ after)))) := by
  apply sameTargets_of_nameableLinks hlines hothers
  have hlinks {lines : List String} (h : ∀ line ∈ lines, isNumberedLine line = false) :
      nameableLinks (before ++ heading :: (lines ++ after)) =
        nameableLinks (before ++ [heading]) ++ nameableLinks after := by
    have hnone : ∀ line ∈ lines, DefinesUnnameable line :=
      fun line hmem ↦ definesUnnameable_of_not_numbered (h line hmem)
    rw [nameableLinks_append_cons _ _ hheading, nameableLinks_append hnone hafter]
  rw [hlinks hbody, hlinks hother]

/-- Footer links are the same without a section that defines none, even as the target that a line
before it leaves open. -/
theorem sameTargets_without_section {next : String} {rest : List String}
    (hlines : AreLines (before ++ heading :: (body ++ next :: rest)))
    (hheading : startsWith heading "## " = true)
    (hbefore : ∀ line ∈ before.getLast?, isNumberedLine line = false)
    (hbody : ∀ line ∈ body, isNumberedLine line = false)
    (hnext : startsWith next "## " = true) :
    SameTargets (linkTargets (joinLines (before ++ heading :: (body ++ next :: rest))))
      (linkTargets (joinLines (before ++ next :: rest))) := by
  have hsublist := ((List.sublist_append_right body (next :: rest)).cons heading).append_left before
  have hothers : AreLines (before ++ next :: rest) := hlines.of_subset hsublist.subset
  apply sameTargets_of_nameableLinks hlines hothers
  have hlast : ∀ line ∈ before.getLast?, DefinesUnnameable line :=
    fun line hmem ↦ definesUnnameable_of_not_numbered (hbefore line hmem)
  have hnone : ∀ line ∈ body, DefinesUnnameable line :=
    fun line hmem ↦ definesUnnameable_of_not_numbered (hbody line hmem)
  calc nameableLinks (before ++ heading :: (body ++ next :: rest))
    _ = nameableLinks (before ++ [heading]) ++ nameableLinks (body ++ next :: rest) :=
      nameableLinks_append_cons _ _ hheading
    _ = nameableLinks before ++ nameableLinks (body ++ next :: rest) := by
      rw [nameableLinks_concat hlast hheading]
    _ = nameableLinks before ++ nameableLinks rest := by
      have hfirst : ∀ line ∈ (next :: rest).head?, startsWith line "## " = true := by
        rintro line ⟨⟩
        exact hnext
      rw [nameableLinks_append hnone hfirst, nameableLinks_cons hnext]
    _ = nameableLinks (before ++ next :: rest) := by
      rw [nameableLinks_append_cons _ _ hnext, nameableLinks_concat hlast hnext]

end Headings

end Cleanup

end ProviderDocs
