import ProviderDocs.Proofs.Cleanup.Reference
import ProviderDocs.Proofs.Dict
import ProviderDocs.Proofs.Text.Case

/-!
# Names without marks of links

Renaming puts names of the provider into a text, and case forms of the words it finds there. None of
these holds a bracket or a parenthesis unless a name or a token of the provider does.
-/

namespace ProviderDocs

namespace Cleanup

/-- The characters that make up a link. -/
def isLinkMark (c : Char) : Bool := c = '[' || c = ']' || c = '(' || c = ')'

/-- A text without marks of links. -/
def IsPlain (text : List Char) : Prop := ∀ c ∈ text, isLinkMark c = false

instance (text : List Char) : Decidable (IsPlain text) :=
  List.decidableBAll _ text

/-- A provider in whose name and tokens stands no mark of a link. -/
structure HasPlainNames (provider : Provider) : Prop where
  name : IsPlain provider.name.toList
  resources : ∀ entry ∈ provider.resources.entries, IsPlain entry.2.token.toList
  dataSources : ∀ entry ∈ provider.dataSources.entries, IsPlain entry.2.token.toList

/-- No character of a class is a mark when none of the marks is in it. -/
theorem isLinkMark_eq_false {inClass : Char → Bool}
    (hclass : ['[', ']', '(', ')'].all (!inClass ·) = true) {c : Char} (h : inClass c = true) :
    isLinkMark c = false := by
  rw [Bool.eq_false_iff]
  intro hmark
  have hmem : c ∈ ['[', ']', '(', ')'] := by simpa [isLinkMark, or_assoc] using hmark
  simpa [h] using List.all_eq_true.mp hclass c hmem

theorem isLinkMark_of_isForm {c : Char} (h : Text.isForm c = true) : isLinkMark c = false :=
  isLinkMark_eq_false (by decide) h

theorem isLinkMark_of_isWordChar {c : Char} (h : isWordChar c = true) : isLinkMark c = false :=
  isLinkMark_eq_false (by decide) h

namespace IsPlain

theorem of_subset {text part : List Char} (h : IsPlain text) (hsubset : part ⊆ text) :
    IsPlain part :=
  fun c hc ↦ h c (hsubset hc)

theorem notMem {text : List Char} (h : IsPlain text) {mark : Char}
    (hmark : isLinkMark mark = true) : mark ∉ text :=
  fun hmem ↦ Bool.false_ne_true ((h mark hmem).symm.trans hmark)

theorem append {text more : List Char} (h : IsPlain text) (hmore : IsPlain more) :
    IsPlain (text ++ more) :=
  fun c hc ↦ (List.mem_append.mp hc).elim (h c) (hmore c)

theorem cons {c : Char} {text : List Char} (hc : isLinkMark c = false) (h : IsPlain text) :
    IsPlain (c :: text) :=
  List.forall_mem_cons.mpr ⟨hc, h⟩

/-! ## Case forms -/

theorem upper {c : Char} (h : isLinkMark c = false) : IsPlain (Text.upper c) := by
  intro form hform
  rcases Text.isForm_of_mem_upper hform with rfl | hletter
  · exact h
  · exact isLinkMark_of_isForm hletter

theorem lower {c : Char} (h : isLinkMark c = false) : IsPlain (Text.lower c) := by
  intro form hform
  rcases Text.isForm_of_mem_lower hform with rfl | hletter
  · exact h
  · exact isLinkMark_of_isForm hletter

theorem camelCase {name : String} (h : IsPlain name.toList) :
    IsPlain (Naming.camelCase name).toList := by
  have hpascal : IsPlain (Naming.pascalChars name.toList) := by
    intro c hc
    obtain ⟨segment, hsegment, hmem⟩ := List.mem_flatMap.mp hc
    have hplain : IsPlain segment :=
      h.of_subset (Text.infix_of_mem_splitOn (List.mem_filter.mp hsegment).1).subset
    cases segment with
    | nil => cases hmem
    | cons first rest =>
      obtain ⟨hfirst, hrest⟩ := List.forall_mem_cons.mp hplain
      exact (upper hfirst).append hrest c hmem
  rw [Naming.camelCase, String.toList_ofList, Naming.camelChars]
  split
  · exact List.forall_mem_nil _
  · next first rest hcons =>
    obtain ⟨hfirst, hrest⟩ := List.forall_mem_cons.mp (hcons ▸ hpascal)
    exact (lower hfirst).append hrest

theorem snakeCase {name : String} (h : IsPlain name.toList) :
    IsPlain (Naming.snakeCase name).toList := by
  rw [Naming.snakeCase, String.toList_ofList]
  generalize name.toList = text at h
  generalize false = afterSmall
  fun_induction Naming.snakeChars afterSmall text with
  | case1 => exact h
  | case2 afterSmall c rest hcapital ih =>
    obtain ⟨hc, hrest⟩ := List.forall_mem_cons.mp h
    refine append (append ?_ (lower hc)) (ih hrest)
    cases afterSmall <;> decide
  | case3 afterSmall c rest hcapital ih =>
    obtain ⟨hc, hrest⟩ := List.forall_mem_cons.mp h
    exact cons hc (ih hrest)

end IsPlain

/-! ## New names -/

theorem subset_of_parse? {text : String} {token : TypeToken}
    (h : TypeToken.parse? text = some token) :
    token.module.toList ⊆ text.toList ∧ token.name.toList ⊆ text.toList := by
  simp only [TypeToken.parse?, Option.bind_eq_bind, Option.bind_eq_some_iff] at h
  obtain ⟨⟨package, behind⟩, hpackage, ⟨middle, name⟩, hmiddle, ⟨⟩⟩ := h
  obtain rfl : behind = middle ++ [':'] ++ name := Text.eq_append_of_splitAt? hmiddle
  rw [Text.eq_append_of_splitAt? hpackage]
  constructor
  · intro c hc
    have hmem : c ∈ middle := List.takeWhile_subset _ (by simpa using hc)
    simp [hmem]
  · intro c hc
    have hmem : c ∈ name := by simpa using hc
    simp [hmem]

/-- A reference is made of characters of its token and dots. -/
theorem qualifiedName_subset {text : String} {token : TypeToken}
    (h : TypeToken.parse? text = some token) :
    token.qualifiedName.toList ⊆ '.' :: text.toList := by
  obtain ⟨hmodule, hname⟩ := subset_of_parse? h
  have hmoduleName : token.moduleName.toList ⊆ text.toList := by
    unfold TypeToken.moduleName
    split
    · exact List.nil_subset _
    · exact hmodule
  have hqualifier : token.qualifier.toList ⊆ '.' :: text.toList := by
    unfold TypeToken.qualifier
    split
    · exact List.nil_subset _
    · rw [String.toList_append]
      exact List.append_subset.mpr
        ⟨List.Subset.trans hmoduleName (List.subset_cons_self ..), by simp⟩
  rw [TypeToken.qualifiedName, String.toList_append]
  exact List.append_subset.mpr
    ⟨hqualifier, List.Subset.trans hname (List.subset_cons_self ..)⟩

section Renaming

variable {context : Context} (h : HasPlainNames context.provider)

include h

theorem isPlain_reference {token : TypeToken} (htoken : IsPlain token.qualifiedName.toList) :
    IsPlain (resourceReference context token).toList ∧
      IsPlain (dataSourceReference context token).toList := by
  have hdotted : IsPlain (context.provider.name ++ "." ++ token.qualifiedName).toList := by
    rw [String.toList_append, String.toList_append]
    exact (h.name.append (by decide)).append htoken
  unfold resourceReference dataSourceReference
  cases context.language with
  | golang => exact ⟨htoken, htoken⟩
  | python => exact ⟨htoken, htoken.snakeCase⟩
  | _ => exact ⟨hdotted, hdotted⟩

theorem isPlain_newName {name found : String} (hname : IsPlain name.toList)
    (hfound : newName? context name = some found) : IsPlain found.toList := by
  have htoken {mappings : Dict EntityMapping} {token : TypeToken}
      (hplain : ∀ entry ∈ mappings.entries, IsPlain entry.2.token.toList)
      (hget : (mappings.get? name).bind (TypeToken.parse? ·.token) = some token) :
      IsPlain token.qualifiedName.toList := by
    obtain ⟨mapping, hmapping, hparse⟩ := Option.bind_eq_some_iff.mp hget
    have hmem := Entries.mem_of_get?_eq_some hmapping
    exact ((hplain _ hmem).cons (by decide)).of_subset (qualifiedName_subset hparse)
  simp only [newName?] at hfound
  split at hfound
  · next token hget =>
    cases hfound
    exact (isPlain_reference h (htoken h.resources hget)).1
  · split at hfound
    · next token hget =>
      cases hfound
      exact (isPlain_reference h (htoken h.dataSources hget)).2
    · unfold propertyReference? at hfound
      split at hfound <;> cases hfound
      all_goals exact hname.camelCase

/-- A word is renamed to a name without marks. -/
theorem isPlain_renamed {word : List Char} (hword : ∀ c ∈ word, isWordChar c = true) :
    IsPlain (renamed context word) := by
  have hplain : IsPlain word := fun c hc ↦ isLinkMark_of_isWordChar (hword c hc)
  unfold renamed
  split
  · next name hname => exact isPlain_newName h (by simpa using hplain) hname
  · exact hplain

end Renaming

end Cleanup

end ProviderDocs
