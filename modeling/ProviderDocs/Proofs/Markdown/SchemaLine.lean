import Mathlib.Data.List.Infix
import Mathlib.Tactic.MkIffOfInductiveProp
import ProviderDocs.Markdown.SchemaSection
import ProviderDocs.Proofs.Text.Blank
import ProviderDocs.Proofs.Text.Search

/-!
# Lines of a generated schema section

The generator writes six kinds of lines: headings and labels of requirements, headings and anchors
of blocks, bullets of parameters and further lines of their descriptions. Each of them is read as
the kind of line that it was written as.
-/

namespace ProviderDocs.Markdown

namespace Requirement

def title : Requirement → String
  | required => "Required"
  | optional => "Optional"
  | readOnly => "Read-Only"

/-- The heading above parameters of the entity itself. -/
def heading (requirement : Requirement) : String := "### " ++ requirement.title

/-- The label above parameters of a block. -/
def label (requirement : Requirement) : String := requirement.title ++ ":"

end Requirement

def NestedSchema.headingLine (path : String) : String := "### Nested Schema for `" ++ path ++ "`"

def NestedSchema.anchorLine (id : String) : String := "<a id=\"" ++ id ++ "\"></a>"

/-- The bullet of a parameter, with the first line of its description. -/
def Parameter.bulletLine (name : String) (type : Option String) (first : String) : String :=
  match type with
  | some type => "- `" ++ name ++ "` (" ++ type ++ ") " ++ first
  | none => "- `" ++ name ++ "` " ++ first

/-! ## Texts that can be written -/

/-- The text can stand between backticks. -/
@[mk_iff] structure IsQuotable (text : String) : Prop where
  ne_empty : text ≠ ""
  no_quote : '`' ∉ text.toList
  one_line : '\n' ∉ text.toList

/-- The first line of a description, behind a type or behind none. -/
@[mk_iff] structure StartsDescription (type : Option String) (line : String) : Prop where
  trimmed_eq : trimmed line = line
  no_link : ∀ rest ∈ line.toList.tails, nestedLink? rest = none
  no_bracket : type = none → line.toList.head? ≠ some '('

/-- Another line of a description, which reads as nothing else. -/
@[mk_iff] structure ContinuesDescription (line : String) : Prop where
  trimmed_eq : trimmed line = line
  not_blank : isBlankLine line = false
  not_bullet : parameterBullet? line.toList = none
  not_requirement : requirement? line = none
  not_heading : nestedPath? line = none
  not_anchor : isAnchor line = false

instance (text : String) : Decidable (IsQuotable text) :=
  decidable_of_iff' _ (isQuotable_iff text)

instance (type : Option String) (line : String) : Decidable (StartsDescription type line) :=
  decidable_of_iff' _ (startsDescription_iff type line)

instance (line : String) : Decidable (ContinuesDescription line) :=
  decidable_of_iff' _ (continuesDescription_iff line)

/-! ## Headings and labels -/

theorem NestedSchema.toList_headingLine (path : String) : (headingLine path).toList =
    ['#', '#', '#'] ++ ' ' :: ("Nested Schema for `".toList ++ (path.toList ++ ['`'])) := by
  have hfront : "### Nested Schema for `".toList =
      ['#', '#', '#'] ++ ' ' :: "Nested Schema for `".toList := by decide +kernel
  have hquote : "`".toList = ['`'] := rfl
  unfold headingLine
  rw [String.toList_append, String.toList_append, hfront, hquote, List.append_assoc]
  rfl

namespace SchemaLine

theorem ofLine_empty : ofLine "" = gap := rfl

theorem ofLine_heading (requirement : Requirement) :
    ofLine requirement.heading = label requirement := by
  cases requirement <;> rfl

theorem ofLine_label (requirement : Requirement) :
    ofLine requirement.label = label requirement := by
  cases requirement <;> rfl

theorem ofLine_headingLine {path : String} (h : IsQuotable path) :
    ofLine (NestedSchema.headingLine path) = nestedHeading path := by
  have hblanks (rest : List Char) :
      Text.skipBlanks1? (' ' :: ("Nested Schema for `".toList ++ rest)) =
        some ("Nested Schema for `".toList ++ rest) := rfl
  have hne : path.toList ≠ [] := mt String.toList_eq_nil_iff.mp h.ne_empty
  have hspan := Text.span1?_append_cons h.no_quote hne []
  have hpath : nestedPath? (NestedSchema.headingLine path) = some path := by
    simp only [nestedPath?, NestedSchema.toList_headingLine, Text.after?_append,
      Option.bind_eq_bind, Option.bind_some]
    -- A blank follows the third sign, so there is no fourth one.
    change (Text.skipBlanks1? (' ' :: _)).bind _ = _
    simp only [hblanks, Option.bind_some, Text.after?_append, hspan, String.ofList_toList]
  rw [ofLine, hpath]

/-- A line is no label when it begins with a character that no label begins with. -/
theorem requirement?_eq_none {line : String} {c : Char} {rest : List Char}
    (hline : line.toList = c :: rest) (hblank : Text.isBlank c = false)
    (hc : c ∉ ['#', ':', 'R', 'O']) : requirement? line = none := by
  simp only [List.mem_cons, List.not_mem_nil, or_false, not_or] at hc
  obtain ⟨hhash, hcolon, hr, ho⟩ := hc
  have hkeep : (c :: Text.dropBlankEnd rest).dropWhile (· = '#') = c :: Text.dropBlankEnd rest :=
    List.dropWhile_cons_of_neg (by simpa using hhash)
  have hcut := Text.reverse_dropWhile_reverse_cons (· = ':') (by simpa using hcolon)
  -- The label begins with the character that the line begins with.
  have hhead {text : String} {tail : List Char} (h : String.ofList (c :: tail) = text) :
      text.toList.head? = some c := by
    rw [← h, String.toList_ofList, List.head?_cons]
  unfold requirement?
  simp only [hline, Text.trim_cons_of_not_blank hblank, hkeep, hcut]
  split
  case h_1 _ h => exact absurd (Option.some.inj (hhead h)).symm hr
  case h_2 _ h => exact absurd (Option.some.inj (hhead h)).symm ho
  case h_3 _ h => exact absurd (Option.some.inj (hhead h)).symm hr
  case h_4 _ h => exact absurd (Option.some.inj (hhead h)).symm hr
  case h_5 _ h => exact absurd (Option.some.inj (hhead h)).symm hr
  case h_6 => rfl

theorem nestedPath?_eq_none {line : String} {c : Char} {rest : List Char}
    (hline : line.toList = c :: rest) (hc : c ≠ '#') : nestedPath? line = none := by
  simp [nestedPath?, hline, Text.after?, hc.symm]

end SchemaLine

/-! ## Bullets -/

theorem parameterName?_quoted {name : List Char} (h : '`' ∉ name) (hne : name ≠ [])
    (rest : List Char) : parameterName? ('`' :: (name ++ '`' :: rest)) = some (name, rest) := by
  simp only [parameterName?, Text.span1?_append_cons h hne]

section

variable {name first : String} {type : Option String}

theorem Parameter.toList_bulletLine (name : String) (type : Option String) (first : String) :
    (bulletLine name type first).toList =
      '-' :: ' ' :: '`' :: (name.toList ++ '`' :: ' ' :: (match type with
        | some type => '(' :: (type.toList ++ ')' :: ' ' :: first.toList)
        | none => first.toList)) := by
  cases type <;> simp [bulletLine]

theorem parameterBullet?_bulletLine (hname : IsQuotable name)
    (htype : ∀ text ∈ type, ')' ∉ text.toList) (hfirst : StartsDescription type first)
    (hline : '\n' ∉ first.toList) :
    parameterBullet? (Parameter.bulletLine name type first).toList =
      some ⟨name.toList, type.map String.toList, first.toList⟩ := by
  have hmarker (rest : List Char) : Text.dropBlank ('-' :: rest) = '-' :: rest := rfl
  have hquote (rest : List Char) :
      Text.skipBlanks1? (' ' :: '`' :: rest) = some ('`' :: rest) := rfl
  have hne : name.toList ≠ [] := mt String.toList_eq_nil_iff.mp hname.ne_empty
  have hdrop : Text.dropBlank first.toList = first.toList := by
    apply Text.dropBlank_of_trim_eq
    rw [← String.ofList_inj, String.ofList_toList]
    exact hfirst.trimmed_eq
  have hfeed : first.toList.contains '\n' = false := by simpa using hline
  rw [Parameter.toList_bulletLine, parameterBullet?, hmarker]
  simp only [hquote, parameterName?_quoted hname.no_quote hne, Option.bind_eq_bind,
    Option.bind_some]
  cases type with
  | some text =>
    have hbracket (rest : List Char) : Text.dropBlank (' ' :: '(' :: rest) = '(' :: rest := rfl
    have hspan := Text.span_append_cons (htype text rfl) (' ' :: first.toList)
    simp only [hbracket, hspan, Text.dropBlank_space, hdrop, hfeed]
    rfl
  | none =>
    -- What stands where a type could is no bracket.
    have hbracket (rest : List Char) : first.toList ≠ '(' :: rest := by
      intro h
      exact hfirst.no_bracket rfl (h ▸ rfl)
    simp only [Text.dropBlank_space, hdrop, hfeed]
    rfl

theorem ParameterBullet.toParameter_bulletLine (hfirst : StartsDescription type first)
    (name : String) (requirement : Requirement) :
    toParameter ⟨name.toList, type.map String.toList, first.toList⟩ requirement =
      ⟨name, first, type, requirement⟩ := by
  have hlink : Text.substitute nestedLink? first.toList = first.toList :=
    Text.substitute_eq_self fun rest hrest ↦ hfirst.no_link rest ((List.mem_tails _ _).mpr hrest)
  have htrim : String.ofList (Text.trim first.toList) = first := hfirst.trimmed_eq
  have htype : (type.map String.toList).map String.ofList = type := by simp [Function.comp_def]
  rw [toParameter, hlink, htrim, htype, String.ofList_toList]

/-- A bullet is read as the parameter that it was written for. -/
theorem SchemaLine.ofLine_bulletLine (hname : IsQuotable name)
    (htype : ∀ text ∈ type, ')' ∉ text.toList) (hfirst : StartsDescription type first)
    (hline : '\n' ∉ first.toList) :
    ∃ bullet text, ofLine (Parameter.bulletLine name type first) = parameter bullet text ∧
      ∀ requirement, bullet.toParameter requirement = ⟨name, first, type, requirement⟩ := by
  have hlist := Parameter.toList_bulletLine name type first
  have hbullet := parameterBullet?_bulletLine hname htype hfirst hline
  refine ⟨_, trimmed (Parameter.bulletLine name type first), ?_,
    ParameterBullet.toParameter_bulletLine hfirst name⟩
  have hpath := nestedPath?_eq_none hlist (by decide)
  have hrequirement := requirement?_eq_none hlist rfl (by decide)
  have hblank : isBlankLine (Parameter.bulletLine name type first) = false := by
    rw [isBlankLine, hlist]
    rfl
  have hanchor : isAnchor (Parameter.bulletLine name type first) = false := by
    rw [isAnchor, hlist, Text.trim_cons_of_not_blank rfl]
    rfl
  simp only [ofLine, hpath, hrequirement, hblank, hanchor, hbullet]
  rfl

end

/-! ## Other lines -/

namespace SchemaLine

theorem ofLine_of_continues {line : String} (h : ContinuesDescription line) :
    ofLine line = text line := by
  simp [ofLine, h.not_heading, h.not_requirement, h.not_blank, h.not_anchor, h.not_bullet,
    h.trimmed_eq]

/-- An anchor is skipped; with an `id` of the wrong form it counts as text. -/
theorem ofLine_anchorLine (id : String) :
    ofLine (NestedSchema.anchorLine id) = gap ∨
      ofLine (NestedSchema.anchorLine id) = text (trimmed (NestedSchema.anchorLine id)) := by
  obtain ⟨rest, hlist⟩ : ∃ rest, (NestedSchema.anchorLine id).toList = '<' :: rest := by
    unfold NestedSchema.anchorLine
    simp
  have hpath := nestedPath?_eq_none hlist (by decide)
  have hrequirement := requirement?_eq_none hlist rfl (by decide)
  have hbullet : parameterBullet? (NestedSchema.anchorLine id).toList = none := by
    rw [hlist]
    rfl
  simp only [ofLine, hpath, hrequirement, hbullet]
  split
  · exact Or.inl rfl
  · exact Or.inr rfl

end SchemaLine

end ProviderDocs.Markdown
