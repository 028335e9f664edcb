import Mathlib.Data.List.Basic
import ProviderDocs.Markdown.Import
import ProviderDocs.Proofs.Text.Blank
import ProviderDocs.Proofs.Text.Replace

/-!
# Import commands

The words behind a command that imports an entity keep their order. Of the address only what
follows the last dot is kept, as long as it is the first word: a prompt that is not taken out
stands in its place. Of a fence everything is taken out but an info word that is not one of the
shell.
-/

namespace ProviderDocs

namespace Markdown

namespace Import

/-! ## Lines -/

/-- A line with the command of the other tool that is not left out. -/
def isImport (line : String) : Bool :=
  !isSkipped line && contains (withoutFences line) "terraform import"

/-- The parts for a command: it stands in a block of its own. -/
def block (command : String) : List String :=
  [breakMark ++ breakMark ++ "```sh" ++ breakMark, command,
    breakMark ++ "```" ++ breakMark ++ breakMark]

section Parts

variable {token line : String}

theorem partsOfLine_of_isSkipped (h : isSkipped line = true) : partsOfLine token line = [] :=
  if_pos h

theorem partsOfLine_of_isImport (h : isImport line = true) :
    partsOfLine token line = block (command (withoutFences line) token) := by
  obtain ⟨hkept, hcommand⟩ := Bool.and_eq_true_iff.mp h
  rw [Bool.not_eq_true'] at hkept
  simp only [partsOfLine, hkept, hcommand, block, if_true, Bool.false_eq_true, if_false]

theorem partsOfLine_of_not_isImport (hkept : isSkipped line = false)
    (h : contains (withoutFences line) "terraform import" = false) :
    partsOfLine token line =
      if isBlankLine (withoutFences line) then [] else [withoutFences line] := by
  simp only [partsOfLine, hkept, h, Bool.false_eq_true, if_false]

end Parts

/-! ## Words -/

/-- Characters that make up one word, wherever it stands. -/
def IsWord (text : String) : Prop := text ≠ "" ∧ ∀ c ∈ text.toList, Text.isBlank c = false

instance (text : String) : Decidable (IsWord text) :=
  have : Decidable (∀ c ∈ text.toList, Text.isBlank c = false) := List.decidableBAll _ _
  inferInstanceAs (Decidable (text ≠ "" ∧ ∀ c ∈ text.toList, Text.isBlank c = false))

namespace IsWord

variable {text : String}

theorem space_notMem (h : IsWord text) : ' ' ∉ text.toList :=
  fun hmem ↦ absurd (h.2 ' ' hmem) (by decide)

theorem isBlankLine_eq (h : IsWord text) : isBlankLine text = false := by
  obtain ⟨c, rest, htext⟩ := List.exists_cons_of_ne_nil (mt String.toList_eq_nil_iff.mp h.1)
  have hc : Text.isBlank c = false := h.2 c (htext ▸ List.mem_cons_self)
  rw [isBlankLine, htext, List.all_cons, hc, Bool.false_and]

theorem words_eq (h : IsWord text) : words text = [text] := by
  rw [words, List.splitOn_eq_singleton h.space_notMem, List.map_singleton, String.ofList_toList,
    List.filter_cons_of_pos (by rw [h.isBlankLine_eq, Bool.not_false]), List.filter_nil]

end IsWord

theorem words_append_space (front rest : String) :
    words (front ++ " " ++ rest) = words front ++ words rest := by
  have hspace : " ".toList = [' '] := rfl
  simp only [words, String.toList_append, hspace, List.append_assoc, List.singleton_append,
    List.splitOn_append_cons_self, List.map_append, List.filter_append]

def spaces (count : Nat) : String := String.ofList (List.replicate count ' ')

@[simp] theorem toList_spaces (count : Nat) : (spaces count).toList = List.replicate count ' ' :=
  String.toList_ofList

theorem spaces_succ (count : Nat) : spaces (count + 1) = " " ++ spaces count := by
  rw [← String.toList_inj, String.toList_append, toList_spaces, toList_spaces]
  rfl

theorem words_spaces_append (count : Nat) (text : String) :
    words (spaces count ++ text) = words text := by
  induction count with
  | zero => rfl
  | succ count ih =>
    have hcut := words_append_space "" (spaces count ++ text)
    have hempty : words "" = [] := by decide
    rw [String.empty_append, hempty, List.nil_append, ih] at hcut
    rw [spaces_succ, String.append_assoc, hcut]

/-- A word behind one space and as many more as its gap. -/
structure SpacedWord where
  gap : Nat
  word : String
  isWord : IsWord word

def SpacedWord.text (spaced : SpacedWord) : String := spaces (spaced.gap + 1) ++ spaced.word

def wordsText (spaced : List SpacedWord) : String := String.join (spaced.map SpacedWord.text)

theorem wordsText_cons (first : SpacedWord) (rest : List SpacedWord) :
    wordsText (first :: rest) = " " ++ (spaces first.gap ++ (first.word ++ wordsText rest)) := by
  simp only [wordsText, SpacedWord.text, List.map_cons, String.join_cons, spaces_succ,
    String.append_assoc]

theorem words_append_wordsText {text : String} (h : IsWord text) (rest : List SpacedWord) :
    words (text ++ wordsText rest) = text :: rest.map SpacedWord.word := by
  induction rest generalizing text with
  | nil =>
    have hempty : wordsText [] = "" := rfl
    rw [hempty, String.append_empty, h.words_eq, List.map_nil]
  | cons next rest ih =>
    rw [wordsText_cons, ← String.append_assoc, words_append_space, words_spaces_append,
      h.words_eq, ih next.isWord, List.map_cons, List.singleton_append]

/-- The name of an entity is the last component of its address. -/
theorem entityName_append (front : String) {name : String} (h : '.' ∉ name.toList) :
    entityName (front ++ "." ++ name) = name := by
  have hdot : ".".toList = ['.'] := rfl
  rw [entityName, String.toList_append, String.toList_append, hdot, List.append_assoc,
    List.singleton_append, Text.afterLast_append_cons _ h, String.ofList_toList]

/-! ## Lines with a command -/

/-- What a terminal shows before a command. -/
inductive Prompt
  | none
  | dollar
  | percent

def Prompt.text : Prompt → String
  | none => ""
  | dollar => "$ "
  | percent => "% "

/-- What stays of a prompt in front of the command. -/
def Prompt.kept : Prompt → String
  | none | dollar => ""
  | percent => "% "

/-- A line that imports what stands at an address. -/
structure ImportLine where
  indent : Nat
  prompt : Prompt
  address : SpacedWord
  ids : List SpacedWord

namespace ImportLine

variable (line : ImportLine)

def operands : String := wordsText (line.address :: line.ids)

def text : String := spaces line.indent ++ line.prompt.text ++ "terraform import" ++ line.operands

/-- What stands behind the token in the command. -/
def importWords : List String :=
  match line.prompt with
  | .none | .dollar => entityName line.address.word :: line.ids.map SpacedWord.word
  | .percent => "%" :: line.address.word :: line.ids.map SpacedWord.word

def command (token : String) : String :=
  " ".intercalate ("$ pulumi import" :: token :: line.importWords)

/-- The line is not left out, and nothing behind the command is taken out of it. -/
structure IsPlain : Prop where
  kept : isSkipped line.text = false
  noPrompt : contains line.operands "$ " = false
  noCommand : contains line.operands "terraform import " = false
  noFence : contains line.operands "```" = false

instance : Decidable line.IsPlain :=
  decidable_of_iff (isSkipped line.text = false ∧ contains line.operands "$ " = false ∧
      contains line.operands "terraform import " = false ∧ contains line.operands "```" = false)
    ⟨fun h ↦ ⟨h.1, h.2.1, h.2.2.1, h.2.2.2⟩, fun h ↦ ⟨h.1, h.2, h.3, h.4⟩⟩

variable {line}

theorem notMem_spaces {c : Char} (h : c ≠ ' ') (count : Nat) : c ∉ (spaces count).toList := by
  rw [toList_spaces]
  exact fun hmem ↦ h (List.eq_of_mem_replicate hmem)

theorem replaced_prompt (h : line.IsPlain) :
    replaced line.text "$ " "" =
      spaces line.indent ++ line.prompt.kept ++ "terraform import" ++ line.operands := by
  have hoperands : replaced line.operands "$ " "" = line.operands :=
    replaced_eq_self h.noPrompt ""
  have hspaces : '$' ∉ (spaces line.indent).toList := notMem_spaces (by decide) _
  have hcommand : replaced ("terraform import" ++ line.operands) "$ " "" =
      "terraform import" ++ line.operands := by
    rw [replaced_append_of_notMem (p := '$') "" rfl (by decide), hoperands]
  unfold text
  rw [String.append_assoc, String.append_assoc, replaced_append_of_notMem (p := '$') "" rfl hspaces]
  simp only [String.append_assoc]
  congr 1
  cases line.prompt with
  | none => exact hcommand
  | dollar =>
    rw [Prompt.text, replaced_pattern_append "" (by decide), hcommand]
    rfl
  | percent =>
    rw [Prompt.text, replaced_append_of_notMem (p := '$') "" rfl (by decide), hcommand]
    rfl

/-- Of the line its operands are left, behind a prompt that stays. -/
theorem words_replaced (h : line.IsPlain) :
    words (replaced (replaced line.text "$ " "") "terraform import " "") =
      words line.prompt.kept ++ line.address.word :: line.ids.map SpacedWord.word := by
  have hoperands := wordsText_cons line.address line.ids
  have hcommand : "terraform import" ++ line.operands = "terraform import " ++
      (spaces line.address.gap ++ (line.address.word ++ wordsText line.ids)) := by
    rw [operands, hoperands, ← String.append_assoc]
    rfl
  have hnone : contains (spaces line.address.gap ++ (line.address.word ++ wordsText line.ids))
      "terraform import " = false := by
    have hnever := Bool.eq_false_iff.mp h.noCommand
    rw [operands, hoperands] at hnever
    exact Bool.eq_false_iff.mpr (mt contains_of_append hnever)
  have hfront : 't' ∉ (spaces line.indent ++ line.prompt.kept).toList := by
    have hspaces : 't' ∉ (spaces line.indent).toList := notMem_spaces (by decide) _
    have hprompt : 't' ∉ line.prompt.kept.toList := by cases line.prompt <;> decide
    rw [String.toList_append]
    exact fun hmem ↦ (List.mem_append.mp hmem).elim hspaces hprompt
  have hwords := words_append_wordsText line.address.isWord line.ids
  rw [replaced_prompt h, String.append_assoc, hcommand,
    replaced_append_of_notMem (p := 't') "" rfl hfront, replaced_pattern_append "" (by decide),
    replaced_eq_self hnone, String.empty_append, String.append_assoc, words_spaces_append]
  cases line.prompt with
  | none | dollar =>
    rw [Prompt.kept, String.empty_append, words_spaces_append, hwords]
    rfl
  | percent =>
    have hcut : Prompt.percent.kept = "%" ++ " " := rfl
    rw [hcut, words_append_space, words_spaces_append, hwords]
    rfl

theorem command_text (h : line.IsPlain) (token : String) :
    Import.command line.text token = line.command token := by
  unfold Import.command
  rw [words_replaced h, command, importWords]
  cases line.prompt <;> rfl

/-- The line holds no fence, as its operands hold none. -/
theorem not_contains_fence (h : line.IsPlain) : contains line.text "```" = false := by
  have hfront : '`' ∉ (spaces line.indent ++ line.prompt.text ++ "terraform import").toList := by
    have hspaces : '`' ∉ (spaces line.indent).toList := notMem_spaces (by decide) _
    have hprompt : '`' ∉ line.prompt.text.toList := by cases line.prompt <;> decide
    have hcommand : '`' ∉ "terraform import".toList := by decide
    simp only [String.toList_append, List.mem_append, not_or]
    exact ⟨⟨hspaces, hprompt⟩, hcommand⟩
  have hnever := Bool.eq_false_iff.mp h.noFence
  exact Bool.eq_false_iff.mpr (mt (contains_of_append_of_notMem (p := '`') rfl hfront) hnever)

end ImportLine

/-! ## Fences -/

theorem withoutFences_eq (line : String) :
    withoutFences line =
      replaced (replaced (replaced line "```shell" "") "```sh" "") "```" "" := rfl

theorem withoutFences_eq_self {line : String} (h : contains line "```" = false) :
    withoutFences line = line := by
  have hshell : contains line "```shell" = false := by
    rw [Bool.eq_false_iff, Ne, contains_iff] at h ⊢
    exact mt (List.IsInfix.trans (by decide)) h
  have hsh : contains line "```sh" = false := by
    rw [Bool.eq_false_iff, Ne, contains_iff] at h ⊢
    exact mt (List.IsInfix.trans (by decide)) h
  rw [withoutFences_eq, replaced_eq_self hshell, replaced_eq_self hsh, replaced_eq_self h]

/-- What is left of the fence that opens a block: the info word, unless it is one of the shell. -/
def fenceRest (info : String) : String :=
  ((after? info "shell").or (after? info "sh")).getD info

theorem not_contains_fence {info language : String} (h : '`' ∉ info.toList)
    (hnone : after? info language = none) :
    contains ("```" ++ info) ("```" ++ language) = false := by
  have hfence : "```".toList = ['`', '`', '`'] := rfl
  have hbegins : ¬ language.toList <+: info.toList := by
    rw [after?_eq_none_iff, startsWith, Bool.eq_false_iff, Ne, List.isPrefixOf_iff_prefix] at hnone
    exact hnone
  have hover {tail : List Char} : ¬ '`' :: tail <+: info.toList :=
    fun hfound ↦ h (hfound.subset List.mem_cons_self)
  have hlater : ¬ '`' :: '`' :: '`' :: language.toList <:+: info.toList :=
    fun hfound ↦ h (hfound.subset List.mem_cons_self)
  rw [Bool.eq_false_iff, Ne, contains_iff, String.toList_append, String.toList_append, hfence]
  simp only [List.cons_append, List.nil_append, List.infix_cons_iff, List.cons_prefix_cons,
    true_and]
  exact not_or.mpr ⟨hbegins, not_or.mpr ⟨hover, not_or.mpr ⟨hover, hlater⟩⟩⟩

/-- A fence takes the beginning of its info word with it. -/
theorem replaced_fence {info : String} (h : '`' ∉ info.toList) (language : String) :
    replaced ("```" ++ info) ("```" ++ language) "" =
      (after? info language).getD ("```" ++ info) := by
  cases hafter : after? info language with
  | none => exact replaced_eq_self (not_contains_fence h hafter) ""
  | some rest =>
    obtain rfl := after?_eq_some_iff.mp hafter
    have hmem : '`' ∈ ("```" ++ language).toList := by
      rw [String.toList_append]
      exact List.mem_append_left _ (by decide)
    have hne : "```" ++ language ≠ "" := by
      rintro hempty
      rw [hempty] at hmem
      exact absurd hmem List.not_mem_nil
    have hrest : '`' ∉ rest.toList := by
      rw [String.toList_append] at h
      exact fun hin ↦ h (List.mem_append_right _ hin)
    rw [← String.append_assoc, replaced_pattern_append "" hne,
      replaced_eq_self (contains_eq_false_of_notMem hmem hrest), String.empty_append,
      Option.getD_some]

theorem withoutFences_fence {info : String} (h : '`' ∉ info.toList) :
    withoutFences ("```" ++ info) = fenceRest info := by
  have hrest {language rest : String} (hafter : after? info language = some rest)
      {fence : String} (hfence : '`' ∈ fence.toList) : replaced rest fence "" = rest := by
    rw [after?_eq_some_iff.mp hafter, String.toList_append] at h
    have hnone : '`' ∉ rest.toList := fun hin ↦ h (List.mem_append_right _ hin)
    exact replaced_eq_self (contains_eq_false_of_notMem hfence hnone) ""
  have hshell : replaced ("```" ++ info) "```shell" "" =
      (after? info "shell").getD ("```" ++ info) := replaced_fence h "shell"
  have hsh : replaced ("```" ++ info) "```sh" "" = (after? info "sh").getD ("```" ++ info) :=
    replaced_fence h "sh"
  have hplain : replaced ("```" ++ info) "```" "" = (after? info "").getD ("```" ++ info) :=
    replaced_fence h ""
  have hinfo : after? info "" = some info := by
    rw [after?_eq_some_iff, String.empty_append]
  rw [withoutFences_eq, hshell, fenceRest]
  cases hafter : after? info "shell" with
  | some rest =>
    rw [Option.getD_some, hrest hafter (by decide), hrest hafter (by decide), Option.some_or,
      Option.getD_some]
  | none =>
    rw [Option.getD_none, hsh, Option.none_or]
    cases hafter : after? info "sh" with
    | some rest => rw [Option.getD_some, hrest hafter (by decide), Option.getD_some]
    | none => rw [Option.getD_none, hplain, hinfo, Option.getD_some, Option.getD_none]

/-- An info word of a fence: no blank character and no backtick. -/
def IsInfoWord (info : String) : Prop := ∀ c ∈ info.toList, Text.isBlank c = false ∧ c ≠ '`'

instance (info : String) : Decidable (IsInfoWord info) := List.decidableBAll _ _

/-- What the fence that opens a block yields. -/
def fenceParts (info : String) : List String :=
  if isSkipped ("```" ++ info) || (fenceRest info).isEmpty then [] else [fenceRest info]

theorem mem_of_mem_fenceRest {info : String} {c : Char} (h : c ∈ (fenceRest info).toList) :
    c ∈ info.toList := by
  have hrest {language rest : String} (hafter : after? info language = some rest)
      (hmem : c ∈ rest.toList) : c ∈ info.toList := by
    rw [after?_eq_some_iff.mp hafter, String.toList_append]
    exact List.mem_append_right _ hmem
  unfold fenceRest at h
  cases hshell : after? info "shell" with
  | some rest =>
    rw [hshell] at h
    exact hrest hshell h
  | none =>
    rw [hshell, Option.none_or] at h
    cases hsh : after? info "sh" with
    | some rest =>
      rw [hsh] at h
      exact hrest hsh h
    | none =>
      rw [hsh] at h
      exact h

theorem partsOfLine_fence {info : String} (h : IsInfoWord info) (token : String) :
    partsOfLine token ("```" ++ info) = fenceParts info := by
  have hticks : '`' ∉ info.toList := fun hmem ↦ (h '`' hmem).2 rfl
  have hword : ∀ c ∈ (fenceRest info).toList, Text.isBlank c = false :=
    fun c hc ↦ (h c (mem_of_mem_fenceRest hc)).1
  have hcommand : contains (fenceRest info) "terraform import" = false := by
    refine contains_eq_false_of_notMem (c := ' ') (by decide) fun hmem ↦ ?_
    exact absurd (hword ' ' hmem) (by decide)
  rw [← withoutFences_fence hticks] at hcommand
  cases hskipped : isSkipped ("```" ++ info) with
  | true => rw [partsOfLine_of_isSkipped hskipped, fenceParts, hskipped, Bool.true_or, if_pos rfl]
  | false =>
    rw [partsOfLine_of_not_isImport hskipped hcommand, withoutFences_fence hticks, fenceParts,
      hskipped, Bool.false_or]
    by_cases hempty : fenceRest info = ""
    · rw [hempty]
      rfl
    · rw [IsWord.isBlankLine_eq ⟨hempty, hword⟩,
        Bool.eq_false_iff.mpr (mt String.isEmpty_iff.mp hempty)]

/-! ## Blocks -/

theorem ImportLine.isImport_text {line : ImportLine} (h : line.IsPlain) :
    isImport line.text = true := by
  have hcommand : contains line.text "terraform import" = true := by
    rw [contains_iff, ImportLine.text, String.toList_append, String.toList_append]
    exact List.infix_append ..
  rw [isImport, h.kept, withoutFences_eq_self (not_contains_fence h), hcommand]
  rfl

theorem partsOfLine_text {line : ImportLine} (h : line.IsPlain) (token : String) :
    partsOfLine token line.text = block (line.command token) := by
  have himport := ImportLine.isImport_text h
  rw [partsOfLine_of_isImport himport, withoutFences_eq_self (ImportLine.not_contains_fence h),
    ImportLine.command_text h]

/--
Of a block each command is put in a block of its own, with the last component of the address for
its name unless the line has a prompt of percent. The fences yield nothing but an info word that
is not one of the shell.
-/
theorem parts_fencedBlock (token : Option String) {info : String} (hinfo : IsInfoWord info)
    {lines : List ImportLine} (hlines : ∀ line ∈ lines, line.IsPlain) :
    parts token (("```" ++ info) :: (lines.map ImportLine.text ++ ["```"])) =
      fenceParts info ++
        lines.flatMap fun line ↦ block (line.command (token.getD missingToken)) := by
  have hopening := partsOfLine_fence hinfo (token.getD missingToken)
  have hclosing : partsOfLine (token.getD missingToken) "```" = [] :=
    partsOfLine_fence (by decide : IsInfoWord "") _
  have hcommands : (lines.map ImportLine.text).flatMap (partsOfLine (token.getD missingToken)) =
      lines.flatMap fun line ↦ block (line.command (token.getD missingToken)) := by
    rw [List.flatMap_map]
    exact List.flatMap_congr fun line hline ↦ partsOfLine_text (hlines line hline) _
  rw [parts, List.flatMap_cons, List.flatMap_append, hopening, hcommands, List.flatMap_singleton,
    hclosing, List.append_nil]

example : ["", "sh", "shell", "bash", "console"].map fenceParts =
    [[], [], [], ["bash"], ["console"]] := by decide +kernel

/-- A command as a manual of the other tool shows it. -/
def logsCommand : ImportLine where
  indent := 0
  prompt := .dollar
  address := ⟨0, "aws_bucket.logs", by decide⟩
  ids := [⟨0, "eu/logs", by decide⟩]

theorem parts_fencedBlock_logsCommand :
    IsInfoWord "console" ∧
      (∀ line ∈ [logsCommand, { logsCommand with prompt := .percent }], line.IsPlain) ∧
      parts none ["```console", "$ terraform import aws_bucket.logs eu/logs",
          "% terraform import aws_bucket.logs eu/logs", "```"] =
        "console" :: (block "$ pulumi import MISSING_TOK logs eu/logs" ++
          block "$ pulumi import MISSING_TOK % aws_bucket.logs eu/logs") := by
  have hinfo : IsInfoWord "console" := by decide
  have hlines : ∀ line ∈ [logsCommand, { logsCommand with prompt := .percent }], line.IsPlain := by
    decide +kernel
  exact ⟨hinfo, hlines, parts_fencedBlock none hinfo hlines⟩

/-- Other info words are left as prose, and a prompt of percent takes the place of the name. -/
theorem parts_fencedBlock_ne :
    parts none ["```bash", "terraform import aws_bucket.logs eu/logs", "```"] ≠
        block "$ pulumi import MISSING_TOK logs eu/logs" ∧
      parts none ["```sh", "% terraform import aws_bucket.logs eu/logs", "```"] ≠
        block "$ pulumi import MISSING_TOK logs eu/logs" := by
  constructor
  · have hfence : partsOfLine missingToken "```bash" = ["bash"] :=
      (partsOfLine_fence (by decide : IsInfoWord "bash") missingToken).trans (by decide +kernel)
    intro hparts
    rw [parts, List.flatMap_cons, Option.getD_none, hfence] at hparts
    exact absurd (List.cons.inj hparts).1 (by decide)
  · have hfence : partsOfLine missingToken "```sh" = [] :=
      (partsOfLine_fence (by decide : IsInfoWord "sh") missingToken).trans (by decide +kernel)
    have hplain : ImportLine.IsPlain { logsCommand with prompt := .percent } := by decide +kernel
    have hcommand : partsOfLine missingToken "% terraform import aws_bucket.logs eu/logs" =
        block "$ pulumi import MISSING_TOK % aws_bucket.logs eu/logs" :=
      partsOfLine_text hplain missingToken
    intro hparts
    rw [parts, List.flatMap_cons, List.flatMap_cons, Option.getD_none, hfence, hcommand] at hparts
    exact absurd (List.cons.inj (List.cons.inj hparts).2).1 (by decide)

end Import

end Markdown

end ProviderDocs
