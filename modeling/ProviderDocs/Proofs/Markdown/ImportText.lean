import Mathlib.Data.List.Infix
import ProviderDocs.Proofs.Markdown.ImportCommand
import ProviderDocs.Proofs.Text.Lines

/-!
# Rendered import sections

Fences are taken out of the lines of an import section, so those of the rendered text are put
there for its commands. Whatever else a section holds, each command stands alone between two of
them.
-/

namespace ProviderDocs

namespace Markdown

namespace Import

/-! ## Lines with blocks -/

/-- The commands are the lines in the blocks, and no other line begins with a fence. -/
inductive HoldsBlocks : List String → List String → Prop
  | nil : HoldsBlocks [] []
  | prose {commands lines : List String} {line : String} (h : startsWith line "```" = false) :
      HoldsBlocks commands lines → HoldsBlocks commands (line :: lines)
  | block {commands lines : List String} (command : String) :
      HoldsBlocks commands lines →
        HoldsBlocks (command :: commands) ("```sh" :: command :: "```" :: lines)

namespace HoldsBlocks

variable {commands lines : List String}

theorem append_prose (h : HoldsBlocks commands lines) {front : List String}
    (hfront : ∀ line ∈ front, startsWith line "```" = false) :
    HoldsBlocks commands (front ++ lines) := by
  induction front with
  | nil => exact h
  | cons line front ih =>
    obtain ⟨hline, hfront⟩ := List.forall_mem_cons.mp hfront
    exact prose hline (ih hfront)

/-- Blocks stay when empty lines are collapsed. -/
theorem collapseEmpty (h : HoldsBlocks commands lines) (hcommands : "" ∉ commands)
    (afterEmpty : Bool) :
    HoldsBlocks commands
      ((Import.collapseEmpty afterEmpty (lines.map String.toList)).map String.ofList) := by
  induction h generalizing afterEmpty with
  | nil => exact nil
  | prose hline _ ih =>
    rw [List.map_cons, Import.collapseEmpty]
    split
    case isTrue => exact ih hcommands true
    case isFalse =>
      rw [List.map_cons, String.ofList_toList]
      exact prose hline (ih hcommands _)
  | block command _ ih =>
    obtain ⟨hcommand, hcommands⟩ := List.ne_and_not_mem_of_not_mem_cons hcommands
    have hne : command.toList.isEmpty = false := by
      rw [Bool.eq_false_iff, Ne, List.isEmpty_iff, String.toList_eq_nil_iff]
      exact hcommand.symm
    have hopen : "```sh".toList.isEmpty = false := rfl
    have hclose : "```".toList.isEmpty = false := rfl
    simp only [List.map_cons, Import.collapseEmpty, hopen, hne, hclose, Bool.false_and,
      Bool.false_eq_true, if_false, String.ofList_toList]
    exact block command (ih hcommands false)

/-- An empty line at the end belongs to no block. -/
theorem of_append_empty (h : HoldsBlocks commands (lines ++ [""])) :
    HoldsBlocks commands lines := by
  generalize hall : lines ++ [""] = all at h
  induction h generalizing lines with
  | nil => simp at hall
  | prose hline hrest ih =>
    cases lines with
    | nil =>
      obtain ⟨-, rfl⟩ := List.cons.inj hall
      exact hrest
    | cons line lines =>
      obtain ⟨rfl, hrest⟩ := List.cons.inj hall
      exact prose hline (ih hrest)
  | block command _ ih =>
    match lines, hall with
    | first :: second :: third :: rest, hall =>
      simp only [List.cons_append, List.cons.injEq] at hall
      obtain ⟨rfl, rfl, rfl, hrest⟩ := hall
      exact block second (ih hrest)
    | [_, _], hall => simp at hall
    | [_], hall => simp at hall
    | [], hall => simp at hall

theorem of_cons {line : String} (h : HoldsBlocks commands (line :: lines)) (hne : line ≠ "```sh") :
    HoldsBlocks commands lines := by
  cases h with
  | prose _ h => exact h
  | block => exact absurd rfl hne

/-- One line behind a fence there is another. -/
theorem closes {line command close : String}
    (h : HoldsBlocks commands (line :: command :: close :: lines))
    (hline : startsWith line "```" = true) : close = "```" := by
  cases h with
  | prose hprose _ => exact absurd hline (Bool.eq_false_iff.mp hprose)
  | block => rfl

end HoldsBlocks

/-! ## Trimmed lines -/

/-- The lines of a text, each without blank characters at its ends. -/
def trimmedLines (text : String) : List String := (splitLines text).map trimmed

theorem trimmedLines_append_newline (front rest : String) :
    trimmedLines (front ++ "\n" ++ rest) = trimmedLines front ++ trimmedLines rest := by
  have hfeed : "\n".toList = ['\n'] := rfl
  simp only [trimmedLines, splitLines, Text.splitLines, String.toList_append, hfeed,
    List.append_assoc, List.singleton_append, List.splitOn_append_cons_self, List.map_append]

theorem trimmedLines_space_append (text : String) :
    trimmedLines (" " ++ text) = trimmedLines text := by
  have hspace : " ".toList = [' '] := rfl
  obtain ⟨first, rest, hsplit⟩ : ∃ first rest, text.toList.splitOn '\n' = first :: rest :=
    List.exists_cons_of_ne_nil (List.splitOnP_ne_nil (· == '\n') text.toList)
  have hcut : (' ' :: text.toList).splitOn '\n' = (' ' :: first) :: rest := by
    rw [List.splitOn] at hsplit ⊢
    rw [List.splitOnP_cons_eq_if_modifyHead, hsplit]
    rfl
  have hfirst : Text.trim (' ' :: first) = Text.trim first := rfl
  simp only [trimmedLines, splitLines, Text.splitLines, String.toList_append, hspace,
    List.singleton_append, hcut, hsplit, List.map_cons, trimmed, String.toList_ofList, hfirst]

/-- What stands in a trimmed line of a text stands in the text. -/
theorem contains_of_mem_trimmedLines {text line pattern : String} (h : line ∈ trimmedLines text)
    (hfound : contains line pattern = true) : contains text pattern = true := by
  obtain ⟨whole, hwhole, rfl⟩ := List.mem_map.mp h
  rw [contains_iff, toList_trimmed] at hfound
  exact contains_of_mem_splitLines hwhole
    (contains_iff.mpr (hfound.trans (Text.trim_infix whole.toList)))

theorem startsWith_of_mem_trimmedLines {text : String} (h : contains text "```" = false) :
    ∀ line ∈ trimmedLines text, startsWith line "```" = false := by
  intro line hline
  rw [Bool.eq_false_iff] at h ⊢
  intro hbegins
  have hbegin := List.isPrefixOf_iff_prefix.mp hbegins
  exact h (contains_of_mem_trimmedLines hline (contains_iff.mpr hbegin.isInfix))

theorem trimmedLines_of_notMem {line : String} (h : '\n' ∉ line.toList) :
    trimmedLines line = [trimmed line] := by
  rw [trimmedLines, splitLines, Text.splitLines, List.splitOn_eq_singleton h, List.map_singleton,
    List.map_singleton, String.ofList_toList]

/-! ## Texts in pieces -/

/-- The pieces one behind the other, with a space before each of them. -/
def spaced (pieces : List String) : String := String.join (pieces.map (" " ++ ·))

theorem spaced_cons (piece : String) (rest : List String) :
    spaced (piece :: rest) = " " ++ piece ++ spaced rest := by
  rw [spaced, List.map_cons, String.join_cons, spaced]

theorem spaced_append (pieces more : List String) :
    spaced (pieces ++ more) = spaced pieces ++ spaced more := by
  rw [spaced, List.map_append, String.join_append, spaced, spaced]

theorem intercalate_eq_append_spaced (first : String) (rest : List String) :
    " ".intercalate (first :: rest) = first ++ spaced rest := by
  induction rest generalizing first with
  | nil => rw [String.intercalate_singleton, spaced, List.map_nil, String.join_nil,
      String.append_empty]
  | cons second rest ih =>
    rw [String.intercalate_cons_cons, ih, spaced_cons]
    simp only [String.append_assoc]

/-- A placeholder for a line break put in its place. -/
def expand (text : String) : String := replaced text breakMark "\n"

/-- Placeholders hold no space, so they are expanded in each of the pieces. -/
theorem expand_append_spaced (front : String) (pieces : List String) :
    expand (front ++ spaced pieces) = expand front ++ spaced (pieces.map expand) := by
  have hspace : " ".toList = [' '] := rfl
  induction pieces generalizing front with
  | nil => simp only [spaced, List.map_nil, String.join_nil, String.append_empty]
  | cons piece rest ih =>
    have hcut : expand (front ++ " " ++ piece) = expand front ++ " " ++ expand piece :=
      replaced_append_append "\n" hspace (by decide) (by decide) front piece
    rw [spaced_cons, ← String.append_assoc, ← String.append_assoc, ih, hcut, List.map_cons,
      spaced_cons]
    simp only [String.append_assoc]

/-- Pieces hold what one of them holds. -/
theorem contains_append_spaced {pattern : String} (hne : pattern ≠ "") (h : ' ' ∉ pattern.toList)
    {front : String} (hfront : contains front pattern = false) {pieces : List String}
    (hpieces : ∀ piece ∈ pieces, contains piece pattern = false) :
    contains (front ++ spaced pieces) pattern = false := by
  have hspace : " ".toList = [' '] := rfl
  induction pieces generalizing front with
  | nil => rwa [spaced, List.map_nil, String.join_nil, String.append_empty]
  | cons piece rest ih =>
    obtain ⟨hpiece, hrest⟩ := List.forall_mem_cons.mp hpieces
    have hcut : contains (front ++ " " ++ piece) pattern = false := by
      rw [contains_append_append hspace hne h, hfront, hpiece, Bool.or_false]
    rw [spaced_cons, ← String.append_assoc, ← String.append_assoc]
    exact ih hcut hrest

/-! ## From part to part -/

/-- Whatever prose the text goes on from, its commands stand in blocks. -/
def GoesOn (commands : List String) (text : String) : Prop :=
  ∀ front, contains front "```" = false → HoldsBlocks commands (trimmedLines (front ++ text))

namespace GoesOn

variable {commands : List String} {text : String}

theorem nil : GoesOn [] "" := by
  intro front hfront
  rw [String.append_empty, ← List.append_nil (trimmedLines front)]
  exact HoldsBlocks.nil.append_prose (startsWith_of_mem_trimmedLines hfront)

theorem prose (h : GoesOn commands text) {part : String} (hpart : contains part "```" = false) :
    GoesOn commands (spaced [part] ++ text) := by
  intro front hfront
  have hspaced : contains (front ++ spaced [part]) "```" = false :=
    contains_append_spaced (by decide) (by decide) hfront (List.forall_mem_singleton.mpr hpart)
  rw [← String.append_assoc]
  exact h _ hspaced

theorem block (h : GoesOn commands text) {command : String} (hcommand : '\n' ∉ command.toList) :
    GoesOn (trimmed command :: commands)
      (spaced ["\n\n```sh\n", command, "\n```\n\n"] ++ text) := by
  intro front hfront
  have hcut : front ++ (spaced ["\n\n```sh\n", command, "\n```\n\n"] ++ text) =
      (front ++ " ") ++ "\n" ++ ("" ++ "\n" ++ ("```sh" ++ "\n" ++
        ((" " ++ (command ++ " ")) ++ "\n" ++ ("```" ++ "\n" ++ ("" ++ "\n" ++ text))))) := by
    have hopen : "\n\n```sh\n" = "\n" ++ ("" ++ ("\n" ++ ("```sh" ++ "\n"))) := rfl
    have hclose : "\n```\n\n" = "\n" ++ ("```" ++ ("\n" ++ ("" ++ "\n"))) := rfl
    have hempty : spaced [] = "" := rfl
    simp only [spaced_cons, hopen, hclose, hempty, String.append_assoc, String.empty_append]
  have hspace : " ".toList = [' '] := rfl
  have hspaced : contains (front ++ " ") "```" = false := by
    have hempty : contains "" "```" = false := by decide
    have hsplit := contains_append_append hspace (by decide : "```" ≠ "") (by decide) front ""
    rwa [hfront, hempty, String.append_empty] at hsplit
  have hline : '\n' ∉ (command ++ " ").toList := by
    rw [String.toList_append]
    exact fun hmem ↦ (List.mem_append.mp hmem).elim hcommand (by decide)
  have htrimmed : trimmed (command ++ " ") = trimmed command := by
    rw [trimmed, String.toList_append, Text.trim_append_blanks _ (by decide), ← trimmed]
  have hempty : trimmedLines "" = [""] := rfl
  have hopen : trimmedLines "```sh" = ["```sh"] := by decide
  have hclose : trimmedLines "```" = ["```"] := by decide
  have hrest := h "" (by decide)
  rw [String.empty_append] at hrest
  rw [hcut]
  simp only [trimmedLines_append_newline, trimmedLines_space_append, hempty, hopen, hclose,
    trimmedLines_of_notMem hline, htrimmed, List.cons_append, List.nil_append]
  have hprose : startsWith "" "```" = false := by decide
  have hblock := (hrest.prose hprose).block (trimmed command)
  exact (hblock.prose hprose).append_prose (startsWith_of_mem_trimmedLines hspaced)

end GoesOn

/-! ## Commands -/

/-- What is left of a line with a command when everything is taken out that is not to stay. -/
def importOperands (line : String) : String :=
  replaced (replaced (withoutFences line) "$ " "") "terraform import " ""

/-- The line that stands in the block for a line with a command. -/
def importCommand (token line : String) : String := trimmed (command (withoutFences line) token)

/-- What stands behind the token in a command. -/
def commandWords : List String → List String
  | [] => []
  | address :: ids => entityName address :: ids

theorem command_eq (token line : String) :
    command (withoutFences line) token =
      "$ pulumi import " ++ token ++ spaced (commandWords (words (importOperands line))) := by
  have hoperands : words (replaced (replaced (withoutFences line) "$ " "") "terraform import " "") =
      words (importOperands line) := rfl
  have hempty : spaced [] = "" := rfl
  have hfront : "$ pulumi import " = "$ pulumi import" ++ " " := rfl
  rw [command, hoperands]
  cases words (importOperands line) with
  | nil => rw [commandWords, hempty, String.append_empty]
  | cons address ids =>
    simp only [commandWords, intercalate_eq_append_spaced, spaced_cons, hfront,
      String.append_assoc]

theorem infix_of_mem_words {text word : String} (h : word ∈ words text) :
    word.toList <:+: text.toList := by
  obtain ⟨piece, hpiece, rfl⟩ := List.mem_map.mp (List.mem_filter.mp h).1
  rw [String.toList_ofList]
  exact Text.infix_of_mem_splitOn hpiece

theorem entityName_suffix (address : String) :
    (entityName address).toList <:+ address.toList := by
  have hreverse : address.toList.reverse.takeWhile (· != '.') <+: address.toList.reverse :=
    List.takeWhile_prefix _
  rw [entityName, String.toList_ofList, Text.afterLast]
  simpa using List.reverse_suffix.mpr hreverse

theorem infix_of_mem_commandWords {text word : String} (h : word ∈ commandWords (words text)) :
    word.toList <:+: text.toList := by
  have hwords {word : String} (hword : word ∈ words text) := infix_of_mem_words hword
  cases hcut : words text with
  | nil =>
    rw [hcut] at h
    exact absurd h List.not_mem_nil
  | cons address ids =>
    rw [hcut] at h hwords
    rcases List.mem_cons.mp h with rfl | h
    · exact (entityName_suffix address).isInfix.trans (hwords List.mem_cons_self)
    · exact hwords (List.mem_cons_of_mem _ h)

/-- Without spaces nothing goes on over the words of a command. -/
theorem contains_command {pattern : String} (hne : pattern ≠ "") (hspace : ' ' ∉ pattern.toList)
    (hput : contains "$ pulumi import" pattern = false) {token line : String}
    (htoken : contains token pattern = false)
    (hline : contains (importOperands line) pattern = false) :
    contains (command (withoutFences line) token) pattern = false := by
  have hfront : contains ("$ pulumi import " ++ token) pattern = false := by
    have hcut : "$ pulumi import " ++ token = "$ pulumi import" ++ " " ++ token := rfl
    have hgap : " ".toList = [' '] := rfl
    rw [hcut, contains_append_append hgap hne hspace, hput, htoken, Bool.or_false]
  rw [command_eq]
  refine contains_append_spaced hne hspace hfront fun word hword ↦ ?_
  rw [Bool.eq_false_iff] at hline ⊢
  exact fun hfound ↦
    hline (contains_iff.mpr ((contains_iff.mp hfound).trans (infix_of_mem_commandWords hword)))

theorem mem_of_mem_importOperands {line : String} {c : Char}
    (h : c ∈ (importOperands line).toList) : c ∈ line.toList := by
  rw [importOperands, withoutFences_eq] at h
  have hcommand := mem_of_mem_replaced (by decide) h
  have hprompt := mem_of_mem_replaced (by decide) hcommand
  have hfence := mem_of_mem_replaced (by decide) hprompt
  exact mem_of_mem_replaced (by decide) (mem_of_mem_replaced (by decide) hfence)

theorem contains_newline_iff {text : String} : contains text "\n" = true ↔ '\n' ∈ text.toList := by
  have hfeed : "\n".toList = ['\n'] := rfl
  rw [contains_iff, hfeed, List.singleton_infix_iff]

theorem newline_notMem_command {token line : String} (htoken : '\n' ∉ token.toList)
    (hline : '\n' ∉ line.toList) : '\n' ∉ (command (withoutFences line) token).toList := by
  have hoperands : '\n' ∉ (importOperands line).toList := mt mem_of_mem_importOperands hline
  rw [← contains_newline_iff, ← Ne, ← Bool.eq_false_iff] at htoken hoperands ⊢
  exact contains_command (by decide) (by decide) (by decide) htoken hoperands

theorem startsWith_importCommand {token : String} (hne : token ≠ "")
    (htoken : trimmed token = token) (line : String) :
    startsWith (importCommand token line) ("$ pulumi import " ++ token) = true := by
  have htrim : Text.trim token.toList = token.toList := by rw [← toList_trimmed, htoken]
  have hend : Text.dropBlankEnd token.toList = token.toList := Text.dropBlankEnd_of_trim_eq htrim
  have htokenNe : token.toList ≠ [] := mt String.toList_eq_nil_iff.mp hne
  have hcut : ("$ pulumi import " ++ token).toList =
      '$' :: (" pulumi import ".toList ++ token.toList) := String.toList_append
  have hfront : Text.trim ("$ pulumi import " ++ token).toList =
      ("$ pulumi import " ++ token).toList := by
    rw [hcut, Text.trim_cons_of_not_blank (by decide), Text.dropBlankEnd_append (by rwa [hend]),
      hend]
  have hfrontNe : ("$ pulumi import " ++ token).toList ≠ [] := hcut ▸ List.cons_ne_nil _ _
  have hcommand : (importCommand token line).toList =
      Text.trim (("$ pulumi import " ++ token).toList ++
        (spaced (commandWords (words (importOperands line)))).toList) := by
    rw [importCommand, command_eq, toList_trimmed, String.toList_append]
  rw [startsWith, List.isPrefixOf_iff_prefix, hcommand, Text.trim_append hfrontNe hfront]
  exact List.prefix_append ..

/-! ## Lines of plain words -/

/-- Nothing is taken out of a line for the word. -/
structure SpacedWord.IsPlain (spaced : SpacedWord) : Prop where
  noPrompt : contains spaced.word "$" = false
  noFence : contains spaced.word "`" = false
  noCommand : contains spaced.word "terraform" = false

instance (spaced : SpacedWord) : Decidable spaced.IsPlain :=
  decidable_of_iff (contains spaced.word "$" = false ∧ contains spaced.word "`" = false ∧
      contains spaced.word "terraform" = false)
    ⟨fun h ↦ ⟨h.1, h.2.1, h.2.2⟩, fun h ↦ ⟨h.1, h.2, h.3⟩⟩

theorem wordsText_eq_spaced (words : List SpacedWord) :
    wordsText words = spaced (words.map fun word ↦ spaces word.gap ++ word.word) := by
  induction words with
  | nil => rfl
  | cons first rest ih =>
    rw [wordsText_cons, ih, List.map_cons, spaced_cons]
    simp only [String.append_assoc]

/-- What stands in none of the words does not stand behind the command. -/
theorem contains_wordsText {p : Char} {pattern : String} (hpattern : pattern.toList.head? = some p)
    (hspace : ' ' ∉ pattern.toList) {words : List SpacedWord}
    (hwords : ∀ word ∈ words, contains word.word pattern = false) :
    contains (wordsText words) pattern = false := by
  obtain ⟨tail, htail⟩ := List.head?_eq_some_iff.mp hpattern
  have hne : pattern ≠ "" := fun hempty ↦ by simp [hempty] at hpattern
  have hempty : contains "" pattern = false :=
    contains_eq_false_of_notMem (c := p) (htail ▸ List.mem_cons_self) List.not_mem_nil
  have hp : p ≠ ' ' := fun heq ↦ hspace (htail ▸ heq ▸ List.mem_cons_self)
  rw [wordsText_eq_spaced, ← String.empty_append (s := spaced _)]
  refine contains_append_spaced hne hspace hempty (List.forall_mem_map.mpr fun word hword ↦ ?_)
  have hnever := Bool.eq_false_iff.mp (hwords word hword)
  exact Bool.eq_false_iff.mpr
    (mt (contains_of_append_of_notMem hpattern (ImportLine.notMem_spaces hp _)) hnever)

namespace ImportLine

variable {line : ImportLine}

theorem isPlain_of_words (hkept : isSkipped line.text = false)
    (hwords : ∀ word ∈ line.address :: line.ids, word.IsPlain) : line.IsPlain where
  kept := hkept
  noPrompt := by
    have hnone : contains line.operands "$" = false :=
      contains_wordsText (p := '$') rfl (by decide) fun word hword ↦ (hwords word hword).noPrompt
    rw [Bool.eq_false_iff] at hnone ⊢
    exact mt (contains_of_contains (by decide)) hnone
  noFence := by
    have hnone : contains line.operands "`" = false :=
      contains_wordsText (p := '`') rfl (by decide) fun word hword ↦ (hwords word hword).noFence
    rw [Bool.eq_false_iff] at hnone ⊢
    exact mt (contains_of_contains (by decide)) hnone
  noCommand := by
    have hnone : contains line.operands "terraform" = false :=
      contains_wordsText (p := 't') rfl (by decide) fun word hword ↦ (hwords word hword).noCommand
    rw [Bool.eq_false_iff] at hnone ⊢
    exact mt (contains_of_contains (by decide)) hnone

theorem isWord_of_mem_importWords (hname : entityName line.address.word ≠ "") :
    ∀ word ∈ line.importWords, IsWord word := by
  have hids : ∀ word ∈ line.ids.map SpacedWord.word, IsWord word :=
    List.forall_mem_map.mpr fun word _ ↦ word.isWord
  have hentity : IsWord (entityName line.address.word) :=
    ⟨hname, fun c hc ↦ line.address.isWord.2 c ((entityName_suffix _).subset hc)⟩
  unfold importWords
  cases line.prompt with
  | none | dollar => exact List.forall_mem_cons.mpr ⟨hentity, hids⟩
  | percent =>
    exact List.forall_mem_cons.mpr ⟨by decide, List.forall_mem_cons.mpr ⟨line.address.isWord, hids⟩⟩

end ImportLine

theorem IsWord.dropBlankEnd_eq {word : String} (h : IsWord word) :
    Text.dropBlankEnd word.toList = word.toList := by
  have hne : word.toList.reverse ≠ [] :=
    mt List.reverse_eq_nil_iff.mp (mt String.toList_eq_nil_iff.mp h.1)
  obtain ⟨c, rest, hreverse⟩ := List.exists_cons_of_ne_nil hne
  have hc : Text.isBlank c = false :=
    h.2 c (List.mem_reverse.mp (hreverse ▸ List.mem_cons_self))
  rw [Text.dropBlankEnd, hreverse, List.dropWhile_cons_of_neg (Bool.eq_false_iff.mp hc), ← hreverse,
    List.reverse_reverse]

/-- A text that ends with words has no blank character at its end. -/
theorem dropBlankEnd_append_spaced (front : String) {words : List String} (hne : words ≠ [])
    (hwords : ∀ word ∈ words, IsWord word) :
    Text.dropBlankEnd (front ++ spaced words).toList = (front ++ spaced words).toList := by
  induction words generalizing front with
  | nil => exact absurd rfl hne
  | cons word rest ih =>
    obtain ⟨hword, hrest⟩ := List.forall_mem_cons.mp hwords
    rw [spaced_cons, ← String.append_assoc, ← String.append_assoc]
    cases rest with
    | nil =>
      have hempty : spaced [] = "" := rfl
      have hne : word.toList ≠ [] := mt String.toList_eq_nil_iff.mp hword.1
      have hend := hword.dropBlankEnd_eq
      rw [hempty, String.append_empty, String.toList_append,
        Text.dropBlankEnd_append (by rwa [hend]), hend]
    | cons next rest => exact ih _ (List.cons_ne_nil next rest) hrest

theorem importCommand_text {line : ImportLine} (h : line.IsPlain)
    (hname : entityName line.address.word ≠ "") (token : String) :
    importCommand token line.text = line.command token := by
  have hwords := ImportLine.isWord_of_mem_importWords hname
  have hne : line.importWords ≠ [] := by
    unfold ImportLine.importWords
    cases line.prompt <;> exact List.cons_ne_nil _ _
  have hcut : (line.command token).toList =
      '$' :: (" pulumi import " ++ token ++ spaced line.importWords).toList := by
    have hfront : "$ pulumi import" ++ (" " ++ token ++ spaced line.importWords) =
        "$" ++ (" pulumi import " ++ token ++ spaced line.importWords) := by
      simp only [← String.append_assoc]
      rfl
    rw [ImportLine.command, intercalate_eq_append_spaced, spaced_cons, hfront, String.toList_append]
    rfl
  rw [importCommand, withoutFences_eq_self (ImportLine.not_contains_fence h),
    ImportLine.command_text h, ← String.toList_inj, toList_trimmed, hcut,
    Text.trim_cons_of_not_blank (by decide), dropBlankEnd_append_spaced _ hne hwords]

/-! ## Rendering -/

theorem contains_withoutFences (line : String) : contains (withoutFences line) "```" = false := by
  rw [Bool.eq_false_iff, Ne, contains_iff, withoutFences_eq, toList_replaced]
  exact Text.not_infix_replaceAll_replicate '`' (by decide : 0 < 3) _

theorem contains_expand {text : String} (h : contains text "```" = false) :
    contains (expand text) "```" = false := by
  rw [Bool.eq_false_iff, Ne, contains_iff] at h ⊢
  rw [expand, toList_replaced]
  exact mt (Text.infix_of_infix_replaceAll (by decide) (by decide)) h

theorem goesOn_parts {token : String} (htoken : '\n' ∉ token.toList)
    (hmark : contains token breakMark = false) {lines : List String} (hlines : AreLines lines)
    (hbreak : ∀ line ∈ lines, isImport line = true →
      contains (importOperands line) breakMark = false) :
    GoesOn ((lines.filter isImport).map (importCommand token))
      (spaced ((parts (some token) lines).map expand)) := by
  induction lines with
  | nil => exact GoesOn.nil
  | cons line rest ih =>
    obtain ⟨hline, hrest⟩ := List.forall_mem_cons.mp hlines
    obtain ⟨hbreakLine, hbreakRest⟩ := List.forall_mem_cons.mp hbreak
    have hgoesOn := ih hrest hbreakRest
    rw [parts, List.flatMap_cons, ← parts, Option.getD_some, List.map_append, spaced_append]
    cases himport : isImport line with
    | true =>
      have hcommand := newline_notMem_command htoken hline
      have hmarks : contains (command (withoutFences line) token) breakMark = false :=
        contains_command (by decide) (by decide) (by decide) hmark (hbreakLine himport)
      have hkept : expand (command (withoutFences line) token) =
          command (withoutFences line) token := replaced_eq_self hmarks "\n"
      have hopen : expand (breakMark ++ breakMark ++ "```sh" ++ breakMark) = "\n\n```sh\n" := by
        cbv
      have hclose : expand (breakMark ++ "```" ++ breakMark ++ breakMark) = "\n```\n\n" := by
        cbv
      rw [List.filter_cons_of_pos himport, partsOfLine_of_isImport himport, block]
      simp only [List.map_cons, List.map_nil, hopen, hclose, hkept]
      exact hgoesOn.block hcommand
    | false =>
      rw [List.filter_cons_of_neg (Bool.eq_false_iff.mp himport)]
      cases hskipped : isSkipped line with
      | true =>
        rw [partsOfLine_of_isSkipped hskipped]
        exact hgoesOn
      | false =>
        have hprose : contains (withoutFences line) "terraform import" = false := by
          rwa [isImport, hskipped, Bool.not_false, Bool.true_and] at himport
        rw [partsOfLine_of_not_isImport hskipped hprose]
        split
        case isTrue => exact hgoesOn
        case isFalse => exact hgoesOn.prose (contains_expand (contains_withoutFences line))

theorem collapseEmpty_sublist (afterEmpty : Bool) (lines : List (List Char)) :
    (collapseEmpty afterEmpty lines).Sublist lines := by
  induction lines generalizing afterEmpty with
  | nil => exact List.Sublist.refl []
  | cons line rest ih =>
    rw [collapseEmpty]
    split
    case isTrue => exact (ih true).cons line
    case isFalse => exact (ih _).cons_cons line

theorem collapsed_subset (afterEmpty : Bool) (lines : List String) :
    (collapseEmpty afterEmpty (lines.map String.toList)).map String.ofList ⊆ lines := by
  have hsublist := (collapseEmpty_sublist afterEmpty (lines.map String.toList)).map String.ofList
  rw [List.map_map] at hsublist
  simpa [Function.comp_def] using hsublist.subset

theorem trimmed_of_mem_trimmedLines {text line : String} (h : line ∈ trimmedLines text) :
    '\n' ∉ line.toList ∧ trimmed line = line := by
  obtain ⟨whole, hwhole, rfl⟩ := List.mem_map.mp h
  refine ⟨fun hmem ↦ ?_, trimmed_trimmed whole⟩
  rw [toList_trimmed] at hmem
  exact areLines_splitLines text whole hwhole ((Text.trim_sublist _).subset hmem)

/-- Of trimmed lines only empty ones at the end are dropped by trimming their text. -/
theorem HoldsBlocks.splitLines_trimmed {commands lines : List String}
    (h : HoldsBlocks commands lines) {first : String} (hhead : lines.head? = some first)
    (hfirst : first ≠ "") (hlines : AreLines lines)
    (htrimmed : ∀ line ∈ lines, trimmed line = line) :
    HoldsBlocks commands (splitLines (trimmed (joinLines lines))) := by
  induction lines using List.reverseRecOn with
  | nil => cases hhead
  | append_singleton front last ih =>
    obtain ⟨hfront, hlast⟩ := List.forall_mem_append.mp htrimmed
    have hlast := List.forall_mem_singleton.mp hlast
    cases front with
    | nil =>
      rw [List.nil_append, joinLines_singleton, hlast, ← joinLines_singleton last,
        splitLines_joinLines (List.cons_ne_nil last []) hlines]
      exact h
    | cons start middle =>
      have hstart : start ≠ "" := Option.some.inj hhead ▸ hfirst
      by_cases hempty : last = ""
      · subst hempty
        rw [trimmed_joinLines_append_of_blank (by decide : isBlankLine "" = true)]
        exact ih h.of_append_empty hhead (hlines.of_subset (List.subset_append_left _ _)) hfront
      · have hkept := trimmed_joinLines middle hstart hempty (hfront start List.mem_cons_self) hlast
        rw [hkept, splitLines_joinLines (by simp) hlines]
        exact h

theorem render_eq (text : String) :
    render text = trimmed (joinLines
      ((collapseEmpty false ((trimmedLines (expand text)).map String.toList)).map
        String.ofList)) := by
  have hlines : (trimmedLines (expand text)).map String.toList =
      (Text.splitLines (replaced text breakMark "\n").toList).map Text.trim := by
    simp only [trimmedLines, splitLines, List.map_map]
    exact List.map_congr_left fun line _ ↦ by simp [toList_trimmed]
  rw [hlines]
  rfl

theorem assemble_of_ne_nil {parts : List String} (h : parts ≠ []) :
    assemble parts none = some ("## Import\n\n" ++ " ".intercalate parts) := by
  cases parts with
  | nil => exact absurd rfl h
  | cons => rfl

/-- An import section begins with its title and an empty line. -/
theorem trimmedLines_expand_titled (text : String) :
    trimmedLines (expand ("## Import\n\n" ++ text)) =
      "## Import" :: "" :: trimmedLines (expand text) := by
  have hheading : expand ("## Import\n\n" ++ text) =
      "## Import" ++ "\n" ++ ("" ++ "\n" ++ expand text) :=
    replaced_append_of_notMem (p := '<') "\n" rfl (by decide) _
  have htitle : trimmedLines "## Import" = ["## Import"] := by decide
  have hempty : trimmedLines "" = [""] := by decide
  rw [hheading, trimmedLines_append_newline, trimmedLines_append_newline, htitle, hempty]
  rfl

theorem importCommand_ne_empty {token : String} (hne : token ≠ "")
    (htrimmed : trimmed token = token) (line : String) : importCommand token line ≠ "" := by
  intro hempty
  obtain ⟨rest, hrest⟩ := startsWith_iff.mp (startsWith_importCommand hne htrimmed line)
  rw [hempty] at hrest
  simp at hrest

/-- The lines of a section with commands are those that are rendered as blocks. -/
theorem holdsBlocks_render_assemble {token : String} (hne : token ≠ "")
    (htrimmed : trimmed token = token) (htoken : '\n' ∉ token.toList)
    (hmark : contains token breakMark = false) {lines : List String} (hlines : AreLines lines)
    (hbreak : ∀ line ∈ lines, isImport line = true →
      contains (importOperands line) breakMark = false)
    (hparts : parts (some token) lines ≠ []) :
    ∃ text, assemble (parts (some token) lines) none = some text ∧
      HoldsBlocks ((lines.filter isImport).map (importCommand token))
        (splitLines (render text)) := by
  have hgoesOn := goesOn_parts htoken hmark hlines hbreak
  refine ⟨_, assemble_of_ne_nil hparts, ?_⟩
  obtain ⟨first, rest, hcut⟩ := List.exists_cons_of_ne_nil hparts
  rw [hcut] at hgoesOn ⊢
  rw [intercalate_eq_append_spaced]
  have hbody : HoldsBlocks ((lines.filter isImport).map (importCommand token))
      (trimmedLines (expand (first ++ spaced rest))) := by
    have hbegin := hgoesOn "" (by decide)
    rwa [String.empty_append, List.map_cons, spaced_cons, String.append_assoc,
      trimmedLines_space_append, ← expand_append_spaced] at hbegin
  have hexpand := trimmedLines_expand_titled (first ++ spaced rest)
  have hall : HoldsBlocks ((lines.filter isImport).map (importCommand token))
      (trimmedLines (expand ("## Import\n\n" ++ (first ++ spaced rest)))) := by
    rw [hexpand]
    have hempty : startsWith "" "```" = false := by decide
    exact (hbody.prose hempty).prose (by decide)
  have hcommands : "" ∉ (lines.filter isImport).map (importCommand token) := by
    intro hmem
    obtain ⟨line, -, hempty⟩ := List.mem_map.mp hmem
    exact importCommand_ne_empty hne htrimmed line hempty
  have hcollapsed := hall.collapseEmpty hcommands false
  rw [render_eq]
  refine hcollapsed.splitLines_trimmed ?_ (by decide : "## Import" ≠ "") ?_ ?_
  · rw [hexpand]
    rfl
  · exact fun line hline ↦ (trimmed_of_mem_trimmedLines (collapsed_subset _ _ hline)).1
  · exact fun line hline ↦ (trimmed_of_mem_trimmedLines (collapsed_subset _ _ hline)).2

/--
In a rendered import section blocks of a shell alternate with prose. Each holds one command, in
the order of the lines with commands, and a command begins with the one of the tool and the token.
A line of plain words keeps them, with the name in place of the address.
-/
theorem holdsBlocks_render {token : String} (hne : token ≠ "") (htrimmed : trimmed token = token)
    (htoken : '\n' ∉ token.toList) (hmark : contains token breakMark = false)
    {lines : List String} (hlines : AreLines lines)
    (hbreak : ∀ line ∈ lines, isImport line = true →
      contains (importOperands line) breakMark = false)
    (hparts : parts (some token) lines ≠ []) :
    (∃ text, assemble (parts (some token) lines) none = some text ∧
        HoldsBlocks ((lines.filter isImport).map (importCommand token))
          (splitLines (render text))) ∧
      (∀ line, startsWith (importCommand token line) ("$ pulumi import " ++ token) = true) ∧
      ∀ line : ImportLine, line.prompt ≠ .percent → isSkipped line.text = false →
        (∀ word ∈ line.address :: line.ids, word.IsPlain) → entityName line.address.word ≠ "" →
          isImport line.text = true ∧
            importCommand token line.text =
              " ".intercalate ("$ pulumi import" :: token :: entityName line.address.word ::
                line.ids.map SpacedWord.word) := by
  refine ⟨holdsBlocks_render_assemble hne htrimmed htoken hmark hlines hbreak hparts,
    startsWith_importCommand hne htrimmed, fun line hprompt hkept hwords hname ↦ ?_⟩
  have hplain := ImportLine.isPlain_of_words hkept hwords
  refine ⟨ImportLine.isImport_text hplain, ?_⟩
  rw [importCommand_text hplain hname, ImportLine.command, ImportLine.importWords]
  cases hcase : line.prompt with
  | none | dollar => rfl
  | percent => exact absurd hcase hprompt

/-- A section with prose around a command in a block. -/
def logsSection : List String :=
  ["Buckets are imported by name:", "```sh", logsCommand.text, "```", "**NOTE:** Once only."]

theorem holdsBlocks_render_logsSection :
    trimmed "aws:s3/bucket:Bucket" = "aws:s3/bucket:Bucket" ∧
      contains "aws:s3/bucket:Bucket" breakMark = false ∧ AreLines logsSection ∧
      (∀ line ∈ logsSection, isImport line = true →
        contains (importOperands line) breakMark = false) ∧
      parts (some "aws:s3/bucket:Bucket") logsSection ≠ [] ∧
      ∃ text, assemble (parts (some "aws:s3/bucket:Bucket") logsSection) none = some text ∧
        HoldsBlocks ["$ pulumi import aws:s3/bucket:Bucket logs eu/logs"]
          (splitLines (render text)) := by
  have htrimmed : trimmed "aws:s3/bucket:Bucket" = "aws:s3/bucket:Bucket" := by decide
  have hmark : contains "aws:s3/bucket:Bucket" breakMark = false := by decide
  have hlines : AreLines logsSection := by decide
  have hbreak : ∀ line ∈ logsSection, isImport line = true →
      contains (importOperands line) breakMark = false := by decide +kernel
  have hparts : parts (some "aws:s3/bucket:Bucket") logsSection ≠ [] := by decide +kernel
  have hrender :=
    (holdsBlocks_render (by decide) htrimmed (by decide) hmark hlines hbreak hparts).1
  have hcommands : (logsSection.filter isImport).map (importCommand "aws:s3/bucket:Bucket") =
      ["$ pulumi import aws:s3/bucket:Bucket logs eu/logs"] := by decide +kernel
  rw [hcommands] at hrender
  exact ⟨htrimmed, hmark, hlines, hbreak, hparts, hrender⟩

/-- A line without a placeholder of which one is left when its fence is taken out. -/
def forgedLine : String := "terraform import b <br```eak>x"

/-- A placeholder that is left when a fence is taken out breaks the line of a command. -/
theorem not_holdsBlocks_render :
    contains forgedLine breakMark = false ∧
      ∃ text, assemble (parts (some "t") [forgedLine]) none = some text ∧
        ∀ commands, ¬ HoldsBlocks commands (splitLines (render text)) := by
  have hparts : parts (some "t") [forgedLine] ≠ [] := by
    have himport : isImport forgedLine = true := by decide +kernel
    rw [parts, List.flatMap_singleton, partsOfLine_of_isImport himport]
    exact List.cons_ne_nil _ _
  have hlines : splitLines (render ("## Import\n\n" ++
      " ".intercalate (parts (some "t") [forgedLine]))) =
        ["## Import", "", "```sh", "$ pulumi import t b", "x", "```"] := by decide +kernel
  refine ⟨by decide, _, assemble_of_ne_nil hparts, fun commands hblocks ↦ ?_⟩
  rw [hlines] at hblocks
  have hblock := (hblocks.of_cons (by decide)).of_cons (by decide)
  exact absurd (hblock.closes (by decide)) (by decide)

end Import

end Markdown

end ProviderDocs
