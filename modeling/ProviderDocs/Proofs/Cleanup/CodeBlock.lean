import Mathlib.Data.List.TakeWhile
import ProviderDocs.Cleanup.Prose
import ProviderDocs.Proofs.Text.Blank
import ProviderDocs.Proofs.Text.Search

/-!
# Prose around fenced code

A text in which fenced code stands between prose, each on lines of its own, is cut exactly at its
fences, up to the blanks behind a closing fence, which its block takes. So what becomes of the prose
does not depend on the code.
-/

namespace ProviderDocs

namespace Cleanup

/-! ## Pieces after cleanup -/

namespace Piece

/-- The piece is prose that cannot be kept. -/
def isElided : Piece → Bool
  | prose text => namesTerraform text
  | code _ => false

/-- Prose is adapted and code is left alone. -/
def adapted (context : Context) : Piece → List Char
  | prose text => adaptProse context text
  | code text => text

/-- The prose of a piece. -/
def prose? : Piece → Option (List Char)
  | prose text => some text
  | code _ => none

end Piece

variable (context : Context)

theorem cleanPiece?_eq (piece : Piece) :
    cleanPiece? context piece = if piece.isElided then none else some (piece.adapted context) := by
  cases piece <;> rfl

theorem mapM_cleanPiece? (list : List Piece) :
    list.mapM (cleanPiece? context) =
      if list.any Piece.isElided then none else some (list.map (Piece.adapted context)) := by
  induction list with
  | nil => rfl
  | cons piece rest ih =>
    rw [List.mapM_cons, cleanPiece?_eq, ih, List.any_cons]
    cases piece.isElided <;> cases rest.any Piece.isElided <;> rfl

theorem cleanText?_eq (text : String) :
    cleanText? context text =
      if (pieces text.toList).any Piece.isElided then none
      else some (String.ofList (Text.trim
        ((pieces text.toList).flatMap (Piece.adapted context)))) := by
  rw [cleanText?, mapM_cleanPiece?, List.flatMap_def]
  split <;> rfl

/-! ## Text laid out with fences -/

/-- The text stops at the end of a line, if it is not empty. -/
def EndsLine (text : List Char) : Prop := ∀ c ∈ text.getLast?, c = '\n'

/-- Code with the info string of its opening fence. -/
structure FencedCode where
  info : List Char
  code : List Char
  backtick_notMem_info : '`' ∉ info
  newline_notMem_info : '\n' ∉ info
  endsLine_code : EndsLine code
  not_fence_infix_code : ¬ fence <:+: code

/-- From the opening fence to the closing one. -/
def FencedCode.text (block : FencedCode) : List Char :=
  fence ++ block.info ++ '\n' :: block.code ++ fence

/-- Prose between which code may stand: none of it has a fence, and where a block follows the prose
stops at the end of a line. -/
def AreApart (prose : List Char) : List (List Char) → Prop
  | [] => ¬ fence <:+: prose
  | behind :: rest => ¬ fence <:+: prose ∧ EndsLine prose ∧ AreApart behind rest

/-- Blocks and the prose behind each; the closing fence of a block ends its line. -/
def blocksText (blocks : List (FencedCode × List Char)) : List Char :=
  blocks.flatMap fun (block, behind) ↦ block.text ++ '\n' :: behind

def fencedText (prose : List Char) (blocks : List (FencedCode × List Char)) : List Char :=
  prose ++ blocksText blocks

/-! ## Blanks behind a fence -/

/-- Up to its last line feed, a text with one is known by what stands before it. -/
theorem reverse_dropWhile_reverse_append (front : List Char) {rest : List Char} (h : '\n' ∉ rest) :
    ((front ++ '\n' :: rest).reverse.dropWhile (· != '\n')).reverse = front ++ ['\n'] := by
  have hrest := Text.ne_of_notMem (mt List.mem_reverse.mp h)
  rw [List.reverse_append, List.reverse_cons, List.append_assoc,
    List.dropWhile_append_of_pos hrest, List.singleton_append,
    List.dropWhile_cons_of_neg (by simp), List.reverse_cons, List.reverse_reverse]

/-- Before a character that is no blank, a block takes the blanks up to their last line feed. -/
theorem closingBlanks?_append_cons {front indent more : List Char} {c : Char}
    (hblank : ∀ b ∈ front ++ '\n' :: indent, Text.isBlank b = true) (hindent : '\n' ∉ indent)
    (hc : Text.isBlank c = false) :
    closingBlanks? (front ++ '\n' :: indent ++ c :: more) = some front := by
  have hspan := Text.span_append hblank hc more
  rw [closingBlanks?, hspan]
  have hfeed := reverse_dropWhile_reverse_append front hindent
  simp only [List.isEmpty_cons, Bool.false_eq_true, if_false, hfeed]
  split
  · next hnil => simp at hnil
  · next upToFeed hcons => simp

theorem closingBlanks?_of_blank {text : List Char} (h : text.all Text.isBlank = true) :
    closingBlanks? text = some text := by
  have hend : text.dropWhile Text.isBlank = [] := (Text.dropBlank_eq_nil_iff text).mpr h
  have hread : text.takeWhile Text.isBlank = text :=
    List.takeWhile_eq_self_iff.mpr (List.all_eq_true.mp h)
  rw [closingBlanks?, Text.span, hend, hread]
  rfl

/-- All blanks at the front of some lines are read up to the last line feed among them. -/
theorem exists_feed (behind : List Char) :
    ∃ front indent rest, '\n' :: behind = front ++ '\n' :: indent ++ rest ∧ '\n' ∉ indent ∧
      (∀ b ∈ front ++ '\n' :: indent, Text.isBlank b = true) ∧
      ∀ c ∈ rest.head?, Text.isBlank c = false := by
  obtain ⟨front, indent, hread, hindent⟩ := Text.exists_eq_append_cons_of_mem
    (List.mem_cons_self (a := '\n') (l := behind.takeWhile Text.isBlank))
  refine ⟨front, indent, behind.dropWhile Text.isBlank, ?_, hindent, ?_, fun c hc ↦ ?_⟩
  · rw [← hread, List.cons_append, List.takeWhile_append_dropWhile]
  · rw [← hread]
    exact List.forall_mem_cons.mpr ⟨by decide, List.all_eq_true.mp List.all_takeWhile⟩
  · have hhead := List.head?_dropWhile_not Text.isBlank behind
    rwa [Option.mem_def.mp hc] at hhead

/-- What comes behind the prose: the end of the text, or the next fence. -/
def Follows (isLast : Bool) (rest : List Char) : Prop :=
  if isLast then rest = [] else fence <+: rest

theorem exists_closingBlanks? (behind : List Char) (isLast : Bool) :
    ∃ taken left, taken ++ left = '\n' :: behind ∧ taken.all Text.isBlank = true ∧
      ∀ rest, Follows isLast rest → closingBlanks? ('\n' :: behind ++ rest) = some taken := by
  obtain ⟨front, indent, rest, heq, hindent, hblank, hhead⟩ := exists_feed behind
  have hfront : front.all Text.isBlank = true :=
    List.all_eq_true.mpr fun b hb ↦ hblank b (List.mem_append_left _ hb)
  cases rest with
  | cons c more =>
    refine ⟨front, '\n' :: indent ++ c :: more, by simp [heq], hfront, fun rest _ ↦ ?_⟩
    rw [heq, List.append_assoc, List.cons_append]
    exact closingBlanks?_append_cons hblank hindent (hhead c rfl)
  | nil =>
    rw [List.append_nil] at heq
    rw [heq]
    cases isLast with
    | true =>
      refine ⟨front ++ '\n' :: indent, [], List.append_nil _, List.all_eq_true.mpr hblank, ?_⟩
      rintro rest rfl
      rw [List.append_nil]
      exact closingBlanks?_of_blank (List.all_eq_true.mpr hblank)
    | false =>
      refine ⟨front, '\n' :: indent, rfl, hfront, ?_⟩
      rintro rest ⟨more, rfl⟩
      exact closingBlanks?_append_cons hblank hindent (by decide)

/-- The blanks that a block takes from what stands behind its closing fence, where the text ends or
another fence comes next. -/
def blanksTaken (behind : List Char) (isLast : Bool) : List Char :=
  (closingBlanks? ('\n' :: behind ++ if isLast then [] else fence)).getD []

/-- What is left for the prose. -/
def proseLeft (behind : List Char) (isLast : Bool) : List Char :=
  ('\n' :: behind).drop (blanksTaken behind isLast).length

theorem blanksTaken_spec (behind : List Char) (isLast : Bool) :
    blanksTaken behind isLast ++ proseLeft behind isLast = '\n' :: behind ∧
      (blanksTaken behind isLast).all Text.isBlank = true ∧
      ∀ rest, Follows isLast rest →
        closingBlanks? ('\n' :: behind ++ rest) = some (blanksTaken behind isLast) := by
  obtain ⟨taken, left, heq, hblank, hread⟩ := exists_closingBlanks? behind isLast
  have hfollows : Follows isLast (if isLast then [] else fence) := by
    cases isLast
    · exact List.prefix_rfl
    · rfl
  have htaken : blanksTaken behind isLast = taken := by
    rw [blanksTaken, hread _ hfollows, Option.getD_some]
  refine ⟨?_, htaken ▸ hblank, htaken ▸ hread⟩
  rw [proseLeft, htaken, ← heq, List.drop_left]

/-! ## Fences -/

namespace EndsLine

theorem newline_cons {text : List Char} (h : EndsLine text) : EndsLine ('\n' :: text) := by
  cases text with
  | nil => simp [EndsLine]
  | cons c text => simpa [EndsLine] using h

theorem of_append {front text : List Char} (h : EndsLine (front ++ text)) : EndsLine text := by
  intro c hc
  refine h c ?_
  rw [List.getLast?_append]
  simp [Option.mem_def.mp hc]

theorem exists_eq_append {text : List Char} (h : EndsLine text) (hne : text ≠ []) :
    ∃ front, text = front ++ ['\n'] := by
  obtain ⟨c, hc⟩ := Option.ne_none_iff_exists'.mp (mt List.getLast?_eq_none_iff.mp hne)
  obtain rfl := h c hc
  exact List.getLast?_eq_some_iff.mp hc

end EndsLine

/-- Inside a text no fence begins, whatever follows it. -/
def BeginsNoFence (text rest : List Char) : Prop :=
  ∀ last, last <:+ text → last ≠ [] → ¬ fence <+: last ++ rest

theorem beginsNoFence_nil {text : List Char} (h : ¬ fence <:+: text) : BeginsNoFence text [] := by
  rintro last hlast - hbegins
  rw [List.append_nil] at hbegins
  exact h (hbegins.isInfix.trans hlast.isInfix)

theorem beginsNoFence_of_endsLine {text : List Char} (h : ¬ fence <:+: text) (hends : EndsLine text)
    (rest : List Char) : BeginsNoFence text rest := by
  rintro last ⟨front, rfl⟩ hne hbegins
  obtain ⟨line, rfl⟩ := hends.of_append.exists_eq_append hne
  rw [List.append_assoc, List.singleton_append, Text.prefix_append_cons_iff (by decide)] at hbegins
  exact h (hbegins.isInfix.trans ⟨front, ['\n'], by simp⟩)

theorem BeginsNoFence.of_cons {c : Char} {text rest : List Char}
    (h : BeginsNoFence (c :: text) rest) :
    ¬ fence <+: c :: (text ++ rest) ∧ BeginsNoFence text rest :=
  ⟨h _ List.suffix_rfl (List.cons_ne_nil c text),
    fun last hlast ↦ h last (hlast.trans (List.suffix_cons c text))⟩

theorem not_fence_infix_newline_cons {text : List Char} (h : ¬ fence <:+: text) :
    ¬ fence <:+: '\n' :: text := by
  intro hfound
  rcases (Text.infix_append_cons_iff (by decide) (by decide) [] text).mp hfound with hnil | htext
  · exact absurd (List.infix_nil.mp hnil) (by decide)
  · exact h htext

theorem after?_fence_eq_none {text : List Char} (h : ¬ fence <+: text) :
    Text.after? fence text = none := by
  rwa [← Option.not_isSome_iff_eq_none, Text.isSome_after?_iff]

theorem cutPieces_append {text rest : List Char} (h : BeginsNoFence text rest)
    (before : List Char) :
    cutPieces before (text ++ rest) = cutPieces (text.reverse ++ before) rest := by
  induction text generalizing before with
  | nil => rfl
  | cons c text ih =>
    obtain ⟨hbegins, htext⟩ := h.of_cons
    have hnone : codeBlock? (c :: (text ++ rest)) = none := by
      rw [codeBlock?, after?_fence_eq_none hbegins]
      rfl
    rw [List.cons_append, cutPieces, hnone]
    simp only [ih htext, List.reverse_cons, List.append_assoc, List.singleton_append]

theorem blockEnd?_append {text rest : List Char} (h : BeginsNoFence text rest) :
    blockEnd? (text ++ rest) =
      (blockEnd? rest).map fun (block, behind) ↦ (text ++ block, behind) := by
  induction text with
  | nil => simp
  | cons c text ih =>
    obtain ⟨hbegins, htext⟩ := h.of_cons
    rw [List.cons_append, blockEnd?, after?_fence_eq_none hbegins, ih htext]
    simp [Function.comp_def]

theorem blockEnd?_fence {rest blanks : List Char} (h : closingBlanks? rest = some blanks) :
    blockEnd? (fence ++ rest) = some (fence ++ blanks, rest.drop blanks.length) := by
  have hafter : Text.after? fence (fence ++ rest) = some rest := Text.after?_append ..
  have hcons : fence ++ rest = '`' :: (['`', '`'] ++ rest) := rfl
  rw [hcons] at hafter ⊢
  rw [blockEnd?, hafter]
  simp [h]

/-- A block is read up to the blanks behind its closing fence. -/
theorem codeBlock?_text (block : FencedCode) {rest blanks : List Char}
    (h : closingBlanks? rest = some blanks) :
    codeBlock? (block.text ++ rest) = some (block.text ++ blanks, rest.drop blanks.length) := by
  have hcode : BeginsNoFence ('\n' :: block.code) (fence ++ rest) :=
    beginsNoFence_of_endsLine (not_fence_infix_newline_cons block.not_fence_infix_code)
      block.endsLine_code.newline_cons _
  have htext : block.text ++ rest =
      fence ++ (block.info ++ '\n' :: (block.code ++ (fence ++ rest))) := by
    simp [FencedCode.text]
  have hbody : blockEnd? ('\n' :: (block.code ++ (fence ++ rest))) =
      some ('\n' :: block.code ++ (fence ++ blanks), rest.drop blanks.length) := by
    rw [← List.cons_append, blockEnd?_append hcode, blockEnd?_fence h]
    rfl
  rw [htext, codeBlock?, Text.after?_append]
  simp [Text.span_append_cons block.newline_notMem_info, hbody, FencedCode.text]

/-! ## Pieces -/

/-- The pieces that the text is cut into. -/
def fencedPieces (prose : List Char) : List (FencedCode × List Char) → List Piece
  | [] => [.prose prose]
  | (block, behind) :: rest =>
    .prose prose :: .code (block.text ++ blanksTaken behind rest.isEmpty) ::
      fencedPieces (proseLeft behind rest.isEmpty) rest

theorem follows_blocksText (blocks : List (FencedCode × List Char)) :
    Follows blocks.isEmpty (blocksText blocks) := by
  cases blocks with
  | nil => rfl
  | cons entry rest =>
    refine ⟨entry.1.info ++ '\n' :: entry.1.code ++ fence ++ '\n' :: entry.2 ++ blocksText rest, ?_⟩
    simp [blocksText, FencedCode.text]

theorem AreApart.beginsNoFence {prose : List Char} {blocks : List (FencedCode × List Char)}
    (h : AreApart prose (blocks.map (·.2))) : BeginsNoFence prose (blocksText blocks) := by
  cases blocks with
  | nil => exact beginsNoFence_nil h
  | cons entry rest => exact beginsNoFence_of_endsLine h.1 h.2.1 _

/-- What a block leaves of the prose behind it may stand there as well. -/
theorem AreApart.proseLeft {behind : List Char} {rest : List (List Char)}
    (h : AreApart behind rest) (isLast : Bool) : AreApart (proseLeft behind isLast) rest := by
  obtain ⟨hsplit, -, -⟩ := blanksTaken_spec behind isLast
  have hfence (hbehind : ¬ fence <:+: behind) : ¬ fence <:+: Cleanup.proseLeft behind isLast := by
    intro hfound
    refine not_fence_infix_newline_cons hbehind ?_
    rw [← hsplit]
    exact hfound.trans (List.suffix_append ..).isInfix
  cases rest with
  | nil => exact hfence h
  | cons next rest =>
    obtain ⟨hbehind, hends, hrest⟩ := h
    refine ⟨hfence hbehind, ?_, hrest⟩
    have hlines := hends.newline_cons
    rw [← hsplit] at hlines
    exact hlines.of_append

theorem cutPieces_block (block : FencedCode) {rest blanks : List Char}
    (h : closingBlanks? rest = some blanks) (before : List Char) :
    cutPieces before (block.text ++ rest) =
      .prose before.reverse :: .code (block.text ++ blanks) ::
        cutPieces [] (rest.drop blanks.length) := by
  have hread := codeBlock?_text block h
  obtain ⟨c, text, htext⟩ : ∃ c text, block.text = c :: text := ⟨_, _, rfl⟩
  rw [htext, List.cons_append] at hread ⊢
  have hlength : (rest.drop blanks.length).length ≤ (text ++ rest).length := by
    simp
    omega
  rw [cutPieces, hread]
  simp only [hlength, dif_pos]

theorem pieces_fencedText {prose : List Char} {blocks : List (FencedCode × List Char)}
    (h : AreApart prose (blocks.map (·.2))) :
    pieces (fencedText prose blocks) = fencedPieces prose blocks := by
  induction blocks generalizing prose with
  | nil =>
    have hnone : BeginsNoFence prose (blocksText []) := h.beginsNoFence
    rw [pieces, fencedText, cutPieces_append hnone]
    simp [blocksText, cutPieces, fencedPieces]
  | cons entry rest ih =>
    obtain ⟨block, behind⟩ := entry
    obtain ⟨hsplit, -, hread⟩ := blanksTaken_spec behind rest.isEmpty
    have hblanks := hread _ (follows_blocksText rest)
    have hleft : ('\n' :: behind ++ blocksText rest).drop (blanksTaken behind rest.isEmpty).length =
        fencedText (proseLeft behind rest.isEmpty) rest := by
      rw [← hsplit, List.append_assoc, List.drop_left, fencedText]
    have htext : blocksText ((block, behind) :: rest) =
        block.text ++ ('\n' :: behind ++ blocksText rest) := by
      simp [blocksText]
    have hnone : BeginsNoFence prose (blocksText ((block, behind) :: rest)) := h.beginsNoFence
    rw [pieces, fencedText, cutPieces_append hnone, htext, cutPieces_block block hblanks,
      hleft, ← pieces, ih (h.2.2.proseLeft _), List.append_nil, List.reverse_reverse, fencedPieces]

/-! ## Cleanup -/

theorem namesTerraform_append_of_blank {blanks : List Char} (h : blanks.all Text.isBlank = true)
    (text : List Char) : namesTerraform (blanks ++ text) = namesTerraform text := by
  have hoccurs {c : Char} (hc : Text.isBlank c = false) (name : List Char) :
      c :: name <:+: blanks ++ text ↔ c :: name <:+: text := by
    have hapart : c ∉ blanks := Text.notMem_of_class (List.all_eq_true.mp h) hc
    exact ⟨Text.infix_of_infix_append hapart, fun hfound ↦
      hfound.trans (List.suffix_append ..).isInfix⟩
  rw [Bool.eq_iff_iff, namesTerraform, namesTerraform, Bool.or_eq_true, Bool.or_eq_true]
  simp only [Text.occursIn_iff]
  exact or_congr (hoccurs (by decide) _) (hoccurs (by decide) _)

theorem namesTerraform_proseLeft (behind : List Char) (isLast : Bool) :
    namesTerraform (proseLeft behind isLast) = namesTerraform behind := by
  obtain ⟨hsplit, hblank, -⟩ := blanksTaken_spec behind isLast
  have hfeed : ['\n'].all Text.isBlank = true := by decide
  rw [← namesTerraform_append_of_blank hblank, hsplit]
  exact namesTerraform_append_of_blank hfeed behind

theorem any_isElided_fencedPieces (prose : List Char) (blocks : List (FencedCode × List Char)) :
    (fencedPieces prose blocks).any Piece.isElided =
      (prose :: blocks.map (·.2)).any namesTerraform := by
  induction blocks generalizing prose with
  | nil => rfl
  | cons entry rest ih =>
    rw [fencedPieces, List.any_cons, List.any_cons, ih, List.any_cons, namesTerraform_proseLeft]
    rfl

/-- The prose that is left behind each block. -/
def prosesLeft : List (List Char) → List (List Char)
  | [] => []
  | behind :: rest => proseLeft behind rest.isEmpty :: prosesLeft rest

theorem filterMap_prose?_fencedPieces (prose : List Char)
    (blocks : List (FencedCode × List Char)) :
    (fencedPieces prose blocks).filterMap Piece.prose? =
      prose :: prosesLeft (blocks.map (·.2)) := by
  induction blocks generalizing prose with
  | nil => rfl
  | cons entry rest ih =>
    have hrest := ih (proseLeft entry.2 rest.isEmpty)
    rw [List.map_cons, prosesLeft, List.isEmpty_map, ← hrest]
    rfl

/-- The prose of a text after cleanup, piece by piece. -/
def adaptedProse (text : List Char) : List (List Char) :=
  ((pieces text).filterMap Piece.prose?).map (adaptProse context)

/-- The text with its prose adapted and its blocks as they were, each with its blanks. -/
def adaptedText (prose : List Char) : List (FencedCode × List Char) → List Char
  | [] => adaptProse context prose
  | (block, behind) :: rest =>
    adaptProse context prose ++ block.text ++ blanksTaken behind rest.isEmpty ++
      adaptedText (proseLeft behind rest.isEmpty) rest

theorem flatMap_adapted_fencedPieces (prose : List Char)
    (blocks : List (FencedCode × List Char)) :
    (fencedPieces prose blocks).flatMap (Piece.adapted context) =
      adaptedText context prose blocks := by
  induction blocks generalizing prose with
  | nil => simp [fencedPieces, adaptedText, Piece.adapted]
  | cons entry rest ih => simp [fencedPieces, adaptedText, Piece.adapted, ih]

section FencedText

variable {prose : List Char} {blocks : List (FencedCode × List Char)}
  (h : AreApart prose (blocks.map (·.2)))

include h

theorem cleanText?_fencedText_eq :
    cleanText? context (String.ofList (fencedText prose blocks)) =
      if (prose :: blocks.map (·.2)).any namesTerraform then none
      else some (String.ofList (Text.trim (adaptedText context prose blocks))) := by
  rw [cleanText?_eq, String.toList_ofList, pieces_fencedText h, any_isElided_fencedPieces,
    flatMap_adapted_fencedPieces]

theorem adaptedProse_fencedText :
    adaptedProse context (fencedText prose blocks) =
      (prose :: prosesLeft (blocks.map (·.2))).map (adaptProse context) := by
  rw [adaptedProse, pieces_fencedText h, filterMap_prose?_fencedPieces]

/--
A text is given up exactly for its prose. Otherwise its prose is adapted and each block stays as it
is, up to the blanks behind its closing fence. Other code in the blocks changes nothing about it.
-/
theorem cleanText?_fencedText :
    (cleanText? context (String.ofList (fencedText prose blocks)) = none ↔
      ∃ text ∈ prose :: blocks.map (·.2), namesTerraform text = true) ∧
    ((∀ text ∈ prose :: blocks.map (·.2), namesTerraform text = false) →
      cleanText? context (String.ofList (fencedText prose blocks)) =
        some (String.ofList (Text.trim (adaptedText context prose blocks)))) ∧
    (∀ behind isLast, (blanksTaken behind isLast).all Text.isBlank = true ∧
      blanksTaken behind isLast ++ proseLeft behind isLast = '\n' :: behind) ∧
    ∀ others, others.map (·.2) = blocks.map (·.2) →
      (cleanText? context (String.ofList (fencedText prose others))).isNone =
        (cleanText? context (String.ofList (fencedText prose blocks))).isNone ∧
      adaptedProse context (fencedText prose others) =
        adaptedProse context (fencedText prose blocks) := by
  refine ⟨?_, fun hkept ↦ ?_, fun behind isLast ↦ ?_, fun others hothers ↦ ?_⟩
  · rw [cleanText?_fencedText_eq context h, ← List.any_eq_true]
    cases (prose :: blocks.map (·.2)).any namesTerraform <;> simp
  · have hnone : (prose :: blocks.map (·.2)).any namesTerraform = false :=
      List.any_eq_false.mpr fun text htext ↦ Bool.eq_false_iff.mp (hkept text htext)
    rw [cleanText?_fencedText_eq context h, hnone]
    rfl
  · obtain ⟨hsplit, hblank, -⟩ := blanksTaken_spec behind isLast
    exact ⟨hblank, hsplit⟩
  · have hapart : AreApart prose (others.map (·.2)) := hothers ▸ h
    rw [cleanText?_fencedText_eq context h, cleanText?_fencedText_eq context hapart,
      adaptedProse_fencedText context h, adaptedProse_fencedText context hapart, hothers]
    refine ⟨?_, rfl⟩
    split <;> rfl

end FencedText

/-- A text without fences is given up, or adapted as a whole. -/
theorem cleanText?_of_not_fence {text : List Char} (h : ¬ fence <:+: text) :
    cleanText? context (String.ofList text) =
      if namesTerraform text then none
      else some (String.ofList (Text.trim (adaptProse context text))) := by
  have hnone : AreApart text (([] : List (FencedCode × List Char)).map (·.2)) := h
  have hclean := cleanText?_fencedText_eq context hnone
  have htext : fencedText text [] = text := List.append_nil text
  rw [htext, List.map_nil, List.any_cons, List.any_nil, Bool.or_false] at hclean
  exact hclean

/-- An example that names Terraform in its code. -/
def poolExample : FencedCode where
  info := "hcl".toList
  code := "# terraform\nnode_count = 1\n".toList
  backtick_notMem_info := by decide
  newline_notMem_info := by decide
  endsLine_code := by
    rintro c ⟨⟩
    rfl
  not_fence_infix_code := by
    rw [← Text.occursIn_iff]
    decide

theorem cleanText?_fencedText_poolExample :
    AreApart "-> Set `node_count`.\n\n".toList ["\n\nA pool.\n".toList] ∧
      cleanText? ⟨.nodejs, .empty, ∅⟩
          "-> Set `node_count`.\n\n```hcl\n# terraform\nnode_count = 1\n```\n\n\nA pool.\n" =
        some "> Set `nodeCount`.\n\n```hcl\n# terraform\nnode_count = 1\n```\n\n\nA pool." := by
  have hapart : AreApart "-> Set `node_count`.\n\n".toList ["\n\nA pool.\n".toList] := by
    refine ⟨?_, ?_, ?_⟩
    · rw [← Text.occursIn_iff]
      decide
    · rintro c ⟨⟩
      rfl
    · rw [AreApart, ← Text.occursIn_iff]
      decide
  refine ⟨hapart, ?_⟩
  have hblocks : AreApart "-> Set `node_count`.\n\n".toList
      ([(poolExample, "\n\nA pool.\n".toList)].map (·.2)) := hapart
  have hcleaned := (cleanText?_fencedText ⟨.nodejs, .empty, ∅⟩ hblocks).2.1 (by decide)
  refine hcleaned.trans ?_
  decide +kernel

end Cleanup

end ProviderDocs
