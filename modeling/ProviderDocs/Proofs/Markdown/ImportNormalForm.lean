import Mathlib.Data.List.Chain
import Mathlib.Data.List.DropRight
import ProviderDocs.Proofs.Markdown.ImportText

/-!
# The normal form of import texts

A rendered import text has no placeholder. Its lines are trimmed, and blank ones stand alone and
between others. Such a text is rendered as it is, so rendering twice is rendering once, and no line
that holds something is added, lost or moved.
-/

namespace ProviderDocs

namespace Markdown

namespace Import

/-! ## Tidy lines -/

/-- The lines of a text. An empty text has none. -/
def linesOf (text : String) : List String := if text = "" then [] else splitLines text

/-- No two lines in a row are blank. -/
def IsSpaced (lines : List String) : Prop :=
  lines.IsChain fun above below ↦ isBlankLine above = false ∨ isBlankLine below = false

/-- All lines are trimmed, no two in a row are blank, and neither the first nor the last is. -/
structure IsTidy (lines : List String) : Prop where
  trimmed : ∀ line ∈ lines, trimmed line = line
  spaced : IsSpaced lines
  head : ∀ line ∈ lines.head?, isBlankLine line = false
  last : ∀ line ∈ lines.getLast?, isBlankLine line = false

/-- The text has the form of rendered ones. -/
structure IsRendered (text : String) : Prop where
  noMark : contains text breakMark = false
  tidy : IsTidy (linesOf text)

/-- A text of tidy lines is trimmed. -/
theorem IsTidy.trimmed_joinLines {lines : List String} (h : IsTidy lines) :
    ProviderDocs.trimmed (joinLines lines) = joinLines lines := by
  have hne {line : String} (hline : isBlankLine line = false) : line ≠ "" := by
    intro hempty
    rw [hempty] at hline
    exact Bool.false_ne_true hline.symm
  cases lines with
  | nil => rfl
  | cons first rest =>
    have hfirst := hne (h.head first rfl)
    cases rest using List.reverseRecOn with
    | nil => rw [joinLines_singleton, h.trimmed first List.mem_cons_self]
    | append_singleton middle last =>
      have hend : last ∈ (first :: middle ++ [last]).getLast? := List.getLast?_concat ..
      exact ProviderDocs.trimmed_joinLines middle hfirst (hne (h.last last hend))
        (h.trimmed first List.mem_cons_self) (h.trimmed last (List.mem_of_getLast? hend))

theorem IsTidy.linesOf_joinLines {lines : List String} (h : IsTidy lines)
    (hlines : AreLines lines) : linesOf (joinLines lines) = lines := by
  cases lines with
  | nil => rfl
  | cons first rest =>
    have hne : joinLines (first :: rest) ≠ "" := by
      intro hempty
      have hcut := splitLines_joinLines (List.cons_ne_nil first rest) hlines
      rw [hempty] at hcut
      obtain rfl := (List.cons.inj hcut).1
      exact absurd (h.head "" rfl) (by decide)
    rw [linesOf, if_neg hne, splitLines_joinLines (List.cons_ne_nil first rest) hlines]

/-! ## Blank lines in a row -/

/-- Of several empty lines on end only the first one stays. -/
def collapsed (afterEmpty : Bool) (lines : List String) : List String :=
  (collapseEmpty afterEmpty (lines.map String.toList)).map String.ofList

theorem collapsed_cons {line : String} (h : trimmed line = line) (afterEmpty : Bool)
    (rest : List String) :
    collapsed afterEmpty (line :: rest) =
      if isBlankLine line && afterEmpty then collapsed true rest
      else line :: collapsed (isBlankLine line) rest := by
  have hempty : line.toList.isEmpty = isBlankLine line := by
    rw [← isEmpty_trimmed, h, Bool.eq_iff_iff, List.isEmpty_iff, String.toList_eq_nil_iff,
      String.isEmpty_iff]
  rw [collapsed, List.map_cons, collapseEmpty, hempty]
  split
  case isTrue => rfl
  case isFalse => rw [List.map_cons, String.ofList_toList]; rfl

/-- No blank line is left behind another, or at the top when one was kept before. -/
theorem isSpaced_collapsed {lines : List String} (h : ∀ line ∈ lines, trimmed line = line)
    (afterEmpty : Bool) :
    IsSpaced (collapsed afterEmpty lines) ∧
      (afterEmpty = true → ∀ line ∈ (collapsed afterEmpty lines).head?,
        isBlankLine line = false) := by
  -- What is at the top is carried along, for a blank line is kept only below one that is not.
  induction lines generalizing afterEmpty with
  | nil => exact ⟨.nil, fun _ line hline ↦ absurd hline (Option.not_mem_none line)⟩
  | cons line rest ih =>
    obtain ⟨hline, hrest⟩ := List.forall_mem_cons.mp h
    rw [collapsed_cons hline]
    cases hblank : isBlankLine line with
    | false =>
      obtain ⟨hchain, -⟩ := ih hrest false
      refine ⟨hchain.cons fun below _ ↦ .inl hblank, fun _ first hfirst ↦ ?_⟩
      exact Option.some.inj hfirst ▸ hblank
    | true =>
      obtain ⟨hchain, hhead⟩ := ih hrest true
      cases afterEmpty with
      | true => exact ⟨hchain, hhead⟩
      | false =>
        exact ⟨hchain.cons fun below hbelow ↦ .inr (hhead rfl below hbelow), nofun⟩

theorem nonblankLines_collapsed {lines : List String} (h : ∀ line ∈ lines, trimmed line = line)
    (afterEmpty : Bool) : nonblankLines (collapsed afterEmpty lines) = nonblankLines lines := by
  induction lines generalizing afterEmpty with
  | nil => rfl
  | cons line rest ih =>
    obtain ⟨hline, hrest⟩ := List.forall_mem_cons.mp h
    rw [collapsed_cons hline]
    split
    case isTrue hblank =>
      rw [nonblankLines_cons_of_blank (Bool.and_eq_true_iff.mp hblank).1, ih hrest]
    case isFalse =>
      rw [nonblankLines_cons, ih hrest, ← nonblankLines_cons]

/-- Lines without two blank ones in a row stay. -/
theorem collapsed_eq_self {lines : List String} (h : ∀ line ∈ lines, trimmed line = line)
    (hspaced : IsSpaced lines) {afterEmpty : Bool}
    (hhead : afterEmpty = true → ∀ line ∈ lines.head?, isBlankLine line = false) :
    collapsed afterEmpty lines = lines := by
  induction lines generalizing afterEmpty with
  | nil => rfl
  | cons line rest ih =>
    obtain ⟨hline, hrest⟩ := List.forall_mem_cons.mp h
    obtain ⟨hbelow, hchain⟩ := List.isChain_cons.mp hspaced
    have hkept : (isBlankLine line && afterEmpty) = false := by
      cases afterEmpty with
      | true => rw [hhead rfl line rfl, Bool.false_and]
      | false => exact Bool.and_false _
    have hnext : isBlankLine line = true → ∀ below ∈ rest.head?, isBlankLine below = false :=
      fun hblank below hmem ↦ (hbelow below hmem).resolve_left (by rw [hblank]; decide)
    rw [collapsed_cons hline, hkept, ih hrest hchain hnext]
    rfl

/-! ## Blank lines at the ends -/

/-- The lines between the first and the last that are not blank. -/
def withoutBlankEnds (lines : List String) : List String :=
  (lines.dropWhile isBlankLine).rdropWhile isBlankLine

theorem withoutBlankEnds_isInfix (lines : List String) : withoutBlankEnds lines <:+: lines :=
  (List.rdropWhile_prefix isBlankLine _).isInfix.trans (List.dropWhile_suffix isBlankLine).isInfix

theorem trimmed_joinLines_dropWhile (lines : List String) :
    trimmed (joinLines (lines.dropWhile isBlankLine)) = trimmed (joinLines lines) := by
  induction lines with
  | nil => rfl
  | cons line rest ih =>
    rw [List.dropWhile_cons]
    split
    case isTrue hblank => rw [ih, trimmed_joinLines_cons_of_blank hblank]
    case isFalse => rfl

theorem trimmed_joinLines_rdropWhile (lines : List String) :
    trimmed (joinLines (lines.rdropWhile isBlankLine)) = trimmed (joinLines lines) := by
  induction lines using List.reverseRecOn with
  | nil => rfl
  | append_singleton front line ih =>
    rw [List.rdropWhile_concat]
    split
    case isTrue hblank => rw [ih, trimmed_joinLines_append_of_blank hblank]
    case isFalse => rfl

theorem trimmed_joinLines_withoutBlankEnds (lines : List String) :
    trimmed (joinLines (withoutBlankEnds lines)) = trimmed (joinLines lines) := by
  rw [withoutBlankEnds, trimmed_joinLines_rdropWhile, trimmed_joinLines_dropWhile]

theorem nonblankLines_dropWhile (lines : List String) :
    nonblankLines (lines.dropWhile isBlankLine) = nonblankLines lines := by
  induction lines with
  | nil => rfl
  | cons line rest ih =>
    rw [List.dropWhile_cons]
    split
    case isTrue hblank => rw [ih, nonblankLines_cons_of_blank hblank]
    case isFalse => rfl

theorem nonblankLines_withoutBlankEnds (lines : List String) :
    nonblankLines (withoutBlankEnds lines) = nonblankLines lines := by
  have hend (lines : List String) :
      nonblankLines (lines.rdropWhile isBlankLine) = nonblankLines lines := by
    rw [List.rdropWhile, nonblankLines, List.filter_reverse, ← nonblankLines,
      nonblankLines_dropWhile, nonblankLines, List.filter_reverse, List.reverse_reverse,
      ← nonblankLines]
  rw [withoutBlankEnds, hend, nonblankLines_dropWhile]

theorem isTidy_withoutBlankEnds {lines : List String} (h : ∀ line ∈ lines, trimmed line = line)
    (hspaced : IsSpaced lines) : IsTidy (withoutBlankEnds lines) := by
  have hwithin := withoutBlankEnds_isInfix lines
  refine ⟨fun line hline ↦ ?_, List.IsChain.infix hspaced hwithin, ?_, ?_⟩
  · exact h line (hwithin.subset hline)
  · intro line hline
    have hbegins : withoutBlankEnds lines <+: lines.dropWhile isBlankLine :=
      List.rdropWhile_prefix isBlankLine _
    obtain ⟨rest, hrest⟩ := hbegins
    have hhead := List.head?_dropWhile_not isBlankLine lines
    rw [← hrest, List.head?_append, Option.mem_def.mp hline] at hhead
    simpa using hhead
  · intro line hline
    obtain ⟨hne, rfl⟩ := List.mem_getLast?_eq_getLast hline
    exact Bool.eq_false_iff.mpr (List.rdropWhile_last_not isBlankLine _ hne)

/-! ## Rendering -/

/-- The lines that are left of an import text. -/
def renderedLines (text : String) : List String :=
  withoutBlankEnds (collapsed false (trimmedLines (expand text)))

theorem renderedLines_subset (text : String) : renderedLines text ⊆ trimmedLines (expand text) :=
  fun _ hline ↦ collapsed_subset false _ ((withoutBlankEnds_isInfix _).subset hline)

theorem areLines_renderedLines (text : String) : AreLines (renderedLines text) :=
  fun _ hline ↦ (trimmed_of_mem_trimmedLines (renderedLines_subset text hline)).1

theorem isTidy_renderedLines (text : String) : IsTidy (renderedLines text) := by
  have htrimmed : ∀ line ∈ trimmedLines (expand text), trimmed line = line :=
    fun line hline ↦ (trimmed_of_mem_trimmedLines hline).2
  apply isTidy_withoutBlankEnds
  · exact fun line hline ↦ htrimmed line (collapsed_subset false _ hline)
  · exact (isSpaced_collapsed htrimmed false).1

theorem render_eq_joinLines (text : String) : render text = joinLines (renderedLines text) := by
  calc
    render text = trimmed (joinLines (collapsed false (trimmedLines (expand text)))) :=
      render_eq text
    _ = trimmed (joinLines (renderedLines text)) :=
      (trimmed_joinLines_withoutBlankEnds _).symm
    _ = joinLines (renderedLines text) := (isTidy_renderedLines text).trimmed_joinLines

theorem linesOf_render (text : String) : linesOf (render text) = renderedLines text := by
  rw [render_eq_joinLines]
  exact (isTidy_renderedLines text).linesOf_joinLines (areLines_renderedLines text)

theorem nonblankLines_renderedLines (text : String) :
    nonblankLines (renderedLines text) = nonblankLines (trimmedLines (expand text)) := by
  rw [renderedLines, nonblankLines_withoutBlankEnds]
  exact nonblankLines_collapsed (fun line hline ↦ (trimmed_of_mem_trimmedLines hline).2) false

/-- Without a placeholder in the pieces, none comes about where they are joined or trimmed. -/
theorem not_contains_render {text : String} {pieces : List String}
    (hexpand : expand text = joinLines pieces)
    (hpieces : ∀ piece ∈ pieces, contains piece breakMark = false) :
    contains (render text) breakMark = false := by
  have hjoined : contains (expand text) breakMark = false := by
    rw [hexpand]
    exact contains_joinLines (by decide) (by decide) hpieces
  rw [render_eq_joinLines]
  apply contains_joinLines (by decide) (by decide)
  intro line hline
  rw [Bool.eq_false_iff] at hjoined ⊢
  exact mt (contains_of_mem_trimmedLines (renderedLines_subset text hline)) hjoined

theorem isRendered_render (text : String) : IsRendered (render text) := by
  obtain ⟨pieces, -, -, hexpand, hpieces⟩ :=
    exists_pieces_of_replaced "\n" (by decide : breakMark ≠ "") text
  refine ⟨not_contains_render hexpand hpieces, ?_⟩
  rw [linesOf_render]
  exact isTidy_renderedLines text

/-- A text in the form of rendered ones stays as it is. -/
theorem IsRendered.render_eq_self {text : String} (h : IsRendered text) : render text = text := by
  have hexpand : expand text = text := replaced_eq_self h.noMark "\n"
  by_cases hempty : text = ""
  · rw [hempty]
    decide +kernel
  · have htidy : IsTidy (splitLines text) := by
      have hlines := h.tidy
      rwa [linesOf, if_neg hempty] at hlines
    have hkept : trimmedLines text = splitLines text := by
      rw [trimmedLines, List.map_congr_left htidy.trimmed, List.map_id']
    have hcollapsed : collapsed false (splitLines text) = splitLines text :=
      collapsed_eq_self htidy.trimmed htidy.spaced fun htop ↦ absurd htop Bool.false_ne_true
    calc
      render text = trimmed (joinLines (collapsed false (trimmedLines (expand text)))) :=
        render_eq text
      _ = trimmed (joinLines (splitLines text)) := by rw [hexpand, hkept, hcollapsed]
      _ = joinLines (splitLines text) := htidy.trimmed_joinLines
      _ = text := joinLines_splitLines text

/-- Rendering leaves no placeholder, trims all lines and lets blank ones stand alone and between
others. The lines that are not blank are those of the text, trimmed and in order, when it is broken
at each placeholder. The texts that rendering does not change are those of this form, and rendering
twice is rendering once. -/
theorem isRendered_render_and_nonblankLines (text : String) :
    IsRendered (render text) ∧
      (∃ pieces : List String, text = breakMark.intercalate pieces ∧
        (∀ piece ∈ pieces, contains piece breakMark = false) ∧
        nonblankLines (linesOf (render text)) =
          nonblankLines ((splitLines (joinLines pieces)).map trimmed)) ∧
      (render text = text ↔ IsRendered text) ∧ render (render text) = render text := by
  refine ⟨isRendered_render text, ?_, ⟨?_, IsRendered.render_eq_self⟩,
    (isRendered_render text).render_eq_self⟩
  · obtain ⟨pieces, -, htext, hexpand, hpieces⟩ :=
      exists_pieces_of_replaced "\n" (by decide : breakMark ≠ "") text
    refine ⟨pieces, htext, hpieces, ?_⟩
    have hjoined : expand text = joinLines pieces := hexpand
    rw [linesOf_render, nonblankLines_renderedLines, hjoined, trimmedLines]
  · intro hsame
    exact hsame ▸ isRendered_render text

end Import

end Markdown

end ProviderDocs
