import ProviderDocs.Markdown.Section
import ProviderDocs.Proofs.Text.Lines

/-!
# Cutting a document

Cutting lines at headings loses none of them, and below the line that opens a group no line
begins with the heading; this determines the groups. What is left of a group without its buttons
are lines of the group.
-/

namespace ProviderDocs

namespace Markdown

/-! ## Groups -/

theorem cutGroups_cons (heading line : String) (rest : List String) :
    cutGroups heading (line :: rest) =
      if startsWith line heading then
        ([], (line :: (cutGroups heading rest).1) :: (cutGroups heading rest).2)
      else (line :: (cutGroups heading rest).1, (cutGroups heading rest).2) :=
  rfl

theorem cutGroups_append (heading : String) (lines : List String) :
    (cutGroups heading lines).1 ++ (cutGroups heading lines).2.flatten = lines := by
  induction lines with
  | nil => rfl
  | cons line rest ih =>
    rw [cutGroups_cons]
    split
    case isTrue => rw [List.nil_append, List.flatten_cons, List.cons_append, ih]
    case isFalse => rw [List.cons_append, ih]

theorem flatten_sectionize (heading : String) (lines : List String) :
    (sectionize heading lines).flatten = lines := by
  cases lines with
  | nil => rfl
  | cons line rest => exact cutGroups_append heading (line :: rest)

theorem subset_of_mem_sectionize {heading : String} {lines group : List String}
    (h : group ∈ sectionize heading lines) : group ⊆ lines := by
  intro line hline
  rw [← flatten_sectionize heading lines]
  exact List.mem_flatten.mpr ⟨group, h, hline⟩

theorem startsWith_of_cutGroups (heading : String) (lines : List String) :
    (∀ line ∈ (cutGroups heading lines).1, startsWith line heading = false) ∧
      ∀ group ∈ (cutGroups heading lines).2, ∀ line ∈ group.tail,
        startsWith line heading = false := by
  induction lines with
  | nil => exact ⟨List.forall_mem_nil _, List.forall_mem_nil _⟩
  | cons line rest ih =>
    obtain ⟨hfront, hgroups⟩ := ih
    rw [cutGroups_cons]
    split
    case isTrue => exact ⟨List.forall_mem_nil _, List.forall_mem_cons.mpr ⟨hfront, hgroups⟩⟩
    case isFalse hline =>
      exact ⟨List.forall_mem_cons.mpr ⟨Bool.eq_false_iff.mpr hline, hfront⟩, hgroups⟩

theorem startsWith_of_mem_tail {heading line : String} {lines group : List String}
    (h : group ∈ sectionize heading lines) (hline : line ∈ group.tail) :
    startsWith line heading = false := by
  obtain ⟨hfront, hgroups⟩ := startsWith_of_cutGroups heading lines
  cases lines with
  | nil => cases h
  | cons first rest =>
    rcases List.mem_cons.mp h with rfl | h
    · exact hfront line (List.mem_of_mem_tail hline)
    · exact hgroups group h line hline

/-- Lines that begin with a heading, or none at all, make groups of their own. -/
theorem cutGroups_append_of_heading {heading : String} (lines : List String) {more : List String}
    (h : ∀ line ∈ more.head?, startsWith line heading = true) :
    cutGroups heading (lines ++ more) =
      ((cutGroups heading lines).1, (cutGroups heading lines).2 ++ (cutGroups heading more).2) := by
  induction lines with
  | nil =>
    cases more with
    | nil => rfl
    | cons first more =>
      rw [List.nil_append, cutGroups_cons, if_pos (h first rfl)]
      rfl
  | cons line rest ih =>
    rw [List.cons_append, cutGroups_cons, cutGroups_cons, ih]
    split
    case isTrue => rfl
    case isFalse => rfl

theorem cutGroups_of_no_heading {heading : String} {lines : List String}
    (h : ∀ line ∈ lines, startsWith line heading = false) :
    cutGroups heading lines = (lines, []) := by
  induction lines with
  | nil => rfl
  | cons line rest ih =>
    obtain ⟨hline, hrest⟩ := List.forall_mem_cons.mp h
    rw [cutGroups_cons, ih hrest, hline]
    rfl

theorem sectionize_of_ne_nil (heading : String) {lines : List String} (h : lines ≠ []) :
    sectionize heading lines = (cutGroups heading lines).1 :: (cutGroups heading lines).2 := by
  cases lines with
  | nil => exact absurd rfl h
  | cons => rfl

theorem sectionize_append_of_heading {heading : String} (before : List String)
    {after : List String} (hne : after ≠ [])
    (hafter : ∀ line ∈ after.head?, startsWith line heading = true) :
    sectionize heading (before ++ after) =
      (cutGroups heading before).1 :: (cutGroups heading before).2 ++
        (cutGroups heading after).2 := by
  rw [sectionize_of_ne_nil heading (List.append_ne_nil_of_right_ne_nil before hne),
    cutGroups_append_of_heading before hafter]
  rfl

/-- The sections of a document around one that is given line by line. -/
theorem sectionize_around {heading first : String} (before : List String) {body after : List String}
    (hfirst : startsWith first heading = true)
    (hbody : ∀ line ∈ body, startsWith line heading = false)
    (hafter : ∀ line ∈ after.head?, startsWith line heading = true) :
    sectionize heading (before ++ first :: (body ++ after)) =
      (cutGroups heading before).1 :: (cutGroups heading before).2 ++
        (first :: body) :: (cutGroups heading after).2 := by
  have hgroups : (cutGroups heading (first :: (body ++ after))).2 =
      (first :: body) :: (cutGroups heading after).2 := by
    rw [cutGroups_cons, if_pos hfirst, cutGroups_append_of_heading body hafter,
      cutGroups_of_no_heading hbody]
    rfl
  have hopens : ∀ line ∈ (first :: (body ++ after)).head?, startsWith line heading = true := by
    rintro line ⟨⟩
    exact hfirst
  rw [sectionize_append_of_heading before (List.cons_ne_nil _ _) hopens, hgroups]

/-! ## Cuts -/

/-- The group begins with a heading and has no other one. -/
def IsOpenedBy (heading : String) (group : List String) : Prop :=
  ∃ first body, group = first :: body ∧ startsWith first heading = true ∧
    ∀ line ∈ body, startsWith line heading = false

/-- The groups are the lines, cut above each heading. Only the first of them may be without a
heading, or without lines. -/
structure IsCutAt (heading : String) (lines : List String) (groups : List (List String)) :
    Prop where
  flatten : groups.flatten = lines
  front : ∀ group ∈ groups.head?, ∀ line ∈ group, startsWith line heading = false
  opened : ∀ group ∈ groups.tail, IsOpenedBy heading group
  of_nil : lines = [] → groups = []

theorem isOpenedBy_of_mem_cutGroups (heading : String) (lines : List String) :
    ∀ group ∈ (cutGroups heading lines).2, IsOpenedBy heading group := by
  induction lines with
  | nil => exact List.forall_mem_nil _
  | cons line rest ih =>
    rw [cutGroups_cons]
    split
    case isTrue hline =>
      have hfront := (startsWith_of_cutGroups heading rest).1
      exact List.forall_mem_cons.mpr ⟨⟨line, _, rfl, hline, hfront⟩, ih⟩
    case isFalse => exact ih

theorem isCutAt_sectionize (heading : String) (lines : List String) :
    IsCutAt heading lines (sectionize heading lines) := by
  refine ⟨flatten_sectionize heading lines, ?_, ?_, ?_⟩
  · intro group hgroup
    cases lines with
    | nil => exact absurd hgroup (Option.not_mem_none group)
    | cons line rest =>
      obtain rfl := Option.some.inj hgroup
      exact (startsWith_of_cutGroups heading (line :: rest)).1
  · cases lines with
    | nil => exact List.forall_mem_nil _
    | cons line rest => exact isOpenedBy_of_mem_cutGroups heading (line :: rest)
  · intro hlines
    rw [hlines]
    rfl

theorem startsWith_of_mem_head?_flatten {heading : String} {groups : List (List String)}
    (h : ∀ group ∈ groups, IsOpenedBy heading group) :
    ∀ line ∈ groups.flatten.head?, startsWith line heading = true := by
  cases groups with
  | nil => exact fun line hline ↦ absurd hline (Option.not_mem_none line)
  | cons group rest =>
    obtain ⟨first, body, rfl, hfirst, -⟩ := h group List.mem_cons_self
    intro line hline
    exact Option.some.inj hline ▸ hfirst

/-- Groups that headings open are cut where they were put together. -/
theorem cutGroups_flatten {heading : String} {groups : List (List String)}
    (h : ∀ group ∈ groups, IsOpenedBy heading group) :
    cutGroups heading groups.flatten = ([], groups) := by
  induction groups with
  | nil => rfl
  | cons group rest ih =>
    obtain ⟨hgroup, hrest⟩ := List.forall_mem_cons.mp h
    obtain ⟨first, body, rfl, hfirst, hbody⟩ := hgroup
    have hbelow : cutGroups heading (body ++ rest.flatten) = (body, rest) := by
      rw [cutGroups_append_of_heading body (startsWith_of_mem_head?_flatten hrest), ih hrest,
        cutGroups_of_no_heading hbody, List.nil_append]
    rw [List.flatten_cons, List.cons_append, cutGroups_cons, if_pos hfirst, hbelow]

/-- Lines can be cut in one way only. -/
theorem IsCutAt.sectionize_eq {heading : String} {lines : List String}
    {groups : List (List String)} (h : IsCutAt heading lines groups) :
    sectionize heading lines = groups := by
  cases groups with
  | nil =>
    rw [← h.flatten]
    rfl
  | cons front groups =>
    have hne : lines ≠ [] := fun hnil ↦ List.cons_ne_nil _ _ (h.of_nil hnil)
    have hopened : ∀ group ∈ groups, IsOpenedBy heading group := h.opened
    have hcut : cutGroups heading lines = (front, groups) := by
      rw [← h.flatten, List.flatten_cons,
        cutGroups_append_of_heading front (startsWith_of_mem_head?_flatten hopened),
        cutGroups_flatten hopened, cutGroups_of_no_heading (h.front front rfl), List.nil_append]
    rw [sectionize_of_ne_nil heading hne, hcut]

/-- Groups are the sections of some lines if and only if they are the lines cut above each heading.
The lines of all sections of a text, put one below the other, are the text. -/
theorem sectionize_eq_iff_and_joinLines (heading : String) :
    (∀ lines groups, sectionize heading lines = groups ↔ IsCutAt heading lines groups) ∧
      ∀ text, joinLines (sectionizeText heading text).flatten = text := by
  refine ⟨fun lines groups ↦ ⟨?_, IsCutAt.sectionize_eq⟩, fun text ↦ ?_⟩
  · intro h
    rw [← h]
    exact isCutAt_sectionize heading lines
  · calc
      joinLines (sectionizeText heading text).flatten = joinLines (splitLines text) := by
        rw [sectionizeText, flatten_sectionize]
      _ = text := joinLines_splitLines text

/-- A heading at the top leaves no lines for the first section. -/
example : sectionizeText "## " "## A\n### B" = [[], ["## A", "### B"]] := by decide +kernel

/-! ## Buttons -/

theorem withoutButtons_sublist (inButton : Bool) (lines : List String) :
    (withoutButtons inButton lines).Sublist lines := by
  induction lines generalizing inButton with
  | nil => exact .slnil
  | cons line rest ih =>
    rw [withoutButtons]
    split
    case isTrue => exact (ih _).cons line
    case isFalse =>
      split
      case isTrue => exact (ih true).cons line
      case isFalse => exact (ih false).cons_cons line

end Markdown

end ProviderDocs
