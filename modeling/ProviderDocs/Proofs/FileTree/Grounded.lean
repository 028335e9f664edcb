import ProviderDocs.Proofs.FileTree.SameFile

/-!
# Trees with a working directory

In a file system the working directory exists, and the directories above it do. There a file that
was written is found again under its path, whose last name is that of the file.
-/

namespace ProviderDocs

namespace FileTree

variable {tree later : FileTree}

/-- The working directory is a directory, and so is all that is above it. -/
def IsGrounded (tree : FileTree) : Prop :=
  ∀ above, above <+: tree.workingDirectory → tree.node? above = some .directory

theorem isGrounded_empty : empty.IsGrounded := by
  intro above habove
  rw [List.prefix_nil.mp habove]
  rfl

namespace IsGrounded

theorem prefix_start (h : tree.IsGrounded) {path : String} {location names : List String}
    (hstart : tree.start path = .ok (location, names)) :
    ∀ above, above <+: location → tree.node? above = some .directory := by
  intro above habove
  refine h above (habove.trans ?_)
  rw [(start_eq_ok hstart).1]
  split
  · exact List.nil_prefix
  · exact List.prefix_refl _

theorem isRooted (h : tree.IsGrounded) (path : String) : tree.IsRooted path := by
  intro above habove
  rw [h above]
  · rfl
  · refine habove.trans ?_
    split
    · exact List.nil_prefix
    · exact List.prefix_refl _

end IsGrounded

/-- A step is taken from a directory, so below directories it leads to something that is below
directories too. -/
theorem dropLast_of_enter {location result : List String} {name : String}
    (hlocation : ∀ above, above <+: location.dropLast → tree.node? above = some .directory)
    (h : tree.enter location name = .ok result) :
    ∀ above, above <+: result.dropLast → tree.node? above = some .directory := by
  obtain ⟨hdirectory, ⟨-, rfl⟩ | ⟨-, rfl⟩ | ⟨-, -, -, rfl⟩⟩ := enter_eq_ok_iff.mp h
  · exact hlocation
  · exact fun above habove ↦ hlocation above (habove.trans (List.dropLast_prefix _))
  · intro above habove
    rw [List.dropLast_concat] at habove
    rcases List.eq_nil_or_concat location with rfl | ⟨front, last, rfl⟩
    · rwa [List.prefix_nil.mp habove]
    · rw [List.concat_eq_append] at habove hdirectory hlocation
      rcases List.prefix_concat_iff.mp habove with rfl | hfront
      · exact hdirectory
      · exact hlocation above (by rwa [List.dropLast_concat])

theorem dropLast_of_foldlM_enter {names location result : List String}
    (hlocation : ∀ above, above <+: location.dropLast → tree.node? above = some .directory)
    (h : names.foldlM tree.enter location = .ok result) :
    ∀ above, above <+: result.dropLast → tree.node? above = some .directory := by
  induction names generalizing location with
  | nil =>
    cases h
    exact hlocation
  | cons name rest ih =>
    rw [List.foldlM_cons, bind_eq_ok_iff] at h
    obtain ⟨next, henter, hrest⟩ := h
    exact ih (dropLast_of_enter hlocation henter) hrest

theorem LeadsTo.dropLast {path : String} {parent : List String} (h : tree.LeadsTo path parent)
    (hground : tree.IsGrounded) :
    ∀ above, above <+: parent.dropLast → tree.node? above = some .directory := by
  obtain ⟨start, hstart, hfollow⟩ := h
  refine dropLast_of_foldlM_enter (fun above habove ↦ ?_) hfollow
  exact hground.prefix_start hstart above (habove.trans (List.dropLast_prefix start))

/-- Where something new would be is found, or missing, in the place that its path leads to. -/
theorem exists_enter_of_resolveNew {path : String} {location : List String}
    (h : tree.resolveNew path = .ok location) :
    ∃ parent, tree.LeadsTo path parent ∧
      (tree.enter parent (Path.lastName path) = .error .notFound ∨
        tree.enter parent (Path.lastName path) = .ok location) := by
  unfold resolveNew at h
  rw [bind_eq_ok_iff] at h
  obtain ⟨⟨start, names⟩, hstart, hrest⟩ := h
  obtain ⟨-, rfl⟩ := start_eq_ok hstart
  rw [bind_eq_ok_iff] at hrest
  obtain ⟨parent, hparent, hlast⟩ := hrest
  refine ⟨parent, ⟨start, hstart, hparent⟩, ?_⟩
  split at hlast
  case h_1 hmissing => exact .inl hmissing
  case h_2 => exact .inr hlast

/-- A name that leads nowhere by itself leads from a place below directories to a directory. -/
theorem exists_directory_of_enter {parent : List String} {name : String}
    (hparent : ∀ above, above <+: parent.dropLast → tree.node? above = some .directory)
    (hdirectory : tree.node? parent = some .directory) (hname : ¬ Path.IsProper name) :
    ∃ location, tree.enter parent name = .ok location ∧ tree.node? location = some .directory := by
  unfold enter
  rw [hdirectory]
  by_cases hhere : name = "" ∨ name = "."
  · exact ⟨parent, by simp [hhere], hdirectory⟩
  · obtain rfl : name = ".." := Classical.byContradiction fun hup ↦
      hname ⟨fun h ↦ hhere (.inl h), fun h ↦ hhere (.inr h), hup⟩
    exact ⟨parent.dropLast, rfl, hparent _ (List.prefix_refl _)⟩

/-- Only something with a proper name can be written. -/
theorem isProper_lastName_of_write {path : String} {content : ByteArray}
    (h : tree.write path content = .ok later) (hground : tree.IsGrounded) :
    Path.IsProper (Path.lastName path) := by
  refine Classical.byContradiction fun hname ↦ ?_
  obtain ⟨location, -, hlocation, hnode, -⟩ := write_eq_ok h
  obtain ⟨parent, hparent, hlast⟩ := exists_enter_of_resolveNew hlocation
  obtain ⟨node, hsome⟩ := Option.isSome_iff_exists.mp (hparent.isSome (hground.isRooted path))
  cases node with
  | file => simp [enter, hsome] at hlast
  | directory =>
    obtain ⟨place, henter, hplace⟩ :=
      exists_directory_of_enter (hparent.dropLast hground) hsome hname
    rw [henter] at hlast
    rcases hlast with hmissing | hfound
    · cases hmissing
    · cases hfound
      exact hnode hplace

end FileTree

end ProviderDocs
