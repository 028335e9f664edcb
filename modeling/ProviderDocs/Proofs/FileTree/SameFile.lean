import ProviderDocs.Proofs.Error
import ProviderDocs.Proofs.FileTree.Change

/-!
# Paths of one file

Two paths name the same file when they lead to locations with one key. A write changes the
content of a file exactly when its path names that file, and this can be told from any later
tree, since paths go on leading to the same locations.
-/

namespace ProviderDocs

namespace FileTree

variable {tree later last : FileTree}

def SameFile (tree : FileTree) (path other : String) : Prop :=
  ∃ location otherLocation, tree.resolve path = .ok location ∧
    tree.resolve other = .ok otherLocation ∧ key location = key otherLocation

theorem sameFile_of_toOption {path other : String}
    (hsome : (tree.resolve other).toOption.isSome)
    (heq : (tree.resolve path).toOption = (tree.resolve other).toOption) :
    tree.SameFile path other := by
  unfold SameFile
  cases hother : tree.resolve other with
  | error => simp [hother, Except.toOption] at hsome
  | ok location =>
    cases hpath : tree.resolve path with
    | error => simp [hpath, hother, Except.toOption] at heq
    | ok place =>
      simp only [hpath, hother, Except.toOption, Option.some.injEq] at heq
      exact ⟨place, location, rfl, rfl, by rw [heq]⟩

/-- The file at a location has that content. -/
def Holds (tree : FileTree) (location : List String) (content : ByteArray) : Prop :=
  ∃ isExecutable, tree.node? location = some (.file content isExecutable)

theorem Holds.of_extends {location : List String} {content : ByteArray}
    (hfile : tree.Holds location content) (h : Extends tree later) :
    later.Holds location content := by
  obtain ⟨isExecutable, hnode⟩ := hfile
  exact ⟨isExecutable, h.node _ _ hnode⟩

theorem readText_of_holds {path text : String} {location : List String}
    (hpath : tree.resolve path = .ok location) (h : tree.Holds location text.toUTF8) :
    tree.readText path = .ok text := by
  obtain ⟨isExecutable, hnode⟩ := h
  simp only [readText, read, hpath, hnode, bind, Except.bind]
  rw [fromUTF8?_toUTF8]

/-- One file is read alike under all its paths. -/
theorem SameFile.readText_eq {path other : String} (h : tree.SameFile path other) :
    tree.readText path = tree.readText other := by
  obtain ⟨location, otherLocation, hlocation, hother, hkey⟩ := h
  have hnode : tree.node? location = tree.node? otherLocation := congrArg tree.nodes.get? hkey
  simp only [readText, read, hlocation, hother, bind, Except.bind, hnode]

theorem leadsTo_of_resolve {path : String} {location : List String}
    (h : tree.resolve path = .ok location) : ∃ parent, tree.LeadsTo path parent := by
  obtain ⟨start, hstart, hfollow⟩ := resolve_eq_ok_iff.mp h
  rw [Path.names_eq path, List.foldlM_append] at hfollow
  cases hparent : (Path.names path).dropLast.foldlM tree.enter start with
  | error => simp [hparent, bind, Except.bind] at hfollow
  | ok parent => exact ⟨parent, start, hstart, hparent⟩

theorem resolve_eq_append {path : String} {location : List String}
    (hproper : Path.IsProper (Path.lastName path)) (h : tree.resolve path = .ok location) :
    ∃ parent, tree.LeadsTo path parent ∧ location = parent ++ [Path.lastName path] := by
  obtain ⟨parent, hparent⟩ := leadsTo_of_resolve h
  rw [hparent.resolve_eq, enter_eq_ok_iff_of_isProper hproper] at h
  exact ⟨parent, hparent, h.2.2.2.symm⟩

/-- A file in a directory is not one in a directory below it. -/
theorem not_sameFile_of_below {base name last other : String} (hbase : base ≠ "")
    (hname : Path.IsProper name) (hlast : Path.IsProper last) (hother : Path.IsProper other)
    (hslash : '/' ∉ name.toList) (hlastSlash : '/' ∉ last.toList)
    (hotherSlash : '/' ∉ other.toList) :
    ¬ tree.SameFile (base ++ "/" ++ name ++ "/" ++ last) (base ++ "/" ++ other) := by
  have hlastName := (Path.names_slash_of_notMem (base ++ "/" ++ name) hlastSlash).2
  have hotherName := (Path.names_slash_of_notMem base hotherSlash).2
  rintro ⟨location, otherLocation, hlocation, hotherLocation, hkey⟩
  obtain ⟨parent, hparent, rfl⟩ := resolve_eq_append (by rwa [hlastName]) hlocation
  obtain ⟨above, habove, rfl⟩ := resolve_eq_append (by rwa [hotherName]) hotherLocation
  obtain rfl := habove.eq_append hparent hbase hname hslash hlastSlash hotherSlash
  rw [hlastName, hotherName, key_append_singleton_inj hlastSlash hotherSlash,
    key_append_singleton] at hkey
  have hlength := congrArg String.length hkey.1
  rw [String.length_append, String.length_append] at hlength
  have hsep : "/".length = 1 := rfl
  omega

/-! ## Places below the root -/

/-- The place that a path starts from exists, and so do the places above it. -/
def IsRooted (tree : FileTree) (path : String) : Prop :=
  ∀ above, above <+: (if Path.isAbsolute path then [] else tree.workingDirectory) →
    (tree.node? above).isSome

theorem IsRooted.of_grows {path : String} (h : tree.IsRooted path) (hgrows : Grows tree later) :
    later.IsRooted path := by
  intro above habove
  rw [hgrows.workingDirectory] at habove
  exact hgrows.isSome above (h above habove)

/-- A step leads to a place that exists, as do all places above it, if those before the step do. -/
theorem isSome_of_enter {location result : List String} {name : String}
    (hlocation : ∀ above, above <+: location → (tree.node? above).isSome)
    (h : tree.enter location name = .ok result) :
    ∀ above, above <+: result → (tree.node? above).isSome := by
  intro above habove
  obtain ⟨-, ⟨-, rfl⟩ | ⟨-, rfl⟩ | ⟨-, -, hsome, rfl⟩⟩ := enter_eq_ok_iff.mp h
  · exact hlocation above habove
  · exact hlocation above (habove.trans (List.dropLast_prefix location))
  · rcases List.prefix_concat_iff.mp habove with rfl | hfront
    · exact hsome
    · exact hlocation above hfront

theorem isSome_of_foldlM_enter {names location result : List String}
    (hlocation : ∀ above, above <+: location → (tree.node? above).isSome)
    (h : names.foldlM tree.enter location = .ok result) :
    ∀ above, above <+: result → (tree.node? above).isSome := by
  induction names generalizing location with
  | nil =>
    cases h
    exact hlocation
  | cons name rest ih =>
    rw [List.foldlM_cons, bind_eq_ok_iff] at h
    obtain ⟨next, henter, hrest⟩ := h
    exact ih (isSome_of_enter hlocation henter) hrest

theorem LeadsTo.isSome {path : String} {parent : List String} (h : tree.LeadsTo path parent)
    (hroot : tree.IsRooted path) : (tree.node? parent).isSome := by
  obtain ⟨start, hstart, hfollow⟩ := h
  unfold IsRooted at hroot
  rw [← (start_eq_ok hstart).1] at hroot
  exact isSome_of_foldlM_enter hroot hfollow parent (List.prefix_refl parent)

/-! ## A file that is watched -/

/-- In the tree `last` the path leads to the entry `name` of a directory of `tree`. -/
structure Watches (tree last : FileTree) (path : String) (parent : List String) (name : String) :
    Prop where
  directory : tree.node? parent = some .directory
  slash_notMem : '/' ∉ name.toList
  resolve : last.resolve path = .ok (parent ++ [name])

/-- A file that was written in a directory is found there with its content. -/
theorem watches_of_write {path : String} {parent : List String} {content : ByteArray}
    (h : tree.write path content = .ok later) (hproper : Path.IsProper (Path.lastName path))
    (hparent : tree.LeadsTo path parent) (hsome : (tree.node? parent).isSome) :
    Watches later later path parent (Path.lastName path) ∧
      later.Holds (parent ++ [Path.lastName path]) content := by
  have hgrows := write_grows h
  obtain ⟨location, isExecutable, hlocation, -, rfl⟩ := write_eq_ok h
  obtain ⟨place, hplace, rfl, hdirectories⟩ := leadsTo_of_resolveNew hproper hlocation
  obtain rfl := hplace.unique hparent
  obtain ⟨hdirectory, hsize⟩ := hdirectories hsome
  have hnode : (tree.set (place ++ [Path.lastName path]) (.file content isExecutable)).node?
      (place ++ [Path.lastName path]) = some (.file content isExecutable) := by
    rw [node?_set, if_pos rfl]
  refine ⟨⟨hgrows.directory _ hdirectory, Path.slash_notMem_lastName path, ?_⟩, _, hnode⟩
  rw [(hparent.mono hgrows).resolve_eq, enter_eq_ok_iff_of_isProper hproper]
  exact ⟨hgrows.directory _ hdirectory, hsize, by rw [hnode]; rfl, rfl⟩

section Watches

variable {path other name : String} {parent : List String} {content kept : ByteArray}

theorem Watches.of_grows (hwatch : Watches tree last other parent name) (h : Grows tree later) :
    Watches later last other parent name :=
  ⟨h.directory _ hwatch.directory, hwatch.slash_notMem, hwatch.resolve⟩

theorem SameFile.lastName_eq (hsame : last.SameFile path other)
    (hwatch : Watches tree last other parent name)
    (hproper : Path.IsProper (Path.lastName path)) : Path.lastName path = name := by
  obtain ⟨location, otherLocation, hlocation, hother, hkey⟩ := hsame
  obtain ⟨place, -, rfl⟩ := resolve_eq_append hproper hlocation
  rw [hwatch.resolve] at hother
  cases hother
  exact ((key_append_singleton_inj (Path.slash_notMem_lastName path) hwatch.slash_notMem).mp
    hkey).2

/-- Whether a write goes to the file that is watched can be told from the tree `last`. -/
theorem write_eq_set (h : tree.write path content = .ok later)
    (hproper : Path.IsProper (Path.lastName path)) (hlast : Grows later last)
    (hwatch : Watches tree last other parent name) :
    ∃ location isExecutable, later = tree.set location (.file content isExecutable) ∧
      (last.SameFile path other ↔ key (parent ++ [name]) = key location) := by
  have hgrows : Grows tree last := (write_grows h).trans hlast
  obtain ⟨location, isExecutable, hlocation, -, rfl⟩ := write_eq_ok h
  obtain ⟨place, hplace, rfl, hdirectories⟩ := leadsTo_of_resolveNew hproper hlocation
  have hresolve := (hplace.mono hgrows).resolve_eq
  refine ⟨_, isExecutable, rfl, ?_, ?_⟩
  · rintro ⟨location, otherLocation, hlocation, hother, hkey⟩
    rw [hwatch.resolve] at hother
    cases hother
    rw [hresolve, enter_eq_ok_iff_of_isProper hproper] at hlocation
    obtain ⟨-, -, -, rfl⟩ := hlocation
    exact hkey.symm
  · intro hkey
    have hparents := ((key_append_singleton_inj hwatch.slash_notMem
      (Path.slash_notMem_lastName path)).mp hkey).1
    have hsame : tree.node? place = tree.node? parent := congrArg tree.nodes.get? hparents.symm
    obtain ⟨hdirectory, hsize⟩ := hdirectories (by rw [hsame, hwatch.directory]; rfl)
    refine ⟨_, _, ?_, hwatch.resolve, hkey.symm⟩
    rw [hresolve, enter_eq_ok_iff_of_isProper hproper]
    refine ⟨hgrows.directory _ hdirectory, hsize, hlast.isSome _ ?_, rfl⟩
    rw [node?_set, if_pos rfl]
    rfl

theorem holds_of_write (h : tree.write path content = .ok later)
    (hproper : Path.IsProper (Path.lastName path)) (hlast : Grows later last)
    (hwatch : Watches tree last other parent name) (hsame : last.SameFile path other) :
    later.Holds (parent ++ [name]) content := by
  obtain ⟨location, isExecutable, rfl, hiff⟩ := write_eq_set h hproper hlast hwatch
  exact ⟨isExecutable, by rw [node?_set, if_pos (hiff.mp hsame)]⟩

theorem Holds.of_write (hfile : tree.Holds (parent ++ [name]) kept)
    (h : tree.write path content = .ok later) (hproper : Path.IsProper (Path.lastName path))
    (hlast : Grows later last) (hwatch : Watches tree last other parent name)
    (hsame : ¬ last.SameFile path other) : later.Holds (parent ++ [name]) kept := by
  obtain ⟨location, isExecutable, rfl, hiff⟩ := write_eq_set h hproper hlast hwatch
  obtain ⟨wasExecutable, hnode⟩ := hfile
  exact ⟨wasExecutable, by rw [node?_set, if_neg (mt hiff.mpr hsame), hnode]⟩

end Watches

/-! ## Several writes -/

/-- Writes one text after the other, each to its path. -/
def writeAll (tree : FileTree) (texts : List (String × String)) : Except FileError FileTree :=
  texts.foldlM (fun tree text ↦ tree.writeText text.1 text.2) tree

theorem writeAll_cons_eq_ok {path text : String} {rest : List (String × String)}
    (h : tree.writeAll ((path, text) :: rest) = .ok last) :
    ∃ next, tree.write path text.toUTF8 = .ok next ∧ next.writeAll rest = .ok last := by
  unfold writeAll at h ⊢
  rw [List.foldlM_cons] at h
  cases hwrite : tree.writeText path text with
  | error => simp [hwrite, bind, Except.bind] at h
  | ok next =>
    rw [hwrite] at h
    exact ⟨next, hwrite, h⟩

theorem writeAll_singleton (tree : FileTree) (path text : String) :
    tree.writeAll [(path, text)] = tree.writeText path text := by
  simp [writeAll]

theorem writeAll_append_eq_ok_iff {texts more : List (String × String)} :
    tree.writeAll (texts ++ more) = .ok last ↔
      ∃ between, tree.writeAll texts = .ok between ∧ between.writeAll more = .ok last := by
  unfold writeAll
  rw [List.foldlM_append, bind_eq_ok_iff]

theorem writeAll_grows {texts : List (String × String)} (h : tree.writeAll texts = .ok last) :
    Grows tree last := by
  induction texts generalizing tree with
  | nil =>
    cases h
    exact .refl _
  | cons text rest ih =>
    obtain ⟨next, hwrite, hrest⟩ := writeAll_cons_eq_ok h
    exact (write_grows hwrite).trans (ih hrest)

/-- After several writes a file holds the last text that went to it, or what it held before. -/
theorem holds_of_writeAll {texts : List (String × String)} {other name : String}
    {parent : List String} {kept : ByteArray} (h : tree.writeAll texts = .ok later)
    (hproper : ∀ text ∈ texts, Path.IsProper (Path.lastName text.1)) (hlast : Grows later last)
    (hwatch : Watches tree last other parent name) (hfile : tree.Holds (parent ++ [name]) kept) :
    (later.Holds (parent ++ [name]) kept ∧ ∀ text ∈ texts, ¬ last.SameFile text.1 other) ∨
      ∃ text ∈ texts, last.SameFile text.1 other ∧
        later.Holds (parent ++ [name]) text.2.toUTF8 := by
  induction texts generalizing tree kept with
  | nil =>
    cases h
    exact .inl ⟨hfile, fun _ htext ↦ absurd htext List.not_mem_nil⟩
  | cons text rest ih =>
    obtain ⟨next, hwrite, hrest⟩ := writeAll_cons_eq_ok h
    have hnext : Grows next last := (writeAll_grows hrest).trans hlast
    have hfirst := hproper text List.mem_cons_self
    have hothers := fun text htext ↦ hproper text (List.mem_cons_of_mem _ htext)
    have hwatched := hwatch.of_grows (write_grows hwrite)
    by_cases hsame : last.SameFile text.1 other
    · rcases ih hrest hothers hwatched (holds_of_write hwrite hfirst hnext hwatch hsame) with
        ⟨hholds, -⟩ | ⟨again, hagain, hholds⟩
      · exact .inr ⟨text, List.mem_cons_self, hsame, hholds⟩
      · exact .inr ⟨again, List.mem_cons_of_mem _ hagain, hholds⟩
    · rcases ih hrest hothers hwatched (hfile.of_write hwrite hfirst hnext hwatch hsame) with
        ⟨hholds, hnone⟩ | ⟨again, hagain, hholds⟩
      · refine .inl ⟨hholds, ?_⟩
        intro other hother
        rcases List.mem_cons.mp hother with rfl | hother
        · exact hsame
        · exact hnone other hother
      · exact .inr ⟨again, List.mem_cons_of_mem _ hagain, hholds⟩

/-- A file that is written is watched during what is written after it. -/
theorem watches_of_writeAll {path text : String} {front rest : List (String × String)}
    (h : tree.writeAll (front ++ (path, text) :: rest) = .ok last) (hroot : tree.IsRooted path)
    (hproper : Path.IsProper (Path.lastName path)) :
    ∃ (next : FileTree) (parent : List String),
      next.Watches last path parent (Path.lastName path) ∧
      next.Holds (parent ++ [Path.lastName path]) text.toUTF8 ∧ next.writeAll rest = .ok last := by
  obtain ⟨before, hfront, hall⟩ := writeAll_append_eq_ok_iff.mp h
  obtain ⟨next, hwrite, hmore⟩ := writeAll_cons_eq_ok hall
  obtain ⟨location, -, hlocation, -, -⟩ := write_eq_ok hwrite
  obtain ⟨parent, hparent, -, -⟩ := leadsTo_of_resolveNew hproper hlocation
  have hsome := hparent.isSome (hroot.of_grows (writeAll_grows hfront))
  obtain ⟨hwritten, hholds⟩ := watches_of_write hwrite hproper hparent hsome
  have hresolve := resolve_mono (writeAll_grows hmore) hwritten.resolve
  exact ⟨next, parent, ⟨hwritten.directory, hwritten.slash_notMem, hresolve⟩, hholds, hmore⟩

/-- A file that is written last, or again with the same text only, is read back. -/
theorem readText_of_writeAll {path text : String} {front rest : List (String × String)}
    (h : tree.writeAll (front ++ (path, text) :: rest) = .ok last) (hroot : tree.IsRooted path)
    (hproper : Path.IsProper (Path.lastName path))
    (hrest : ∀ other ∈ rest, Path.IsProper (Path.lastName other.1))
    (hsame : ∀ other ∈ rest, last.SameFile other.1 path → other.2 = text) :
    last.readText path = .ok text := by
  obtain ⟨next, parent, hwatch, hholds, hmore⟩ := watches_of_writeAll h hroot hproper
  rcases holds_of_writeAll hmore hrest (.refl last) hwatch hholds with
    ⟨hkept, -⟩ | ⟨other, hother, hfile, hheld⟩
  · exact readText_of_holds hwatch.resolve hkept
  · rw [hsame other hother hfile] at hheld
    exact readText_of_holds hwatch.resolve hheld

/-- A file is written, others are made and written after it: it is read back, or what was written
to it later is. -/
theorem readText_of_watches {path name : String} {parent : List String} {text : String}
    {prepared : FileTree} {texts : List (String × String)}
    (hwatch : Watches tree tree path parent name)
    (hholds : tree.Holds (parent ++ [name]) text.toUTF8) (hprepared : tree.Extends prepared)
    (hall : prepared.writeAll texts = .ok last)
    (hproper : ∀ other ∈ texts, Path.IsProper (Path.lastName other.1)) :
    (last.readText path = .ok text ∧ ∀ other ∈ texts, ¬ last.SameFile other.1 path) ∨
      ∃ other ∈ texts, last.SameFile other.1 path ∧ Path.lastName other.1 = name ∧
        last.readText path = .ok other.2 := by
  have hresolve := resolve_mono (hprepared.grows.trans (writeAll_grows hall)) hwatch.resolve
  have hlater : Watches prepared last path parent name :=
    ⟨hprepared.grows.directory _ hwatch.directory, hwatch.slash_notMem, hresolve⟩
  rcases holds_of_writeAll hall hproper (.refl last) hlater (hholds.of_extends hprepared) with
    ⟨hkept, hnone⟩ | ⟨other, hother, hsame, hheld⟩
  · exact .inl ⟨readText_of_holds hresolve hkept, hnone⟩
  · exact .inr ⟨other, hother, hsame, hsame.lastName_eq hlater (hproper other hother),
      readText_of_holds hresolve hheld⟩

end FileTree

end ProviderDocs
