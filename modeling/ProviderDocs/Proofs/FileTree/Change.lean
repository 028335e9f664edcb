import ProviderDocs.Proofs.Dict
import ProviderDocs.Proofs.FileTree.Path

/-!
# What file operations leave in place

Writing a file and making directories only let a tree grow: a directory stays one, and nothing
that exists goes away. So a path that leads somewhere leads to the same location ever after,
and a file keeps its content as long as no write goes to its key.
-/

namespace ProviderDocs

namespace FileTree

variable {tree later : FileTree}

theorem node?_set (tree : FileTree) (location other : List String) (node : FileNode) :
    (tree.set location node).node? other =
      if key other = key location then some node else tree.node? other :=
  Dict.get?_insert ..

/-! ## Growing -/

/-- Directories stay directories and nothing goes away. -/
structure Grows (tree later : FileTree) : Prop where
  workingDirectory : later.workingDirectory = tree.workingDirectory
  directory : ∀ location, tree.node? location = some .directory →
    later.node? location = some .directory
  isSome : ∀ location, (tree.node? location).isSome → (later.node? location).isSome

theorem Grows.refl (tree : FileTree) : Grows tree tree := ⟨rfl, fun _ ↦ id, fun _ ↦ id⟩

theorem Grows.trans {last : FileTree} (h : Grows tree later) (hlast : Grows later last) :
    Grows tree last where
  workingDirectory := hlast.workingDirectory.trans h.workingDirectory
  directory location hnode := hlast.directory location (h.directory location hnode)
  isSome location hnode := hlast.isSome location (h.isSome location hnode)

theorem grows_set_file {location : List String} (h : tree.node? location ≠ some .directory)
    (content : ByteArray) (isExecutable : Bool) :
    Grows tree (tree.set location (.file content isExecutable)) where
  workingDirectory := rfl
  directory other hother := by
    rw [node?_set]
    split
    case isTrue hkey =>
      have hsame : tree.node? location = tree.node? other := congrArg tree.nodes.get? hkey.symm
      exact absurd (hsame.trans hother) h
    case isFalse => exact hother
  isSome other hother := by
    rw [node?_set]
    split
    case isTrue => rfl
    case isFalse => exact hother

/-- Everything stays as it is. -/
structure Extends (tree later : FileTree) : Prop where
  workingDirectory : later.workingDirectory = tree.workingDirectory
  node : ∀ location node, tree.node? location = some node → later.node? location = some node

theorem Extends.refl (tree : FileTree) : Extends tree tree := ⟨rfl, fun _ _ ↦ id⟩

theorem Extends.trans {last : FileTree} (h : Extends tree later) (hlast : Extends later last) :
    Extends tree last where
  workingDirectory := hlast.workingDirectory.trans h.workingDirectory
  node location node hnode := hlast.node location node (h.node location node hnode)

theorem Extends.grows (h : Extends tree later) : Grows tree later where
  workingDirectory := h.workingDirectory
  directory location hnode := h.node location .directory hnode
  isSome location hnode := by
    obtain ⟨node, hnode⟩ := Option.isSome_iff_exists.mp hnode
    rw [h.node location node hnode]
    rfl

/-! ## Following paths -/

theorem start_eq_ok {path : String} {location names : List String}
    (h : tree.start path = .ok (location, names)) :
    location = (if Path.isAbsolute path then [] else tree.workingDirectory) ∧
      names = Path.names path := by
  unfold start at h
  split at h
  · cases h
  · split at h
    · cases h
    · split at h
      · cases h
      · cases h
        exact ⟨rfl, rfl⟩

theorem start_congr (h : later.workingDirectory = tree.workingDirectory) (path : String) :
    later.start path = tree.start path := by
  unfold start
  rw [h]

theorem enter_eq_ok_iff {location result : List String} {name : String} :
    tree.enter location name = .ok result ↔
      tree.node? location = some .directory ∧
        ((name = "" ∨ name = ".") ∧ location = result ∨
          name = ".." ∧ location.dropLast = result ∨
          Path.IsProper name ∧ name.utf8ByteSize ≤ 255 ∧
            (tree.node? (location ++ [name])).isSome ∧ location ++ [name] = result) := by
  unfold enter Path.IsProper
  cases tree.node? location with
  | none => simp
  | some node =>
    cases node with
    | file => simp
    | directory =>
      by_cases hempty : name = ""
      · simp [hempty]
      · by_cases hdot : name = "."
        · simp [hdot]
        · by_cases hdots : name = ".."
          · simp [hdots]
          · rcases Nat.lt_or_ge 255 name.utf8ByteSize with hsize | hsize
            · simp [hempty, hdot, hdots, hsize, Nat.not_le.mpr hsize]
            · by_cases hsome : (tree.node? (location ++ [name])).isSome = true
              · simp [hempty, hdot, hdots, hsize, Nat.not_lt.mpr hsize, hsome]
              · simp [hempty, hdot, hdots, Nat.not_lt.mpr hsize, hsome]

/-- A proper name leads to what it names in a directory. -/
theorem enter_eq_ok_iff_of_isProper {location result : List String} {name : String}
    (hproper : Path.IsProper name) :
    tree.enter location name = .ok result ↔
      tree.node? location = some .directory ∧ name.utf8ByteSize ≤ 255 ∧
        (tree.node? (location ++ [name])).isSome ∧ location ++ [name] = result := by
  obtain ⟨hempty, hdot, hdots⟩ := hproper
  simp [enter_eq_ok_iff, Path.IsProper, hempty, hdot, hdots]

/-- What is not found by a proper name is missing in a directory, or there is no directory. -/
theorem of_enter_eq_notFound {location : List String} {name : String}
    (hproper : Path.IsProper name) (hsome : (tree.node? location).isSome)
    (h : tree.enter location name = .error .notFound) :
    tree.node? location = some .directory ∧ name.utf8ByteSize ≤ 255 := by
  obtain ⟨hempty, hdot, hdots⟩ := hproper
  obtain ⟨node, hnode⟩ := Option.isSome_iff_exists.mp hsome
  cases node with
  | file => simp [enter, hnode] at h
  | directory =>
    refine ⟨hnode, Nat.le_of_not_lt ?_⟩
    intro hsize
    simp [enter, hnode, hempty, hdot, hdots, hsize] at h

theorem enter_mono (h : Grows tree later) {location result : List String} {name : String}
    (hok : tree.enter location name = .ok result) : later.enter location name = .ok result := by
  rw [enter_eq_ok_iff] at hok ⊢
  obtain ⟨hdirectory, hname⟩ := hok
  refine ⟨h.directory _ hdirectory, hname.imp_right fun hrest ↦ hrest.imp_right ?_⟩
  rintro ⟨hproper, hsize, hsome, heq⟩
  exact ⟨hproper, hsize, h.isSome _ hsome, heq⟩

theorem foldlM_enter_mono (h : Grows tree later) {names location result : List String}
    (hok : names.foldlM tree.enter location = .ok result) :
    names.foldlM later.enter location = .ok result := by
  induction names generalizing location with
  | nil => exact hok
  | cons name rest ih =>
    rw [List.foldlM_cons] at hok ⊢
    cases henter : tree.enter location name with
    | error => simp [henter, bind, Except.bind] at hok
    | ok next =>
      rw [henter] at hok
      rw [enter_mono h henter]
      exact ih hok

theorem resolve_eq_ok_iff {path : String} {location : List String} :
    tree.resolve path = .ok location ↔
      ∃ start, tree.start path = .ok (start, Path.names path) ∧
        (Path.names path).foldlM tree.enter start = .ok location := by
  unfold resolve
  cases hstart : tree.start path with
  | error => simp [bind, Except.bind]
  | ok begin =>
    obtain ⟨start, names⟩ := begin
    obtain ⟨-, rfl⟩ := start_eq_ok hstart
    simp [bind, Except.bind]

theorem resolve_mono (h : Grows tree later) {path : String} {location : List String}
    (hok : tree.resolve path = .ok location) : later.resolve path = .ok location := by
  rw [resolve_eq_ok_iff] at hok ⊢
  obtain ⟨start, hstart, hfollow⟩ := hok
  exact ⟨start, (start_congr h.workingDirectory path).trans hstart, foldlM_enter_mono h hfollow⟩

/-! ## The place of the last name -/

/-- The names of a path before the last one lead to `parent`. -/
def LeadsTo (tree : FileTree) (path : String) (parent : List String) : Prop :=
  ∃ start, tree.start path = .ok (start, Path.names path) ∧
    (Path.names path).dropLast.foldlM tree.enter start = .ok parent

theorem LeadsTo.mono {path : String} {parent : List String} (hpath : tree.LeadsTo path parent)
    (h : Grows tree later) : later.LeadsTo path parent := by
  obtain ⟨start, hstart, hfollow⟩ := hpath
  exact ⟨start, (start_congr h.workingDirectory path).trans hstart, foldlM_enter_mono h hfollow⟩

theorem LeadsTo.unique {path : String} {parent other : List String}
    (hpath : tree.LeadsTo path parent) (hother : tree.LeadsTo path other) : parent = other := by
  obtain ⟨start, hstart, hfollow⟩ := hpath
  obtain ⟨begin, hbegin, hpast⟩ := hother
  rw [hstart] at hbegin
  cases hbegin
  rw [hfollow] at hpast
  cases hpast
  rfl

/-- The last of the names that lead to a place is the last name of the place. -/
theorem LeadsTo.exists_above {path name : String} {front parent : List String}
    (hpath : tree.LeadsTo path parent) (hnames : (Path.names path).dropLast = front ++ [name])
    (hproper : Path.IsProper name) :
    ∃ start above, tree.start path = .ok (start, Path.names path) ∧
      front.foldlM tree.enter start = .ok above ∧ (tree.node? parent).isSome ∧
        above ++ [name] = parent := by
  obtain ⟨start, hstart, hfollow⟩ := hpath
  rw [hnames, List.foldlM_append] at hfollow
  cases habove : front.foldlM tree.enter start with
  | error => simp [habove, bind, Except.bind] at hfollow
  | ok above =>
    rw [habove] at hfollow
    change [name].foldlM tree.enter above = .ok parent at hfollow
    simp only [List.foldlM_cons, List.foldlM_nil, bind_pure] at hfollow
    obtain ⟨-, -, hsome, rfl⟩ := (enter_eq_ok_iff_of_isProper hproper).mp hfollow
    exact ⟨start, above, hstart, habove, hsome, rfl⟩

/-- Where a path that goes on from `base` leads, one that goes on in `name` leads further down. -/
theorem LeadsTo.eq_append {base name last other : String} {above parent : List String}
    (habove : tree.LeadsTo (base ++ "/" ++ other) above)
    (hparent : tree.LeadsTo (base ++ "/" ++ name ++ "/" ++ last) parent)
    (hbase : base ≠ "") (hproper : Path.IsProper name) (hname : '/' ∉ name.toList)
    (hlast : '/' ∉ last.toList) (hother : '/' ∉ other.toList) : parent = above ++ [name] := by
  have hnames : (Path.names (base ++ "/" ++ name ++ "/" ++ last)).dropLast =
      Path.names base ++ [name] := by
    rw [(Path.names_slash_of_notMem _ hlast).1, Path.names_slash, Path.names_of_notMem hname]
  obtain ⟨begin, place, hbegin, hplace, -, rfl⟩ := hparent.exists_above hnames hproper
  obtain ⟨start, hstart, hfollow⟩ := habove
  have hassoc : base ++ "/" ++ name ++ "/" ++ last = base ++ "/" ++ (name ++ "/" ++ last) := by
    simp only [String.append_assoc]
  have hbegins : begin = start := by
    rw [(start_eq_ok hbegin).1, (start_eq_ok hstart).1, hassoc, Path.isAbsolute_slash hbase,
      Path.isAbsolute_slash hbase]
  rw [(Path.names_slash_of_notMem base hother).1, ← hbegins, hplace] at hfollow
  cases hfollow
  rfl

theorem LeadsTo.resolve_eq {path : String} {parent : List String}
    (hpath : tree.LeadsTo path parent) :
    tree.resolve path = tree.enter parent (Path.lastName path) := by
  obtain ⟨start, hstart, hfollow⟩ := hpath
  unfold resolve
  rw [hstart]
  simp only [bind, Except.bind]
  rw [Path.names_eq path, List.foldlM_append, hfollow]
  cases henter : tree.enter parent (Path.lastName path) <;>
    simp [henter, bind, Except.bind, pure, Except.pure]

theorem leadsTo_of_resolveNew {path : String} {location : List String}
    (hproper : Path.IsProper (Path.lastName path)) (h : tree.resolveNew path = .ok location) :
    ∃ parent, tree.LeadsTo path parent ∧ location = parent ++ [Path.lastName path] ∧
      ((tree.node? parent).isSome →
        tree.node? parent = some .directory ∧ (Path.lastName path).utf8ByteSize ≤ 255) := by
  unfold resolveNew at h
  cases hstart : tree.start path with
  | error => simp [hstart, bind, Except.bind] at h
  | ok begin =>
    obtain ⟨start, names⟩ := begin
    obtain ⟨-, rfl⟩ := start_eq_ok hstart
    rw [hstart] at h
    simp only [bind, Except.bind] at h
    cases hfollow : (Path.names path).dropLast.foldlM tree.enter start with
    | error => simp [hfollow] at h
    | ok parent =>
      rw [hfollow] at h
      refine ⟨parent, ⟨start, hstart, hfollow⟩, ?_⟩
      dsimp only at h
      split at h
      case h_1 henter =>
        cases h
        exact ⟨rfl, fun hparent ↦ of_enter_eq_notFound hproper hparent henter⟩
      case h_2 =>
        obtain ⟨hdirectory, hsize, -, heq⟩ := (enter_eq_ok_iff_of_isProper hproper).mp h
        exact ⟨heq.symm, fun _ ↦ ⟨hdirectory, hsize⟩⟩

/-! ## Writing -/

theorem write_eq_ok {path : String} {content : ByteArray}
    (h : tree.write path content = .ok later) :
    ∃ location isExecutable, tree.resolveNew path = .ok location ∧
      tree.node? location ≠ some .directory ∧
        later = tree.set location (.file content isExecutable) := by
  unfold write at h
  split at h
  case isTrue =>
    dsimp only at h
    split at h <;> cases h
  case isFalse =>
    dsimp only at h
    cases hlocation : tree.resolveNew path with
    | error => simp [hlocation, bind, Except.bind] at h
    | ok location =>
      simp only [hlocation, bind, Except.bind] at h
      split at h
      case h_1 => cases h
      case h_2 isExecutable hnode =>
        cases h
        exact ⟨location, isExecutable, rfl, by simp [hnode], rfl⟩
      case h_3 hnode =>
        cases h
        exact ⟨location, false, rfl, by simp [hnode], rfl⟩

theorem write_grows {path : String} {content : ByteArray}
    (h : tree.write path content = .ok later) : Grows tree later := by
  obtain ⟨location, isExecutable, -, hnode, rfl⟩ := write_eq_ok h
  exact grows_set_file hnode content isExecutable

theorem makeDirectory_extends {path : String} (h : tree.makeDirectory path = .ok later) :
    Extends tree later := by
  unfold makeDirectory at h
  cases hlocation : tree.resolveNew (withoutEndSlashes path) with
  | error => simp [hlocation, bind, Except.bind] at h
  | ok location =>
    simp only [hlocation, bind, Except.bind] at h
    split at h
    case h_1 => cases h
    case h_2 hnone =>
      cases h
      refine ⟨rfl, fun other node hother ↦ ?_⟩
      rw [node?_set]
      split
      case isTrue hkey =>
        have hsame : tree.node? location = tree.node? other := congrArg tree.nodes.get? hkey.symm
        rw [hsame, hother] at hnone
        cases hnone
      case isFalse => exact hother

/-- A directory that was there already counts as made. -/
theorem settle_extends {path : String} {outcome : Except FileError FileTree}
    (houtcome : ∀ made, outcome = .ok made → Extends tree made)
    (h : (match outcome with
      | .ok made => .ok made
      | .error error => if tree.isDirectory path then .ok tree else .error error) =
        Except.ok later) : Extends tree later := by
  cases outcome with
  | ok made =>
    cases h
    exact houtcome later rfl
  | error error =>
    dsimp only at h
    split at h
    · cases h
      exact .refl _
    · cases h

theorem makeDirectoriesWithin_extends {fuel : Nat} {path : String}
    (h : makeDirectoriesWithin fuel tree path = .ok later) : Extends tree later := by
  induction fuel generalizing tree later path with
  | zero =>
    unfold makeDirectoriesWithin at h
    dsimp only at h
    split at h
    case isTrue =>
      cases h
      exact .refl _
    case isFalse =>
      split at h
      case h_1 hfuel => cases hfuel
      case h_2 => exact settle_extends (fun _ ↦ makeDirectory_extends) h
  | succ fuel ih =>
    unfold makeDirectoriesWithin at h
    dsimp only at h
    split at h
    case isTrue =>
      cases h
      exact .refl _
    case isFalse =>
      split at h
      case h_1 hfuel =>
        cases hfuel
        split at h
        case h_1 parent _ =>
          split at h
          case h_1 above habove =>
            exact (ih habove).trans (settle_extends (fun _ ↦ makeDirectory_extends) h)
          case h_2 => cases h
        case h_2 => cases h
      case h_2 => exact settle_extends (fun _ ↦ makeDirectory_extends) h

theorem makeDirectories_extends {path : String} (h : tree.makeDirectories path = .ok later) :
    Extends tree later :=
  makeDirectoriesWithin_extends h

theorem makeTemporary_eq_ok {namePrefix path : String}
    (h : tree.makeTemporary namePrefix = .ok (path, later)) :
    ∃ number : Nat, path = Path.join tree.temporary namePrefix ++ toString number ∧
      tree.makeDirectory path = .ok later := by
  unfold makeTemporary at h
  dsimp only at h
  generalize tree.freeNumber _ _ _ = number at h
  cases hmade : tree.makeDirectory (Path.join tree.temporary namePrefix ++ toString number) with
  | error => simp only [hmade, bind, Except.bind, reduceCtorEq] at h
  | ok made =>
    simp only [hmade, bind, Except.bind] at h
    cases h
    exact ⟨number, rfl, hmade⟩

theorem fromUTF8?_toUTF8 (text : String) : String.fromUTF8? text.toUTF8 = some text := by
  have hvalid : text.toUTF8.IsValidUTF8 := text.isValidUTF8
  rw [String.fromUTF8?, dif_pos hvalid]
  rfl

end FileTree

end ProviderDocs
