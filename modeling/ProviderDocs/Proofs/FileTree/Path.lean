import ProviderDocs.FileTree.Basic
import ProviderDocs.Proofs.Text.Search

/-!
# Names in paths

A path is cut at its slashes into names. Text without a slash at the end of a path is part of
the last name alone, so what a path ends with is what the location that it leads to ends with.
Locations with the same key have the same last name and lie below locations with the same key.
-/

namespace ProviderDocs

namespace Path

/-! ## Cutting -/

/-- The last piece of a text takes up what is put behind the text. -/
theorem splitOn_append {c : Char} (text : List Char) :
    ∃ front back, c ∉ back ∧ ∀ ending, c ∉ ending →
      (text ++ ending).splitOn c = front ++ [back ++ ending] := by
  by_cases hmem : c ∈ text
  · obtain ⟨front, back, rfl, hback⟩ := Text.exists_eq_append_cons_of_mem hmem
    refine ⟨front.splitOn c, back, hback, ?_⟩
    intro ending hending
    have hlast : (back ++ ending).splitOn c = [back ++ ending] :=
      List.splitOn_eq_singleton (by simp [hback, hending])
    rw [List.append_assoc, List.cons_append, List.splitOn_append_cons_self, hlast]
  · refine ⟨[], text, hmem, ?_⟩
    intro ending hending
    rw [List.splitOn_eq_singleton (by simp [hmem, hending]), List.nil_append]

/-! ## Names -/

/-- The names of a path as written. -/
def names (path : String) : List String := (path.toList.splitOn '/').map String.ofList

def lastName (path : String) : String := (names path).getLast?.getD ""

theorem names_append (path : String) {ending : String} (h : '/' ∉ ending.toList) :
    names (path ++ ending) = (names path).dropLast ++ [lastName path ++ ending] := by
  obtain ⟨front, back, -, hsplit⟩ := splitOn_append (c := '/') path.toList
  have hpath := hsplit [] List.not_mem_nil
  rw [List.append_nil, List.append_nil] at hpath
  simp [names, lastName, hpath, hsplit ending.toList h]

theorem slash_notMem_lastName (path : String) : '/' ∉ (lastName path).toList := by
  obtain ⟨front, back, hback, hsplit⟩ := splitOn_append (c := '/') path.toList
  have hpath := hsplit [] List.not_mem_nil
  rw [List.append_nil, List.append_nil] at hpath
  simpa [names, lastName, hpath] using hback

theorem names_eq (path : String) : names path = (names path).dropLast ++ [lastName path] := by
  simpa using names_append path (by simp : '/' ∉ "".toList)

theorem lastName_append (path : String) {ending : String} (h : '/' ∉ ending.toList) :
    lastName (path ++ ending) = lastName path ++ ending := by
  rw [lastName, names_append path h]
  simp

theorem names_slash (base path : String) :
    names (base ++ "/" ++ path) = names base ++ names path := by
  simp [names, List.splitOn_append_cons_self]

theorem names_of_notMem {name : String} (h : '/' ∉ name.toList) : names name = [name] := by
  simp [names, List.splitOn_eq_singleton h]

theorem names_slash_of_notMem (base : String) {name : String} (h : '/' ∉ name.toList) :
    (names (base ++ "/" ++ name)).dropLast = names base ∧
      lastName (base ++ "/" ++ name) = name := by
  rw [lastName, names_slash, names_of_notMem h]
  simp

/-- What a path ends with after its last slash is the last name of any longer path. -/
theorem lastName_append_eq (front path : String) :
    ∃ before, lastName (front ++ path) = before ++ lastName path := by
  by_cases hslash : '/' ∈ path.toList
  · obtain ⟨base, back, hpath, hback⟩ := Text.exists_eq_append_cons_of_mem hslash
    obtain ⟨base, rfl⟩ : ∃ text, base = String.toList text := ⟨_, String.toList_ofList.symm⟩
    obtain ⟨back, rfl⟩ : ∃ text, back = String.toList text := ⟨_, String.toList_ofList.symm⟩
    have heq : path = base ++ "/" ++ back := by
      rw [← String.toList_inj, hpath]
      simp
    refine ⟨"", ?_⟩
    rw [heq, ← String.append_assoc, ← String.append_assoc,
      (names_slash_of_notMem _ hback).2, (names_slash_of_notMem _ hback).2, String.empty_append]
  · refine ⟨lastName front, ?_⟩
    have hpath : lastName path = path := by
      rw [lastName, names_of_notMem hslash]
      rfl
    rw [lastName_append front hslash, hpath]

/-- A name that leads from a directory to something in it. -/
def IsProper (name : String) : Prop := name ≠ "" ∧ name ≠ "." ∧ name ≠ ".."

theorem isProper_of_length {name : String} (h : 2 < name.length) : IsProper name := by
  refine ⟨?_, ?_, ?_⟩
  all_goals
    rintro rfl
    exact absurd h (by decide)

/-! ## Joining -/

theorem isAbsolute_of_notMem {path : String} (h : '/' ∉ path.toList) : isAbsolute path = false := by
  rw [Bool.eq_false_iff]
  intro hfront
  exact h ((List.isPrefixOf_iff_prefix.mp hfront).subset (by decide))

/-- What follows a slash has no part in whether a path is absolute. -/
theorem isAbsolute_slash {base : String} (hbase : base ≠ "") (path : String) :
    isAbsolute (base ++ "/" ++ path) = isAbsolute base := by
  obtain ⟨chars, rfl⟩ : ∃ chars, base = String.ofList chars := ⟨_, String.ofList_toList.symm⟩
  cases chars with
  | nil => exact absurd rfl hbase
  | cons c rest => simp [isAbsolute, startsWith, List.isPrefixOf]

theorem exists_join_eq_append (base path : String) : ∃ front, join base path = front ++ path := by
  unfold join
  split
  · exact ⟨"", by simp⟩
  · split
    · exact ⟨base, rfl⟩
    · exact ⟨base ++ "/", rfl⟩

/-- However a path is gone on from, an ending without a slash stays the end of the last name. -/
theorem lastName_join (base path : String) {ending : String} (h : '/' ∉ ending.toList) :
    ∃ front, lastName (join base (path ++ ending)) = front ++ ending := by
  obtain ⟨front, hfront⟩ := exists_join_eq_append base (path ++ ending)
  rw [hfront, ← String.append_assoc, lastName_append _ h]
  exact ⟨_, rfl⟩

theorem isProper_lastName_join (base path : String) {ending : String} (h : '/' ∉ ending.toList)
    (hlength : 2 < ending.length) : IsProper (lastName (join base (path ++ ending))) := by
  obtain ⟨front, hfront⟩ := lastName_join base path h
  apply isProper_of_length
  rw [hfront, String.length_append]
  omega

/-- A name with another last character is not the name that a path is gone on to. -/
theorem lastName_join_ne (base path : String) {ending name : String} (h : '/' ∉ ending.toList)
    (hempty : ending.toList ≠ []) (hlast : ending.toList.getLast? ≠ name.toList.getLast?) :
    lastName (join base (path ++ ending)) ≠ name := by
  obtain ⟨front, hfront⟩ := lastName_join base path h
  rintro rfl
  apply hlast
  have hsome : ending.toList.getLast?.isSome := List.getLast?_isSome.mpr hempty
  rw [hfront, String.toList_append, List.getLast?_append, Option.or_of_isSome hsome]

theorem lastName_eq_of_endsWith {path : String} (h : endsWith path "/" = true) :
    lastName path = "" := by
  obtain ⟨front, hfront⟩ := List.isSuffixOf_iff_suffix.mp h
  have hpath : path = String.ofList front ++ "/" ++ "" := by
    rw [String.append_empty, ← String.toList_inj, String.toList_append, String.toList_ofList]
    exact hfront.symm
  rw [lastName, hpath, names_slash, names_of_notMem (by decide : '/' ∉ "".toList)]
  simp

theorem ne_empty_of_isProper {path : String} (h : IsProper (lastName path)) : path ≠ "" := by
  rintro rfl
  exact h.1 (by cbv)

/-- A path that ends with a proper name is gone on from with a slash. -/
theorem join_of_isProper {base path : String} (hbase : IsProper (lastName base))
    (hpath : isAbsolute path = false) : join base path = base ++ "/" ++ path := by
  have hempty : base.isEmpty = false := by
    rw [Bool.eq_false_iff, Ne, String.isEmpty_iff]
    exact ne_empty_of_isProper hbase
  have hend : endsWith base "/" = false := by
    rw [Bool.eq_false_iff]
    exact fun h ↦ hbase.1 (lastName_eq_of_endsWith h)
  simp [join, hempty, hend, hpath]

/-! ## Endings -/

theorem fileName?_eq_lastName {path : String} (h : IsProper (lastName path)) :
    fileName? path = some (lastName path) := by
  obtain ⟨hempty, hdot, hdots⟩ := h
  have hlast : (components path).getLast? = some (lastName path) := by
    have hnames := names_eq path
    unfold names at hnames
    unfold components
    rw [hnames]
    generalize lastName path = name at hempty hdot hdots
    generalize (List.map String.ofList (path.toList.splitOn '/')).dropLast = front
    cases front with
    | nil => simp [hempty]
    | cons first front => simp [hempty, hdot, List.filter_append]
  simp [fileName?, hlast, hdot, hdots]

/-- An extension is what follows the last dot of a name, when there is more before it. -/
theorem extension?_eq_some {path front ending : String}
    (hname : lastName path = front ++ "." ++ ending) (hfront : front ≠ "")
    (hending : '.' ∉ ending.toList) (hproper : IsProper (lastName path)) :
    extension? path = some ending := by
  have hchars : (lastName path).toList = front.toList ++ '.' :: ending.toList := by
    rw [hname]
    simp
  have hlength : 0 < front.toList.length := by
    exact List.length_pos_iff.mpr (mt String.toList_eq_nil_iff.mp hfront)
  simp only [extension?, fileName?_eq_lastName hproper, Option.bind_eq_bind, Option.bind_some,
    hchars, Text.afterLast_append_cons _ hending]
  rw [if_pos (by simp; omega), String.ofList_toList]

end Path

namespace FileTree

/-! ## Keys -/

theorem key_append_singleton (location : List String) (name : String) :
    key (location ++ [name]) = key location ++ "/" ++ name := by
  simp [key, String.join_append, String.join_cons, String.append_assoc]

theorem key_append_singleton_inj {location other : List String} {name last : String}
    (hname : '/' ∉ name.toList) (hlast : '/' ∉ last.toList) :
    key (location ++ [name]) = key (other ++ [last]) ↔ key location = key other ∧ name = last := by
  constructor
  · intro h
    have hnames := congrArg Path.names h
    rw [key_append_singleton, key_append_singleton, Path.names_slash, Path.names_slash,
      Path.names_of_notMem hname, Path.names_of_notMem hlast, List.append_singleton_inj] at hnames
    obtain ⟨hlocation, rfl⟩ := hnames
    rw [key_append_singleton, key_append_singleton] at h
    exact ⟨String.append_left_inj _ |>.mp (String.append_left_inj _ |>.mp h), rfl⟩
  · rintro ⟨hlocation, rfl⟩
    rw [key_append_singleton, key_append_singleton, hlocation]

end FileTree

end ProviderDocs
