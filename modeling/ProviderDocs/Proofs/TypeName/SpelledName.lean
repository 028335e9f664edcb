import Mathlib.Data.List.Induction
import ProviderDocs.Proofs.TypeName.Choice

/-!
# Names spelled by chains of properties

Where every candidate is usable, the registry has no say in the choice of a name: the name is
spelled by the chain of properties that leads to the type. It joins the names of all of them in
Pascal case while that is short enough. Otherwise it joins those of the outermost and of the
innermost property only, since this candidate is made first and none is shorter.

Properties that are named like the root count for nothing on the way. At the end of a chain, such a
property makes a name with the root alone, however long.
-/

namespace ProviderDocs

/-! ## Spelling -/

/-- The root and the names of all properties of the chain, in Pascal case. -/
def fullTypeName (root : String) (chain : List String) : String :=
  chain.foldl (fun name property ↦ name ++ Naming.pascalCase property) root

/-- The root and the names of the outermost and of the innermost property, in Pascal case. -/
def briefTypeName (root : String) (outer : List String) (name : String) : String :=
  match outer with
  | [] => root ++ Naming.pascalCase name
  | outermost :: _ => root ++ Naming.pascalCase outermost ++ Naming.pascalCase name

/-- The name that a chain of properties spells when none of them is named like the root. -/
def chainTypeName (root : String) (outer : List String) (name : String) : String :=
  if (fullTypeName root (outer ++ [name])).utf8ByteSize < maxTypeNameLength then
    fullTypeName root (outer ++ [name])
  else briefTypeName root outer name

/-- The name that a chain of properties spells. -/
def spelledTypeName (root : String) (outer : List String) (name : String) : String :=
  if name = root then root ++ Naming.pascalCase name
  else chainTypeName root (outer.filter (· ≠ root)) name

theorem fullTypeName_concat (root : String) (outer : List String) (name : String) :
    fullTypeName root (outer ++ [name]) =
      fullTypeName root outer ++ Naming.pascalCase name := by
  rw [fullTypeName, List.foldl_append]
  rfl

theorem spelledTypeName_of_notMem {root name : String} {outer : List String}
    (h : root ∉ outer ++ [name]) :
    spelledTypeName root outer name = chainTypeName root outer name := by
  rw [List.mem_append, List.mem_singleton, not_or] at h
  have hfilter : outer.filter (· ≠ root) = outer := by
    rw [List.filter_eq_self]
    intro property hproperty
    exact decide_eq_true fun heq ↦ h.1 (heq ▸ hproperty)
  rw [spelledTypeName, if_neg (Ne.symm h.2), hfilter]

/-! ## The first candidate -/

/-- The list starts with `shortest`, and nothing in it is shorter. -/
structure StartsInShortest (paths : List String) (shortest : String) : Prop where
  first : paths.head? = some shortest
  le_length : ∀ path ∈ paths, shortest.utf8ByteSize ≤ path.utf8ByteSize

namespace StartsInShortest

variable {paths more : List String} {shortest : String}

theorem singleton (path : String) : StartsInShortest [path] path where
  first := rfl
  le_length other hother := Nat.le_of_eq (by rw [List.mem_singleton.mp hother])

theorem map_append (h : StartsInShortest paths shortest) (segment : String) :
    StartsInShortest (paths.map (· ++ segment)) (shortest ++ segment) where
  first := by rw [List.head?_map, h.first]; rfl
  le_length path hpath := by
    obtain ⟨shorter, hshorter, rfl⟩ := List.mem_map.mp hpath
    have hle := h.le_length shorter hshorter
    simp only [String.utf8ByteSize_append]
    omega

theorem append (h : StartsInShortest paths shortest)
    (hmore : ∀ path ∈ more, shortest.utf8ByteSize ≤ path.utf8ByteSize) :
    StartsInShortest (paths ++ more) shortest where
  first := by rw [List.head?_append, h.first]; rfl
  le_length := List.forall_mem_append.mpr ⟨h.le_length, hmore⟩

theorem ne_nil (h : StartsInShortest paths shortest) : paths ≠ [] := by
  rintro rfl
  cases h.first

/-- If the name at the start is usable, it is the earliest of the shortest usable names. -/
theorem eq_of_isFirstShortest (h : StartsInShortest paths shortest) {usable : String → Prop}
    (husable : usable shortest) {name : String} (hname : IsFirstShortest usable paths name) :
    name = shortest := by
  obtain ⟨before, after, hpaths, hbefore, -⟩ := hname.position
  have hfirst := h.first
  rw [hpaths] at hfirst
  cases before with
  | nil => exact Option.some.inj hfirst
  | cons head rest =>
    cases hfirst
    have hlt := hbefore shortest List.mem_cons_self husable
    have hle := h.le_length name (hpaths ▸ by simp)
    omega

end StartsInShortest

/-! ## Candidates of a chain -/

namespace TypeNameGraph

variable {root : String} {outer : List String}

theorem longest_below (h : root ∉ outer) :
    (below root outer).longestPath.getLast?.getD root = fullTypeName root outer := by
  induction outer using List.reverseRecOn with
  | nil => rfl
  | append_singleton outer name ih =>
    rw [List.mem_append, List.mem_singleton, not_or] at h
    have hname : name ≠ (below root outer).root := by
      rw [root_below]
      exact Ne.symm h.2
    rw [below_concat, longestPath_branch hname, List.getLast?_concat, Option.getD_some, extend,
      root_below, ih h.1, fullTypeName_concat]

theorem startsInShortest_below {outermost : String} (h : root ∉ outermost :: outer) :
    StartsInShortest (below root (outermost :: outer)).paths
      (root ++ Naming.pascalCase outermost) := by
  induction outer using List.reverseRecOn with
  | nil =>
    rw [List.mem_singleton] at h
    have hpaths : (below root [outermost]).paths = [root ++ Naming.pascalCase outermost] :=
      paths_branch (Ne.symm h)
    rw [hpaths]
    exact .singleton _
  | append_singleton outer name ih =>
    rw [← List.cons_append, List.mem_append, List.mem_singleton, not_or] at h
    have hbefore := ih h.1
    have hname : name ≠ (below root (outermost :: outer)).root := by
      rw [root_below]
      exact Ne.symm h.2
    rw [← List.cons_append, below_concat, paths_branch hname]
    apply hbefore.append
    intro path hpath
    rw [paths_extend_of_ne_nil hbefore.ne_nil] at hpath
    have hle := (hbefore.map_append _).le_length path hpath
    rw [String.utf8ByteSize_append] at hle
    omega

theorem longest_extend_below (h : root ∉ outer) (name : String) :
    ((below root outer).extend (Naming.pascalCase name)).longest =
      fullTypeName root (outer ++ [name]) := by
  rw [extend, root_below, longest_below h, fullTypeName_concat]

theorem startsInShortest_extend_below (h : root ∉ outer) (name : String) :
    StartsInShortest ((below root outer).extend (Naming.pascalCase name)).paths
      (briefTypeName root outer name) := by
  cases outer with
  | nil => exact .singleton _
  | cons outermost outer =>
    have hbelow := startsInShortest_below h
    rw [paths_extend_of_ne_nil hbelow.ne_nil]
    exact hbelow.map_append _

/-- The root itself has no candidates. -/
theorem node?_below_root (root : String) (outer : List String) :
    (below root outer).node? root = none := by
  induction outer using List.reverseRecOn with
  | nil => rfl
  | append_singleton outer name ih =>
    rw [below_concat]
    by_cases hname : name = root
    · rwa [branch_root (hname.trans (root_below root outer).symm)]
    · have hnode : ((below root outer).branch name).node? root = (below root outer).node? root := by
        rw [branch, if_neg (by rwa [root_below])]
        exact Dict.get?_insert_of_ne _ _ (Ne.symm hname)
      rw [hnode, ih]

/-- Properties named like the root count for nothing. -/
theorem below_filter (root : String) (outer : List String) :
    below root (outer.filter (· ≠ root)) = below root outer := by
  induction outer using List.reverseRecOn with
  | nil => rfl
  | append_singleton outer name ih =>
    rw [List.filter_append, below_concat]
    by_cases hname : name = root
    · rw [branch_root (hname.trans (root_below root outer).symm),
        List.filter_cons_of_neg (by simpa using hname), List.filter_nil, List.append_nil, ih]
    · rw [List.filter_cons_of_pos (by simpa using hname), List.filter_nil, below_concat, ih]

end TypeNameGraph

/-! ## The chosen name -/

namespace TypeRegistry

variable {registry : TypeRegistry} {declaration : Declaration}

theorem nameFor_below_of_notMem (h : ∀ name, registry.Usable declaration name)
    {root name : String} {outer : List String} (houter : root ∉ outer) (hname : name ≠ root) :
    registry.nameFor (.below root outer) name declaration = chainTypeName root outer name := by
  have hroot : name ≠ (TypeNameGraph.below root outer).root := by
    rwa [TypeNameGraph.root_below]
  have hnode := TypeNameGraph.node?_branch_self hroot
  have hlongest := TypeNameGraph.longest_extend_below houter name
  have hshortest := TypeNameGraph.startsInShortest_extend_below houter name
  unfold chainTypeName
  rw [← hlongest]
  split
  case isTrue hlength => exact nameFor_of_prefersLongest hnode ⟨hlength, h _⟩
  case isFalse hlength =>
    apply hshortest.eq_of_isFirstShortest (h _)
    apply isFirstShortest_nameFor hnode
    · exact fun hprefers ↦ hlength hprefers.1
    · exact ⟨_, List.mem_of_head? hshortest.first, h _⟩

/-- If all names are usable for a declaration, it goes by the name that its chain spells. -/
theorem nameFor_below (h : ∀ name, registry.Usable declaration name) (root : String)
    (outer : List String) (name : String) :
    registry.nameFor (.below root outer) name declaration = spelledTypeName root outer name := by
  unfold spelledTypeName
  split
  case isTrue hname =>
    subst hname
    have hbranch : (TypeNameGraph.below name outer).branch name = .below name outer :=
      TypeNameGraph.branch_root (TypeNameGraph.root_below name outer).symm
    have hnode := TypeNameGraph.node?_below_root name outer
    simp only [nameFor, chooseName, briefName, hbranch, hnode, TypeNameGraph.root_below]
  case isFalse hname =>
    rw [← TypeNameGraph.below_filter, nameFor_below_of_notMem h (by simp) hname]

end TypeRegistry

end ProviderDocs
