import ProviderDocs.TypeName.Graph

/-!
# Candidates below a root

Whatever properties a graph has gone through, the candidate that skips none of them is the last
one made, and no candidate is longer. The two ways of finding the longest candidate therefore
agree.
-/

namespace ProviderDocs

/-- The list ends in `longest`, and nothing in it is longer. -/
structure EndsInLongest (paths : List String) (longest : String) : Prop where
  last : paths.getLast? = some longest
  length_le : ∀ path ∈ paths, path.utf8ByteSize ≤ longest.utf8ByteSize

theorem EndsInLongest.map_append {paths : List String} {longest : String}
    (h : EndsInLongest paths longest) (segment : String) :
    EndsInLongest (paths.map (· ++ segment)) (longest ++ segment) where
  last := by rw [List.getLast?_map, h.last]; rfl
  length_le path hpath := by
    obtain ⟨shorter, hshorter, rfl⟩ := List.mem_map.1 hpath
    have hle := h.length_le shorter hshorter
    simp only [String.utf8ByteSize_append]
    omega

theorem EndsInLongest.append {paths more : List String} {longest segment : String}
    (h : EndsInLongest paths longest) (hmore : EndsInLongest more (longest ++ segment)) :
    EndsInLongest (paths ++ more) (longest ++ segment) where
  last := by rw [List.getLast?_append, hmore.last]; rfl
  length_le path hpath := by
    rcases List.mem_append.1 hpath with hpath | hpath
    · have hle := h.length_le path hpath
      simp only [String.utf8ByteSize_append]
      omega
    · exact hmore.length_le path hpath

namespace TypeNameGraph

/-- The graph below a root after going through some properties. -/
def below (root : String) (properties : List String) : TypeNameGraph :=
  properties.foldl branch (ofRoot root)

section Branch

variable {graph : TypeNameGraph} {property : String}

theorem branch_root (h : property = graph.root) : graph.branch property = graph := if_pos h

theorem paths_branch (h : property ≠ graph.root) :
    (graph.branch property).paths =
      graph.paths ++ (graph.extend (Naming.pascalCase property)).paths := by
  rw [branch, if_neg h]

theorem longestPath_branch (h : property ≠ graph.root) :
    (graph.branch property).longestPath =
      graph.longestPath ++ [(graph.extend (Naming.pascalCase property)).longest] := by
  rw [branch, if_neg h]

/-- The node of the property that was branched to last. -/
theorem node?_branch_self (h : property ≠ graph.root) :
    (graph.branch property).node? property =
      some (graph.extend (Naming.pascalCase property)) := by
  rw [branch, if_neg h, node?, Dict.get?_insert, if_pos rfl]

theorem root_branch (graph : TypeNameGraph) (property : String) :
    (graph.branch property).root = graph.root := by
  unfold branch
  split <;> rfl

end Branch

/-- Further candidates go on from those that there are. -/
theorem paths_extend_of_ne_nil {graph : TypeNameGraph} (h : graph.paths ≠ []) (segment : String) :
    (graph.extend segment).paths = graph.paths.map (· ++ segment) := by
  unfold extend
  split
  · contradiction
  · rfl

theorem below_concat (root : String) (properties : List String) (property : String) :
    below root (properties ++ [property]) = (below root properties).branch property := by
  rw [below, List.foldl_append]
  rfl

theorem root_below (root : String) (properties : List String) :
    (below root properties).root = root := by
  suffices h : ∀ graph : TypeNameGraph, (properties.foldl branch graph).root = graph.root from h _
  induction properties with
  | nil => exact fun graph ↦ rfl
  | cons property rest ih => exact fun graph ↦ (ih _).trans (root_branch graph property)

/-- The candidates and the record of the longest ones belong together. -/
def IsCoherent (graph : TypeNameGraph) : Prop :=
  graph.paths = [] ∧ graph.longestPath = [] ∨
    ∃ longest, graph.longestPath.getLast? = some longest ∧ EndsInLongest graph.paths longest

/-- The candidates of a further property end in the longest one. -/
theorem IsCoherent.extend {graph : TypeNameGraph} (h : graph.IsCoherent) (segment : String) :
    EndsInLongest (graph.extend segment).paths (graph.extend segment).longest := by
  rcases h with ⟨hpaths, hlongest⟩ | ⟨longest, hlongest, hends⟩
  · simp only [TypeNameGraph.extend, hpaths, hlongest]
    exact ⟨rfl, by simp⟩
  · have hne : graph.paths ≠ [] := by
      intro hnil
      simpa [hnil] using hends.last
    rw [paths_extend_of_ne_nil hne, TypeNameGraph.extend, hlongest]
    exact hends.map_append segment

theorem IsCoherent.branch {graph : TypeNameGraph} (h : graph.IsCoherent) (property : String) :
    (graph.branch property).IsCoherent := by
  by_cases hroot : property = graph.root
  · rwa [branch_root hroot]
  · have hends := h.extend (Naming.pascalCase property)
    refine .inr ⟨(graph.extend (Naming.pascalCase property)).longest, ?_, ?_⟩
    · rw [longestPath_branch hroot, List.getLast?_concat]
    · rw [paths_branch hroot]
      rcases h with ⟨hpaths, -⟩ | ⟨longest, hlongest, hbefore⟩
      · rwa [hpaths, List.nil_append]
      · have hlonger : (graph.extend (Naming.pascalCase property)).longest =
            longest ++ Naming.pascalCase property := by
          rw [TypeNameGraph.extend, hlongest]
          rfl
        rw [hlonger] at hends ⊢
        exact hbefore.append hends

theorem isCoherent_below (root : String) (properties : List String) :
    (below root properties).IsCoherent := by
  suffices h : ∀ graph : TypeNameGraph, graph.IsCoherent →
      (properties.foldl TypeNameGraph.branch graph).IsCoherent from h _ (.inl ⟨rfl, rfl⟩)
  induction properties with
  | nil => exact fun graph hgraph ↦ hgraph
  | cons property rest ih => exact fun graph hgraph ↦ ih _ (hgraph.branch property)

end TypeNameGraph

end ProviderDocs
