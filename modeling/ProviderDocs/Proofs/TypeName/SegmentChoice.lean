import Mathlib.Algebra.Group.Nat.Defs
import Mathlib.Data.List.Induction
import ProviderDocs.Proofs.TypeName.SpelledName

/-!
# Which properties a candidate names

Below a root every candidate names the outermost property and some of those further in. A choice of
these is a number: its lowest bit tells of the property right below the outermost one. The
candidates stand in the order of the numbers of their choices, since going through one more property
puts the candidates that name it behind those that there are. Properties named like the root count
for nothing.
-/

namespace ProviderDocs

/-! ## Choices -/

/-- The segments whose bits are set in `choice`, in order. -/
def chosenSegments (segments : List String) (choice : Nat) : List String :=
  (segments.zipIdx.filter fun entry ↦ choice.testBit entry.2).map (·.1)

/-- The name of the outermost property and of those that `choice` tells of, in Pascal case. -/
def chosenTypeName (root outermost : String) (inner : List String) (choice : Nat) : String :=
  root ++ Naming.pascalCase outermost ++
    String.join (chosenSegments (inner.map Naming.pascalCase) choice)

/-- The choices that tell of the last of `count` inner properties; with none there is one choice. -/
def innermostChoices : Nat → List Nat
  | 0 => [0]
  | count + 1 => (List.range (2 ^ (count + 1))).filter (·.testBit count)

theorem chosenSegments_concat (segments : List String) (segment : String) (choice : Nat) :
    chosenSegments (segments ++ [segment]) choice =
      chosenSegments segments choice ++
        if choice.testBit segments.length then [segment] else [] := by
  unfold chosenSegments
  rw [List.zipIdx_append, List.filter_append, List.map_append, Nat.zero_add]
  congr 1
  cases h : choice.testBit segments.length <;> simp [h]

/-- Bits above those of the segments do not matter. -/
theorem chosenSegments_add (segments : List String) (choice : Nat) :
    chosenSegments segments (2 ^ segments.length + choice) = chosenSegments segments choice := by
  unfold chosenSegments
  congr 1
  apply List.filter_congr
  intro entry hentry
  exact Nat.testBit_two_pow_add_gt (List.snd_lt_of_mem_zipIdx hentry) choice

theorem range_two_pow_succ (count : Nat) :
    List.range (2 ^ (count + 1)) =
      List.range (2 ^ count) ++ (List.range (2 ^ count)).map (2 ^ count + ·) := by
  rw [Nat.pow_succ, Nat.mul_two, List.range_add]

theorem innermostChoices_succ (count : Nat) :
    innermostChoices (count + 1) = (List.range (2 ^ count)).map (2 ^ count + ·) := by
  have hlow : (List.range (2 ^ count)).filter (·.testBit count) = [] := by
    rw [List.filter_eq_nil_iff]
    intro choice hchoice
    rw [Nat.testBit_lt_two_pow (List.mem_range.mp hchoice)]
    exact Bool.false_ne_true
  have hhigh : ((List.range (2 ^ count)).map (2 ^ count + ·)).filter (·.testBit count) =
      (List.range (2 ^ count)).map (2 ^ count + ·) := by
    rw [List.filter_eq_self, List.forall_mem_map]
    intro choice hchoice
    rw [Nat.testBit_two_pow_add_eq, Nat.testBit_lt_two_pow (List.mem_range.mp hchoice)]
    rfl
  rw [innermostChoices, range_two_pow_succ, List.filter_append, hlow, hhigh, List.nil_append]

section Concat

variable (root outermost : String) (inner : List String) (name : String)

theorem chosenTypeName_concat_of_lt {choice : Nat} (h : choice < 2 ^ inner.length) :
    chosenTypeName root outermost (inner ++ [name]) choice =
      chosenTypeName root outermost inner choice := by
  have hbit : choice.testBit (inner.map Naming.pascalCase).length = false := by
    rw [List.length_map]
    exact Nat.testBit_lt_two_pow h
  unfold chosenTypeName
  rw [List.map_append, List.map_singleton, chosenSegments_concat, hbit, if_neg Bool.false_ne_true,
    List.append_nil]

theorem chosenTypeName_concat_add {choice : Nat} (h : choice < 2 ^ inner.length) :
    chosenTypeName root outermost (inner ++ [name]) (2 ^ inner.length + choice) =
      chosenTypeName root outermost inner choice ++ Naming.pascalCase name := by
  have hlength : inner.length = (inner.map Naming.pascalCase).length :=
    (List.length_map _).symm
  have hbit : (2 ^ inner.length + choice).testBit inner.length = true := by
    rw [Nat.testBit_two_pow_add_eq, Nat.testBit_lt_two_pow h]
    rfl
  unfold chosenTypeName
  rw [List.map_append, List.map_singleton, chosenSegments_concat, ← hlength, hbit, if_pos rfl,
    hlength, chosenSegments_add, String.join_append, String.join_cons, String.join_nil,
    String.append_empty, ← String.append_assoc]

/-- One more property: first the names without it, then those with it. -/
theorem map_chosenTypeName_innermost :
    (innermostChoices (inner.length + 1)).map (chosenTypeName root outermost (inner ++ [name])) =
      ((List.range (2 ^ inner.length)).map (chosenTypeName root outermost inner)).map
        (· ++ Naming.pascalCase name) := by
  rw [innermostChoices_succ, List.map_map, List.map_map]
  apply List.map_congr_left
  intro choice hchoice
  exact chosenTypeName_concat_add root outermost inner name (List.mem_range.mp hchoice)

theorem map_chosenTypeName_concat :
    (List.range (2 ^ (inner ++ [name]).length)).map
        (chosenTypeName root outermost (inner ++ [name])) =
      (List.range (2 ^ inner.length)).map (chosenTypeName root outermost inner) ++
        (innermostChoices (inner.length + 1)).map
          (chosenTypeName root outermost (inner ++ [name])) := by
  rw [List.length_append, List.length_singleton, range_two_pow_succ, List.map_append,
    innermostChoices_succ]
  congr 1
  apply List.map_congr_left
  intro choice hchoice
  exact chosenTypeName_concat_of_lt root outermost inner name (List.mem_range.mp hchoice)

end Concat

/-! ## The candidates below a root -/

namespace TypeNameGraph

variable {root outermost : String} {inner : List String}

theorem paths_below (h : root ∉ outermost :: inner) :
    (below root (outermost :: inner)).paths =
      (List.range (2 ^ inner.length)).map (chosenTypeName root outermost inner) := by
  induction inner using List.reverseRecOn with
  | nil =>
    have hroot : outermost ≠ root := by simpa [eq_comm] using h
    exact (paths_branch hroot).trans (congrArg (fun name ↦ [name]) String.append_empty.symm)
  | append_singleton inner name ih =>
    rw [← List.cons_append, List.mem_append, List.mem_singleton, not_or] at h
    have hname : name ≠ (below root (outermost :: inner)).root := by
      rw [root_below]
      exact Ne.symm h.2
    have hne : (below root (outermost :: inner)).paths ≠ [] := (startsInShortest_below h.1).ne_nil
    rw [← List.cons_append, below_concat, paths_branch hname, paths_extend_of_ne_nil hne, ih h.1,
      map_chosenTypeName_concat, map_chosenTypeName_innermost]

/-- The longest candidate at each depth names all properties up to there. -/
theorem longestPath_below {properties : List String} (h : root ∉ properties) :
    (below root properties).longestPath = (List.range properties.length).map fun depth ↦
      fullTypeName root (properties.take (depth + 1)) := by
  induction properties using List.reverseRecOn with
  | nil => rfl
  | append_singleton outer name ih =>
    rw [List.mem_append, List.mem_singleton, not_or] at h
    have hname : name ≠ (below root outer).root := by
      rw [root_below]
      exact Ne.symm h.2
    rw [below_concat, longestPath_branch hname, ih h.1, longest_extend_below h.1,
      List.length_append, List.length_singleton, List.range_succ, List.map_append,
      List.map_singleton]
    congr 1
    · apply List.map_congr_left
      intro depth hdepth
      rw [List.take_append_of_le_length (List.mem_range.mp hdepth)]
    · rw [List.take_of_length_le (by simp)]

theorem node?_below_concat (outer : List String) {name : String} (h : name ≠ root) :
    (below root (outer ++ [name])).node? name =
      some ((below root outer).extend (Naming.pascalCase name)) := by
  rw [below_concat]
  apply node?_branch_self
  rwa [root_below]

/-- The candidates of a further property are those that name it. -/
theorem paths_extend_below (h : root ∉ outermost :: inner) (name : String) :
    ((below root (outermost :: inner)).extend (Naming.pascalCase name)).paths =
      (innermostChoices (inner.length + 1)).map
        (chosenTypeName root outermost (inner ++ [name])) := by
  rw [paths_extend_of_ne_nil (startsInShortest_below h).ne_nil, paths_below h,
    map_chosenTypeName_innermost]

/-- The node of the innermost property has the candidates that name it. -/
theorem exists_node?_below (h : root ∉ outermost :: inner) :
    ∃ node,
      (below root (outermost :: inner)).node?
          ((outermost :: inner).getLast (List.cons_ne_nil _ _)) = some node ∧
        node.paths = (innermostChoices inner.length).map (chosenTypeName root outermost inner) ∧
        node.longest = fullTypeName root (outermost :: inner) ∧
        EndsInLongest node.paths node.longest := by
  rcases inner.eq_nil_or_concat with rfl | ⟨inner, name, rfl⟩
  · have hroot : outermost ≠ root := by simpa [eq_comm] using h
    refine ⟨_, node?_below_concat [] hroot, ?_, rfl, (isCoherent_below root []).extend _⟩
    exact congrArg (fun name ↦ [name]) String.append_empty.symm
  · rw [List.concat_eq_append] at h ⊢
    rw [← List.cons_append, List.mem_append, List.mem_singleton, not_or] at h
    refine ⟨(below root (outermost :: inner)).extend (Naming.pascalCase name), ?_, ?_,
      longest_extend_below h.1 name, (isCoherent_below root _).extend _⟩
    · simp only [← List.cons_append, List.getLast_concat]
      exact node?_below_concat _ (Ne.symm h.2)
    · rw [List.length_append, List.length_singleton]
      exact paths_extend_below h.1 name

/--
Below a root the candidates name the outermost property and any choice of those further in, in the
order of the choices. The longest candidates name all properties up to a depth. The candidates of
the innermost property are those that name it. The last one of them names all properties, and none
is longer.
-/
theorem candidates_below {properties : List String}
    (h : properties.filter (· ≠ root) = outermost :: inner) :
    below root properties = below root (outermost :: inner) ∧
    (below root properties).paths =
      (List.range (2 ^ inner.length)).map (chosenTypeName root outermost inner) ∧
    (below root properties).longestPath = ((List.range (inner.length + 1)).map fun depth ↦
      fullTypeName root ((outermost :: inner).take (depth + 1))) ∧
    ∃ node,
      (below root properties).node? ((outermost :: inner).getLast (List.cons_ne_nil _ _)) =
          some node ∧
        node.paths = (innermostChoices inner.length).map (chosenTypeName root outermost inner) ∧
        node.longest = fullTypeName root (outermost :: inner) ∧
        EndsInLongest node.paths node.longest := by
  have hgraph : below root properties = below root (outermost :: inner) := by
    rw [← below_filter, h]
  have hroot : root ∉ outermost :: inner := by
    rw [← h]
    simp
  rw [hgraph]
  exact ⟨rfl, paths_below hroot, longestPath_below hroot, exists_node?_below hroot⟩

theorem candidates_below_template :
    (["definition", "Template", "analysis_defaults", "sheet"].filter fun name ↦
        decide (name ≠ "Template")) = ["definition", "analysis_defaults", "sheet"] ∧
      (below "Template" ["definition", "Template", "analysis_defaults", "sheet"]).paths =
        ["TemplateDefinition", "TemplateDefinitionAnalysisDefaults", "TemplateDefinitionSheet",
          "TemplateDefinitionAnalysisDefaultsSheet"] := by
  have hfilter : (["definition", "Template", "analysis_defaults", "sheet"].filter fun name ↦
      decide (name ≠ "Template")) = ["definition", "analysis_defaults", "sheet"] := by decide
  refine ⟨hfilter, (candidates_below hfilter).2.1.trans ?_⟩
  decide +kernel

end TypeNameGraph

end ProviderDocs
