import ProviderDocs.Proofs.StableSort
import ProviderDocs.Proofs.TypeName.Candidates
import ProviderDocs.Proofs.TypeName.History

/-!
# The name that is chosen

Candidates are tried by length, and equally long ones in the order in which they were made. The
last one tried is the one that skips no property, whichever way it is looked up. A declaration
therefore fails only when every candidate is bound to another type, and the failure names the
longest.
-/

namespace ProviderDocs

/-- The earliest of the shortest usable names in a list. -/
structure IsFirstShortest (usable : String → Prop) (names : List String) (name : String) :
    Prop where
  isUsable : usable name
  position : ∃ before after, names = before ++ name :: after ∧
    (∀ other ∈ before, usable other → name.utf8ByteSize < other.utf8ByteSize) ∧
    ∀ other ∈ after, usable other → name.utf8ByteSize ≤ other.utf8ByteSize

namespace TypeRegistry

/-! ## Sorting by length -/

theorem lengthOrder_trans (a b c : String) :
    decide (a.utf8ByteSize ≤ b.utf8ByteSize) = true →
      decide (b.utf8ByteSize ≤ c.utf8ByteSize) = true →
        decide (a.utf8ByteSize ≤ c.utf8ByteSize) = true := by
  simp only [decide_eq_true_eq]
  exact Nat.le_trans

theorem lengthOrder_total (a b : String) :
    (decide (a.utf8ByteSize ≤ b.utf8ByteSize) || decide (b.utf8ByteSize ≤ a.utf8ByteSize)) =
      true := by
  simp only [Bool.or_eq_true, decide_eq_true_eq]
  exact Nat.le_total ..

theorem pairwise_byLength (names : List String) :
    (byLength names).Pairwise fun a b ↦ a.utf8ByteSize ≤ b.utf8ByteSize := by
  simpa only [byLength, decide_eq_true_eq] using
    List.pairwise_mergeSort lengthOrder_trans lengthOrder_total names

theorem mem_byLength {name : String} {names : List String} :
    name ∈ byLength names ↔ name ∈ names := List.mem_mergeSort

/-- Names of one length keep their order. -/
theorem filter_byLength (names : List String) (select : String → Bool) (size : Nat)
    (hsize : ∀ name, select name = true → name.utf8ByteSize = size) :
    (byLength names).filter select = names.filter select := by
  refine filter_mergeSort lengthOrder_trans lengthOrder_total names fun a b ha hb ↦ ?_
  simp [hsize a ha, hsize b hb]

/-- The first usable name by length is the earliest of the shortest ones. -/
theorem isFirstShortest_of_find? {usable : String → Bool} {names : List String} {name : String}
    (h : (byLength names).find? usable = some name) :
    IsFirstShortest (usable · = true) names name := by
  obtain ⟨husable, shorter, longer, hsplit, hshorter⟩ := List.find?_eq_some_iff_append.1 h
  have hsorted := pairwise_byLength names
  rw [hsplit, List.pairwise_append, List.pairwise_cons] at hsorted
  have hleast : ∀ other ∈ names, usable other = true →
      name.utf8ByteSize ≤ other.utf8ByteSize := by
    intro other hother hfree
    have hmem := mem_byLength.2 hother
    rw [hsplit, List.mem_append, List.mem_cons] at hmem
    rcases hmem with hmem | rfl | hmem
    · simpa [hfree] using hshorter other hmem
    · exact Nat.le_refl _
    · exact hsorted.2.1.1 other hmem
  let select := fun other : String ↦ usable other && other.utf8ByteSize = name.utf8ByteSize
  have hfound : names.find? select = some name := by
    have hfilter := filter_byLength names select name.utf8ByteSize (by simp [select])
    rw [← List.head?_filter, ← hfilter, List.head?_filter, List.find?_eq_some_iff_append]
    refine ⟨by simp [select, husable], shorter, longer, hsplit, ?_⟩
    intro other hother
    have hnot := hshorter other hother
    simp only [select, Bool.not_and, hnot, Bool.true_or]
  obtain ⟨-, before, after, hnames, hbefore⟩ := List.find?_eq_some_iff_append.1 hfound
  refine ⟨husable, before, after, hnames, ?_, ?_⟩
  · intro other hother hfree
    have hle := hleast other (by simp [hnames, hother]) hfree
    have hne : other.utf8ByteSize ≠ name.utf8ByteSize := by
      simpa [select, hfree] using hbefore other hother
    omega
  · intro other hother hfree
    exact hleast other (by simp [hnames, hother]) hfree

/-- Sorting by length leaves the longest name at the end when it was there. -/
theorem getLast?_byLength {names : List String} {longest : String}
    (h : EndsInLongest names longest) : (byLength names).getLast? = some longest := by
  let select := fun other : String ↦ decide (other.utf8ByteSize = longest.utf8ByteSize)
  have hlast : ((byLength names).filter select).getLast? = some longest := by
    obtain ⟨init, hnames⟩ := List.getLast?_eq_some_iff.1 h.last
    rw [filter_byLength names select longest.utf8ByteSize (by simp [select]), hnames]
    simp [select]
  obtain ⟨last, hbyLength⟩ : ∃ last, (byLength names).getLast? = some last := by
    rw [← Option.ne_none_iff_exists', Ne, List.getLast?_eq_none_iff]
    intro hnil
    simp [hnil] at hlast
  obtain ⟨init, hsplit⟩ := List.getLast?_eq_some_iff.1 hbyLength
  have hsize : last.utf8ByteSize = longest.utf8ByteSize := by
    have hle := h.length_le last (mem_byLength.1 (by simp [hsplit]))
    have hmem := mem_byLength.2 (List.mem_of_getLast? h.last)
    have hsorted := pairwise_byLength names
    rw [hsplit, List.mem_append, List.mem_singleton] at hmem
    rw [hsplit, List.pairwise_append] at hsorted
    rcases hmem with hmem | rfl
    · have hge := hsorted.2.2 longest hmem last (List.mem_singleton_self last)
      omega
    · rfl
  rw [hsplit] at hlast
  simp only [List.filter_append, List.filter_cons, List.filter_nil, select, hsize, decide_true,
    if_true, List.getLast?_concat] at hlast
  rw [hbyLength, hlast]

/-! ## Choosing -/

section Choosing

variable {registry : TypeRegistry} {graph : TypeNameGraph} {property : String}
  {declaration : Declaration} {node : TypeNameNode}

/-- The longest candidate may be taken. -/
def PrefersLongest (registry : TypeRegistry) (declaration : Declaration) (node : TypeNameNode) :
    Prop :=
  node.longest.utf8ByteSize < 120 ∧ registry.Usable declaration node.longest

theorem nameFor_of_prefersLongest (hnode : (graph.branch property).node? property = some node)
    (h : registry.PrefersLongest declaration node) :
    registry.nameFor graph property declaration = node.longest := by
  have hfree := isFree_iff.2 h.2
  have hlength : node.longest.utf8ByteSize < maxTypeNameLength := h.1
  simp [nameFor, chooseName, hnode, hfree, hlength]

theorem nameFor_of_not_prefersLongest
    (hnode : (graph.branch property).node? property = some node)
    (h : ¬ registry.PrefersLongest declaration node) :
    registry.nameFor graph property declaration =
      registry.briefName (graph.branch property) property declaration.declarer
        declaration.type := by
  have hnot : ¬ (node.longest.utf8ByteSize < maxTypeNameLength ∧
      registry.isFree node.longest declaration.declarer declaration.type = true) :=
    fun hboth ↦ h ⟨hboth.1, isFree_iff.1 hboth.2⟩
  simp only [nameFor, chooseName, hnode, Bool.and_eq_true, decide_eq_true_eq, if_neg hnot]

theorem isFirstShortest_nameFor (hnode : (graph.branch property).node? property = some node)
    (h : ¬ registry.PrefersLongest declaration node)
    (hsome : ∃ name ∈ node.paths, registry.Usable declaration name) :
    IsFirstShortest (registry.Usable declaration) node.paths
      (registry.nameFor graph property declaration) := by
  have husable : registry.Usable declaration =
      fun name ↦ registry.isFree name declaration.declarer declaration.type = true :=
    funext fun name ↦ propext isFree_iff.symm
  rw [nameFor_of_not_prefersLongest hnode h, husable]
  obtain ⟨name, hfind⟩ : ∃ name, (byLength node.paths).find?
      (registry.isFree · declaration.declarer declaration.type) = some name := by
    obtain ⟨name, hname, hfree⟩ := hsome
    rw [← Option.isSome_iff_exists, List.find?_isSome]
    exact ⟨name, mem_byLength.2 hname, isFree_iff.2 hfree⟩
  simp only [briefName, hnode, hfind]
  exact isFirstShortest_of_find? hfind

theorem nameFor_of_none_usable (hnode : (graph.branch property).node? property = some node)
    (hends : EndsInLongest node.paths node.longest)
    (hnone : ∀ name ∈ node.paths, ¬ registry.Usable declaration name) :
    registry.nameFor graph property declaration = node.longest := by
  have hnot : ¬ registry.PrefersLongest declaration node :=
    fun h ↦ hnone node.longest (List.mem_of_getLast? hends.last) h.2
  have hfind : (byLength node.paths).find?
      (registry.isFree · declaration.declarer declaration.type) = none := by
    rw [List.find?_eq_none]
    exact fun name hname hfree ↦ hnone name (mem_byLength.1 hname) (isFree_iff.1 hfree)
  rw [nameFor_of_not_prefersLongest hnode hnot]
  simp only [briefName, hnode, hfind, getLast?_byLength hends, Option.getD_some]

/-- The chosen name is usable as soon as some candidate is. -/
theorem usable_nameFor_iff (hnode : (graph.branch property).node? property = some node)
    (hends : EndsInLongest node.paths node.longest) :
    registry.Usable declaration (registry.nameFor graph property declaration) ↔
      ∃ name ∈ node.paths, registry.Usable declaration name := by
  by_cases hsome : ∃ name ∈ node.paths, registry.Usable declaration name
  · refine ⟨fun _ ↦ hsome, fun _ ↦ ?_⟩
    by_cases hlongest : registry.PrefersLongest declaration node
    · rw [nameFor_of_prefersLongest hnode hlongest]
      exact hlongest.2
    · exact (isFirstShortest_nameFor hnode hlongest hsome).isUsable
  · have hnone : ∀ name ∈ node.paths, ¬ registry.Usable declaration name :=
      fun name hname husable ↦ hsome ⟨name, hname, husable⟩
    rw [nameFor_of_none_usable hnode hends hnone]
    exact iff_of_false (hnone _ (List.mem_of_getLast? hends.last)) hsome

end Choosing

/-! ## Declaring -/

/-- How a declaration below a property fares, given the candidates of the property. -/
structure NamesFrom (registry : TypeRegistry) (graph : TypeNameGraph) (property : String)
    (declaration : Declaration) (node : TypeNameNode) : Prop where
  succeeds_iff : (∃ result, registry.declare graph property declaration = .ok result) ↔
    ∃ name ∈ node.paths, registry.Usable declaration name
  longest : ∀ next extended name,
    registry.declare graph property declaration = .ok (next, extended, name) →
      node.longest.utf8ByteSize < 120 ∧ registry.Usable declaration node.longest →
        name = node.longest
  shortest : ∀ next extended name,
    registry.declare graph property declaration = .ok (next, extended, name) →
      ¬ (node.longest.utf8ByteSize < 120 ∧ registry.Usable declaration node.longest) →
        IsFirstShortest (registry.Usable declaration) node.paths name
  failure : ∀ error, registry.declare graph property declaration = .error error →
    (∃ named, registry.get? node.longest = some named ∧
      error = .duplicateType node.longest named.declarer) ∧
    ∀ recorded, RegistryHistory.step ⟨registry, recorded⟩ (.declare graph property declaration) =
      ⟨registry, recorded⟩

/-- Candidates that end in the longest one are all that the choice depends on. -/
theorem namesFrom {registry : TypeRegistry} {graph : TypeNameGraph} {property : String}
    {declaration : Declaration} {node : TypeNameNode}
    (hnode : (graph.branch property).node? property = some node)
    (hends : EndsInLongest node.paths node.longest) :
    registry.NamesFrom graph property declaration node where
  succeeds_iff := by
    rw [← usable_nameFor_iff hnode hends]
    constructor
    · rintro ⟨⟨next, extended, name⟩, hok⟩
      obtain ⟨husable, rfl, -⟩ := declare_eq_ok_iff.1 hok
      exact husable
    · intro husable
      exact ⟨_, declare_eq_ok_iff.2 ⟨husable, rfl, rfl, rfl⟩⟩
  longest := by
    intro next extended name hok hlongest
    obtain ⟨-, rfl, -⟩ := declare_eq_ok_iff.1 hok
    exact nameFor_of_prefersLongest hnode hlongest
  shortest := by
    intro next extended name hok hlongest
    obtain ⟨husable, rfl, -⟩ := declare_eq_ok_iff.1 hok
    exact isFirstShortest_nameFor hnode hlongest ((usable_nameFor_iff hnode hends).1 husable)
  failure := by
    intro error herror
    obtain ⟨hnot, named, hnamed, hcause⟩ := declare_eq_error herror
    have hnone : ∀ name ∈ node.paths, ¬ registry.Usable declaration name :=
      fun name hname husable ↦ hnot ((usable_nameFor_iff hnode hends).2 ⟨name, hname, husable⟩)
    rw [nameFor_of_none_usable hnode hends hnone] at hnamed hcause
    refine ⟨⟨named, hnamed, hcause⟩, ?_⟩
    intro recorded
    have hperform : registry.perform (.declare graph property declaration) = .error error := by
      rw [perform, herror]
      rfl
    exact RegistryHistory.step_of_error hperform

/-- Below any graph that was made by branching, a property other than the root has candidates, and
a declaration under it is named from them. -/
theorem declare_below (registry : TypeRegistry) (root : String) (properties : List String)
    (property : String) (declaration : Declaration) (hproperty : property ≠ root) :
    ∃ node, ((TypeNameGraph.below root properties).branch property).node? property = some node ∧
      registry.NamesFrom (.below root properties) property declaration node := by
  have hroot : property ≠ (TypeNameGraph.below root properties).root := by
    rwa [TypeNameGraph.root_below]
  have hnode := TypeNameGraph.node?_branch_self hroot
  have hcoherent := TypeNameGraph.isCoherent_below root properties
  exact ⟨_, hnode, namesFrom hnode (hcoherent.extend _)⟩

/-- The longest candidate of `defaults` belongs to another entity's type here. -/
theorem declare_below_template :
    "defaults" ≠ "Template" ∧
      ∃ node, ((TypeNameGraph.below "Template" ["definition", "analysis"]).branch
          "defaults").node? "defaults" = some node ∧
        (empty.recordUnder "TemplateDefinitionAnalysisDefaults"
            ⟨"other.inputs.defaults", "other", .mk .object none [], .input⟩).NamesFrom
          (.below "Template" ["definition", "analysis"]) "defaults"
          ⟨"template.inputs.defaults", "template",
            .mk .object none [.mk "sheet" (.mk .string none []) false false false none],
            .input⟩ node :=
  ⟨by decide, declare_below _ _ _ _ _ (by decide)⟩

end TypeRegistry

/-! ## Names that a declaration may go by -/

/-- All candidates for the type of a property. A property named like the root has none, and its type
is named after the root and the property. -/
def TypeNameGraph.possibleNames (graph : TypeNameGraph) (property : String) : List String :=
  match graph.node? property with
  | some node => node.longest :: node.paths
  | none => [graph.root ++ Naming.pascalCase property]

namespace TypeRegistry

variable {registry other : TypeRegistry} {graph : TypeNameGraph} {property : String}

theorem chooseName_of_node?_eq_none (h : graph.node? property = none) (declarer : String)
    (type : PropertyType) :
    registry.chooseName graph property declarer type =
      graph.root ++ Naming.pascalCase property := by
  simp only [chooseName, briefName, h]

theorem chooseName_mem_possibleNames (registry : TypeRegistry) (graph : TypeNameGraph)
    (property declarer : String) (type : PropertyType) :
    registry.chooseName graph property declarer type ∈ graph.possibleNames property := by
  unfold TypeNameGraph.possibleNames
  cases hnode : graph.node? property with
  | none =>
    rw [chooseName_of_node?_eq_none hnode]
    exact List.mem_singleton_self _
  | some node =>
    simp only [chooseName, briefName, hnode]
    split
    case isTrue => exact List.mem_cons_self
    case isFalse =>
      split
      case h_1 name hfind =>
        have hmem := mem_byLength.mp (List.mem_of_find?_eq_some hfind)
        exact List.mem_cons_of_mem _ hmem
      case h_2 =>
        cases hlast : (byLength node.paths).getLast? with
        | none => exact List.mem_cons_self
        | some last =>
          have hmem := mem_byLength.mp (List.mem_of_getLast? hlast)
          exact List.mem_cons_of_mem _ hmem

/-- The choice depends only on which of the possible names are free. -/
theorem chooseName_congr {declarer otherDeclarer : String} {type otherType : PropertyType}
    (h : ∀ name ∈ graph.possibleNames property,
      registry.isFree name declarer type = other.isFree name otherDeclarer otherType) :
    registry.chooseName graph property declarer type =
      other.chooseName graph property otherDeclarer otherType := by
  unfold TypeNameGraph.possibleNames at h
  cases hnode : graph.node? property with
  | none => rw [chooseName_of_node?_eq_none hnode, chooseName_of_node?_eq_none hnode]
  | some node =>
    rw [hnode] at h
    have hlongest : registry.isFree node.longest declarer type =
        other.isFree node.longest otherDeclarer otherType :=
      h _ List.mem_cons_self
    have hfind : (byLength node.paths).find? (registry.isFree · declarer type) =
        (byLength node.paths).find? (other.isFree · otherDeclarer otherType) := by
      rw [← List.head?_filter, ← List.head?_filter]
      apply congrArg List.head?
      apply List.filter_congr
      intro name hname
      exact h name (List.mem_cons_of_mem _ (mem_byLength.mp hname))
    simp only [chooseName, briefName, hnode, hlongest, hfind]

end TypeRegistry

end ProviderDocs
