import ProviderDocs.Proofs.TypeName.Choice
import ProviderDocs.Proofs.TypeName.Coverage

/-!
# Entities that share no names

Names are given in the order of declaration, so in general the order of entities matters. A visit,
however, looks up only the names that it may go by, and records its declaration under one of them.
Two neighbours in the order whose object types may go by no common name can therefore change places:
the walk succeeds in one order when it does in the other, and leaves the same registry.
-/

namespace ProviderDocs

/-! ## Names that a visit may go by -/

def Visit.possibleNames : Visit → List String
  | object graph property _ => graph.possibleNames property
  | named name _ => [name]
  | omitted _ _ => []

/-- The names that the object types of an entity may go by. -/
def Provider.possibleNames (provider : Provider) (schema : EntitySchema) : List String :=
  (schema.visits (provider.overrides? schema)).flatMap Visit.possibleNames

namespace TypeRegistry

/-- The registries hold the same entries under these names. -/
def AgreesOn (names : List String) (registry other : TypeRegistry) : Prop :=
  ∀ name ∈ names, registry.get? name = other.get? name

variable {registry other next : TypeRegistry} {names : List String}

theorem AgreesOn.mono {fewer : List String} (h : AgreesOn names registry other)
    (hsubset : fewer ⊆ names) : AgreesOn fewer registry other :=
  fun name hname ↦ h name (hsubset hname)

theorem AgreesOn.isFree_eq (h : AgreesOn names registry other) {name : String}
    (hname : name ∈ names) (declarer : String) (type : PropertyType) :
    registry.isFree name declarer type = other.isFree name declarer type := by
  rw [isFree, isFree, h name hname]

theorem AgreesOn.usable_iff (h : AgreesOn names registry other) {name : String}
    (hname : name ∈ names) (declaration : Declaration) :
    registry.Usable declaration name ↔ other.Usable declaration name := by
  rw [Usable, Usable, h name hname]

/-! ## The chosen name -/

/-- The entries under possible names decide which of the names is chosen. -/
theorem AgreesOn.chooseName_eq {graph : TypeNameGraph} {property : String}
    (h : AgreesOn (graph.possibleNames property) registry other) (declarer : String)
    (type : PropertyType) :
    registry.chooseName graph property declarer type =
      other.chooseName graph property declarer type :=
  chooseName_congr fun _ hname ↦ h.isFree_eq hname declarer type

theorem AgreesOn.recording?_eq {visit : Visit} (h : AgreesOn visit.possibleNames registry other) :
    visit.recording? registry = visit.recording? other := by
  cases visit with
  | object graph property declaration =>
    have hname := AgreesOn.chooseName_eq h declaration.declarer declaration.type
    rw [Visit.recording?, Visit.recording?, hname]
  | named name declaration => rfl
  | omitted entity field => rfl

theorem name_mem_possibleNames {visit : Visit} {recording : Recording}
    (h : visit.recording? registry = some recording) : recording.name ∈ visit.possibleNames := by
  cases visit with
  | object graph property declaration =>
    cases h
    exact chooseName_mem_possibleNames ..
  | named name declaration =>
    cases h
    exact List.mem_singleton_self _
  | omitted entity field => cases h

/-! ## One visit -/

/-- A visit changes nothing but entries under its possible names. -/
theorem get?_of_visit {visit : Visit} (h : registry.visit visit = .ok next) {name : String}
    (hname : name ∉ visit.possibleNames) : next.get? name = registry.get? name := by
  obtain ⟨recording, hrecording, -, rfl⟩ := visit_eq_ok_iff.mp h
  have hne : name ≠ recording.name :=
    fun heq ↦ hname (heq ▸ name_mem_possibleNames hrecording)
  rw [get?_recordUnder, if_neg hne]

/-- What a visit does is decided by the entries under its possible names. -/
theorem AgreesOn.visit {visit : Visit} (hagree : AgreesOn names registry other)
    (hnames : visit.possibleNames ⊆ names) (h : registry.visit visit = .ok next) :
    ∃ after, other.visit visit = .ok after ∧ AgreesOn names next after := by
  obtain ⟨recording, hrecording, husable, rfl⟩ := visit_eq_ok_iff.mp h
  have hmem : recording.name ∈ names := hnames (name_mem_possibleNames hrecording)
  refine ⟨other.recordUnder recording.name recording.declaration, ?_, ?_⟩
  · rw [visit_eq_ok_iff]
    rw [(hagree.mono hnames).recording?_eq] at hrecording
    exact ⟨recording, hrecording, (hagree.usable_iff hmem _).mp husable, rfl⟩
  · intro name hname
    rw [get?_recordUnder, get?_recordUnder, hagree _ hmem, hagree _ hname]

/-! ## Runs of visits -/

theorem get?_of_foldlM_visit {visits : List Visit}
    (h : visits.foldlM TypeRegistry.visit registry = .ok next) {name : String}
    (hname : name ∉ visits.flatMap Visit.possibleNames) :
    next.get? name = registry.get? name := by
  induction visits generalizing registry with
  | nil =>
    cases h
    rfl
  | cons visit rest ih =>
    rw [List.foldlM_cons, bind_eq_ok_iff] at h
    obtain ⟨between, hvisit, hrest⟩ := h
    rw [List.flatMap_cons, List.mem_append, not_or] at hname
    calc
      _ = between.get? name := ih hrest hname.2
      _ = _ := get?_of_visit hvisit hname.1

theorem AgreesOn.foldlM_visit {visits : List Visit} (hagree : AgreesOn names registry other)
    (hnames : visits.flatMap Visit.possibleNames ⊆ names)
    (h : visits.foldlM TypeRegistry.visit registry = .ok next) :
    ∃ after, visits.foldlM TypeRegistry.visit other = .ok after ∧ AgreesOn names next after := by
  induction visits generalizing registry other with
  | nil =>
    cases h
    exact ⟨other, rfl, hagree⟩
  | cons visit rest ih =>
    rw [List.foldlM_cons, bind_eq_ok_iff] at h
    obtain ⟨between, hvisit, hrest⟩ := h
    rw [List.flatMap_cons, List.append_subset] at hnames
    obtain ⟨changed, hchanged, hbetween⟩ := hagree.visit hnames.1 hvisit
    obtain ⟨after, hafter, hend⟩ := ih hbetween hnames.2 hrest
    refine ⟨after, ?_, hend⟩
    rw [List.foldlM_cons, hchanged]
    exact hafter

/-- Runs that have no possible name in common commute. -/
theorem foldlM_visit_swap {first second : List Visit}
    (h : ∀ name ∈ first.flatMap Visit.possibleNames,
      name ∉ second.flatMap Visit.possibleNames)
    (hrun : (first ++ second).foldlM TypeRegistry.visit registry = .ok next) :
    (second ++ first).foldlM TypeRegistry.visit registry = .ok next := by
  rw [List.foldlM_append, bind_eq_ok_iff] at hrun
  obtain ⟨between, hfirst, hsecond⟩ := hrun
  -- Each run finds its names as they are at the start, whichever goes first.
  have hstart : AgreesOn (second.flatMap Visit.possibleNames) between registry :=
    fun name hname ↦ get?_of_foldlM_visit hfirst fun hmem ↦ h name hmem hname
  obtain ⟨changed, hchanged, hsame⟩ := hstart.foldlM_visit (List.Subset.refl _) hsecond
  have hkept : AgreesOn (first.flatMap Visit.possibleNames) registry changed :=
    fun name hname ↦ (get?_of_foldlM_visit hchanged (h name hname)).symm
  obtain ⟨last, hlast, hlike⟩ := hkept.foldlM_visit (List.Subset.refl _) hfirst
  have hend : last = next := by
    apply ext_get?
    intro name
    by_cases hname : name ∈ first.flatMap Visit.possibleNames
    · calc
        _ = between.get? name := (hlike name hname).symm
        _ = next.get? name := (get?_of_foldlM_visit hsecond (h name hname)).symm
    · have hback : last.get? name = changed.get? name := get?_of_foldlM_visit hlast hname
      by_cases hother : name ∈ second.flatMap Visit.possibleNames
      · exact hback.trans (hsame name hother).symm
      · calc
          _ = changed.get? name := hback
          _ = registry.get? name := get?_of_foldlM_visit hchanged hother
          _ = between.get? name := (get?_of_foldlM_visit hfirst hname).symm
          _ = next.get? name := (get?_of_foldlM_visit hsecond hother).symm
  rw [List.foldlM_append, hchanged]
  exact hend ▸ hlast

end TypeRegistry

/-! ## Neighbours in the order of entities -/

theorem Provider.visits_neighbours (provider : Provider) (before after : List EntitySchema)
    (first second : EntitySchema) :
    provider.visits (before ++ first :: second :: after) =
      provider.visits before ++
        ((first.visits (provider.overrides? first) ++
          second.visits (provider.overrides? second)) ++ provider.visits after) := by
  simp only [visits, List.flatMap_append, List.flatMap_cons, List.append_assoc]
  rfl

/-- If two neighbours have no possible name in common, the walk succeeds with them swapped exactly
when it does as they are, and it leaves the same registry. -/
theorem Provider.typeRegistry_swap {provider : Provider} {first second : EntitySchema}
    (h : ∀ name ∈ provider.possibleNames first, name ∉ provider.possibleNames second)
    (before after : List EntitySchema) (registry : TypeRegistry) :
    provider.typeRegistry (before ++ first :: second :: after) = .ok registry ↔
      provider.typeRegistry (before ++ second :: first :: after) = .ok registry := by
  have hrun (one other : EntitySchema)
      (hdisjoint : ∀ name ∈ provider.possibleNames one, name ∉ provider.possibleNames other)
      (hok : provider.typeRegistry (before ++ one :: other :: after) = .ok registry) :
      provider.typeRegistry (before ++ other :: one :: after) = .ok registry := by
    rw [typeRegistry_eq_foldlM, visits_neighbours, List.foldlM_append,
      bind_eq_ok_iff] at hok ⊢
    obtain ⟨start, hstart, hok⟩ := hok
    rw [List.foldlM_append, bind_eq_ok_iff] at hok
    obtain ⟨next, hnext, hafter⟩ := hok
    refine ⟨start, hstart, ?_⟩
    rw [List.foldlM_append, TypeRegistry.foldlM_visit_swap hdisjoint hnext]
    exact hafter
  constructor
  · exact hrun first second h
  · apply hrun second first
    intro name hsecond hfirst
    exact h name hfirst hsecond

/-- A queue has a policy, and a property that is named like its type. -/
def queueSchema : EntitySchema where
  name := "aws_queue"
  typeName := "Queue"
  kind := .resource
  inputs := [.mk "policy" (.withField "id") false false false none]
  outputs := [.mk "policy" (.withField "arn") false false false none]
  state := [.mk "Queue" (.withField "url") true false false none]

theorem possibleNames_bucketSchema :
    bucketProvider.possibleNames bucketSchema =
      ["Rule", "BucketRuleFilter", "BucketRuleFilter"] := by
  rfl

theorem possibleNames_queueSchema :
    bucketProvider.possibleNames queueSchema =
      ["QueuePolicy", "QueuePolicy", "QueuePolicy", "QueuePolicy", "QueueQueue"] := by
  rfl

/-- Buckets and queues can be swapped, also before another list of buckets. -/
theorem typeRegistry_swap_bucketSchema :
    (∀ name ∈ bucketProvider.possibleNames bucketSchema,
      name ∉ bucketProvider.possibleNames queueSchema) ∧
    ∃ registry,
      bucketProvider.typeRegistry [bucketSchema, queueSchema, bucketSchema] = .ok registry ∧
        bucketProvider.typeRegistry [queueSchema, bucketSchema, bucketSchema] = .ok registry := by
  have hdisjoint : ∀ name ∈ bucketProvider.possibleNames bucketSchema,
      name ∉ bucketProvider.possibleNames queueSchema := by
    rw [possibleNames_bucketSchema, possibleNames_queueSchema]
    decide
  have hrun : ∃ registry,
      bucketProvider.typeRegistry [bucketSchema, queueSchema, bucketSchema] = .ok registry :=
    ⟨_, rfl⟩
  obtain ⟨registry, hrun⟩ := hrun
  have hswap := Provider.typeRegistry_swap hdisjoint [] [bucketSchema] registry
  exact ⟨hdisjoint, registry, hrun, hswap.mp hrun⟩

end ProviderDocs
