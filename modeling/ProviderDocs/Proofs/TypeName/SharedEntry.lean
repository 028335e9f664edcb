import ProviderDocs.Proofs.TypeName.SoleEntity

/-!
# Object types of an entity that share an entry

An entity may declare its own names again with other types, so nothing keeps two of its object
types apart but the names that their chains spell. Chains that differ may spell the same, since
Pascal case forgets how words are set apart. The entry then keeps the type that was declared last.
-/

namespace ProviderDocs

namespace EntitySchema

variable {schema : EntitySchema}

/-- The call that declares an object type of the entity. -/
def call (schema : EntitySchema) (site : EntitySide × ObjectSite) : RegistryCall :=
  match site.2.givenName? with
  | some given => .enter given (schema.declaration site)
  | none => .declare (.below schema.typeName site.2.outer) site.2.name (schema.declaration site)

/-- The calls of a walk over the entity. -/
def calls (schema : EntitySchema) (overrides : Option FieldOverrides) : List RegistryCall :=
  (schema.sites overrides).map schema.call

theorem step_call {history : RegistryHistory} (h : history.registry.IsHeldBy schema.name)
    (site : EntitySide × ObjectSite) :
    history.step (schema.call site) =
      history.record (schema.soleName site.2) (schema.declaration site) := by
  have husable := usable_declaration h site
  unfold call soleName
  cases site.2.givenName? with
  | some given =>
    rw [RegistryHistory.step, TypeRegistry.perform, TypeRegistry.enter_of_usable (husable given)]
    rfl
  | none =>
    rw [RegistryHistory.step, TypeRegistry.perform, TypeRegistry.declare_eq,
      nameFor_eq_spelledName h, TypeRegistry.enter_of_usable (husable _)]
    rfl

theorem foldl_step_call (history : RegistryHistory) (h : history.registry.IsHeldBy schema.name)
    (sites : List (EntitySide × ObjectSite)) :
    (sites.map schema.call).foldl RegistryHistory.step history =
      history.recordAll (sites.map schema.recording) := by
  induction sites generalizing history with
  | nil => rfl
  | cons site rest ih =>
    rw [List.map_cons, List.foldl_cons, step_call h]
    exact ih _ (isHeldBy_record h (schema.soleName site.2) site)

theorem ofCalls_calls (schema : EntitySchema) (overrides : Option FieldOverrides) :
    RegistryHistory.ofCalls (schema.calls overrides) =
      RegistryHistory.start.recordAll ((schema.sites overrides).map schema.recording) :=
  foldl_step_call .start (TypeRegistry.isHeldBy_empty schema.name) _

theorem recorded_ofCalls_calls (schema : EntitySchema) :
    (RegistryHistory.ofCalls (schema.calls none)).recorded =
      (schema.sites none).map fun site ↦ ⟨schema.spelledName site.2, schema.declaration site⟩ := by
  rw [ofCalls_calls, RegistryHistory.recorded_recordAll, map_recording_none]
  rfl

theorem name_of_mem_zip {pair : (EntitySide × ObjectSite) × Recording}
    (h : pair ∈ (schema.sites none).zip (RegistryHistory.ofCalls (schema.calls none)).recorded) :
    pair.2.name = schema.spelledName pair.1.2 := by
  rw [recorded_ofCalls_calls, ← List.map_prod_left_eq_zip] at h
  obtain ⟨site, -, rfl⟩ := List.mem_map.mp h
  rfl

/-- The entry of an object type has the type of the last one whose chain spells the same. -/
theorem exists_last_of_mem_sites {site : EntitySide × ObjectSite}
    (hsite : site ∈ schema.sites none) :
    ∃ named last,
      (RegistryHistory.ofCalls (schema.calls none)).registry.get? (schema.spelledName site.2) =
          some named ∧
        (schema.sites none).findRev?
            (fun other ↦ schema.spelledName other.2 = schema.spelledName site.2) = some last ∧
          named.type = last.2.type := by
  have hrecorded := schema.recorded_ofCalls_calls
  have hfaithful := RegistryHistory.isFaithful_ofCalls (schema.calls none)
  have hmem : ⟨schema.spelledName site.2, schema.declaration site⟩ ∈
      (RegistryHistory.ofCalls (schema.calls none)).recorded := by
    rw [hrecorded]
    exact List.mem_map_of_mem hsite
  obtain ⟨named, hnamed⟩ :=
    Option.isSome_iff_exists.mp ((hfaithful.bound _).mpr ⟨_, hmem, rfl⟩)
  obtain ⟨declaration, hlast, htype, -⟩ := (hfaithful.describes _ named hnamed).last
  rw [RegistryHistory.last?, hrecorded, List.findRev?_eq_find?_reverse, ← List.map_reverse,
    List.find?_map, Option.map_map] at hlast
  obtain ⟨last, hfound, rfl⟩ := Option.map_eq_some_iff.mp hlast
  rw [List.findRev?_eq_find?_reverse]
  exact ⟨named, last, hnamed, hfound, htype⟩

end EntitySchema

/-- The registry of an entity that is alone and has no overrides is that of the calls that declare
its object types. All of these calls succeed. Two of them choose the same name exactly when the
chains of the object types spell the same, and the entry that they share has the type of the last
one. -/
theorem Provider.sharedEntry_iff {provider : Provider} {schema : EntitySchema}
    (h : provider.entity? schema.kind schema.name = none) :
    let history := RegistryHistory.ofCalls (schema.calls none)
    provider.typeRegistry [schema] = .ok history.registry ∧
      history.recorded.map (·.declaration) = (schema.sites none).map schema.declaration ∧
      (∀ first ∈ (schema.sites none).zip history.recorded,
        ∀ second ∈ (schema.sites none).zip history.recorded,
          first.2.name = second.2.name ↔
            schema.spelledName first.1.2 = schema.spelledName second.1.2) ∧
      ∀ site ∈ schema.sites none, ∃ named last,
        history.registry.get? (schema.spelledName site.2) = some named ∧
          (schema.sites none).findRev?
              (fun other ↦ schema.spelledName other.2 = schema.spelledName site.2) = some last ∧
            named.type = last.2.type := by
  intro history
  refine ⟨?_, ?_, ?_, ?_⟩
  · rw [typeRegistry_single, overrides?_eq_none h, schema.findSome?_requiredOmission?_none,
      ← schema.ofCalls_calls]
  · rw [schema.recorded_ofCalls_calls, List.map_map]
    rfl
  · intro first hfirst second hsecond
    rw [EntitySchema.name_of_mem_zip hfirst, EntitySchema.name_of_mem_zip hsecond]
  · exact fun site hsite ↦ EntitySchema.exists_last_of_mem_sites hsite

/-- The rules of a policy name a file in two ways. -/
def policySchema : EntitySchema where
  name := "aws_bucket"
  typeName := "Bucket"
  kind := .resource
  inputs := [.mk "policy" (.mk .object none
    [.mk "rule" (.mk .object none
      [.mk "log_file" (.withField "id") true false false none,
        .mk "logFile" (.withField "arn") true false false none]) true false false none])
    true false false none]
  outputs := []
  state := []

theorem sharedEntry_iff_policySchema :
    Provider.empty.entity? policySchema.kind policySchema.name = none ∧
      Provider.empty.typeRegistry [policySchema] =
        .ok (RegistryHistory.ofCalls (policySchema.calls none)).registry := by
  have hentity : Provider.empty.entity? policySchema.kind policySchema.name = none := rfl
  exact ⟨hentity, (Provider.sharedEntry_iff hentity).1⟩

/-- Both files go by one name though their types differ, and only the type of the second one is
kept, while the candidate without the rule is free. -/
theorem sharedEntry_logFile :
    ∃ first ∈ policySchema.sites none, ∃ second ∈ policySchema.sites none,
      first.1 = second.1 ∧ first.2.chain = ["policy", "rule", "log_file"] ∧
      second.2.chain = ["policy", "rule", "logFile"] ∧
      first.2.type.sameShape second.2.type = false ∧
      ∃ registry named, Provider.empty.typeRegistry [policySchema] = .ok registry ∧
        registry.get? "BucketPolicyRuleLogFile" = some named ∧
        named.paths.contains (policySchema.declaration first).path = true ∧
        named.paths.contains (policySchema.declaration second).path = true ∧
        named.type.properties.map (·.name) = ["arn"] ∧
        registry.get? "BucketPolicyLogFile" = none :=
  ⟨_, List.mem_of_getElem? (i := 2) rfl, _, List.mem_of_getElem? (i := 3) rfl, rfl, rfl, rfl, rfl,
    _, _, rfl, rfl, rfl, rfl, rfl, rfl⟩

end ProviderDocs
