import ProviderDocs.Proofs.TypeName.Coverage
import ProviderDocs.Proofs.TypeName.Encounter
import ProviderDocs.Proofs.TypeName.Replay
import ProviderDocs.Proofs.TypeName.SpelledName

/-!
# An entity alone

As long as one entity has made all declarations, every name is usable for its next one. No name of
the entity is then refused, and each object type goes by the name that the overrides give or that
its chain of properties spells. Only a field that must not be left out stops the walk, and walking
over the entity a second time records the same once more.
-/

namespace ProviderDocs

namespace TypeRegistry

variable {registry : TypeRegistry} {declaration : Declaration}

/-- All entries were declared last by one entity. -/
def IsHeldBy (registry : TypeRegistry) (entity : String) : Prop :=
  ∀ name named, registry.get? name = some named → named.declarer = entity

theorem isHeldBy_empty (entity : String) : empty.IsHeldBy entity := fun _ _ h ↦ nomatch h

theorem IsHeldBy.usable (h : registry.IsHeldBy declaration.declarer) (name : String) :
    registry.Usable declaration name := fun named hnamed ↦ .inl (h name named hnamed)

theorem IsHeldBy.recordUnder (h : registry.IsHeldBy declaration.declarer) (name : String) :
    (registry.recordUnder name declaration).IsHeldBy declaration.declarer := by
  intro other named hnamed
  rw [get?_recordUnder] at hnamed
  split at hnamed
  case isTrue =>
    cases hnamed
    rfl
  case isFalse => exact h other named hnamed

end TypeRegistry

namespace EntitySchema

variable {schema : EntitySchema}

/-! ## What an entity alone records -/

/-- The name that is spelled by the chain of an object type of the entity. -/
def spelledName (schema : EntitySchema) (site : ObjectSite) : String :=
  spelledTypeName schema.typeName site.outer site.name

/-- The name of an object type of the entity when every name is usable for it. -/
def soleName (schema : EntitySchema) (site : ObjectSite) : String :=
  site.givenName?.getD (schema.spelledName site)

def recording (schema : EntitySchema) (site : EntitySide × ObjectSite) : Recording :=
  ⟨schema.soleName site.2, schema.declaration site⟩

/-- What is recorded for the object types that a walk comes by. -/
def recording? (schema : EntitySchema) (encounter : EntitySide × Encounter) : Option Recording :=
  encounter.2.site?.map fun site ↦ schema.recording (encounter.1, site)

theorem filterMap_recording? (schema : EntitySchema) (overrides : Option FieldOverrides) :
    (schema.encounters overrides).filterMap schema.recording? =
      (schema.sites overrides).map schema.recording := by
  rw [sites, List.map_filterMap]
  refine congrArg (List.filterMap · _) (funext fun encounter ↦ ?_)
  rw [recording?, Option.map_map]
  rfl

theorem usable_declaration {registry : TypeRegistry} (h : registry.IsHeldBy schema.name)
    (site : EntitySide × ObjectSite) (name : String) :
    registry.Usable (schema.declaration site) name := TypeRegistry.IsHeldBy.usable h name

theorem nameFor_eq_spelledName {registry : TypeRegistry} (h : registry.IsHeldBy schema.name)
    (site : EntitySide × ObjectSite) :
    registry.nameFor (.below schema.typeName site.2.outer) site.2.name (schema.declaration site) =
      schema.spelledName site.2 :=
  TypeRegistry.nameFor_below (usable_declaration h site) ..

theorem isHeldBy_record {history : RegistryHistory}
    (h : history.registry.IsHeldBy schema.name) (name : String)
    (site : EntitySide × ObjectSite) :
    (history.record name (schema.declaration site)).registry.IsHeldBy schema.name :=
  TypeRegistry.IsHeldBy.recordUnder h name

theorem visit_eq_ok {registry : TypeRegistry} (h : registry.IsHeldBy schema.name)
    (side : EntitySide) (site : ObjectSite) :
    registry.visit (site.visit schema.name side.side (.ofRoot schema.typeName)
        (TypePath.child schema.name side.segment)) =
      .ok (registry.recordUnder (schema.soleName site) (schema.declaration (side, site))) := by
  have husable := usable_declaration h (side, site)
  unfold ObjectSite.visit soleName
  cases site.givenName? with
  | some given => exact TypeRegistry.enter_of_usable (husable given)
  | none =>
    have hname := nameFor_eq_spelledName h (side, site)
    rw [Option.getD_none, ← hname]
    exact TypeRegistry.enter_of_usable (husable _)

/-- While all entries are held by the entity, its walk goes on to the first field that must not be
left out, and records one declaration for each object type. -/
theorem foldlM_visit_encounters (history : RegistryHistory)
    (h : history.registry.IsHeldBy schema.name) (encounters : List (EntitySide × Encounter)) :
    (encounters.filterMap schema.visit?).foldlM TypeRegistry.visit history.registry =
      match encounters.findSome? (·.2.requiredOmission?) with
      | some field => .error (.requiredFieldOmitted schema.name field.name)
      | none => .ok (history.recordAll (encounters.filterMap schema.recording?)).registry := by
  induction encounters generalizing history with
  | nil => rfl
  | cons encounter rest ih =>
    obtain ⟨side, encounter⟩ := encounter
    cases encounter with
    | object site =>
      have hvisit := visit_eq_ok h side site
      have hrest := ih _ (isHeldBy_record h (schema.soleName site) (side, site))
      simp only [List.filterMap_cons, visit?, Encounter.visit?, List.foldlM_cons, hvisit,
        List.findSome?_cons, Encounter.requiredOmission?, recording?, Encounter.site?,
        Option.map_some]
      exact hrest
    | omission field =>
      by_cases hoptional : field.isOptional = true
      · simp only [List.filterMap_cons, visit?, Encounter.visit?, hoptional, if_true,
          List.findSome?_cons, Encounter.requiredOmission?, recording?, Encounter.site?,
          Option.map_none]
        exact ih history h
      · simp only [List.filterMap_cons, visit?, Encounter.visit?, hoptional,
          List.findSome?_cons, Encounter.requiredOmission?]
        rfl

/-- Without overrides, each object type goes by the name that its chain spells. -/
theorem map_recording_none (schema : EntitySchema) :
    (schema.sites none).map schema.recording =
      (schema.sites none).map fun site ↦
        ⟨schema.spelledName site.2, schema.declaration site⟩ := by
  apply List.map_congr_left
  intro site hsite
  rw [recording, soleName, givenName?_of_mem_sites hsite, Option.getD_none]

end EntitySchema

/-! ## The registry of an entity alone -/

namespace Provider

theorem typeRegistry_single (provider : Provider) (schema : EntitySchema) :
    provider.typeRegistry [schema] =
      match (schema.encounters (provider.overrides? schema)).findSome?
          (·.2.requiredOmission?) with
      | some field => .error (.requiredFieldOmitted schema.name field.name)
      | none =>
        .ok (RegistryHistory.start.recordAll
          ((schema.sites (provider.overrides? schema)).map schema.recording)).registry := by
  rw [typeRegistry_eq_encounters, List.flatMap_singleton, ← schema.filterMap_recording?]
  exact EntitySchema.foldlM_visit_encounters .start (TypeRegistry.isHeldBy_empty schema.name) _

theorem typeRegistry_twice {provider : Provider} {schema : EntitySchema}
    (h : (schema.encounters (provider.overrides? schema)).findSome? (·.2.requiredOmission?) =
      none) :
    provider.typeRegistry [schema, schema] =
      .ok (RegistryHistory.start.recordAll
        ((schema.sites (provider.overrides? schema)).map schema.recording)).registry := by
  -- The two walks are one run over the encounters listed twice, all of it held by the entity.
  have hrun := EntitySchema.foldlM_visit_encounters .start
    (TypeRegistry.isHeldBy_empty schema.name)
    (schema.encounters (provider.overrides? schema) ++
      schema.encounters (provider.overrides? schema))
  rw [List.findSome?_append, h, List.filterMap_append, List.filterMap_append,
    schema.filterMap_recording?] at hrun
  have htwice := RegistryHistory.registry_recordAll_twice
    ((schema.sites (provider.overrides? schema)).map schema.recording)
  rw [typeRegistry_eq_encounters, List.flatMap_cons, List.flatMap_singleton, ← htwice]
  exact hrun

/-- Without overrides, each object type of an entity that is alone is recorded under the name that
its chain spells. -/
theorem exists_history_of_typeRegistry_single {provider : Provider} {schema : EntitySchema}
    (h : provider.entity? schema.kind schema.name = none) :
    ∃ history : RegistryHistory, provider.typeRegistry [schema] = .ok history.registry ∧
      history.IsFaithful ∧
        history.recorded = (schema.sites none).map fun site ↦
          ⟨schema.spelledName site.2, schema.declaration site⟩ := by
  refine ⟨RegistryHistory.start.recordAll ((schema.sites none).map schema.recording), ?_, ?_, ?_⟩
  · rw [typeRegistry_single, overrides?_eq_none h, schema.findSome?_requiredOmission?_none]
  · exact RegistryHistory.isFaithful_start.recordAll _
  · rw [RegistryHistory.recorded_recordAll, schema.map_recording_none]
    rfl

/-- An entity that is alone fails only for the first field that must be given and is left out. If
it succeeds, walking over it again changes nothing. Without overrides, it succeeds, and each object
type that is not below a property named like the type of the entity goes by the names of all
properties of its chain, or of the first and the last one if that gets too long. -/
theorem typeRegistry_alone (provider : Provider) (schema : EntitySchema) :
    (∀ error, provider.typeRegistry [schema] = .error error ↔
      ∃ field, (schema.encounters (provider.overrides? schema)).findSome?
          (·.2.requiredOmission?) = some field ∧
        error = .requiredFieldOmitted schema.name field.name) ∧
    (∀ registry, provider.typeRegistry [schema] = .ok registry →
      provider.typeRegistry [schema, schema] = .ok registry) ∧
    (provider.entity? schema.kind schema.name = none →
      ∃ history : RegistryHistory, provider.typeRegistry [schema] = .ok history.registry ∧
        history.IsFaithful ∧
        (history.recorded = (schema.sites none).map fun site ↦
          ⟨schema.spelledName site.2, schema.declaration site⟩) ∧
        ∀ site ∈ schema.sites none, schema.typeName ∉ site.2.chain →
          ⟨chainTypeName schema.typeName site.2.outer site.2.name, schema.declaration site⟩ ∈
              history.recorded ∧
            history.registry.Locates (chainTypeName schema.typeName site.2.outer site.2.name)
              (schema.declaration site).path) := by
  have hsingle := typeRegistry_single provider schema
  refine ⟨?_, ?_, ?_⟩
  · intro error
    rw [hsingle]
    cases (schema.encounters (provider.overrides? schema)).findSome? (·.2.requiredOmission?) with
    | none => simp
    | some field => simp [eq_comm]
  · intro registry hregistry
    cases homission :
        (schema.encounters (provider.overrides? schema)).findSome? (·.2.requiredOmission?) with
    | none =>
      rw [hsingle, homission] at hregistry
      rw [typeRegistry_twice homission]
      exact hregistry
    | some field =>
      rw [hsingle, homission] at hregistry
      cases hregistry
  · intro hentity
    obtain ⟨history, hrun, hfaithful, hrecorded⟩ := exists_history_of_typeRegistry_single hentity
    refine ⟨history, hrun, hfaithful, hrecorded, ?_⟩
    intro site hsite hchain
    have hname := spelledTypeName_of_notMem hchain
    have hmem : ⟨chainTypeName schema.typeName site.2.outer site.2.name,
        schema.declaration site⟩ ∈ history.recorded := by
      rw [hrecorded, ← hname]
      exact List.mem_map_of_mem hsite
    exact ⟨hmem, hfaithful.locates_iff.mpr ⟨_, hmem, rfl, rfl⟩⟩

end Provider

/-- The rules of a bucket are left out, although they have to be given. -/
def rulelessProvider : Provider :=
  { Provider.empty with
    resources := .ofList [("aws_bucket", ⟨"aws:s3/bucket:Bucket", none,
      [("rule", .mk none true none none [])]⟩)] }

theorem typeRegistry_alone_bucketSchema :
    rulelessProvider.typeRegistry [bucketSchema] =
        .error (.requiredFieldOmitted "aws_bucket" "rule") ∧
      Provider.empty.entity? bucketSchema.kind bucketSchema.name = none ∧
      ∃ registry, Provider.empty.typeRegistry [bucketSchema] = .ok registry ∧
        Provider.empty.typeRegistry [bucketSchema, bucketSchema] = .ok registry ∧
        registry.Locates "BucketRuleFilter" "aws_bucket.inputs.rule.$.filter" := by
  obtain ⟨herror, -, -⟩ := Provider.typeRegistry_alone rulelessProvider bucketSchema
  obtain ⟨-, htwice, hclosed⟩ := Provider.typeRegistry_alone .empty bucketSchema
  have hentity : Provider.empty.entity? bucketSchema.kind bucketSchema.name = none := rfl
  refine ⟨(herror _).mpr ⟨_, rfl, rfl⟩, hentity, ?_⟩
  obtain ⟨history, hrun, -, -, hnames⟩ := hclosed hentity
  refine ⟨history.registry, hrun, htwice _ hrun, ?_⟩
  have hsite : ⟨⟨"inputs", bucketSchema.inputs, .input⟩,
      ⟨["rule", "$", "filter"], ["rule"], "filter", none, .mk .object none []⟩⟩ ∈
        bucketSchema.sites none :=
    List.mem_of_getElem? (i := 2) rfl
  have hname : chainTypeName "Bucket" ["rule"] "filter" = "BucketRuleFilter" := by decide
  rw [← hname]
  exact (hnames _ hsite (by decide)).2

end ProviderDocs
