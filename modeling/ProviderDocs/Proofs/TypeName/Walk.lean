import ProviderDocs.Proofs.Error
import ProviderDocs.Proofs.Schema.NestedObject
import ProviderDocs.Proofs.TypeName.History

/-!
# What a walk declares

The declarations that some entities give rise to are those of their object types, in the order in
which these are listed. A walk is a run of visits over a registry. A visit that succeeds records one
declaration, and a run that succeeds goes on with a history by one recording for each visit.
-/

namespace ProviderDocs

/-! ## The object types of schemas -/

/-- The declaration of an object type by an entity, the segments leading there from a location. -/
def NestedObject.declaration (object : NestedObject) (entity : String) (side : Side)
    (path : TypePath) : Declaration :=
  ⟨".".intercalate (path :: object.segments), entity, object.type, side⟩

def EntitySide.declarations (side : EntitySide) (entity : String)
    (overrides : Option FieldOverrides) : List Declaration :=
  (objectsOfProperties overrides side.properties).map
    (·.declaration entity side.side (TypePath.child entity side.segment))

/-- The overrides for the fields of an entity. -/
def Provider.overrides? (provider : Provider) (schema : EntitySchema) : Option FieldOverrides :=
  (provider.entity? schema.kind schema.name).map (·.fields)

theorem Provider.overrides?_eq_none {provider : Provider} {schema : EntitySchema}
    (h : provider.entity? schema.kind schema.name = none) : provider.overrides? schema = none := by
  rw [overrides?, h]
  rfl

/-- The declarations of all object types of some entities, in the order of a walk. -/
def Provider.declarations (provider : Provider) (schemas : List EntitySchema) :
    List Declaration :=
  schemas.flatMap fun schema ↦ schema.sides.flatMap fun side ↦
    side.declarations schema.name (provider.overrides? schema)

/-! ## Visits -/

/-- The declaration that a visit makes; an omitted field makes none. -/
def Visit.declaration? : Visit → Option Declaration
  | object _ _ declaration | named _ declaration => some declaration
  | omitted _ _ => none

/-! ## Declaring what was visited -/

/-- What a visit records in a registry, if it succeeds. -/
def Visit.recording? (registry : TypeRegistry) : Visit → Option Recording
  | object graph property declaration =>
    some ⟨registry.chooseName graph property declaration.declarer declaration.type, declaration⟩
  | named name declaration => some ⟨name, declaration⟩
  | omitted _ _ => none

theorem Visit.declaration?_of_recording? {registry : TypeRegistry} {visit : Visit}
    {recording : Recording} (h : visit.recording? registry = some recording) :
    visit.declaration? = some recording.declaration := by
  cases visit with
  | object graph property declaration =>
    cases h
    rfl
  | named name declaration =>
    cases h
    rfl
  | omitted entity field => cases h

namespace TypeRegistry

variable {registry next : TypeRegistry}

/-- A visit that succeeds records its declaration under a name that is usable for it. -/
theorem visit_eq_ok_iff {visit : Visit} :
    registry.visit visit = .ok next ↔
      ∃ recording, visit.recording? registry = some recording ∧
        registry.Usable recording.declaration recording.name ∧
          next = registry.recordUnder recording.name recording.declaration := by
  cases visit with
  | object graph property declaration =>
    simp only [TypeRegistry.visit, Visit.recording?, enter_eq_ok_iff, Option.some.injEq,
      exists_eq_left']
  | named name declaration =>
    simp only [TypeRegistry.visit, Visit.recording?, enter_eq_ok_iff, Option.some.injEq,
      exists_eq_left']
  | omitted entity field => simp [TypeRegistry.visit, Visit.recording?]

theorem exists_recording_of_visit {visit : Visit} (h : registry.visit visit = .ok next) :
    ∃ recording : Recording, visit.declaration? = some recording.declaration ∧
      next = registry.recordUnder recording.name recording.declaration := by
  obtain ⟨recording, hrecording, -, hnext⟩ := visit_eq_ok_iff.mp h
  exact ⟨recording, Visit.declaration?_of_recording? hrecording, hnext⟩

/-! ## Runs of visits -/

theorem foldlM_visit (registry : TypeRegistry) (visits : List Visit) :
    visits.foldlM TypeRegistry.visit registry =
      match registry.visitAll visits with
      | (next, none) => .ok next
      | (_, some error) => .error error := by
  induction visits generalizing registry with
  | nil => rfl
  | cons visit rest ih =>
    rw [List.foldlM_cons, visitAll]
    cases registry.visit visit with
    | ok next => exact ih next
    | error error => rfl

/-- A run that succeeds visits no field that must not be left out. -/
theorem isSome_declaration?_of_foldlM_visit {visits : List Visit}
    (h : visits.foldlM TypeRegistry.visit registry = .ok next) :
    ∀ visit ∈ visits, visit.declaration?.isSome = true := by
  induction visits generalizing registry with
  | nil => exact fun _ hmem ↦ nomatch hmem
  | cons visit rest ih =>
    rw [List.foldlM_cons, bind_eq_ok_iff] at h
    obtain ⟨between, hvisit, hrest⟩ := h
    obtain ⟨recording, hdeclaration, -⟩ := exists_recording_of_visit hvisit
    exact List.forall_mem_cons.mpr ⟨Option.isSome_of_eq_some hdeclaration, ih hrest⟩

/-- A run that succeeds goes on with a history by one recording for each visit. -/
theorem exists_recordings_of_foldlM_visit {visits : List Visit}
    (h : visits.foldlM TypeRegistry.visit registry = .ok next) {recorded : List Recording}
    (hfaithful : RegistryHistory.IsFaithful ⟨registry, recorded⟩) :
    ∃ added : List Recording,
      visits.map Visit.declaration? = added.map (some ·.declaration) ∧
        RegistryHistory.IsFaithful ⟨next, recorded ++ added⟩ := by
  induction visits generalizing registry recorded with
  | nil =>
    cases h
    exact ⟨[], rfl, by rwa [List.append_nil]⟩
  | cons visit rest ih =>
    rw [List.foldlM_cons, bind_eq_ok_iff] at h
    obtain ⟨between, hvisit, hrest⟩ := h
    obtain ⟨recording, hdeclaration, rfl⟩ := exists_recording_of_visit hvisit
    obtain ⟨added, hadded, hnext⟩ :=
      ih hrest (hfaithful.record recording.name recording.declaration)
    refine ⟨recording :: added, ?_, ?_⟩
    · rw [List.map_cons, List.map_cons, hdeclaration, hadded]
    · rwa [List.append_assoc] at hnext

end TypeRegistry

theorem Provider.typeRegistry_eq_foldlM (provider : Provider) (schemas : List EntitySchema) :
    provider.typeRegistry schemas =
      (provider.visits schemas).foldlM TypeRegistry.visit .empty := by
  rw [TypeRegistry.foldlM_visit]
  rfl

end ProviderDocs
