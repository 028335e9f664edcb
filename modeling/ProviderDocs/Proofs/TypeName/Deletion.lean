import ProviderDocs.Proofs.Schema.OmittedField
import ProviderDocs.Proofs.TypeName.Choice
import ProviderDocs.Proofs.TypeName.Coverage
import ProviderDocs.Proofs.TypeName.Encounter

/-!
# Deleting the omitted fields beforehand

A walk passes over a field that is left out, but the object type around it is declared as it
stands, the field included. A walk over the entities without their omitted fields therefore declares
other types. As long as this makes no difference to which types of different entities have the same
shape, it chooses the same names and leaves the same registry up to the types in it. These have lost
the fields, which the first walk keeps.
-/

namespace ProviderDocs

/-! ## Entries and registries that differ in types -/

/-- The entries differ in nothing but their types. -/
structure NamedType.SameButType (named other : NamedType) : Prop where
  declarer : named.declarer = other.declarer
  required : named.required = other.required
  requiredInputs : named.requiredInputs = other.requiredInputs
  requiredOutputs : named.requiredOutputs = other.requiredOutputs
  paths : named.paths = other.paths

def Declaration.withType (declaration : Declaration) (type : PropertyType) : Declaration :=
  { declaration with type := type }

def Visit.withType (type : PropertyType) : Visit → Visit
  | object graph property declaration => object graph property (declaration.withType type)
  | named name declaration => named name (declaration.withType type)
  | omitted entity field => omitted entity field

namespace NamedType

theorem SameButType.eq_of_type {named other : NamedType} (h : named.SameButType other)
    (htype : named.type = other.type) : named = other := by
  obtain ⟨hdeclarer, hrequired, hinputs, houtputs, hpaths⟩ := h
  cases named
  cases other
  simp_all only

theorem SameButType.record {known other : Option NamedType}
    (h : Option.Rel SameButType known other) {declaration : Declaration} {type : PropertyType}
    (hrequired : type.requiredNames = declaration.type.requiredNames) :
    (record known declaration).SameButType (record other (declaration.withType type)) := by
  cases h with
  | none =>
    constructor <;> simp [NamedType.record, Declaration.withType, hrequired]
  | some hsame =>
    constructor <;>
      simp [NamedType.record, Declaration.withType, hrequired, hsame.requiredInputs,
        hsame.requiredOutputs, hsame.paths]

end NamedType

/-- A relation between object types, each declared by an entity, and what is left of them. -/
abbrev Remainder := String → PropertyType → PropertyType → Prop

namespace Remainder

/-- Object types of different entities have the same shape exactly when the rests of them have. -/
def KeepsShapes (leaves : Remainder) : Prop :=
  ∀ entity type rest other otherType otherRest, leaves entity type rest →
    leaves other otherType otherRest → entity ≠ other →
      type.sameShape otherType = rest.sameShape otherRest

/-- The registries hold entries under the same names, which differ in nothing but their types. The
second type is what is left of the first one. -/
def Relates (leaves : Remainder) (registry pruned : TypeRegistry) : Prop :=
  ∀ name, Option.Rel
    (fun named other ↦ named.SameButType other ∧ leaves named.declarer named.type other.type)
    (registry.get? name) (pruned.get? name)

variable {leaves : Remainder} {registry pruned next : TypeRegistry}

theorem relates_empty (leaves : Remainder) : leaves.Relates .empty .empty := fun _ ↦ .none

theorem Relates.isFree_eq (h : leaves.Relates registry pruned) (hshapes : leaves.KeepsShapes)
    {declarer : String} {type rest : PropertyType} (hleaves : leaves declarer type rest)
    (name : String) : registry.isFree name declarer type = pruned.isFree name declarer rest := by
  have hname := h name
  unfold TypeRegistry.isFree
  generalize registry.get? name = known, pruned.get? name = other at hname ⊢
  cases hname with
  | none => rfl
  | @some named other hboth =>
    obtain ⟨hsame, hnamed⟩ := hboth
    simp only [NamedType.accepts, ← hsame.declarer]
    -- Shapes are compared between different entities only.
    by_cases hdeclarer : named.declarer = declarer
    · simp [hdeclarer]
    · simp [hdeclarer, hshapes _ _ _ _ _ _ hnamed hleaves hdeclarer]

theorem Relates.recordUnder (h : leaves.Relates registry pruned) {declaration : Declaration}
    {rest : PropertyType} (hleaves : leaves declaration.declarer declaration.type rest)
    (hrequired : rest.requiredNames = declaration.type.requiredNames) (name : String) :
    leaves.Relates (registry.recordUnder name declaration)
      (pruned.recordUnder name (declaration.withType rest)) := by
  intro other
  rw [TypeRegistry.get?_recordUnder, TypeRegistry.get?_recordUnder]
  split
  case isTrue =>
    have hknown : Option.Rel NamedType.SameButType (registry.get? name) (pruned.get? name) := by
      have hname := h name
      generalize registry.get? name = known, pruned.get? name = left at hname ⊢
      cases hname with
      | none => exact .none
      | some hboth => exact .some hboth.1
    exact .some ⟨NamedType.SameButType.record hknown hrequired, hleaves⟩
  case isFalse => exact h other

/-! ## Visits of what is left -/

theorem Relates.recording? (h : leaves.Relates registry pruned) (hshapes : leaves.KeepsShapes)
    {visit : Visit} {recording : Recording} {rest : PropertyType}
    (hrecording : visit.recording? registry = some recording)
    (hleaves : leaves recording.declaration.declarer recording.declaration.type rest) :
    (visit.withType rest).recording? pruned =
      some ⟨recording.name, recording.declaration.withType rest⟩ := by
  cases visit with
  | object graph property declaration =>
    cases hrecording
    have hname : registry.chooseName graph property declaration.declarer declaration.type =
        pruned.chooseName graph property declaration.declarer rest :=
      TypeRegistry.chooseName_congr fun name _ ↦ h.isFree_eq hshapes hleaves name
    rw [hname]
    rfl
  | named name declaration =>
    cases hrecording
    rfl
  | omitted entity field => cases hrecording

/-- A visit that succeeds also does so in a related registry and for what is left of the type, and
the registries stay related. -/
theorem Relates.visit (h : leaves.Relates registry pruned) (hshapes : leaves.KeepsShapes)
    {visit : Visit} {rest : PropertyType} (hvisit : registry.visit visit = .ok next)
    (hleaves : ∀ declaration, visit.declaration? = some declaration →
      leaves declaration.declarer declaration.type rest ∧
        rest.requiredNames = declaration.type.requiredNames) :
    ∃ after, pruned.visit (visit.withType rest) = .ok after ∧ leaves.Relates next after := by
  obtain ⟨recording, hrecording, husable, rfl⟩ := TypeRegistry.visit_eq_ok_iff.mp hvisit
  obtain ⟨hrest, hrequired⟩ := hleaves _ (Visit.declaration?_of_recording? hrecording)
  refine ⟨pruned.recordUnder recording.name (recording.declaration.withType rest), ?_,
    h.recordUnder hrest hrequired recording.name⟩
  rw [TypeRegistry.visit_eq_ok_iff]
  refine ⟨_, h.recording? hshapes hrecording hrest, ?_, rfl⟩
  rw [← TypeRegistry.isFree_iff] at husable ⊢
  rw [← husable]
  exact (h.isFree_eq hshapes hrest recording.name).symm

end Remainder

theorem ObjectSite.visit_withoutOmitted (site : ObjectSite) (entity : String) (side : Side)
    (graph : TypeNameGraph) (path : TypePath) :
    site.withoutOmitted.visit entity side graph path =
      (site.visit entity side graph path).withType site.withoutOmitted.type := by
  have hgiven : site.withoutOmitted.givenName? = site.givenName? := rfl
  unfold visit
  rw [hgiven]
  cases site.givenName? <;> rfl

namespace EntitySchema

/-- The visit of what is left of an encounter. -/
def restVisit? (schema : EntitySchema) (encounter : EntitySide × Encounter) : Option Visit :=
  encounter.2.withoutOmitted?.bind fun rest ↦ schema.visit? (encounter.1, rest)

/-- The relation knows what is left of the object types of the entity, and they all keep the
properties that have to be given. -/
def LeftBy (schema : EntitySchema) (leaves : Remainder)
    (encounters : List (EntitySide × Encounter)) : Prop :=
  ∀ side site, (side, Encounter.object site) ∈ encounters →
    leaves schema.name site.type site.withoutOmitted.type ∧
      site.withoutOmitted.type.requiredNames = site.type.requiredNames

variable {leaves : Remainder}

/-- What a walk over the entity does, it also does for what is left. -/
theorem relates_foldlM_visit (hshapes : leaves.KeepsShapes) {schema : EntitySchema}
    {encounters : List (EntitySide × Encounter)} (hleaves : schema.LeftBy leaves encounters)
    {registry pruned next : TypeRegistry} (h : leaves.Relates registry pruned)
    (hrun : (encounters.filterMap schema.visit?).foldlM TypeRegistry.visit registry = .ok next) :
    ∃ after, (encounters.filterMap schema.restVisit?).foldlM TypeRegistry.visit pruned =
        .ok after ∧
      leaves.Relates next after := by
  induction encounters generalizing registry pruned with
  | nil =>
    cases hrun
    exact ⟨pruned, rfl, h⟩
  | cons encounter rest ih =>
    have hrest : schema.LeftBy leaves rest :=
      fun side site hsite ↦ hleaves side site (List.mem_cons_of_mem _ hsite)
    obtain ⟨side, encounter⟩ := encounter
    cases encounter with
    | object site =>
      obtain ⟨between, hvisit, hlater⟩ := bind_eq_ok_iff.mp hrun
      obtain ⟨left, hleft, hbetween⟩ := h.visit hshapes hvisit fun declaration hdeclaration ↦ by
        rw [ObjectSite.declaration?_visit] at hdeclaration
        cases hdeclaration
        exact hleaves side site List.mem_cons_self
      obtain ⟨after, hafter, hrelated⟩ := ih hrest hbetween hlater
      refine ⟨after, ?_, hrelated⟩
      rw [← ObjectSite.visit_withoutOmitted] at hleft
      exact bind_eq_ok_iff.mpr ⟨left, hleft, hafter⟩
    | omission field =>
      -- A field that has to be given would have ended the first run.
      have hdeclares := TypeRegistry.isSome_declaration?_of_foldlM_visit hrun
      have hnone := requiredOmission?_of_visits hdeclares _ List.mem_cons_self
      have hoptional := Encounter.requiredOmission?_eq_none_iff.mp hnone
      have hvisit : schema.visit? (side, .omission field) = none := if_pos hoptional
      rw [List.filterMap_cons_none hvisit] at hrun
      exact ih hrest h hrun

theorem filterMap_restVisit? (schema : EntitySchema) (overrides : Option FieldOverrides) :
    ((schema.withoutOmitted overrides).encounters overrides).filterMap
        (schema.withoutOmitted overrides).visit? =
      (schema.encounters overrides).filterMap schema.restVisit? := by
  rw [encounters_withoutOmitted, List.filterMap_filterMap]
  refine congrArg (List.filterMap · _) (funext fun encounter ↦ ?_)
  rw [Option.bind_map]
  rfl

end EntitySchema

/-! ## The registry of what is left -/

namespace Provider

variable {provider : Provider} {schemas : List EntitySchema}

/-- The entities without the fields that the overrides leave out. -/
def withoutOmitted (provider : Provider) (schemas : List EntitySchema) : List EntitySchema :=
  schemas.map fun schema ↦ schema.withoutOmitted (provider.overrides? schema)

/-- The object types of some entities, each with what the deletion leaves of it. -/
def remainder (provider : Provider) (schemas : List EntitySchema) : Remainder :=
  fun entity type rest ↦ ∃ schema ∈ schemas, schema.name = entity ∧
    ∃ site ∈ schema.sites (provider.overrides? schema),
      site.2.type = type ∧ site.2.withoutOmitted.type = rest

theorem typeRegistry_eq_restVisits (provider : Provider) (schemas : List EntitySchema) :
    provider.typeRegistry (provider.withoutOmitted schemas) =
      (schemas.flatMap fun schema ↦
        (schema.encounters (provider.overrides? schema)).filterMap schema.restVisit?).foldlM
          TypeRegistry.visit .empty := by
  rw [typeRegistry_eq_encounters, withoutOmitted, List.flatMap_map]
  refine congrArg (List.foldlM _ _) (congrArg (List.flatMap · schemas) (funext fun schema ↦ ?_))
  exact schema.filterMap_restVisit? (provider.overrides? schema)

theorem relates_foldlM_visit (hshapes : (provider.remainder schemas).KeepsShapes)
    {walked : List EntitySchema} (hsubset : walked ⊆ schemas)
    {registry pruned next : TypeRegistry}
    (h : (provider.remainder schemas).Relates registry pruned)
    (hrun : (walked.flatMap fun schema ↦
      (schema.encounters (provider.overrides? schema)).filterMap schema.visit?).foldlM
        TypeRegistry.visit registry = .ok next) :
    ∃ after, (walked.flatMap fun schema ↦
        (schema.encounters (provider.overrides? schema)).filterMap schema.restVisit?).foldlM
          TypeRegistry.visit pruned = .ok after ∧
      (provider.remainder schemas).Relates next after := by
  induction walked generalizing registry pruned with
  | nil =>
    cases hrun
    exact ⟨pruned, rfl, h⟩
  | cons schema rest ih =>
    obtain ⟨hschema, hrest⟩ := List.cons_subset.mp hsubset
    rw [List.flatMap_cons, List.foldlM_append, bind_eq_ok_iff] at hrun
    obtain ⟨between, hfirst, hlater⟩ := hrun
    have hallowed := EntitySchema.requiredOmission?_of_visits
      (TypeRegistry.isSome_declaration?_of_foldlM_visit hfirst)
    have hleaves : schema.LeftBy (provider.remainder schemas)
        (schema.encounters (provider.overrides? schema)) := by
      intro side site hsite
      have hmem := EntitySchema.object_mem_encounters_iff.mp hsite
      exact ⟨⟨schema, hschema, rfl, _, hmem, rfl, rfl⟩,
        EntitySchema.requiredNames_withoutOmitted hallowed hmem⟩
    obtain ⟨left, hleft, hbetween⟩ := EntitySchema.relates_foldlM_visit hshapes hleaves h hfirst
    obtain ⟨after, hafter, hrelated⟩ := ih hrest hbetween hlater
    refine ⟨after, ?_, hrelated⟩
    rw [List.flatMap_cons, List.foldlM_append, bind_eq_ok_iff]
    exact ⟨left, hleft, hafter⟩

/-- A single entity takes over no types of others. -/
theorem keepsShapes_remainder_single (provider : Provider) (schema : EntitySchema) :
    (provider.remainder [schema]).KeepsShapes := by
  intro entity type rest other otherType otherRest hentity hother hne
  obtain ⟨first, hfirst, hname, -⟩ := hentity
  obtain ⟨second, hsecond, hotherName, -⟩ := hother
  cases List.mem_singleton.mp hfirst
  cases List.mem_singleton.mp hsecond
  exact absurd (hname.symm.trans hotherName) hne

/-- If a walk succeeds and the deletion of the omitted fields changes nothing in which types of
different entities have the same shape, then a walk without the omitted fields succeeds as well and
leaves the same registry up to the types, which are what is left of those in the first one. If the
fields are all deleted outside of object types, the registry is the same. -/
theorem typeRegistry_withoutOmitted {registry : TypeRegistry}
    (h : provider.typeRegistry schemas = .ok registry) :
    ((provider.remainder schemas).KeepsShapes →
      ∃ pruned, provider.typeRegistry (provider.withoutOmitted schemas) = .ok pruned ∧
        (provider.remainder schemas).Relates registry pruned) ∧
    ((∀ entity type rest, provider.remainder schemas entity type rest → rest = type) →
      provider.typeRegistry (provider.withoutOmitted schemas) = .ok registry) := by
  have hpruned (hshapes : (provider.remainder schemas).KeepsShapes) :
      ∃ pruned, provider.typeRegistry (provider.withoutOmitted schemas) = .ok pruned ∧
        (provider.remainder schemas).Relates registry pruned := by
    rw [typeRegistry_eq_encounters] at h
    rw [typeRegistry_eq_restVisits]
    exact relates_foldlM_visit hshapes (List.Subset.refl schemas) (Remainder.relates_empty _) h
  refine ⟨hpruned, ?_⟩
  intro hsame
  have hshapes : (provider.remainder schemas).KeepsShapes := by
    intro entity type rest other otherType otherRest hentity hother _
    rw [hsame _ _ _ hentity, hsame _ _ _ hother]
  obtain ⟨pruned, hrun, hrelates⟩ := hpruned hshapes
  have hequal : pruned = registry := by
    apply TypeRegistry.ext_get?
    intro name
    have hname := hrelates name
    generalize registry.get? name = known, pruned.get? name = left at hname ⊢
    cases hname with
    | none => rfl
    | some hboth =>
      obtain ⟨hentry, hrest⟩ := hboth
      exact congrArg some (hentry.eq_of_type (hsame _ _ _ hrest).symm).symm
  rw [hrun, hequal]

end Provider

/-- The website of a bucket is left out. -/
def websiteProvider : Provider :=
  { Provider.empty with
    resources := .ofList [("aws_bucket", ⟨"aws:s3/bucket:Bucket", none,
      [("website", .mk none true none none [])]⟩)] }

/-- A bucket may have a website and a log. -/
def websiteSchema : EntitySchema where
  name := "aws_bucket"
  typeName := "Bucket"
  kind := .resource
  inputs := [.mk "website" (.withField "index") true false false none,
    .mk "log" (.withField "target") true false false none]
  outputs := []
  state := []

/-- The website stands in no object type, and the token of a rule stands in the rule. -/
theorem typeRegistry_withoutOmitted_websiteSchema :
    (∃ registry, websiteProvider.typeRegistry [websiteSchema] = .ok registry ∧
      websiteProvider.typeRegistry (websiteProvider.withoutOmitted [websiteSchema]) =
        .ok registry) ∧
    ∃ registry pruned, bucketProvider.typeRegistry [bucketSchema] = .ok registry ∧
      bucketProvider.typeRegistry (bucketProvider.withoutOmitted [bucketSchema]) = .ok pruned ∧
      (bucketProvider.remainder [bucketSchema]).Relates registry pruned := by
  have hwebsite : ∃ registry, websiteProvider.typeRegistry [websiteSchema] = .ok registry :=
    ⟨_, rfl⟩
  have hrule : ∃ registry, bucketProvider.typeRegistry [bucketSchema] = .ok registry := ⟨_, rfl⟩
  constructor
  · obtain ⟨registry, hrun⟩ := hwebsite
    have hsame : ∀ entity type rest,
        websiteProvider.remainder [websiteSchema] entity type rest → rest = type := by
      intro entity type rest hrest
      obtain ⟨schema, hschema, -, site, hsite, rfl, rfl⟩ := hrest
      cases List.mem_singleton.mp hschema
      have hsites : (websiteSchema.sites (websiteProvider.overrides? websiteSchema)).map
            (·.2.withoutOmitted.type) =
          (websiteSchema.sites (websiteProvider.overrides? websiteSchema)).map (·.2.type) := rfl
      exact List.map_inj_left.mp hsites site hsite
    exact ⟨registry, hrun, (Provider.typeRegistry_withoutOmitted hrun).2 hsame⟩
  · obtain ⟨registry, hrun⟩ := hrule
    obtain ⟨pruned, hpruned, hrelates⟩ := (Provider.typeRegistry_withoutOmitted hrun).1
      (Provider.keepsShapes_remainder_single bucketProvider bucketSchema)
    exact ⟨registry, pruned, hrun, hpruned, hrelates⟩

/-- The type of a rule keeps the token that is left out. -/
theorem typeRegistry_bucketSchema_ne :
    ∃ registry pruned rule rest, bucketProvider.typeRegistry [bucketSchema] = .ok registry ∧
      bucketProvider.typeRegistry (bucketProvider.withoutOmitted [bucketSchema]) = .ok pruned ∧
      registry.get? "Rule" = some rule ∧ pruned.get? "Rule" = some rest ∧
      rule.type.properties.map (·.name) = ["token", "filter"] ∧
      rest.type.properties.map (·.name) = ["filter"] ∧ registry ≠ pruned := by
  have hkept : ∃ registry rule, bucketProvider.typeRegistry [bucketSchema] = .ok registry ∧
      registry.get? "Rule" = some rule ∧
      rule.type.properties.map (·.name) = ["token", "filter"] :=
    ⟨_, _, rfl, rfl, rfl⟩
  have hdeleted : ∃ pruned rest,
      bucketProvider.typeRegistry (bucketProvider.withoutOmitted [bucketSchema]) = .ok pruned ∧
      pruned.get? "Rule" = some rest ∧ rest.type.properties.map (·.name) = ["filter"] :=
    ⟨_, _, rfl, rfl, rfl⟩
  obtain ⟨registry, rule, hrun, hrule, hfields⟩ := hkept
  obtain ⟨pruned, rest, hpruned, hrest, hrestFields⟩ := hdeleted
  refine ⟨registry, pruned, rule, rest, hrun, hpruned, hrule, hrest, hfields, hrestFields, ?_⟩
  intro heq
  rw [heq, hrest] at hrule
  cases hrule
  rw [hfields] at hrestFields
  exact absurd hrestFields (by decide)

end ProviderDocs
