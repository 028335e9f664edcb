import Mathlib.Data.List.Nodup
import ProviderDocs.Proofs.TypeName.Encounter

/-!
# Every location has an entry

The entries of the registry that a walk leaves hold the locations of the object types that the
walk reaches, and no others. A location may be reached several times, since segments are joined
by dots and fields may share a name. When no two object types have one location, no location is
held by two entries.
-/

namespace ProviderDocs

/-- The entry under the name holds the location. -/
def TypeRegistry.Locates (registry : TypeRegistry) (name : String) (path : TypePath) : Prop :=
  ∃ named, registry.get? name = some named ∧ named.paths.contains path = true

namespace Provider

variable {provider : Provider} {schemas : List EntitySchema}

/-- The location is that of an object type on some side of an entity: the name of the entity, the
segment of the side and the segments that lead to the object type. -/
def Reaches (provider : Provider) (schemas : List EntitySchema) (path : TypePath) : Prop :=
  ∃ schema ∈ schemas, ∃ side ∈ schema.sides, ∃ object : NestedObject,
    object.IsBelow (provider.overrides? schema) side.properties ∧
      path = ".".intercalate (schema.name :: side.segment :: object.segments)

/-- The locations of all object types, once for each of them. -/
def locations (provider : Provider) (schemas : List EntitySchema) : List TypePath :=
  (provider.declarations schemas).map (·.path)

theorem mem_locations_iff {path : TypePath} :
    path ∈ provider.locations schemas ↔ provider.Reaches schemas path := by
  have hside (schema : EntitySchema) (side : EntitySide) :
      (∃ declaration ∈ side.declarations schema.name (provider.overrides? schema),
          declaration.path = path) ↔
        ∃ object : NestedObject, object.IsBelow (provider.overrides? schema) side.properties ∧
          path = ".".intercalate (schema.name :: side.segment :: object.segments) := by
    simp only [EntitySide.declarations, List.mem_map, exists_exists_and_eq_and,
      mem_objectsOfProperties_iff]
    exact exists_congr fun object ↦ and_congr Iff.rfl eq_comm
  simp only [locations, declarations, Reaches, ← hside, List.mem_map, List.mem_flatMap]
  constructor
  · rintro ⟨declaration, ⟨schema, hschema, side, hsegment, hmem⟩, hpath⟩
    exact ⟨schema, hschema, side, hsegment, declaration, hmem, hpath⟩
  · rintro ⟨schema, hschema, side, hsegment, declaration, hmem, hpath⟩
    exact ⟨declaration, ⟨schema, hschema, side, hsegment, hmem⟩, hpath⟩

end Provider

namespace RegistryHistory

/-- An entry holds the locations of the declarations that were recorded under its name. -/
theorem IsFaithful.locates_iff {history : RegistryHistory} (h : history.IsFaithful) {name : String}
    {path : TypePath} :
    history.registry.Locates name path ↔
      ∃ recording ∈ history.recorded, recording.name = name ∧
        recording.declaration.path = path := by
  constructor
  · rintro ⟨named, hnamed, hpath⟩
    exact ((h.describes name named hnamed).paths path).mp hpath
  · rintro ⟨recording, hrecording, hname, hpath⟩
    obtain ⟨named, hnamed⟩ :=
      Option.isSome_iff_exists.mp ((h.bound name).mpr ⟨recording, hrecording, hname⟩)
    have hpaths := (h.describes name named hnamed).paths path
    exact ⟨named, hnamed, hpaths.mpr ⟨recording, hrecording, hname, hpath⟩⟩

theorem IsFaithful.eq_of_locates {history : RegistryHistory} (h : history.IsFaithful)
    (hdistinct : (history.recorded.map (·.declaration.path)).Nodup) {first second : String}
    {path : TypePath} (hfirst : history.registry.Locates first path)
    (hsecond : history.registry.Locates second path) : first = second := by
  obtain ⟨recording, hrecording, rfl, hpath⟩ := h.locates_iff.mp hfirst
  obtain ⟨other, hother, rfl, hsame⟩ := h.locates_iff.mp hsecond
  have hequal : recording = other :=
    List.inj_on_of_nodup_map hdistinct hrecording hother (hpath.trans hsame.symm)
  rw [hequal]

end RegistryHistory

/-- After a walk that succeeds, exactly the locations that it reaches are held by entries. If no two
object types have one location, each of these is held by a single entry. -/
theorem Provider.locates_typeRegistry {provider : Provider} {schemas : List EntitySchema}
    {registry : TypeRegistry} (h : provider.typeRegistry schemas = .ok registry) :
    (∀ path, (∃ name, registry.Locates name path) ↔ provider.Reaches schemas path) ∧
      ((provider.locations schemas).Nodup → ∀ path, provider.Reaches schemas path →
        ∃ name, registry.Locates name path ∧
          ∀ other, registry.Locates other path → other = name) := by
  obtain ⟨history, rfl, hfaithful, hrecorded⟩ := exists_history_of_typeRegistry h
  have hlocations : history.recorded.map (·.declaration.path) = provider.locations schemas := by
    rw [locations, ← hrecorded, List.map_map]
    rfl
  have hcovered (path : TypePath) :
      (∃ name, history.registry.Locates name path) ↔ provider.Reaches schemas path := by
    rw [← mem_locations_iff, ← hlocations, List.mem_map]
    constructor
    · rintro ⟨name, hlocates⟩
      obtain ⟨recording, hrecording, -, hpath⟩ := hfaithful.locates_iff.mp hlocates
      exact ⟨recording, hrecording, hpath⟩
    · rintro ⟨recording, hrecording, hpath⟩
      exact ⟨recording.name, hfaithful.locates_iff.mpr ⟨recording, hrecording, rfl, hpath⟩⟩
  refine ⟨hcovered, ?_⟩
  intro hdistinct path hreaches
  obtain ⟨name, hlocates⟩ := (hcovered path).mpr hreaches
  rw [← hlocations] at hdistinct
  exact ⟨name, hlocates, fun other hother ↦ hfaithful.eq_of_locates hdistinct hother hlocates⟩

/-- The type of a bucket's rules has a fixed name, and the token of a rule is left out. -/
def bucketProvider : Provider :=
  { Provider.empty with
    resources := .ofList [("aws_bucket", ⟨"aws:s3/bucket:Bucket", none,
      [("rule", .mk none false (some "Rule") none [("token", .mk none true none none [])])]⟩)] }

/-- A bucket has a list of rules. -/
def bucketSchema : EntitySchema where
  name := "aws_bucket"
  typeName := "Bucket"
  kind := .resource
  inputs := [.mk "rule" (.mk .list (some (.mk .object none
    [.mk "token" (.mk .object none []) true false false none,
      .mk "filter" (.mk .object none []) false false false none])) []) false false false none]
  outputs := []
  state := []

theorem locations_bucketSchema :
    bucketProvider.locations [bucketSchema] =
      ["aws_bucket.inputs.rule.$", "aws_bucket.inputs.rule.$.filter"] := by
  rfl

theorem locates_typeRegistry_bucketSchema :
    ∃ registry, bucketProvider.typeRegistry [bucketSchema] = .ok registry ∧
      (bucketProvider.locations [bucketSchema]).Nodup ∧
      (∃ name, registry.Locates name "aws_bucket.inputs.rule.$.filter" ∧
        ∀ other, registry.Locates other "aws_bucket.inputs.rule.$.filter" → other = name) ∧
      ¬ ∃ name, registry.Locates name "aws_bucket.inputs.rule.$.token" := by
  have hrun : ∃ registry, bucketProvider.typeRegistry [bucketSchema] = .ok registry := ⟨_, rfl⟩
  obtain ⟨registry, hrun⟩ := hrun
  have hdistinct : (bucketProvider.locations [bucketSchema]).Nodup := by
    rw [locations_bucketSchema]
    decide
  have hfilter : bucketProvider.Reaches [bucketSchema] "aws_bucket.inputs.rule.$.filter" := by
    rw [← Provider.mem_locations_iff, locations_bucketSchema]
    decide
  have htoken : ¬ bucketProvider.Reaches [bucketSchema] "aws_bucket.inputs.rule.$.token" := by
    rw [← Provider.mem_locations_iff, locations_bucketSchema]
    decide
  obtain ⟨hcovered, hsingle⟩ := Provider.locates_typeRegistry hrun
  refine ⟨registry, hrun, hdistinct, hsingle hdistinct _ hfilter, ?_⟩
  rwa [hcovered]

end ProviderDocs
