import Mathlib.Data.List.Basic
import ProviderDocs.Proofs.Schema.Encounter
import ProviderDocs.Proofs.TypeName.Walk

/-!
# A walk as a run over what it comes by

A walk declares each object type that it comes by, and a field that must not be left out ends it.
The visits of a walk stop at such a field, while the list of encounters goes on behind it. The two
lists are therefore not the same, but they have the same runs from every registry.
-/

namespace ProviderDocs

/-! ## Runs -/

/-- The visits lead from every registry to the same result. -/
def SameRun (visits others : List Visit) : Prop :=
  ∀ registry : TypeRegistry,
    visits.foldlM TypeRegistry.visit registry = others.foldlM TypeRegistry.visit registry

namespace SameRun

variable {visits others more moreOthers : List Visit}

theorem append (h : SameRun visits others) (hmore : SameRun more moreOthers) :
    SameRun (visits ++ more) (others ++ moreOthers) := by
  intro registry
  rw [List.foldlM_append, List.foldlM_append, h registry]
  exact congrArg _ (funext hmore)

theorem cons (h : SameRun visits others) (visit : Visit) :
    SameRun (visit :: visits) (visit :: others) := by
  intro registry
  rw [List.foldlM_cons, List.foldlM_cons]
  exact congrArg _ (funext h)

theorem flatMap {α : Type} {items : List α} {first second : α → List Visit}
    (h : ∀ item ∈ items, SameRun (first item) (second item)) :
    SameRun (items.flatMap first) (items.flatMap second) := by
  induction items with
  | nil => exact fun _ ↦ rfl
  | cons item rest ih =>
    have hitem := h item List.mem_cons_self
    have hrest := ih fun other hother ↦ h other (List.mem_cons_of_mem _ hother)
    exact hitem.append hrest

/-- An omission ends the run, whatever was still to come. -/
theorem omitted (entity field : String) (visits : List Visit) :
    SameRun [.omitted entity field] (.omitted entity field :: visits) := fun _ ↦ rfl

end SameRun

/-! ## Visits of encounters -/

/-- The visit that declares an object type, from the graph and the location at which the list of
properties stands. -/
def ObjectSite.visit (entity : String) (side : Side) (graph : TypeNameGraph) (path : TypePath)
    (site : ObjectSite) : Visit :=
  let declaration := site.toNestedObject.declaration entity side path
  match site.givenName? with
  | some given => .named given declaration
  | none =>
    .object ((site.outer.foldl TypeNameGraph.branch graph).branch site.name) site.name declaration

theorem ObjectSite.declaration?_visit (site : ObjectSite) (entity : String) (side : Side)
    (graph : TypeNameGraph) (path : TypePath) :
    (site.visit entity side graph path).declaration? =
      some (site.toNestedObject.declaration entity side path) := by
  unfold visit
  cases site.givenName? <;> rfl

/-- An optional field may be left out, and nothing is visited. -/
def Encounter.visit? (entity : String) (side : Side) (graph : TypeNameGraph) (path : TypePath) :
    Encounter → Option Visit
  | object site => some (site.visit entity side graph path)
  | omission field => if field.isOptional then none else some (.omitted entity field.name)

section Visits

variable {entity : String} {side : Side}

/-- Object types that stand elsewhere are visited as from another start. -/
theorem filterMap_visit?_map {graph below : TypeNameGraph} {path inner : TypePath}
    (change : ObjectSite → ObjectSite)
    (h : ∀ site, (change site).visit entity side graph path = site.visit entity side below inner)
    (encounters : List Encounter) :
    (encounters.map (.mapSite change)).filterMap (Encounter.visit? entity side graph path) =
      encounters.filterMap (Encounter.visit? entity side below inner) := by
  rw [List.filterMap_map]
  refine congrArg (List.filterMap · encounters) (funext fun encounter ↦ ?_)
  cases encounter with
  | object site => exact congrArg some (h site)
  | omission field => rfl

theorem filterMap_visit?_within (graph : TypeNameGraph) (path : TypePath) (segment : String)
    (encounters : List Encounter) :
    (encounters.map (.mapSite (.within segment))).filterMap
        (Encounter.visit? entity side graph path) =
      encounters.filterMap (Encounter.visit? entity side graph (path.child segment)) :=
  filterMap_visit?_map (.within segment) (fun _ ↦ rfl) encounters

theorem filterMap_visit?_inside (graph : TypeNameGraph) (path : TypePath) (name : String)
    (encounters : List Encounter) :
    (encounters.map (.mapSite (.inside name))).filterMap
        (Encounter.visit? entity side graph path) =
      encounters.filterMap (Encounter.visit? entity side (graph.branch name) path) :=
  filterMap_visit?_map (.inside name) (fun _ ↦ rfl) encounters

mutual

theorem sameRun_visitsOfType {graph : TypeNameGraph} {path : TypePath} {name : String}
    {override : Option FieldOverride} : ∀ {type : PropertyType},
      SameRun (visitsOfType entity side graph path name override type)
        ((type.encounters name override).filterMap (Encounter.visit? entity side graph path))
  | .mk kind element properties => by
    have hcollection : SameRun
        (visitsOfElement entity side graph path.element name override element)
        (((encountersOfElement name override element).map (.mapSite (.within "$"))).filterMap
          (Encounter.visit? entity side graph path)) := by
      rw [filterMap_visit?_within]
      exact sameRun_visitsOfElement
    cases kind with
    | list => exact hcollection
    | set => exact hcollection
    | map => exact hcollection
    | object =>
      have hbelow : SameRun
          (visitsOfProperties entity side (graph.branch name) path
            (override.bind (·.fieldOverrides?)) properties)
          (((encountersOfProperties (override.bind (·.fieldOverrides?)) properties).map
            (.mapSite (.inside name))).filterMap (Encounter.visit? entity side graph path)) := by
        rw [filterMap_visit?_inside]
        exact sameRun_visitsOfProperties
      simp only [visitsOfType, PropertyType.encounters, List.filterMap_cons, Encounter.visit?]
      exact hbelow.cons _
    | _ => exact fun _ ↦ rfl

theorem sameRun_visitsOfElement {graph : TypeNameGraph} {path : TypePath} {name : String}
    {override : Option FieldOverride} : ∀ {element : Option PropertyType},
      SameRun (visitsOfElement entity side graph path name override element)
        ((encountersOfElement name override element).filterMap
          (Encounter.visit? entity side graph path))
  | none => fun _ ↦ rfl
  | some _ => sameRun_visitsOfType

theorem sameRun_visitsOfProperties {graph : TypeNameGraph} {parent : TypePath}
    {overrides : Option FieldOverrides} : ∀ {properties : List Property},
      SameRun (visitsOfProperties entity side graph parent overrides properties)
        ((encountersOfProperties overrides properties).filterMap
          (Encounter.visit? entity side graph parent))
  | [] => fun _ ↦ rfl
  | .mk name type isOptional isComputed isSensitive description :: rest => by
    rw [visitsOfProperties, encountersOfProperties]
    split
    case isTrue =>
      rw [List.filterMap_cons, Encounter.visit?, Property.isOptional, Property.name]
      split
      case isTrue => exact sameRun_visitsOfProperties
      case isFalse => exact SameRun.omitted entity name _
    case isFalse =>
      rw [List.filterMap_append, filterMap_visit?_within]
      exact sameRun_visitsOfType.append sameRun_visitsOfProperties

end

end Visits

/-! ## Entities -/

namespace EntitySchema

/-- The declaration of an object type of the entity, on one of its sides. -/
def declaration (schema : EntitySchema) (site : EntitySide × ObjectSite) : Declaration :=
  site.2.toNestedObject.declaration schema.name site.1.side
    (TypePath.child schema.name site.1.segment)

def visit? (schema : EntitySchema) (encounter : EntitySide × Encounter) : Option Visit :=
  encounter.2.visit? schema.name encounter.1.side (.ofRoot schema.typeName)
    (TypePath.child schema.name encounter.1.segment)

theorem declaration?_visit? (schema : EntitySchema) {encounter : EntitySide × Encounter}
    (h : encounter.2.requiredOmission? = none) :
    (schema.visit? encounter).map Visit.declaration? =
      encounter.2.site?.map fun site ↦ some (schema.declaration (encounter.1, site)) := by
  obtain ⟨side, encounter⟩ := encounter
  cases encounter with
  | object site => exact congrArg some (site.declaration?_visit ..)
  | omission field =>
    have hoptional := Encounter.requiredOmission?_eq_none_iff.mp h
    exact congrArg (Option.map _) (if_pos hoptional)

theorem sameRun_visits (schema : EntitySchema) (overrides : Option FieldOverrides) :
    SameRun (schema.visits overrides)
      ((schema.encounters overrides).filterMap schema.visit?) := by
  rw [visits, encounters, List.filterMap_flatMap]
  apply SameRun.flatMap
  intro side _
  rw [List.filterMap_map]
  exact sameRun_visitsOfProperties

/-- A field that must not be left out is visited, but makes no declaration. -/
theorem requiredOmission?_of_visits {schema : EntitySchema}
    {encounters : List (EntitySide × Encounter)}
    (h : ∀ visit ∈ encounters.filterMap schema.visit?, visit.declaration?.isSome = true) :
    ∀ encounter ∈ encounters, encounter.2.requiredOmission? = none := by
  intro encounter hencounter
  obtain ⟨side, encounter⟩ := encounter
  cases encounter with
  | object site => rfl
  | omission field =>
    apply Encounter.requiredOmission?_eq_none_iff.mpr
    by_contra hrequired
    have hvisit : schema.visit? (side, .omission field) =
        some (.omitted schema.name field.name) := if_neg hrequired
    exact Bool.false_ne_true (h _ (List.mem_filterMap.mpr ⟨_, hencounter, hvisit⟩))

/-- The object types that a walk comes by are those that it declares. -/
theorem declarations_sites (schema : EntitySchema) (overrides : Option FieldOverrides) :
    (schema.sites overrides).map schema.declaration =
      schema.sides.flatMap (·.declarations schema.name overrides) := by
  rw [sites, encounters, List.filterMap_flatMap, List.map_flatMap]
  refine congrArg (List.flatMap · schema.sides) (funext fun side ↦ ?_)
  rw [EntitySide.declarations, objectsOfProperties_eq_encounters, List.filterMap_map,
    List.map_filterMap, List.map_map, List.map_filterMap]
  refine congrArg (List.filterMap · _) (funext fun encounter ↦ ?_)
  cases encounter <;> rfl

end EntitySchema

/-- The registry of some entities is that of a run over all that a walk comes by. -/
theorem Provider.typeRegistry_eq_encounters (provider : Provider) (schemas : List EntitySchema) :
    provider.typeRegistry schemas =
      (schemas.flatMap fun schema ↦
        (schema.encounters (provider.overrides? schema)).filterMap schema.visit?).foldlM
          TypeRegistry.visit .empty := by
  rw [typeRegistry_eq_foldlM]
  exact SameRun.flatMap (fun schema _ ↦ schema.sameRun_visits _) .empty

/-- The registry of a walk that succeeds has a history, and what was recorded in it are the
declarations of all object types in the order of the walk. -/
theorem Provider.exists_history_of_typeRegistry {provider : Provider}
    {schemas : List EntitySchema} {registry : TypeRegistry}
    (h : provider.typeRegistry schemas = .ok registry) :
    ∃ history : RegistryHistory, history.registry = registry ∧ history.IsFaithful ∧
      history.recorded.map (·.declaration) = provider.declarations schemas := by
  rw [typeRegistry_eq_encounters] at h
  have hdeclares := TypeRegistry.isSome_declaration?_of_foldlM_visit h
  obtain ⟨recorded, hrecorded, hfaithful⟩ :=
    TypeRegistry.exists_recordings_of_foldlM_visit h RegistryHistory.isFaithful_start
  refine ⟨⟨registry, recorded⟩, rfl, hfaithful, ?_⟩
  have hschema (schema : EntitySchema) (hmem : schema ∈ schemas) :
      ((schema.encounters (provider.overrides? schema)).filterMap schema.visit?).map
          Visit.declaration? =
        ((schema.sites (provider.overrides? schema)).map schema.declaration).map some := by
    have hallowed := EntitySchema.requiredOmission?_of_visits fun visit hvisit ↦
      hdeclares visit (List.mem_flatMap.mpr ⟨schema, hmem, hvisit⟩)
    rw [EntitySchema.sites, List.map_filterMap, List.map_filterMap, List.map_filterMap]
    apply List.filterMap_congr
    intro encounter hencounter
    have hnone := hallowed encounter hencounter
    rw [schema.declaration?_visit? hnone, Option.map_map, Option.map_map]
    rfl
  apply (List.map_inj_right fun _ _ ↦ Option.some.inj).mp
  calc
    _ = recorded.map (some ·.declaration) := List.map_map
    _ = _ := hrecorded.symm
    _ = schemas.flatMap fun schema ↦
        ((schema.sites (provider.overrides? schema)).map schema.declaration).map some := by
      rw [List.map_flatMap]
      exact List.flatMap_congr hschema
    _ = (provider.declarations schemas).map some := by
      rw [← List.map_flatMap, declarations]
      simp only [EntitySchema.declarations_sites]

end ProviderDocs
