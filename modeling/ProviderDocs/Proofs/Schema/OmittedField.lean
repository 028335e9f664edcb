import ProviderDocs.Proofs.Schema.Encounter

/-!
# Schemas without the omitted fields

The fields that the overrides leave out can be deleted from a schema beforehand, in every list of
properties in which a walk meets them. A walk over what is left comes by the same object types with
the same names, each without its own omitted fields, and by no omission.
-/

namespace ProviderDocs

mutual

/-- The type without the fields inside of it that the overrides leave out. -/
def PropertyType.withoutOmitted (override : Option FieldOverride) : PropertyType → PropertyType
  | .mk kind element properties =>
    match kind with
    | .list | .set | .map => .mk kind (elementWithoutOmitted override element) properties
    | .object =>
      .mk kind element (propertiesWithoutOmitted (override.bind (·.fieldOverrides?)) properties)
    | _ => .mk kind element properties

def elementWithoutOmitted (override : Option FieldOverride) :
    Option PropertyType → Option PropertyType
  | none => none
  | some element => some (element.withoutOmitted override)

def propertiesWithoutOmitted (overrides : Option FieldOverrides) : List Property → List Property
  | [] => []
  | .mk name type isOptional isComputed isSensitive description :: rest =>
    let override := FieldOverrides.field? overrides name
    if override.any (·.omitted) then propertiesWithoutOmitted overrides rest
    else
      .mk name (type.withoutOmitted override) isOptional isComputed isSensitive description ::
        propertiesWithoutOmitted overrides rest

end

def ObjectSite.withoutOmitted (site : ObjectSite) : ObjectSite :=
  { site with type := site.type.withoutOmitted site.override }

/-- What is left of an encounter after the deletion. -/
def Encounter.withoutOmitted? : Encounter → Option Encounter
  | object site => some (object site.withoutOmitted)
  | omission _ => none

def EntitySide.withoutOmitted (side : EntitySide) (overrides : Option FieldOverrides) :
    EntitySide :=
  { side with properties := propertiesWithoutOmitted overrides side.properties }

def EntitySchema.withoutOmitted (schema : EntitySchema) (overrides : Option FieldOverrides) :
    EntitySchema :=
  { schema with
    inputs := propertiesWithoutOmitted overrides schema.inputs
    outputs := propertiesWithoutOmitted overrides schema.outputs
    state := propertiesWithoutOmitted overrides schema.state }

theorem PropertyType.kind_withoutOmitted (override : Option FieldOverride) (type : PropertyType) :
    (type.withoutOmitted override).kind = type.kind := by
  obtain ⟨kind, element, properties⟩ := type
  cases kind <;> rfl

theorem EntitySchema.sides_withoutOmitted (schema : EntitySchema)
    (overrides : Option FieldOverrides) :
    (schema.withoutOmitted overrides).sides = schema.sides.map (·.withoutOmitted overrides) := by
  unfold sides
  rw [withoutOmitted]
  cases schema.kind <;> rfl

/-! ## A walk over what is left -/

/-- What is deleted in an object type does not depend on where it stands. -/
theorem filterMap_withoutOmitted?_map (change : ObjectSite → ObjectSite)
    (h : ∀ site, (change site).withoutOmitted = change site.withoutOmitted)
    (encounters : List Encounter) :
    (encounters.map (.mapSite change)).filterMap Encounter.withoutOmitted? =
      (encounters.filterMap Encounter.withoutOmitted?).map (.mapSite change) := by
  rw [List.filterMap_map, List.map_filterMap]
  refine congrArg (List.filterMap · encounters) (funext fun encounter ↦ ?_)
  cases encounter with
  | object site => exact congrArg (some ∘ Encounter.object) (h site)
  | omission field => rfl

theorem filterMap_withoutOmitted?_within (segment : String) (encounters : List Encounter) :
    (encounters.map (.mapSite (.within segment))).filterMap Encounter.withoutOmitted? =
      (encounters.filterMap Encounter.withoutOmitted?).map (.mapSite (.within segment)) :=
  filterMap_withoutOmitted?_map (.within segment) (fun _ ↦ rfl) encounters

theorem filterMap_withoutOmitted?_inside (name : String) (encounters : List Encounter) :
    (encounters.map (.mapSite (.inside name))).filterMap Encounter.withoutOmitted? =
      (encounters.filterMap Encounter.withoutOmitted?).map (.mapSite (.inside name)) :=
  filterMap_withoutOmitted?_map (.inside name) (fun _ ↦ rfl) encounters

mutual

theorem encounters_withoutOmitted {name : String} {override : Option FieldOverride} :
    ∀ {type : PropertyType}, (type.withoutOmitted override).encounters name override =
      (type.encounters name override).filterMap Encounter.withoutOmitted?
  | .mk kind element properties => by
    have hcollection :
        (encountersOfElement name override (elementWithoutOmitted override element)).map
            (.mapSite (.within "$")) =
          ((encountersOfElement name override element).map (.mapSite (.within "$"))).filterMap
            Encounter.withoutOmitted? := by
      rw [filterMap_withoutOmitted?_within, encountersOfElement_withoutOmitted]
    cases kind with
    | list => exact hcollection
    | set => exact hcollection
    | map => exact hcollection
    | object =>
      simp only [PropertyType.withoutOmitted, PropertyType.encounters, List.filterMap_cons]
      rw [filterMap_withoutOmitted?_inside, encountersOfProperties_withoutOmitted]
      rfl
    | _ => rfl

theorem encountersOfElement_withoutOmitted {name : String} {override : Option FieldOverride} :
    ∀ {element : Option PropertyType},
      encountersOfElement name override (elementWithoutOmitted override element) =
        (encountersOfElement name override element).filterMap Encounter.withoutOmitted?
  | none => rfl
  | some _ => encounters_withoutOmitted

theorem encountersOfProperties_withoutOmitted {overrides : Option FieldOverrides} :
    ∀ {properties : List Property},
      encountersOfProperties overrides (propertiesWithoutOmitted overrides properties) =
        (encountersOfProperties overrides properties).filterMap Encounter.withoutOmitted?
  | [] => rfl
  | .mk name type isOptional isComputed isSensitive description :: rest => by
    rw [propertiesWithoutOmitted, encountersOfProperties]
    split
    case isTrue => exact encountersOfProperties_withoutOmitted
    case isFalse hkept =>
      rw [encountersOfProperties, if_neg hkept, List.filterMap_append,
        filterMap_withoutOmitted?_within, encountersOfProperties_withoutOmitted,
        ← encounters_withoutOmitted]
      simp only [Property.typeNameSegment, Property.type, Property.name,
        PropertyType.kind_withoutOmitted]

end

theorem EntitySchema.encounters_withoutOmitted (schema : EntitySchema)
    (overrides : Option FieldOverrides) :
    (schema.withoutOmitted overrides).encounters overrides =
      (schema.encounters overrides).filterMap fun encounter ↦
        encounter.2.withoutOmitted?.map (encounter.1.withoutOmitted overrides, ·) := by
  rw [encounters, sides_withoutOmitted, List.flatMap_map, encounters, List.filterMap_flatMap]
  refine congrArg (List.flatMap · schema.sides) (funext fun side ↦ ?_)
  rw [List.filterMap_map]
  exact (congrArg (List.map _) encountersOfProperties_withoutOmitted).trans List.map_filterMap

/-! ## The required properties of what is left -/

/-- Whatever is left out need not be given. -/
def AllowsOmissions (encounters : List Encounter) : Prop :=
  ∀ encounter ∈ encounters, encounter.requiredOmission? = none

/-- The deletion keeps the properties that have to be given, in every object type. -/
def KeepsRequired (encounters : List Encounter) : Prop :=
  ∀ site, Encounter.object site ∈ encounters →
    site.withoutOmitted.type.requiredNames = site.type.requiredNames

theorem AllowsOmissions.of_map {change : ObjectSite → ObjectSite} {encounters : List Encounter}
    (h : AllowsOmissions (encounters.map (.mapSite change))) : AllowsOmissions encounters := by
  intro encounter hencounter
  have hchanged := h _ (List.mem_map_of_mem hencounter)
  cases encounter with
  | object site => rfl
  | omission field => exact hchanged

theorem KeepsRequired.map {change : ObjectSite → ObjectSite} {encounters : List Encounter}
    (h : KeepsRequired encounters) (htype : ∀ site, (change site).type = site.type)
    (hoverride : ∀ site, (change site).override = site.override) :
    KeepsRequired (encounters.map (.mapSite change)) := by
  intro site hsite
  obtain ⟨inner, hinner, hchange⟩ := List.mem_map.mp hsite
  cases inner with
  | object original =>
    cases hchange
    have hkept := h original hinner
    rw [ObjectSite.withoutOmitted] at hkept ⊢
    rwa [htype, hoverride]
  | omission field => cases hchange

theorem filter_propertiesWithoutOmitted {overrides : Option FieldOverrides}
    {properties : List Property}
    (h : AllowsOmissions (encountersOfProperties overrides properties)) :
    ((propertiesWithoutOmitted overrides properties).filter (!·.isOptional)).map (·.name) =
      (properties.filter (!·.isOptional)).map (·.name) := by
  induction properties with
  | nil => rfl
  | cons property rest ih =>
    obtain ⟨name, type, isOptional, isComputed, isSensitive, description⟩ := property
    rw [encountersOfProperties] at h
    rw [propertiesWithoutOmitted]
    split at h
    case isTrue homitted =>
      obtain ⟨hfield, hrest⟩ := List.forall_mem_cons.mp h
      have hoptional : isOptional = true := Encounter.requiredOmission?_eq_none_iff.mp hfield
      rw [if_pos homitted, ih hrest, hoptional]
      rfl
    case isFalse hkept =>
      rw [if_neg hkept, List.filter_cons, List.filter_cons, apply_ite (List.map _),
        apply_ite (List.map _), List.map_cons, List.map_cons, ih (List.forall_mem_append.mp h).2]
      rfl

mutual

theorem keepsRequired_encounters {name : String} {override : Option FieldOverride} :
    ∀ {type : PropertyType}, AllowsOmissions (type.encounters name override) →
      KeepsRequired (type.encounters name override)
  | .mk kind element properties, h => by
    have hcollection
        (h : AllowsOmissions ((encountersOfElement name override element).map
          (.mapSite (.within "$")))) :
        KeepsRequired ((encountersOfElement name override element).map (.mapSite (.within "$"))) :=
      (keepsRequired_encountersOfElement h.of_map).map (fun _ ↦ rfl) fun _ ↦ rfl
    cases kind with
    | list => exact hcollection h
    | set => exact hcollection h
    | map => exact hcollection h
    | object =>
      obtain ⟨-, hbelow⟩ := List.forall_mem_cons.mp h
      have hproperties := AllowsOmissions.of_map hbelow
      have hinside : KeepsRequired ((encountersOfProperties (override.bind (·.fieldOverrides?))
          properties).map (.mapSite (.inside name))) :=
        (keepsRequired_encountersOfProperties hproperties).map (fun _ ↦ rfl) fun _ ↦ rfl
      intro site hsite
      obtain hself | hsite := List.mem_cons.mp hsite
      · cases hself
        exact filter_propertiesWithoutOmitted hproperties
      · exact hinside site hsite
    | _ => exact fun _ h ↦ nomatch h

theorem keepsRequired_encountersOfElement {name : String} {override : Option FieldOverride} :
    ∀ {element : Option PropertyType},
      AllowsOmissions (encountersOfElement name override element) →
        KeepsRequired (encountersOfElement name override element)
  | none, _ => fun _ h ↦ nomatch h
  | some _, h => keepsRequired_encounters h

theorem keepsRequired_encountersOfProperties {overrides : Option FieldOverrides} :
    ∀ {properties : List Property},
      AllowsOmissions (encountersOfProperties overrides properties) →
        KeepsRequired (encountersOfProperties overrides properties)
  | [], _ => fun _ h ↦ nomatch h
  | .mk name type isOptional isComputed isSensitive description :: rest, h => by
    rw [encountersOfProperties] at h ⊢
    split at h
    case isTrue homitted =>
      rw [if_pos homitted]
      intro site hsite
      obtain hself | hsite := List.mem_cons.mp hsite
      · cases hself
      · exact keepsRequired_encountersOfProperties (List.forall_mem_cons.mp h).2 site hsite
    case isFalse hkept =>
      rw [if_neg hkept]
      obtain ⟨htype, hrest⟩ := List.forall_mem_append.mp h
      have hinside : KeepsRequired (List.map (.mapSite (.within name)) _) :=
        (keepsRequired_encounters (AllowsOmissions.of_map htype)).map (fun _ ↦ rfl) fun _ ↦ rfl
      intro site hsite
      obtain hsite | hsite := List.mem_append.mp hsite
      · exact hinside site hsite
      · exact keepsRequired_encountersOfProperties hrest site hsite

end

namespace EntitySchema

/-- If whatever the overrides leave out need not be given, then the properties that have to be
given are the same in what is left of an object type. -/
theorem requiredNames_withoutOmitted {schema : EntitySchema} {overrides : Option FieldOverrides}
    (h : ∀ encounter ∈ schema.encounters overrides, encounter.2.requiredOmission? = none)
    {site : EntitySide × ObjectSite} (hsite : site ∈ schema.sites overrides) :
    site.2.withoutOmitted.type.requiredNames = site.2.type.requiredNames := by
  have hallowed (side : EntitySide) (hside : side ∈ schema.sides) :
      AllowsOmissions (encountersOfProperties overrides side.properties) := by
    intro other hother
    exact h (side, other) (List.mem_flatMap.mpr ⟨side, hside, List.mem_map_of_mem hother⟩)
  obtain ⟨side, hside, hmem⟩ := List.mem_flatMap.mp (object_mem_encounters_iff.mpr hsite)
  obtain ⟨encounter, hencounter, hobject⟩ := List.mem_map.mp hmem
  cases hobject
  exact keepsRequired_encountersOfProperties (hallowed _ hside) _ hencounter

end EntitySchema

end ProviderDocs
