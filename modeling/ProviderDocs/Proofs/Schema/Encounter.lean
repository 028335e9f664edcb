import ProviderDocs.Proofs.Schema.NestedObject

/-!
# What a walk comes by

On its way through a schema a walk comes by object types and by fields that the overrides leave
out. This is the list of both, in the order of the walk. It does not depend on what is declared on
the way. An object type is listed with the names of the properties that lead to it, from which its
own name is made, and with the overrides that reach it.

Without the fields left out, the list is that of `objectsOfProperties`.
-/

namespace ProviderDocs

/-- An object type, as a walk comes by it. -/
structure ObjectSite where
  /-- The segments that lead to it. -/
  segments : List String
  /-- The properties around its own, as they are named in names of types. -/
  outer : List String
  /-- The property that it belongs to, named alike. -/
  name : String
  /-- The overrides of this property. -/
  override : Option FieldOverride
  type : PropertyType

namespace ObjectSite

def within (segment : String) (site : ObjectSite) : ObjectSite :=
  { site with segments := segment :: site.segments }

def inside (name : String) (site : ObjectSite) : ObjectSite :=
  { site with outer := name :: site.outer }

/-- The names of the properties from the outermost one to its own. -/
def chain (site : ObjectSite) : List String := site.outer ++ [site.name]

/-- The fixed name that the overrides give to the object type. -/
def givenName? (site : ObjectSite) : Option String := site.override.bind (·.givenTypeName?)

def toNestedObject (site : ObjectSite) : NestedObject := ⟨site.segments, site.type⟩

end ObjectSite

inductive Encounter where
  | object (site : ObjectSite)
  /-- A field that the overrides leave out. -/
  | omission (field : Property)

namespace Encounter

def mapSite (change : ObjectSite → ObjectSite) : Encounter → Encounter
  | object site => object (change site)
  | omission field => omission field

def site? : Encounter → Option ObjectSite
  | object site => some site
  | omission _ => none

/-- The field, when it has to be given and must not be left out. -/
def requiredOmission? : Encounter → Option Property
  | object _ => none
  | omission field => if field.isOptional then none else some field

theorem requiredOmission?_eq_none_iff {field : Property} :
    (omission field).requiredOmission? = none ↔ field.isOptional = true := by
  simp [requiredOmission?]

end Encounter

mutual

/-- What a walk comes by in the type of a property called `name`. -/
def PropertyType.encounters (name : String) (override : Option FieldOverride) :
    PropertyType → List Encounter
  | .mk kind element properties =>
    match kind with
    | .list | .set | .map =>
      (encountersOfElement name override element).map (.mapSite (.within "$"))
    | .object =>
      .object ⟨[], [], name, override, .mk kind element properties⟩ ::
        (encountersOfProperties (override.bind (·.fieldOverrides?)) properties).map
          (.mapSite (.inside name))
    | _ => []

def encountersOfElement (name : String) (override : Option FieldOverride) :
    Option PropertyType → List Encounter
  | none => []
  | some element => element.encounters name override

def encountersOfProperties (overrides : Option FieldOverrides) : List Property → List Encounter
  | [] => []
  | .mk name type isOptional isComputed isSensitive description :: rest =>
    let override := FieldOverrides.field? overrides name
    let property := Property.mk name type isOptional isComputed isSensitive description
    if override.any (·.omitted) then
      .omission property :: encountersOfProperties overrides rest
    else
      (type.encounters (property.typeNameSegment override) override).map
          (.mapSite (.within name)) ++
        encountersOfProperties overrides rest

end

namespace EntitySchema

/-- What a walk over an entity comes by, each with the side on which it stands. -/
def encounters (schema : EntitySchema) (overrides : Option FieldOverrides) :
    List (EntitySide × Encounter) :=
  schema.sides.flatMap fun side ↦
    (encountersOfProperties overrides side.properties).map (side, ·)

/-- The object types among them. -/
def sites (schema : EntitySchema) (overrides : Option FieldOverrides) :
    List (EntitySide × ObjectSite) :=
  (schema.encounters overrides).filterMap fun encounter ↦ encounter.2.site?.map (encounter.1, ·)

theorem object_mem_encounters_iff {schema : EntitySchema} {overrides : Option FieldOverrides}
    {side : EntitySide} {site : ObjectSite} :
    (side, .object site) ∈ schema.encounters overrides ↔ (side, site) ∈ schema.sites overrides := by
  rw [sites, List.mem_filterMap]
  constructor
  · exact fun h ↦ ⟨_, h, rfl⟩
  · rintro ⟨⟨side', encounter⟩, h, hsite⟩
    cases encounter with
    | object site' =>
      cases hsite
      exact h
    | omission field => cases hsite

end EntitySchema

/-! ## The object types that are listed -/

theorem filterMap_site?_map (change : ObjectSite → ObjectSite) (encounters : List Encounter) :
    (encounters.map (.mapSite change)).filterMap Encounter.site? =
      (encounters.filterMap Encounter.site?).map change := by
  rw [List.filterMap_map, List.map_filterMap]
  refine congrArg (List.filterMap · encounters) (funext fun encounter ↦ ?_)
  cases encounter <;> rfl

theorem toNestedObject_filterMap_within (segment : String) (encounters : List Encounter) :
    ((encounters.map (.mapSite (.within segment))).filterMap Encounter.site?).map
        ObjectSite.toNestedObject =
      ((encounters.filterMap Encounter.site?).map ObjectSite.toNestedObject).map
        (.below segment) := by
  rw [filterMap_site?_map, List.map_map, List.map_map]
  rfl

theorem toNestedObject_filterMap_inside (name : String) (encounters : List Encounter) :
    ((encounters.map (.mapSite (.inside name))).filterMap Encounter.site?).map
        ObjectSite.toNestedObject =
      (encounters.filterMap Encounter.site?).map ObjectSite.toNestedObject := by
  rw [filterMap_site?_map, List.map_map]
  rfl

mutual

theorem objects_eq_encounters {name : String} {override : Option FieldOverride} :
    ∀ {type : PropertyType}, type.objects override =
      ((type.encounters name override).filterMap Encounter.site?).map ObjectSite.toNestedObject
  | .mk kind element properties => by
    have hcollection : (objectsOfElement override element).map (.below "$") =
        (((encountersOfElement name override element).map (.mapSite (.within "$"))).filterMap
          Encounter.site?).map ObjectSite.toNestedObject := by
      rw [toNestedObject_filterMap_within, objectsOfElement_eq_encounters]
    cases kind with
    | list => exact hcollection
    | set => exact hcollection
    | map => exact hcollection
    | object =>
      rw [PropertyType.objects, PropertyType.encounters, objectsOfProperties_eq_encounters,
        ← toNestedObject_filterMap_inside name]
      rfl
    | _ => rfl

theorem objectsOfElement_eq_encounters {name : String} {override : Option FieldOverride} :
    ∀ {element : Option PropertyType}, objectsOfElement override element =
      ((encountersOfElement name override element).filterMap Encounter.site?).map
        ObjectSite.toNestedObject
  | none => rfl
  | some _ => objects_eq_encounters

theorem objectsOfProperties_eq_encounters {overrides : Option FieldOverrides} :
    ∀ {properties : List Property}, objectsOfProperties overrides properties =
      ((encountersOfProperties overrides properties).filterMap Encounter.site?).map
        ObjectSite.toNestedObject
  | [] => rfl
  | .mk name type isOptional isComputed isSensitive description :: rest => by
    rw [objectsOfProperties, encountersOfProperties]
    split
    case isTrue => exact objectsOfProperties_eq_encounters
    case isFalse =>
      rw [List.filterMap_append, List.map_append, toNestedObject_filterMap_within,
        ← objectsOfProperties_eq_encounters, ← objects_eq_encounters]

end

/-! ## Walks without overrides -/

/-- No overrides reach what a walk comes by, and no field is left out. -/
def Encounter.IsPlain : Encounter → Prop
  | object site => site.override = none
  | omission _ => False

def AllPlain (encounters : List Encounter) : Prop := ∀ encounter ∈ encounters, encounter.IsPlain

theorem AllPlain.map {encounters : List Encounter} (h : AllPlain encounters)
    {change : ObjectSite → ObjectSite}
    (hchange : ∀ site, (change site).override = site.override) :
    AllPlain (encounters.map (.mapSite change)) := by
  intro encounter hencounter
  obtain ⟨inner, hinner, rfl⟩ := List.mem_map.mp hencounter
  have hplain := h inner hinner
  cases inner with
  | object site => exact (hchange site).trans hplain
  | omission field => exact hplain

mutual

theorem allPlain_encounters {name : String} :
    ∀ {type : PropertyType}, AllPlain (type.encounters name none)
  | .mk kind element properties => by
    have hcollection :
        AllPlain ((encountersOfElement name none element).map (.mapSite (.within "$"))) :=
      allPlain_encountersOfElement.map fun _ ↦ rfl
    cases kind with
    | list => exact hcollection
    | set => exact hcollection
    | map => exact hcollection
    | object =>
      have hbelow : AllPlain ((encountersOfProperties none properties).map
          (.mapSite (.inside name))) :=
        allPlain_encountersOfProperties.map fun _ ↦ rfl
      exact List.forall_mem_cons.mpr ⟨rfl, hbelow⟩
    | _ => exact fun _ h ↦ nomatch h

theorem allPlain_encountersOfElement {name : String} :
    ∀ {element : Option PropertyType}, AllPlain (encountersOfElement name none element)
  | none => fun _ h ↦ nomatch h
  | some _ => allPlain_encounters

theorem allPlain_encountersOfProperties :
    ∀ {properties : List Property}, AllPlain (encountersOfProperties none properties)
  | [] => fun _ h ↦ nomatch h
  | .mk name type isOptional isComputed isSensitive description :: rest => by
    have hhead : AllPlain ((type.encounters
        ((Property.mk name type isOptional isComputed isSensitive description).typeNameSegment none)
        none).map (.mapSite (.within name))) :=
      allPlain_encounters.map fun _ ↦ rfl
    exact List.forall_mem_append.mpr ⟨hhead, allPlain_encountersOfProperties⟩

end

namespace EntitySchema

theorem isPlain_of_mem_encounters {schema : EntitySchema} {encounter : EntitySide × Encounter}
    (h : encounter ∈ schema.encounters none) : encounter.2.IsPlain := by
  obtain ⟨side, -, hside⟩ := List.mem_flatMap.mp h
  obtain ⟨inner, hinner, rfl⟩ := List.mem_map.mp hside
  exact allPlain_encountersOfProperties inner hinner

theorem givenName?_of_mem_sites {schema : EntitySchema} {site : EntitySide × ObjectSite}
    (h : site ∈ schema.sites none) : site.2.givenName? = none := by
  have hplain : site.2.override = none :=
    isPlain_of_mem_encounters (object_mem_encounters_iff.mpr h)
  rw [ObjectSite.givenName?, hplain]
  rfl

/-- Without overrides, a walk comes by no field that is left out. -/
theorem findSome?_requiredOmission?_none (schema : EntitySchema) :
    (schema.encounters none).findSome? (·.2.requiredOmission?) = none := by
  rw [List.findSome?_eq_none_iff]
  intro encounter hencounter
  have hplain := isPlain_of_mem_encounters hencounter
  obtain ⟨side, encounter⟩ := encounter
  cases encounter with
  | object site => rfl
  | omission field => exact hplain.elim

end EntitySchema

end ProviderDocs
