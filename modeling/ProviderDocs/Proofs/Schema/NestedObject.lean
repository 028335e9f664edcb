import ProviderDocs.TypeName.Walk

/-!
# Object types in a schema

Segments lead from a type to the object types inside of it: the names of the fields on the way and
a segment for each level of a collection. A field that the overrides leave out is not entered.
The object types are described by this relation and listed by a recursion over the schema, which
tells apart object types at one location.
-/

namespace ProviderDocs

/-- The overrides do not leave the field out. -/
def FieldOverrides.Keeps (overrides : Option FieldOverrides) (name : String) : Prop :=
  (field? overrides name).any (·.omitted) = false

/-- Segments that lead from a type, or from a field below one, to an object type. -/
inductive PropertyType.LeadsTo :
    Option FieldOverride → PropertyType → List String → PropertyType → Prop
  | here {override : Option FieldOverride} {type : PropertyType} (hkind : type.kind = .object) :
    LeadsTo override type [] type
  | element {override : Option FieldOverride} {type element object : PropertyType}
    {segments : List String} (hkind : type.kind.isCollection = true)
    (helement : type.element = some element) (h : LeadsTo override element segments object) :
    LeadsTo override type ("$" :: segments) object
  | field {override : Option FieldOverride} {type object : PropertyType} {property : Property}
    {segments : List String} (hkind : type.kind = .object) (hproperty : property ∈ type.properties)
    (hkept : FieldOverrides.Keeps (override.bind (·.fieldOverrides?)) property.name)
    (h : LeadsTo (FieldOverrides.field? (override.bind (·.fieldOverrides?)) property.name)
      property.type segments object) :
    LeadsTo override type (property.name :: segments) object

/-- An object type and the segments that lead to it. -/
structure NestedObject where
  segments : List String
  type : PropertyType

namespace NestedObject

def below (segment : String) (object : NestedObject) : NestedObject :=
  ⟨segment :: object.segments, object.type⟩

/-- The object type stands below one of the properties that the overrides keep. -/
def IsBelow (overrides : Option FieldOverrides) (properties : List Property)
    (object : NestedObject) : Prop :=
  ∃ property ∈ properties, FieldOverrides.Keeps overrides property.name ∧
    ∃ segments, object.segments = property.name :: segments ∧
      property.type.LeadsTo (FieldOverrides.field? overrides property.name) segments object.type

end NestedObject

mutual

/-- The object types in a type, from the outside in. -/
def PropertyType.objects (override : Option FieldOverride) : PropertyType → List NestedObject
  | .mk kind element properties =>
    match kind with
    | .list | .set | .map => (objectsOfElement override element).map (.below "$")
    | .object =>
      ⟨[], .mk kind element properties⟩ ::
        objectsOfProperties (override.bind (·.fieldOverrides?)) properties
    | _ => []

def objectsOfElement (override : Option FieldOverride) : Option PropertyType → List NestedObject
  | none => []
  | some element => element.objects override

/-- The object types below the properties that the overrides keep. -/
def objectsOfProperties (overrides : Option FieldOverrides) : List Property → List NestedObject
  | [] => []
  | .mk name type _ _ _ _ :: rest =>
    if (FieldOverrides.field? overrides name).any (·.omitted) then
      objectsOfProperties overrides rest
    else
      (type.objects (FieldOverrides.field? overrides name)).map (.below name) ++
        objectsOfProperties overrides rest

end

/-! ## Listed as described -/

namespace PropertyType

theorem leadsTo_object_iff {override : Option FieldOverride} {element : Option PropertyType}
    {properties : List Property} {segments : List String} {object : PropertyType} :
    LeadsTo override (.mk .object element properties) segments object ↔
      (segments = [] ∧ object = .mk .object element properties) ∨
        NestedObject.IsBelow (override.bind (·.fieldOverrides?)) properties ⟨segments, object⟩ := by
  constructor
  · intro h
    cases h with
    | here => exact .inl ⟨rfl, rfl⟩
    | element hkind => cases hkind
    | field _ hproperty hkept h => exact .inr ⟨_, hproperty, hkept, _, rfl, h⟩
  · rintro (⟨rfl, rfl⟩ | ⟨property, hproperty, hkept, rest, hsegments, h⟩)
    · exact .here rfl
    · cases hsegments
      exact .field rfl hproperty hkept h

theorem leadsTo_collection_iff {override : Option FieldOverride} {kind : TypeKind}
    {element : Option PropertyType} {properties : List Property} {segments : List String}
    {object : PropertyType} (hkind : kind.isCollection = true) :
    LeadsTo override (.mk kind element properties) segments object ↔
      ∃ type rest, element = some type ∧ segments = "$" :: rest ∧
        LeadsTo override type rest object := by
  constructor
  · intro h
    cases h with
    | here hobject => cases hobject; cases hkind
    | element _ helement h => exact ⟨_, _, helement, rfl, h⟩
    | field hobject => cases hobject; cases hkind
  · rintro ⟨type, rest, rfl, rfl, h⟩
    exact .element hkind rfl h

theorem not_leadsTo_scalar {override : Option FieldOverride} {kind : TypeKind}
    {element : Option PropertyType} {properties : List Property} {segments : List String}
    {object : PropertyType} (hobject : kind ≠ .object) (hcollection : kind.isCollection = false) :
    ¬ LeadsTo override (.mk kind element properties) segments object := by
  intro h
  cases h with
  | here hkind => exact hobject hkind
  | element hkind => exact Bool.false_ne_true (hcollection.symm.trans hkind)
  | field hkind => exact hobject hkind

end PropertyType

namespace NestedObject

theorem isBelow_cons_iff {overrides : Option FieldOverrides} {property : Property}
    {rest : List Property} {object : NestedObject} :
    object.IsBelow overrides (property :: rest) ↔
      (FieldOverrides.Keeps overrides property.name ∧
        ∃ inner : NestedObject, object = inner.below property.name ∧
          property.type.LeadsTo (FieldOverrides.field? overrides property.name) inner.segments
            inner.type) ∨ object.IsBelow overrides rest := by
  unfold IsBelow
  simp only [List.mem_cons, or_and_right, exists_or, exists_eq_left]
  refine or_congr (and_congr Iff.rfl ?_) Iff.rfl
  constructor
  · rintro ⟨segments, hsegments, h⟩
    refine ⟨⟨segments, object.type⟩, ?_, h⟩
    rw [below, ← hsegments]
  · rintro ⟨inner, rfl, h⟩
    exact ⟨inner.segments, rfl, h⟩

end NestedObject

mutual

theorem mem_objects_iff {override : Option FieldOverride} :
    ∀ {type : PropertyType} {object : NestedObject},
      object ∈ type.objects override ↔ type.LeadsTo override object.segments object.type
  | .mk kind element properties, object => by
    have hcollection (hkind : kind.isCollection = true) :
        object ∈ (objectsOfElement override element).map (.below "$") ↔
          PropertyType.LeadsTo override (.mk kind element properties) object.segments
            object.type := by
      rw [PropertyType.leadsTo_collection_iff hkind, List.mem_map]
      constructor
      · rintro ⟨inner, hinner, rfl⟩
        obtain ⟨type, helement, h⟩ := mem_objectsOfElement_iff.mp hinner
        exact ⟨type, inner.segments, helement, rfl, h⟩
      · rintro ⟨type, rest, helement, hsegments, h⟩
        refine ⟨⟨rest, object.type⟩, mem_objectsOfElement_iff.mpr ⟨type, helement, h⟩, ?_⟩
        rw [NestedObject.below, ← hsegments]
    cases kind with
    | list => exact hcollection rfl
    | set => exact hcollection rfl
    | map => exact hcollection rfl
    | object =>
      rw [PropertyType.leadsTo_object_iff, ← mem_objectsOfProperties_iff, PropertyType.objects,
        List.mem_cons]
      refine or_congr ?_ Iff.rfl
      cases object
      simp
    | _ => exact iff_of_false List.not_mem_nil (PropertyType.not_leadsTo_scalar (by decide) rfl)

theorem mem_objectsOfElement_iff {override : Option FieldOverride} :
    ∀ {element : Option PropertyType} {object : NestedObject},
      object ∈ objectsOfElement override element ↔
        ∃ type, element = some type ∧ type.LeadsTo override object.segments object.type
  | none, object => by simp [objectsOfElement]
  | some type, object => by
    rw [objectsOfElement, mem_objects_iff]
    simp

/-- The list holds the object types that the relation describes. -/
theorem mem_objectsOfProperties_iff {overrides : Option FieldOverrides} :
    ∀ {properties : List Property} {object : NestedObject},
      object ∈ objectsOfProperties overrides properties ↔ object.IsBelow overrides properties
  | [], object => by simp [objectsOfProperties, NestedObject.IsBelow]
  | .mk name type isOptional isComputed isSensitive description :: rest, object => by
    rw [NestedObject.isBelow_cons_iff, objectsOfProperties, FieldOverrides.Keeps,
      ← mem_objectsOfProperties_iff]
    split
    case isTrue homitted => simp [Property.name, homitted]
    case isFalse hkept =>
      rw [List.mem_append, List.mem_map]
      refine or_congr ?_ Iff.rfl
      simp only [Property.name, Property.type, hkept, true_and, ← mem_objects_iff]
      exact exists_congr fun inner ↦ by rw [and_comm, eq_comm]

end

end ProviderDocs
