import ProviderDocs.Proofs.TypeName.Encounter

/-!
# Required names and the fields of a type

The required names of an entry are fields of its type, since both are those of the declaration
recorded last. The required names that it keeps for one side are fields of the type recorded last
from that side, and of the entry's own type as long as the shape stays the same.
-/

namespace ProviderDocs

/-! ## Fields -/

def PropertyType.HasField (type : PropertyType) (field : String) : Prop :=
  ∃ property ∈ type.properties, property.name = field

theorem map_name_of_sameProperties {first second : List Property}
    (h : sameProperties first second = true) : first.map (·.name) = second.map (·.name) := by
  induction first generalizing second with
  | nil =>
    cases second with
    | nil => rfl
    | cons property rest => cases h
  | cons property rest ih =>
    cases second with
    | nil => cases property; cases h
    | cons other others =>
      cases property
      cases other
      simp only [sameProperties, Bool.and_eq_true, decide_eq_true_eq] at h
      obtain ⟨⟨⟨hname, -⟩, -⟩, hrest⟩ := h
      rw [List.map_cons, List.map_cons, ih hrest]
      exact congrArg (· :: _) hname

namespace PropertyType

/-- Types of one shape have the same fields. -/
theorem hasField_iff_of_sameShape {type other : PropertyType} (h : type.sameShape other = true)
    (field : String) : type.HasField field ↔ other.HasField field := by
  obtain ⟨kind, element, properties⟩ := type
  obtain ⟨kind', element', properties'⟩ := other
  simp only [sameShape, Bool.and_eq_true] at h
  have hnames := map_name_of_sameProperties h.2
  unfold HasField
  simp only [PropertyType.properties, ← List.mem_map, hnames]

theorem hasField_of_contains_requiredSet {type : PropertyType} {field : String}
    (h : type.requiredSet.contains field = true) : type.HasField field := by
  obtain ⟨property, hproperty, -, hname⟩ := (contains_requiredSet type field).mp h
  exact ⟨property, hproperty, hname⟩

end PropertyType

/-- What the required names of an entry are names of, given the declarations under its name. -/
structure NamedType.NamesFields (named : NamedType) (history : RegistryHistory) (name : String) :
    Prop where
  own : ∀ field, named.required.contains field = true → named.type.HasField field
  onSide : ∀ side required, named.requiredOn side = some required →
    ∃ declaration, history.lastOn? name side = some declaration ∧
      ∀ field, required.contains field = true → declaration.type.HasField field ∧
        (named.type.sameShape declaration.type = true → named.type.HasField field)

theorem NamedType.Describes.namesFields {named : NamedType} {history : RegistryHistory}
    {name : String} (h : named.Describes history name) : named.NamesFields history name where
  own field hfield := by
    obtain ⟨last, -, htype, -, hrequired⟩ := h.last
    rw [hrequired] at hfield
    rw [htype]
    exact PropertyType.hasField_of_contains_requiredSet hfield
  onSide side required hside := by
    rw [h.requiredOn side, Option.map_eq_some_iff] at hside
    obtain ⟨declaration, hlast, rfl⟩ := hside
    refine ⟨declaration, hlast, ?_⟩
    intro field hfield
    have hdeclared := PropertyType.hasField_of_contains_requiredSet hfield
    exact ⟨hdeclared, fun hshape ↦
      (PropertyType.hasField_iff_of_sameShape hshape field).mpr hdeclared⟩

/-- After a walk that succeeds, the required names of an entry are fields of its type, and those
that it keeps for a side are fields of the type declared last under its name from that side. -/
theorem Provider.namesFields_typeRegistry {provider : Provider} {schemas : List EntitySchema}
    {registry : TypeRegistry} (h : provider.typeRegistry schemas = .ok registry) :
    ∃ history : RegistryHistory, history.registry = registry ∧ history.IsFaithful ∧
      history.recorded.map (·.declaration) = provider.declarations schemas ∧
        ∀ name named, registry.get? name = some named → named.NamesFields history name := by
  obtain ⟨history, rfl, hfaithful, hrecorded⟩ := exists_history_of_typeRegistry h
  refine ⟨history, rfl, hfaithful, hrecorded, ?_⟩
  intro name named hnamed
  exact (hfaithful.describes name named hnamed).namesFields

/-! ## A type that changes between the sides -/

/-- The rule of a bucket is given by its id, and afterwards known by its address. -/
def ruleSchema : EntitySchema where
  name := "aws_bucket"
  typeName := "Bucket"
  kind := .resource
  inputs := [.mk "rule" (.withField "id") false false false none]
  outputs := [.mk "rule" (.withField "arn") false false false none]
  state := []

theorem namesFields_ruleSchema :
    ∃ registry named, Provider.empty.typeRegistry [ruleSchema] = .ok registry ∧
      registry.get? "BucketRule" = some named ∧
        ∃ history : RegistryHistory, history.registry = registry ∧
          history.recorded.map (·.declaration) = Provider.empty.declarations [ruleSchema] ∧
            named.NamesFields history "BucketRule" := by
  have hrun : ∃ registry named, Provider.empty.typeRegistry [ruleSchema] = .ok registry ∧
      registry.get? "BucketRule" = some named := ⟨_, _, rfl, rfl⟩
  obtain ⟨registry, named, hrun, hnamed⟩ := hrun
  obtain ⟨history, hregistry, -, hrecorded, hfields⟩ := Provider.namesFields_typeRegistry hrun
  exact ⟨registry, named, hrun, hnamed, history, hregistry, hrecorded, hfields _ _ hnamed⟩

/-- The entry keeps the id as a required input, but its type has no such field any more. -/
theorem dangling_requiredInputs_ruleSchema :
    ∃ registry named required, Provider.empty.typeRegistry [ruleSchema] = .ok registry ∧
      registry.get? "BucketRule" = some named ∧ named.requiredInputs = some required ∧
        required.contains "id" = true ∧ ¬ named.type.HasField "id" := by
  refine ⟨_, _, _, rfl, rfl, rfl, rfl, ?_⟩
  rintro ⟨property, hproperty, hname⟩
  cases List.mem_singleton.mp hproperty
  exact absurd hname (by decide)

end ProviderDocs
