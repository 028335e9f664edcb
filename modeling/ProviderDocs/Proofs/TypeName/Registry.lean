import ProviderDocs.Proofs.Dict
import ProviderDocs.TypeName.Registry

/-!
# Entering declarations

A declaration is entered under a name exactly when the name is usable for it. What a registry
holds afterwards differs under that name only.
-/

namespace ProviderDocs

theorem NameSet.contains_ofNames (name : String) (names : List String) :
    (ofNames names).contains name = true ↔ name ∈ names := by
  simp [ofNames, Dict.contains_ofList]

/-- A set of names is known by its members. -/
theorem NameSet.ext_contains {set other : NameSet}
    (h : ∀ name, set.contains name = true ↔ other.contains name = true) : set = other := by
  apply Dict.ext_get?
  intro name
  have hname := h name
  unfold Dict.contains at hname
  cases hset : set.get? name with
  | none =>
    cases hother : other.get? name with
    | none => rfl
    | some _ => simp [hset, hother] at hname
  | some _ =>
    cases hother : other.get? name with
    | none => simp [hset, hother] at hname
    | some _ => rfl

/-- The names of the properties that have to be given, as a set. -/
def PropertyType.requiredSet (type : PropertyType) : NameSet := .ofNames type.requiredNames

theorem PropertyType.contains_requiredSet (type : PropertyType) (name : String) :
    type.requiredSet.contains name = true ↔
      ∃ property ∈ type.properties, property.isOptional = false ∧ property.name = name := by
  rw [requiredSet, NameSet.contains_ofNames]
  simp [requiredNames, and_assoc]

/-- An object type with one field, a text that has to be given. -/
def PropertyType.withField (field : String) : PropertyType :=
  .mk .object none [.mk field (.mk .string none []) false false false none]

/-- The required properties that an entry keeps for one side. -/
def NamedType.requiredOn (named : NamedType) : Side → Option NameSet
  | .input => named.requiredInputs
  | .output => named.requiredOutputs

theorem NamedType.requiredOn_record (known : Option NamedType) (declaration : Declaration)
    (side : Side) :
    (record known declaration).requiredOn side =
      if declaration.side = side then some declaration.type.requiredSet
      else known.bind (·.requiredOn side) := by
  cases side <;> rfl

theorem NamedType.contains_paths_record (known : Option NamedType) (declaration : Declaration)
    (path : TypePath) :
    (record known declaration).paths.contains path = true ↔
      path = declaration.path ∨ ∃ named, known = some named ∧ named.paths.contains path = true := by
  cases known with
  | none => simp [record, Dict.contains_insert]
  | some named => simp [record, Dict.contains_insert]

namespace TypeRegistry

variable {registry : TypeRegistry} {name : String} {declaration : Declaration}

@[simp] theorem get?_empty (name : String) : empty.get? name = none := rfl

/-- A registry is known by its entries. -/
theorem ext_get? {registry other : TypeRegistry}
    (h : ∀ name, registry.get? name = other.get? name) : registry = other :=
  congrArg mk (Dict.ext_get? h)

/-- The name is free, or bound by the same declarer or to a type of the same shape. -/
def Usable (registry : TypeRegistry) (declaration : Declaration) (name : String) : Prop :=
  ∀ named, registry.get? name = some named →
    named.declarer = declaration.declarer ∨ named.type.sameShape declaration.type = true

theorem isFree_iff :
    registry.isFree name declaration.declarer declaration.type = true ↔
      registry.Usable declaration name := by
  unfold isFree Usable
  cases h : registry.get? name with
  | none => simp
  | some named => simp [NamedType.accepts]

/-- The registry after a declaration was recorded under a name. -/
def recordUnder (registry : TypeRegistry) (name : String) (declaration : Declaration) :
    TypeRegistry :=
  ⟨registry.types.insert name (NamedType.record (registry.get? name) declaration)⟩

theorem get?_recordUnder (registry : TypeRegistry) (name other : String)
    (declaration : Declaration) :
    (registry.recordUnder name declaration).get? other =
      if other = name then some (NamedType.record (registry.get? name) declaration)
      else registry.get? other :=
  Dict.get?_insert ..

theorem enter_of_usable (h : registry.Usable declaration name) :
    registry.enter name declaration = .ok (registry.recordUnder name declaration) := by
  have hfree := isFree_iff.2 h
  unfold isFree at hfree
  unfold enter recordUnder
  cases hknown : registry.get? name with
  | none => rfl
  | some named =>
    rw [hknown] at hfree
    simp only [hfree, if_true]

theorem enter_of_not_usable (h : ¬ registry.Usable declaration name) :
    ∃ named, registry.get? name = some named ∧
      registry.enter name declaration = .error (.duplicateType name named.declarer) := by
  have hfree := mt isFree_iff.1 h
  unfold isFree at hfree
  unfold enter
  cases hknown : registry.get? name with
  | none => simp [hknown] at hfree
  | some named =>
    rw [hknown] at hfree
    exact ⟨named, rfl, if_neg hfree⟩

/-- Entering succeeds exactly for usable names. -/
theorem enter_eq_ok_iff {next : TypeRegistry} :
    registry.enter name declaration = .ok next ↔
      registry.Usable declaration name ∧ next = registry.recordUnder name declaration := by
  by_cases h : registry.Usable declaration name
  · simp [enter_of_usable h, h, eq_comm]
  · obtain ⟨named, -, herror⟩ := enter_of_not_usable h
    simp [herror, h]

/-- The name that a declaration below a property goes by, or fails to. -/
def nameFor (registry : TypeRegistry) (graph : TypeNameGraph) (property : String)
    (declaration : Declaration) : String :=
  registry.chooseName (graph.branch property) property declaration.declarer declaration.type

/-- Declaring is entering under the chosen name. -/
theorem declare_eq (registry : TypeRegistry) (graph : TypeNameGraph) (property : String)
    (declaration : Declaration) :
    registry.declare graph property declaration =
      (registry.enter (registry.nameFor graph property declaration) declaration).map
        fun next ↦ (next, graph.branch property, registry.nameFor graph property declaration) := by
  simp only [declare, nameFor]
  cases registry.enter _ declaration <;> rfl

theorem declare_eq_ok_iff {registry : TypeRegistry} {graph : TypeNameGraph} {property : String}
    {declaration : Declaration} {next : TypeRegistry} {extended : TypeNameGraph} {name : String} :
    registry.declare graph property declaration = .ok (next, extended, name) ↔
      registry.Usable declaration name ∧ name = registry.nameFor graph property declaration ∧
        next = registry.recordUnder name declaration ∧ extended = graph.branch property := by
  rw [declare_eq]
  by_cases h : registry.Usable declaration (registry.nameFor graph property declaration)
  · rw [enter_of_usable h]
    simp only [Except.map, Except.ok.injEq, Prod.mk.injEq]
    constructor
    · rintro ⟨rfl, rfl, rfl⟩
      exact ⟨h, rfl, rfl, rfl⟩
    · rintro ⟨-, rfl, rfl, rfl⟩
      exact ⟨rfl, rfl, rfl⟩
  · obtain ⟨named, -, herror⟩ := enter_of_not_usable h
    simp only [herror, Except.map, reduceCtorEq, false_iff]
    rintro ⟨husable, rfl, -⟩
    exact h husable

theorem declare_eq_error {registry : TypeRegistry} {graph : TypeNameGraph} {property : String}
    {declaration : Declaration} {error : Error}
    (h : registry.declare graph property declaration = .error error) :
    ¬ registry.Usable declaration (registry.nameFor graph property declaration) ∧
      ∃ named, registry.get? (registry.nameFor graph property declaration) = some named ∧
        error = .duplicateType (registry.nameFor graph property declaration) named.declarer := by
  rw [declare_eq] at h
  by_cases husable : registry.Usable declaration (registry.nameFor graph property declaration)
  · rw [enter_of_usable husable] at h
    cases h
  · obtain ⟨named, hnamed, herror⟩ := enter_of_not_usable husable
    rw [herror] at h
    cases h
    exact ⟨husable, named, hnamed, rfl⟩

end TypeRegistry

end ProviderDocs
