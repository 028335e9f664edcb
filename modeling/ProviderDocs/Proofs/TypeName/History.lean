import ProviderDocs.Proofs.TypeName.Registry

/-!
# What a registry remembers

A registry is called in any order, and a call that fails is followed by others. Each field of an
entry has a rule of its own. The type, the declarer and the required properties are those of the
last declaration recorded under the name. Each side keeps the required properties of its own last
declaration, and the locations accumulate. The main statement reads all of them off the list of
the recorded declarations.
-/

namespace ProviderDocs

/-! ## Calls -/

inductive RegistryCall where
  /-- The registry chooses a name for the type of a property. -/
  | declare (graph : TypeNameGraph) (property : String) (declaration : Declaration)
  /-- The name was chosen before. -/
  | enter (name : String) (declaration : Declaration)

def RegistryCall.declaration : RegistryCall → Declaration
  | declare _ _ declaration => declaration
  | enter _ declaration => declaration

/-- The registry after a call, and the name that the declaration goes by. -/
def TypeRegistry.perform (registry : TypeRegistry) :
    RegistryCall → Except Error (TypeRegistry × String)
  | .declare graph property declaration =>
    (registry.declare graph property declaration).map fun result ↦ (result.1, result.2.2)
  | .enter name declaration => (registry.enter name declaration).map fun next ↦ (next, name)

/-- A declaration with the name that it went by. -/
structure Recording where
  name : String
  declaration : Declaration

/-- A registry and the successful calls that led to it, in order. -/
structure RegistryHistory where
  registry : TypeRegistry
  recorded : List Recording

namespace RegistryHistory

def start : RegistryHistory := ⟨.empty, []⟩

/-- A call that fails leaves everything as it was. -/
def step (history : RegistryHistory) (call : RegistryCall) : RegistryHistory :=
  match history.registry.perform call with
  | .ok (next, name) => ⟨next, history.recorded ++ [⟨name, call.declaration⟩]⟩
  | .error _ => history

def ofCalls (calls : List RegistryCall) : RegistryHistory := calls.foldl step start

/-- The last declaration under a name. -/
def last? (history : RegistryHistory) (name : String) : Option Declaration :=
  (history.recorded.findRev? (·.name = name)).map (·.declaration)

/-- The last declaration under a name from one side. -/
def lastOn? (history : RegistryHistory) (name : String) (side : Side) : Option Declaration :=
  (history.recorded.findRev? fun recording ↦
    recording.name = name && recording.declaration.side = side).map (·.declaration)

end RegistryHistory

/-! ## Entries described by recordings -/

/-- An entry holds what the rules of its fields make of the declarations under its name. -/
structure NamedType.Describes (named : NamedType) (history : RegistryHistory) (name : String) :
    Prop where
  last : ∃ declaration, history.last? name = some declaration ∧
    named.type = declaration.type ∧ named.declarer = declaration.declarer ∧
      named.required = declaration.type.requiredSet
  paths : ∀ path, named.paths.contains path = true ↔
    ∃ recording ∈ history.recorded, recording.name = name ∧ recording.declaration.path = path
  requiredOn : ∀ side,
    named.requiredOn side = (history.lastOn? name side).map (·.type.requiredSet)

namespace RegistryHistory

/-- The registry binds the names of the recordings, to entries that describe them. -/
structure IsFaithful (history : RegistryHistory) : Prop where
  bound : ∀ name, (history.registry.get? name).isSome = true ↔
    ∃ recording ∈ history.recorded, recording.name = name
  describes : ∀ name named, history.registry.get? name = some named →
    named.Describes history name

theorem isFaithful_start : start.IsFaithful where
  bound _ := by simp [start, TypeRegistry.get?_empty]
  describes _ _ h := by simp [start, TypeRegistry.get?_empty] at h

/-! ## One more recording -/

/-- The history after a declaration went by a name that was usable for it. -/
def record (history : RegistryHistory) (name : String) (declaration : Declaration) :
    RegistryHistory :=
  ⟨history.registry.recordUnder name declaration, history.recorded ++ [⟨name, declaration⟩]⟩

theorem last?_record (history : RegistryHistory) (name other : String)
    (declaration : Declaration) :
    (history.record name declaration).last? other =
      if name = other then some declaration else history.last? other := by
  unfold last? record
  by_cases h : name = other <;> simp [h]

theorem lastOn?_record (history : RegistryHistory) (name other : String)
    (declaration : Declaration) (side : Side) :
    (history.record name declaration).lastOn? other side =
      if name = other ∧ declaration.side = side then some declaration
      else history.lastOn? other side := by
  unfold lastOn? record
  by_cases hname : name = other
  · by_cases hside : declaration.side = side <;> simp [hname, hside]
  · simp [hname]

theorem lastOn?_eq_none {history : RegistryHistory} {name : String}
    (h : ∀ recording ∈ history.recorded, recording.name ≠ name) (side : Side) :
    history.lastOn? name side = none := by
  unfold lastOn?
  simpa using fun recording hrecording hname ↦ absurd hname (h recording hrecording)

/-- What was known under the name is the only part of a history that its new entry reads. -/
theorem describes_record_self {history : RegistryHistory} (hfaithful : history.IsFaithful)
    (name : String) (declaration : Declaration) :
    (NamedType.record (history.registry.get? name) declaration).Describes
      (history.record name declaration) name where
  last := ⟨declaration, by rw [last?_record, if_pos rfl], rfl, rfl, rfl⟩
  paths path := by
    rw [NamedType.contains_paths_record]
    simp only [record, List.mem_append, List.mem_singleton, or_and_right, exists_or,
      exists_eq_left, true_and]
    rw [or_comm, eq_comm]
    refine or_congr ?_ Iff.rfl
    constructor
    · rintro ⟨named, hknown, hpath⟩
      exact ((hfaithful.describes name named hknown).paths path).1 hpath
    · rintro ⟨recording, hrecording, hname, hpath⟩
      obtain ⟨named, hknown⟩ := Option.isSome_iff_exists.1
        ((hfaithful.bound name).2 ⟨recording, hrecording, hname⟩)
      have hpaths := (hfaithful.describes name named hknown).paths path
      exact ⟨named, hknown, hpaths.2 ⟨recording, hrecording, hname, hpath⟩⟩
  requiredOn side := by
    rw [NamedType.requiredOn_record, lastOn?_record]
    by_cases hside : declaration.side = side
    · simp [hside]
    · simp only [hside, and_false, if_false]
      cases hknown : history.registry.get? name with
      | none =>
        have hnone := mt (hfaithful.bound name).2 (by simp [hknown])
        rw [lastOn?_eq_none fun recording hrecording hname ↦ hnone ⟨recording, hrecording, hname⟩]
        rfl
      | some named => exact (hfaithful.describes name named hknown).requiredOn side

/-- Entries under other names describe the longer history as well. -/
theorem describes_record_of_ne {history : RegistryHistory} {named : NamedType}
    {name other : String} (h : named.Describes history other) (hne : name ≠ other)
    (declaration : Declaration) : named.Describes (history.record name declaration) other where
  last := by rw [last?_record, if_neg hne]; exact h.last
  paths path := by rw [h.paths path]; simp [record, hne]
  requiredOn side := by rw [lastOn?_record, if_neg fun hboth ↦ hne hboth.1]; exact h.requiredOn side

/-- Recording one more declaration keeps a history faithful. -/
theorem IsFaithful.record {history : RegistryHistory} (h : history.IsFaithful) (name : String)
    (declaration : Declaration) : (history.record name declaration).IsFaithful where
  bound other := by
    have hget := TypeRegistry.get?_recordUnder history.registry name other declaration
    simp only [RegistryHistory.record, hget, List.mem_append, List.mem_singleton, or_and_right,
      exists_or, exists_eq_left]
    by_cases hne : other = name
    · simp [hne]
    · rw [if_neg hne, h.bound other]
      simp [Ne.symm hne]
  describes other named hnamed := by
    have hget := TypeRegistry.get?_recordUnder history.registry name other declaration
    by_cases hne : other = name
    · subst hne
      rw [if_pos rfl] at hget
      cases hnamed.symm.trans hget
      exact describes_record_self h other declaration
    · rw [if_neg hne] at hget
      exact describes_record_of_ne (h.describes other named (hget.symm.trans hnamed))
        (Ne.symm hne) declaration

/-! ## Runs of calls -/

/-- Both kinds of calls enter their declaration under some name. -/
theorem perform_eq_enter (registry : TypeRegistry) (call : RegistryCall) :
    ∃ name, registry.perform call =
      (registry.enter name call.declaration).map fun next ↦ (next, name) := by
  cases call with
  | enter name declaration => exact ⟨name, rfl⟩
  | declare graph property declaration =>
    refine ⟨registry.nameFor graph property declaration, ?_⟩
    rw [TypeRegistry.perform, TypeRegistry.declare_eq, RegistryCall.declaration]
    cases registry.enter _ declaration <;> rfl

theorem step_of_error {history : RegistryHistory} {call : RegistryCall} {error : Error}
    (h : history.registry.perform call = .error error) : history.step call = history := by
  rw [step, h]

/-- A call records its declaration under a name that is usable for it, or it fails and does
nothing. -/
theorem step_cases (history : RegistryHistory) (call : RegistryCall) :
    (∃ name, history.registry.Usable call.declaration name ∧
      history.step call = history.record name call.declaration) ∨
        history.step call = history := by
  obtain ⟨name, hperform⟩ := perform_eq_enter history.registry call
  unfold step
  cases henter : history.registry.enter name call.declaration with
  | error error => exact .inr (by rw [hperform, henter]; rfl)
  | ok next =>
    obtain ⟨husable, rfl⟩ := TypeRegistry.enter_eq_ok_iff.1 henter
    exact .inl ⟨name, husable, by rw [hperform, henter]; rfl⟩

theorem IsFaithful.step {history : RegistryHistory} (h : history.IsFaithful)
    (call : RegistryCall) : (history.step call).IsFaithful := by
  obtain ⟨name, -, hstep⟩ | hstep := step_cases history call
  · rw [hstep]
    exact h.record name call.declaration
  · rwa [hstep]

theorem IsFaithful.run {history : RegistryHistory} (h : history.IsFaithful)
    (calls : List RegistryCall) : (calls.foldl RegistryHistory.step history).IsFaithful := by
  induction calls generalizing history with
  | nil => exact h
  | cons call rest ih => exact ih (h.step call)

theorem isFaithful_ofCalls (calls : List RegistryCall) : (ofCalls calls).IsFaithful :=
  isFaithful_start.run calls

/-- A call that fails leaves the history as it was. After any run of calls the registry binds the
names of the successful ones, and each entry can be read off those under its name. -/
theorem registry_ofCalls (calls : List RegistryCall) :
    (∀ call error, (ofCalls calls).registry.perform call = .error error →
      ofCalls (calls ++ [call]) = ofCalls calls) ∧
    (∀ name, ((ofCalls calls).registry.get? name).isSome = true ↔
      ∃ recording ∈ (ofCalls calls).recorded, recording.name = name) ∧
    ∀ name named, (ofCalls calls).registry.get? name = some named →
      (∃ declaration, (ofCalls calls).last? name = some declaration ∧
        named.type = declaration.type ∧ named.declarer = declaration.declarer ∧
          ∀ field, named.required.contains field = true ↔
            ∃ property ∈ declaration.type.properties,
              property.isOptional = false ∧ property.name = field) ∧
      (∀ path, named.paths.contains path = true ↔
        ∃ recording ∈ (ofCalls calls).recorded,
          recording.name = name ∧ recording.declaration.path = path) ∧
      named.requiredInputs =
        ((ofCalls calls).lastOn? name .input).map (·.type.requiredSet) ∧
      named.requiredOutputs =
        ((ofCalls calls).lastOn? name .output).map (·.type.requiredSet) := by
  have hfaithful := isFaithful_ofCalls calls
  refine ⟨?_, hfaithful.bound, ?_⟩
  · intro call error herror
    rw [ofCalls, List.foldl_append]
    exact step_of_error herror
  · intro name named hnamed
    have hdescribes := hfaithful.describes name named hnamed
    obtain ⟨declaration, hlast, htype, hdeclarer, hrequired⟩ := hdescribes.last
    refine ⟨⟨declaration, hlast, htype, hdeclarer, ?_⟩, hdescribes.paths,
      hdescribes.requiredOn .input, hdescribes.requiredOn .output⟩
    intro field
    rw [hrequired, PropertyType.contains_requiredSet]

end RegistryHistory

end ProviderDocs
