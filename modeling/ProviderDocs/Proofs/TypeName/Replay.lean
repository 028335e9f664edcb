import ProviderDocs.Proofs.TypeName.History

/-!
# Recording a list of declarations again

Of the declarations under a name, a registry keeps the last one, the last one of each side, and all
locations. Two histories in which these are the same therefore have the same registry. In
particular a list of declarations can be recorded a second time, which changes nothing.
-/

namespace ProviderDocs

namespace RegistryHistory

variable {history later : RegistryHistory}

/-! ## Histories with the same registry -/

/-- The recordings are the same but for their number and order, and whatever is looked for among
them, the last one found is the same. -/
structure SameLast (history later : RegistryHistory) : Prop where
  findRev? : ∀ select, history.recorded.findRev? select = later.recorded.findRev? select
  mem_iff : ∀ recording, recording ∈ history.recorded ↔ recording ∈ later.recorded

theorem SameLast.eq_of_describes (h : history.SameLast later) {named other : NamedType}
    {name : String} (hnamed : named.Describes history name)
    (hother : other.Describes later name) : named = other := by
  obtain ⟨declaration, hlast, htype, hdeclarer, hrequired⟩ := hnamed.last
  obtain ⟨declaration', hlast', htype', hdeclarer', hrequired'⟩ := hother.last
  have hsame : declaration = declaration' := by
    rw [last?, h.findRev?] at hlast
    exact Option.some.inj (hlast.symm.trans hlast')
  subst hsame
  have hside (side : Side) : named.requiredOn side = other.requiredOn side := by
    rw [hnamed.requiredOn, hother.requiredOn, lastOn?, lastOn?, h.findRev?]
  have hinputs : named.requiredInputs = other.requiredInputs := hside .input
  have houtputs : named.requiredOutputs = other.requiredOutputs := hside .output
  have hpaths : named.paths = other.paths := by
    apply NameSet.ext_contains
    intro path
    rw [hnamed.paths, hother.paths]
    exact exists_congr fun recording ↦ and_congr (h.mem_iff recording) Iff.rfl
  cases named
  cases other
  simp_all only

theorem IsFaithful.registry_eq (h : history.IsFaithful) (hlater : later.IsFaithful)
    (hsame : history.SameLast later) : history.registry = later.registry := by
  apply TypeRegistry.ext_get?
  intro name
  have hbound :
      (history.registry.get? name).isSome = true ↔ (later.registry.get? name).isSome = true := by
    rw [h.bound, hlater.bound]
    exact exists_congr fun recording ↦ and_congr (hsame.mem_iff recording) Iff.rfl
  cases hknown : history.registry.get? name with
  | none =>
    rw [hknown] at hbound
    cases hother : later.registry.get? name with
    | none => rfl
    | some other => simp [hother] at hbound
  | some named =>
    rw [hknown] at hbound
    obtain ⟨other, hother⟩ := Option.isSome_iff_exists.mp (hbound.mp rfl)
    have hdescribes := h.describes name named hknown
    rw [hother, hsame.eq_of_describes hdescribes (hlater.describes name other hother)]

/-! ## Lists of recordings -/

/-- The history after some declarations went by names that were usable for them. -/
def recordAll (history : RegistryHistory) (recordings : List Recording) : RegistryHistory :=
  recordings.foldl (fun history recording ↦ history.record recording.name recording.declaration)
    history

theorem recorded_recordAll (history : RegistryHistory) (recordings : List Recording) :
    (history.recordAll recordings).recorded = history.recorded ++ recordings := by
  induction recordings generalizing history with
  | nil => exact (List.append_nil _).symm
  | cons recording rest ih =>
    calc
      _ = (history.record recording.name recording.declaration).recorded ++ rest := ih _
      _ = _ := List.append_assoc ..

theorem IsFaithful.recordAll (h : history.IsFaithful) (recordings : List Recording) :
    (history.recordAll recordings).IsFaithful := by
  induction recordings generalizing history with
  | nil => exact h
  | cons recording rest ih => exact ih (h.record recording.name recording.declaration)

/-- A list of declarations that is recorded twice leaves the registry that it left the first
time. -/
theorem registry_recordAll_twice (recordings : List Recording) :
    (start.recordAll (recordings ++ recordings)).registry =
      (start.recordAll recordings).registry := by
  apply (isFaithful_start.recordAll _).registry_eq (isFaithful_start.recordAll _)
  constructor
  · intro select
    simp [recorded_recordAll, start, List.findRev?_eq_find?_reverse]
  · intro recording
    simp [recorded_recordAll, start]

end RegistryHistory

end ProviderDocs
