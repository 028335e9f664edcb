import Mathlib.Data.List.Chain
import ProviderDocs.Proofs.TypeName.History

/-!
# Declarations that share a name

A name is reused by the entity that declared it last, or for a type of the shape that was declared
last. The declarations under a name therefore form a chain: each is compatible with the one before
it. Compatibility does not carry over a longer stretch, since an entity may give its name another
shape and a second entity may then take that shape over.
-/

namespace ProviderDocs

/-- One entity makes both declarations, or their types have the same shape. -/
def Declaration.Compatible (earlier later : Declaration) : Prop :=
  earlier.declarer = later.declarer ∨ earlier.type.sameShape later.type = true

instance (earlier later : Declaration) : Decidable (earlier.Compatible later) :=
  inferInstanceAs (Decidable (_ ∨ _))

namespace RegistryHistory

/-- The declarations that went by a name, in order. -/
def declarationsUnder (history : RegistryHistory) (name : String) : List Declaration :=
  (history.recorded.filter (·.name = name)).map (·.declaration)

theorem getLast?_declarationsUnder (history : RegistryHistory) (name : String) :
    (history.declarationsUnder name).getLast? = history.last? name := by
  rw [declarationsUnder, last?, List.getLast?_map, List.getLast?_filter,
    List.findRev?_eq_find?_reverse]

theorem declarationsUnder_record (history : RegistryHistory) (name other : String)
    (declaration : Declaration) :
    (history.record name declaration).declarationsUnder other =
      if name = other then history.declarationsUnder other ++ [declaration]
      else history.declarationsUnder other := by
  unfold declarationsUnder record
  by_cases hname : name = other
  · simp [hname]
  · simp [hname]

/-! ## Usable names -/

/-- A name is usable for a declaration that is compatible with the last one under it. -/
theorem IsFaithful.usable_iff {history : RegistryHistory} (h : history.IsFaithful) (name : String)
    (declaration : Declaration) :
    history.registry.Usable declaration name ↔
      ∀ last ∈ history.last? name, last.Compatible declaration := by
  unfold TypeRegistry.Usable Declaration.Compatible
  cases hknown : history.registry.get? name with
  | none =>
    have hunbound := mt (h.bound name).2 (by simp [hknown])
    have hlast : history.last? name = none := by
      simpa [last?] using fun recording hrecording hname ↦ hunbound ⟨recording, hrecording, hname⟩
    simp [hlast]
  | some named =>
    obtain ⟨last, hlast, htype, hdeclarer, -⟩ := (h.describes name named hknown).last
    simp [hlast, htype, hdeclarer]

/-- The declarations under a name can be followed by those for which the name is usable. -/
theorem IsFaithful.isChain_concat_iff {history : RegistryHistory} (h : history.IsFaithful)
    {name : String} (hchain : (history.declarationsUnder name).IsChain Declaration.Compatible)
    (declaration : Declaration) :
    (history.declarationsUnder name ++ [declaration]).IsChain Declaration.Compatible ↔
      history.registry.Usable declaration name := by
  rw [List.isChain_append, getLast?_declarationsUnder, h.usable_iff]
  simp [hchain]

/-! ## Runs of calls -/

/-- Under each name, every declaration is compatible with the one before it. -/
def IsChained (history : RegistryHistory) : Prop :=
  ∀ name, (history.declarationsUnder name).IsChain Declaration.Compatible

theorem IsChained.record {history : RegistryHistory} (hfaithful : history.IsFaithful)
    (h : history.IsChained) {name : String} {declaration : Declaration}
    (husable : history.registry.Usable declaration name) :
    (history.record name declaration).IsChained := by
  intro other
  rw [declarationsUnder_record]
  split
  case isTrue hname =>
    subst hname
    exact (hfaithful.isChain_concat_iff (h name) declaration).2 husable
  case isFalse => exact h other

theorem IsChained.step {history : RegistryHistory} (hfaithful : history.IsFaithful)
    (h : history.IsChained) (call : RegistryCall) : (history.step call).IsChained := by
  obtain ⟨name, husable, hstep⟩ | hstep := step_cases history call
  · rw [hstep]
    exact h.record hfaithful husable
  · rwa [hstep]

theorem isChained_ofCalls (calls : List RegistryCall) : (ofCalls calls).IsChained := by
  suffices h : ∀ history : RegistryHistory, history.IsFaithful → history.IsChained →
      (calls.foldl RegistryHistory.step history).IsChained from
    h start isFaithful_start fun name ↦ List.isChain_nil
  induction calls with
  | nil => exact fun history _ hchained ↦ hchained
  | cons call rest ih =>
    intro history hfaithful hchained
    exact ih _ (hfaithful.step call) (hchained.step hfaithful call)

/-- After any run of calls, each declaration under a name is compatible with the one recorded
directly before it under that name. A further one can be entered under the name exactly when it
goes on with the chain. -/
theorem isChain_declarationsUnder (calls : List RegistryCall) (name : String) :
    ((ofCalls calls).declarationsUnder name).IsChain Declaration.Compatible ∧
      ∀ declaration,
        (∃ result, (ofCalls calls).registry.perform (.enter name declaration) = .ok result) ↔
          ((ofCalls calls).declarationsUnder name ++ [declaration]).IsChain
            Declaration.Compatible := by
  have hchain := isChained_ofCalls calls name
  refine ⟨hchain, fun declaration ↦ ?_⟩
  rw [(isFaithful_ofCalls calls).isChain_concat_iff hchain, TypeRegistry.perform]
  by_cases husable : (ofCalls calls).registry.Usable declaration name
  · rw [TypeRegistry.enter_of_usable husable]
    exact iff_of_true ⟨_, rfl⟩ husable
  · obtain ⟨named, -, herror⟩ := TypeRegistry.enter_of_not_usable husable
    rw [herror]
    refine iff_of_false ?_ husable
    rintro ⟨result, hresult⟩
    cases hresult

/-! ## A name that changes hands -/

/-- A bucket gives its type another shape, and a queue takes that shape over. -/
def handedOver : List RegistryCall :=
  [.enter "Rule" ⟨"aws_bucket.inputs.rule", "aws_bucket", .withField "id", .input⟩,
    .enter "Rule" ⟨"aws_bucket.outputs.rule", "aws_bucket", .withField "arn", .output⟩,
    .enter "Rule" ⟨"aws_queue.outputs.rule", "aws_queue", .withField "arn", .output⟩]

/-- All three calls succeed, but the first and the last declaration are not compatible. -/
theorem not_pairwise_compatible_handedOver :
    (ofCalls handedOver).recorded.map (·.declaration) = handedOver.map (·.declaration) ∧
      ¬ ((ofCalls handedOver).declarationsUnder "Rule").Pairwise Declaration.Compatible := by
  refine ⟨by rfl, ?_⟩
  have h : (ofCalls handedOver).declarationsUnder "Rule" = handedOver.map (·.declaration) := by rfl
  rw [h]
  decide

end RegistryHistory

end ProviderDocs
