import ProviderDocs.Error

/-!
# Steps that may fail

A step and what depends on its value succeed together.
-/

namespace ProviderDocs

theorem bind_eq_ok_iff {ε α β : Type} {first : Except ε α} {rest : α → Except ε β} {result : β} :
    first >>= rest = .ok result ↔ ∃ value, first = .ok value ∧ rest value = .ok result := by
  cases first with
  | ok value =>
    constructor
    · exact fun h ↦ ⟨value, rfl, h⟩
    · rintro ⟨_, ⟨⟩, h⟩
      exact h
  | error error =>
    constructor
    · exact fun h ↦ nomatch h
    · rintro ⟨_, ⟨⟩, _⟩

theorem map_eq_ok_iff {ε α β : Type} {f : α → β} {first : Except ε α} {result : β} :
    first.map f = .ok result ↔ ∃ value, first = .ok value ∧ f value = result := by
  cases first with
  | ok value => simp [Except.map]
  | error error => simp [Except.map]

theorem mapError_eq_ok_iff {ε δ α : Type} {f : ε → δ} {first : Except ε α} {result : α} :
    first.mapError f = .ok result ↔ first = .ok result := by
  cases first with
  | ok value =>
    constructor
    · rintro ⟨⟩
      rfl
    · rintro ⟨⟩
      rfl
  | error error => exact iff_of_false (fun h ↦ nomatch h) fun h ↦ nomatch h

end ProviderDocs
