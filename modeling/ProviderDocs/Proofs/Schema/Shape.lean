import ProviderDocs.Schema.Basic

/-!
# The shape of a type

What does not count for the shape of a type can be cleared in it, in its elements and in its
fields. Two types have the same shape when they are equal once it is cleared, and so having the
same shape is an equivalence.
-/

namespace ProviderDocs

/-! ## Erasure -/

mutual

/-- The type, with no property at any depth described, computed or sensitive. -/
def PropertyType.erased : PropertyType → PropertyType
  | .mk kind element properties => .mk kind (erasedElement element) (erasedProperties properties)

def erasedElement : Option PropertyType → Option PropertyType
  | none => none
  | some type => some type.erased

def Property.erased : Property → Property
  | .mk name type isOptional _ _ _ => .mk name type.erased isOptional false false none

def erasedProperties : List Property → List Property
  | [] => []
  | property :: rest => property.erased :: erasedProperties rest

end

/-! ## Same shapes -/

mutual

theorem PropertyType.sameShape_iff_erased_eq :
    ∀ a b : PropertyType, a.sameShape b = true ↔ a.erased = b.erased
  | .mk kind element properties, .mk kind' element' properties' => by
    have helement := sameElement_iff_erased_eq element element'
    have hproperties := sameProperties_iff_erased_eq properties properties'
    rw [PropertyType.sameShape, PropertyType.erased, PropertyType.erased, PropertyType.mk.injEq,
      Bool.and_eq_true, Bool.and_eq_true, decide_eq_true_eq, helement, hproperties, and_assoc]

theorem sameElement_iff_erased_eq :
    ∀ a b : Option PropertyType, sameElement a b = true ↔ erasedElement a = erasedElement b
  | none, none => iff_of_true rfl rfl
  | none, some _ => iff_of_false Bool.false_ne_true nofun
  | some _, none => iff_of_false Bool.false_ne_true nofun
  | some a, some b => by
    rw [sameElement, erasedElement, erasedElement, Option.some.injEq]
    exact a.sameShape_iff_erased_eq b

theorem sameProperties_iff_erased_eq :
    ∀ a b : List Property, sameProperties a b = true ↔ erasedProperties a = erasedProperties b
  | [], [] => iff_of_true rfl rfl
  | [], .mk .. :: _ => iff_of_false Bool.false_ne_true nofun
  | .mk .. :: _, [] => iff_of_false Bool.false_ne_true nofun
  | .mk name type isOptional _ _ _ :: rest, .mk name' type' isOptional' _ _ _ :: rest' => by
    have htype := type.sameShape_iff_erased_eq type'
    have hrest := sameProperties_iff_erased_eq rest rest'
    rw [sameProperties, erasedProperties, erasedProperties, Property.erased, Property.erased,
      List.cons.injEq, Property.mk.injEq]
    simp only [Bool.and_eq_true, decide_eq_true_eq, htype, hrest, and_true, and_assoc]
    exact and_congr_right fun _ ↦ and_left_comm

end

/-- Two types have the same shape if and only if they are equal once what does not count is
cleared. So every type has the shape of itself, and having the same shape goes both ways and
carries over. -/
theorem PropertyType.sameShape_iff_and_equivalence :
    (∀ a b : PropertyType, a.sameShape b = true ↔ a.erased = b.erased) ∧
      Equivalence fun a b : PropertyType ↦ a.sameShape b = true := by
  refine ⟨sameShape_iff_erased_eq, ?_, ?_, ?_⟩
  · intro a
    exact (sameShape_iff_erased_eq a a).mpr rfl
  · intro a b h
    rw [sameShape_iff_erased_eq] at h ⊢
    exact h.symm
  · intro a b c hab hbc
    rw [sameShape_iff_erased_eq] at hab hbc ⊢
    exact hab.trans hbc

end ProviderDocs
