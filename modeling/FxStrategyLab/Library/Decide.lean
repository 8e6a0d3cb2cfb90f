import Mathlib

/-!
# Deciding statements about lists

A statement about every entry of a list is decided by running through the list, also where
its entries are of a finite type such as `Char` that could be run through instead.
-/

namespace FxStrategyLab.Library

universe u

instance (priority := high) decidableForallMem {α : Type u} (p : α → Prop) [DecidablePred p]
    (xs : List α) : Decidable (∀ x ∈ xs, p x) :=
  List.decidableBAll p xs

instance (priority := high) decidableExistsMem {α : Type u} (p : α → Prop) [DecidablePred p]
    (xs : List α) : Decidable (∃ x ∈ xs, p x) :=
  List.decidableBEx p xs

/-- The order of the integers as their linear order gives it, which can be computed. -/
instance (priority := high) intPreorder : Preorder Int :=
  Int.instLinearOrder.toPartialOrder.toPreorder

instance lawfulBEqChars : LawfulBEq (List Char) :=
  inferInstance

end FxStrategyLab.Library
