import FxStrategyLab.Library.Decide

/-!
# The largest fall of a series

A fall of a series is the difference of an earlier and a later entry, or of an entry and
itself.  One pass that carries the peak so far and the deepest fall so far finds the largest.
-/

namespace FxStrategyLab.Library
namespace Falls

universe u

section Falls

variable {α : Type u} [AddCommGroup α] [LinearOrder α]

def falls (xs : List α) : Set α :=
  { d | ∃ (i j : Nat) (a b : α), i ≤ j ∧ xs[i]? = some a ∧ xs[j]? = some b ∧ d = a - b }

def fallStep (state : α × α) (x : α) : α × α :=
  (max state.1 x, max state.2 (max state.1 x - x))

theorem mem_falls_append {xs : List α} {x d : α} :
    d ∈ falls (xs ++ [x]) ↔ d ∈ falls xs ∨ ∃ a ∈ xs ++ [x], d = a - x := by
  constructor
  · rintro ⟨i, j, a, b, hij, ha, hb, rfl⟩
    by_cases hj : j < xs.length
    · rw [List.getElem?_append_left (hij.trans_lt hj)] at ha
      rw [List.getElem?_append_left hj] at hb
      exact Or.inl ⟨i, j, a, b, hij, ha, hb, rfl⟩
    · obtain ⟨hlt, -⟩ := List.getElem?_eq_some_iff.mp hb
      have hlast : j = xs.length := by
        rw [List.length_append, List.length_singleton] at hlt
        omega
      subst hlast
      rw [List.getElem?_concat_length] at hb
      obtain rfl := Option.some.inj hb
      exact Or.inr ⟨a, List.mem_of_getElem? ha, rfl⟩
  · rintro (⟨i, j, a, b, hij, ha, hb, rfl⟩ | ⟨a, ha, rfl⟩)
    · have hj := (List.getElem?_eq_some_iff.mp hb).1
      refine ⟨i, j, a, b, hij, ?_, ?_, rfl⟩
      · rw [List.getElem?_append_left (hij.trans_lt hj), ha]
      · rw [List.getElem?_append_left hj, hb]
    · obtain ⟨i, hi, hget⟩ := List.mem_iff_getElem.mp ha
      refine ⟨i, xs.length, a, x, ?_, ?_, ?_, rfl⟩
      · rw [List.length_append, List.length_singleton] at hi
        omega
      · rw [List.getElem?_eq_getElem hi, hget]
      · exact List.getElem?_concat_length

variable [IsOrderedAddMonoid α]

/-- **The pass finds the peak and the largest fall.** -/
theorem isGreatest_fallStep (first : α) (rest : List α) :
    IsGreatest { a | a ∈ first :: rest } (rest.foldl fallStep (first, 0)).1 ∧
      IsGreatest (falls (first :: rest)) (rest.foldl fallStep (first, 0)).2 := by
  induction rest using List.reverseRecOn with
  | nil =>
      refine ⟨⟨List.mem_singleton_self _, fun a ha => ?_⟩, ?_, ?_⟩
      · exact (List.mem_singleton.mp ha).le
      · exact ⟨0, 0, first, first, le_rfl, rfl, rfl, (sub_self first).symm⟩
      · rintro d ⟨i, j, a, b, -, ha, hb, rfl⟩
        obtain rfl := List.mem_singleton.mp (List.mem_of_getElem? ha)
        obtain rfl := List.mem_singleton.mp (List.mem_of_getElem? hb)
        exact (sub_self _).le
  | append_singleton rest x ih =>
      obtain ⟨⟨hpeak, hbelow⟩, hfall, hdeepest⟩ := ih
      rw [List.foldl_append, List.foldl_cons, List.foldl_nil]
      generalize rest.foldl fallStep (first, 0) = state at hpeak hbelow hfall hdeepest ⊢
      have hpeak' : IsGreatest { a | a ∈ first :: (rest ++ [x]) } (max state.1 x) := by
        constructor
        · show max state.1 x ∈ (first :: rest) ++ [x]
          rcases max_choice state.1 x with h | h
          · rw [h]
            exact List.mem_append_left _ hpeak
          · rw [h]
            exact List.mem_append_right _ (List.mem_singleton_self x)
        · intro a ha
          rcases List.mem_append.mp (show a ∈ (first :: rest) ++ [x] from ha) with ha | ha
          · exact (hbelow ha).trans (le_max_left _ _)
          · exact (List.mem_singleton.mp ha).le.trans (le_max_right _ _)
      refine ⟨hpeak', ?_, ?_⟩
      · show max state.2 (max state.1 x - x) ∈ falls ((first :: rest) ++ [x])
        rw [mem_falls_append]
        rcases max_choice state.2 (max state.1 x - x) with h | h
        · rw [h]
          exact Or.inl hfall
        · rw [h]
          exact Or.inr ⟨_, hpeak'.1, rfl⟩
      · intro d hd
        rcases mem_falls_append.mp (show d ∈ falls ((first :: rest) ++ [x]) from hd) with
          hd | ⟨a, ha, rfl⟩
        · exact (hdeepest hd).trans (le_max_left _ _)
        · exact (sub_le_sub_right (hpeak'.2 ha) x).trans (le_max_right _ _)

end Falls

end Falls
end FxStrategyLab.Library
