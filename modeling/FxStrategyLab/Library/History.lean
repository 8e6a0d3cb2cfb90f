import FxStrategyLab.Library.Decide

/-!
# Append-only histories

A history is a list that grows at its end.  `Grown P l` says that every element
of `l` was admissible, in the sense of `P`, behind the elements before it.  The
property is kept by an append exactly when the new element is admissible, and it
passes to every prefix.
-/

namespace FxStrategyLab.Library

universe u

variable {α : Type u} {P Q : List α → α → Prop} {l : List α} {a : α}

def Grown (P : List α → α → Prop) (l : List α) : Prop :=
  ∀ before a later, l = before ++ a :: later → P before a

@[simp]
theorem grown_nil : Grown P [] := by
  intro before a later h
  exact absurd h (by simp)

theorem grown_append_singleton : Grown P (l ++ [a]) ↔ Grown P l ∧ P l a := by
  constructor
  · intro h
    refine ⟨fun before b later hl => ?_, h l a [] rfl⟩
    exact h before b (later ++ [a]) (by rw [hl, List.append_assoc, List.cons_append])
  · rintro ⟨hl, ha⟩ before b later h
    rcases List.eq_nil_or_concat later with rfl | ⟨later, c, rfl⟩
    · -- the new element
      obtain ⟨rfl, hb⟩ := List.append_inj' h rfl
      cases hb
      exact ha
    · have hlast : l ++ [a] = (before ++ b :: later) ++ [c] := by
        rw [h, List.append_assoc, List.cons_append, List.concat_eq_append]
      obtain ⟨rfl, -⟩ := List.append_inj' hlast rfl
      exact hl before b later rfl

theorem Grown.mono (h : Grown P l) (hPQ : ∀ before b, P before b → Q before b) : Grown Q l :=
  fun before b later hl => hPQ before b (h before b later hl)

theorem Grown.of_prefix (h : Grown P l) {k : List α} (hk : k <+: l) : Grown P k := by
  obtain ⟨rest, rfl⟩ := hk
  intro before b later hl
  exact h before b (later ++ rest) (by rw [hl, List.append_assoc, List.cons_append])

theorem Grown.at (h : Grown P l) {before : List α} {b : α} (hb : before ++ [b] <+: l) :
    P before b := by
  obtain ⟨rest, rfl⟩ := hb
  exact h before b rest (by rw [List.append_assoc, List.singleton_append])

theorem Grown.getElem? (h : Grown P l) {n : Nat} {b : α} (hb : l[n]? = some b) :
    P (l.take n) b := by
  obtain ⟨hn, rfl⟩ := List.getElem?_eq_some_iff.mp hb
  refine h (l.take n) l[n] (l.drop (n + 1)) ?_
  rw [← List.drop_eq_getElem_cons hn, List.take_append_drop]

/-- Two prefixes of a history, one shorter than the other: the element behind the shorter
one is in the longer one. -/
theorem prefix_of_length_lt {before before' : List α} {b : α} (h : before ++ [b] <+: l)
    (h' : before' <+: l) (hlt : before.length < before'.length) : before ++ [b] <+: before' :=
  List.prefix_of_prefix_length_le h h' (by rw [List.length_append]; exact hlt)

end FxStrategyLab.Library
