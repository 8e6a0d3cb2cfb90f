import FxStrategyLab.Library.Decide

/-!
# The largest choice of spaced entries

Entries have times, and a choice of them is spaced when any two are a spacing apart.  One pass
that takes every entry that is a spacing behind the last one taken makes a largest choice: with
any other choice, the pass has taken its next entry no later.

**Results.** `taken_sublist`, `taken_spaced`, `length_le_taken` and `isGreatest_taken`.
-/

namespace FxStrategyLab.Library
namespace Spacing

universe u v

variable {ρ : Type u} {α : Type v} [AddCommGroup α] [LinearOrder α]
variable (time : ρ → α) (spacing : α)

def Apart (x y : ρ) : Prop :=
  spacing ≤ |time y - time x|

def Chronological (xs : List ρ) : Prop :=
  xs.Pairwise fun x y => time x ≤ time y

def Free (last : Option α) (t : α) : Prop :=
  ∀ earlier ∈ last, spacing ≤ t - earlier

instance (last : Option α) (t : α) : Decidable (Free spacing last t) :=
  match last with
  | none => isTrue (by simp [Free])
  | some earlier => decidable_of_iff (spacing ≤ t - earlier) (by simp [Free])

/-- The pass: it takes an entry that is a spacing behind the last one taken. -/
def taken : Option α → List ρ → List ρ
  | _, [] => []
  | last, x :: xs =>
      if Free spacing last (time x) then x :: taken (some (time x)) xs else taken last xs

theorem taken_sublist (last : Option α) (xs : List ρ) :
    (taken time spacing last xs).Sublist xs := by
  induction xs generalizing last with
  | nil => exact .slnil
  | cons x xs ih =>
      unfold taken
      split_ifs
      · exact (ih (some (time x))).cons_cons x
      · exact (ih last).cons x

variable {time spacing} [IsOrderedAddMonoid α]

theorem Free.mono {last : Option α} {t t' : α} (h : Free spacing last t) (hle : t ≤ t') :
    Free spacing last t' := by
  intro earlier hearlier
  exact (h earlier hearlier).trans (sub_le_sub_right hle earlier)

variable {xs kept : List ρ} {last : Option α}

theorem free_of_taken (hxs : Chronological time xs) :
    ∀ x ∈ taken time spacing last xs, Free spacing last (time x) := by
  induction xs generalizing last with
  | nil => simp [taken]
  | cons x xs ih =>
      obtain ⟨hfirst, hrest⟩ := List.pairwise_cons.mp hxs
      unfold taken
      split_ifs with hfree
      · intro y hy
        rcases List.mem_cons.mp hy with rfl | hmem
        · exact hfree
        · exact hfree.mono (hfirst y ((taken_sublist time spacing _ xs).subset hmem))
      · exact ih hrest

/-- In chronological order, entries are apart where the later is a spacing behind. -/
theorem apart_of_le {x y : ρ} (hle : time x ≤ time y) :
    Apart time spacing x y ↔ spacing ≤ time y - time x := by
  rw [Apart, abs_of_nonneg (sub_nonneg.mpr hle)]

/-- **The pass makes a spaced choice.** -/
theorem taken_spaced (hxs : Chronological time xs) :
    (taken time spacing last xs).Pairwise (Apart time spacing) := by
  induction xs generalizing last with
  | nil => simp [taken]
  | cons x xs ih =>
      obtain ⟨hfirst, hrest⟩ := List.pairwise_cons.mp hxs
      unfold taken
      split_ifs
      · refine List.pairwise_cons.mpr ⟨fun y hy => ?_, ih hrest⟩
        have hle := hfirst y ((taken_sublist time spacing _ xs).subset hy)
        exact (apart_of_le hle).mpr (free_of_taken hrest y hy _ rfl)
      · exact ih hrest

/-- **The pass stays ahead of any spaced choice that is free behind its last entry.** -/
theorem length_le_taken (hxs : Chronological time xs)
    (hkept : kept.Sublist xs) (hspaced : kept.Pairwise (Apart time spacing))
    (hfree : ∀ x ∈ kept, Free spacing last (time x)) :
    kept.length ≤ (taken time spacing last xs).length := by
  induction xs generalizing last kept with
  | nil => simp [List.eq_nil_of_sublist_nil hkept, taken]
  | cons x xs ih =>
      obtain ⟨hfirst, hrest⟩ := List.pairwise_cons.mp hxs
      unfold taken
      split_ifs with htake
      · cases kept with
        | nil => simp
        | cons k ks =>
            -- the pass takes `x`, which is no later than the first entry of the choice
            obtain ⟨hbehind, hlater⟩ := List.pairwise_cons.mp hspaced
            have hks : ks.Sublist xs := hkept.tail
            have hle : time x ≤ time k := by
              rcases List.mem_cons.mp (hkept.subset List.mem_cons_self) with rfl | hmem
              · exact le_rfl
              · exact hfirst k hmem
            have hfreeLater : ∀ y ∈ ks, Free spacing (some (time x)) (time y) := by
              intro y hy earlier hearlier
              obtain rfl := Option.some.inj hearlier
              have hordered : time k ≤ time y :=
                List.rel_of_pairwise_cons (hxs.sublist hkept) hy
              have hapart := (apart_of_le hordered).mp (hbehind y hy)
              exact hapart.trans (sub_le_sub_left hle (time y))
            simpa using ih hrest hks hlater hfreeLater
      · have hnot : kept.Sublist xs := by
          cases hkept with
          | cons _ hsub => exact hsub
          | cons_cons _ _ => exact absurd (hfree x List.mem_cons_self) htake
        exact ih hrest hnot hspaced hfree

/-- **No spaced choice is larger than that of the pass.** -/
theorem isGreatest_taken (hxs : Chronological time xs) :
    IsGreatest { n | ∃ kept : List ρ, kept.Sublist xs ∧
      kept.Pairwise (Apart time spacing) ∧ kept.length = n }
      (taken time spacing none xs).length := by
  constructor
  · exact ⟨_, taken_sublist time spacing none xs, taken_spaced hxs, rfl⟩
  · rintro n ⟨kept, hsub, hspaced, rfl⟩
    exact length_le_taken hxs hsub hspaced (by simp [Free])

end Spacing
end FxStrategyLab.Library
