import FxStrategyLab.Library.Decide

/-!
# Ranks in increasing lists

A list whose keys strictly increase can be read by position or by key: the position of a row
is the number of rows with smaller keys.  A row lies a given number of positions after another
exactly when that many keys lie between the two.

**Results.** `rank_eq`, `between_eq_sub` and `row_after_iff`.
-/

namespace FxStrategyLab.Library
namespace Ranks

universe u v

variable {ρ : Type u} {τ : Type v} [LinearOrder τ] {key : ρ → τ} {rows : List ρ}

def Increasing (key : ρ → τ) (rows : List ρ) : Prop :=
  rows.Pairwise fun earlier later => key earlier < key later
deriving Decidable

/-- The number of rows with a key after `low` and up to `high`. -/
def between (key : ρ → τ) (rows : List ρ) (low high : τ) : Nat :=
  rows.countP fun row => low < key row ∧ key row ≤ high

variable {row earlier later first last : ρ} {i j n : Nat}

theorem split_at (hrow : rows[i]? = some row) :
    rows = rows.take i ++ row :: rows.drop (i + 1) := by
  obtain ⟨hi, rfl⟩ := List.getElem?_eq_some_iff.mp hrow
  rw [← List.drop_eq_getElem_cons hi, List.take_append_drop]

theorem key_before (h : Increasing key rows) (hrow : rows[i]? = some row)
    (hearlier : earlier ∈ rows.take i) : key earlier < key row := by
  rw [Increasing, split_at hrow] at h
  exact (List.pairwise_append.mp h).2.2 earlier hearlier row List.mem_cons_self

theorem key_after (h : Increasing key rows) (hrow : rows[i]? = some row)
    (hlater : later ∈ rows.drop (i + 1)) : key row < key later := by
  rw [Increasing, split_at hrow] at h
  exact List.rel_of_pairwise_cons (List.pairwise_append.mp h).2.1 hlater

theorem rank_eq (h : Increasing key rows) (hrow : rows[i]? = some row) :
    (rows.countP fun other => key other ≤ key row) = i + 1 := by
  have hi : i < rows.length := (List.getElem?_eq_some_iff.mp hrow).1
  have hbefore : ((rows.take i).countP fun other => key other ≤ key row) = i := by
    rw [List.countP_eq_length.mpr, List.length_take_of_le hi.le]
    intro earlier hearlier
    exact decide_eq_true (key_before h hrow hearlier).le
  have hafter : ((rows.drop (i + 1)).countP fun other => key other ≤ key row) = 0 := by
    rw [List.countP_eq_zero]
    intro later hlater
    simpa using key_after h hrow hlater
  calc (rows.countP fun other => key other ≤ key row)
      = (rows.take i ++ row :: rows.drop (i + 1)).countP fun other => key other ≤ key row := by
        rw [← split_at hrow]
    _ = i + 1 := by
        rw [List.countP_append, List.countP_cons, hbefore, hafter]
        simp

theorem between_add (key : ρ → τ) (rows : List ρ) {low high : τ} (hle : low ≤ high) :
    between key rows low high + (rows.countP fun row => key row ≤ low) =
      rows.countP fun row => key row ≤ high := by
  unfold between
  induction rows with
  | nil => rfl
  | cons row rows ih =>
      rw [List.countP_cons, List.countP_cons, List.countP_cons, ← ih]
      by_cases hlow : key row ≤ low
      · have hhigh : key row ≤ high := hlow.trans hle
        simp [hlow, hhigh, not_lt.mpr hlow]
        omega
      · by_cases hhigh : key row ≤ high
        · simp [hlow, hhigh, not_le.mp hlow]
          omega
        · simp [hlow, hhigh]

theorem between_eq_sub (h : Increasing key rows)
    (hfirst : rows[i]? = some first) (hlast : rows[j]? = some last)
    (hle : key first ≤ key last) : between key rows (key first) (key last) = j - i := by
  have hsum := between_add key rows hle
  rw [rank_eq h hfirst, rank_eq h hlast] at hsum
  omega

/-- **The row so many positions on has a key exactly when some row has it and that many keys
lie between.** -/
theorem row_after_iff {high : τ} (h : Increasing key rows)
    (hfirst : rows[i]? = some first) (hle : key first ≤ high) :
    (∃ row, rows[i + n]? = some row ∧ key row = high) ↔
      (∃ row ∈ rows, key row = high) ∧ between key rows (key first) high = n := by
  constructor
  · rintro ⟨row, hrow, rfl⟩
    refine ⟨⟨row, List.mem_of_getElem? hrow, rfl⟩, ?_⟩
    rw [between_eq_sub h hfirst hrow hle, Nat.add_sub_cancel_left]
  · rintro ⟨⟨row, hmem, rfl⟩, hcount⟩
    obtain ⟨j, hj⟩ := List.mem_iff_getElem?.mp hmem
    have hsub := between_eq_sub h hfirst hj hle
    have hij : i ≤ j := by
      by_contra hlt
      have hsum := between_add key rows hle
      rw [rank_eq h hfirst, rank_eq h hj] at hsum
      omega
    have hpos : i + n = j := by omega
    exact ⟨row, hpos ▸ hj, rfl⟩

theorem eq_of_key_eq {row other : ρ} (h : Increasing key rows) (hrow : row ∈ rows)
    (hother : other ∈ rows) (hkey : key row = key other) : row = other := by
  obtain ⟨i, hi⟩ := List.mem_iff_getElem?.mp hrow
  obtain ⟨j, hj⟩ := List.mem_iff_getElem?.mp hother
  have hi' := rank_eq h hi
  rw [hkey, rank_eq h hj] at hi'
  obtain rfl : j = i := by omega
  exact Option.some.inj (hi.symm.trans hj)

end Ranks
end FxStrategyLab.Library
