import FxStrategyLab.Library.Columns

/-!
# Exponentially smoothed columns

The smoothed value of a column moves towards each known entry by a share of the distance.  The
entry before the first known one is unknown, an unknown entry between makes the value older, and
the first entries stay unknown until enough were known.  The column never looks ahead.

**Results.** `causal_ewm`, `causal_diff`, `getElem?_ewm_known` and `average_eq_zero_iff`.
-/

namespace FxStrategyLab.Library
namespace Smoothing

open Columns (Causal)

universe u

variable {K : Type} [Field K]

/-- The smoothed value, the weight that it has against the next entry, and the known entries. -/
structure Smoothed (K : Type) where
  mean : Option K
  weight : K
  count : Nat

section Column

variable (alpha : K)

/-- One entry of the column. -/
def Smoothed.next (s : Smoothed K) (x : Option K) : Smoothed K :=
  match s.mean, x with
  | none, none => s
  | none, some x => { mean := some x, weight := 1, count := s.count + 1 }
  | some _, none => { s with weight := s.weight * (1 - alpha) }
  | some mean, some x =>
      let older := s.weight * (1 - alpha)
      { mean := some ((older * mean + alpha * x) / (older + alpha))
        weight := 1
        count := s.count + 1 }

def Smoothed.shown (minPeriods : Nat) (s : Smoothed K) : Option K :=
  if minPeriods ≤ s.count then s.mean else none

/-- The state before the first entry. -/
def start : Smoothed K where
  mean := none
  weight := 1
  count := 0

/-- The column from a state on. -/
def ewmFrom (minPeriods : Nat) (s : Smoothed K) : List (Option K) → List (Option K)
  | [] => []
  | x :: xs => (s.next alpha x).shown minPeriods :: ewmFrom minPeriods (s.next alpha x) xs

def ewm (minPeriods : Nat) (xs : List (Option K)) : List (Option K) :=
  ewmFrom alpha minPeriods start xs

variable (minPeriods : Nat)

theorem length_ewmFrom (s : Smoothed K) (xs : List (Option K)) :
    (ewmFrom alpha minPeriods s xs).length = xs.length := by
  induction xs generalizing s with
  | nil => rfl
  | cons x xs ih => simp [ewmFrom, ih]

theorem ewmFrom_append (s : Smoothed K) (xs ys : List (Option K)) :
    ewmFrom alpha minPeriods s (xs ++ ys) =
      ewmFrom alpha minPeriods s xs ++
        ewmFrom alpha minPeriods (xs.foldl (Smoothed.next alpha) s) ys := by
  induction xs generalizing s with
  | nil => rfl
  | cons x xs ih => simp [ewmFrom, ih]

/-- **A smoothed column never looks ahead.** -/
theorem causal_ewm : Causal (ewm alpha minPeriods) := by
  refine ⟨fun xs => length_ewmFrom alpha minPeriods start xs, fun xs ys => ?_⟩
  unfold ewm
  rw [ewmFrom_append]
  exact List.prefix_append _ _

theorem getElem?_ewmFrom_last (s : Smoothed K) (xs : List (Option K)) (x : Option K) :
    (ewmFrom alpha minPeriods s (xs ++ [x]))[xs.length]? =
      some (((xs ++ [x]).foldl (Smoothed.next alpha) s).shown minPeriods) := by
  rw [ewmFrom_append, List.getElem?_append_right (by rw [length_ewmFrom]), length_ewmFrom]
  simp [ewmFrom]

end Column

section Average

variable (alpha : K)

/-- The smoothed value of known entries. -/
def average : List K → K
  | [] => 0
  | x :: xs => xs.foldl (fun mean x => (1 - alpha) * mean + alpha * x) x

@[simp] theorem average_singleton (x : K) : average alpha [x] = x := rfl

variable {xs : List K}

theorem average_append (hxs : xs ≠ []) (x : K) :
    average alpha (xs ++ [x]) = (1 - alpha) * average alpha xs + alpha * x := by
  obtain ⟨y, ys, rfl⟩ := List.exists_cons_of_ne_nil hxs
  simp [average]

theorem foldl_next_known (hxs : xs ≠ []) :
    (none :: xs.map some).foldl (Smoothed.next alpha) start =
      { mean := some (average alpha xs), weight := 1, count := xs.length } := by
  induction xs using List.reverseRecOn with
  | nil => exact absurd rfl hxs
  | append_singleton xs x ih =>
      by_cases hnil : xs = []
      · subst hnil
        simp [Smoothed.next, start]
      · have hstate := ih hnil
        have hone : 1 - alpha + alpha = 1 := by ring
        rw [List.map_append, ← List.cons_append, List.foldl_append, hstate,
          average_append alpha hnil]
        simp [Smoothed.next, hone]

/-- **The last entry of a column is the average, where enough entries are known.** -/
theorem getElem?_ewm_known {minPeriods : Nat} (hxs : xs ≠ []) (hcount : minPeriods ≤ xs.length) :
    (ewm alpha minPeriods (none :: xs.map some))[xs.length]? =
      some (some (average alpha xs)) := by
  obtain ⟨front, x, rfl⟩ : ∃ front x, xs = front ++ [x] :=
    ⟨_, _, (List.dropLast_append_getLast hxs).symm⟩
  have hlast := getElem?_ewmFrom_last alpha minPeriods start (none :: front.map some) (some x)
  have hstate := foldl_next_known alpha hxs
  have hlist : none :: (front ++ [x]).map some = none :: front.map some ++ [some x] := by simp
  rw [ewm, hlist]
  rw [hlist] at hstate
  have henough : minPeriods ≤ front.length + 1 := by simpa using hcount
  rw [hstate] at hlast
  simpa [Smoothed.shown, henough] using hlast

variable {alpha} [LinearOrder K] [IsStrictOrderedRing K]

theorem average_nonneg (hpos : 0 ≤ alpha) (hle : alpha ≤ 1)
    (hxs : ∀ x ∈ xs, 0 ≤ x) : 0 ≤ average alpha xs := by
  induction xs using List.reverseRecOn with
  | nil => exact le_rfl
  | append_singleton xs x ih =>
      have hx := hxs x (by simp)
      by_cases hnil : xs = []
      · simpa [hnil] using hx
      · have hrest := ih fun y hy => hxs y (by simp [hy])
        rw [average_append alpha hnil]
        have hshare : 0 ≤ 1 - alpha := sub_nonneg.mpr hle
        positivity

/-- **An average of values that are not negative is zero exactly when all are.** -/
theorem average_eq_zero_iff (hpos : 0 < alpha) (hlt : alpha < 1)
    (hxs : ∀ x ∈ xs, 0 ≤ x) : average alpha xs = 0 ↔ ∀ x ∈ xs, x = 0 := by
  induction xs using List.reverseRecOn with
  | nil => simp [average]
  | append_singleton xs x ih =>
      have hx := hxs x (by simp)
      by_cases hnil : xs = []
      · simp [hnil]
      · have hfront : ∀ y ∈ xs, 0 ≤ y := fun y hy => hxs y (by simp [hy])
        have hrest := average_nonneg hpos.le hlt.le hfront
        have hshare : 0 < 1 - alpha := sub_pos.mpr hlt
        rw [average_append alpha hnil, add_eq_zero_iff_of_nonneg (by positivity) (by positivity),
          mul_eq_zero_iff_left hshare.ne', mul_eq_zero_iff_left hpos.ne', ih hfront]
        simp [or_imp, forall_and]

end Average

section Differences

/-- The differences from an entry on. -/
def diffFrom (previous : K) : List K → List (Option K)
  | [] => []
  | x :: xs => some (x - previous) :: diffFrom x xs

/-- The difference to the entry before, unknown for the first one. -/
def diff : List K → List (Option K)
  | [] => []
  | x :: xs => none :: diffFrom x xs

def moves (xs : List K) : List K :=
  List.zipWith (fun x y => y - x) xs xs.tail

theorem diffFrom_eq (previous : K) (xs : List K) :
    diffFrom previous xs = (moves (previous :: xs)).map some := by
  induction xs generalizing previous with
  | nil => rfl
  | cons x xs ih =>
      rw [diffFrom, ih]
      simp [moves]

theorem diff_eq {xs : List K} (hxs : xs ≠ []) : diff xs = none :: (moves xs).map some := by
  obtain ⟨x, rest, rfl⟩ := List.exists_cons_of_ne_nil hxs
  rw [diff, diffFrom_eq]

theorem length_diff (xs : List K) : (diff xs).length = xs.length := by
  cases xs with
  | nil => rfl
  | cons x xs =>
      rw [diff_eq (by simp)]
      simp [moves]

theorem diffFrom_append (previous : K) (xs ys : List K) :
    diffFrom previous (xs ++ ys) =
      diffFrom previous xs ++ diffFrom (xs.getLastD previous) ys := by
  induction xs generalizing previous with
  | nil => rfl
  | cons x xs ih =>
      rw [List.cons_append, diffFrom, diffFrom, ih, List.getLastD_cons, List.cons_append]

/-- **Differences never look ahead.** -/
theorem causal_diff : Causal (diff (K := K)) := by
  refine ⟨length_diff, fun xs ys => ?_⟩
  cases xs with
  | nil => exact List.nil_prefix
  | cons x xs =>
      rw [List.cons_append, diff, diff, diffFrom_append]
      exact List.prefix_append (none :: diffFrom x xs) _

end Differences

end Smoothing
end FxStrategyLab.Library
