import FxStrategyLab.Redesign.Features

/-!
# The volatility regime in closed form

The sliding sum behind the ATR is a difference of two prefix sums, and the flag of a bar
compares its ATR with the median of those of the bars in front of it.

**Results.** `slidingAtr_eq` and `highVolRegimeFlags_eq` for positive lookbacks; with any
other lookback the flags of a series that has bars are not worked out
(`lookbacks_pos_of_flags`).
-/

namespace FxStrategyLab.Redesign

open Library.Series (at? slice indices foldlM_step_ok foldlM_preserves mapM_eq_ok bind_eq_ok
  mem_indices at?_natCast at?_of_nonneg slice_natCast)

def sumBefore (ranges : List ℚ) (i : Nat) : ℚ :=
  (ranges.take i).sum

/-- The mean range of the `a` bars up to a position, zero where there are fewer. -/
def atrAt (ranges : List ℚ) (a i : Nat) : ℚ :=
  if a ≤ i + 1 then (sumBefore ranges (i + 1) - sumBefore ranges (i + 1 - a)) / a else 0

def medianValue (sorted : List ℚ) : ℚ :=
  if sorted.length % 2 ≠ 0 then sorted.getD (sorted.length / 2) 0
  else (sorted.getD (sorted.length / 2 - 1) 0 + sorted.getD (sorted.length / 2) 0) / 2

/-- The ATRs of the `r` bars in front of a position, sorted. -/
def baseline (ranges : List ℚ) (a r i : Nat) : List ℚ :=
  ((List.range' (i - r) r).map (atrAt ranges a)).mergeSort fun x y => x ≤ y

def flagOf (ranges : List ℚ) (a r i : Nat) : Bool :=
  r ≤ i && medianValue (baseline ranges a r i) < atrAt ranges a i

variable {i a m r stop : Nat} {α : Type}

theorem item_natCast {xs : List α} (h : i < xs.length) : item xs i = .ok xs[i] := by
  simp [item, at?_natCast, h]

theorem item_of_length_le {xs : List α} {i : Int} (h : (xs.length : Int) ≤ i) :
    item xs i = .error .indexError := by
  have hnone : xs[i.toNat]? = none := List.getElem?_eq_none (by omega)
  simp [item, at?_of_nonneg (by omega : 0 ≤ i), hnone]

variable {ranges sorted highs lows : List ℚ}

theorem sumBefore_succ (h : i < ranges.length) :
    sumBefore ranges (i + 1) = sumBefore ranges i + ranges[i] := by
  rw [sumBefore, sumBefore, List.take_add_one, List.sum_append]
  simp [h]

theorem dropRange_eq (hm : m < ranges.length) :
    dropRange ranges a (sumBefore ranges m - sumBefore ranges (m - a) + ranges[m]) m =
      .ok (sumBefore ranges (m + 1) - sumBefore ranges (m + 1 - a)) := by
  have hadded := sumBefore_succ hm
  unfold dropRange
  by_cases hfull : a ≤ m
  · have hdropped : item ranges ((m : Int) - a) = .ok (ranges.get ⟨m - a, by omega⟩) := by
      rw [← Int.ofNat_sub hfull]
      exact item_natCast (by omega)
    have hback : sumBefore ranges (m + 1 - a) =
        sumBefore ranges (m - a) + ranges.get ⟨m - a, by omega⟩ := by
      rw [Nat.succ_sub hfull]
      exact sumBefore_succ (by omega)
    rw [if_pos (by omega), hdropped]
    show Except.ok _ = _
    rw [hadded, hback]
    congr 1
    ring
  · have hstart : m - a = 0 := by omega
    have hstart' : m + 1 - a = 0 := by omega
    rw [if_neg (by omega), hstart, hstart', hadded]
    congr 1
    ring

theorem atrStep_eq (ha : 0 < a) (hm : m < ranges.length) (atr : List ℚ) :
    atrStep ranges a (sumBefore ranges m - sumBefore ranges (m - a), atr) m =
      .ok (sumBefore ranges (m + 1) - sumBefore ranges (m + 1 - a),
        atr ++ [atrAt ranges a m]) := by
  have hzero : ¬ (a : Int) = 0 := by omega
  unfold atrStep
  rw [item_natCast hm]
  dsimp only [bind, Except.bind]
  rw [dropRange_eq hm]
  dsimp only
  by_cases hfull : a ≤ m + 1
  · rw [if_pos (by omega), if_neg hzero, atrAt, if_pos hfull]
    rfl
  · rw [if_neg (by omega), atrAt, if_neg hfull]
    rfl

/-- **The ATR of every bar** for a positive lookback. -/
theorem slidingAtr_eq (ha : 0 < a) :
    slidingAtr ranges a = .ok ((List.range ranges.length).map (atrAt ranges a)) := by
  have hloop : ∀ m ≤ ranges.length, (List.range m).foldlM (atrStep ranges a) (0, []) =
      .ok (sumBefore ranges m - sumBefore ranges (m - a), (List.range m).map (atrAt ranges a)) := by
    intro m hm
    induction m with
    | zero => simp [sumBefore, pure, Except.pure]
    | succ m ih =>
        have hstep := atrStep_eq ha (by omega : m < ranges.length)
          ((List.range m).map (atrAt ranges a))
        rw [List.range_succ, List.foldlM_append, ih (by omega), List.map_append]
        simp [bind, Except.bind, pure, Except.pure, hstep]
  unfold slidingAtr
  rw [hloop _ le_rfl]
  rfl

theorem medianOf_eq (h : sorted ≠ []) : medianOf sorted = .ok (medianValue sorted) := by
  have hlength : 0 < sorted.length := List.length_pos_of_ne_nil h
  have hmiddle : sorted.length / 2 < sorted.length := by omega
  unfold medianOf medianValue
  dsimp only
  by_cases hodd : sorted.length % 2 ≠ 0
  · rw [if_pos hodd, if_pos hodd, item_natCast hmiddle]
    simp [List.getD_eq_getElem?_getD, hmiddle]
  · rw [if_neg hodd, if_neg hodd]
    have hlow : ((sorted.length / 2 : Nat) : Int) - 1 = ((sorted.length / 2 - 1 : Nat) : Int) := by
      omega
    have hbelow : sorted.length / 2 - 1 < sorted.length := by omega
    rw [hlow, item_natCast hbelow, item_natCast hmiddle]
    simp [List.getD_eq_getElem?_getD, hmiddle, hbelow, bind, Except.bind, pure, Except.pure]

theorem setItem_natCast {xs : List α} {a : α} (h : i < xs.length) :
    setItem xs i a = .ok (xs.set i a) := by
  have hposition : Library.Series.position xs.length (i : Int) = some i := by
    simp [Library.Series.position]
  unfold setItem
  rw [hposition]
  exact if_pos h

theorem flagStep_eq {ranges : List ℚ} {a r i : Nat} (hr : 0 < r) (hri : r ≤ i)
    (hi : i < ranges.length) {flags : List Bool} (hflags : flags.length = ranges.length) :
    flagStep ((List.range ranges.length).map (atrAt ranges a)) r flags i =
      .ok (flags.set i (flagOf ranges a r i)) := by
  have hslice : slice ((List.range ranges.length).map (atrAt ranges a)) ((i : Int) - r) i =
      (List.range' (i - r) r).map (atrAt ranges a) := by
    rw [← Int.ofNat_sub hri, slice_natCast _ (by simp; omega),
      ← List.map_take, ← List.map_drop, List.take_range, min_eq_left hi.le,
      List.range_eq_range', List.drop_range', Nat.zero_add, Nat.mul_one, Nat.sub_sub_self hri]
  have hne : ((List.range' (i - r) r).map (atrAt ranges a)).mergeSort (fun x y => x ≤ y) ≠ [] := by
    rw [ne_eq, ← List.length_eq_zero_iff, List.length_mergeSort]
    simp
    omega
  have hcurrent : item ((List.range ranges.length).map (atrAt ranges a)) (i : Int) =
      .ok (atrAt ranges a i) := by
    rw [item_natCast (by simpa using hi)]
    simp
  unfold flagStep
  rw [hslice]
  dsimp only
  rw [medianOf_eq hne, hcurrent]
  dsimp only [bind, Except.bind]
  rw [setItem_natCast (hflags ▸ hi)]
  have hflag : flagOf ranges a r i =
      decide (medianValue (baseline ranges a r i) < atrAt ranges a i) := by
    simp [flagOf, hri]
  rw [hflag]
  rfl

def flagsUpTo (ranges : List ℚ) (a r stop : Nat) : List Bool :=
  (List.range ranges.length).map fun i => decide (i < stop) && flagOf ranges a r i

theorem flagsUpTo_set :
    (flagsUpTo ranges a r stop).set stop (flagOf ranges a r stop) =
      flagsUpTo ranges a r (stop + 1) := by
  refine List.ext_getElem (by simp [flagsUpTo]) ?_
  intro i hi hi'
  rw [List.getElem_set]
  by_cases heq : stop = i
  · subst heq
    simp [flagsUpTo]
  · have hle : i ≤ stop ↔ i < stop := by omega
    simp [flagsUpTo, heq, hle]

/-- **The regime flags** for positive lookbacks. -/
theorem flags_of_atr (hr : 0 < r) :
    (indices r ranges.length).foldlM
        (flagStep ((List.range ranges.length).map (atrAt ranges a)) r)
        (List.replicate ranges.length false) =
      .ok ((List.range ranges.length).map (flagOf ranges a r)) := by
  have hloop : ∀ m, r + m ≤ ranges.length →
      (indices r (r + m : Nat)).foldlM
          (flagStep ((List.range ranges.length).map (atrAt ranges a)) r)
          (flagsUpTo ranges a r r) = .ok (flagsUpTo ranges a r (r + m)) := by
    intro m hm
    induction m with
    | zero => simp [indices, pure, Except.pure]
    | succ m ih =>
        have hsplit : indices r (r + (m + 1) : Nat) =
            indices r (r + m : Nat) ++ [((r + m : Nat) : Int)] := by
          rw [@Library.Series.indices_split r (r + m : Nat) _ (by omega) (by omega)]
          congr 1
          have hone : (((r + (m + 1) : Nat) : Int) - (r + m : Nat)).toNat = 1 := by omega
          rw [indices, hone]
          simp
        have hstep := @flagStep_eq ranges a r (r + m) hr (by omega) (by omega)
          (flagsUpTo ranges a r (r + m)) (by simp [flagsUpTo])
        rw [flagsUpTo_set] at hstep
        rw [hsplit, List.foldlM_append, ih (by omega)]
        show (flagStep _ _ _ _ >>= pure) = _
        rw [bind_pure, hstep]
        rfl
  have hfirst : List.replicate ranges.length false = flagsUpTo ranges a r r := by
    refine List.ext_getElem (by simp [flagsUpTo]) ?_
    intro i hi hi'
    by_cases hlt : i < r
    · simp [flagsUpTo, hlt, flagOf]
    · simp [flagsUpTo, hlt]
  have hlast : flagsUpTo ranges a r ranges.length =
      (List.range ranges.length).map (flagOf ranges a r) := by
    refine List.map_congr_left fun i hi => ?_
    simp [List.mem_range.mp hi]
  rw [hfirst, ← hlast]
  rcases le_total r ranges.length with hle | hle
  · have hwhole := hloop (ranges.length - r) (by omega)
    rwa [Nat.add_sub_cancel' hle] at hwhole
  · have hempty : indices r ranges.length = [] := by
      have hcount : ((ranges.length : Int) - r).toNat = 0 := by omega
      rw [indices, hcount]
      rfl
    rw [hempty]
    show Except.ok _ = Except.ok _
    congr 1
    refine List.map_congr_left fun i hi => ?_
    have hlt : i < ranges.length := List.mem_range.mp hi
    have hlt' : i < r := by omega
    simp [hlt, hlt']

def rangesOf (highs lows : List ℚ) : List ℚ :=
  List.zipWith (fun high low => high - low) highs lows

theorem length_rangesOf (h : highs.length = lows.length) :
    (rangesOf highs lows).length = highs.length := by
  simp [rangesOf, h]

theorem mapM_rangeAt (h : highs.length = lows.length) :
    ((List.range highs.length).mapM fun i : Nat => rangeAt highs lows (i : Int)) =
      .ok (rangesOf highs lows) := by
  have heach : ∀ i ∈ List.range highs.length, rangeAt highs lows (i : Int) =
      .ok ((rangesOf highs lows).getD i 0) := by
    intro i hi
    have hlt : i < highs.length := List.mem_range.mp hi
    unfold rangeAt
    rw [item_natCast hlt, item_natCast (h ▸ hlt)]
    simp [bind, Except.bind, pure, Except.pure, rangesOf, hlt, h ▸ hlt]
  rw [mapM_eq_ok heach]
  congr 1
  refine List.ext_getElem (by simp [rangesOf, h]) ?_
  intro i hi hi'
  simp [hi']

/-- **The regime flags of a series** for positive lookbacks. -/
theorem highVolRegimeFlags_eq {highs lows : List ℚ} {a r : Nat} (ha : 0 < a) (hr : 0 < r)
    (h : highs.length = lows.length) :
    highVolRegimeFlags highs lows a r =
      .ok ((List.range highs.length).map (flagOf (rangesOf highs lows) a r)) := by
  unfold highVolRegimeFlags
  dsimp only
  rw [mapM_rangeAt h]
  dsimp only [bind, Except.bind]
  rw [slidingAtr_eq ha]
  dsimp only
  rw [← length_rangesOf h]
  exact flags_of_atr hr

theorem lookbacks_pos_of_flags {a r : Int} {flags : List Bool}
    (h : highs.length = lows.length) (hbars : 0 < highs.length)
    (hflags : highVolRegimeFlags highs lows a r = .ok flags) : 0 < a ∧ 0 < r := by
  unfold highVolRegimeFlags at hflags
  dsimp only at hflags
  rw [mapM_rangeAt h] at hflags
  obtain ⟨ranges, hranges, hflags⟩ := bind_eq_ok hflags
  obtain rfl := Except.ok.inj hranges
  obtain ⟨atr, hatr, hloop⟩ := bind_eq_ok hflags
  have hlength := length_rangesOf h
  constructor
  · obtain ⟨state, hsum, -⟩ := bind_eq_ok hatr
    -- The last turn of the sliding sum drops an entry behind the series, or divides by zero.
    obtain ⟨t, t', hlast⟩ := foldlM_step_ok hsum
      (List.mem_range.mpr (by omega : (rangesOf highs lows).length - 1 < _))
    by_contra hnot
    have hle : a ≤ (((rangesOf highs lows).length - 1 : Nat) : Int) := by omega
    have hle' : a - 1 ≤ (((rangesOf highs lows).length - 1 : Nat) : Int) := by omega
    unfold atrStep at hlast
    obtain ⟨range, -, hlast⟩ := bind_eq_ok hlast
    obtain ⟨windowSum, hdrop, hlast⟩ := bind_eq_ok hlast
    rcases lt_or_eq_of_le (not_lt.mp hnot) with hneg | hzero
    · rw [dropRange, if_pos hle, item_of_length_le (by omega)] at hdrop
      cases hdrop
    · subst hzero
      rw [if_pos hle', if_pos rfl] at hlast
      cases hlast
  · by_contra hnot
    obtain ⟨t, t', hzero⟩ := foldlM_step_ok hloop
      (mem_indices.mpr ⟨not_lt.mp hnot, by omega⟩ : (0 : Int) ∈ _)
    -- The baseline of the first bar is empty.
    have hempty : slice atr (0 - r) 0 = [] := by
      simp [slice, Library.Series.bound]
    unfold flagStep at hzero
    rw [hempty, List.mergeSort_nil] at hzero
    cases hzero

end FxStrategyLab.Redesign
