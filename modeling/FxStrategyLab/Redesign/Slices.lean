import FxStrategyLab.Redesign.LookAhead
import FxStrategyLab.Redesign.Windows

/-!
# What an evaluation slice sees of the full series

A slice of an evaluation carries forty bars in front of its traded ones.  The features of a
traded bar are those of the full series as long as no lookback reaches further, and its regime
flag as long as the ATRs of the whole baseline do not.

**Results.** `sees_the_same`: candidates whose lookbacks fit into the lead-in.
-/

namespace FxStrategyLab.Redesign

open Backtest (BacktestDataset BacktestCandleRecord)
open Library.Series (PartAt indices slice at? bind_eq_ok mapM_agree mapM_eq_ok mem_indices
  slice_eq_nil)

/-- A slice that the evaluation builds with its default lead-in, and the bar of the series that
it starts at. -/
inductive EvaluationSlice (dataset : BacktestDataset) : BacktestDataset → Int → Prop
  | window {windowBars maxWindows : Int} {window : WalkForwardWindow}
      (hwindow : window ∈ buildWalkForwardWindows dataset.candles.length windowBars
        redesignSliceLeadInBars maxWindows) :
      EvaluationSlice dataset (windowSlice dataset window redesignSliceLeadInBars)
        window.sliceStart
  | split {split : ChronologicalSplit} {part : NamedSlice}
      (hpart : part ∈ buildRedesignSplitDatasets dataset split redesignSliceLeadInBars) :
      EvaluationSlice dataset part.dataset part.start

def RedesignFeatureConfig.HasHistory (config : RedesignFeatureConfig) (bar : Int) : Prop :=
  config.need ≤ bar ∧ config.smaFast ≤ bar + 1

def regimeFlagAt (dataset : BacktestDataset) (candidate : RedesignCandidate) (bar : Int) :
    Except RunError (Option Bool) := do
  let flags ← regimeFlags dataset candidate
  flagAt flags bar

def RedesignCandidate.Conditional (candidate : RedesignCandidate) : Prop :=
  candidate.volRegimeMode = "HIGH" ∨ candidate.volRegimeMode = "LOW"

/-- Every traded bar of every evaluation slice has the features that it has in the full series,
and the same regime flag, wherever the full series has the history for them. -/
def SeesTheSame (candidate : RedesignCandidate) : Prop :=
  ∀ (dataset part : BacktestDataset) (start : Int), EvaluationSlice dataset part start →
    ∀ i : Int, part.warmupBars ≤ i → i < part.candles.length →
      (candidate.featureConfig.HasHistory (start + i) → ∀ features,
        featuresAt dataset candidate.featureConfig (start + i) = .ok features →
          featuresAt part candidate.featureConfig i = .ok features) ∧
      (candidate.Conditional →
        candidate.featureConfig.atrLookback + candidate.volRegimeLookback ≤ start + i + 1 →
        ∀ flag, regimeFlagAt dataset candidate (start + i) = .ok flag →
          regimeFlagAt part candidate i = .ok flag)

section Parts

variable {dataset part : BacktestDataset} {config : RedesignFeatureConfig}
  {candidate : RedesignCandidate} {start : Nat}

/-- A slice starts at a bar of the series, and its traded bars have the lead-in in front of them
or the whole series does. -/
theorem EvaluationSlice.partAt {first : Int} (h : EvaluationSlice dataset part first) :
    ∃ start : Nat, first = start ∧ PartAt start part.candles dataset.candles ∧
      0 ≤ part.warmupBars ∧ (start = 0 ∨ 40 ≤ part.warmupBars) := by
  cases h with
  | window hwindow =>
      obtain ⟨hbars, -, k, -, -, hstart, -⟩ := mem_buildWalkForwardWindows hwindow
      obtain ⟨start, hcast⟩ : ∃ start : Nat, (k : Int) * _ = start :=
        Int.eq_ofNat_of_zero_le (mul_nonneg (by omega) hbars.le)
      have hwarmup : ∀ {window}, (windowSlice dataset window redesignSliceLeadInBars).warmupBars = 40 := rfl
      refine ⟨start, hstart.trans hcast, ?_, by rw [hwarmup]; decide, .inr hwarmup.ge⟩
      unfold windowSlice sliceOf
      rw [hstart.trans hcast]
      exact PartAt.of_slice _ _ _
  | @split split _ hpart =>
      obtain ⟨hwarmup, htrain, hvalidation, hoos⟩ := split.ordered
      have hcut : ∀ (bar stop : Int), 0 ≤ bar → ∃ start : Nat, bar = start ∧
          PartAt start (slice dataset.candles bar stop) dataset.candles := by
        intro bar stop hbar
        obtain ⟨start, rfl⟩ := Int.eq_ofNat_of_zero_le hbar
        exact ⟨start, rfl, PartAt.of_slice _ _ _⟩
      simp only [buildRedesignSplitDatasets, redesignSliceLeadInBars, List.mem_cons,
        List.not_mem_nil, or_false] at hpart
      rcases hpart with rfl | rfl | rfl
      · obtain ⟨start, hstart, hpart⟩ := hcut 0 split.trainEnd le_rfl
        exact ⟨start, hstart, hpart, by simp only [sliceOf]; omega, .inr le_rfl⟩
      · obtain ⟨start, hstart, hpart⟩ :=
          hcut (max 0 (split.trainEnd - 40)) split.validationEnd (by omega)
        exact ⟨start, hstart, hpart, by simp only [sliceOf]; omega,
          by simp only [sliceOf]; omega⟩
      · obtain ⟨start, hstart, hpart⟩ :=
          hcut (max 0 (split.validationEnd - 40)) split.oosEnd (by omega)
        exact ⟨start, hstart, hpart, by simp only [sliceOf]; omega,
          by simp only [sliceOf]; omega⟩

theorem item_part {α : Type} {xs ys : List α} (h : PartAt start ys xs) {i : Int}
    (hnonneg : 0 ≤ i) (hi : i < ys.length) : item ys i = item xs (start + i) := by
  rw [item, item, h.at? hnonneg hi]

variable {xs ys : List ℚ}

theorem slice_part (h : PartAt start ys xs) {first last : Int}
    (hfirst : 0 ≤ first) (hnonneg : 0 ≤ last) (hlast : last ≤ ys.length) :
    slice ys first last = slice xs (start + first) (start + last) := by
  obtain ⟨first, rfl⟩ := Int.eq_ofNat_of_zero_le hfirst
  obtain ⟨last, rfl⟩ := Int.eq_ofNat_of_zero_le hnonneg
  rw [h.slice (by omega)]
  norm_cast

theorem breakout_pos_of_features {i : Int} {features : RedesignFeatures} (hnonneg : 0 ≤ i)
    (hready : config.need ≤ i) (h : featuresAt dataset config i = .ok features) :
    0 < config.breakoutLookback := by
  by_contra hnone
  obtain ⟨close, earlier, breakout, ranges, -, -, hbreakout, -⟩ := featuresAt_ok hready h
  rw [slice_eq_nil _ hnonneg (by omega)] at hbreakout
  cases hbreakout

theorem featuresAt_part (hpart : PartAt start part.candles dataset.candles)
    (hbreakout : 0 < config.breakoutLookback) (hmomentum : 0 ≤ config.momentumLookback)
    {i : Int} (hi : i < part.candles.length) (hready : config.need ≤ i)
    (hfast : config.smaFast ≤ i + 1) :
    featuresAt part config i = featuresAt dataset config (start + i) := by
  have hcloses := hpart.map BacktestCandleRecord.closeValue
  have hhighs := hpart.map BacktestCandleRecord.highValue
  have hlows := hpart.map BacktestCandleRecord.lowValue
  obtain ⟨hslow, hlook, hatr, hmom⟩ := lookbacks_of_ready hready
  have hlength : ∀ f : BacktestCandleRecord → ℚ, (part.candles.map f).length =
      part.candles.length := fun f => List.length_map f
  have hranges : (indices (start + i - config.atrLookback + 1) (start + i + 1)).mapM
      (rangeAt (dataset.candles.map BacktestCandleRecord.highValue)
        (dataset.candles.map BacktestCandleRecord.lowValue)) =
      (indices (i - config.atrLookback + 1) (i + 1)).mapM
        (rangeAt (part.candles.map BacktestCandleRecord.highValue)
          (part.candles.map BacktestCandleRecord.lowValue)) := by
    have hshift : indices (start + i - config.atrLookback + 1) (start + i + 1) =
        (indices (i - config.atrLookback + 1) (i + 1)).map fun (j : Int) => start + j := by
      have hcount : (start + i + 1 - (start + i - config.atrLookback + 1)).toNat =
          (i + 1 - (i - config.atrLookback + 1)).toNat := by omega
      unfold indices
      rw [hcount, List.map_map]
      refine List.map_congr_left fun j _ => ?_
      simp only [Function.comp_apply]
      omega
    rw [hshift, List.mapM_map]
    refine mapM_agree fun j hj => ?_
    obtain ⟨hfirst, hlast⟩ := mem_indices.mp hj
    unfold rangeAt
    rw [item_part hhighs (by omega) (by rw [hlength]; omega),
      item_part hlows (by omega) (by rw [hlength]; omega)]
    rfl
  have hstart : ∀ back : Int, (start : Int) + (i - back) + 1 = start + (i - back + 1) := by
    intro back
    omega
  have hbefore : ∀ back : Int, (start : Int) + i - back = start + (i - back) := by
    intro back
    omega
  have hstop : (start : Int) + i + 1 = start + (i + 1) := by omega
  unfold featuresAt computeRedesignFeatures
  rw [if_neg (by omega), if_neg (by omega), hranges]
  simp only [hstart, hbefore, hstop]
  rw [slice_part hcloses (by omega : 0 ≤ i - config.smaFast + 1) (by omega)
      (by rw [hlength]; omega),
    slice_part hcloses (by omega : 0 ≤ i - config.smaSlow + 1) (by omega)
      (by rw [hlength]; omega),
    item_part hcloses (by omega) (by rw [hlength]; omega),
    item_part hcloses (by omega : 0 ≤ i - config.momentumLookback) (by rw [hlength]; omega),
    slice_part hhighs (by omega : 0 ≤ i - config.breakoutLookback) (by omega)
      (by rw [hlength]; omega),
    slice_part hlows (by omega : 0 ≤ i - config.breakoutLookback) (by omega)
      (by rw [hlength]; omega)]

theorem rangesOf_candles (dataset : BacktestDataset) :
    rangesOf (dataset.candles.map BacktestCandleRecord.highValue)
        (dataset.candles.map BacktestCandleRecord.lowValue) =
      dataset.candles.map fun candle => candle.highValue - candle.lowValue := by
  rw [rangesOf, List.zipWith_map, List.zipWith_self]

variable {i a r : Nat}

theorem sumBefore_part (h : PartAt start ys xs) (hi : i ≤ ys.length) :
    sumBefore ys i = sumBefore xs (start + i) - sumBefore xs start := by
  rw [sumBefore, h.take hi, sumBefore, sumBefore, List.take_add, List.sum_append]
  ring

theorem atrAt_part (h : PartAt start ys xs) (hi : i < ys.length)
    (hfull : start = 0 ∨ a ≤ i + 1) : atrAt ys a i = atrAt xs a (start + i) := by
  rcases hfull with rfl | hfull
  · have hzero : sumBefore xs 0 = 0 := rfl
    have hsum : ∀ j ≤ ys.length, sumBefore ys j = sumBefore xs j := by
      intro j hj
      rw [sumBefore_part h hj, Nat.zero_add, hzero, sub_zero]
    rw [atrAt, atrAt, Nat.zero_add, hsum _ (by omega), hsum _ (by omega)]
  · have hback : start + i + 1 - a = start + (i + 1 - a) := by omega
    rw [atrAt, atrAt, if_pos hfull, if_pos (by omega), sumBefore_part h (by omega),
      sumBefore_part h (by omega), hback, Nat.add_assoc]
    ring

theorem flagOf_part (h : PartAt start ys xs) (hi : i < ys.length)
    (ha : 0 < a) (hr : 0 < r) (hfull : start = 0 ∨ a + r ≤ i + 1) :
    flagOf ys a r i = flagOf xs a r (start + i) := by
  by_cases hri : r ≤ i
  · have hbase : baseline ys a r i = baseline xs a r (start + i) := by
      have hback : start + i - r = start + (i - r) := by omega
      unfold baseline
      rw [hback, ← List.map_add_range', List.map_map]
      congr 1
      refine List.map_congr_left fun j hj => ?_
      rw [List.mem_range'_1] at hj
      exact atrAt_part h (by omega) (by omega)
    rw [flagOf, flagOf, hbase, atrAt_part h hi (by omega)]
    simp [hri, Nat.le_add_left_of_le hri]
  · have hzero : start = 0 := by omega
    subst hzero
    simp [flagOf, hri]

theorem Conditional.ne_off (h : candidate.Conditional) : candidate.volRegimeMode ≠ "OFF" := by
  rcases h with h | h <;> rw [h] <;> decide

theorem regimeFlagAt_eq (hmode : candidate.Conditional)
    (ha : candidate.featureConfig.atrLookback = a) (hr : candidate.volRegimeLookback = r)
    (hapos : 0 < a) (hrpos : 0 < r) (hi : i < dataset.candles.length) :
    regimeFlagAt dataset candidate i =
      .ok (some (flagOf (dataset.candles.map fun candle => candle.highValue - candle.lowValue)
        a r i)) := by
  unfold regimeFlagAt regimeFlags
  rw [if_pos (Conditional.ne_off hmode), ha, hr, highVolRegimeFlags_eq hapos hrpos (by simp),
    rangesOf_candles]
  dsimp only [bind, Except.bind, pure, Except.pure]
  unfold flagAt
  dsimp only
  rw [item_natCast (by simpa using hi)]
  simp [bind, Except.bind, pure, Except.pure]

theorem lookbacks_pos_of_flagAt (hmode : candidate.Conditional) {flag : Option Bool}
    (hi : i < dataset.candles.length) (h : regimeFlagAt dataset candidate i = .ok flag) :
    0 < candidate.featureConfig.atrLookback ∧ 0 < candidate.volRegimeLookback := by
  unfold regimeFlagAt regimeFlags at h
  rw [if_pos (Conditional.ne_off hmode)] at h
  obtain ⟨flags, hflags, -⟩ := bind_eq_ok h
  obtain ⟨worked, hworked, -⟩ := bind_eq_ok hflags
  exact lookbacks_pos_of_flags (by simp) (by simp; omega) hworked

def RedesignCandidate.FitsLeadIn (candidate : RedesignCandidate) : Prop :=
  (candidate.featureConfig.breakoutLookback ≤ 0 ∨
    candidate.featureConfig.need ≤ redesignSliceLeadInBars ∧
      0 ≤ candidate.featureConfig.momentumLookback ∧
      candidate.featureConfig.smaFast ≤ redesignSliceLeadInBars + 1) ∧
  (candidate.Conditional → candidate.featureConfig.atrLookback ≤ 0 ∨
    candidate.volRegimeLookback ≤ 0 ∨
    candidate.featureConfig.atrLookback + candidate.volRegimeLookback ≤
      redesignSliceLeadInBars + 1)

theorem sees_the_same (hfits : candidate.FitsLeadIn) : SeesTheSame candidate := by
  intro dataset part first hslice i hwarmup hi
  obtain ⟨start, rfl, hpart, hnonneg, hlead⟩ := hslice.partAt
  have hlength := hpart.length_le
  obtain ⟨i, rfl⟩ := Int.eq_ofNat_of_zero_le (hnonneg.trans hwarmup)
  unfold RedesignCandidate.FitsLeadIn redesignSliceLeadInBars at hfits
  refine ⟨?_, ?_⟩
  · rintro ⟨hready, hfast⟩ features hfeatures
    have hbreakout := breakout_pos_of_features (by omega) hready hfeatures
    obtain ⟨hneed, hmomentum, hfits⟩ := hfits.1.resolve_left (by omega)
    rw [featuresAt_part hpart hbreakout hmomentum hi (by omega) (by omega)]
    exact hfeatures
  · intro hmode hhistory flag hflag
    have hbar : (start : Int) + i = (start + i : Nat) := by omega
    rw [hbar] at hflag
    have hin : start + i < dataset.candles.length := by omega
    obtain ⟨hapos, hrpos⟩ := lookbacks_pos_of_flagAt hmode hin hflag
    obtain ⟨a, ha⟩ := Int.eq_ofNat_of_zero_le hapos.le
    obtain ⟨r, hr⟩ := Int.eq_ofNat_of_zero_le hrpos.le
    have hranges := hpart.map fun candle => candle.highValue - candle.lowValue
    rw [regimeFlagAt_eq hmode ha hr (by omega) (by omega) hin] at hflag
    rw [regimeFlagAt_eq hmode ha hr (by omega) (by omega) (by omega),
      flagOf_part hranges (by simp; omega) (by omega) (by omega)
        (by have hfit := hfits.2 hmode; omega)]
    exact hflag

end Parts

end FxStrategyLab.Redesign
