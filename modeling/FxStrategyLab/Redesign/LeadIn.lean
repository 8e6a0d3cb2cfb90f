import FxStrategyLab.Redesign.Slices

/-!
# Candidates that the lead-in is too short for

For every candidate whose lookbacks do not fit into the lead-in there is a series and a
walk-forward window of it with a traded bar that the slice shows otherwise.

**Results.** `sees_the_same_iff`: for which candidates every slice sees what the full series
sees.
-/

namespace FxStrategyLab.Redesign

open Backtest (BacktestDataset BacktestCandleRecord)
open Library.Series (PartAt slice bind_eq_ok slice_eq_nil)

def secondSlice (dataset : BacktestDataset) (windowBars : Nat) : BacktestDataset :=
  sliceOf dataset windowBars (40 + 2 * windowBars : Nat) 40

section Second

variable {dataset : BacktestDataset} {windowBars : Nat}

theorem evaluationSlice_second (hpos : 0 < windowBars)
    (hbars : 40 + 2 * windowBars ≤ dataset.candles.length) :
    EvaluationSlice dataset (secondSlice dataset windowBars) windowBars := by
  have hwindow : (⟨1, windowBars, 40 + windowBars, (40 + 2 * windowBars : Nat)⟩ :
      WalkForwardWindow) ∈
      buildWalkForwardWindows dataset.candles.length windowBars redesignSliceLeadInBars 2 := by
    have hfirst : ¬ (dataset.candles.length : Int) < 40 + 0 * windowBars + windowBars := by omega
    have hsecond : ¬ (dataset.candles.length : Int) < 40 + (0 + 1) * windowBars + windowBars := by
      omega
    unfold buildWalkForwardWindows redesignSliceLeadInBars
    rw [if_neg (by omega)]
    show _ ∈ walkForwardFrom _ _ _ 2 0
    unfold walkForwardFrom
    dsimp only
    rw [if_neg hfirst]
    unfold walkForwardFrom
    dsimp only
    rw [if_neg hsecond]
    refine List.mem_cons_of_mem _ (List.mem_cons.mpr (.inl ?_))
    congr 1 <;> omega
  exact EvaluationSlice.window hwindow

theorem length_second (hbars : 40 + 2 * windowBars ≤ dataset.candles.length) :
    (secondSlice dataset windowBars).candles.length = 40 + windowBars := by
  unfold secondSlice sliceOf
  rw [Library.Series.slice_natCast _ hbars, List.length_drop, List.length_take]
  omega

end Second

def oneBefore (bar j : Nat) : ℚ :=
  if j < bar then 1 else 0

theorem mean_zero {values : List ℚ} (h : ∀ x ∈ values, x = 0) : mean values = 0 := by
  unfold mean
  split_ifs with hnil
  · rfl
  · rw [List.sum_eq_zero h, zero_div]

theorem mean_pos {values : List ℚ} (hnonneg : ∀ x ∈ values, 0 ≤ x) {x : ℚ} (hx : x ∈ values)
    (hpos : 0 < x) : 0 < mean values := by
  have hne : values ≠ [] := List.ne_nil_of_mem hx
  unfold mean
  rw [if_neg hne]
  have hsum : x ≤ values.sum := List.single_le_sum hnonneg x hx
  have hlength : (0 : ℚ) < values.length := by
    exact_mod_cast List.length_pos_of_ne_nil hne
  exact div_pos (hpos.trans_le hsum) hlength

section Features

variable {candidate : RedesignCandidate} {config : RedesignFeatureConfig} {windowBars n : Nat}

theorem closes_second {closeAt : Nat → ℚ} (hn : 40 + 2 * windowBars ≤ n) :
    (secondSlice (probe closeAt 0 n) windowBars).candles.map BacktestCandleRecord.closeValue =
      (List.range' windowBars (40 + windowBars)).map closeAt := by
  have hcount : 40 + 2 * windowBars - windowBars = 40 + windowBars := by omega
  have hmap : (secondSlice (probe closeAt 0 n) windowBars).candles.map
      BacktestCandleRecord.closeValue =
        slice ((probe closeAt 0 n).candles.map BacktestCandleRecord.closeValue) windowBars
          (40 + 2 * windowBars : Nat) := by
    simp only [secondSlice, sliceOf, slice, List.map_drop, List.map_take, List.length_map]
  rw [hmap, closes_probe, slice_map_range hn, hcount]

/-- The fast average of a window that reaches in front of the slice counts from its end. -/
theorem fastAt_second {closeAt : Nat → ℚ} (hn : 40 + 2 * windowBars ≤ n)
    (hlong : 41 < config.smaFast) (hfast : config.smaFast < windowBars) :
    fastAt (secondSlice (probe closeAt 0 n) windowBars) config 40 = 0 := by
  have hstart : Library.Series.bound (40 + windowBars) (40 - config.smaFast + 1) =
      (41 + 40 + windowBars - config.smaFast).toNat := by
    unfold Library.Series.bound
    rw [if_neg (by omega)]
    omega
  have hstop : Library.Series.bound (40 + windowBars) (40 + 1) = 41 := by
    unfold Library.Series.bound
    rw [if_pos (by omega)]
    omega
  rw [fastAt, closes_second hn]
  unfold slice
  rw [List.length_map, List.length_range', hstart, hstop,
    List.drop_eq_nil_of_le (by rw [List.length_take]; omega)]
  rfl

theorem slowAt_second (hn : 40 + 2 * windowBars ≤ n) :
    slowAt (secondSlice (probe (oneBefore windowBars) 0 n) windowBars) config 40 = 0 := by
  rw [slowAt, closes_second hn]
  refine mean_zero fun x hx => ?_
  obtain ⟨j, hj, rfl⟩ := List.mem_map.mp (List.mem_of_mem_take (List.mem_of_mem_drop hx))
  rw [List.mem_range'_1] at hj
  exact if_neg (by omega)

theorem slowAt_full (hn : 40 + 2 * windowBars ≤ n) (hpos : 0 < windowBars)
    (hslow : config.smaSlow ≤ 40) :
    slowAt (probe (oneBefore windowBars) 0 n) config (windowBars + 40 : Nat) = 0 := by
  rw [slowAt, closes_probe]
  refine mean_zero fun x hx => ?_
  obtain ⟨first, hfirst⟩ := Int.eq_ofNat_of_zero_le
    (by omega : 0 ≤ ((windowBars + 40 : Nat) : Int) - config.smaSlow + 1)
  have hlast : ((windowBars + 40 : Nat) : Int) + 1 = (windowBars + 41 : Nat) := by omega
  rw [hfirst, hlast, slice_map_range (by omega)] at hx
  obtain ⟨j, hj, rfl⟩ := List.mem_map.mp hx
  rw [List.mem_range'_1] at hj
  exact if_neg (by omega)

theorem fastAt_full (hn : 40 + 2 * windowBars ≤ n) (hlong : 41 < config.smaFast)
    (hfast : config.smaFast < windowBars) :
    0 < fastAt (probe (oneBefore windowBars) 0 n) config (windowBars + 40 : Nat) := by
  obtain ⟨first, hfirst⟩ := Int.eq_ofNat_of_zero_le
    (by omega : 0 ≤ ((windowBars + 40 : Nat) : Int) - config.smaFast + 1)
  have hlast : ((windowBars + 40 : Nat) : Int) + 1 = (windowBars + 41 : Nat) := by omega
  rw [fastAt, closes_probe, hfirst, hlast, slice_map_range (by omega)]
  refine mean_pos (fun x hx => ?_) (List.mem_map.mpr ⟨first, ?_, rfl⟩) ?_
  · obtain ⟨j, -, rfl⟩ := List.mem_map.mp hx
    unfold oneBefore
    split_ifs <;> norm_num
  · rw [List.mem_range'_1]
    omega
  · unfold oneBefore
    rw [if_pos (by omega)]
    norm_num

/-- Where the lead-in holds no history, the first traded bar of the second window has no
features. -/
theorem short_lead_in (hbreakout : 0 < candidate.featureConfig.breakoutLookback)
    (hshort : ¬ (candidate.featureConfig.need ≤ 40 ∧
      0 ≤ candidate.featureConfig.momentumLookback ∧ candidate.featureConfig.smaFast ≤ 41)) :
    ¬ SeesTheSame candidate := by
  intro hsame
  obtain ⟨windowBars, hneed, hfast⟩ : ∃ windowBars : Nat,
      candidate.featureConfig.need < windowBars ∧ candidate.featureConfig.smaFast < windowBars :=
    ⟨(max candidate.featureConfig.need candidate.featureConfig.smaFast).toNat + 1, by omega,
      by omega⟩
  obtain ⟨n, hn, hlater⟩ : ∃ n : Nat, 40 + 2 * windowBars ≤ n ∧
      (40 + 2 * windowBars : Int) < n + candidate.featureConfig.momentumLookback :=
    ⟨40 + 2 * windowBars + candidate.featureConfig.momentumLookback.natAbs + 1, by omega,
      by omega⟩
  have hpos : 0 < windowBars := by
    have hneeds := lookbacks_of_ready (le_refl candidate.featureConfig.need)
    omega
  have hlength : (probe (oneBefore windowBars) 0 n).candles.length = n := by simp [probe]
  have hslice := @evaluationSlice_second (probe (oneBefore windowBars) 0 n) windowBars hpos
    (by omega)
  have hbars := @length_second (probe (oneBefore windowBars) 0 n) windowBars (by omega)
  -- What a traded bar of the full series has, the slice has as well.
  have hbar : ∀ i : Nat, 40 ≤ i → i < 40 + windowBars → ∃ features : RedesignFeatures,
      features.ready = true ∧
      features.trend = trendOf
        (fastAt (probe (oneBefore windowBars) 0 n) candidate.featureConfig (windowBars + i : Nat))
        (slowAt (probe (oneBefore windowBars) 0 n) candidate.featureConfig (windowBars + i : Nat))
        candidate.featureConfig.trendMarginRatio ∧
      featuresAt (secondSlice (probe (oneBefore windowBars) 0 n) windowBars)
        candidate.featureConfig i = .ok features := by
    intro i hfirst hlast
    obtain ⟨features, hfeatures, hready, -, htrend, -⟩ :=
      @features_probe (oneBefore windowBars) 0 n candidate.featureConfig hbreakout
        (windowBars + i) (by omega) (by omega) (by omega)
    have hboth := (hsame _ _ _ hslice i (by show (40 : Int) ≤ i; omega) (by omega)).1
    refine ⟨features, hready, htrend, hboth ⟨by omega, by omega⟩ features ?_⟩
    exact_mod_cast hfeatures
  by_cases hneed40 : candidate.featureConfig.need ≤ 40
  · by_cases hmomentum : 0 ≤ candidate.featureConfig.momentumLookback
    · -- The fast average of the full series is positive, that of the slice zero.
      obtain ⟨features, -, htrend, hfeatures⟩ := hbar 40 le_rfl (by omega)
      have hslow := (lookbacks_of_ready hneed40).1
      have hlong : 41 < candidate.featureConfig.smaFast := by omega
      obtain ⟨_, _, _, _, -, -, -, -, hfields⟩ := featuresAt_ok (by exact_mod_cast hneed40) hfeatures
      have hpart : features.trend = trendOf 0 0 candidate.featureConfig.trendMarginRatio := by
        rw [hfields]
        simp only [Nat.cast_ofNat, fastAt_second hn hlong hfast, slowAt_second hn]
      have hup := fastAt_full hn hlong hfast
      rw [hpart, slowAt_full hn hpos hslow] at htrend
      generalize fastAt (probe (oneBefore windowBars) 0 n) candidate.featureConfig
        (windowBars + 40 : Nat) = fast at hup htrend
      simp [trendOf, hup] at htrend
    · -- The last bar of the slice reads a close behind it.
      obtain ⟨features, -, -, hfeatures⟩ := hbar (39 + windowBars) (by omega) (by omega)
      obtain ⟨close, earlier, breakout, ranges, -, hearlier, -⟩ :=
        featuresAt_ok (by omega) hfeatures
      rw [item_of_length_le (by rw [List.length_map, hbars]; omega)] at hearlier
      cases hearlier
  · obtain ⟨features, hready, -, hfeatures⟩ := hbar 40 le_rfl (by omega)
    rw [featuresAt_unready (by push_cast; omega)] at hfeatures
    obtain rfl := Except.ok.inj hfeatures
    cases hready

end Features

/-- A series of bars of given widths. -/
def rangeProbe (width : Nat → ℚ) (bars : Nat) : BacktestDataset where
  candles := (List.range bars).map fun (i : Nat) =>
    { timestamp := i, openValue := 0, highValue := width i, lowValue := 0, closeValue := 0 }
  spreads := []
  sessions := []
  warmupBars := 0

def widthsBefore (width : Nat → ℚ) (i : Nat) : ℚ :=
  ((List.range i).map width).sum

theorem widthsBefore_succ (width : Nat → ℚ) (i : Nat) :
    widthsBefore width (i + 1) = widthsBefore width i + width i := by
  simp [widthsBefore, List.range_succ]

section Flags

variable {candidate : RedesignCandidate} {width : Nat → ℚ} {n a r : Nat}

variable {i bar k m windowBars : Nat}

theorem sumBefore_widths (hi : i ≤ n) :
    sumBefore ((List.range n).map width) i = widthsBefore width i := by
  rw [sumBefore, widthsBefore, ← List.map_take, List.take_range, min_eq_left hi]

theorem atrAt_widths (hi : i < n) (hfull : a ≤ i + 1) :
    atrAt ((List.range n).map width) a i =
      (widthsBefore width (i + 1) - widthsBefore width (i + 1 - a)) / a := by
  rw [atrAt, if_pos hfull, sumBefore_widths hi, sumBefore_widths (by omega)]

theorem widths_second (windowBars : Nat) :
    (secondSlice (rangeProbe width n) windowBars).candles.map
        (fun candle => candle.highValue - candle.lowValue) =
      slice ((List.range n).map width) windowBars (40 + 2 * windowBars : Nat) := by
  have hwidths : (rangeProbe width n).candles.map
      (fun candle => candle.highValue - candle.lowValue) = (List.range n).map width := by
    simp [rangeProbe, Function.comp_def]
  rw [← hwidths]
  simp only [secondSlice, sliceOf, slice, List.map_drop, List.map_take, List.length_map]

/-- A candidate with a regime sees something else, if the first traded bar of the second window
has another flag in the full series. -/
theorem not_sees_of_flags {windowBars : Nat} (hmode : candidate.Conditional)
    (ha : candidate.featureConfig.atrLookback = a) (hr : candidate.volRegimeLookback = r)
    (hapos : 0 < a) (hrpos : 0 < r) (hpos : 0 < windowBars) (hhistory : a + r ≤ windowBars + 41)
    (hflags : flagOf ((List.range (40 + 2 * windowBars)).map width) a r (windowBars + 40) ≠
      flagOf (slice ((List.range (40 + 2 * windowBars)).map width) windowBars
        (40 + 2 * windowBars : Nat)) a r 40) : ¬ SeesTheSame candidate := by
  intro hsame
  have hlength : (rangeProbe width (40 + 2 * windowBars)).candles.length = 40 + 2 * windowBars := by
    simp [rangeProbe]
  have hbars := @length_second (rangeProbe width (40 + 2 * windowBars)) windowBars (by omega)
  have hslice := @evaluationSlice_second (rangeProbe width (40 + 2 * windowBars)) windowBars hpos
    (by omega)
  have hbar : (windowBars : Int) + (40 : Nat) = (windowBars + 40 : Nat) := by omega
  have hboth := (hsame _ _ _ hslice (40 : Nat) le_rfl (by omega)).2 hmode (by omega)
  rw [hbar] at hboth
  have hfull := hboth _ (regimeFlagAt_eq hmode ha hr hapos hrpos (by omega))
  rw [regimeFlagAt_eq hmode ha hr hapos hrpos (by omega), widths_second] at hfull
  have hwidths : (rangeProbe width (40 + 2 * windowBars)).candles.map
      (fun candle => candle.highValue - candle.lowValue) =
        (List.range (40 + 2 * windowBars)).map width := by
    simp [rangeProbe, Function.comp_def]
  rw [hwidths] at hfull
  exact hflags (Option.some.inj (Except.ok.inj hfull)).symm

def spikeAt (bar j : Nat) : ℚ :=
  if j = bar then 1 else 0

theorem widthsBefore_spike (hi : i ≤ bar) : widthsBefore (spikeAt bar) i = 0 := by
  refine List.sum_eq_zero fun x hx => ?_
  obtain ⟨j, hj, rfl⟩ := List.mem_map.mp hx
  have hlt := List.mem_range.mp hj
  exact if_neg (by omega)

variable {values ranges sorted part xs ys : List ℚ}

theorem medianValue_zero (h : ∀ x ∈ values, x = 0) : medianValue values = 0 := by
  have hget : ∀ k, values.getD k 0 = 0 := by
    intro k
    by_cases hk : k < values.length
    · rw [List.getD_eq_getElem _ _ hk]
      exact h _ (List.getElem_mem hk)
    · exact List.getD_eq_default _ _ (by omega)
  unfold medianValue
  simp only [hget]
  simp

theorem medianValue_baseline (h : ∀ j, i - r ≤ j → j < i - r + r → atrAt ranges a j = 0) :
    medianValue (baseline ranges a r i) = 0 := by
  refine medianValue_zero fun x hx => ?_
  obtain ⟨j, hj, rfl⟩ := List.mem_map.mp ((List.mergeSort_perm _ _).mem_iff.mp hx)
  rw [List.mem_range'_1] at hj
  exact h j hj.1 hj.2

theorem flagOf_spike (hapos : 0 < a) (hn : bar < n) (hr : r ≤ bar)
    (ha : a ≤ bar + 1) : flagOf ((List.range n).map (spikeAt bar)) a r bar = true := by
  have hbase : medianValue (baseline ((List.range n).map (spikeAt bar)) a r bar) = 0 := by
    refine medianValue_baseline fun j hfirst hlast => ?_
    by_cases hfull : a ≤ j + 1
    · rw [atrAt_widths (by omega) hfull, widthsBefore_spike (by omega),
        widthsBefore_spike (by omega)]
      simp
    · exact if_neg hfull
  have hone : spikeAt bar bar = 1 := if_pos rfl
  have hcurrent : atrAt ((List.range n).map (spikeAt bar)) a bar = 1 / a := by
    rw [atrAt_widths hn ha, widthsBefore_succ, widthsBefore_spike le_rfl,
      widthsBefore_spike (by omega), hone]
    ring
  simp [flagOf, hbase, hcurrent, hr, hapos]

theorem flagOf_short (hshort : i < r ∨ i + 1 < a) : flagOf ranges a r i = false := by
  rcases hshort with hr | ha
  · simp [flagOf, hr]
  · have hbase : medianValue (baseline ranges a r i) = 0 ∨ i < r := by
      by_cases hri : i < r
      · exact .inr hri
      · exact .inl (medianValue_baseline fun j _ _ => if_neg (by omega))
    have hcurrent : atrAt ranges a i = 0 := if_neg (by omega)
    rcases hbase with hbase | hri
    · simp [flagOf, hbase, hcurrent]
    · simp [flagOf, hri]

/-- Ranges that fall by one from bar to bar, up to a wide bar whose ATR is the median of those in
front of it. -/
def fallingTo (bar a r j : Nat) : ℚ :=
  if j = bar then 1 + a * (r + 1) / 2 else bar + 1 - j

theorem widthsBefore_falling (hi : i ≤ bar) :
    widthsBefore (fallingTo bar a r) i = i * (bar + 1) - i * (i - 1) / 2 := by
  induction i with
  | zero => simp [widthsBefore]
  | succ i ih =>
      have hne : i ≠ bar := by omega
      rw [widthsBefore_succ, ih (by omega), fallingTo, if_neg hne]
      push_cast
      ring

/-- The `k`-th lowest ATR in front of the wide bar. -/
def lowest (a k : Nat) : ℚ :=
  2 + k + (a - 1) / 2

theorem lowest_lt (h : k < m) : lowest a k < lowest a m := by
  have hcast : (k : ℚ) < m := by exact_mod_cast h
  unfold lowest
  linarith

theorem lowest_pos (hapos : 0 < a) (k : Nat) : 0 < lowest a k := by
  have ha : (1 : ℚ) ≤ a := by exact_mod_cast hapos
  have hk : (0 : ℚ) ≤ k := by positivity
  unfold lowest
  linarith

theorem atrAt_falling (hapos : 0 < a) (hn : bar < n) (hk : k + a ≤ bar) :
    atrAt ((List.range n).map (fallingTo bar a r)) a (bar - 1 - k) = lowest a k := by
  have ha : (a : ℚ) ≠ 0 := by exact_mod_cast hapos.ne'
  have hbar : ((bar - 1 - k : Nat) : ℚ) = bar - 1 - k := by
    rw [Nat.sub_sub, Nat.cast_sub (by omega)]
    push_cast
    ring
  have hback : ((bar - 1 - k + 1 - a : Nat) : ℚ) = bar - k - a := by
    have heq : bar - 1 - k + 1 - a = bar - (k + a) := by omega
    rw [heq, Nat.cast_sub hk]
    push_cast
    ring
  rw [atrAt_widths (by omega) (by omega), widthsBefore_falling (by omega),
    widthsBefore_falling (by omega), Nat.cast_succ, hbar, hback, lowest]
  field_simp
  ring

theorem atrAt_wide (hapos : 0 < a) (hn : bar < n) (ha : a ≤ bar + 1) :
    atrAt ((List.range n).map (fallingTo bar a r)) a bar = 1 + (r + a) / 2 := by
  have hne : (a : ℚ) ≠ 0 := by exact_mod_cast hapos.ne'
  have hwide : fallingTo bar a r bar = 1 + a * (r + 1) / 2 := if_pos rfl
  have hback : ((bar + 1 - a : Nat) : ℚ) = bar + 1 - a := by
    rw [Nat.cast_sub ha]
    push_cast
    ring
  rw [atrAt_widths hn ha, widthsBefore_succ, widthsBefore_falling le_rfl,
    widthsBefore_falling (by omega), hwide, hback]
  field_simp
  ring

theorem baseline_eq (hperm : ((List.range' (i - r) r).map (atrAt ranges a)).Perm sorted)
    (hsorted : sorted.Pairwise (· ≤ ·)) : baseline ranges a r i = sorted := by
  refine List.Perm.eq_of_pairwise (fun x y _ _ => le_antisymm) ?_ hsorted
    ((List.mergeSort_perm _ _).trans hperm)
  exact List.pairwise_mergeSort' (· ≤ ·) _

theorem map_falling {f g : Nat → ℚ} {first m : Nat} (h : ∀ k < m, f (first + m - 1 - k) = g k) :
    (List.range' first m).map f = ((List.range m).map g).reverse := by
  have hreverse : ((List.range' first m).map f).reverse = (List.range m).map g := by
    rw [← List.map_reverse, List.reverse_range', List.map_map]
    refine List.map_congr_left fun k hk => ?_
    exact h k (List.mem_range.mp hk)
  rw [← hreverse, List.reverse_reverse]

theorem baseline_falling (hapos : 0 < a) (hn : bar < n) (hbar : a + r ≤ bar + 1) :
    baseline ((List.range n).map (fallingTo bar a r)) a r bar =
      (List.range r).map (lowest a) := by
  refine baseline_eq ?_ ?_
  · rw [@map_falling _ (lowest a) (bar - r) r fun k hk => by
      have hback : bar - r + r - 1 - k = bar - 1 - k := by omega
      rw [hback, atrAt_falling hapos hn (by omega)]]
    exact List.reverse_perm _
  · rw [List.pairwise_map]
    exact List.Pairwise.imp (fun hlt => (lowest_lt hlt).le) List.pairwise_lt_range

/-- The baseline of the wide bar in a slice that starts forty bars in front of it. -/
theorem baseline_falling_part (hapos : 0 < a) (ha : a ≤ 41)
    (hr : r ≤ 40) (hlong : 41 < a + r) (hn : windowBars + 40 < n)
    (hpart : PartAt windowBars part ((List.range n).map (fallingTo (windowBars + 40) a r)))
    (hlength : 40 < part.length) :
    baseline part a r 40 =
      List.replicate (a + r - 41) 0 ++ (List.range (41 - a)).map (lowest a) := by
  have hsplit : List.range' (40 - r) r =
      List.range' (40 - r) (a + r - 41) ++ List.range' (a - 1) (41 - a) := by
    have hcount : a + r - 41 + (41 - a) = r := by omega
    have hnext : 40 - r + (a + r - 41) = a - 1 := by omega
    rw [← hnext, List.range'_append_1, hcount]
  have hzeros : (List.range' (40 - r) (a + r - 41)).map (atrAt part a) =
      List.replicate (a + r - 41) 0 := by
    rw [List.map_eq_replicate_iff.mpr, List.length_range']
    intro j hj
    rw [List.mem_range'_1] at hj
    exact if_neg (by omega)
  have hrest : (List.range' (a - 1) (41 - a)).map (atrAt part a) =
      ((List.range (41 - a)).map (lowest a)).reverse := by
    refine map_falling fun k hk => ?_
    have hback : windowBars + (a - 1 + (41 - a) - 1 - k) = windowBars + 40 - 1 - k := by omega
    rw [atrAt_part hpart (by omega) (by omega), hback, atrAt_falling hapos hn (by omega)]
  refine baseline_eq ?_ ?_
  · rw [hsplit, List.map_append, hzeros, hrest]
    exact (List.Perm.refl _).append (List.reverse_perm _)
  · refine List.pairwise_append.mpr ⟨?_, ?_, ?_⟩
    · exact List.pairwise_replicate.mpr (.inr le_rfl)
    · rw [List.pairwise_map]
      exact List.Pairwise.imp (fun hlt => (lowest_lt hlt).le) List.pairwise_lt_range
    · intro x hx y hy
      obtain ⟨k, -, rfl⟩ := List.mem_map.mp hy
      rw [List.eq_of_mem_replicate hx]
      exact (lowest_pos hapos k).le

theorem medianValue_lt (hlength : ys.length = xs.length) (hpos : 0 < xs.length)
    (hlt : ∀ k < xs.length, ys.getD k 0 < xs.getD k 0) : medianValue ys < medianValue xs := by
  unfold medianValue
  rw [hlength]
  have hmiddle := hlt (xs.length / 2) (by omega)
  split_ifs
  · exact hmiddle
  · have hbelow := hlt (xs.length / 2 - 1) (by omega)
    linarith

theorem getD_lowest (hk : k < m) : ((List.range m).map (lowest a)).getD k 0 = lowest a k := by
  rw [List.getD_eq_getElem _ _ (by simpa using hk)]
  simp

theorem medianValue_lowest (hrpos : 0 < r) :
    medianValue ((List.range r).map (lowest a)) = 1 + (r + a) / 2 := by
  unfold medianValue
  rw [List.length_map, List.length_range, getD_lowest (by omega), getD_lowest (by omega)]
  rcases Nat.even_or_odd' r with ⟨m, rfl | rfl⟩
  · have hhalf : 2 * m / 2 = m := by omega
    have hbelow : ((m - 1 : Nat) : ℚ) = m - 1 := by
      rw [Nat.cast_sub (by omega)]
      simp
    rw [if_neg (by omega), hhalf, lowest, lowest, hbelow]
    push_cast
    ring
  · have hhalf : (2 * m + 1) / 2 = m := by omega
    rw [if_pos (by omega), hhalf, lowest]
    push_cast
    ring

theorem flagOf_falling (hapos : 0 < a) (hrpos : 0 < r) (hn : bar < n) (hbar : a + r ≤ bar + 1) :
    flagOf ((List.range n).map (fallingTo bar a r)) a r bar = false := by
  rw [flagOf, baseline_falling hapos hn hbar, medianValue_lowest hrpos,
    atrAt_wide hapos hn (by omega)]
  simp

theorem flagOf_falling_part (hapos : 0 < a) (hrpos : 0 < r)
    (ha : a ≤ 41) (hr : r ≤ 40) (hlong : 41 < a + r) (hn : windowBars + 40 < n)
    (hpart : PartAt windowBars part ((List.range n).map (fallingTo (windowBars + 40) a r)))
    (hlength : 40 < part.length) : flagOf part a r 40 = true := by
  have hcurrent : atrAt part a 40 = 1 + (r + a) / 2 := by
    rw [atrAt_part hpart hlength (by omega), atrAt_wide hapos hn (by omega)]
  have hmedian : medianValue (baseline part a r 40) < atrAt part a 40 := by
    rw [hcurrent, ← medianValue_lowest hrpos,
      baseline_falling_part hapos ha hr hlong hn hpart hlength]
    refine medianValue_lt ?_ (by simpa using hrpos) fun k hk => ?_
    · rw [List.length_append, List.length_replicate, List.length_map, List.length_map,
        List.length_range, List.length_range]
      omega
    · rw [List.length_map, List.length_range] at hk
      rw [getD_lowest hk]
      by_cases hmissing : k < a + r - 41
      · rw [List.getD_append _ _ _ _ (by simpa using hmissing),
          List.getD_replicate _ hmissing]
        exact lowest_pos hapos k
      · rw [List.getD_append_right _ _ _ _ (by rw [List.length_replicate]; omega),
          List.length_replicate, getD_lowest (by omega)]
        exact lowest_lt (by omega)
  simp [flagOf, hr, hmedian]

/-- Where the lead-in does not hold the ATRs of the whole baseline, the first traded bar of the
second window has another flag. -/
theorem short_baseline (hmode : candidate.Conditional)
    (hapos : 0 < candidate.featureConfig.atrLookback) (hrpos : 0 < candidate.volRegimeLookback)
    (hlong : 41 < candidate.featureConfig.atrLookback + candidate.volRegimeLookback) :
    ¬ SeesTheSame candidate := by
  obtain ⟨a, ha⟩ := Int.eq_ofNat_of_zero_le hapos.le
  obtain ⟨r, hr⟩ := Int.eq_ofNat_of_zero_le hrpos.le
  have hlength : ∀ width : Nat → ℚ, (slice ((List.range (40 + 2 * (a + r))).map width)
      (a + r : Nat) (40 + 2 * (a + r) : Nat)).length = 40 + (a + r) := by
    intro width
    rw [Library.Series.slice_natCast _ (by simp), List.length_drop, List.length_take,
      List.length_map, List.length_range]
    omega
  by_cases hfits : r ≤ 40 ∧ a ≤ 41
  · refine @not_sees_of_flags candidate (fallingTo (a + r + 40) a r) a r (a + r) hmode ha hr
      (by omega) (by omega) (by omega) (by omega) ?_
    rw [flagOf_falling (by omega) (by omega) (by omega) (by omega),
      flagOf_falling_part (by omega) (by omega) hfits.2 hfits.1 (by omega) (by omega)
        (PartAt.of_slice _ _ _) (by rw [hlength]; omega)]
    decide
  · refine @not_sees_of_flags candidate (spikeAt (a + r + 40)) a r (a + r) hmode ha hr
      (by omega) (by omega) (by omega) (by omega) ?_
    rw [flagOf_spike (by omega) (by omega) (by omega) (by omega), flagOf_short (by omega)]
    decide

end Flags

/-- **A candidate sees the same in every slice exactly if its lookbacks fit into the lead-in.** -/
theorem sees_the_same_iff (candidate : RedesignCandidate) :
    SeesTheSame candidate ↔ candidate.FitsLeadIn := by
  constructor
  · intro hsame
    unfold RedesignCandidate.FitsLeadIn redesignSliceLeadInBars
    refine ⟨?_, fun hmode => ?_⟩
    · by_contra hnot
      push Not at hnot
      exact short_lead_in hnot.1 (fun hfits => absurd hfits.2.2
        (not_le.mpr (hnot.2 hfits.1 hfits.2.1))) hsame
    · by_contra hnot
      push Not at hnot
      exact short_baseline hmode hnot.1 hnot.2.1 (by omega) hsame
  · exact sees_the_same

/-- Source `build_vol_regime_conditional_candidate` with its default arguments. -/
def buildVolRegimeConditionalCandidate : RedesignCandidate where
  candidateName := "BREAKOUT__EXIT_RIDE__HIGH_VOL"
  family := .breakout
  exitConfig := exitRide
  volRegimeMode := "HIGH"
  volRegimeLookback := 200

/-- **Some candidate sees something else in a slice**: the one that the source builds with a
regime. -/
theorem conditional_sees_otherwise : ¬ ∀ candidate : RedesignCandidate, SeesTheSame candidate := by
  intro hall
  exact short_baseline (.inl rfl) (by decide) (by decide) (by decide)
    (hall buildVolRegimeConditionalCandidate)

end FxStrategyLab.Redesign
