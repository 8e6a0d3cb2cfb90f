import FxStrategyLab.Redesign.Robustness
import FxStrategyLab.Redesign.Slices

/-!
# What the standard gate says of a robust candidate

A robust candidate has at every resolution enough windows with enough trades, has passed three
fifths of them at the base cost and at the harshest one, and beats the entry of the sign
permutations at the percentile.  The percentile is taken over the permutations with such a
window only, so the last clause says as much as the gate means by it if all of them have one.

**Results.** `gate_holds` for the candidates whose every permutation has a window with enough
trades; `untested_is_robust`, where none has one.
-/

namespace FxStrategyLab.Redesign

open Backtest (BacktestDataset BacktestCandleRecord BacktestSpreadRecord
  BacktestSessionRecord)
open Library.Rounding (round round_mono round_round round_of_int round_of_multiple lt_of_round_lt)
open Library.Series (PartAt bind_eq_ok forall₂_of_mapM result_of_mapM entry_of_mapM indices
  mem_indices mapM_eq_ok)

variable (measured : List MeasuredWindow)

def qualifiedCount : Nat :=
  measured.countP fun m => m.qualified defaultMinTradesPerWindow

def passedCount : Nat :=
  measured.countP fun m => m.passed defaultMinTradesPerWindow

def PassesMost : Prop :=
  3 * qualifiedCount measured ≤ 5 * passedCount measured

def medianFactor : ℚ :=
  median (qualifiedFactors measured defaultMinTradesPerWindow)

/-- A permutation with a window with enough trades has a lower median profit factor. -/
def beats (base permuted : List MeasuredWindow) : Bool :=
  decide (qualifiedCount permuted ≠ 0) && decide (medianFactor permuted < medianFactor base)

def measurePermutations (dataset : BacktestDataset) (candidate : RedesignCandidate)
    (windows : List WalkForwardWindow) (lead : Int) :
    Except RunError (List (List MeasuredWindow)) :=
  (List.range standardEvaluationGate.randomSeedCount).mapM fun (seed : Nat) =>
    measureSignPermutation dataset candidate windows 1 standardEvaluationGate.slippagePricePerSide
      lead (permutationSeed seed)

def GateHolds (dataset : BacktestDataset) (candidate : RedesignCandidate)
    (windows : List WalkForwardWindow) (lead : Int) : Prop :=
  ∃ base stressed permutations,
    measureCandidate dataset candidate windows 1 standardEvaluationGate.slippagePricePerSide
      lead = .ok base ∧
    measureCandidate dataset candidate windows 2 standardEvaluationGate.slippagePricePerSide
      lead = .ok stressed ∧
    measurePermutations dataset candidate windows lead = .ok permutations ∧
    standardEvaluationGate.minQualifiedWindows ≤ qualifiedCount base ∧
    PassesMost base ∧ PassesMost stressed ∧
    9 * permutations.length ≤ 10 * permutations.countP (beats base)

def EveryPermutationQualifies (dataset : BacktestDataset) (candidate : RedesignCandidate)
    (windows : List WalkForwardWindow) (lead : Int) : Prop :=
  ∀ permutations, measurePermutations dataset candidate windows lead = .ok permutations →
    ∀ permuted ∈ permutations, qualifiedCount permuted ≠ 0

section Summary

variable {runnerName : String} {costMultiplier : ℚ} {measured : List MeasuredWindow}

theorem summary_qualified :
    (walkForwardSummary runnerName costMultiplier defaultMinTradesPerWindow
      measured).qualifiedWindowCount = qualifiedCount measured := by
  simp only [walkForwardSummary, List.countP_map]
  rfl

theorem summary_median :
    (walkForwardSummary runnerName costMultiplier defaultMinTradesPerWindow
      measured).medianProfitFactorRounded = round (medianFactor measured) 4 :=
  rfl

theorem passesMost_of_summary (hwindows : measured.length ≤ 100)
    (hrate : robustPassRate ≤ (walkForwardSummary runnerName costMultiplier
      defaultMinTradesPerWindow measured).passRateRounded) : PassesMost measured := by
  have hcount : qualifiedCount measured ≤ 100 := List.countP_le_length.trans hwindows
  have hsummary : (walkForwardSummary runnerName costMultiplier defaultMinTradesPerWindow
      measured).passRateRounded = round (if qualifiedCount measured ≠ 0 then
        (passedCount measured : ℚ) / qualifiedCount measured else 0) 4 := by
    simp only [walkForwardSummary, List.countP_map]
    rfl
  rw [hsummary] at hrate
  unfold PassesMost
  by_contra hfew
  by_cases hnone : qualifiedCount measured = 0
  · omega
  · rw [if_pos hnone] at hrate
    have hq : (0 : ℚ) < qualifiedCount measured := by
      exact_mod_cast Nat.pos_of_ne_zero hnone
    have hq100 : (qualifiedCount measured : ℚ) ≤ 100 := by exact_mod_cast hcount
    have hless : (5 : ℚ) * passedCount measured + 1 ≤ 3 * qualifiedCount measured := by
      exact_mod_cast (by omega : 5 * passedCount measured + 1 ≤ 3 * qualifiedCount measured)
    -- The rate stays at least a five-hundredth below three fifths.
    have hbelow : (passedCount measured : ℚ) / qualifiedCount measured ≤
        ((5980 : Int) : ℚ) / 10 ^ 4 := by
      rw [div_le_div_iff₀ hq (by norm_num)]
      push_cast
      linarith
    have hrounded := round_mono hbelow 4
    rw [round_of_multiple] at hrounded
    have habsurd := hrate.trans hrounded
    norm_num [robustPassRate] at habsurd

end Summary

/-- At least as many values as the position of a sorted entry says are not above it. -/
theorem countP_sorted {values : List ℚ} {index : Nat} (hindex : index < values.length) {y : ℚ}
    (hbelow : (sorted values).getD index 0 < y) :
    index + 1 ≤ values.countP fun x => decide (x < y) := by
  have hperm : (sorted values).Perm values := List.perm_insertionSort _ _
  have hlength : index < (sorted values).length := hperm.length_eq ▸ hindex
  have hpairwise : (sorted values).Pairwise (· ≤ ·) :=
    List.pairwise_insertionSort (· ≤ ·) values
  have hfirst : ∀ x ∈ (sorted values).take (index + 1), decide (x < y) = true := by
    intro x hx
    obtain ⟨k, hk, rfl⟩ := List.mem_iff_getElem.mp hx
    rw [List.length_take] at hk
    rw [List.getElem_take]
    rw [List.getD_eq_getElem _ _ hlength] at hbelow
    have hle : (sorted values)[k] ≤ (sorted values)[index] := by
      rcases Nat.lt_or_ge k index with hlt | hge
      · exact List.pairwise_iff_getElem.mp hpairwise k index _ _ hlt
      · have hsame : k = index := by omega
        subst hsame
        exact le_rfl
    exact decide_eq_true (hle.trans_lt hbelow)
  calc index + 1 = ((sorted values).take (index + 1)).length := by
        rw [List.length_take]
        omega
    _ = ((sorted values).take (index + 1)).countP fun x => decide (x < y) :=
        (List.countP_eq_length.mpr hfirst).symm
    _ ≤ (sorted values).countP fun x => decide (x < y) :=
        (List.take_sublist _ _).countP_le
    _ = values.countP fun x => decide (x < y) := hperm.countP_eq _

/-- The percentile of thirty rounded medians is above none of the lowest twenty-seven. -/
theorem countP_percentile {values : List ℚ} (hcount : values.length = 30)
    (hrounded : ∀ x ∈ values, round x 4 = x) {y : ℚ}
    (hbelow : percentileOf randomBenchmarkPercentile values < y) :
    27 ≤ values.countP fun x => decide (x < y) := by
  have hne : values ≠ [] := by
    intro hnil
    rw [hnil] at hcount
    cases hcount
  have hindex : (randomBenchmarkPercentile * ((values.length : ℚ) - 1)).floor.toNat = 26 := by
    rw [hcount]
    decide +kernel
  have hperm : (sorted values).Perm values := List.perm_insertionSort _ _
  have hlength : 26 < (sorted values).length := by
    rw [hperm.length_eq, hcount]
    decide
  have hentry : round ((sorted values).getD 26 0) 4 = (sorted values).getD 26 0 := by
    rw [List.getD_eq_getElem _ _ hlength]
    exact hrounded _ (hperm.mem_iff.mp (List.getElem_mem hlength))
  unfold percentileOf at hbelow
  rw [if_neg hne] at hbelow
  dsimp only at hbelow
  rw [hindex, hentry] at hbelow
  exact countP_sorted (by omega) hbelow

section Verdicts

variable {dataset : BacktestDataset} {candidate : RedesignCandidate}
  {windows : List WalkForwardWindow} {lead : Int}

theorem length_of_mapM {α β ε : Type} {f : α → Except ε β} {xs : List α} {ys : List β}
    (h : xs.mapM f = .ok ys) : ys.length = xs.length :=
  (forall₂_of_mapM h).length_eq.symm

theorem measured_of_summary {costMultiplier slippagePricePerSide : ℚ}
    {summary : WalkForwardSummary}
    (h : runWalkForwardForCandidate dataset candidate windows costMultiplier
      slippagePricePerSide lead = .ok summary) :
    ∃ measured, measureCandidate dataset candidate windows costMultiplier slippagePricePerSide
        lead = .ok measured ∧ measured.length = windows.length ∧
      summary = walkForwardSummary candidate.candidateName costMultiplier
        defaultMinTradesPerWindow measured := by
  obtain ⟨measured, hmeasured, hsummary⟩ := bind_eq_ok h
  exact ⟨measured, hmeasured, length_of_mapM hmeasured, (Except.ok.inj hsummary).symm⟩

theorem permutations_of_summaries {seeds : List Nat} {summaries : List WalkForwardSummary}
    (h : (seeds.mapM fun (seed : Nat) => runWalkForwardForSignPermutation dataset candidate
      windows 1 standardEvaluationGate.slippagePricePerSide lead (permutationSeed seed)) =
        .ok summaries) :
    ∃ permutations, (seeds.mapM fun (seed : Nat) => measureSignPermutation dataset candidate
        windows 1 standardEvaluationGate.slippagePricePerSide lead (permutationSeed seed)) =
          .ok permutations ∧
      summaries = permutations.map (walkForwardSummary "SIGN_PERMUTATION_BENCHMARK" 1
        defaultMinTradesPerWindow) := by
  induction seeds generalizing summaries with
  | nil =>
      cases h
      exact ⟨[], rfl, rfl⟩
  | cons seed seeds ih =>
      rw [List.mapM_cons] at h
      obtain ⟨summary, hfirst, h⟩ := bind_eq_ok h
      obtain ⟨rest, hrest, h⟩ := bind_eq_ok h
      obtain rfl := Except.ok.inj h
      obtain ⟨measured, hmeasured, hsummary⟩ := bind_eq_ok hfirst
      obtain rfl := Except.ok.inj hsummary
      obtain ⟨permutations, hpermutations, rfl⟩ := ih hrest
      refine ⟨measured :: permutations, ?_, rfl⟩
      rw [List.mapM_cons, hmeasured, hpermutations]
      rfl

/-- The percentile of permutations that all have a window with enough trades is above no more
than a tenth of them. -/
theorem beaten_of_percentile {base : List MeasuredWindow} {p90 : ℚ}
    (hqualifies : EveryPermutationQualifies dataset candidate windows lead)
    (hp90 : signPermutationMedianPfPercentile dataset candidate windows 1
      standardEvaluationGate.slippagePricePerSide lead standardEvaluationGate.randomSeedCount
      randomBenchmarkPercentile = .ok p90)
    (hbeats : p90 < round (medianFactor base) 4) :
    ∃ permutations, measurePermutations dataset candidate windows lead = .ok permutations ∧
      9 * permutations.length ≤ 10 * permutations.countP (beats base) := by
  obtain ⟨summaries, hsummaries, hvalue⟩ := bind_eq_ok hp90
  obtain ⟨permutations, hpermutations, rfl⟩ := permutations_of_summaries hsummaries
  obtain rfl := Except.ok.inj hvalue
  have hall := hqualifies permutations hpermutations
  have hlength : permutations.length = 30 := by
    rw [length_of_mapM hpermutations, List.length_range]
    rfl
  have hkept : (permutations.map (walkForwardSummary "SIGN_PERMUTATION_BENCHMARK" 1
      defaultMinTradesPerWindow)).filter (fun summary => summary.qualifiedWindowCount ≠ 0) =
        permutations.map (walkForwardSummary "SIGN_PERMUTATION_BENCHMARK" 1
          defaultMinTradesPerWindow) := by
    refine List.filter_eq_self.mpr fun summary hsummary => ?_
    obtain ⟨permuted, hpermuted, rfl⟩ := List.mem_map.mp hsummary
    rw [summary_qualified]
    simpa using hall permuted hpermuted
  have hmedians : (permutations.map (walkForwardSummary "SIGN_PERMUTATION_BENCHMARK" 1
      defaultMinTradesPerWindow)).map WalkForwardSummary.medianProfitFactorRounded =
        permutations.map fun permuted => round (medianFactor permuted) 4 := by
    rw [List.map_map]
    exact List.map_congr_left fun _ _ => rfl
  rw [hkept, hmedians] at hbeats
  have hcount := countP_percentile (by simpa using hlength) (by
    intro x hx
    obtain ⟨permuted, -, rfl⟩ := List.mem_map.mp hx
    exact round_round _ 4) hbeats
  rw [List.countP_map] at hcount
  refine ⟨permutations, hpermutations, ?_⟩
  have hle : permutations.countP ((fun x => decide (x < round (medianFactor base) 4)) ∘
      fun permuted => round (medianFactor permuted) 4) ≤ permutations.countP (beats base) := by
    refine List.countP_mono_left fun permuted hpermuted hlower => ?_
    have hlt := lt_of_round_lt (of_decide_eq_true hlower)
    simp [beats, hall permuted hpermuted, hlt]
  omega

/-- **Step lemma.** What a robust verdict of the battery says at one resolution. -/
theorem gateHolds_of_verdict {found : CandidateRobustnessVerdict}
    (hwindows : windows.length ≤ 100)
    (hqualifies : EveryPermutationQualifies dataset candidate windows lead)
    (h : verdictOf dataset windows 1 2 standardEvaluationGate.slippagePricePerSide
      standardEvaluationGate.randomSeedCount lead candidate = .ok found)
    (hrobust : found.verdict = .robustCandidateForPaperForward)
    (hcount : standardEvaluationGate.minQualifiedWindows ≤ found.baseCostQualifiedWindowCount) :
    GateHolds dataset candidate windows lead := by
  obtain ⟨baseSummary, hbase, h⟩ := bind_eq_ok h
  obtain ⟨stressedSummary, hstressed, h⟩ := bind_eq_ok h
  obtain ⟨p90, hp90, h⟩ := bind_eq_ok h
  obtain ⟨base, hmeasured, hbaseLength, rfl⟩ := measured_of_summary hbase
  obtain ⟨stressed, hmeasuredStressed, hstressedLength, rfl⟩ := measured_of_summary hstressed
  dsimp only at h
  obtain rfl := Except.ok.inj h
  dsimp only at hrobust hcount
  rw [summary_qualified] at hcount
  split_ifs at hrobust with hthree hgood
  · rw [Bool.and_eq_true, Bool.and_eq_true, Bool.and_eq_true] at hgood
    obtain ⟨⟨⟨-, hbaseRate⟩, hstressedRate⟩, hbeats⟩ := hgood
    have hbeats := of_decide_eq_true hbeats
    rw [summary_median] at hbeats
    obtain ⟨permutations, hpermutations, hbeaten⟩ := beaten_of_percentile hqualifies hp90 hbeats
    exact ⟨base, stressed, permutations, hmeasured, hmeasuredStressed, hpermutations, hcount,
      passesMost_of_summary (by omega) (of_decide_eq_true hbaseRate),
      passesMost_of_summary (by omega) (of_decide_eq_true hstressedRate), hbeaten⟩

end Verdicts

section Gate

variable {dataset : BacktestDataset} {candidates : Option (List RedesignCandidate)}
  {candidate : RedesignCandidate} {maxWindows lead : Int} {resolutions : Option (List Int)}

theorem candidateSet_ne_nil (candidates : Option (List RedesignCandidate)) :
    candidateSet candidates ≠ [] := by
  unfold candidateSet
  split
  · decide
  · decide
  · simp_all

theorem candidateSet_some {given : List RedesignCandidate} (h : given ≠ []) :
    candidateSet (some given) = given := by
  cases given with
  | nil => exact absurd rfl h
  | cons first rest => rfl

def windowsAt (dataset : BacktestDataset) (maxWindows lead windowBars : Int) :
    List WalkForwardWindow :=
  buildWalkForwardWindows dataset.candles.length windowBars lead maxWindows

theorem eq_of_name {set : List RedesignCandidate} {first second : RedesignCandidate}
    (hnames : (set.map RedesignCandidate.candidateName).Nodup) (hfirst : first ∈ set)
    (hsecond : second ∈ set) (hname : first.candidateName = second.candidateName) :
    first = second :=
  List.inj_on_of_nodup_map hnames hfirst hsecond hname

variable {found : CandidateRobustnessVerdict}

theorem name_of_verdict {windows : List WalkForwardWindow} {baseCost stressCost slippage : ℚ}
    {seeds : Nat}
    (h : verdictOf dataset windows baseCost stressCost slippage seeds lead candidate =
      .ok found) : found.candidateName = candidate.candidateName := by
  obtain ⟨base, -, h⟩ := bind_eq_ok h
  obtain ⟨stressed, -, h⟩ := bind_eq_ok h
  obtain ⟨p90, -, h⟩ := bind_eq_ok h
  obtain rfl := Except.ok.inj h
  rfl

theorem mem_of_reportAt {reports : List (Int × EvaluationHardeningReport)} {windowBars : Int}
    {report : EvaluationHardeningReport} (h : reportAt reports windowBars = .ok report) :
    (windowBars, report) ∈ reports := by
  unfold reportAt at h
  split at h
  · rename_i found hlookup
    obtain rfl := Except.ok.inj h
    obtain ⟨before, after, hsplit, -⟩ := List.lookup_eq_some_iff.mp hlookup
    rw [← List.mem_reverse, hsplit]
    simp
  · cases h

theorem mem_of_verdictNamed {verdicts : List CandidateRobustnessVerdict} {name : String}
    (h : verdictNamed verdicts name = .ok found) :
    found ∈ verdicts ∧ found.candidateName = name := by
  unfold verdictNamed at h
  split at h
  · rename_i verdict hfind
    obtain rfl := Except.ok.inj h
    exact ⟨List.mem_of_find?_eq_some hfind, by simpa using List.find?_some hfind⟩
  · cases h

theorem stress_standard : maxOr (standardEvaluationGate.costMultipliers.headD 1)
    standardEvaluationGate.costMultipliers = 2 := by
  decide +kernel

/-- A verdict that the gate finds under a candidate's name is the battery's verdict on it. -/
theorem verdict_of_found {windowBars : Int} {reports : List (Int × EvaluationHardeningReport)}
    {report : EvaluationHardeningReport}
    (hnames : ((candidateSet candidates).map RedesignCandidate.candidateName).Nodup)
    (hcandidate : candidate ∈ candidateSet candidates)
    (hreports : (resolutionSet resolutions).mapM (fun windowBars => do
      let report ← evaluateCandidateRobustness dataset (some (candidateSet candidates)) windowBars
        maxWindows standardEvaluationGate.costMultipliers
        standardEvaluationGate.slippagePricePerSide standardEvaluationGate.randomSeedCount lead
      return (windowBars, report)) = .ok reports)
    (hreport : reportAt reports windowBars = .ok report)
    (hfound : verdictNamed report.verdicts candidate.candidateName = .ok found) :
    verdictOf dataset (windowsAt dataset maxWindows lead windowBars) 1 2
      standardEvaluationGate.slippagePricePerSide standardEvaluationGate.randomSeedCount lead
      candidate = .ok found := by
  obtain ⟨resolution, -, hpair⟩ := entry_of_mapM hreports (mem_of_reportAt hreport)
  obtain ⟨worked, hworked, hpair⟩ := bind_eq_ok hpair
  obtain ⟨rfl, rfl⟩ := Prod.mk.inj (Except.ok.inj hpair)
  obtain ⟨hmem, hname⟩ := mem_of_verdictNamed hfound
  obtain ⟨verdicts, hverdicts, hworked⟩ := bind_eq_ok hworked
  obtain rfl := Except.ok.inj hworked
  rw [candidateSet_some (candidateSet_ne_nil candidates)] at hverdicts
  obtain ⟨other, hother, hverdict⟩ := entry_of_mapM hverdicts hmem
  have hsame : other = candidate :=
    eq_of_name hnames hother hcandidate ((name_of_verdict hverdict).symm.trans hname)
  subst hsame
  rw [stress_standard] at hverdict
  exact hverdict

end Gate

/-- The candle of a bar: the closes climb by two, and every bar is one wide. -/
def climbCandle (bar : Nat) : BacktestCandleRecord where
  timestamp := bar - 125
  openValue := 2 * bar
  highValue := 2 * bar + 1
  lowValue := 2 * bar
  closeValue := 2 * bar

def climbSpread (bar : Nat) : BacktestSpreadRecord where
  timestamp := bar - 125
  spreadCategory := .spreadCategoryNormal
  spreadValue := some 0

def climbSession (bar : Nat) : BacktestSessionRecord where
  timestamp := bar - 125
  sessionSafeLabel := .sessionAllowed

def climbing : BacktestDataset where
  candles := (List.range 125).map climbCandle
  spreads := (List.range 125).map climbSpread
  sessions := (List.range 125).map climbSession
  warmupBars := 0

/-- Every lookback is as short as it can be. -/
def climbConfig : RedesignFeatureConfig where
  smaFast := 1
  smaSlow := 1
  momentumLookback := 0
  breakoutLookback := 1
  atrLookback := 1

/-- The breakout rule with an exit configuration. -/
def climber (exitConfig : RedesignExitConfig) : RedesignCandidate where
  candidateName := "BREAKOUT"
  family := .breakout
  exitConfig
  featureConfig := climbConfig

section Climb

variable {exitConfig : RedesignExitConfig} {options : RedesignOptions} {start : Nat}
  {part : BacktestDataset}

theorem climb_features (hpart : PartAt start part.candles climbing.candles) {i : Nat}
    (hfirst : 1 ≤ i) (hi : i < part.candles.length) :
    ∃ features, featuresAt part climbConfig i = .ok features ∧ features.ready = true ∧
      features.atrLike = 1 ∧ features.trend = .range ∧ features.breakout = .up := by
  have hneed : climbConfig.need = 1 := by decide
  have hlength : climbing.candles.length = 125 := by simp [climbing]
  have hle := hpart.length_le
  obtain ⟨features, hfeatures, hready, hatr, htrend, -, hup⟩ :=
    @features_probe (fun (j : Nat) => 2 * (j : ℚ)) 125 125 climbConfig (by decide) (start + i)
      (by omega) (by omega) (by simp only [climbConfig]; omega)
  refine ⟨features, ?_, hready, hatr (by decide), ?_, hup ?_⟩
  · rw [featuresAt_part hpart (by decide) (by decide) (by omega) (by omega)
      (by simp only [climbConfig]; omega)]
    have hcast : (start : Int) + i = (start + i : Nat) := by omega
    rw [hcast]
    exact hfeatures
  · have hsame : ∀ x : ℚ, trendOf x x climbConfig.trendMarginRatio = .range := by
      intro x
      have hmargin : 0 ≤ |x| * climbConfig.trendMarginRatio := by
        have hratio : (0 : ℚ) ≤ climbConfig.trendMarginRatio := by norm_num [climbConfig]
        exact mul_nonneg (abs_nonneg x) hratio
      unfold trendOf
      dsimp only
      rw [if_neg (by linarith), if_neg (by linarith)]
    rw [htrend]
    exact hsame _
  · intro j hj
    have hcast : (j : ℚ) + 1 ≤ (start + i : Nat) := by exact_mod_cast hj
    linarith

def climbFeatures : RedesignFeatures where
  trend := .range
  momentum := .flat
  breakout := .up
  overextension := .none
  atrLike := 1
  ready := true

def longEntry : RedesignEntryDecision :=
  { entrySide := .redesignEntryLong, blockReasonSafeLabel := "" }

/-- A bar of a run: an open trade is managed, and otherwise one is opened. -/
def climbStep (exitConfig : RedesignExitConfig) (options : RedesignOptions) (start : Nat)
    (s : RedesignState) (i : Nat) : RedesignState :=
  match s.openTrade with
  | some trade =>
      s.manage (climber exitConfig) options trade (climbCandle (start + i))
        (climbSpread (start + i)) climbFeatures i
  | none =>
      (s.note longEntry).enter (climber exitConfig) options longEntry (climbCandle (start + i))
        (climbSpread (start + i)) climbFeatures i

theorem item_climb {α : Type} {xs : List α} {g : Nat → α}
    (hpart : PartAt start xs ((List.range 125).map g)) {i : Nat} (hi : i < xs.length) :
    item xs i = .ok (g (start + i)) := by
  have hle := hpart.length_le
  rw [List.length_map, List.length_range] at hle
  rw [item_part hpart (by omega) (by omega)]
  have hcast : (start : Int) + i = (start + i : Nat) := by omega
  rw [hcast, item_map_range _ (by omega) (by omega)]
  rfl

/-- The slices of a series with the same bars. -/
structure ClimbPart (start : Nat) (part : BacktestDataset) : Prop where
  candles : PartAt start part.candles climbing.candles
  spreads : PartAt start part.spreads climbing.spreads
  sessions : PartAt start part.sessions climbing.sessions
  length : part.candles.length = 32
  lengthSpreads : part.spreads.length = 32
  lengthSessions : part.sessions.length = 32
  warmup : part.warmupBars = 1

theorem climb_step (h : ClimbPart start part) {i : Nat} (hfirst : 1 ≤ i) (hi : i < 32)
    (s : RedesignState) :
    redesignStep part (climber exitConfig) options none s i =
      .ok (climbStep exitConfig options start s i) := by
  have hcandle : item part.candles i = .ok (climbCandle (start + i)) := by
    exact item_climb h.candles (by rw [h.length]; exact hi)
  have hspread : item part.spreads i = .ok (climbSpread (start + i)) := by
    exact item_climb h.spreads (by rw [h.lengthSpreads]; exact hi)
  have hsession : item part.sessions i = .ok (climbSession (start + i)) :=
    item_climb h.sessions (by rw [h.lengthSessions]; exact hi)
  obtain ⟨features, hfeatures, hready, hatr, htrend, hup⟩ := climb_features h.candles hfirst
    (by rw [h.length]; exact hi)
  have hhour : barJstHour (climbCandle (start + i)).timestamp = .ok none :=
    barJstHour_of_tick (by
      have hle := h.candles.length_le
      have hlength : climbing.candles.length = 125 := by simp [climbing]
      rw [h.length, hlength] at hle
      show ((start + i : Nat) : Int) - 125 < epochMsMin
      unfold epochMsMin
      omega)
  have hconfig : featuresAt part (climber exitConfig).featureConfig i = .ok features := hfeatures
  have hdecision : ∀ isSessionOpenBar, redesignEntryDecision (climber exitConfig).family features
      (spreadWithin (climbSpread (start + i)).spreadCategory)
      ((climbSession (start + i)).sessionSafeLabel = .sessionAllowed) isSessionOpenBar =
        longEntry := by
    intro isSessionOpenBar
    simp [redesignEntryDecision, familyRule, sided, climber, hready, hatr, htrend, hup,
      climbSession, climbSpread, spreadWithin, longEntry]
  unfold redesignStep climbStep
  rw [hcandle, hconfig]
  cases hopen : s.openTrade with
  | some trade =>
      simp only [bind, Except.bind]
      rw [hspread]
      unfold RedesignState.manage
      rw [htrend]
      rfl
  | none =>
      simp only [bind, Except.bind]
      unfold RedesignState.decide
      rw [hhour, hspread, hsession]
      simp only [bind, Except.bind, hdecision]
      unfold RedesignState.follow
      rw [if_neg (by decide)]
      simp only [flagAt, bind, Except.bind, Option.any_none, RedesignState.enter, hatr,
        climbFeatures]
      rfl

def climbRun (exitConfig : RedesignExitConfig) (options : RedesignOptions) (start : Nat) :
    RedesignState :=
  let looped := (List.range' 1 31).foldl (climbStep exitConfig options start) (startState options)
  match looped.openTrade with
  | none => looped
  | some trade =>
      looped.close options trade .exitEndOfWindow (climbCandle (start + 31)).closeValue 31

def climbMetrics (exitConfig : RedesignExitConfig) (options : RedesignOptions) (start : Nat) :
    BacktestMetricsSummary :=
  computeBacktestMetrics ((climbRun exitConfig options start).trades.map fun trade =>
    trade.event.syntheticPnlValue)

theorem climb_loop (h : ClimbPart start part) {count : Nat} (hcount : count ≤ 31)
    (s : RedesignState) :
    (indices 1 (1 + count : Nat)).foldlM (redesignStep part (climber exitConfig) options none) s =
      .ok ((List.range' 1 count).foldl (climbStep exitConfig options start) s) := by
  induction count with
  | zero => rfl
  | succ count ih =>
      have hsplit : indices 1 (1 + (count + 1) : Nat) =
          indices 1 (1 + count : Nat) ++ [((1 + count : Nat) : Int)] := by
        rw [@Library.Series.indices_split 1 (1 + count : Nat) _ (by omega) (by omega)]
        congr 1
        have hone : (((1 + (count + 1) : Nat) : Int) - (1 + count : Nat)).toNat = 1 := by omega
        rw [indices, hone]
        simp
      rw [hsplit, List.foldlM_append, ih (by omega), List.range'_1_concat, List.foldl_append]
      simp only [bind, Except.bind, List.foldlM_cons, List.foldlM_nil]
      rw [climb_step h (by omega) (by omega)]
      rfl

/-- **The metrics of a run over a slice** of a climbing series. -/
theorem run_climb (h : ClimbPart start part) :
    ∃ result, runRedesignBacktest part (climber exitConfig) options = .ok result ∧
      result.metrics = climbMetrics exitConfig options start := by
  have hflags : regimeFlags part (climber exitConfig) = .ok none := rfl
  have hlast : item part.candles (31 : Nat) = .ok (climbCandle (start + 31)) :=
    item_climb h.candles (by rw [h.length]; decide)
  have hloop := @climb_loop exitConfig options start part h 31 le_rfl (startState options)
  have hend : closeAtEnd part options
      ((List.range' 1 31).foldl (climbStep exitConfig options start) (startState options)) =
        .ok (climbRun exitConfig options start) := by
    unfold closeAtEnd climbRun
    dsimp only
    cases ((List.range' 1 31).foldl (climbStep exitConfig options start)
      (startState options)).openTrade with
    | none => rfl
    | some trade =>
        have hindex : (part.candles.length : Int) - 1 = (31 : Nat) := by
          rw [h.length]
          rfl
        dsimp only
        rw [hindex, hlast]
        rfl
  unfold runRedesignBacktest
  rw [hflags, h.warmup, h.length]
  dsimp only [bind, Except.bind]
  rw [show ((32 : Nat) : Int) = (1 + 31 : Nat) from rfl, hloop]
  dsimp only
  rw [hend]
  refine ⟨_, rfl, ?_⟩
  unfold RedesignRunResult.metrics RedesignRunResult.trades climbMetrics
  rw [List.map_map]
  rfl

def climbWindow (k : Nat) : WalkForwardWindow where
  index := k
  sliceStart := 31 * k
  tradedStart := 1 + 31 * k
  tradedEnd := 1 + 31 * k + 31

theorem windowsAt_climbing : windowsAt climbing 12 1 31 = (List.range 4).map climbWindow := by
  decide +kernel

theorem climbPart_window {k : Nat} (hk : k < 4) :
    ClimbPart (31 * k) (windowSlice climbing (climbWindow k) 1) := by
  have hstop : (1 : Int) + 31 * k + 31 = (31 * k + 32 : Nat) := by omega
  have hlength : ∀ {α : Type} (g : Nat → α), (Library.Series.slice ((List.range 125).map g)
      (31 * k : Nat) (31 * k + 32 : Nat)).length = 32 := by
    intro α g
    rw [Library.Series.slice_natCast _ (by simp; omega), List.length_drop, List.length_take,
      List.length_map, List.length_range]
    omega
  have hslice : windowSlice climbing (climbWindow k) 1 =
      sliceOf climbing (31 * k : Nat) (31 * k + 32 : Nat) 1 := by
    unfold windowSlice climbWindow
    dsimp only
    rw [hstop]
    norm_cast
  rw [hslice]
  exact
    { candles := PartAt.of_slice _ _ _
      spreads := PartAt.of_slice _ _ _
      sessions := PartAt.of_slice _ _ _
      length := hlength _
      lengthSpreads := hlength _
      lengthSessions := hlength _
      warmup := rfl }

/-- The runs over the windows, with a seed for each. -/
def climbMeasured (exitConfig : RedesignExitConfig) (costMultiplier : ℚ) (seedAt : Nat → Option Int)
    (k : Nat) : MeasuredWindow where
  window := climbWindow k
  metrics := climbMetrics exitConfig
    { spreadCostMultiplier := costMultiplier
      slippagePricePerSide := 1 / 200
      randomizeSideSeed := seedAt k } (31 * k)

theorem measureWindow_climb {costMultiplier : ℚ} {seedAt : Nat → Option Int} {k : Nat}
    (hk : k < 4) :
    measureWindow climbing (climber exitConfig) costMultiplier (1 / 200) 1 (seedAt k)
      (climbWindow k) = .ok (climbMeasured exitConfig costMultiplier seedAt k) := by
  obtain ⟨result, hresult, hmetrics⟩ := @run_climb exitConfig
    { spreadCostMultiplier := costMultiplier
      slippagePricePerSide := 1 / 200
      randomizeSideSeed := seedAt k } _ _ (climbPart_window hk)
  unfold measureWindow
  rw [hresult]
  show Except.ok _ = _
  rw [hmetrics]
  rfl

theorem measureCandidate_climb (costMultiplier : ℚ) :
    measureCandidate climbing (climber exitConfig) (windowsAt climbing 12 1 31) costMultiplier
        standardEvaluationGate.slippagePricePerSide 1 =
      .ok ((List.range 4).map (climbMeasured exitConfig costMultiplier fun _ => none)) := by
  unfold measureCandidate
  rw [windowsAt_climbing, List.mapM_map]
  exact mapM_eq_ok fun k hk =>
    @measureWindow_climb exitConfig costMultiplier (fun _ => none) k (List.mem_range.mp hk)

theorem measureSignPermutation_climb (seed : Int) :
    measureSignPermutation climbing (climber exitConfig) (windowsAt climbing 12 1 31) 1
        standardEvaluationGate.slippagePricePerSide 1 seed =
      .ok ((List.range 4).map (climbMeasured exitConfig 1 fun k => some (seed + k))) := by
  unfold measureSignPermutation
  rw [windowsAt_climbing, List.mapM_map]
  exact mapM_eq_ok fun k hk =>
    @measureWindow_climb exitConfig 1 (fun k => some (seed + k)) k (List.mem_range.mp hk)

def climbPermutations (exitConfig : RedesignExitConfig) : List (List MeasuredWindow) :=
  (List.range 30).map fun seed =>
    (List.range 4).map (climbMeasured exitConfig 1 fun k => some (permutationSeed seed + k))

theorem measurePermutations_climb :
    measurePermutations climbing (climber exitConfig) (windowsAt climbing 12 1 31) 1 =
      .ok (climbPermutations exitConfig) :=
  mapM_eq_ok fun seed _ => measureSignPermutation_climb (permutationSeed seed)

theorem robust_of_verdict {dataset : BacktestDataset} {candidate : RedesignCandidate}
    {maxWindows lead windowBars : Int} {found : CandidateRobustnessVerdict}
    (h : verdictOf dataset (windowsAt dataset maxWindows lead windowBars) 1 2
      standardEvaluationGate.slippagePricePerSide standardEvaluationGate.randomSeedCount lead
      candidate = .ok found)
    (hrobust : found.verdict = .robustCandidateForPaperForward)
    (hcount : standardEvaluationGate.minQualifiedWindows ≤ found.baseCostQualifiedWindowCount) :
    ∃ report verdict, evaluateUnderStandardGate dataset (some [candidate]) maxWindows
        (some [windowBars]) lead = .ok report ∧ verdict ∈ report.verdicts ∧
      verdict.candidateName = candidate.candidateName ∧ verdict.robustAllResolutions = true := by
  have hname := name_of_verdict h
  obtain ⟨report, hreport, hverdicts⟩ : ∃ report, evaluateCandidateRobustness dataset
      (some [candidate]) windowBars maxWindows standardEvaluationGate.costMultipliers
      standardEvaluationGate.slippagePricePerSide standardEvaluationGate.randomSeedCount lead =
        .ok report ∧ report.verdicts = [found] := by
    unfold evaluateCandidateRobustness
    dsimp only
    rw [stress_standard]
    have hlist : (candidateSet (some [candidate])).mapM (verdictOf dataset
        (buildWalkForwardWindows dataset.candles.length windowBars lead maxWindows)
        (standardEvaluationGate.costMultipliers.headD 1) 2
        standardEvaluationGate.slippagePricePerSide standardEvaluationGate.randomSeedCount lead) =
          .ok [found] := by
      show [candidate].mapM _ = _
      rw [List.mapM_cons, List.mapM_nil]
      exact congrArg (· >>= _) h
    rw [hlist]
    exact ⟨_, rfl, rfl⟩
  have hat : reportAt [(windowBars, report)] windowBars = .ok report := by
    simp [reportAt]
  have hnamed : verdictNamed report.verdicts candidate.candidateName = .ok found := by
    simp [verdictNamed, hverdicts, hname]
  obtain ⟨here, hhere, hrobustHere⟩ : ∃ here, resolutionVerdict [(windowBars, report)] candidate
      windowBars = .ok here ∧ here.robustHere = true := by
    unfold resolutionVerdict
    rw [hat]
    dsimp only [bind, Except.bind]
    rw [hnamed]
    refine ⟨_, rfl, ?_⟩
    simp [hrobust, hcount]
  obtain ⟨verdict, hverdict, hverdictName, hall⟩ : ∃ verdict, candidateVerdict
      [(windowBars, report)] [windowBars] candidate = .ok verdict ∧
      verdict.candidateName = candidate.candidateName ∧ verdict.robustAllResolutions = true := by
    unfold candidateVerdict
    rw [List.mapM_cons, List.mapM_nil, hhere]
    refine ⟨_, rfl, rfl, ?_⟩
    simp [hrobustHere]
  have hset : candidateSet (some [candidate]) = [candidate] := rfl
  have hresolutions : resolutionSet (some [windowBars]) = [windowBars] := rfl
  unfold evaluateUnderStandardGate
  dsimp only
  rw [hset, hresolutions, List.mapM_cons, List.mapM_nil, hreport]
  dsimp only [bind, Except.bind, pure, Except.pure]
  rw [List.mapM_cons, List.mapM_nil, hverdict]
  exact ⟨_, verdict, rfl, List.mem_cons_self, hverdictName, hall⟩

theorem percentile_climb :
    signPermutationMedianPfPercentile climbing (climber exitConfig) (windowsAt climbing 12 1 31) 1
        standardEvaluationGate.slippagePricePerSide 1 standardEvaluationGate.randomSeedCount
        randomBenchmarkPercentile =
      .ok (percentileOf randomBenchmarkPercentile
        (((climbPermutations exitConfig).filter fun permuted => qualifiedCount permuted ≠ 0).map
          fun permuted => round (medianFactor permuted) 4)) := by
  have hsummaries : ((List.range standardEvaluationGate.randomSeedCount).mapM
      fun (seed : Nat) => runWalkForwardForSignPermutation climbing (climber exitConfig)
        (windowsAt climbing 12 1 31) 1 standardEvaluationGate.slippagePricePerSide 1
        (permutationSeed seed)) =
      .ok ((climbPermutations exitConfig).map (walkForwardSummary "SIGN_PERMUTATION_BENCHMARK" 1
        defaultMinTradesPerWindow)) := by
    unfold climbPermutations
    rw [List.map_map]
    refine mapM_eq_ok fun seed _ => ?_
    unfold runWalkForwardForSignPermutation
    rw [measureSignPermutation_climb]
    rfl
  unfold signPermutationMedianPfPercentile
  rw [hsummaries]
  dsimp only [bind, Except.bind]
  rw [List.filter_map]
  have hkept : ((fun summary : WalkForwardSummary => decide (summary.qualifiedWindowCount ≠ 0)) ∘
      walkForwardSummary "SIGN_PERMUTATION_BENCHMARK" 1 defaultMinTradesPerWindow) =
        fun permuted => decide (qualifiedCount permuted ≠ 0) := by
    funext permuted
    rw [Function.comp_apply, summary_qualified]
  rw [hkept, List.map_map]
  rfl

def climbOwn (exitConfig : RedesignExitConfig) (costMultiplier : ℚ) : List MeasuredWindow :=
  (List.range 4).map (climbMeasured exitConfig costMultiplier fun _ => none)

theorem robust_climb (hcount : qualifiedCount (climbOwn exitConfig 1) = 4)
    (hbase : robustPassRate ≤ (walkForwardSummary "BREAKOUT" 1 defaultMinTradesPerWindow
      (climbOwn exitConfig 1)).passRateRounded)
    (hstressed : robustPassRate ≤ (walkForwardSummary "BREAKOUT" 2 defaultMinTradesPerWindow
      (climbOwn exitConfig 2)).passRateRounded)
    (hbeats : percentileOf randomBenchmarkPercentile
        (((climbPermutations exitConfig).filter fun permuted => qualifiedCount permuted ≠ 0).map
          fun permuted => round (medianFactor permuted) 4) <
      round (medianFactor (climbOwn exitConfig 1)) 4) :
    ∃ report verdict, evaluateUnderStandardGate climbing (some [climber exitConfig]) 12
        (some [31]) 1 = .ok report ∧ verdict ∈ report.verdicts ∧
      verdict.candidateName = (climber exitConfig).candidateName ∧
      verdict.robustAllResolutions = true := by
  have hown : ∀ cost, runWalkForwardForCandidate climbing (climber exitConfig)
      (windowsAt climbing 12 1 31) cost standardEvaluationGate.slippagePricePerSide 1 =
        .ok (walkForwardSummary "BREAKOUT" cost defaultMinTradesPerWindow
          (climbOwn exitConfig cost)) := by
    intro cost
    unfold runWalkForwardForCandidate
    rw [measureCandidate_climb]
    rfl
  obtain ⟨found, hfound, hrobust, hfoundCount⟩ : ∃ found, verdictOf climbing
      (windowsAt climbing 12 1 31) 1 2 standardEvaluationGate.slippagePricePerSide
      standardEvaluationGate.randomSeedCount 1 (climber exitConfig) = .ok found ∧
      found.verdict = .robustCandidateForPaperForward ∧
      standardEvaluationGate.minQualifiedWindows ≤ found.baseCostQualifiedWindowCount := by
    unfold verdictOf
    rw [hown, hown, percentile_climb]
    refine ⟨_, rfl, ?_, ?_⟩
    · dsimp only
      rw [summary_qualified, hcount, if_neg (by decide), if_pos]
      rw [summary_median, decide_eq_true hbase, decide_eq_true hstressed, decide_eq_true hbeats]
      rfl
    · dsimp only
      rw [summary_qualified, hcount]
      decide
  exact robust_of_verdict hfound hrobust hfoundCount

end Climb

theorem percentileOf_le {percentile bound : ℚ} {values : List ℚ} (hnonneg : 0 ≤ bound)
    (hbound : ∀ x ∈ values, x ≤ bound) : percentileOf percentile values ≤ round bound 4 := by
  unfold percentileOf
  split_ifs
  · have hzero : round 0 4 = 0 := round_of_int 0 4
    rw [← hzero]
    exact round_mono hnonneg 4
  · dsimp only
    refine round_mono ?_ 4
    rw [List.getD_eq_getElem?_getD]
    cases hentry : (sorted values)[(percentile * ((values.length : ℚ) - 1)).floor.toNat]? with
    | none => exact hnonneg
    | some x =>
        have hmem : x ∈ sorted values := List.mem_of_getElem? hentry
        exact hbound x ((List.perm_insertionSort _ values).mem_iff.mp hmem)

theorem tight_permutations : ∀ permuted ∈ climbPermutations exitTight,
    qualifiedCount permuted ≠ 0 ∧ medianFactor permuted ≤ 100 := by
  have hall : (climbPermutations exitTight).all
      (fun permuted => decide (qualifiedCount permuted ≠ 0) &&
        decide (medianFactor permuted ≤ 100)) = true := by
    decide +kernel
  intro permuted hpermuted
  have h := List.all_eq_true.mp hall permuted hpermuted
  rw [Bool.and_eq_true] at h
  exact ⟨of_decide_eq_true h.1, of_decide_eq_true h.2⟩

theorem tight_robust : ∃ report verdict, evaluateUnderStandardGate climbing
    (some [climber exitTight]) 12 (some [31]) 1 = .ok report ∧ verdict ∈ report.verdicts ∧
      verdict.candidateName = (climber exitTight).candidateName ∧
      verdict.robustAllResolutions = true := by
  refine robust_climb (by decide +kernel) (by decide +kernel) (by decide +kernel) ?_
  refine lt_of_le_of_lt (@percentileOf_le _ 100 _ (by norm_num) ?_) (by decide +kernel)
  intro x hx
  obtain ⟨permuted, hpermuted, rfl⟩ := List.mem_map.mp hx
  have hmem := (List.mem_filter.mp hpermuted).1
  have hrounded := round_mono (tight_permutations permuted hmem).2 4
  have hhundred : round 100 4 = 100 := round_of_int 100 4
  rwa [hhundred] at hrounded

/-- Exits that let a losing side wait for the end of the window. -/
def patientExit : RedesignExitConfig where
  name := "EXIT_PATIENT"
  tpAtrMult := 1
  slAtrMult := 100
  maxHoldBars := 1000
  oppositeDebounceBars := 1000
  mults_pos := by norm_num
  hold_pos := by decide
  debounce_pos := by decide

theorem patient_permutations : ∀ permuted ∈ climbPermutations patientExit,
    qualifiedCount permuted = 0 := by
  have hall : (climbPermutations patientExit).all
      (fun permuted => decide (qualifiedCount permuted = 0)) = true := by
    decide +kernel
  intro permuted hpermuted
  exact of_decide_eq_true (List.all_eq_true.mp hall permuted hpermuted)

theorem patient_robust : ∃ report verdict, evaluateUnderStandardGate climbing
    (some [climber patientExit]) 12 (some [31]) 1 = .ok report ∧ verdict ∈ report.verdicts ∧
      verdict.candidateName = (climber patientExit).candidateName ∧
      verdict.robustAllResolutions = true := by
  refine robust_climb (by decide +kernel) (by decide +kernel) (by decide +kernel) ?_
  have hnone : (climbPermutations patientExit).filter
      (fun permuted => qualifiedCount permuted ≠ 0) = [] := by
    refine List.filter_eq_nil_iff.mpr fun permuted hpermuted => ?_
    simp [patient_permutations permuted hpermuted]
  rw [hnone]
  decide +kernel

end FxStrategyLab.Redesign
