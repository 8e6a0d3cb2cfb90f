import FxStrategyLab.Library.Rounding
import FxStrategyLab.Redesign.Windows

/-!
# The robustness battery and its standard gate

This file embeds the part of `compute_backtest_metrics` that the battery reads, and from
`gmo_strategy_evaluation_hardening.py` the walk-forward summaries of a candidate and of its
sign permutations, `sign_permutation_median_pf_percentile`, `evaluate_candidate_robustness`
and `evaluate_under_standard_gate`.  The baseline and the random-entry reference, which no
verdict reads, are left out.
-/

namespace FxStrategyLab.Redesign

open Backtest (BacktestDataset)
open Library.Rounding (round)

/-- Source `BacktestMetricsSummary`, what the battery reads of it. -/
structure BacktestMetricsSummary where
  tradeCount : Nat
  profitFactor : ℚ
  expectancy : ℚ

/-- Source `compute_backtest_metrics`, by the profits and losses of the trades. -/
def computeBacktestMetrics (pnls : List ℚ) : BacktestMetricsSummary :=
  let wins := pnls.filter (0 < ·)
  let losses := pnls.filter (· < 0)
  { tradeCount := pnls.length
    profitFactor := if losses ≠ [] ∧ wins ≠ [] then wins.sum / |losses.sum| else 0
    expectancy := if pnls ≠ [] then pnls.sum / pnls.length else 0 }

def RedesignRunResult.metrics (result : RedesignRunResult) : BacktestMetricsSummary :=
  computeBacktestMetrics (result.trades.map RedesignTradeEvent.syntheticPnlValue)

/-- Python's `sorted` on numbers. -/
def sorted (values : List ℚ) : List ℚ :=
  values.insertionSort (· ≤ ·)

def median (values : List ℚ) : ℚ :=
  let ordered := sorted values
  let mid := ordered.length / 2
  if ordered = [] then 0
  else if ordered.length % 2 ≠ 0 then ordered.getD mid 0
  else (ordered.getD (mid - 1) 0 + ordered.getD mid 0) / 2

/-- A window with the metrics of the run over it. -/
structure MeasuredWindow where
  window : WalkForwardWindow
  metrics : BacktestMetricsSummary

def MeasuredWindow.qualified (measured : MeasuredWindow) (minTradesPerWindow : Nat) : Bool :=
  minTradesPerWindow ≤ measured.metrics.tradeCount

def MeasuredWindow.passed (measured : MeasuredWindow) (minTradesPerWindow : Nat) : Bool :=
  measured.qualified minTradesPerWindow && decide (1 < measured.metrics.profitFactor) &&
    decide (0 ≤ measured.metrics.expectancy)

structure WindowResultSafe where
  windowIndex : Int
  tradeCount : Nat
  profitFactorRounded : ℚ
  expectancySign : String
  qualified : Bool
  passed : Bool

def MeasuredWindow.result (measured : MeasuredWindow) (minTradesPerWindow : Nat) :
    WindowResultSafe where
  windowIndex := measured.window.index
  tradeCount := measured.metrics.tradeCount
  profitFactorRounded := round measured.metrics.profitFactor 4
  expectancySign := if measured.metrics.expectancy < 0 then "NEGATIVE" else "NON_NEGATIVE"
  qualified := measured.qualified minTradesPerWindow
  passed := measured.passed minTradesPerWindow

/-- Source `WalkForwardSummary`, without its constant fields. -/
structure WalkForwardSummary where
  runnerName : String
  costMultiplier : ℚ
  windowCount : Nat
  qualifiedWindowCount : Nat
  passedWindowCount : Nat
  passRateRounded : ℚ
  medianProfitFactorRounded : ℚ
  windowResults : List WindowResultSafe

def qualifiedFactors (measured : List MeasuredWindow) (minTradesPerWindow : Nat) : List ℚ :=
  (measured.filter fun m => m.qualified minTradesPerWindow).map fun m => m.metrics.profitFactor

/-- The summary of measured windows, the same in every `run_walk_forward_for_*`. -/
def walkForwardSummary (runnerName : String) (costMultiplier : ℚ) (minTradesPerWindow : Nat)
    (measured : List MeasuredWindow) : WalkForwardSummary :=
  let results := measured.map fun m => m.result minTradesPerWindow
  let qualifiedCount := results.countP WindowResultSafe.qualified
  let passedCount := results.countP WindowResultSafe.passed
  let passRate : ℚ := if qualifiedCount ≠ 0 then passedCount / qualifiedCount else 0
  { runnerName
    costMultiplier
    windowCount := results.length
    qualifiedWindowCount := qualifiedCount
    passedWindowCount := passedCount
    passRateRounded := round passRate 4
    medianProfitFactorRounded := round (median (qualifiedFactors measured minTradesPerWindow)) 4
    windowResults := results }

def defaultMinTradesPerWindow : Nat := 15

section Battery

variable (dataset : BacktestDataset) (candidate : RedesignCandidate)
  (windows : List WalkForwardWindow) (costMultiplier slippagePricePerSide : ℚ) (lead : Int)

/-- A candidate's run over a window, with its own sides or with those of a generator. -/
def measureWindow (seed : Option Int) (window : WalkForwardWindow) :
    Except RunError MeasuredWindow := do
  let result ← runRedesignBacktest (windowSlice dataset window lead) candidate
    { spreadCostMultiplier := costMultiplier
      slippagePricePerSide
      randomizeSideSeed := seed }
  return { window, metrics := result.metrics }

def measureCandidate : Except RunError (List MeasuredWindow) :=
  windows.mapM (measureWindow dataset candidate costMultiplier slippagePricePerSide lead none)

def measureSignPermutation (seed : Int) : Except RunError (List MeasuredWindow) :=
  windows.mapM fun window =>
    measureWindow dataset candidate costMultiplier slippagePricePerSide lead
      (some (seed + window.index)) window

def runWalkForwardForCandidate : Except RunError WalkForwardSummary := do
  let measured ← measureCandidate dataset candidate windows costMultiplier slippagePricePerSide
    lead
  return walkForwardSummary candidate.candidateName costMultiplier defaultMinTradesPerWindow
    measured

def runWalkForwardForSignPermutation (seed : Int) : Except RunError WalkForwardSummary := do
  let measured ← measureSignPermutation dataset candidate windows costMultiplier
    slippagePricePerSide lead seed
  return walkForwardSummary "SIGN_PERMUTATION_BENCHMARK" costMultiplier
    defaultMinTradesPerWindow measured

def lcgSeed : Int := 2463534242

def permutationSeed (seed : Nat) : Int :=
  lcgSeed + seed * 100003 + 7

/-- The entry of sorted medians at a percentile, zero without any. -/
def percentileOf (percentile : ℚ) (perSeedMedians : List ℚ) : ℚ :=
  if perSeedMedians = [] then 0
  else
    let index := (percentile * ((perSeedMedians.length : ℚ) - 1)).floor.toNat
    round ((sorted perSeedMedians).getD index 0) 4

def signPermutationMedianPfPercentile (seedCount : Nat) (percentile : ℚ) :
    Except RunError ℚ := do
  let summaries ← (List.range seedCount).mapM fun (seed : Nat) =>
    runWalkForwardForSignPermutation dataset candidate windows costMultiplier
      slippagePricePerSide lead (permutationSeed seed)
  return percentileOf percentile
    ((summaries.filter fun summary => summary.qualifiedWindowCount ≠ 0).map
      WalkForwardSummary.medianProfitFactorRounded)

end Battery

inductive RobustnessVerdictCategory
  | robustCandidateForPaperForward
  | notRobustReject
  | insufficientWindows
deriving DecidableEq

/-- Source `CandidateRobustnessVerdict`, without the reference and the constant fields. -/
structure CandidateRobustnessVerdict where
  candidateName : String
  verdict : RobustnessVerdictCategory
  baseCostPassRate : ℚ
  baseCostMedianPf : ℚ
  baseCostQualifiedWindowCount : Nat
  stressedCostPassRate : ℚ
  stressCostMultiplier : ℚ
  signPermutationP90Pf : ℚ
  robustAcrossWalkForward : Bool
  robustToCost : Bool
  beatsRandom : Bool

/-- Source `EvaluationHardeningReport`, without the references and the constant fields. -/
structure EvaluationHardeningReport where
  windowCount : Nat
  windowBars : Int
  costMultipliers : List ℚ
  stressCostMultiplier : ℚ
  slippagePricePerSide : ℚ
  randomSeedCount : Nat
  verdicts : List CandidateRobustnessVerdict
  anyRobustCandidate : Bool
  overallConclusionSafeLabel : String

def robustPassRate : ℚ := 3 / 5

def randomBenchmarkPercentile : ℚ := 9 / 10

/-- Python's `max` of some values, or another value without any. -/
def maxOr (default : ℚ) : List ℚ → ℚ
  | [] => default
  | x :: xs => xs.foldl max x

def verdictOf (dataset : BacktestDataset) (windows : List WalkForwardWindow)
    (baseCost stressCost slippagePricePerSide : ℚ) (randomSeedCount : Nat) (lead : Int)
    (candidate : RedesignCandidate) : Except RunError CandidateRobustnessVerdict := do
  let base ← runWalkForwardForCandidate dataset candidate windows baseCost slippagePricePerSide
    lead
  let stressed ← runWalkForwardForCandidate dataset candidate windows stressCost
    slippagePricePerSide lead
  let signPermP90 ← signPermutationMedianPfPercentile dataset candidate windows baseCost
    slippagePricePerSide lead randomSeedCount randomBenchmarkPercentile
  let robustWf := decide (3 ≤ base.qualifiedWindowCount) &&
    decide (robustPassRate ≤ base.passRateRounded)
  let robustCost := decide (robustPassRate ≤ stressed.passRateRounded)
  let beatsRandom := decide (signPermP90 < base.medianProfitFactorRounded)
  let verdict :=
    if base.qualifiedWindowCount < 3 then RobustnessVerdictCategory.insufficientWindows
    else if robustWf && robustCost && beatsRandom then .robustCandidateForPaperForward
    else .notRobustReject
  return {
    candidateName := candidate.candidateName
    verdict
    baseCostPassRate := base.passRateRounded
    baseCostMedianPf := base.medianProfitFactorRounded
    baseCostQualifiedWindowCount := base.qualifiedWindowCount
    stressedCostPassRate := stressed.passRateRounded
    stressCostMultiplier := stressCost
    signPermutationP90Pf := signPermP90
    robustAcrossWalkForward := robustWf
    robustToCost := robustCost
    beatsRandom }

/-- The candidates of a battery: those given, or the default ones. -/
def candidateSet (candidates : Option (List RedesignCandidate)) : List RedesignCandidate :=
  match candidates with
  | none => buildDefaultRedesignCandidates
  | some [] => buildDefaultRedesignCandidates
  | some given => given

def evaluateCandidateRobustness (dataset : BacktestDataset)
    (candidates : Option (List RedesignCandidate)) (windowBars maxWindows : Int)
    (costMultipliers : List ℚ) (slippagePricePerSide : ℚ) (randomSeedCount : Nat) (lead : Int) :
    Except RunError EvaluationHardeningReport := do
  let windows := buildWalkForwardWindows dataset.candles.length windowBars lead maxWindows
  let baseCost := costMultipliers.headD 1
  let stressCost := maxOr baseCost costMultipliers
  let verdicts ← (candidateSet candidates).mapM
    (verdictOf dataset windows baseCost stressCost slippagePricePerSide randomSeedCount lead)
  let anyRobust := verdicts.any fun v =>
    decide (v.verdict = .robustCandidateForPaperForward)
  return {
    windowCount := windows.length
    windowBars
    costMultipliers
    stressCostMultiplier := stressCost
    slippagePricePerSide
    randomSeedCount
    verdicts
    anyRobustCandidate := anyRobust
    overallConclusionSafeLabel :=
      if anyRobust then "ROBUST_CANDIDATE_FOUND_PAPER_FORWARD_NEXT"
      else "NO_ROBUST_EDGE_ACROSS_WALK_FORWARD_AND_COST_STRESS" }

/-- Source `StandardEvaluationGate`, what the gate reads of it. -/
structure StandardEvaluationGate where
  slippagePricePerSide : ℚ := 1 / 200
  costMultipliers : List ℚ := [1, 3 / 2, 2]
  randomSeedCount : Nat := 30
  windowBarsResolutions : List Int := [1000, 1400]
  minQualifiedWindows : Nat := 4

def standardEvaluationGate : StandardEvaluationGate := {}

structure ResolutionVerdictSafe where
  windowBars : Int
  windowCount : Nat
  qualifiedWindowCount : Nat
  verdict : RobustnessVerdictCategory
  baseCostPassRate : ℚ
  baseCostMedianPf : ℚ
  stressedCostPassRate : ℚ
  signPermutationP90Pf : ℚ
  beatsRandom : Bool
  robustHere : Bool

/-- Source `MultiResolutionCandidateVerdict`, without its constant fields. -/
structure MultiResolutionCandidateVerdict where
  candidateName : String
  robustAllResolutions : Bool
  perResolution : List ResolutionVerdictSafe

/-- Source `MultiResolutionGateReport`, without its constant fields. -/
structure MultiResolutionGateReport where
  resolutions : List Int
  slippagePricePerSide : ℚ
  stressCostMultiplier : ℚ
  randomSeedCount : Nat
  minQualifiedWindows : Nat
  verdicts : List MultiResolutionCandidateVerdict
  anyRobustCandidate : Bool
  overallConclusionSafeLabel : String

/-- The resolutions of a gate: those given, or the gate's own. -/
def resolutionSet (resolutions : Option (List Int)) : List Int :=
  match resolutions with
  | none => standardEvaluationGate.windowBarsResolutions
  | some [] => standardEvaluationGate.windowBarsResolutions
  | some given => given

/-- The entry of a dictionary under a key, later entries first. -/
def reportAt (reports : List (Int × EvaluationHardeningReport)) (windowBars : Int) :
    Except RunError EvaluationHardeningReport :=
  match reports.reverse.lookup windowBars with
  | some report => .ok report
  | none => .error .keyError

def verdictNamed (verdicts : List CandidateRobustnessVerdict) (name : String) :
    Except RunError CandidateRobustnessVerdict :=
  match verdicts.find? fun v => v.candidateName = name with
  | some verdict => .ok verdict
  | none => .error .stopIteration

def resolutionVerdict (reports : List (Int × EvaluationHardeningReport))
    (candidate : RedesignCandidate) (windowBars : Int) :
    Except RunError ResolutionVerdictSafe := do
  let report ← reportAt reports windowBars
  let found ← verdictNamed report.verdicts candidate.candidateName
  return {
    windowBars
    windowCount := report.windowCount
    qualifiedWindowCount := found.baseCostQualifiedWindowCount
    verdict := found.verdict
    baseCostPassRate := found.baseCostPassRate
    baseCostMedianPf := found.baseCostMedianPf
    stressedCostPassRate := found.stressedCostPassRate
    signPermutationP90Pf := found.signPermutationP90Pf
    beatsRandom := found.beatsRandom
    robustHere := decide (found.verdict = .robustCandidateForPaperForward) &&
      decide (standardEvaluationGate.minQualifiedWindows ≤ found.baseCostQualifiedWindowCount) }

def candidateVerdict (reports : List (Int × EvaluationHardeningReport)) (resolutions : List Int)
    (candidate : RedesignCandidate) : Except RunError MultiResolutionCandidateVerdict := do
  let perResolution ← resolutions.mapM (resolutionVerdict reports candidate)
  return {
    candidateName := candidate.candidateName
    robustAllResolutions := perResolution.all ResolutionVerdictSafe.robustHere
    perResolution }

def evaluateUnderStandardGate (dataset : BacktestDataset)
    (candidates : Option (List RedesignCandidate)) (maxWindows : Int)
    (windowBarsResolutions : Option (List Int)) (lead : Int) :
    Except RunError MultiResolutionGateReport := do
  let gate := standardEvaluationGate
  let resolutions := resolutionSet windowBarsResolutions
  let reports ← resolutions.mapM fun windowBars => do
    let report ← evaluateCandidateRobustness dataset (some (candidateSet candidates)) windowBars
      maxWindows gate.costMultipliers gate.slippagePricePerSide gate.randomSeedCount lead
    return (windowBars, report)
  let verdicts ← (candidateSet candidates).mapM (candidateVerdict reports resolutions)
  let anyRobust := verdicts.any MultiResolutionCandidateVerdict.robustAllResolutions
  return {
    resolutions
    slippagePricePerSide := gate.slippagePricePerSide
    stressCostMultiplier := maxOr 1 gate.costMultipliers
    randomSeedCount := gate.randomSeedCount
    minQualifiedWindows := gate.minQualifiedWindows
    verdicts
    anyRobustCandidate := anyRobust
    overallConclusionSafeLabel :=
      if anyRobust then
        "ROBUST_CANDIDATE_FOUND_ACROSS_ALL_RESOLUTIONS_PAPER_FORWARD_NEXT"
      else "NO_ROBUST_EDGE_ACROSS_RESOLUTIONS_COST_STRESS_AND_SIGN_PERMUTATION" }

end FxStrategyLab.Redesign
