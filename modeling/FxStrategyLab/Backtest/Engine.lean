import FxStrategyLab.Backtest.Dataset
import FxStrategyLab.Backtest.SignalEngine

/-!
# The GMO backtest engine

This file embeds `run_synthetic_backtest` of `gmo_strategy_backtest_engine.py`: one paper
trade at a time over the bars behind the warmup.  The engine reads the candle, the spread
and the session of a bar by position.  The state of the run also notes, for each bar, which
records its decision and the spread cost of its entry came from.
-/

namespace FxStrategyLab.Backtest

/-- A list index out of range. -/
inductive IndexError
  | outOfRange

/-- The element of a list at a position. -/
def item {α : Type} (xs : List α) (index : Nat) : Except IndexError α :=
  match xs[index]? with
  | some a => .ok a
  | none => .error .outOfRange

/-- Source `ExitPolicyCandidate`, what a run reads of it; the fields carry the
constructor's checks. -/
structure ExitPolicyCandidate where
  tpDistanceSynthetic : ℚ
  slDistanceSynthetic : ℚ
  maxHoldBars : Int
  exitOnOppositeSignal : Bool := true
  exitOnEndOfWindow : Bool := true
  distances_pos : 0 < tpDistanceSynthetic ∧ 0 < slDistanceSynthetic
  hold_pos : 0 < maxHoldBars

structure BacktestEnvironmentAssumption where
  marketSafeLabel : MarketSafeLabel := .marketSafe
  tickerFreshSafeLabel : TickerFreshSafeLabel := .tickerFresh
  guardSafeLabel : GuardSafeLabel := .guardPass
  volatilitySafeLabelOverride : Option VolatilitySafeLabel := none
  trendSafeLabelOverride : Option TrendSafeLabel := none
  momentumSafeLabelOverride : Option MomentumSafeLabel := none

/-- The keyword arguments of `run_synthetic_backtest`. -/
structure BacktestOptions where
  spreadIncluded : Bool := true
  environment : BacktestEnvironmentAssumption := {}
  entryMomentumStrict : Bool := false
  oppositeSignalDebounceBars : Int := 1
  spreadCostMultiplier : ℚ := 1
  slippagePricePerSide : ℚ := 0

def spreadCategoryToSafeLabel : SpreadCategorySafeLabel → SpreadSafeLabel
  | .spreadCategoryNormal => .spreadWithinLimit
  | .spreadCategoryWide => .spreadOutOfLimit
  | .spreadCategoryUnknown => .spreadUnknown

def sessionToSafeLabel : SessionAllowedSafeLabel → SessionSafeLabel
  | .sessionAllowed => .sessionAllowed
  | .sessionBlocked => .sessionBlocked
  | .sessionUnknown => .sessionUnknown

def trendLookbackBars : Nat := 3

/-- Source `derive_trend_momentum_labels`; the closes with the newest first. -/
def deriveTrendMomentumLabels (newestFirst : List ℚ) : TrendSafeLabel × MomentumSafeLabel :=
  match newestFirst[0]?, newestFirst[1]?, newestFirst[trendLookbackBars]? with
  | some close, some previous, some lookback =>
      let momentum :=
        if previous < close then MomentumSafeLabel.momentumUp
        else if close < previous then .momentumDown
        else .momentumFlat
      if lookback < close then (.uptrend, momentum)
      else if close < lookback then (.downtrend, momentum)
      else (.range, momentum)
  | _, _, _ => (.trendUnknown, .momentumUnknown)

def closesUpTo (dataset : BacktestDataset) (barIndex : Nat) : List ℚ :=
  ((dataset.candles.take (barIndex + 1)).map BacktestCandleRecord.closeValue).reverse

/-- The engine input of a bar with a spread and a session record. -/
def signalInputOf (closes : List ℚ) (spread : BacktestSpreadRecord)
    (session : BacktestSessionRecord) (positionOpen : Bool)
    (environment : BacktestEnvironmentAssumption) : StrategySignalSafeInput where
  trendSafeLabel :=
    environment.trendSafeLabelOverride.getD (deriveTrendMomentumLabels closes).1
  momentumSafeLabel :=
    environment.momentumSafeLabelOverride.getD (deriveTrendMomentumLabels closes).2
  volatilitySafeLabel := environment.volatilitySafeLabelOverride.getD .volatilityNormal
  spreadSafeLabel := spreadCategoryToSafeLabel spread.spreadCategory
  tickerFreshSafeLabel := environment.tickerFreshSafeLabel
  marketSafeLabel := environment.marketSafeLabel
  sessionSafeLabel := sessionToSafeLabel session.sessionSafeLabel
  guardSafeLabel := environment.guardSafeLabel
  positionContextSafeLabel :=
    if positionOpen then .onePositionContext else .noPositionContext

/-- An engine input with the records it was made of. -/
structure BarInput where
  signalInput : StrategySignalSafeInput
  spread : BacktestSpreadRecord
  session : BacktestSessionRecord

def convertBarToSignalInput (dataset : BacktestDataset) (barIndex : Nat) (positionOpen : Bool)
    (environment : BacktestEnvironmentAssumption) : Except IndexError BarInput := do
  let spread ← item dataset.spreads barIndex
  let session ← item dataset.sessions barIndex
  return {
    signalInput :=
      signalInputOf (closesUpTo dataset barIndex) spread session positionOpen environment
    spread
    session }

inductive PaperSide
  | paperLong
  | paperShort
deriving DecidableEq

def PaperSide.direction : PaperSide → ℚ
  | paperLong => 1
  | paperShort => -1

inductive BacktestExitReason
  | exitTakeProfit
  | exitStopLoss
  | exitMaxHold
  | exitOppositeSignal
  | exitEndOfWindow
deriving DecidableEq

structure OpenPaperTrade where
  side : PaperSide
  entrySignal : AutoPreviewSignal
  entryClose : ℚ
  entryBar : Nat
  spreadCost : ℚ

structure BacktestTradeEvent where
  tradeIndex : Nat
  side : PaperSide
  entrySignal : AutoPreviewSignal
  exitReason : BacktestExitReason
  holdDurationBars : Int
  syntheticPnlValue : ℚ
  syntheticSpreadCostValue : ℚ

/-- What a bar was evaluated with: the records behind its decision, and the one behind the
spread cost of the trade that it opened. -/
structure BarEvaluation where
  barIndex : Nat
  candle : BacktestCandleRecord
  spread : BacktestSpreadRecord
  session : BacktestSessionRecord
  decision : StrategySignalDecision
  entrySpread : Option BacktestSpreadRecord

/-- The local variables of `run_synthetic_backtest`. -/
structure BacktestState where
  trades : List BacktestTradeEvent := []
  openTrade : Option OpenPaperTrade := none
  oppositeStreak : Nat := 0
  evaluations : List BarEvaluation := []

section Engine

variable (dataset : BacktestDataset) (exitPolicy : ExitPolicyCandidate)
  (options : BacktestOptions)

def BacktestState.closeTrade (state : BacktestState) (trade : OpenPaperTrade)
    (exitReason : BacktestExitReason) (exitPrice : ℚ) (barIndex : Nat) : BacktestState :=
  let gross := (exitPrice - trade.entryClose) * trade.side.direction
  { state with
    trades := state.trades ++
      [{ tradeIndex := state.trades.length
         side := trade.side
         entrySignal := trade.entrySignal
         exitReason
         holdDurationBars := (barIndex : Int) - trade.entryBar
         syntheticPnlValue :=
           gross - trade.spreadCost - 2 * options.slippagePricePerSide
         syntheticSpreadCostValue := trade.spreadCost }]
    openTrade := none }

def OpenPaperTrade.hits (trade : OpenPaperTrade) (candle : BacktestCandleRecord) :
    Bool × Bool :=
  match trade.side with
  | .paperLong =>
      (candle.lowValue ≤ trade.entryClose - exitPolicy.slDistanceSynthetic,
        trade.entryClose + exitPolicy.tpDistanceSynthetic ≤ candle.highValue)
  | .paperShort =>
      (trade.entryClose + exitPolicy.slDistanceSynthetic ≤ candle.highValue,
        candle.lowValue ≤ trade.entryClose - exitPolicy.tpDistanceSynthetic)

def PaperSide.opposes (side : PaperSide) (trend : TrendSafeLabel) : Bool :=
  match side with
  | paperLong => trend = .downtrend
  | paperShort => trend = .uptrend

/-- A bar with an open trade: its exits, in the order of the source. -/
def BacktestState.manageTrade (state : BacktestState) (trade : OpenPaperTrade)
    (candle : BacktestCandleRecord) (barIndex : Nat) : BacktestState :=
  let direction := trade.side.direction
  let (hitSl, hitTp) := trade.hits exitPolicy candle
  let trend := (deriveTrendMomentumLabels (closesUpTo dataset barIndex)).1
  let streak := if trade.side.opposes trend then state.oppositeStreak + 1 else 0
  let state := { state with oppositeStreak := streak }
  if hitSl then
    state.closeTrade options trade .exitStopLoss
      (trade.entryClose - direction * exitPolicy.slDistanceSynthetic) barIndex
  else if hitTp then
    state.closeTrade options trade .exitTakeProfit
      (trade.entryClose + direction * exitPolicy.tpDistanceSynthetic) barIndex
  else if exitPolicy.maxHoldBars ≤ (barIndex : Int) - trade.entryBar then
    state.closeTrade options trade .exitMaxHold candle.closeValue barIndex
  else if exitPolicy.exitOnOppositeSignal ∧
      max 1 options.oppositeSignalDebounceBars ≤ (streak : Int) then
    state.closeTrade options trade .exitOppositeSignal candle.closeValue barIndex
  else state

/-- The decision opens a trade: an entry is proposed, and the momentum is aligned where
the options ask for it. -/
def opensTrade (signalInput : StrategySignalSafeInput)
    (decision : StrategySignalDecision) : Bool :=
  let isBuy := decide (decision.autoPreviewSignal = .buy)
  let momentumAligned :=
    if isBuy then decide (signalInput.momentumSafeLabel = .momentumUp)
    else decide (signalInput.momentumSafeLabel = .momentumDown)
  decide (decision.strategyDecisionCategory = .entryPreviewProposed) &&
    (!options.entryMomentumStrict || momentumAligned)

def spreadCostOf (record : BacktestSpreadRecord) : ℚ :=
  if options.spreadIncluded then record.spreadValue.getD 0 * options.spreadCostMultiplier
  else 0

/-- One turn of the loop. -/
def backtestStep (state : BacktestState) (barIndex : Nat) :
    Except IndexError BacktestState := do
  let candle ← item dataset.candles barIndex
  let input ← convertBarToSignalInput dataset barIndex state.openTrade.isSome
    options.environment
  let decision := evaluateStrategySignal input.signalInput
  let evaluated (entrySpread : Option BacktestSpreadRecord) : BarEvaluation :=
    { barIndex, candle, spread := input.spread, session := input.session, decision,
      entrySpread }
  match state.openTrade with
  | some trade =>
      let managed := state.manageTrade dataset exitPolicy options trade candle barIndex
      return { managed with evaluations := state.evaluations ++ [evaluated none] }
  | none =>
      if opensTrade options input.signalInput decision then do
        let spreadRecord ← item dataset.spreads barIndex
        return {
          state with
          openTrade := some
            { side :=
                if decision.autoPreviewSignal = .buy then .paperLong else .paperShort
              entrySignal := decision.autoPreviewSignal
              entryClose := candle.closeValue
              entryBar := barIndex
              spreadCost := spreadCostOf options spreadRecord }
          oppositeStreak := 0
          evaluations := state.evaluations ++ [evaluated (some spreadRecord)] }
      else return { state with evaluations := state.evaluations ++ [evaluated none] }

def evaluatedBars : List Nat :=
  List.range' dataset.warmupBars.toNat (dataset.candles.length - dataset.warmupBars.toNat)

/-- The loop and the exit at the end of the window. -/
def runBars : Except IndexError BacktestState := do
  let state ← (evaluatedBars dataset).foldlM (backtestStep dataset exitPolicy options) {}
  match state.openTrade with
  | some trade =>
      if exitPolicy.exitOnEndOfWindow then do
        let lastIndex := dataset.candles.length - 1
        let last ← item dataset.candles lastIndex
        return state.closeTrade options trade .exitEndOfWindow last.closeValue lastIndex
      else return state
  | none => return state

/-- Source `GmoBacktestRunStatus`, as far as a run gives it. -/
inductive GmoBacktestRunStatus
  | backtestSyntheticCompleted
  | backtestSyntheticInvalidDataset

def distribution (labels : List String) : List (String × Nat) :=
  (labels.eraseDups.map fun label => (label, labels.count label)).mergeSort
    fun a b => decide (a.1 ≤ b.1)

/-- Source `BacktestRunResult`, without its constant fields, and what the run notes. -/
structure BacktestRunResult where
  status : GmoBacktestRunStatus
  blockedReasons : List String
  barsProcessed : Int
  trades : List BacktestTradeEvent
  signalDistribution : List (String × Nat)
  categoryDistribution : List (String × Nat)
  blockReasonDistribution : List (String × Nat)
  spreadIncluded : Bool
  syntheticFixtureOnly : Bool
  evaluations : List BarEvaluation

def completedRun (state : BacktestState) : BacktestRunResult :=
  let decisions := state.evaluations.map BarEvaluation.decision
  { status := .backtestSyntheticCompleted
    blockedReasons := []
    barsProcessed := (dataset.candles.length : Int) - dataset.warmupBars
    trades := state.trades
    signalDistribution :=
      distribution (decisions.map fun decision => decision.autoPreviewSignal.value)
    categoryDistribution :=
      distribution (decisions.map fun decision => decision.strategyDecisionCategory.value)
    blockReasonDistribution :=
      distribution
        ((decisions.map StrategySignalDecision.blockReasonSafeLabel).filter (· ≠ ""))
    spreadIncluded := options.spreadIncluded
    syntheticFixtureOnly := dataset.syntheticFixture
    evaluations := state.evaluations }

def runSyntheticBacktest : Except IndexError BacktestRunResult :=
  let validation := validateBacktestDataset dataset
  if validation.status ∉ datasetValidStatuses then
    .ok
      { status := .backtestSyntheticInvalidDataset
        blockedReasons := validation.blockedReasons
        barsProcessed := 0
        trades := []
        signalDistribution := []
        categoryDistribution := []
        blockReasonDistribution := []
        spreadIncluded := options.spreadIncluded
        syntheticFixtureOnly := true
        evaluations := [] }
  else do
    let state ← runBars dataset exitPolicy options
    return completedRun dataset options state

end Engine

end FxStrategyLab.Backtest
