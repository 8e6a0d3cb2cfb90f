import FxStrategyLab.Backtest.Engine
import FxStrategyLab.Redesign.Features

/-!
# The redesign backtest

This file embeds the entry rules, the exit configurations, the candidates and
`run_redesign_backtest` of `gmo_strategy_redesign.py`.  A closed trade is kept with the bar
of its closing, which the source hands to `_close`.  The labels of a candidate that no run
reads are left out.
-/

namespace FxStrategyLab.Redesign

open Backtest (BacktestDataset BacktestCandleRecord BacktestSpreadRecord BacktestExitReason
  PaperSide SpreadCategorySafeLabel SessionAllowedSafeLabel)
open Library.Series (indices)

inductive RedesignEntryFamily
  | trendContinuation
  | breakout
  | meanReversionRange
  | dualConfirmation
  | sessionMomentum

inductive RedesignEntrySide
  | redesignEntryLong
  | redesignEntryShort
  | redesignNoEntry
deriving DecidableEq

/-- Source `RedesignEntryDecision`, without its constant fields. -/
structure RedesignEntryDecision where
  entrySide : RedesignEntrySide
  blockReasonSafeLabel : String

def noEntry (reason : String) : RedesignEntryDecision :=
  { entrySide := .redesignNoEntry, blockReasonSafeLabel := reason }

/-- The decision of a rule with a condition for each side. -/
def sided (isLong isShort : Bool) (reason : String) : RedesignEntryDecision :=
  if isLong then { entrySide := .redesignEntryLong, blockReasonSafeLabel := "" }
  else if isShort then { entrySide := .redesignEntryShort, blockReasonSafeLabel := "" }
  else noEntry reason

def familyRule (family : RedesignEntryFamily) (features : RedesignFeatures)
    (isSessionOpenBar : Bool) : RedesignEntryDecision :=
  match family with
  | .trendContinuation =>
      sided (features.trend = .up ∧ features.momentum = .up)
        (features.trend = .down ∧ features.momentum = .down)
        "REDESIGN_NO_TREND_MOMENTUM_ALIGNMENT"
  | .breakout =>
      sided (features.breakout = .up ∧ features.trend ≠ .down)
        (features.breakout = .down ∧ features.trend ≠ .up) "REDESIGN_NO_BREAKOUT"
  | .meanReversionRange =>
      if features.trend ≠ .range then noEntry "REDESIGN_NOT_RANGE_REGIME"
      else
        sided (features.overextension = .down) (features.overextension = .up)
          "REDESIGN_NO_OVEREXTENSION"
  | .sessionMomentum =>
      if isSessionOpenBar = false then noEntry "REDESIGN_NOT_SESSION_OPEN_BAR"
      else
        sided (features.momentum = .up) (features.momentum = .down)
          "REDESIGN_NO_SESSION_MOMENTUM_DIRECTION"
  | .dualConfirmation =>
      sided (features.trend = .up ∧ features.breakout = .up)
        (features.trend = .down ∧ features.breakout = .down) "REDESIGN_NO_DUAL_CONFIRMATION"

def redesignEntryDecision (family : RedesignEntryFamily) (features : RedesignFeatures)
    (spreadWithinLimit sessionAllowed isSessionOpenBar : Bool) : RedesignEntryDecision :=
  if features.ready = false then noEntry "REDESIGN_FEATURES_NOT_READY"
  else if spreadWithinLimit = false then noEntry "REDESIGN_BLOCK_SPREAD_NOT_WITHIN_LIMIT"
  else if sessionAllowed = false then noEntry "REDESIGN_BLOCK_SESSION_NOT_ALLOWED"
  else if features.atrLike ≤ 0 then noEntry "REDESIGN_BLOCK_ATR_NOT_POSITIVE"
  else familyRule family features isSessionOpenBar

def epochMsMin : Int := 1000000000000

def epochMsEnd : Int := 253402300800000

/-- Source `_bar_jst_hour`: no hour for synthetic ticks, and no datetime behind year 9999. -/
def barJstHour (timestampMs : Int) : Except RunError (Option Int) :=
  if timestampMs < epochMsMin then .ok none
  else if epochMsEnd ≤ timestampMs then .error .valueError
  else .ok (some ((timestampMs / 3600000 % 24 + 9) % 24))

/-- Source `RedesignExitConfig`; the fields carry the constructor's checks. -/
structure RedesignExitConfig where
  name : String
  tpAtrMult : ℚ
  slAtrMult : ℚ
  maxHoldBars : Int
  oppositeDebounceBars : Int
  mults_pos : 0 < tpAtrMult ∧ 0 < slAtrMult
  hold_pos : 0 < maxHoldBars
  debounce_pos : 1 ≤ oppositeDebounceBars

def exitTight : RedesignExitConfig where
  name := "EXIT_TIGHT_ATR"
  tpAtrMult := 1
  slAtrMult := 1
  maxHoldBars := 12
  oppositeDebounceBars := 2
  mults_pos := by decide +kernel
  hold_pos := by decide
  debounce_pos := by decide

def exitRide : RedesignExitConfig where
  name := "EXIT_RIDE_ATR"
  tpAtrMult := 5 / 2
  slAtrMult := 1
  maxHoldBars := 48
  oppositeDebounceBars := 3
  mults_pos := by decide +kernel
  hold_pos := by decide
  debounce_pos := by decide

/-- Source `RedesignCandidate`, what a run reads of it. -/
structure RedesignCandidate where
  candidateName : String
  family : RedesignEntryFamily
  exitConfig : RedesignExitConfig
  featureConfig : RedesignFeatureConfig := {}
  volRegimeMode : String := "OFF"
  volRegimeLookback : Int := 200

def RedesignEntryFamily.value : RedesignEntryFamily → String
  | trendContinuation => "TREND_CONTINUATION"
  | breakout => "BREAKOUT"
  | meanReversionRange => "MEAN_REVERSION_RANGE"
  | dualConfirmation => "DUAL_CONFIRMATION"
  | sessionMomentum => "SESSION_MOMENTUM"

def candidatesForFamilies (families : List RedesignEntryFamily) : List RedesignCandidate :=
  families.flatMap fun family =>
    [exitTight, exitRide].map fun exitConfig =>
      { candidateName := family.value ++ "__" ++ exitConfig.name, family, exitConfig }

def buildDefaultRedesignCandidates : List RedesignCandidate :=
  candidatesForFamilies [.trendContinuation, .breakout, .meanReversionRange, .dualConfirmation]

/-- The keyword arguments of `run_redesign_backtest`. -/
structure RedesignOptions where
  spreadIncluded : Bool := true
  spreadCostMultiplier : ℚ := 1
  slippagePricePerSide : ℚ := 0
  randomizeSideSeed : Option Int := none

structure OpenRedesignTrade where
  side : PaperSide
  entryClose : ℚ
  entryBar : Int
  spreadCost : ℚ
  tpDistance : ℚ
  slDistance : ℚ

/-- Source `BacktestTradeEvent`, as a redesign run fills it. -/
structure RedesignTradeEvent where
  tradeIndex : Nat
  side : PaperSide
  entrySignal : RedesignEntrySide
  exitReason : BacktestExitReason
  holdDurationBars : Int
  syntheticPnlValue : ℚ
  syntheticSpreadCostValue : ℚ

structure ClosedTrade where
  bar : Int
  event : RedesignTradeEvent

/-- The local variables of `run_redesign_backtest`. -/
structure RedesignState where
  trades : List ClosedTrade := []
  openTrade : Option OpenRedesignTrade := none
  oppositeStreak : Int := 0
  sideState : Int
  entrySideLabels : List RedesignEntrySide := []
  blockReasons : List String := []

def spreadWithin (category : SpreadCategorySafeLabel) : Bool :=
  category = .spreadCategoryNormal

def exitTouch (side : PaperSide) (candleHigh candleLow entryClose slDistance tpDistance
    barSpread : ℚ) : Bool × Bool :=
  match side with
  | .paperLong =>
      (candleLow ≤ entryClose - slDistance, entryClose + tpDistance ≤ candleHigh)
  | .paperShort =>
      (entryClose + slDistance ≤ candleHigh + barSpread,
        candleLow + barSpread ≤ entryClose - tpDistance)

/-- Source `_next_side_is_long`: the generator's next state and its bit. -/
def nextSideIsLong (sideState : Int) : Int × Bool :=
  let next := (sideState * 1103515245 + 12345) % 2147483648
  (next, next / 65536 % 2 = 1)

section Run

variable (dataset : BacktestDataset) (candidate : RedesignCandidate)
  (options : RedesignOptions)

variable (state : RedesignState)

def RedesignState.close (trade : OpenRedesignTrade)
    (reason : BacktestExitReason) (exitPrice : ℚ) (bar : Int) : RedesignState :=
  { state with
    trades := state.trades ++
      [{ bar
         event :=
          { tradeIndex := state.trades.length
            side := trade.side
            entrySignal :=
              if trade.side = .paperLong then .redesignEntryLong else .redesignEntryShort
            exitReason := reason
            holdDurationBars := bar - trade.entryBar
            syntheticPnlValue :=
              (exitPrice - trade.entryClose) * trade.side.direction - trade.spreadCost -
                2 * options.slippagePricePerSide
            syntheticSpreadCostValue := trade.spreadCost } }]
    openTrade := none }

/-- The trend goes against a side. -/
def opposes (side : PaperSide) (trend : RedesignTrendRegime) : Bool :=
  match side with
  | .paperLong => trend = .down
  | .paperShort => trend = .up

/-- A bar with an open trade: its exits, in the order of the source. -/
def RedesignState.manage (trade : OpenRedesignTrade)
    (candle : BacktestCandleRecord) (spread : BacktestSpreadRecord)
    (features : RedesignFeatures) (bar : Int) : RedesignState :=
  let exitConfig := candidate.exitConfig
  let (hitSl, hitTp) := exitTouch trade.side candle.highValue candle.lowValue trade.entryClose
    trade.slDistance trade.tpDistance (spread.spreadValue.getD 0)
  let streak := if opposes trade.side features.trend then state.oppositeStreak + 1 else 0
  let state := { state with oppositeStreak := streak }
  if hitSl then
    state.close options trade .exitStopLoss
      (trade.entryClose - trade.side.direction * trade.slDistance) bar
  else if hitTp then
    state.close options trade .exitTakeProfit
      (trade.entryClose + trade.side.direction * trade.tpDistance) bar
  else if exitConfig.maxHoldBars ≤ bar - trade.entryBar then
    state.close options trade .exitMaxHold candle.closeValue bar
  else if exitConfig.oppositeDebounceBars ≤ streak then
    state.close options trade .exitOppositeSignal candle.closeValue bar
  else state

def regimeBlocks (mode : String) (isHighVol : Bool) : Bool :=
  (mode = "HIGH" && !isHighVol) || (mode = "LOW" && isHighVol)

def flagAt (flags : Option (List Bool)) (bar : Int) : Except RunError (Option Bool) :=
  match flags with
  | none => .ok none
  | some flags => do
      let flag ← item flags bar
      return some flag

def entrySideOf (decision : RedesignEntryDecision) (sideState : Int) : Int × PaperSide :=
  match options.randomizeSideSeed with
  | some _ =>
      let (next, isLong) := nextSideIsLong sideState
      (next, if isLong then .paperLong else .paperShort)
  | none =>
      (sideState,
        if decision.entrySide = .redesignEntryLong then .paperLong else .paperShort)

/-- An entry at a bar. -/
def RedesignState.enter (decision : RedesignEntryDecision)
    (candle : BacktestCandleRecord) (spread : BacktestSpreadRecord)
    (features : RedesignFeatures) (bar : Int) : RedesignState :=
  let (sideState, side) := entrySideOf options decision state.sideState
  { state with
    openTrade := some
      { side
        entryClose := candle.closeValue
        entryBar := bar
        spreadCost :=
          if options.spreadIncluded then
            spread.spreadValue.getD 0 * options.spreadCostMultiplier
          else 0
        tpDistance := candidate.exitConfig.tpAtrMult * features.atrLike
        slDistance := candidate.exitConfig.slAtrMult * features.atrLike }
    oppositeStreak := 0
    sideState }

/-- The label and the block reason of a decision. -/
def RedesignState.note (decision : RedesignEntryDecision) :
    RedesignState :=
  { state with
    entrySideLabels := state.entrySideLabels ++ [decision.entrySide]
    blockReasons := state.blockReasons ++
      (if decision.blockReasonSafeLabel = "" then [] else [decision.blockReasonSafeLabel]) }

/-- A decision leads to an entry, unless it has no side or the regime turns the bar down. -/
def RedesignState.follow (flags : Option (List Bool))
    (decision : RedesignEntryDecision) (candle : BacktestCandleRecord)
    (spread : BacktestSpreadRecord) (features : RedesignFeatures) (bar : Int) :
    Except RunError RedesignState :=
  if decision.entrySide = .redesignNoEntry then .ok state
  else do
    let flag ← flagAt flags bar
    if flag.any (regimeBlocks candidate.volRegimeMode) then
      return { state with blockReasons := state.blockReasons ++ ["REDESIGN_BLOCK_VOL_REGIME"] }
    else return state.enter candidate options decision candle spread features bar

/-- A bar without an open trade: its decision, and the entry it may lead to. -/
def RedesignState.decide (flags : Option (List Bool))
    (candle : BacktestCandleRecord) (features : RedesignFeatures) (bar : Int) :
    Except RunError RedesignState := do
  let hour ← barJstHour candle.timestamp
  let spread ← item dataset.spreads bar
  let session ← item dataset.sessions bar
  let decision := redesignEntryDecision candidate.family features
    (spreadWithin spread.spreadCategory)
    (session.sessionSafeLabel = .sessionAllowed)
    (hour = some candidate.featureConfig.sessionOpenJstHour)
  (state.note decision).follow candidate options flags decision candle spread features bar

def featuresAt (config : RedesignFeatureConfig) (bar : Int) : Except RunError RedesignFeatures :=
  computeRedesignFeatures (dataset.candles.map BacktestCandleRecord.closeValue)
    (dataset.candles.map BacktestCandleRecord.highValue)
    (dataset.candles.map BacktestCandleRecord.lowValue) bar config

/-- One turn of the loop. -/
def redesignStep (flags : Option (List Bool)) (state : RedesignState) (bar : Int) :
    Except RunError RedesignState := do
  let candle ← item dataset.candles bar
  let features ← featuresAt dataset candidate.featureConfig bar
  match state.openTrade with
  | some trade => do
      let spread ← item dataset.spreads bar
      return state.manage candidate options trade candle spread features bar
  | none => state.decide dataset candidate options flags candle features bar

def regimeFlags : Except RunError (Option (List Bool)) :=
  if candidate.volRegimeMode ≠ "OFF" then do
    let flags ← highVolRegimeFlags (dataset.candles.map BacktestCandleRecord.highValue)
      (dataset.candles.map BacktestCandleRecord.lowValue)
      candidate.featureConfig.atrLookback candidate.volRegimeLookback
    return some flags
  else return none

def startState : RedesignState :=
  { sideState := options.randomizeSideSeed.getD 0 % 2147483648 }

/-- The closing behind the loop: a trade that is still open closes at the last candle. -/
def closeAtEnd : Except RunError RedesignState :=
  match state.openTrade with
  | none => .ok state
  | some trade => do
      let lastIndex : Int := dataset.candles.length - 1
      let last ← item dataset.candles lastIndex
      return state.close options trade .exitEndOfWindow last.closeValue lastIndex

/-- Source `BacktestRunResult`, as a redesign run fills it. -/
structure RedesignRunResult where
  barsProcessed : Int
  closings : List ClosedTrade
  entrySideLabels : List RedesignEntrySide
  blockReasons : List String
  spreadIncluded : Bool

def RedesignRunResult.trades (result : RedesignRunResult) : List RedesignTradeEvent :=
  result.closings.map ClosedTrade.event

def runRedesignBacktest : Except RunError RedesignRunResult := do
  let flags ← regimeFlags dataset candidate
  let looped ← (indices dataset.warmupBars dataset.candles.length).foldlM
    (redesignStep dataset candidate options flags) (startState options)
  let state ← closeAtEnd dataset options looped
  return {
    barsProcessed := dataset.candles.length - dataset.warmupBars
    closings := state.trades
    entrySideLabels := state.entrySideLabels
    blockReasons := state.blockReasons
    spreadIncluded := options.spreadIncluded }

end Run

end FxStrategyLab.Redesign
