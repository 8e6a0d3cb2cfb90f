import FxStrategyLab.Library.Rounding

/-!
# The candle backtest

This file embeds `run_backtest` of `backtest_service.py` with its helpers, `pip_size` and
`candles_to_frame` of `market_data_service.py`, and the schemas they read.  Numbers stand by
their exact value and a time by its instant.  The strategy is an argument of the run, and so
is the generator of demo candles, which no run over given candles calls.  The chart notes its
signals as marks of an instant; the storing of a run and its warnings are left out.  The
rounding of reported values is the last argument of the functions that round: Python's
`round`, unless a run asks for exact values.
-/

namespace FxStrategyLab.CandleBacktest

open Library.Rounding (round)

abbrev Rounding := ℚ → Nat → ℚ

def exact : Rounding := fun value _ => value

structure Candle where
  timestamp : Int
  openPrice : ℚ
  high : ℚ
  low : ℚ
  close : ℚ
  volume : ℚ := 0
deriving DecidableEq

inductive Side
  | buy
  | sell
deriving DecidableEq

inductive Action
  | buy
  | sell
  | hold
deriving DecidableEq

/-- The side of an action, for one that is not `hold`. -/
def Action.side : Action → Option Side
  | buy => some .buy
  | sell => some .sell
  | hold => none

structure StrategySignal where
  action : Action
  reason : String

inductive StrategyType
  | movingAverageCross
  | rsiReversal
  | breakout
  | bollingerReversion
  | marketStructureReversion
deriving DecidableEq

/-- Source `StrategyConfig`; the fields carry its checks. -/
structure StrategyConfig where
  strategyType : StrategyType := .movingAverageCross
  shortPeriod : Nat := 10
  longPeriod : Nat := 30
  rsiPeriod : Nat := 14
  oversold : ℚ := 30
  overbought : ℚ := 70
  breakoutPeriod : Nat := 20
  bollingerPeriod : Nat := 20
  bollingerSigma : ℚ := 2
  swingLookback : Nat := 12
  swingWickRatio : ℚ := 2 / 5
  periods_bounded : (2 ≤ shortPeriod ∧ shortPeriod ≤ 200) ∧
    (3 ≤ longPeriod ∧ longPeriod ≤ 500) ∧ (2 ≤ rsiPeriod ∧ rsiPeriod ≤ 100) ∧
    (2 ≤ breakoutPeriod ∧ breakoutPeriod ≤ 200) ∧
    (2 ≤ bollingerPeriod ∧ bollingerPeriod ≤ 200) ∧
    (2 ≤ swingLookback ∧ swingLookback ≤ 200)
  levels_bounded : (1 ≤ oversold ∧ oversold ≤ 49) ∧ (51 ≤ overbought ∧ overbought ≤ 99) ∧
    (0 < bollingerSigma ∧ bollingerSigma ≤ 5) ∧ (0 < swingWickRatio ∧ swingWickRatio ≤ 1)
  validate_periods : shortPeriod < longPeriod ∧ oversold < overbought

/-- Source `ExecutionConfig`; the fields carry its checks. -/
structure ExecutionConfig where
  initialCapital : ℚ := 1000000
  fixedUnits : Option ℚ := some 1000
  riskPercent : ℚ := 1
  stopLossPips : ℚ := 30
  takeProfitPips : ℚ := 60
  maxLossPercent : ℚ := 2
  spreadPips : ℚ := 6 / 5
  commissionPerTrade : ℚ := 0
  slippagePips : ℚ := 1 / 5
  leverage : ℚ := 25
  capital_pos : 0 < initialCapital
  units_pos : ∀ units ∈ fixedUnits, 0 < units
  percents_bounded : (0 < riskPercent ∧ riskPercent ≤ 5) ∧
    (0 < maxLossPercent ∧ maxLossPercent ≤ 10)
  distances_pos : 0 < stopLossPips ∧ 0 < takeProfitPips
  costs_bounded : (0 ≤ spreadPips ∧ spreadPips ≤ 20) ∧ 0 ≤ commissionPerTrade ∧
    (0 ≤ slippagePips ∧ slippagePips ≤ 20)
  leverage_bounded : 1 ≤ leverage ∧ leverage ≤ 100

theorem default_percents : ((0 : ℚ) < 1 ∧ (1 : ℚ) ≤ 5) ∧ (0 : ℚ) < 2 ∧ (2 : ℚ) ≤ 10 := by
  norm_num

theorem default_distances : (0 : ℚ) < 30 ∧ (0 : ℚ) < 60 := by
  norm_num

theorem default_leverage : (1 : ℚ) ≤ 25 ∧ (25 : ℚ) ≤ 100 := by
  norm_num

structure BacktestRequest where
  symbol : String := "USD_JPY"
  timeframe : String := "H1"
  start : Int
  stop : Int
  strategy : StrategyConfig
  execution : ExecutionConfig
  candles : Option (List Candle) := none
  validate_range : start < stop

structure TradeResult where
  symbol : String
  side : Side
  entryTime : Int
  exitTime : Int
  entryPrice : ℚ
  exitPrice : ℚ
  units : ℚ
  pnl : ℚ
  entryReason : String
  exitReason : String

structure EquityPoint where
  timestamp : Int
  equity : ℚ

inductive ChartSignal
  | buy
  | sell
  | exit

structure ChartPoint extends Candle where
  signal : Option ChartSignal := none

structure BacktestMetrics where
  totalPnl : ℚ
  returnPercent : ℚ
  winRate : ℚ
  tradeCount : Nat
  averageWin : ℚ
  averageLoss : ℚ
  profitFactor : Option ℚ
  maxDrawdown : ℚ
  maxDrawdownPercent : ℚ
  maxConsecutiveWins : Nat
  maxConsecutiveLosses : Nat
  marginCallTriggered : Bool

/-- The symbol ends in `JPY`. -/
def endsWithJpy (symbol : String) : Bool :=
  "JPY".toList.isSuffixOf symbol.toList

def pipSize (symbol : String) : ℚ :=
  if endsWithJpy symbol then 1 / 100 else 1 / 10000

/-- The first candle of every timestamp. -/
def dropDuplicates (candles : List Candle) : List Candle :=
  candles.foldl
    (fun kept candle =>
      if kept.any fun other => other.timestamp = candle.timestamp then kept
      else kept ++ [candle]) []

def candlesToFrame (candles : List Candle) : List Candle :=
  dropDuplicates (candles.mergeSort fun a b => a.timestamp ≤ b.timestamp)

inductive ZeroDivisionError
  | floatDivision

structure OpenPosition where
  side : Side
  entryTime : Int
  entryPrice : ℚ
  units : ℚ
  stopLoss : ℚ
  takeProfit : ℚ
  entryReason : String

def pricePnl (symbol : String) (side : Side) (entry exitPrice units : ℚ) :
    Except ZeroDivisionError ℚ :=
  let priceDelta := if side = .buy then exitPrice - entry else entry - exitPrice
  if endsWithJpy symbol then
    if exitPrice = 0 then .error .floatDivision
    else .ok (priceDelta * units * (1 / exitPrice))
  else .ok (priceDelta * units)

/-- Source `_entry_price`. -/
def entryPriceOf (close : ℚ) (side : Side) (pip spread slippage : ℚ) : ℚ :=
  let friction := pip * (spread / 2 + slippage)
  if side = .buy then close + friction else close - friction

/-- Source `_exit_price`. -/
def exitPriceOf (rawPrice : ℚ) (side : Side) (pip spread slippage : ℚ) : ℚ :=
  let friction := pip * (spread / 2 + slippage)
  if side = .buy then rawPrice - friction else rawPrice + friction

/-- Source `_position_units`; `fixed_units` is positive where it is given. -/
def positionUnits (request : BacktestRequest) (equity entry : ℚ) :
    Except ZeroDivisionError ℚ :=
  let execution := request.execution
  let requestedUnits :=
    match execution.fixedUnits with
    | some units => units
    | none =>
        let riskAmount := equity * execution.riskPercent / 100
        let stopDistance := execution.stopLossPips * pipSize request.symbol
        riskAmount / max stopDistance (1 / 10 ^ 9)
  if entry = 0 then .error .floatDivision
  else
    let maxByMargin := equity * execution.leverage / entry
    .ok (max 0 (min requestedUnits maxByMargin))

/-- The peak of an equity curve and its deepest drawdowns. -/
structure Drawdown where
  peak : ℚ
  maxDrawdown : ℚ := 0
  maxDrawdownPercent : ℚ := 0

def Drawdown.next (d : Drawdown) (point : EquityPoint) : Drawdown :=
  let peak := max d.peak point.equity
  let drawdown := peak - point.equity
  { peak
    maxDrawdown := max d.maxDrawdown drawdown
    maxDrawdownPercent :=
      max d.maxDrawdownPercent (if peak ≠ 0 then drawdown / peak * 100 else 0) }

/-- The runs of wins and of losses. -/
structure Streaks where
  consecutiveWins : Nat := 0
  consecutiveLosses : Nat := 0
  maxWins : Nat := 0
  maxLosses : Nat := 0

def Streaks.next (s : Streaks) (trade : TradeResult) : Streaks :=
  let wins :=
    if 0 < trade.pnl then s.consecutiveWins + 1
    else if trade.pnl < 0 then 0
    else s.consecutiveWins
  let losses :=
    if 0 < trade.pnl then 0
    else if trade.pnl < 0 then s.consecutiveLosses + 1
    else s.consecutiveLosses
  { consecutiveWins := wins
    consecutiveLosses := losses
    maxWins := max s.maxWins wins
    maxLosses := max s.maxLosses losses }

def metrics (initial : ℚ) (equity : List EquityPoint) (trades : List TradeResult)
    (margin : Bool) (rounding : Rounding := round) : BacktestMetrics :=
  let pnls := trades.map TradeResult.pnl
  let wins := pnls.filter (0 < ·)
  let losses := pnls.filter (· < 0)
  let finalEquity := (equity.getLast?.map EquityPoint.equity).getD initial
  let drawdown := equity.foldl Drawdown.next { peak := initial }
  let streaks := trades.foldl Streaks.next {}
  let grossProfit := wins.sum
  let grossLoss := |losses.sum|
  { totalPnl := rounding (finalEquity - initial) 2
    returnPercent := rounding ((finalEquity / initial - 1) * 100) 3
    winRate :=
      if trades = [] then 0 else rounding ((wins.length : ℚ) / trades.length * 100) 2
    tradeCount := trades.length
    averageWin := if wins = [] then 0 else rounding (wins.sum / wins.length) 2
    averageLoss := if losses = [] then 0 else rounding (losses.sum / losses.length) 2
    profitFactor := if grossLoss ≠ 0 then some (rounding (grossProfit / grossLoss) 3) else none
    maxDrawdown := rounding drawdown.maxDrawdown 2
    maxDrawdownPercent := rounding drawdown.maxDrawdownPercent 3
    maxConsecutiveWins := streaks.maxWins
    maxConsecutiveLosses := streaks.maxLosses
    marginCallTriggered := margin }

/-- The local variables of `run_backtest`; a mark is a signal noted at a time. -/
structure BacktestState where
  equityValue : ℚ
  position : Option OpenPosition := none
  trades : List TradeResult := []
  equityCurve : List EquityPoint := []
  marks : List (Int × ChartSignal) := []
  marginCallTriggered : Bool := false

section Run

variable (evaluateStrategy : List Candle → StrategyConfig → StrategySignal)
  (request : BacktestRequest)

def BacktestState.closePosition (state : BacktestState) (position : OpenPosition)
    (rawPrice : ℚ) (timestamp : Int) (exitReason : String) (rounding : Rounding := round) :
    Except ZeroDivisionError BacktestState := do
  let execution := request.execution
  let exitPrice := exitPriceOf rawPrice position.side (pipSize request.symbol)
    execution.spreadPips execution.slippagePips
  let gross ← pricePnl request.symbol position.side position.entryPrice exitPrice
    position.units
  let pnl := gross - execution.commissionPerTrade
  return {
    state with
    equityValue := state.equityValue + pnl
    position := none
    trades := state.trades ++
      [{ symbol := request.symbol
         side := position.side
         entryTime := position.entryTime
         exitTime := timestamp
         entryPrice := position.entryPrice
         exitPrice
         units := position.units
         pnl := rounding pnl 2
         entryReason := position.entryReason
         exitReason }] }

/-- The chart shows a signal at a time. -/
def BacktestState.mark (state : BacktestState) (timestamp : Int) (signal : ChartSignal) :
    BacktestState :=
  { state with marks := state.marks ++ [(timestamp, signal)] }

/-- A signal against the open position closes it at the open of the bar. -/
def closeOnOpposite (signal : StrategySignal) (row : Candle) (state : BacktestState)
    (rounding : Rounding := round) : Except ZeroDivisionError BacktestState :=
  match state.position, signal.action.side with
  | some position, some side =>
      if side ≠ position.side then do
        let closed ← state.closePosition request position row.openPrice row.timestamp
          ("反対シグナル: " ++ signal.reason) rounding
        return closed.mark row.timestamp .exit
      else .ok state
  | _, _ => .ok state

/-- A signal without an open position opens one at the open of the bar, where its units and
its risk allow it. -/
def openOnSignal (signal : StrategySignal) (row : Candle) (state : BacktestState) :
    Except ZeroDivisionError BacktestState :=
  match state.position, signal.action.side with
  | none, some side => do
      let execution := request.execution
      let pip := pipSize request.symbol
      let entry := entryPriceOf row.openPrice side pip execution.spreadPips
        execution.slippagePips
      let units ← positionUnits request state.equityValue entry
      if 0 < units then do
        let stopDistance := execution.stopLossPips * pip
        let takeDistance := execution.takeProfitPips * pip
        let stop := if side = .buy then entry - stopDistance else entry + stopDistance
        let take := if side = .buy then entry + takeDistance else entry - takeDistance
        let risk ← pricePnl request.symbol side entry stop units
        if |risk| ≤ state.equityValue * execution.maxLossPercent / 100 then
          let position : OpenPosition :=
            { side, entryTime := row.timestamp, entryPrice := entry, units, stopLoss := stop,
              takeProfit := take, entryReason := signal.reason }
          let opened := { state with position := some position }
          return opened.mark row.timestamp
            (if side = .buy then ChartSignal.buy else ChartSignal.sell)
        else return state
      else return state
  | _, _ => .ok state

/-- The price and the reason at which a bar closes a position, the stop before the target. -/
def OpenPosition.exitAt (position : OpenPosition) (row : Candle) : Option (ℚ × String) :=
  match position.side with
  | .buy =>
      if row.low ≤ position.stopLoss then some (position.stopLoss, "損切り到達")
      else if position.takeProfit ≤ row.high then some (position.takeProfit, "利確到達")
      else none
  | .sell =>
      if position.stopLoss ≤ row.high then some (position.stopLoss, "損切り到達")
      else if row.low ≤ position.takeProfit then some (position.takeProfit, "利確到達")
      else none

/-- A bar that reaches the stop or the target closes the position. -/
def closeOnTouch (row : Candle) (state : BacktestState) (rounding : Rounding := round) :
    Except ZeroDivisionError BacktestState :=
  match state.position with
  | none => .ok state
  | some position =>
      match position.exitAt row with
      | none => .ok state
      | some (rawPrice, exitReason) => do
          let closed ← state.closePosition request position rawPrice row.timestamp exitReason
            rounding
          return closed.mark row.timestamp .exit

/-- What the open position is worth at a close. -/
def unrealizedOf (close : ℚ) : Option OpenPosition → Except ZeroDivisionError ℚ
  | none => .ok 0
  | some position =>
      pricePnl request.symbol position.side position.entryPrice close position.units

/-- The equity point of a bar, and the margin call. -/
def markToMarket (row : Candle) (state : BacktestState) (rounding : Rounding := round) :
    Except ZeroDivisionError BacktestState := do
  let unrealized ← unrealizedOf request row.close state.position
  let currentEquity := state.equityValue + unrealized
  return {
    state with
    equityCurve := state.equityCurve ++
      [{ timestamp := row.timestamp, equity := rounding currentEquity 2 }]
    marginCallTriggered :=
      currentEquity ≤ request.execution.initialCapital / request.execution.leverage }

/-- One turn of the loop: the signal comes from the completed candles. -/
def barStep (completed : List Candle) (row : Candle) (state : BacktestState)
    (rounding : Rounding := round) : Except ZeroDivisionError BacktestState := do
  let signal := evaluateStrategy completed request.strategy
  let state ← closeOnOpposite request signal row state rounding
  let state ← openOnSignal request signal row state
  let state ← closeOnTouch request row state rounding
  markToMarket request row state rounding

/-- The loop over the rows behind the completed ones; a margin call breaks it. -/
def runBars (completed rows : List Candle) (state : BacktestState)
    (rounding : Rounding := round) : Except ZeroDivisionError BacktestState :=
  match rows with
  | [] => .ok state
  | row :: rest => do
      let state ← barStep evaluateStrategy request completed row state rounding
      if state.marginCallTriggered then return state
      else runBars (completed ++ [row]) rest state rounding

def startState : BacktestState :=
  { equityValue := request.execution.initialCapital }

variable (frame : List Candle)

def loopOver (rounding : Rounding := round) :
    Except ZeroDivisionError BacktestState :=
  runBars evaluateStrategy request (frame.take 2) (frame.drop 2) (startState request) rounding

def endReason : String := "検証期間終了"

/-- The closing behind the loop: a position that is still open closes at the last row. -/
def closeAtEnd (state : BacktestState) (rounding : Rounding := round) :
    Except ZeroDivisionError BacktestState :=
  match state.position, frame.getLast? with
  | some position, some last => do
      let closed ← state.closePosition request position last.close last.timestamp endReason
        rounding
      return {
        closed with
        equityCurve := closed.equityCurve ++
          [{ timestamp := last.timestamp, equity := rounding closed.equityValue 2 }] }
  | _, _ => .ok state

/-- What `run_backtest` works out over a frame. -/
structure BacktestReport where
  trades : List TradeResult
  equityCurve : List EquityPoint
  metrics : BacktestMetrics

def reportOf (state : BacktestState) (rounding : Rounding := round) : BacktestReport where
  trades := state.trades
  equityCurve := state.equityCurve
  metrics := metrics request.execution.initialCapital state.equityCurve state.trades
    state.marginCallTriggered rounding

/-- The loop and the closing behind it. -/
def runFrame (rounding : Rounding := round) :
    Except ZeroDivisionError BacktestState := do
  let state ← loopOver evaluateStrategy request frame rounding
  closeAtEnd request frame state rounding

def requestCandles (generateDemoCandles : BacktestRequest → List Candle) : List Candle :=
  match request.candles with
  | some (candle :: rest) => candle :: rest
  | _ => generateDemoCandles request

def chartOf (marks : List (Int × ChartSignal)) : List ChartPoint :=
  (frame.drop (frame.length - 500)).map fun row =>
    { row with
      signal := ((marks.filter fun mark => mark.1 = row.timestamp).getLast?).map Prod.snd }

/-- Source `BacktestResponse`, without the id and the warnings. -/
structure BacktestResponse where
  metrics : BacktestMetrics
  equityCurve : List EquityPoint
  chart : List ChartPoint
  trades : List TradeResult

def runBacktest (generateDemoCandles : BacktestRequest → List Candle)
    (rounding : Rounding := round) : Except ZeroDivisionError BacktestResponse := do
  let frame := candlesToFrame (requestCandles request generateDemoCandles)
  let state ← runFrame evaluateStrategy request frame rounding
  let report := reportOf request state rounding
  return {
    metrics := report.metrics
    equityCurve := report.equityCurve.drop (report.equityCurve.length - 1000)
    chart := chartOf frame state.marks
    trades := report.trades }

end Run

end FxStrategyLab.CandleBacktest
