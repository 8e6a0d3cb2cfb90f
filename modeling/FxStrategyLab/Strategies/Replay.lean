import FxStrategyLab.Contracts
import FxStrategyLab.Strategies.Signals

/-!
# The paper replay of candles

This file embeds `replay_paper_trades` of `gmo_paper_service.py` with the signals that it works
out ahead and the entry filter over the whole series.  A time is in microseconds.  The rows that
the database keeps are a field of the result, and the constant texts of a session are left out.
-/

namespace FxStrategyLab.Strategies

open CandleBacktest (Candle Side Action StrategyConfig StrategySignal StrategyType
  ExecutionConfig ZeroDivisionError candlesToFrame pipSize pricePnl)
open Library.Smoothing (diff ewm)

/-- Source `EXIT_POLICIES`. -/
inductive ExitPolicy
  | baseline
  | noOppositeSignalExit
  | minHold30mBeforeOppositeExit
  | timeStop30m
  | timeStop60m

/-- The arguments of `replay_paper_trades` but the choice of signals. -/
structure ReplayRequest where
  symbol : String
  candles : List Candle
  strategy : StrategyConfig
  execution : ExecutionConfig
  exitPolicy : ExitPolicy := .baseline
  forceCloseAtEnd : Bool := false
  entryAdxMax : Option ℚ := none

/-- Why a position is closed; a signal brings its own reason. -/
inductive ExitReason
  | opposite (reason : String)
  | stopLoss
  | takeProfit
  | timeStop (minutes : Nat)
  | dataEnd
deriving DecidableEq

structure PaperPosition where
  side : Side
  entryPrice : ℚ
  units : ℚ
  stopLoss : ℚ
  takeProfit : ℚ
  entryReason : String
  openedAt : Int

/-- A closed `PaperTrade`. -/
structure ClosedTrade where
  side : Side
  units : ℚ
  entryPrice : ℚ
  exitPrice : ℚ
  stopLoss : ℚ
  takeProfit : ℚ
  realizedPnl : ℚ
  entryReason : String
  exitReason : ExitReason
  openedAt : Int
  closedAt : Int

/-- An open `PaperTrade`. -/
structure OpenTrade where
  side : Side
  units : ℚ
  entryPrice : ℚ
  currentPrice : ℚ
  stopLoss : ℚ
  takeProfit : ℚ
  unrealizedPnl : ℚ
  entryReason : String
  openedAt : Int

structure SignalCounts where
  buy : Nat := 0
  sell : Nat := 0
  hold : Nat := 0

def SignalCounts.add (counts : SignalCounts) : Action → SignalCounts
  | .buy => { counts with buy := counts.buy + 1 }
  | .sell => { counts with sell := counts.sell + 1 }
  | .hold => { counts with hold := counts.hold + 1 }

/-- The session and the local variables of a replay. -/
structure ReplayState where
  balance : ℚ
  realizedPnl : ℚ := 0
  position : Option PaperPosition := none
  trades : List ClosedTrade := []
  completed : Nat := 0
  skippedEntries : Nat := 0
  signalCounts : SignalCounts := {}

/-- What a replay returns, with the session and the trades that it stores. -/
structure ReplayResult where
  bars : Nat
  completedTrades : Nat
  skippedEntries : Nat
  openPositionCount : Nat
  signalCounts : SignalCounts
  balance : ℚ
  realizedPnl : ℚ
  trades : List ClosedTrade
  openTrade : Option OpenTrade

inductive ReplayError
  | tooFewCandles
  | zeroDivision

def zeroUnknown (x : Option ℚ) : Option ℚ :=
  x.bind fun value => if value = 0 then none else some value

def lift (f : ℚ → ℚ → ℚ) (x y : Option ℚ) : Option ℚ :=
  x.bind fun a => y.map fun b => f a b

def trueRange (row : Candle) (previousClose : Option ℚ) : ℚ :=
  match previousClose with
  | none => row.high - row.low
  | some previous => max (row.high - row.low) (max |row.high - previous| |row.low - previous|)

/-- `np.where((move > other) & (move > 0), move, 0.0)`. -/
def directional (move other : Option ℚ) : ℚ :=
  match move, other with
  | some move, some other => if other < move ∧ 0 < move then move else 0
  | _, _ => 0

def previousCloses (frame : List Candle) : List (Option ℚ) :=
  (none :: (closes frame).map some).take frame.length

def adxSeries (frame : List Candle) (period : Nat := 14) : List (Option ℚ) :=
  let smooth (xs : List (Option ℚ)) := ewm (1 / period : ℚ) 0 xs
  let trueRanges := List.zipWith (fun row previous => some (trueRange row previous)) frame
    (previousCloses frame)
  let upMove := diff (frame.map Candle.high)
  let downMove := (diff (frame.map Candle.low)).map (Option.map fun (move : ℚ) => -move)
  let plusDm := List.zipWith (fun up down => some (directional up down)) upMove downMove
  let minusDm := List.zipWith (fun down up => some (directional down up)) downMove upMove
  let atr := (smooth trueRanges).map zeroUnknown
  let plusDi := List.zipWith (lift fun dm range => 100 * dm / range) (smooth plusDm) atr
  let minusDi := List.zipWith (lift fun dm range => 100 * dm / range) (smooth minusDm) atr
  let spread := List.zipWith (lift fun plus minus => 100 * |plus - minus|) plusDi minusDi
  let total := (List.zipWith (lift fun plus minus => plus + minus) plusDi minusDi).map zeroUnknown
  let dx := List.zipWith (lift fun distance sum => distance / sum) spread total
  smooth (dx.map fun x => some (x.getD 0))

section Replay

variable {K : Type} [Field K] [LinearOrder K] (numbers : Numbers K)

def precomputeRsiSignals (frame : List Candle) (config : StrategyConfig) :
    List StrategySignal :=
  let rsi := calculateRsi (closes frame) config.rsiPeriod
  (List.range frame.length).map fun i =>
    if i < config.rsiPeriod + 2 then { action := .hold, reason := "warmup" }
    else
      match rsi[i - 2]?, rsi[i - 1]? with
      | some previous, some current =>
          let label := s!"RSI({config.rsiPeriod})=" ++ numbers.fixed 1 current
          if config.oversold < previous ∧ current ≤ config.oversold then
            { action := .buy, reason := label ++ "<= " ++ numbers.text config.oversold }
          else if previous < config.overbought ∧ config.overbought ≤ current then
            { action := .sell, reason := label ++ ">= " ++ numbers.text config.overbought }
          else { action := .hold, reason := label }
      -- the column has both entries
      | _, _ => { action := .hold, reason := "warmup" }

/-- The signal of a bar: worked out ahead for a fast replay of the relative strength, and of the
bars before it else. -/
def signalAt (fastSignals : Bool) (frame : List Candle) (config : StrategyConfig)
    (index : Nat) : StrategySignal :=
  if fastSignals = true ∧ config.strategyType = .rsiReversal then
    ((precomputeRsiSignals numbers frame config)[index]?).getD
      { action := .hold, reason := "warmup" }
  else evaluateStrategy numbers (frame.take index) config

section Steps

variable (request : ReplayRequest)

def ReplayRequest.friction : ℚ :=
  pipSize request.symbol * (request.execution.spreadPips / 2 + request.execution.slippagePips)

def ReplayRequest.exitPrice (side : Side) (raw : ℚ) : ℚ :=
  if side = .buy then raw - request.friction else raw + request.friction

def oppositeExitAllowed (exitPolicy : ExitPolicy) (openedAt now : Int) : Bool :=
  match exitPolicy with
  | .noOppositeSignalExit => false
  | .minHold30mBeforeOppositeExit => wallSeconds (30 * 60) ≤ now - openedAt
  | _ => true

def timeStopMinutes : ExitPolicy → Option Nat
  | .timeStop30m => some 30
  | .timeStop60m => some 60
  | _ => none

/-- Source `_close_trade`, and what the loop notes of it. -/
def closeTrade (position : PaperPosition) (exitPrice : ℚ) (exitReason : ExitReason)
    (closedAt : Int) (s : ReplayState) : Except ZeroDivisionError ReplayState := do
  let gross ← pricePnl request.symbol position.side position.entryPrice exitPrice position.units
  let pnl := gross - request.execution.commissionPerTrade
  return {
    s with
    balance := s.balance + pnl
    realizedPnl := s.realizedPnl + pnl
    position := none
    completed := s.completed + 1
    trades := s.trades ++
      [{ side := position.side
         units := position.units
         entryPrice := position.entryPrice
         exitPrice
         stopLoss := position.stopLoss
         takeProfit := position.takeProfit
         realizedPnl := Library.Rounding.round pnl 4
         entryReason := position.entryReason
         exitReason
         openedAt := position.openedAt
         closedAt }] }

/-- A signal against the position closes it at the open of the bar, where the policy allows it. -/
def closeOnOpposite (signal : StrategySignal) (row : Candle) (s : ReplayState) :
    Except ZeroDivisionError ReplayState :=
  match s.position, signal.action.side with
  | some position, some side =>
      if side ≠ position.side ∧
          oppositeExitAllowed request.exitPolicy position.openedAt row.timestamp = true then
        closeTrade request position (request.exitPrice position.side row.openPrice)
          (.opposite signal.reason) row.timestamp s
      else .ok s
  | _, _ => .ok s

def adxBlocksEntry (adx : List (Option ℚ)) (index : Nat) : Bool :=
  match request.entryAdxMax, (adx[index - 1]?).join with
  | some limit, some value => limit ≤ value
  | _, _ => false

def openPosition (side : Side) (reason : String) (row : Candle) (s : ReplayState) :
    Except ZeroDivisionError ReplayState := do
  let execution := request.execution
  let pip := pipSize request.symbol
  let entry :=
    if side = .buy then row.openPrice + request.friction else row.openPrice - request.friction
  if entry = 0 then .error .floatDivision
  else do
    let units := min (execution.fixedUnits.getD 1000) (s.balance * execution.leverage / entry)
    let stopDistance := execution.stopLossPips * pip
    let takeDistance := execution.takeProfitPips * pip
    let stop := if side = .buy then entry - stopDistance else entry + stopDistance
    let take := if side = .buy then entry + takeDistance else entry - takeDistance
    let risk ← pricePnl request.symbol side entry stop units
    if 0 < units ∧ |risk| ≤ s.balance * execution.maxLossPercent / 100 then
      return { s with
        position := some
          { side, entryPrice := entry, units, stopLoss := stop, takeProfit := take
            entryReason := reason, openedAt := row.timestamp } }
    else return s

/-- A signal without a position opens one, or is skipped by the entry filter. -/
def openOnSignal (signal : StrategySignal) (blocked : Bool) (row : Candle) (s : ReplayState) :
    Except ZeroDivisionError ReplayState :=
  match s.position, signal.action.side with
  | none, some side =>
      if blocked = true then .ok { s with skippedEntries := s.skippedEntries + 1 }
      else openPosition request side signal.reason row s
  | _, _ => .ok s

/-- The price and the reason at which a bar closes a position, the stop before the target. -/
def PaperPosition.touched (position : PaperPosition) (row : Candle) : Option (ℚ × ExitReason) :=
  match position.side with
  | .buy =>
      if row.low ≤ position.stopLoss then some (position.stopLoss, .stopLoss)
      else if position.takeProfit ≤ row.high then some (position.takeProfit, .takeProfit)
      else none
  | .sell =>
      if position.stopLoss ≤ row.high then some (position.stopLoss, .stopLoss)
      else if row.low ≤ position.takeProfit then some (position.takeProfit, .takeProfit)
      else none

/-- A bar that reaches the stop or the target closes the position. -/
def closeOnTouch (row : Candle) (s : ReplayState) : Except ZeroDivisionError ReplayState :=
  match s.position with
  | none => .ok s
  | some position =>
      match position.touched row with
      | none => .ok s
      | some (raw, reason) =>
          closeTrade request position (request.exitPrice position.side raw) reason row.timestamp s

/-- A position that was held for long enough is closed at the close of the bar. -/
def closeOnTime (row : Candle) (s : ReplayState) : Except ZeroDivisionError ReplayState :=
  match s.position, timeStopMinutes request.exitPolicy with
  | some position, some minutes =>
      if wallSeconds (60 * minutes) ≤ row.timestamp - position.openedAt then
        closeTrade request position (request.exitPrice position.side row.close)
          (.timeStop minutes) row.timestamp s
      else .ok s
  | _, _ => .ok s

/-- One turn of the loop. -/
def replayBar (signal : StrategySignal) (blocked : Bool) (row : Candle) (s : ReplayState) :
    Except ZeroDivisionError ReplayState := do
  let s := { s with signalCounts := s.signalCounts.add signal.action }
  let s ← closeOnOpposite request signal row s
  let s ← openOnSignal request signal blocked row s
  let s ← closeOnTouch request row s
  closeOnTime request row s

end Steps

def replayIndex (fastSignals : Bool) (request : ReplayRequest) (frame : List Candle)
    (s : ReplayState) (index : Nat) : Except ZeroDivisionError ReplayState :=
  match frame[index]? with
  | none => .ok s
  | some row =>
      replayBar request (signalAt numbers fastSignals frame request.strategy index)
        (adxBlocksEntry request (adxSeries frame) index) row s

def startReplay (request : ReplayRequest) : ReplayState where
  balance := request.execution.initialCapital

def replayUpTo (fastSignals : Bool) (request : ReplayRequest) (frame : List Candle) (stop : Nat) :
    Except ZeroDivisionError ReplayState :=
  (List.range' 2 (stop - 2)).foldlM (replayIndex numbers fastSignals request frame)
    (startReplay request)

/-- The end of a replay: the last position is closed, or stays open. -/
def finishReplay (request : ReplayRequest) (frame : List Candle) (s : ReplayState) :
    Except ZeroDivisionError ReplayResult := do
  let result (s : ReplayState) (openTrade : Option OpenTrade) : ReplayResult :=
    { bars := request.candles.length
      completedTrades := s.completed
      skippedEntries := s.skippedEntries
      openPositionCount := if openTrade.isSome then 1 else 0
      signalCounts := s.signalCounts
      balance := s.balance
      realizedPnl := s.realizedPnl
      trades := s.trades
      openTrade }
  match s.position, frame.getLast? with
  | some position, some last =>
      if request.forceCloseAtEnd = true then do
        let s ← closeTrade request position (request.exitPrice position.side last.close) .dataEnd
          last.timestamp s
        return result s none
      else do
        let unrealized ← pricePnl request.symbol position.side position.entryPrice last.close
          position.units
        return result s (some
          { side := position.side
            units := position.units
            entryPrice := position.entryPrice
            currentPrice := last.close
            stopLoss := position.stopLoss
            takeProfit := position.takeProfit
            unrealizedPnl := Library.Rounding.round unrealized 4
            entryReason := position.entryReason
            openedAt := position.openedAt })
  | _, _ => return result s none

/-- A division by zero ends the replay. -/
def raised {α : Type} : Except ZeroDivisionError α → Except ReplayError α
  | .ok value => .ok value
  | .error _ => .error .zeroDivision

def replayPaperTrades (request : ReplayRequest) (fastSignals : Bool := false) :
    Except ReplayError ReplayResult :=
  if request.candles.length < 3 then .error .tooFewCandles
  else
    let frame := candlesToFrame request.candles
    raised do
      let s ← replayUpTo numbers fastSignals request frame frame.length
      finishReplay request frame s

end Replay

end FxStrategyLab.Strategies
