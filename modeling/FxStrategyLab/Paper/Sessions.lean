import FxStrategyLab.CandleBacktest.Engine

/-!
# Paper trade sessions

This file embeds `start_session`, `process_tick`, `stop_session` and `error_stop_session` of
`paper_trade_service.py` over the rows of `entities.py` that they read and write.  Numbers
stand by their exact value.  A session row holds its trade rows, and a row's id is its
position.  The demo price and the evaluated strategy are inputs of a tick; a tick that raises
leaves its changes in the database session, which its caller commits with the next call or
gives up.  Snapshots and times are left out.
-/

namespace FxStrategyLab.Paper

open CandleBacktest (Side ExecutionConfig StrategySignal endsWithJpy pipSize)

abbrev Price := { price : ℚ // 0 < price }

/-- The `status` of a trade row. -/
inductive TradeStatus
  | opened
  | closed
deriving DecidableEq

/-- The `status` of a session row. -/
inductive SessionStatus
  | running
  | stopped
  | errorStopped
  | riskStopped
deriving DecidableEq

structure PaperTrade where
  symbol : String
  side : Side
  status : TradeStatus := .opened
  units : ℚ
  entryPrice : ℚ
  currentPrice : Price
  exitPrice : Option ℚ := none
  stopLoss : ℚ
  takeProfit : ℚ
  unrealizedPnl : ℚ := 0
  realizedPnl : Option ℚ := none
  entryReason : String
  exitReason : Option String := none

/-- Source `PaperSessionRequest`, of which a session keeps what it reads. -/
structure PaperSessionRequest where
  symbol : String := "USD_JPY"
  execution : ExecutionConfig

structure PaperTradeSession where
  status : SessionStatus
  symbol : String
  config : PaperSessionRequest
  initialBalance : ℚ
  balance : ℚ
  realizedPnl : ℚ := 0
  errorMessage : Option String := none
  trades : List PaperTrade := []

/-- The session rows as last committed, and as the database session holds them. -/
structure Database where
  committed : List PaperTradeSession := []
  working : List PaperTradeSession := []

/-- What a call raises. -/
inductive PaperError
  | valueError (message : String)
  | zeroDivision
  | strategy

namespace Database

def put (db : Database) (id : Nat) (session : PaperTradeSession) : Database :=
  { db with working := db.working.set id session }

def commit (db : Database) : Database :=
  { db with committed := db.working }

def rollback (db : Database) : Database :=
  { db with working := db.committed }

end Database

/-- The value of `_pnl` where its division succeeds. -/
def pnlAt (symbol : String) (side : Side) (entry current units : ℚ) : ℚ :=
  let delta := if side = .buy then current - entry else entry - current
  let conversion := if endsWithJpy symbol then 1 / current else 1
  delta * units * conversion

def pnl (symbol : String) (side : Side) (entry current units : ℚ) : Except PaperError ℚ :=
  if endsWithJpy symbol ∧ current = 0 then .error .zeroDivision
  else .ok (pnlAt symbol side entry current units)

namespace PaperTrade

variable (trade : PaperTrade)

/-- The trade at a price. -/
def mark (symbol : String) (price : Price) : PaperTrade :=
  { trade with
    currentPrice := price
    unrealizedPnl := pnlAt symbol trade.side trade.entryPrice price trade.units }

def hitStop (price : Price) : Prop :=
  if trade.side = .buy then price ≤ trade.stopLoss else price ≥ trade.stopLoss
deriving Decidable

def hitTake (price : Price) : Prop :=
  if trade.side = .buy then price ≥ trade.takeProfit else price ≤ trade.takeProfit
deriving Decidable

def hits (price : Price) : Prop :=
  trade.hitStop price ∨ trade.hitTake price
deriving Decidable

/-- The closed row of a trade. -/
def close (exitPrice realized : ℚ) (reason : String) : PaperTrade :=
  { trade with
    status := .closed
    exitPrice := some exitPrice
    realizedPnl := some realized
    unrealizedPnl := 0
    exitReason := some reason }

end PaperTrade

def openTrade (trades : List PaperTrade) : Option PaperTrade :=
  trades.find? fun trade => trade.status = .opened

def updateOpen (change : PaperTrade → PaperTrade) : List PaperTrade → List PaperTrade
  | [] => []
  | trade :: trades =>
      if trade.status = .opened then change trade :: trades
      else trade :: updateOpen change trades

namespace PaperTradeSession

variable (session : PaperTradeSession)

def book (realized : ℚ) : PaperTradeSession :=
  { session with
    balance := session.balance + realized
    realizedPnl := session.realizedPnl + realized }

/-- One trade in the loop of `stop_session`, which rebuilds the rows in their order. -/
def stopTrade (reason : String) (session : PaperTradeSession) (trade : PaperTrade) :
    PaperTradeSession :=
  if trade.status = .opened then
    let realized :=
      pnlAt trade.symbol trade.side trade.entryPrice trade.currentPrice trade.units -
        session.config.execution.commissionPerTrade
    { session.book realized with
      trades := session.trades ++ [trade.close trade.currentPrice realized reason] }
  else { session with trades := session.trades ++ [trade] }

/-- The session that `stop_session` leaves. -/
def stop (reason : String) : PaperTradeSession :=
  let closed := session.trades.foldl (stopTrade reason) { session with trades := [] }
  { closed with status := .stopped, errorMessage := some reason }

/-- The open trade of a session at the price of a tick, which may close it. -/
def markOpen (price : Price) : PaperTradeSession :=
  match openTrade session.trades with
  | none => session
  | some trade =>
      let marked := trade.mark session.symbol price
      if marked.hits price then
        let realized := marked.unrealizedPnl - session.config.execution.commissionPerTrade
        let reason := if marked.hitStop price then "損切り到達" else "利確到達"
        { session.book realized with
          trades := updateOpen (fun _ => marked.close price realized reason) session.trades }
      else { session with trades := updateOpen (fun _ => marked) session.trades }

/-- The open trade that a tick leaves open. -/
def heldAt (price : Price) : Option PaperTrade :=
  match openTrade session.trades with
  | none => none
  | some trade =>
      let marked := trade.mark session.symbol price
      if marked.hits price then none else some marked

def entryOf (side : Side) (price : Price) : ℚ :=
  let execution := session.config.execution
  let friction := pipSize session.symbol * (execution.spreadPips / 2 + execution.slippagePips)
  if side = .buy then price + friction else price - friction

def stopPriceOf (side : Side) (entry : ℚ) : ℚ :=
  let distance := session.config.execution.stopLossPips * pipSize session.symbol
  if side = .buy then entry - distance else entry + distance

def takePriceOf (side : Side) (entry : ℚ) : ℚ :=
  let distance := session.config.execution.takeProfitPips * pipSize session.symbol
  if side = .buy then entry + distance else entry - distance

def unitsOf (entry : ℚ) : Except PaperError ℚ :=
  let execution := session.config.execution
  if entry = 0 then .error .zeroDivision
  else .ok (min (execution.fixedUnits.getD 1000) (session.balance * execution.leverage / entry))

def openOn (held : Option PaperTrade) (price : Price)
    (signal : StrategySignal) : Except PaperError (Option PaperTrade) :=
  match held, signal.action.side with
  | none, some side => do
      let entry := session.entryOf side price
      let units ← session.unitsOf entry
      let stopPrice := session.stopPriceOf side entry
      let loss ← pnl session.symbol side entry stopPrice units
      if |loss| ≤ session.balance * session.config.execution.maxLossPercent / 100 then
        pure (some
          { symbol := session.symbol, side := side, units := units, entryPrice := entry,
            currentPrice := price, stopLoss := stopPrice,
            takeProfit := session.takePriceOf side entry, entryReason := signal.reason })
      else pure none
  | _, _ => pure none

/-- A session without a balance is stopped. -/
def stopOnRisk : PaperTradeSession :=
  if session.balance ≤ 0 then
    { session with
      status := .riskStopped
      errorMessage := some "仮想残高が0以下になったため停止" }
  else session

end PaperTradeSession

/-- A tick: the price of `PaperTickRequest`, the demo price that stands in for it, and the
signal of the strategy, if its evaluation returns. -/
structure Tick where
  price : Option Price := none
  demoPrice : Price
  signal : Option StrategySignal

def Tick.submitted (tick : Tick) : Price :=
  tick.price.getD tick.demoPrice

variable (db : Database)

def stopSession (id : Nat) (reason : String := "手動停止") :
    Database × Option PaperError :=
  match db.working[id]? with
  | none => (db, some (.valueError "ペーパートレードセッションが見つかりません"))
  | some session => ((db.put id (session.stop reason)).commit, none)

/-- The session that `start_session` adds. -/
def newSession (request : PaperSessionRequest) : PaperTradeSession where
  status := .running
  symbol := request.symbol
  config := request
  initialBalance := request.execution.initialCapital
  balance := request.execution.initialCapital

/-- The stop of a running session in `start_session`. -/
def stopActive : Database :=
  match db.working.findIdx? fun session => session.status = .running with
  | none => db
  | some id => (stopSession db id "新しいセッション開始").1

def startSession (request : PaperSessionRequest) : Database :=
  let stopped := stopActive db
  { stopped with working := stopped.working ++ [newSession request] }.commit

def errorStopSession (id : Nat) (reason : String) : Database :=
  match db.working[id]? with
  | none => db
  | some session =>
      let stopped := session.stop reason
      (db.put id
        { stopped with status := .errorStopped, errorMessage := some reason }).commit

def processTick (id : Nat) (tick : Tick) : Database × Option PaperError :=
  match db.working[id]? with
  | none => (db, some (.valueError "ペーパートレードセッションが見つかりません"))
  | some session =>
      if session.status ≠ .running then
        (db, some (.valueError "停止中のセッションには価格を投入できません"))
      else
        let marked := session.markOpen tick.submitted
        match tick.signal with
        | none => (db.put id marked, some .strategy)
        | some signal =>
            match marked.openOn (session.heldAt tick.submitted) tick.submitted signal with
            | .error error => (db.put id marked, some error)
            | .ok added =>
                let traded := { marked with trades := marked.trades ++ added.toList }
                ((db.put id traded.stopOnRisk).commit, none)

/-- A call of the service; `giveUp` is the end of a database session without a commit. -/
inductive Call
  | start (request : PaperSessionRequest)
  | tick (id : Nat) (tick : Tick)
  | stop (id : Nat) (reason : String)
  | errorStop (id : Nat) (reason : String)
  | giveUp

/-- The database after a call. -/
def step : Call → Database
  | .start request => startSession db request
  | .tick id tick => (processTick db id tick).1
  | .stop id reason => (stopSession db id reason).1
  | .errorStop id reason => errorStopSession db id reason
  | .giveUp => db.rollback

end FxStrategyLab.Paper
