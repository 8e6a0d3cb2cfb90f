import FxStrategyLab.Library.Runs
import FxStrategyLab.Session.AuditSchema

/-!
# A shadow session with risk

This file embeds `run_shadow_session` of `shadow/session.py` with risk enabled, and the
trader of `shadow/service.py` and `shadow/models.py`.  A step of the run is one turn of the
loop.  What its surroundings do comes with the input of the step: the clock, the hooks, the
stop file and the disk.  The counters of the state are those of the returned summary; the
state also notes every candidate with its decision.
-/

namespace FxStrategyLab.Session

open Library (after MeetsAlong)
open Library.Json (FloatText)

/-- Source `Candle` of the shadow package, without its volume. -/
structure ShadowCandle where
  time : String
  openPrice : PyFloat
  high : PyFloat
  low : PyFloat
  close : PyFloat

structure Signal where
  side : SignalLabel
  reason : String := ""

/-- Source `Ticker`, without its symbol, which the trader does not read. -/
structure Ticker where
  bid : PyFloat
  ask : PyFloat
  time : String

/-- An operation on floats; without two finite values there is no finite result. -/
def PyFloat.lift (f : ℚ → ℚ → ℚ) : PyFloat → PyFloat → PyFloat
  | .finite a, .finite b => .finite (f a b)
  | _, _ => .notFinite

def Ticker.mid (ticker : Ticker) : PyFloat :=
  PyFloat.lift (fun bid ask => (bid + ask) / 2) ticker.bid ticker.ask

inductive PositionSide
  | long
  | short
  | flat

def PositionSide.value : PositionSide → String
  | long => "long"
  | short => "short"
  | flat => "flat"

structure VirtualOrder where
  side : SignalLabel
  units : Int
  price : PyFloat
deriving DecidableEq

def VirtualOrder.signedUnits (order : VirtualOrder) : Int :=
  if order.side = .buy then order.units else -order.units

structure VirtualPosition where
  side : PositionSide := .flat
  units : Int := 0
  avgPrice : PyFloat := .finite 0

namespace VirtualPosition

def signedUnits (position : VirtualPosition) : Int :=
  match position.side with
  | .long => position.units
  | .short => -position.units
  | .flat => 0

def applyFill (position : VirtualPosition) (order : VirtualOrder) : VirtualPosition :=
  let signed := order.signedUnits
  let current := position.signedUnits
  let net := current + signed
  let avgPrice :=
    if current ≠ 0 ∧ (0 < current ↔ 0 < signed) then
      PyFloat.lift
        (fun avg price => (avg * |current| + price * |signed|) / (|current| + |signed|))
        position.avgPrice order.price
    else if net = 0 then .finite 0
    else if ¬ (0 < net ↔ 0 < current) ∨ current = 0 then order.price
    else position.avgPrice
  { side := if 0 < net then .long else if net < 0 then .short else .flat
    units := |net|
    avgPrice := if net = 0 then .finite 0 else avgPrice }

def unrealizedPnl (position : VirtualPosition) (price : PyFloat) : PyFloat :=
  match position.side with
  | .long => PyFloat.lift (fun price avg => (price - avg) * position.units) price
      position.avgPrice
  | .short => PyFloat.lift (fun price avg => (avg - price) * position.units) price
      position.avgPrice
  | .flat => .finite 0

end VirtualPosition

structure ShadowEvent where
  time : String
  signal : Signal
  virtualOrder : Option VirtualOrder
  positionSide : PositionSide
  positionUnits : Int
  positionAvgPrice : PyFloat
  virtualPnl : PyFloat
  halted : Bool
  haltReason : String

inductive RiskHook
  | absent
  | ticker
  | snapshot

/-- The arguments of a run, with the clock and the stop file at its start. -/
structure SessionSetup where
  symbol : String
  interval : String
  source : String
  runId : String
  units : Int := 1
  maxUnits : Int := 100
  signalFn : List ShadowCandle → Signal
  signalName : String
  riskHook : RiskHook := .absent
  policy : RiskPolicy := {}
  createdAt : Int
  stopAtStart : Bool := false
  startDisk : DiskOutcome := .durable

inductive SnapshotAnswer (dt : Datetime)
  | snapshot (s : MarketSnapshot dt)
  | absent
  | noSnapshot
  | invalid (e : MarketSnapshotValidationError)
  | failed
  | raised

inductive TickerAnswer
  | ticker (t : Ticker)
  | failed
  | raised

/-- The candle of a step, and what the surroundings do in it. -/
structure StepInput (dt : Datetime) where
  candle : ShadowCandle
  clock : Option Int
  snapshot : SnapshotAnswer dt := .absent
  ticker : TickerAnswer := .failed
  stopBefore : Bool := false
  stopAfter : Bool := false
  signalDisk : DiskOutcome := .durable
  candidateDisk : DiskOutcome := .durable
  decisionDisk : DiskOutcome := .durable
  virtualDisk : DiskOutcome := .durable
  killDisk : DiskOutcome := .durable

structure TickerCounters where
  bidAskUsed : Nat := 0
  realPublicBidAsk : Nat := 0
  syntheticSpreadReject : Nat := 0
  missing : Nat := 0
  stale : Nat := 0
  invalid : Nat := 0
  klineSkewReject : Nat := 0
  spreadTooWide : Nat := 0

def TickerCounters.count (counters : TickerCounters) (name : String) : TickerCounters :=
  if name = "ticker_stale_count" then { counters with stale := counters.stale + 1 }
  else if name = "ticker_kline_skew_reject_count" then
    { counters with klineSkewReject := counters.klineSkewReject + 1 }
  else if name = "ticker_missing_count" then { counters with missing := counters.missing + 1 }
  else { counters with invalid := counters.invalid + 1 }

/-- Where the loop stands. -/
inductive Flow
  | running
  | stopped
  | raised (e : PyError)
deriving DecidableEq

/-- The local variables of a run. -/
structure SessionState where
  seen : List ShadowCandle := []
  position : VirtualPosition := {}
  halted : Bool := false
  haltReason : String := ""
  events : List ShadowEvent := []
  buy : Nat := 0
  sell : Nat := 0
  flat : Nat := 0
  orders : Nat := 0
  maxAbsUnits : Int := 0
  lastPrice : Option PyFloat := none
  exitCode : Nat := 0
  killSwitch : KillSwitchState := {}
  killSwitchReason : String := ""
  candidateCount : Nat := 0
  riskAllowCount : Nat := 0
  riskRejectCount : Nat := 0
  killSwitchCount : Nat := 0
  auditLogWriteErrorCount : Nat := 0
  tickers : TickerCounters := {}
  existingCandidateIds : List String := []
  lastCandidateTimestamp : Option String := none
  files : AuditFiles := fun _ => none
  flow : Flow := .running
  decisions : List (OrderCandidate × RiskDecision) := []

namespace SessionState

/-- Source `_event_without_order`, with the counting of the units. -/
def eventWithoutOrder (state : SessionState) (signal : Signal) (ticker : Ticker) :
    SessionState :=
  { state with
    events := state.events ++
      [{ time := ticker.time
         signal
         virtualOrder := none
         positionSide := state.position.side
         positionUnits := state.position.units
         positionAvgPrice := state.position.avgPrice
         virtualPnl := state.position.unrealizedPnl ticker.mid
         halted := state.halted
         haltReason := state.haltReason }]
    maxAbsUnits := max state.maxAbsUnits state.position.units }

def countEvent (state : SessionState) (event : ShadowEvent) : SessionState :=
  { state with
    orders := if event.virtualOrder.isSome then state.orders + 1 else state.orders
    maxAbsUnits := max state.maxAbsUnits event.positionUnits }

def countSignal (state : SessionState) (side : SignalLabel) : SessionState :=
  match side with
  | .buy => { state with buy := state.buy + 1 }
  | .sell => { state with sell := state.sell + 1 }
  | .hold => { state with flat := state.flat + 1 }

end SessionState

/-- A part of a step: it ends the step, or hands a value on. -/
inductive Stage (α : Type)
  | ended (state : SessionState)
  | next (state : SessionState) (a : α)

def Stage.state {α : Type} : Stage α → SessionState
  | ended state => state
  | next state _ => state

@[simp]
theorem Stage.state_ended {α : Type} (state : SessionState) :
    (Stage.ended state : Stage α).state = state :=
  rfl

@[simp]
theorem Stage.state_next {α : Type} (state : SessionState) (a : α) :
    (Stage.next state a).state = state :=
  rfl

/-- The rest of a step behind a part of it. -/
def Stage.andThen {α : Type} (stage : Stage α) (rest : SessionState → α → SessionState) :
    SessionState :=
  match stage with
  | ended state => state
  | next state a => rest state a

section Run

variable (dt : Datetime) (sha : Sha256) (floats : FloatText) (setup : SessionSetup)

/-- Source `_canonical_or_fallback`; only a `ValueError` falls back. -/
def canonicalOrFallback (value : String) (fallback : Int) : Except PyError String :=
  match canonicalTimestamp dt value with
  | .ok text => .ok text
  | .error .valueError => .ok (isoText dt fallback)
  | .error e => .error e

variable (state : SessionState)

def writeRequiredAudit (payload : AuditPayload)
    (outcome : DiskOutcome) : Bool × SessionState :=
  let (written, files) := writeAuditEvent dt floats setup.runId payload outcome state.files
  (written,
    { state with
      files
      auditLogWriteErrorCount :=
        if written then state.auditLogWriteErrorCount
        else state.auditLogWriteErrorCount + 1 })

/-- Source `activate_kill_switch`; a log row is written where an outcome is given. -/
def activateKillSwitch (reason : KillSwitchReason)
    (timestamp trigger : String) (log : Option DiskOutcome) : SessionState :=
  let activated :=
    if state.killSwitch.active then state
    else
      { state with
        killSwitch := state.killSwitch.activate reason timestamp
        killSwitchCount := state.killSwitchCount + 1
        killSwitchReason := reason.value }
  let state :=
    { activated with halted := true, haltReason := reason.value, exitCode := 2 }
  match log with
  | none => state
  | some outcome =>
      (writeRequiredAudit dt floats setup state
        (.killSwitch
          { runId := setup.runId
            timestamp
            reasons := (state.killSwitch.activation.map fun a => [a.1]).getD []
            activatedAt := state.killSwitch.activation.map Prod.snd
            trigger })
        outcome).2

/-- The kill switch after a failed write, which ends the loop. -/
def stopForLog (timestamp trigger : String) : SessionState :=
  { activateKillSwitch dt floats setup state .logWriteFailed timestamp trigger none with
    flow := .stopped }

def stopForFile (timestamp : String) (outcome : DiskOutcome) :
    SessionState :=
  { activateKillSwitch dt floats setup state .manualStopFileExists timestamp
      "manual_stop_file_exists" (some outcome) with
    flow := .stopped }

/-- The run in front of its loop. -/
def startState : SessionState :=
  if setup.stopAtStart then
    stopForFile dt floats setup {} (isoText dt setup.createdAt) setup.startDisk
  else {}

/-- What the risk evaluation of a step is told of the market. -/
structure RiskReading where
  bid : PyFloat
  ask : PyFloat
  timestamp : String
  provenance : SpreadProvenance
  noCandidateReasons : List RejectReason := []
  tickers : TickerCounters

def readRisk (input : StepInput dt) (ticker : Ticker) (tickers : TickerCounters) :
    Option RiskReading :=
  let plain : RiskReading :=
    { bid := ticker.bid, ask := ticker.ask, timestamp := ticker.time
      provenance := .syntheticZero, tickers }
  let invalid : RiskReading :=
    { plain with
      noCandidateReasons := [.invalidData]
      tickers := { tickers with invalid := tickers.invalid + 1 } }
  match setup.riskHook with
  | .absent => some plain
  | .snapshot =>
      match input.snapshot with
      | .snapshot s =>
          some
            { plain with
              bid := .finite s.bid
              ask := .finite s.ask
              timestamp := s.tickerTimestamp
              provenance := s.spreadProvenance }
      | .absent =>
          some
            { plain with
              noCandidateReasons := [.missingRequiredFields]
              tickers := { tickers with missing := tickers.missing + 1 } }
      | .noSnapshot => some invalid
      | .invalid e =>
          some
            { plain with
              noCandidateReasons := [e.reason]
              tickers := tickers.count e.counterName }
      | .failed => some invalid
      | .raised => none
  | .ticker =>
      match input.ticker with
      | .ticker t =>
          match canonicalOrFallback dt t.time setup.createdAt with
          | .ok timestamp =>
              some
                { plain with bid := t.bid, ask := t.ask, timestamp, provenance := .unknown }
          | .error _ => some invalid
      | .failed => some invalid
      | .raised => none

/-- What the stages of a step share. -/
structure StepContext where
  index : Nat
  signal : Signal
  ticker : Ticker
  marketTimestamp : String
  evaluationTime : Int
  reading : RiskReading

def signalRecord (context : StepContext) : SignalDecisionAuditRecord where
  runId := setup.runId
  timestamp := context.marketTimestamp
  stepIndex := context.index
  signalLabel := context.signal.side
  disposition :=
    if context.signal.side = .hold ∨ context.reading.noCandidateReasons ≠ [] then .noTrade
    else .candidateCreated
  reasonCodes := context.reading.noCandidateReasons
  marketDataTimestamp := context.reading.timestamp
  source := setup.source
  symbol := setup.symbol
  interval := setup.interval
  signalName := setup.signalName

def candidateRequest (context : StepContext) : CandidateRequest where
  signalLabel := context.signal.side
  runId := setup.runId
  stepIndex := context.index
  timestamp := context.marketTimestamp
  marketDataTimestamp := context.reading.timestamp
  source := setup.source
  symbol := setup.symbol
  interval := setup.interval
  quantity := setup.units
  bid := context.reading.bid
  ask := context.reading.ask
  spreadProvenance := context.reading.provenance
  signalName := setup.signalName
  signalReason := if context.signal.reason = "" then "signal" else context.signal.reason
  confidence := 1 / 2

/-- Source `ShadowTrader.step`; none when the order raises. -/
def traderStep (signal : Signal) (ticker : Ticker) :
    Option (SessionState × ShadowEvent) :=
  let fills := state.halted = false ∧ signal.side ≠ .hold
  if fills ∧ setup.units ≤ setup.maxUnits ∧ setup.units ≤ 0 then none
  else
    let order : Option VirtualOrder :=
      if fills ∧ setup.units ≤ setup.maxUnits then
        some { side := signal.side, units := setup.units, price := ticker.ask }
      else none
    let position := (order.map state.position.applyFill).getD state.position
    let haltReason :=
      if fills ∧ ¬ setup.units ≤ setup.maxUnits then
        s!"requested units {setup.units} exceed max_units {setup.maxUnits}"
      else state.haltReason
    let halted := state.halted || decide (fills ∧ ¬ setup.units ≤ setup.maxUnits)
    let event : ShadowEvent :=
      { time := ticker.time
        signal
        virtualOrder := order
        positionSide := position.side
        positionUnits := position.units
        positionAvgPrice := position.avgPrice
        virtualPnl := position.unrealizedPnl ticker.mid
        halted
        haltReason }
    some ({ state with position, halted, haltReason, events := state.events ++ [event] },
      event)

def virtualResultRecord (context : StepContext) (candidate : OrderCandidate)
    (decision : RiskDecision) (event : ShadowEvent) : VirtualResultAuditRecord where
  runId := setup.runId
  timestamp := context.reading.timestamp
  candidateId := candidate.candidateId
  decisionId := decision.decisionId
  status := if event.halted then "HALTED" else "VIRTUAL_RESULT"
  positionSide := event.positionSide.value
  units := event.positionUnits
  unrealizedPnl := event.virtualPnl

/-- An allowed candidate: the stop file, the virtual fill and its record. -/
def processAllowed (input : StepInput dt) (context : StepContext)
    (candidate : OrderCandidate) (decision : RiskDecision) : SessionState :=
  let state := { state with riskAllowCount := state.riskAllowCount + 1 }
  if input.stopAfter then
    stopForFile dt floats setup state context.marketTimestamp input.killDisk
  else if state.killSwitch.active then state.eventWithoutOrder context.signal context.ticker
  else
    let fillTicker : Ticker :=
      { bid := context.reading.bid, ask := context.reading.ask
        time := context.reading.timestamp }
    match traderStep setup state (setup.signalFn state.seen) fillTicker with
    | none => { state with flow := .raised .valueError }
    | some (state, event) =>
        let (written, state) := writeRequiredAudit dt floats setup (state.countEvent event)
          (.virtualResult (virtualResultRecord setup context candidate decision event))
          input.virtualDisk
        if written then state
        else stopForLog dt floats setup state context.marketTimestamp "virtual_result_log"

/-- The context of the evaluation of a candidate, which is already counted. -/
def riskContext (context : StepContext) : RiskContext where
  evaluationTime := context.evaluationTime
  spreadProvenance := context.reading.provenance
  candidatesInRun := state.candidateCount - 1
  candidatesToday := state.candidateCount - 1
  existingCandidateIds := state.existingCandidateIds
  lastCandidateTimestamp := state.lastCandidateTimestamp
  killSwitch := state.killSwitch

def SessionState.countReject (decision : RiskDecision) :
    SessionState :=
  { state with
    riskRejectCount := state.riskRejectCount + 1
    tickers :=
      { state.tickers with
        syntheticSpreadReject :=
          if .syntheticSpreadNotAllowed ∈ decision.reasons then
            state.tickers.syntheticSpreadReject + 1
          else state.tickers.syntheticSpreadReject
        spreadTooWide :=
          if .spreadTooWide ∈ decision.reasons then state.tickers.spreadTooWide + 1
          else state.tickers.spreadTooWide } }

def candidateStage (input : StepInput dt) (context : StepContext)
    (candidate : OrderCandidate) : Stage RiskContext :=
  let (written, state) := writeRequiredAudit dt floats setup state (.candidate candidate)
    input.candidateDisk
  if ¬ written then
    .ended (stopForLog dt floats setup state context.marketTimestamp "candidate_log")
  else
    let isReal := decide (context.reading.provenance = .realPublicBidAsk)
    let state :=
      { state with
        candidateCount := state.candidateCount + 1
        tickers :=
          if isReal then
            { state.tickers with
              bidAskUsed := state.tickers.bidAskUsed + 1
              realPublicBidAsk := state.tickers.realPublicBidAsk + 1 }
          else state.tickers }
    .next state (riskContext state context)

def decisionStage (input : StepInput dt) (context : StepContext)
    (candidate : OrderCandidate) (risk : RiskContext) : Stage RiskDecision :=
  let decision := evaluate dt sha candidate risk setup.policy
  let state := { state with decisions := state.decisions ++ [(candidate, decision)] }
  let (written, state) := writeRequiredAudit dt floats setup state (.decision decision)
    input.decisionDisk
  if ¬ written then
    .ended (stopForLog dt floats setup state context.marketTimestamp "risk_decision_log")
  else
    let state :=
      { state with
        existingCandidateIds := candidate.candidateId :: state.existingCandidateIds
        lastCandidateTimestamp := some candidate.marketDataTimestamp }
    if decision.status = .rejectShadow then
      .ended ((state.countReject decision).eventWithoutOrder context.signal context.ticker)
    else .next state decision

def signalStage (input : StepInput dt) (context : StepContext) :
    Stage OrderCandidate :=
  let state := { state with tickers := context.reading.tickers }
  let (written, state) := writeRequiredAudit dt floats setup state
    (.signal (signalRecord setup context)) input.signalDisk
  if ¬ written then
    .ended (stopForLog dt floats setup state context.marketTimestamp "signal_decision_log")
  else if context.signal.side = .hold ∨ context.reading.noCandidateReasons ≠ [] then
    .ended (state.eventWithoutOrder context.signal context.ticker)
  else
    match createOrderCandidate dt sha (candidateRequest setup context) state.killSwitch with
    | .error _ =>
        let state :=
          { state with tickers := { state.tickers with invalid := state.tickers.invalid + 1 } }
        .ended (state.eventWithoutOrder context.signal context.ticker)
    | .ok none => .ended (state.eventWithoutOrder context.signal context.ticker)
    | .ok (some candidate) => .next state candidate

def beginStep (input : StepInput dt) : Stage StepContext :=
  if state.flow ≠ .running then .ended state
  else if state.killSwitch.active then .ended { state with flow := .stopped }
  else
    let index := state.seen.length
    let state := { state with seen := state.seen ++ [input.candle] }
    match canonicalOrFallback dt input.candle.time setup.createdAt with
    | .error e => .ended { state with flow := .raised e }
    | .ok marketTimestamp =>
        let ticker : Ticker :=
          { bid := input.candle.close, ask := input.candle.close, time := marketTimestamp }
        let state := { state with lastPrice := some input.candle.close }
        if input.stopBefore then
          .ended (stopForFile dt floats setup state marketTimestamp input.killDisk)
        else
          let signal := setup.signalFn state.seen
          let state := state.countSignal signal.side
          match input.clock with
          | none => .ended { state with flow := .raised .valueError }
          | some evaluationTime =>
              let plain : RiskReading :=
                { bid := ticker.bid, ask := ticker.ask, timestamp := ticker.time
                  provenance := .syntheticZero, tickers := state.tickers }
              let reading :=
                if signal.side = .hold then some plain
                else readRisk dt setup input ticker state.tickers
              match reading with
              | none => .ended { state with flow := .raised .other }
              | some reading =>
                  .next state
                    { index, signal, ticker, marketTimestamp, evaluationTime, reading }

/-- One turn of the loop. -/
def sessionStep (input : StepInput dt) : SessionState :=
  (beginStep dt floats setup state input).andThen fun state context =>
    (signalStage dt sha floats setup state input context).andThen fun state candidate =>
      (candidateStage dt floats setup state input context candidate).andThen
        fun state risk =>
          (decisionStage dt sha floats setup state input context candidate risk).andThen
            fun state decision =>
              processAllowed dt floats setup state input context candidate decision

def runShadowSession (inputs : List (StepInput dt)) : SessionState :=
  after (sessionStep dt sha floats setup) (startState dt floats setup) inputs

end Run

end FxStrategyLab.Session
