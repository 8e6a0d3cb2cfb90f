import FxStrategyLab.Shadow.Persistence

/-!
# The E1 shadow engine

This file embeds `engine.py` of the E1 shadow package: the token authority, the
risk gate, the virtual executor and the engine with its phases.  Every method is
a process on the two files and the memory of one engine object; a journal write,
a venue write or a reading of the token clock takes the next incident or reading
that the call was given.
-/

namespace FxStrategyLab.E1

open Library

def setPhase (phase : EnginePhase) : E1Process Unit :=
  Process.modify fun w => { w with phase }

def stablePhase (position : Option VirtualPosition) : EnginePhase :=
  if position.isSome then .positionOpen else .readyFlat

def readClock : E1Process Timestamp := fun w =>
  (.returned (w.clockReadings.headD 0), { w with clockReadings := w.clockReadings.tail })

/-- `except E1PersistenceError`: every other exception goes through. -/
def onPersistenceError {α : Type} (x handler : E1Process α) : E1Process α :=
  x.attempt fun e =>
    if e.exceptionClass = .persistence then handler else Process.raise e

/-- An `if` without an `else`. -/
def onlyIf (c : Prop) [Decidable c] (x : E1Process Unit) : E1Process Unit :=
  if c then x else pure ()

def violations (checks : List (Bool × String)) : List String :=
  (checks.filter Prod.fst).map Prod.snd

section Engine

variable (setup : E1Setup) (sha : Sha256)

def E1Setup.configHash : HexDigest := setup.policy.configHash sha

/-- The token that `issue` builds. -/
def newToken (action : GateAction) (intentId : LocalId) (intentDigest : HexDigest)
    (counter : Nat) (issuedAt : Timestamp) : ShadowGateToken where
  tokenId := makeLocalId sha "shadowtoken"
    [("action", .text action.value), ("config_hash", .digest (setup.configHash sha).val),
      ("counter", .integer counter), ("intent_digest", .digest intentDigest.val),
      ("intent_id", .digest intentId), ("issued_at", .integer issuedAt),
      ("run_id", .text setup.runId)]
  runId := setup.runId
  intentId
  intentDigest
  action
  configHash := setup.configHash sha
  issuedAt
  expiresAt := buildTokenExpiry issuedAt setup.policy.tokenTtlSeconds

def issue (action : GateAction) (intentId : LocalId) (intentDigest : HexDigest) :
    E1Process ShadowGateToken := do
  Process.modify fun w => { w with counter := w.counter + 1 }
  let issuedAt ← readClock
  let counter ← Process.gets E1World.counter
  let token := newToken setup sha action intentId intentDigest counter issuedAt
  Process.modify fun w => { w with issued := token :: w.issued }
  return token

variable (token : ShadowGateToken)

/-- Source `_validate`. -/
def validateToken : E1Process Unit := do
  let issued ← Process.gets E1World.issued
  Process.require (issued.find? (fun t => t.tokenId = token.tokenId) = some token)
    (engineError "shadow token was not issued by this engine")
  Process.require (token.runId = setup.runId ∧ token.configHash = setup.configHash sha)
    (engineError "shadow token run/stage/config mismatch")
  let now ← readClock
  Process.require (token.isExpired now = false) (engineError "shadow token expired")

/-- The record carries the identity of the token and this event. -/
def boundTo (eventType : JournalEventType) (token : ShadowGateToken) (r : JournalRecord) :
    Bool :=
  decide (r.eventType = eventType ∧ r.tokenId = some token.tokenId ∧
    r.intentId = some token.intentId ∧ r.intentDigest = some token.intentDigest ∧
    r.action = some token.action)

def lastBoundTo (eventType : JournalEventType) (token : ShadowGateToken)
    (records : List JournalRecord) : Bool :=
  records.getLast?.any (boundTo eventType token)

def commitIntent (durableAppend : E1Process Unit) :
    E1Process Unit := do
  validateToken setup sha token
  let before ← Process.gets id
  Process.require (token.tokenId ∉ before.consumed ∧ token.tokenId ∉ before.executed)
    (engineError "shadow token is single-use")
  Process.require (before.records.all fun r => decide (r.tokenId ≠ some token.tokenId))
    (engineError "shadow token already has a durable journal record")
  durableAppend
  let records ← Process.gets E1World.records
  Process.require (records.length = before.records.length + 1)
    (engineError "shadow token consumption requires one durable intent")
  Process.require (lastBoundTo .intentPrepared token records = true)
    (engineError "durable intent does not match the shadow token")
  Process.modify fun w => { w with consumed := token.tokenId :: w.consumed }

/-- Source `begin_execution`, for the action and the intent of the token. -/
def beginExecution : E1Process Unit := do
  validateToken setup sha token
  let w ← Process.gets id
  Process.require (token.tokenId ∈ w.consumed)
    (engineError "shadow token has no durable intent")
  Process.require (token.tokenId ∉ w.executed) (engineError "shadow token is single-use")
  Process.require (lastBoundTo .virtualExecutionStarted token w.records = true)
    (engineError "virtual execution start is not durably journaled")
  Process.modify fun w => { w with executed := token.tokenId :: w.executed }

/-- Source `_common_reasons`, with the heartbeat required. -/
def commonReasons (records : List JournalRecord) (market : MarketFrame) : List String :=
  violations
    [(decide (market.age < 0 ∨ seconds setup.policy.maxDataAgeSeconds < market.age),
        "MARKET_DATA_NOT_FRESH"),
      (!market.marketOpen, "MARKET_NOT_OPEN"),
      (!market.feedConsistent, "FEED_STATE_INCONSISTENT")] ++
    match ShadowIntentJournal.lastHeartbeat records with
    | none => ["HEARTBEAT_MISSING"]
    | some heartbeat =>
        let age := market.evaluationTime - heartbeat
        violations
          [(decide (age < 0 ∨ seconds setup.policy.heartbeatTimeoutSeconds < age),
            "HEARTBEAT_EXPIRED")]

def stickyReasons (records : List JournalRecord) : List (Bool × String) :=
  [(ShadowIntentJournal.killActive records || ShadowIntentJournal.halted records,
    "STICKY_HALT_OR_KILL_ACTIVE")]

def prospectiveLoss (position : VirtualPosition) : ℚ :=
  |position.entryPrice - position.protectiveStopPrice| * position.units

variable (market : MarketFrame)

/-- The last entry is less than the cooldown ago. -/
def coolingDown (lastEntryAt : Option Timestamp) : Bool :=
  lastEntryAt.any fun entryAt =>
    decide (market.evaluationTime - entryAt < seconds setup.policy.cooldownSeconds)

variable (w : E1World)

/-- The reasons against an entry, source `issue_entry_token`. -/
def entryReasons (intent : EntryIntent) (market : MarketFrame) : List String :=
  let policy := setup.policy
  let counters := ShadowIntentJournal.riskCounters w.records market.evaluationTime
  let loss := prospectiveLoss intent.position
  commonReasons setup w.records market ++
    violations
      ([(decide (w.phase ≠ .readyFlat), "ENGINE_NOT_READY_FLAT")] ++ stickyReasons w.records ++
        [(decide (w.positionCount ≠ 0), "POSITION_LIMIT_ONE_BLOCKED"),
          (decide (intent.runId ≠ setup.runId ∨ intent.configHash ≠ setup.configHash sha),
            "INTENT_RUN_OR_CONFIG_MISMATCH"),
          (decide (intent.position.units ≠ policy.fixedVirtualUnits),
            "FIXED_VIRTUAL_UNITS_MISMATCH"),
          (decide (policy.maxEntriesPerDay ≤ counters.entriesToday),
            "DAILY_ENTRY_CAP_REACHED"),
          (decide (policy.maxDailyVirtualLoss ≤ counters.dailyLoss),
            "DAILY_VIRTUAL_LOSS_CAP_REACHED"),
          (decide (policy.maxWeeklyVirtualLoss ≤ counters.weeklyLoss),
            "WEEKLY_VIRTUAL_LOSS_CAP_REACHED"),
          (decide (policy.maxConsecutiveLosses ≤ counters.consecutiveLosses),
            "CONSECUTIVE_LOSS_CAP_REACHED"),
          (decide (policy.maxVirtualLossPerTrade < loss),
            "PER_TRADE_VIRTUAL_LOSS_CAP_EXCEEDED"),
          (decide (policy.maxDailyVirtualLoss < counters.dailyLoss + loss),
            "DAILY_PROSPECTIVE_VIRTUAL_LOSS_CAP_EXCEEDED"),
          (decide (policy.maxWeeklyVirtualLoss < counters.weeklyLoss + loss),
            "WEEKLY_PROSPECTIVE_VIRTUAL_LOSS_CAP_EXCEEDED"),
          (decide (policy.maxSpreadPips < market.spreadPips), "SPREAD_LIMIT_EXCEEDED"),
          (!market.eventClear, "EVENT_WINDOW_BLOCKED"),
          (!market.tradingWindowOpen, "NO_TRADE_WINDOW_ACTIVE"),
          (coolingDown setup market counters.lastEntryAt, "COOLDOWN_ACTIVE")])

/-- The reasons against a settlement, source `issue_settlement_token`. -/
def settlementReasons (intent : SettlementIntent) (market : MarketFrame)
    (emergency : Bool) : List String :=
  (if emergency then []
    else
      commonReasons setup w.records market ++
        violations
          ([(decide (w.phase ≠ .positionOpen), "ENGINE_NOT_IN_POSITION_OPEN")] ++
            stickyReasons w.records)) ++
    violations
      [(decide (intent.runId ≠ setup.runId ∨ intent.configHash ≠ setup.configHash sha),
          "INTENT_RUN_OR_CONFIG_MISMATCH"),
        (decide (w.position.map VirtualPosition.positionRef ≠ some intent.positionRef),
          "POSITION_SPECIFIC_SETTLEMENT_MISMATCH")]

variable (now : Timestamp)

def appendFakeAlert (reason : String) : E1Process Unit := do
  let w ← Process.gets id
  append setup sha
    { eventType := .fakeCriticalAlert
      timestamp := now
      statusLabel := "FAKE_CRITICAL_ALERT_RECORDED"
      reasonCodes := [reason]
      expectedStateDigest := w.expectedDigest sha
      observedStateDigest := some (w.stateDigest sha)
      positionCount := w.positionCount }

def appendHalt (reason : String) : E1Process Unit := do
  let w ← Process.gets id
  append setup sha
    { eventType := .halted
      timestamp := now
      statusLabel := "ENGINE_HALTED_STICKY"
      reasonCodes := [reason]
      expectedStateDigest := w.expectedDigest sha
      observedStateDigest := some (w.stateDigest sha)
      positionCount := w.positionCount }
  setPhase .halted

/-- The entry of a reconciliation, about an unresolved intent or about the stable state. -/
def reconcileEntry (eventType : JournalEventType) (now : Timestamp) (statusLabel : String)
    (reasonCodes : List String) (expected observed : HexDigest) (positionCount : Nat)
    (source : Option JournalRecord) : JournalEntry where
  eventType
  timestamp := now
  statusLabel
  reasonCodes
  expectedStateDigest := expected
  observedStateDigest := some observed
  positionCount
  action := source.bind fun s => s.action
  intentId := source.bind fun s => s.intentId
  intentDigest := source.bind fun s => s.intentDigest
  tokenId := source.bind fun s => s.tokenId
  faultKind := (source.map fun s => s.faultKind).getD .none
  stateBeforeDigest :=
    match source with
    | none => some expected
    | some s => s.stateBeforeDigest
  plannedStateDigest :=
    match source with
    | none => some expected
    | some s => s.plannedStateDigest
  pnlCategory := (source.map fun s => s.pnlCategory).getD .notApplicable
  virtualLoss := (source.map fun s => s.virtualLoss).getD 0

def recordReconcileMismatch (reason : String) (expected observed : HexDigest)
    (source : Option JournalRecord) : E1Process Unit := do
  let w ← Process.gets id
  append setup sha
    (reconcileEntry .reconcileMismatch now ReconcileStatus.mismatchHalted.value [reason] expected
      observed w.positionCount source)
  appendFakeAlert setup sha now reason
  appendHalt setup sha now KillReason.reconcileMismatch.value

def recordFaultHandled (faultKind : FaultKind) (source : JournalRecord) :
    E1Process Unit := do
  let w ← Process.gets id
  append setup sha
    { eventType := .faultHandled
      timestamp := now
      statusLabel := "FAULT_HANDLED_WITHOUT_RETRY"
      reasonCodes := [faultKind.value]
      expectedStateDigest := w.stateDigest sha
      observedStateDigest := some (w.stateDigest sha)
      positionCount := w.positionCount
      action := source.action
      intentId := source.intentId
      intentDigest := source.intentDigest
      tokenId := source.tokenId
      faultKind
      stateBeforeDigest := source.stateBeforeDigest
      plannedStateDigest := source.plannedStateDigest
      pnlCategory := source.pnlCategory
      virtualLoss := source.virtualLoss }

def stableEntry (eventType : JournalEventType) (now : Timestamp)
    (statusLabel : String) (reasonCodes : List String) : JournalEntry where
  eventType
  timestamp := now
  statusLabel
  reasonCodes
  expectedStateDigest := w.stateDigest sha
  observedStateDigest := some (w.stateDigest sha)
  positionCount := w.positionCount

/-- Source `_result`. -/
def cycleResult (status : String) (reasonCodes : List String)
    (virtualExecutionAttempted tokenIssued : Bool) : E1Process E1CycleResult :=
  Process.gets fun w =>
    { status, phase := w.phase, reasonCodes, virtualExecutionAttempted, tokenIssued }

def riskBlocked (reasons : List String) : E1Process E1CycleResult := do
  let w ← Process.gets id
  append setup sha
    (stableEntry sha w .noActionRecorded market.evaluationTime "RISK_GATE_BLOCKED_NO_ACTION"
      reasons)
  cycleResult "RISK_GATE_BLOCKED_NO_ACTION" reasons false false

/-- What `_prepare_and_start`, `_finish_execution` and
`_record_venue_persistence_unknown` are all given. -/
structure Execution where
  token : ShadowGateToken
  time : Timestamp
  fault : FaultInjection
  before : HexDigest
  planned : HexDigest
  pnlCategory : PnlCategory
  virtualLoss : ℚ

variable (x : Execution)

def Execution.entry (eventType : JournalEventType) (statusLabel : String)
    (reasonCodes : List String) (expected observed : HexDigest) (positionCount : Nat)
    (executionOutcome : Option ExecutionOutcome) : JournalEntry where
  eventType
  timestamp := x.time
  statusLabel
  reasonCodes
  expectedStateDigest := expected
  positionCount
  action := some x.token.action
  intentId := some x.token.intentId
  intentDigest := some x.token.intentDigest
  tokenId := some x.token.tokenId
  executionOutcome
  faultKind := x.fault.kind
  stateBeforeDigest := some x.before
  plannedStateDigest := some x.planned
  observedStateDigest := some observed
  pnlCategory := x.pnlCategory
  virtualLoss := x.virtualLoss

def prepareAndStart : E1Process Unit :=
  onPersistenceError
    (do
      let w ← Process.gets id
      commitIntent setup sha x.token
        (append setup sha
          (x.entry .intentPrepared "DURABLE_INTENT_PREPARED_BEFORE_VIRTUAL_EFFECT" [] x.before
            x.before w.positionCount none))
      append setup sha
        (x.entry .virtualExecutionStarted "VIRTUAL_EXECUTION_STARTED_ONCE" [] x.before x.before
          w.positionCount none))
    (do
      setPhase .halted
      Process.raise
        (engineError "durable intent journal failed before virtual execution"))

/-- The result of the executor, source `ShadowVirtualExecutor._result`. -/
def executionResult (outcome : ExecutionOutcome) : E1Process VirtualExecutionResult :=
  Process.gets fun w =>
    { outcome, observedStateDigest := w.stateDigest sha, positionCount := w.positionCount }

/-- The end of an execution with a fault behind its effect. -/
def faultyResult (kind : FaultKind) (crashMessage unsupportedMessage : String) :
    E1Process VirtualExecutionResult :=
  match kind with
  | .crashMidVirtualExecution =>
      Process.raise { exceptionClass := .simulatedCrash, message := crashMessage }
  | .timeout => executionResult sha .timeout
  | .unknownResult => executionResult sha .unknown
  | .networkError => executionResult sha .networkError
  | _ => Process.raise (engineError unsupportedMessage)

/-- The body of the two methods of `ShadowVirtualExecutor`: the effect, the effect of a
partial fill, and the texts of the two refusals are theirs. -/
def executeUnder (fault : FaultInjection)
    (effect partialEffect : E1Process Unit) (crashMessage unsupportedMessage : String) :
    E1Process VirtualExecutionResult := do
  beginExecution setup sha token
  match fault.kind with
  | .rejected => executionResult sha .rejected
  | .none => do
      effect
      executionResult sha .accepted
  | .partialFill => do
      partialEffect
      executionResult sha .partialFill
  | kind => do
      onlyIf (fault.applyEffectBeforeFault = true) effect
      faultyResult sha kind crashMessage unsupportedMessage

def executeEntry (intent : EntryIntent) (fault : FaultInjection) :
    E1Process VirtualExecutionResult :=
  executeUnder setup sha token fault (openPosition token intent.position)
    (openPosition token intent.position.halved) "simulated crash after durable intent"
    "unsupported entry fault kind"

def executeSettlement (intent : SettlementIntent)
    (fault : FaultInjection) : E1Process VirtualExecutionResult :=
  executeUnder setup sha token fault (settlePositionSpecific token intent.positionRef)
    (pure ()) "simulated crash after durable settlement intent"
    "unsupported settlement fault kind"

/-- An outcome record whose append fails leaves the engine to a reconciliation. -/
def recordOutcome (entry : JournalEntry) (message : String) : E1Process Unit :=
  onPersistenceError (append setup sha entry)
    (do
      setPhase .reconcileRequired
      Process.raise (engineError message))

/-- `_finish_execution`, for an accepted result. -/
def finishAccepted (result : VirtualExecutionResult) :
    E1Process E1CycleResult :=
  if result.observedStateDigest ≠ x.planned then do
    recordReconcileMismatch setup sha x.time "ACCEPTED_RESULT_STATE_MISMATCH" x.planned
      result.observedStateDigest none
    cycleResult "RECONCILE_MISMATCH_HALTED" ["ACCEPTED_RESULT_STATE_MISMATCH"] true true
  else do
    recordOutcome setup sha
      (x.entry .virtualExecutionConfirmed "VIRTUAL_EFFECT_CONFIRMED" [] x.planned
        result.observedStateDigest result.positionCount (some result.outcome))
      "virtual effect occurred but terminal journal persistence failed"
    let position ← Process.gets E1World.position
    setPhase (stablePhase position)
    cycleResult "VIRTUAL_EXECUTION_CONFIRMED" [] true true

/-- `_finish_execution`, for a rejected result. -/
def finishRejected (result : VirtualExecutionResult) :
    E1Process E1CycleResult := do
  recordOutcome setup sha
    (x.entry .virtualExecutionRejected "VIRTUAL_EXECUTION_REJECTED_NO_RETRY" ["NO_RETRY"]
      x.before result.observedStateDigest result.positionCount (some result.outcome))
    "virtual rejection occurred but terminal journal persistence failed"
  appendHalt setup sha x.time KillReason.executionRejected.value
  cycleResult "VIRTUAL_EXECUTION_REJECTED_NO_RETRY" ["NO_RETRY"] true true

/-- `_finish_execution`, for every other result. -/
def finishUncertain (result : VirtualExecutionResult) :
    E1Process E1CycleResult := do
  recordOutcome setup sha
    (x.entry .virtualExecutionUncertain "VIRTUAL_EXECUTION_UNCERTAIN_RECONCILE_REQUIRED"
      ["NO_RETRY", "NEW_ENTRY_BLOCKED"] x.before result.observedStateDigest
      result.positionCount (some result.outcome))
    "virtual outcome is unknown and terminal journal persistence failed"
  append setup sha
    (x.entry .fakeCriticalAlert "FAKE_CRITICAL_ALERT_RECONCILE_REQUIRED"
      [result.outcome.value] x.before result.observedStateDigest result.positionCount none)
  setPhase .reconcileRequired
  cycleResult "VIRTUAL_EXECUTION_UNCERTAIN_RECONCILE_REQUIRED"
    ["NO_RETRY", "NEW_ENTRY_BLOCKED"] true true

def finishExecution (result : VirtualExecutionResult) :
    E1Process E1CycleResult :=
  match result.outcome with
  | .accepted => finishAccepted setup sha x result
  | .rejected => finishRejected setup sha x result
  | _ => finishUncertain setup sha x result

def recordVenuePersistenceUnknown : E1Process Unit :=
  onPersistenceError
    (do
      let w ← Process.gets id
      append setup sha
        (x.entry .virtualExecutionUncertain "VIRTUAL_VENUE_PERSISTENCE_UNKNOWN_RECONCILE_REQUIRED"
          ["NO_RETRY", "NEW_ENTRY_BLOCKED"] x.before (w.stateDigest sha) w.positionCount
          (some .unknown))
      appendFakeAlert setup sha x.time "VIRTUAL_VENUE_PERSISTENCE_UNKNOWN"
      setPhase .reconcileRequired)
    (setPhase .halted)

/-- The body of `_execute_entry` and `_execute_settlement`, for the method of the executor
that they call. -/
def executeIntent (executor : E1Process VirtualExecutionResult) :
    E1Process E1CycleResult := do
  prepareAndStart setup sha x
  let result ← onPersistenceError executor
    (do
      recordVenuePersistenceUnknown setup sha x
      Process.raise (engineError "virtual venue persistence outcome is unknown"))
  finishExecution setup sha x result

/-- Source `_execute_entry`. -/
def executeEntryIntent (intent : EntryIntent) (market : MarketFrame)
    (fault : FaultInjection) : E1Process E1CycleResult := do
  let w ← Process.gets id
  executeIntent setup sha
    { token
      time := market.evaluationTime
      fault
      before := w.stateDigest sha
      planned := positionDigest sha (some intent.position)
      pnlCategory := .notApplicable
      virtualLoss := 0 }
    (executeEntry setup sha token intent fault)

/-- Source `_execute_settlement`. -/
def executeSettlementIntent (intent : SettlementIntent)
    (market : MarketFrame) (fault : FaultInjection) : E1Process E1CycleResult := do
  let w ← Process.gets id
  executeIntent setup sha
    { token
      time := market.evaluationTime
      fault
      before := w.stateDigest sha
      planned := positionDigest sha none
      pnlCategory := intent.pnlCategory
      virtualLoss := intent.virtualLoss }
    (executeSettlement setup sha token intent fault)

/-- A local identifier for an intent; its text is kept with the run. -/
def mintIntentId (payload : CanonicalText) : E1Process LocalId := do
  Process.modify fun w => { w with mintedTexts := w.mintedTexts ++ [payload] }
  return makeLocalId sha "intent" payload

def entryIdText (label : EngineLabel) (sequence : Nat) (time : Timestamp) : CanonicalText :=
  [("config_hash", .digest (setup.configHash sha).val), ("decision", .text label.value),
    ("run_id", .text setup.runId), ("sequence", .integer sequence), ("time", .integer time)]

def settlementIdText (positionRef : LocalId) (sequence : Nat) (time : Timestamp) :
    CanonicalText :=
  [("action", .text GateAction.virtualSettlement.value),
    ("config_hash", .digest (setup.configHash sha).val), ("position_ref", .digest positionRef),
    ("run_id", .text setup.runId), ("sequence", .integer sequence), ("time", .integer time)]

def entrySide (label : EngineLabel) : PositionSide :=
  if label = .entryBuyCandidate then .long else .short

def entryPrice (side : PositionSide) : { q : ℚ // 0 < q } :=
  match side with
  | .long => ⟨market.ask, lt_of_lt_of_le market.prices.1 market.prices.2⟩
  | .short => ⟨market.bid, market.prices.1⟩

def exitPrice (side : PositionSide) : ℚ :=
  match side with
  | .long => market.bid
  | .short => market.ask

variable (decision : EngineDecision)

def processEntry (market : MarketFrame)
    (protectiveStopPrice : Option ℚ) (fault : FaultInjection) : E1Process E1CycleResult :=
  match protectiveStopPrice with
  | none => riskBlocked setup sha market ["VIRTUAL_PROTECTIVE_STOP_REQUIRED"]
  | some stop => do
      let side := entrySide decision.engineLabel
      let sequence ← Process.gets fun w => w.records.length
      let intentId ← mintIntentId sha
        (entryIdText setup sha decision.engineLabel sequence market.evaluationTime)
      match buildVirtualPosition
          (makeLocalId sha "vposition"
            [("intent_id", .digest intentId), ("run_id", .text setup.runId)])
          side ⟨setup.policy.fixedVirtualUnits, setup.units_pos⟩
          (entryPrice market side) stop with
      | .error e => Process.raise e
      | .ok position => do
          let intent : EntryIntent :=
            { intentId, runId := setup.runId, configHash := setup.configHash sha,
              createdAt := market.evaluationTime, position }
          let w ← Process.gets id
          let reasons := entryReasons setup sha w intent market
          if reasons ≠ [] then riskBlocked setup sha market reasons.eraseDups
          else do
            let token ← issue setup sha .virtualEntry intent.intentId (intent.intentDigest sha)
            executeEntryIntent setup sha token intent market fault

def processSettlement (market : MarketFrame)
    (fault : FaultInjection) (emergency : Bool) : E1Process E1CycleResult := do
  let held ← Process.gets E1World.position
  match held with
  | none => riskBlocked setup sha market ["POSITION_SPECIFIC_SETTLEMENT_MISMATCH"]
  | some position =>
      if decision.positionRef? ≠ some position.positionRef then
        riskBlocked setup sha market ["POSITION_SPECIFIC_SETTLEMENT_MISMATCH"]
      else
        match classifyPnl position (exitPrice market position.side) with
        | .error e => Process.raise e
        | .ok (pnlCategory, virtualLoss) => do
            let sequence ← Process.gets fun w => w.records.length
            let intentId ← mintIntentId sha
              (settlementIdText setup sha position.positionRef sequence market.evaluationTime)
            let intent : SettlementIntent :=
              { intentId, runId := setup.runId, configHash := setup.configHash sha,
                createdAt := market.evaluationTime, positionRef := position.positionRef,
                exitPrice := exitPrice market position.side, pnlCategory, virtualLoss }
            let w ← Process.gets id
            let reasons := settlementReasons setup sha w intent market emergency
            if reasons ≠ [] then riskBlocked setup sha market reasons.eraseDups
            else do
              let token ← issue setup sha .virtualSettlement intent.intentId
                (intent.intentDigest sha)
              executeSettlementIntent setup sha token intent market fault

def killEntry (deadman : Bool) (now : Timestamp) (reason : KillReason)
    (reasonCodes : List String) : JournalEntry where
  eventType := if deadman then .deadmanActivated else .killActivated
  timestamp := now
  statusLabel := reason.value
  reasonCodes
  expectedStateDigest := w.expectedDigest sha
  observedStateDigest := some (w.stateDigest sha)
  positionCount := w.positionCount

/-- The phases in which a kill makes no attempt to flatten. -/
def EnginePhase.unreconciled : EnginePhase → Bool
  | .bootReconcileRequired | .restartAckRequired | .reconcileRequired | .halted => true
  | .readyFlat | .positionOpen => false

def killUnreconciled (reason : KillReason) (deadman : Bool) :
    E1Process E1CycleResult := do
  setPhase .halted
  onPersistenceError
    (do
      let w ← Process.gets id
      append setup sha
        (killEntry sha w deadman now reason
          ["NEW_ENTRY_BLOCKED_IMMEDIATELY", "UNRECONCILED_STATE_NO_EXECUTION_ATTEMPT"])
      appendFakeAlert setup sha now "UNRECONCILED_STATE_KILL_REQUIRES_RESTART_RECONCILE"
      appendHalt setup sha now reason.value)
    (Process.raise (engineError "blocked-state kill could not be durably completed"))
  cycleResult "RECONCILE_REQUIRED_DURABLE_KILL_NO_ATTEMPT"
    ["NO_RETRY", "UNRESOLVED_OR_UNRECONCILED_STATE"] false false

def flattenReason : SafeText := ⟨"KILL_POSITION_SPECIFIC_FLATTEN", by decide +kernel⟩

def killFlatten (reason : KillReason) (market : MarketFrame)
    (fault : FaultInjection) (position : VirtualPosition) : E1Process E1CycleResult := do
  let attempted ←
    Process.attempt
      (do
        let result ← processSettlement setup sha
          (.settlement false position.positionRef (setup.configHash sha) flattenReason)
          market fault true
        return some result)
      fun e => if e.exceptionClass = .engine then pure none else Process.raise e
  match attempted with
  | none => do
      appendFakeAlert setup sha now "KILL_FLATTEN_PERSISTENCE_UNKNOWN"
      appendHalt setup sha now reason.value
      let records ← Process.gets E1World.records
      cycleResult "KILL_HALTED_ESCALATION_REQUIRED" ["KILL_FLATTEN_PERSISTENCE_UNKNOWN", "NO_RETRY"]
        (records.any fun r => decide (r.eventType = .virtualExecutionStarted ∧
          r.action = some .virtualSettlement)) true
  | some result => do
      let held ← Process.gets E1World.position
      onlyIf (held.isSome = true ∨ result.status ≠ "VIRTUAL_EXECUTION_CONFIRMED")
        (appendFakeAlert setup sha now "KILL_FLATTEN_NOT_CONFIRMED_NO_RETRY")
      appendHalt setup sha now reason.value
      let held ← Process.gets E1World.position
      cycleResult
        (if held.isSome then "KILL_HALTED_ESCALATION_REQUIRED"
          else "KILL_FLATTENED_ONCE_THEN_HALTED")
        [reason.value, "NO_RETRY"] result.virtualExecutionAttempted result.tokenIssued

def killStable (reason : KillReason) (market : Option MarketFrame)
    (fault : FaultInjection) (deadman : Bool) : E1Process E1CycleResult := do
  let w ← Process.gets id
  onPersistenceError
    (append setup sha (killEntry sha w deadman now reason ["NEW_ENTRY_BLOCKED_IMMEDIATELY"]))
    (do
      setPhase .halted
      Process.raise (engineError "kill activation could not be durably recorded"))
  let held ← Process.gets E1World.position
  match held, market with
  | none, _ => do
      appendHalt setup sha now reason.value
      cycleResult "KILL_HALTED_FLAT" [reason.value] false false
  | some _, none => do
      appendFakeAlert setup sha now "KILL_FLATTEN_MARKET_FRAME_MISSING"
      appendHalt setup sha now reason.value
      cycleResult "KILL_HALTED_ESCALATION_REQUIRED" ["KILL_FLATTEN_MARKET_FRAME_MISSING"] false
        false
  | some position, some market => killFlatten setup sha now reason market fault position

def activateKill (reason : KillReason) (market : Option MarketFrame)
    (fault : FaultInjection) (deadman : Bool) : E1Process E1CycleResult := do
  let w ← Process.gets id
  if w.killActive = true then do
    setPhase .halted
    cycleResult "KILL_ALREADY_ACTIVE_NO_SECOND_ATTEMPT" ["NO_RETRY", "STICKY_KILL_ACTIVE"] false
      false
  else if w.halted = true then do
    setPhase .halted
    cycleResult "ENGINE_ALREADY_HALTED_NO_FURTHER_ATTEMPT" ["NO_RETRY", "STICKY_HALT_ACTIVE"]
      false false
  else do
    let pending ← unresolvedIntents
    if pending ≠ [] ∨ w.phase.unreconciled = true then
      killUnreconciled setup sha now reason deadman
    else killStable setup sha now reason market fault deadman

def checkDeadman (market : Option MarketFrame) (fault : FaultInjection) :
    E1Process E1CycleResult := do
  let heartbeat ← Process.gets fun w => ShadowIntentJournal.lastHeartbeat w.records
  if heartbeat.any (fun beat => decide (0 ≤ now - beat ∧
      now - beat ≤ seconds setup.policy.heartbeatTimeoutSeconds)) = true then
    cycleResult "DEADMAN_HEARTBEAT_WITHIN_SLA" [] false false
  else activateKill setup sha now .deadmanHeartbeatExpired market fault true

def assertProcessableState : E1Process Unit := do
  let w ← Process.gets id
  if w.killActive = true ∨ w.halted = true then do
    setPhase .halted
    Process.raise (engineError "sticky halt/kill blocks processing")
  else do
    Process.require (w.phase = .readyFlat ∨ w.phase = .positionOpen)
      (engineError "engine must reconcile and acknowledge before processing")
    let pending ← unresolvedIntents
    if pending ≠ [] then do
      setPhase .reconcileRequired
      Process.raise (engineError "unresolved intent blocks processing")
    else if w.expectedDigest sha ≠ w.stateDigest sha then do
      recordReconcileMismatch setup sha market.evaluationTime "PRE_DECISION_STATE_MISMATCH"
        (w.expectedDigest sha) (w.stateDigest sha) none
      Process.raise (engineError "pre-decision reconcile mismatch")
    else pure ()

def recordNoAction (market : MarketFrame) :
    E1Process E1CycleResult := do
  let w ← Process.gets id
  append setup sha
    { stableEntry sha w .noActionRecorded market.evaluationTime "ENGINE_NO_ACTION_TERMINAL"
        [decision.reasonCode.val] with
      decisionDigest := some (decision.decisionDigest sha)
      hypothesis := decision.identity? }
  cycleResult "ENGINE_NO_ACTION_TERMINAL" [decision.reasonCode.val] false false

def processDecision (market : MarketFrame)
    (protectiveStopPrice : Option ℚ) (fault : FaultInjection) : E1Process E1CycleResult := do
  assertProcessableState setup sha market
  if decision.configHash ≠ setup.configHash sha then
    activateKill setup sha market.evaluationTime .configHashMismatch (some market) {} false
  else if decision.registered setup.policy.hypothesisRegistry = false then
    activateKill setup sha market.evaluationTime .safetyViolation (some market) {} false
  else
    match decision.engineLabel with
    | .noAction => recordNoAction setup sha decision market
    | .entryBuyCandidate | .entrySellCandidate =>
        processEntry setup sha decision market protectiveStopPrice fault
    | .exitCandidate | .settlementCandidate =>
        processSettlement setup sha decision market fault false

def FaultKind.reportedHandled : FaultKind → Bool
  | .timeout | .unknownResult | .networkError | .crashMidVirtualExecution => true
  | .none | .rejected | .partialFill | .restartReconcile => false

def haltRejected (source : Option JournalRecord) : E1Process Unit := do
  let w ← Process.gets id
  onlyIf ((source.any fun s => decide (s.faultKind = .rejected)) = true ∧
      w.killActive = false ∧ w.halted = false)
    (do
      appendFakeAlert setup sha now "REJECTED_TERMINAL_PERSISTENCE_RECOVERED_NO_RETRY"
      appendHalt setup sha now KillReason.executionRejected.value)

def haltKilled : E1Process Unit := do
  let w ← Process.gets id
  match w.killActive, w.halted, ShadowIntentJournal.lastActivation? w.records with
  | true, false, some activation => do
      onlyIf (w.position.isSome = true)
        (appendFakeAlert setup sha now
          "STICKY_KILL_RESTART_POSITION_REMAINS_MANUAL_ESCALATION")
      appendHalt setup sha now activation.statusLabel
  | _, _, _ => pure ()

def reportFaults (isRestart : Bool) : Option JournalRecord → E1Process Unit
  | none => pure ()
  | some source => do
      onlyIf (source.faultKind.reportedHandled = true)
        (recordFaultHandled setup sha now source.faultKind source)
      onlyIf (isRestart = true) (recordFaultHandled setup sha now .restartReconcile source)

def recordReconcileMatched (isRestart : Bool) (status : ReconcileStatus)
    (observed : HexDigest) (source : Option JournalRecord) : E1Process ReconcileStatus := do
  let w ← Process.gets id
  -- the expected digest of a match is the observed one
  append setup sha
    (reconcileEntry .reconcileMatched now status.value [] observed observed w.positionCount source)
  reportFaults setup sha now isRestart source
  haltRejected setup sha now source
  haltKilled setup sha now
  let w ← Process.gets id
  setPhase (if w.killActive = true ∨ w.halted = true then .halted else .restartAckRequired)
  return status

def reconcile (isRestart : Bool) : E1Process ReconcileStatus := do
  let w ← Process.gets id
  let observed := w.stateDigest sha
  let pending ← unresolvedIntents
  match pending with
  | [] =>
      if observed ≠ w.expectedDigest sha then do
        recordReconcileMismatch setup sha now "STABLE_VENUE_STATE_MISMATCH" (w.expectedDigest sha)
          observed none
        return .mismatchHalted
      else recordReconcileMatched setup sha now isRestart .matchedStableState observed none
  | [source] =>
      if some observed = source.stateBeforeDigest then
        recordReconcileMatched setup sha now isRestart .recoveredNoEffect observed (some source)
      else if some observed = source.plannedStateDigest then
        recordReconcileMatched setup sha now isRestart .recoveredPlannedEffect observed
          (some source)
      else do
        recordReconcileMismatch setup sha now "INTENT_VENUE_STATE_MISMATCH"
          (source.plannedStateDigest.getD (w.expectedDigest sha)) observed (some source)
        return .mismatchHalted
  | _ :: _ :: _ => do
      recordReconcileMismatch setup sha now "MULTIPLE_UNRESOLVED_INTENTS" (w.expectedDigest sha)
        observed none
      return .mismatchHalted

def bootReconcile : E1Process ReconcileStatus := do
  let w ← Process.gets id
  Process.require (w.phase = .bootReconcileRequired)
    (engineError "boot reconcile may run exactly once per engine instance")
  if w.journalPreexisting = true then reconcile setup sha now true
  else do
    append setup sha
      { stableEntry sha w .runStarted now "E1_RUN_STARTED" [] with
        expectedStateDigest := positionDigest sha none }
    if w.position.isSome = true then do
      recordReconcileMismatch setup sha now "INITIAL_VENUE_NOT_FLAT" (positionDigest sha none)
        (w.stateDigest sha) none
      return .mismatchHalted
    else do
      setPhase .readyFlat
      return .initialFlatConfirmed

def reconcileAfterUncertain : E1Process ReconcileStatus := do
  let w ← Process.gets id
  Process.require (w.phase = .reconcileRequired)
    (engineError "engine is not awaiting reconciliation")
  reconcile setup sha now false

def acknowledgeRestart (operatorAcknowledged : Bool) :
    E1Process E1CycleResult := do
  let w ← Process.gets id
  Process.require (w.phase = .restartAckRequired)
    (engineError "restart acknowledgement is not currently required")
  if operatorAcknowledged = false then
    cycleResult "RESTART_ACK_NOT_PROVIDED" ["RESTART_REMAINS_BLOCKED"] false false
  else do
    append setup sha
      (stableEntry sha w .restartAckRecorded now "OPERATOR_RESTART_ACK_RECORDED" [])
    setPhase (stablePhase w.position)
    cycleResult "RESTART_ACKNOWLEDGED" [] false false

def recordHeartbeat : E1Process E1CycleResult := do
  let w ← Process.gets id
  Process.require (w.phase = .readyFlat ∨ w.phase = .positionOpen)
    (engineError "heartbeat cannot resume a blocked or halted engine")
  append setup sha
    (stableEntry sha w .heartbeatRecorded now "OPERATOR_HEARTBEAT_ACK_RECORDED" [])
  cycleResult "HEARTBEAT_RECORDED" [] false false

/-- Source `record_incident`.  The result takes only reasons that are safe identifiers. -/
def recordIncident (incidentRef severity reasonCode : String) :
    E1Process E1CycleResult := do
  let w ← Process.gets id
  append setup sha
    { stableEntry sha w .incidentRecorded now "E1_INCIDENT_RECORDED" [reasonCode] with
      expectedStateDigest := w.expectedDigest sha
      incidentRef := some incidentRef
      incidentSeverity := some severity }
  Process.require (safeId reasonCode.toList = true)
    (contractError "cycle reason_codes must be safe identifiers")
  cycleResult "E1_INCIDENT_RECORDED" [reasonCode] false false

def recordPostmortem (incidentRef : String) : E1Process E1CycleResult := do
  let w ← Process.gets id
  append setup sha
    { stableEntry sha w .postmortemRecorded now "E1_POSTMORTEM_RECORDED" [] with
      expectedStateDigest := w.expectedDigest sha
      incidentRef := some incidentRef }
  cycleResult "E1_POSTMORTEM_RECORDED" [] false false

end Engine

end FxStrategyLab.E1
