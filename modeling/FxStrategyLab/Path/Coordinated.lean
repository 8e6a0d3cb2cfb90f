import FxStrategyLab.Path.Transport

/-!
# The coordinated actual path

This file embeds `V4GmoCoordinatedActualPath`: every method takes one-use
evidence of a fixed three-GET reconciliation, commits its attempt to the ledger
and only then calls the transport.

The five fields of the source that never change are the structure
`V4GmoCoordinatedActualPath`; it carries the policy binding that the
constructor requires, so that the later checks of the same binding cannot fail
and are left out.  A callback of the source, a file access and a sleep are
points where `outside` may raise or kill.
-/

namespace FxStrategyLab

open Library

variable {β : Type}

def coordinatedPathError (label : String) : V4Error :=
  { exceptionClass := .coordinatedPath, message := label }

/-- Source `V4GmoCoordinatedActualPath`, the fields that do not change. -/
structure V4GmoCoordinatedActualPath (β : Type) where
  sha : Sha256
  broker : Broker β
  generation : V4GmoFrozenGeneration
  riskPolicy : PhaseBRiskPolicy
  deadManPolicy : DeadManPolicy
  policies_bound :
    riskPolicy.policyLabel = generation.riskPolicyLabel ∧
      riskPolicy.digest sha = generation.riskPolicyDigest ∧
      deadManPolicy.policyLabel = generation.deadManPolicyLabel ∧
      deadManPolicy.digest sha = generation.deadManPolicyDigest

/-- Source `_RECONCILIATION_UNKNOWN_LABELS`, with its default. -/
def reconciliationUnknownLabel : Option String → String
  | some "V4_GMO_PRIVATE_RESULT_UNKNOWN_TIMEOUT" =>
      "V4_COORDINATED_RECONCILIATION_UNKNOWN_TIMEOUT"
  | some "V4_GMO_PRIVATE_RESULT_UNKNOWN_CONNECTION" =>
      "V4_COORDINATED_RECONCILIATION_UNKNOWN_CONNECTION"
  | some "V4_GMO_PRIVATE_RESULT_UNKNOWN_NON_JSON" =>
      "V4_COORDINATED_RECONCILIATION_UNKNOWN_NON_JSON"
  | some "V4_GMO_PRIVATE_GET_REJECTED_BY_BROKER" =>
      "V4_COORDINATED_RECONCILIATION_REJECTED_BY_BROKER"
  | _ => "V4_COORDINATED_RECONCILIATION_UNKNOWN"

def preflightMaximumAge : Nat := monotonicSeconds 2

def evidenceMaximumAge : Nat := monotonicSeconds 15

namespace V4GmoActualReconciliation

variable (r : V4GmoActualReconciliation)

/-- The account shows the filled position of the entry and no protection yet. -/
def showsExactFill (side : SignalDecision) : Prop :=
  r.snapshot.fresh = true ∧ r.snapshot.resultKnown = true ∧
    r.snapshot.positionCount = 1 ∧ r.snapshot.positionSide = some side ∧
    r.averageFillPrice.isSome ∧ 0 < r.snapshot.filledSize ∧
    r.snapshot.pendingEntrySize = 0 ∧ r.snapshot.entryStatus = .filled ∧
    r.snapshot.protectionSize = 0 ∧ r.snapshot.protectionStatus = .none ∧
    r.positionBundleTotal = some r.snapshot.filledSize
deriving Decidable

def showsEntryRemainder (side : SignalDecision) : Prop :=
  r.snapshot.fresh = true ∧ r.snapshot.resultKnown = true ∧
    (r.snapshot.entryStatus = .pending ∨ r.snapshot.entryStatus = .partially) ∧
    0 < r.snapshot.pendingEntrySize ∧ r.snapshot.positionCount ≤ 1 ∧
    (r.snapshot.positionSide = none ∨ r.snapshot.positionSide = some side) ∧
    r.snapshot.protectionSize = 0 ∧ r.snapshot.protectionStatus = .none
deriving Decidable

def showsConfirmedProtection : Prop :=
  r.snapshot.resultKnown = true ∧ r.snapshot.protectionStatus = .exactMatch ∧
    r.snapshot.protectionSize = r.snapshot.filledSize ∧ 0 < r.snapshot.protectionSize
deriving Decidable

/-- The account shows nothing of the cycle but its settlement. -/
def showsFlatClosed (expectedSize : Nat) : Prop :=
  r.snapshot.fresh = true ∧ r.snapshot.resultKnown = true ∧
    r.snapshot.positionCount = 0 ∧ r.snapshot.positionSide = none ∧
    r.snapshot.filledSize = 0 ∧ r.snapshot.pendingEntrySize = 0 ∧
    r.snapshot.protectionSize = 0 ∧ r.positionBundle = none ∧
    r.closedSize = expectedSize ∧ r.realizedPnlJpyInternal.isSome
deriving Decidable

def showsExactlyProtected (side : SignalDecision)
    (expectedSize : Nat) : Prop :=
  r.snapshot.fresh = true ∧ r.snapshot.resultKnown = true ∧
    r.snapshot.positionCount = 1 ∧ r.snapshot.positionSide = some side ∧
    r.snapshot.filledSize = expectedSize ∧ r.snapshot.pendingEntrySize = 0 ∧
    r.snapshot.protectionStatus = .exactMatch ∧
    r.snapshot.protectionSize = expectedSize ∧
    r.positionBundleTotal = some expectedSize
deriving Decidable

end V4GmoActualReconciliation

namespace V4GmoCoordinatedActualPath

open Path

variable (path : V4GmoCoordinatedActualPath β)

/-- Source `process_lock.held`, with the label of most methods. -/
def requireLock : Path β Unit := do
  let held ← Process.gets PathWorld.processLockHeld
  require (held = true) (coordinatedPathError "V4_COORDINATED_PROCESS_LOCK_REQUIRED")

def haltAndRefuse {α : Type} (label : String) : Path β α := do
  onStore engageUnknownHalt
  refuse (coordinatedPathError label)

/-- Run a store method; an exception of the coordinator latches the halt. -/
def onStoreHalting {α : Type} (x : Store α) : Path β α :=
  (onStore x).attempt fun e =>
    if e.exceptionClass = .coordinator then do
      onStore engageUnknownHalt
      Process.raise e
    else Process.raise e

variable (cycleRef : Digest)

def mintReconciliationEvidence
    (reconciliation : V4GmoActualReconciliation) (issuedMonotonic : Monotonic) :
    Path β V4AuthoritativeReconciliationEvidence := do
  let objectId ← Process.gets PathWorld.evidenceIssued
  Process.modify fun w =>
    { w with
      evidenceIssued := objectId + 1
      reconciliations := (objectId, reconciliation) :: w.reconciliations }
  pure
    { objectId
      generationDigest := path.generation.digest
      cycleRef
      bindingDigest := reconciliation.bindingDigestInternal path.sha
      issuedMonotonic }

def evidenceInvalid : V4Error :=
  coordinatedPathError "V4_COORDINATED_RECONCILIATION_EVIDENCE_INVALID"

def consumeReconciliationEvidence (evidence : V4AuthoritativeReconciliationEvidence)
    (cycleRef : Digest) (nowMonotonic : Monotonic) (maximumAge : Nat) :
    Path β (V4GmoActualReconciliation × Digest) := do
  let held ← Process.gets fun w => w.reconciliations.lookup evidence.objectId
  require (evidence.generationDigest = path.generation.digest ∧
      evidence.cycleRef = cycleRef) evidenceInvalid
  match held with
  | none => refuse evidenceInvalid
  | some reconciliation => do
      requireTimely (evidence.issuedMonotonic ≤ nowMonotonic ∧
        nowMonotonic - evidence.issuedMonotonic ≤ maximumAge) evidenceInvalid
      Process.modify fun w =>
        { w with
          reconciliations :=
            w.reconciliations.filter fun entry => entry.1 ≠ evidence.objectId }
      require (reconciliation.bindingDigestInternal path.sha = evidence.bindingDigest)
        evidenceInvalid
      pure (reconciliation, evidence.bindingDigest)

def requireReady (action : V4GmoAction) (plan : V4GmoActionPlan) : Path β Unit := do
  requireLock
  if action = .marketEntry then do
    let halted ← onStore unknownHaltLatched
    require (halted = false) (coordinatedPathError "V4_COORDINATED_UNKNOWN_HALT_LATCHED")
  require (plan.action = action) (coordinatedPathError "V4_COORDINATED_ACTION_MISMATCH")
  onStore (bindGeneration path.generation)

def executionPolicy : V4GmoExecutionPolicy where
  strategyVersion := path.generation.strategyVersion
  signalConfigHash := path.generation.signalConfigHash
  selectedHorizon := path.generation.selectedHorizon
  brokerCapabilityEvidenceHash := path.generation.brokerCapabilityEvidenceHash
  maxEntriesPerDay := path.generation.maximumEntriesPerDay
  entries_bounds := path.generation.entries_bounds

/-- Read the dead-man file; a stale or future heartbeat is decided by the clock. -/
def requireDeadManAlive (nowUtc : Instant) (label : String) : Path β Unit := do
  outside
  let file ← Process.gets PathWorld.deadManFile
  let (alive, reason) := evaluateDeadMan path.sha path.deadManPolicy file nowUtc
  if alive = false then do
    onStore engageUnknownHalt
    refuse ((coordinatedPathError label).lateIf
      (decide (reason = "DEAD_MAN_HEARTBEAT_STALE" ∨
        reason = "DEAD_MAN_HEARTBEAT_FROM_FUTURE")))

/-- Source `PhaseBRiskStore.load`. -/
def loadRisk : Path β PhaseBRiskState := do
  outside
  let file ← Process.gets PathWorld.riskFile
  ofResult (loadRiskState path.sha path.riskPolicy file)

/-- Source `PhaseBRiskStore.save`: validate, then replace the file. -/
def saveRisk (state : PhaseBRiskState) : Path β Unit := do
  ofResult (validateRiskState path.sha path.riskPolicy state)
  outside
  Process.modify fun w => { w with riskFile := .holds state }

/-- Source `_require_entry_runtime_safety`: the state with its calendar rolled. -/
def requireEntryRuntimeSafety (nowUtc : Instant) (cycleDayJst : TradingDay) :
    Path β PhaseBRiskState := do
  path.requireDeadManAlive nowUtc "V4_COORDINATED_DEAD_MAN_BLOCKED"
  let state ← path.loadRisk
  let (rolled, gate) ← ofResult
    (evaluateRiskBeforeEntry path.sha path.riskPolicy state cycleDayJst)
  require (gate.allowed = true) (coordinatedPathError "V4_COORDINATED_RISK_GATE_BLOCKED")
  pure rolled

def requireTransportBoundaryDeadMan : Path β Unit := do
  let nowUtc ← wallNow
  path.requireDeadManAlive nowUtc "V4_COORDINATED_TRANSPORT_BOUNDARY_DEAD_MAN_BLOCKED"

/-- The earliest time of the next POST by the frozen spacing. -/
def postTarget (now : Monotonic) (adapter : AdapterState) : Monotonic :=
  max now
    (max ((adapter.lastPrivateGetStart.map (· + v4PrivateGetToPostPacing)).getD 0)
      ((adapter.lastPrivatePostStart.map (· + v4PrivatePostToPostPacing)).getD 0))

def paceBeforePrivatePost : Path β Unit := do
  let now ← monotonicNow
  let adapter ← Process.gets PathWorld.adapter
  if now < postTarget now adapter then waitFor (postTarget now adapter - now)

variable (plan : V4GmoActionPlan)

/-- Source `_finish_transport`; an interrupt may fall just before or just after the
recording. -/
def finishTransport (outcome : V4GmoPrivateOutcome) :
    Path β Unit := do
  outside
  onStore (recordTransportOutcome plan.cycleRef plan.action outcome)
  outside

/-- Source `perform_once` and the recording of its outcome. -/
def sendAndFinish (input : PerformInput) : Path β V4GmoPrivateOutcome := do
  let nowMonotonic ← monotonicNow
  let outcome ← performOnce path.sha path.broker path.generation.digest input nowMonotonic
  finishTransport input.plan outcome
  pure outcome

/-- The handler that the three `perform` methods share: a failure under a latched
halt is passed on; a failure after a POST latches the halt; any other failure
says that no POST was sent. -/
def dispatchGuarded (dispatchedBefore : Nat) (body : Path β V4GmoPrivateOutcome) :
    Path β V4GmoPrivateOutcome :=
  body.attempt fun e => do
    let halted ← onStore unknownHaltLatched
    if halted = true then Process.raise e
    else do
      let dispatched ← Process.gets fun w => w.transport.postsDispatched
      if dispatchedBefore < dispatched then do
        onStore engageUnknownHalt
        Process.raise e
      else
        Process.raise (coordinatedPathError "V4_GMO_PRE_DISPATCH_FAILURE_NO_POST_SENT")

def dispatchPrepared (attempt : V4PreparedAttempt)
    (body : Path β V4GmoPrivateOutcome) : Path β V4GmoPrivateOutcome := do
  if attempt.cycleRef ≠ plan.cycleRef then
    haltAndRefuse "V4_COORDINATED_CYCLE_MISMATCH"
  else do
    let dispatchedBefore ← Process.gets fun w => w.transport.postsDispatched
    dispatchGuarded dispatchedBefore body

def reconcileOnceFixed (side : SignalDecision)
    (requestedSize : Nat) : Path β V4AuthoritativeReconciliationEvidence := do
  let held ← Process.gets PathWorld.processLockHeld
  require (held = true) (coordinatedPathError "V4_COORDINATED_RECONCILIATION_BLOCKED")
  note (.reconciling cycleRef)
  let result ← reconcileAtFixedCadence path.broker cycleRef side requestedSize
  if result.snapshot.resultKnown = true then do
    let issuedMonotonic ← monotonicNow
    path.mintReconciliationEvidence cycleRef result issuedMonotonic
  else do
    let failure ← Process.gets fun w => w.adapter.lastFailureClass
    haltAndRefuse (reconciliationUnknownLabel failure)

def preflightInput (signalFingerprint cycleRef : Digest)
    (instructionBid instructionAsk : ℚ) (reconciliation : V4GmoActualReconciliation)
    (bindingDigest : Digest) : EntryPreflightInput where
  evidence :=
    { generationDigest := path.generation.digest
      cycleRef
      signalFingerprint
      clockStatusLabel := "NETWORK_TIME_ENABLED_VERIFIED"
      notificationStatusLabel := "PUSHOVER_ACK_AND_EMAIL_RECEIVED"
      accountExclusivityLabel := "H11_V4_ACCOUNT_EXCLUSIVE_CURRENT_GENERATION"
      unownedPositionCount := reconciliation.unownedPositionCount
      activeOrderCount := reconciliation.accountActiveOrderCount
      unownedActiveOrderCount := reconciliation.unownedActiveOrderCount }
  snapshot := reconciliation.snapshot
  positionBundlePresent := reconciliation.positionBundle.isSome
  averageFillPricePresent := reconciliation.averageFillPrice.isSome
  instructionBid
  instructionAsk
  authoritativeReconciliationDigest := bindingDigest

def recordCanaryEntryPreflight (signalFingerprint cycleRef : Digest)
    (instructionBid instructionAsk : ℚ)
    (evidence : V4AuthoritativeReconciliationEvidence) : Path β Digest := do
  requireLock
  onStore (bindGeneration path.generation)
  -- the preparation evidence is used up here
  outside
  let nowUtc ← wallNow
  let nowMonotonic ← monotonicNow
  let (reconciliation, bindingDigest) ←
    path.consumeReconciliationEvidence evidence cycleRef nowMonotonic preflightMaximumAge
  let authorization ← onStore
    (recordEntryPreflight path.sha
      (path.preflightInput signalFingerprint cycleRef instructionBid instructionAsk
        reconciliation bindingDigest) nowUtc nowMonotonic)
  let authorizations ← Process.gets PathWorld.entryAuthorizations
  if (authorizations.lookup signalFingerprint).isSome then
    haltAndRefuse "V4_COORDINATED_ENTRY_AUTHORIZATION_DUPLICATE"
  else do
    Process.modify fun w =>
      { w with
        entryAuthorizations := (signalFingerprint, authorization) :: w.entryAuthorizations }
    pure authorization.preflightDigest

def recoveryInput (reconciliation : V4GmoActualReconciliation)
    (bindingDigest : Digest) : RecoveryInput where
  cycleRef
  snapshot := reconciliation.snapshot
  positionBundleTotal := reconciliation.positionBundleTotal
  authoritativeReconciliationDigest := bindingDigest

/-- The common part of the two recoveries: the resolution, the reconciliation it
rests on, and the time of the check. -/
def resolveWithEvidence
    (evidence : V4AuthoritativeReconciliationEvidence) :
    Path β (PendingTransportResolution × V4GmoActualReconciliation × Monotonic) := do
  requireLock
  onStore (bindGeneration path.generation)
  let nowMonotonic ← monotonicNow
  let (reconciliation, bindingDigest) ←
    path.consumeReconciliationEvidence evidence cycleRef nowMonotonic evidenceMaximumAge
  let nowUtc ← wallNow
  let resolution ← onStoreHalting
    (resolvePendingTransport (recoveryInput cycleRef reconciliation bindingDigest) nowUtc)
  pure (resolution, reconciliation, nowMonotonic)

def recoverPendingTransportOnce
    (evidence : V4AuthoritativeReconciliationEvidence) :
    Path β PendingTransportResolution := do
  let (resolution, _, _) ← path.resolveWithEvidence cycleRef evidence
  pure resolution

/-- Source `recover_pending_transport_and_carry_once`: the carried evidence is
issued at the time of the check. -/
def recoverPendingTransportAndCarryOnce
    (evidence : V4AuthoritativeReconciliationEvidence) :
    Path β (PendingTransportResolution × V4AuthoritativeReconciliationEvidence) := do
  let (resolution, reconciliation, nowMonotonic) ←
    path.resolveWithEvidence cycleRef evidence
  let carried ← path.mintReconciliationEvidence cycleRef reconciliation nowMonotonic
  pure (resolution, carried)

/-- The part of `perform_market_once` after the commit of the attempt. -/
def marketBody (attempt : V4PreparedAttempt)
    (riskState : PhaseBRiskState) (cycleDayJst : TradingDay) :
    Path β V4GmoPrivateOutcome := do
  let recorded ← ofResult
    (recordRiskEntryAttempt path.sha path.riskPolicy riskState cycleDayJst)
  path.saveRisk recorded
  let ledgerCount ← onStore (marketAttemptCountForDay cycleDayJst)
  require ((ledgerCount : Int) = recorded.entriesToday)
    (coordinatedPathError "V4_COORDINATED_ENTRY_COUNTER_MISMATCH")
  -- the callbacks after the commit and before the MARKET transport
  outside
  outside
  paceBeforePrivatePost
  path.requireTransportBoundaryDeadMan
  path.sendAndFinish { plan, authorization := attempt.authorization }

variable (signalFingerprint : Digest)

def performMarketOnce (plan : V4GmoActionPlan) :
    Path β V4GmoPrivateOutcome := do
  let nowUtc ← wallNow
  let nowMonotonic ← monotonicNow
  let cycleDayJst := v4GmoTradingDayJst nowUtc
  path.requireReady .marketEntry plan
  requireTimely (path.executionPolicy.entryTimeAllowed nowUtc = true)
    (coordinatedPathError "V4_COORDINATED_ENTRY_TIME_BLOCKED")
  let riskState ← path.requireEntryRuntimeSafety nowUtc cycleDayJst
  let ledgerCountBefore ← onStore (marketAttemptCountForDay cycleDayJst)
  if (ledgerCountBefore : Int) ≠ riskState.entriesToday then
    haltAndRefuse "V4_COORDINATED_ENTRY_COUNTER_MISMATCH"
  else do
    let authorizations ← Process.gets PathWorld.entryAuthorizations
    match authorizations.lookup signalFingerprint with
    | none =>
        refuse (coordinatedPathError "V4_COORDINATED_ENTRY_AUTHORIZATION_REQUIRED")
    | some authorization => do
        Process.modify fun w =>
          { w with
            entryAuthorizations :=
              w.entryAuthorizations.filter fun entry => entry.1 ≠ signalFingerprint }
        let attempt ← onStore
          (recordMarketAttempt path.sha authorization signalFingerprint plan nowUtc
            nowMonotonic)
        dispatchPrepared plan attempt (path.marketBody plan attempt riskState cycleDayJst)

def prepareExactProtectionPlan
    (evidence : V4AuthoritativeReconciliationEvidence) :
    Path β (V4GmoExactProtectionPlan × V4AuthoritativeReconciliationEvidence) := do
  let cycleRef ← onStore (cycleRefForSignal signalFingerprint)
  let _nowUtc ← wallNow
  let nowMonotonic ← monotonicNow
  let (reconciliation, _) ←
    path.consumeReconciliationEvidence evidence cycleRef nowMonotonic evidenceMaximumAge
  let side ← onStore (sideForSignal signalFingerprint)
  if ¬reconciliation.showsExactFill side then
    haltAndRefuse "V4_COORDINATED_EXACT_FILL_RECONCILIATION_REQUIRED"
  else do
    let plan ← onStore
      (persistExactProtectionPlan path.sha signalFingerprint
        (reconciliation.averageFillPrice.getD 0) reconciliation.snapshot.filledSize
        nowMonotonic)
    let carried ← path.mintReconciliationEvidence cycleRef reconciliation nowMonotonic
    pure (plan, carried)

def prepareCancelEntryRemainderPlan
    (evidence : V4AuthoritativeReconciliationEvidence) :
    Path β (V4GmoActionPlan × V4AuthoritativeReconciliationEvidence) := do
  let cycleRef ← onStore (cycleRefForSignal signalFingerprint)
  let nowMonotonic ← monotonicNow
  let (reconciliation, _) ←
    path.consumeReconciliationEvidence evidence cycleRef nowMonotonic evidenceMaximumAge
  let side ← onStore (sideForSignal signalFingerprint)
  if ¬reconciliation.showsEntryRemainder side then
    haltAndRefuse "V4_COORDINATED_ENTRY_REMAINDER_RECONCILIATION_REQUIRED"
  else do
    let plan ← ofResult
      (buildV4ActionPlan cycleRef .cancelEntryRemainder side
        reconciliation.snapshot.pendingEntrySize path.generation.protectionContractHash)
    let carried ← path.mintReconciliationEvidence cycleRef reconciliation nowMonotonic
    pure (plan, carried)

/-- The part of the protection and risk-reducing methods after the commit. -/
def reconciledBody (input : PerformInput) : Path β V4GmoPrivateOutcome := do
  outside
  paceBeforePrivatePost
  path.sendAndFinish input

def performExactProtectionOnce (plan : V4GmoActionPlan)
    (protectionPlan : V4GmoExactProtectionPlan)
    (evidence : V4AuthoritativeReconciliationEvidence) :
    Path β V4GmoPrivateOutcome := do
  let nowUtc ← wallNow
  let nowMonotonic ← monotonicNow
  path.requireReady .exactSizeOcoProtection plan
  let (reconciliation, bindingDigest) ←
    path.consumeReconciliationEvidence evidence plan.cycleRef nowMonotonic
      evidenceMaximumAge
  let attempt ← onStore
    (recordExactProtectionAttempt path.sha signalFingerprint plan protectionPlan
      bindingDigest nowUtc nowMonotonic)
  dispatchPrepared plan attempt
    (path.reconciledBody
      { plan
        authorization := attempt.authorization
        reconciliation := some reconciliation
        protectionPlan := some protectionPlan })

/-- Source `bind_transport_guard`, with the halt that follows its refusal. -/
def bindTransportGuard
    (marketStatus : Option V4GmoPublicMarketStatusEvidence) :
    Path β (Option V4GmoPublicMarketStatusEvidence) := do
  if plan.action ∈ V4GmoAction.timeExit then do
    let used ← Process.gets PathWorld.usedMarketStatus
    if marketStatus.any fun evidence =>
        decide (evidence.objectId ∉ used ∧
          evidence.generationDigest = path.generation.digest) then
      pure marketStatus
    else haltAndRefuse "V4_COORDINATED_TIME_EXIT_MARKET_OPEN_REQUIRED"
  else pure none

def riskReducingInput (plan : V4GmoActionPlan)
    (reconciliation : V4GmoActualReconciliation) (bindingDigest : Digest) :
    RiskReducingInput where
  signalFingerprint
  plan
  snapshot := reconciliation.snapshot
  positionBundleTotal := reconciliation.positionBundleTotal
  authoritativeReconciliationDigest := bindingDigest

def performRiskReducingOnce (plan : V4GmoActionPlan)
    (evidence : V4AuthoritativeReconciliationEvidence)
    (marketStatus : Option V4GmoPublicMarketStatusEvidence) :
    Path β V4GmoPrivateOutcome := do
  let nowUtc ← wallNow
  let nowMonotonic ← monotonicNow
  require (plan.action ∈ V4GmoAction.riskReducing)
    (coordinatedPathError "V4_COORDINATED_RISK_REDUCING_ACTION_REQUIRED")
  path.requireReady plan.action plan
  let guard ← path.bindTransportGuard plan marketStatus
  let (reconciliation, bindingDigest) ←
    path.consumeReconciliationEvidence evidence plan.cycleRef nowMonotonic
      evidenceMaximumAge
  let attempt ← onStore
    (recordRiskReducingAttempt path.sha
      (riskReducingInput signalFingerprint plan reconciliation bindingDigest) nowUtc)
  dispatchPrepared plan attempt
    (path.reconciledBody
      { plan
        authorization := attempt.authorization
        reconciliation := some reconciliation
        marketStatus := guard })

def confirmExactProtectionOnce
    (evidence : V4AuthoritativeReconciliationEvidence) : Path β Unit := do
  let nowUtc ← wallNow
  let nowMonotonic ← monotonicNow
  requireLock
  let cycleRef ← onStore (cycleRefForSignal signalFingerprint)
  let (reconciliation, _) ←
    path.consumeReconciliationEvidence evidence cycleRef nowMonotonic evidenceMaximumAge
  if ¬reconciliation.showsConfirmedProtection then
    haltAndRefuse "V4_COORDINATED_PROTECTION_CONFIRMATION_FAILED"
  else
    onStoreHalting
      (confirmExactProtectionWithinDeadline signalFingerprint
        reconciliation.snapshot.protectionSize nowUtc nowMonotonic)

/-- The update of the risk file at the end of `record_flat_closed_result_once`. -/
def applyClosedResult (cycleDayJst : TradingDay) (cycleRef : Digest)
    (pnlJpyInternal : Int) : Path β Bool := do
  let riskState ← path.loadRisk
  let (state, applied) ← ofResult
    (recordClosedResultOnce path.sha path.riskPolicy riskState cycleDayJst cycleRef
      pnlJpyInternal)
  path.saveRisk state
  pure applied

def recordFlatClosedResultOnce
    (evidence : V4AuthoritativeReconciliationEvidence) : Path β Bool := do
  requireLock
  let cycleRef ← onStore (cycleRefForSignal signalFingerprint)
  let nowUtc ← wallNow
  let nowMonotonic ← monotonicNow
  let (reconciliation, _) ←
    path.consumeReconciliationEvidence evidence cycleRef nowMonotonic evidenceMaximumAge
  let expectedSize ← onStore (expectedClosedSizeForSignal signalFingerprint)
  if ¬reconciliation.showsFlatClosed expectedSize then
    haltAndRefuse "V4_COORDINATED_FLAT_RESULT_RECONCILIATION_REQUIRED"
  else do
    let pnl := reconciliation.realizedPnlJpyInternal.getD 0
    let _recorded ← onStoreHalting (recordClosedMetricsOnce cycleRef pnl)
    path.applyClosedResult (v4GmoTradingDayJst nowUtc) cycleRef pnl

/-- What `classify_protected_lifecycle_once` tells. -/
inductive ProtectedLifecycle
  | positionExactlyProtected
  | flatClosed (carried : V4AuthoritativeReconciliationEvidence)

def classifyProtectedLifecycleOnce
    (evidence : V4AuthoritativeReconciliationEvidence) : Path β ProtectedLifecycle := do
  requireLock
  let cycleRef ← onStore (cycleRefForSignal signalFingerprint)
  let nowMonotonic ← monotonicNow
  let (reconciliation, _) ←
    path.consumeReconciliationEvidence evidence cycleRef nowMonotonic evidenceMaximumAge
  let expectedSize ← onStore (expectedClosedSizeForSignal signalFingerprint)
  let side ← onStore (sideForSignal signalFingerprint)
  if reconciliation.showsExactlyProtected side expectedSize then
    pure .positionExactlyProtected
  else if reconciliation.showsFlatClosed expectedSize then do
    let carried ← path.mintReconciliationEvidence cycleRef reconciliation nowMonotonic
    pure (.flatClosed carried)
  else haltAndRefuse "V4_COORDINATED_LIFECYCLE_RECONCILIATION_INVALID"

def heartbeat (heartbeatUtc : Instant) : Path β Unit := do
  outside
  let file ← Process.gets PathWorld.deadManFile
  let written ← ofResult
    (deadManHeartbeat path.sha path.deadManPolicy file heartbeatUtc)
  outside
  Process.modify fun w => { w with deadManFile := written }

/-- What a new process holds in memory: the lock, and a path, an adapter and a
transport without history. -/
def freshProcess (scope : RuntimeScope) : Path β Unit :=
  Process.modify fun w =>
    { w with
      processLockHeld := true
      reconciliations := []
      entryAuthorizations := []
      adapter := {}
      transport := { scope, postKeys := scope.initialPostKeys } }

/-- Source `_run_exit_actual`, up to its path: a fresh path, adapter and transport for
the exit of a cycle that another process has entered. -/
def bindRecoveredRuntime (scope : G075RecoveryScope) : Path β Unit := do
  onStore (openStore true)
  let nowUtc ← wallNow
  require (scope.exact path.sha = true)
    (transportError "V4_GMO_G075_RECOVERY_SCOPE_INVALID")
  requireRecoveryAlive scope nowUtc
  outside
  freshProcess (.recovered scope)

end V4GmoCoordinatedActualPath

end FxStrategyLab
