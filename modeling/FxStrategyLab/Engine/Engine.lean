import FxStrategyLab.Engine.Store

/-!
# The synthetic engine

This file embeds `H11V4GmoNoPostEngine` of `v4_gmo_engine.py` and the brokers of
`v4_gmo_boundary.py`.  An engine call is a process on `EngineWorld`.  It can be
killed before each store transaction and before each broker call, which is where
a crash of the source falls.

The five `_attempt_*` methods share their middle part, recording the attempt,
performing the action and recording its outcome; it is `attemptAction` here, and
each method keeps its own plan, attempt state and continuation.
-/

namespace FxStrategyLab

open Library

/-- Source `FakeV4GmoBroker`: the answers it was given, in the order it gives them. -/
structure FakeV4GmoBroker where
  outcomes : V4GmoAction → List V4GmoSyntheticOutcome
  snapshots : List V4GmoBrokerSnapshot

/-- Source `V4GmoSyntheticBroker`: the two types of broker that the engine accepts. -/
inductive V4GmoSyntheticBroker
  | fake (broker : FakeV4GmoBroker)
  | refusing

namespace V4GmoSyntheticBroker

/-- Source `perform_once_synthetic`; no outcome stands for `V4GmoBoundaryError`. -/
def performOnceSynthetic (plan : V4GmoActionPlan) :
    V4GmoSyntheticBroker → Option V4GmoSyntheticOutcome × V4GmoSyntheticBroker
  | refusing => (none, refusing)
  | fake broker =>
      match broker.outcomes plan.action with
      | [] => (none, fake broker)
      | outcome :: queued =>
          (some outcome,
            fake { broker with outcomes := Function.update broker.outcomes plan.action queued })

/-- Source `reconcile_synthetic`; no snapshot stands for `V4GmoBoundaryError`. -/
def reconcileSynthetic :
    V4GmoSyntheticBroker → Option V4GmoBrokerSnapshot × V4GmoSyntheticBroker
  | refusing => (none, refusing)
  | fake broker =>
      match broker.snapshots with
      | [] => (none, fake broker)
      | snapshot :: snapshots => (some snapshot, fake { broker with snapshots })

end V4GmoSyntheticBroker

/-- What an observer of the engine sees: an action performed, with the attempts that
are committed at that moment, and a transition, with the row it changes and the
snapshot that the engine read last. -/
inductive EngineEvent
  | performed (plan : V4GmoActionPlan) (committed : List (Digest × V4GmoAction))
  | moved (cycle : V4GmoStoredCycle) (move : V4GmoMove) (nowUtc : Instant)
      (snapshot : Option V4GmoBrokerSnapshot)

/-- The engine with its store and surroundings.  `crashIn` counts the transactions
and broker calls until a crash; `lastRead`, `times` and `events` only record, and
no function of the source reads them. -/
structure EngineWorld where
  store : V4GmoStateStore := {}
  broker : V4GmoSyntheticBroker := .refusing
  clock : Option (Nat → Instant) := none
  readings : Nat := 0
  crashIn : Option Nat := none
  lastRead : Option V4GmoBrokerSnapshot := none
  times : List Instant := []
  events : List EngineEvent := []

abbrev Engine (α : Type) := Process EngineWorld V4Error α

namespace Engine

/-- A place where the process may be killed. -/
def crashPoint : Engine Unit := fun w =>
  match w.crashIn with
  | some 0 => (.killed, w)
  | some (n + 1) => (.returned (), { w with crashIn := some n })
  | none => (.returned (), w)

/-- Commit a transaction, or raise its error; `note` is what an observer sees of it. -/
def commit (f : V4GmoStateStore → Except V4Error V4GmoStateStore)
    (note : EngineWorld → List EngineEvent) : Engine Unit := fun w =>
  match f w.store with
  | .error e => (.raised e, w)
  | .ok store => (.returned (), { w with store, events := w.events ++ note w })

def write (f : V4GmoStateStore → Except V4Error V4GmoStateStore)
    (note : EngineWorld → List EngineEvent) : Engine Unit := do
  crashPoint
  commit f note

def loadCycle (cycleRef : Digest) : Engine V4GmoStoredCycle := do
  let loaded ← Process.gets fun w => w.store.loadCycle cycleRef
  ofExcept loaded

def createCycle (sha : Sha256) (signal : FormalSignal) (policy : V4GmoExecutionPolicy)
    (nowUtc : Instant) : Engine V4GmoStoredCycle := do
  let cycleRef ← ofExcept (buildV4CycleRef sha signal policy)
  write (V4GmoStateStore.createCycle sha cycleRef signal policy nowUtc) fun _ => []
  loadCycle cycleRef

def recordActionAttempt (sha : Sha256) (cycleRef : Digest) (action : V4GmoAction)
    (target : V4GmoCycleState) (nowUtc : Instant) : Engine V4GmoStoredCycle := do
  write (V4GmoStateStore.recordActionAttempt sha cycleRef action target nowUtc) fun _ => []
  loadCycle cycleRef

def recordActionOutcome (sha : Sha256) (cycleRef : Digest) (action : V4GmoAction)
    (outcome : V4GmoSyntheticOutcome) : Engine Unit :=
  write (V4GmoStateStore.recordActionOutcome sha cycleRef action outcome) fun _ => []

/-- What an observer sees of a transition. -/
def movedEvent (cycleRef : Digest) (move : V4GmoMove) (nowUtc : Instant)
    (w : EngineWorld) : List EngineEvent :=
  (w.store.cycle? cycleRef).toList.map fun row => .moved row move nowUtc w.lastRead

def transition (sha : Sha256) (cycleRef : Digest) (move : V4GmoMove) (nowUtc : Instant) :
    Engine V4GmoStoredCycle := do
  write (V4GmoStateStore.transition sha cycleRef move nowUtc)
    (movedEvent cycleRef move nowUtc)
  loadCycle cycleRef

def brokerPerform (plan : V4GmoActionPlan) : Engine (Option V4GmoSyntheticOutcome) :=
  fun w =>
    let answer := w.broker.performOnceSynthetic plan
    (.returned answer.1,
      { w with
        broker := answer.2
        events := w.events ++
          [.performed plan (w.store.attempts.rows.map V4GmoActionAttempt.primaryKey)] })

/-- The call of `perform_once_synthetic`. -/
def perform (plan : V4GmoActionPlan) : Engine (Option V4GmoSyntheticOutcome) := do
  crashPoint
  brokerPerform plan

def brokerReconcile : Engine (Option V4GmoBrokerSnapshot) := fun w =>
  let answer := w.broker.reconcileSynthetic
  (.returned answer.1, { w with broker := answer.2, lastRead := answer.1 })

def readSnapshotOrNone : Engine (Option V4GmoBrokerSnapshot) := do
  crashPoint
  brokerReconcile

def now (fallback : Instant) : Engine Instant := fun w =>
  let value := (w.clock.map fun clock => clock w.readings).getD fallback
  (.returned value, { w with readings := w.readings + 1, times := w.times ++ [value] })

inductive V4GmoCycleStatus
  | noActionStay
  | blockedSafe
  | positionProtectedSynthetic
  | flatReconciledSynthetic
  | haltedOperatorReviewRequired

/-- Source `V4GmoCycleResult`; the fields that are constant for every broker the
engine accepts are left out. -/
structure V4GmoCycleResult where
  status : V4GmoCycleStatus
  finalState : Option V4GmoCycleState := none
  cycleRef : Option Digest := none
  blockedReasons : List String := []
  attempted : List V4GmoAction := []
  filledSize : Nat := 0
  protectedSize : Nat := 0

/-- The members of `V4GmoAction`, in order. -/
def allActions : List V4GmoAction :=
  [.marketEntry, .cancelEntryRemainder, .exactSizeOcoProtection,
    .cancelMismatchedProtection, .cancelExactProtectionForTimeExit,
    .positionSpecificEmergencyExit, .positionSpecificTimeExit]

/-- Source `_result`; the attempt counts are given by the actions that are attempted. -/
def result (status : V4GmoCycleStatus) (cycle : V4GmoStoredCycle)
    (reasons : List String) : Engine V4GmoCycleResult :=
  Process.gets fun w =>
    { status
      finalState := some cycle.state
      cycleRef := some cycle.cycleRef
      blockedReasons := reasons
      attempted := allActions.filter fun action =>
        w.store.actionAttempted cycle.cycleRef action
      filledSize := cycle.filledSize
      protectedSize := cycle.protectedSize }

def halt (sha : Sha256) (cycle : V4GmoStoredCycle) (reason : V4GmoHaltReason)
    (nowUtc : Instant) : Engine V4GmoCycleResult := do
  let halted ← transition sha cycle.cycleRef
    { target := .haltedOperatorReviewRequired
      eventCategory := .haltedOperatorReviewRequired
      haltReason := some reason }
    nowUtc
  result .haltedOperatorReviewRequired halted [reason.value]

/-- The transition to FLAT and its result, which every reconciliation ends with. -/
def moveFlat (sha : Sha256) (cycle : V4GmoStoredCycle) (category : V4GmoEventCategory)
    (size : Option Nat) (nowUtc : Instant) : Engine V4GmoCycleResult := do
  let flat ← transition sha cycle.cycleRef
    { target := .flatReconciled
      eventCategory := category
      filledSize := size
      protectedSize := size }
    nowUtc
  result .flatReconciledSynthetic flat []

/-- The common part of the `_attempt_*` methods: build the plan, record the attempt,
perform it, halt at a refused boundary, and otherwise record the outcome. -/
def attemptAction (sha : Sha256) (cycle : V4GmoStoredCycle) (action : V4GmoAction)
    (target : V4GmoCycleState) (size : Nat) (refused : V4GmoHaltReason)
    (attemptTime : Engine Instant) (nowUtc : Instant)
    (next : V4GmoStoredCycle → Engine V4GmoCycleResult) : Engine V4GmoCycleResult := do
  let plan ← ofExcept
    (buildV4ActionPlan cycle.cycleRef action cycle.side size h11V4GmoProtectionContractHash)
  let actionTime ← attemptTime
  let attempted ← recordActionAttempt sha cycle.cycleRef action target actionTime
  let outcome ← perform plan
  match outcome with
  | none => halt sha attempted refused nowUtc
  | some outcome =>
      recordActionOutcome sha attempted.cycleRef action outcome
      next attempted

def spelledOutFlat (snapshot : V4GmoBrokerSnapshot) : Bool :=
  decide (snapshot.positionCount = 0 ∧ snapshot.pendingEntrySize = 0 ∧
    snapshot.protectionSize = 0 ∧ snapshot.protectionStatus = .none)

def freshKnown (snapshot : Option V4GmoBrokerSnapshot) : Option V4GmoBrokerSnapshot :=
  snapshot.filter fun s => s.fresh && s.resultKnown

def reconcileEmergencyExit (sha : Sha256) (cycle : V4GmoStoredCycle) (nowUtc : Instant) :
    Engine V4GmoCycleResult := do
  let snapshot ← readSnapshotOrNone
  match freshKnown snapshot with
  | none => halt sha cycle .emergencyExitResultUnknownOrNotFlat nowUtc
  | some snapshot =>
      if spelledOutFlat snapshot = true then
        moveFlat sha cycle .emergencyExitFlatConfirmed (some 0) nowUtc
      else halt sha cycle .emergencyExitResultUnknownOrNotFlat nowUtc

def attemptEmergencyExit (sha : Sha256) (cycle : V4GmoStoredCycle) (nowUtc : Instant) :
    Engine V4GmoCycleResult :=
  if cycle.filledSize = 0 then halt sha cycle .emergencyExitSizeUnknown nowUtc
  else
    attemptAction sha cycle .positionSpecificEmergencyExit .emergencyExitAttempted
      cycle.filledSize .emergencyExitBoundaryRefused (pure nowUtc) nowUtc
      fun attempted => reconcileEmergencyExit sha attempted nowUtc

def startEmergencyExit (sha : Sha256) (cycle : V4GmoStoredCycle)
    (reason : V4GmoEventCategory) (nowUtc : Instant) : Engine V4GmoCycleResult := do
  let exiting ← transition sha cycle.cycleRef
    { target := .emergencyExitIntentPersisted, eventCategory := reason } nowUtc
  attemptEmergencyExit sha exiting nowUtc

/-- The position of the cycle is open, whole and without a pending entry. -/
def wholePosition (cycle : V4GmoStoredCycle) (snapshot : V4GmoBrokerSnapshot) : Bool :=
  decide (snapshot.positionCount = 1 ∧ snapshot.positionSide = some cycle.side ∧
    snapshot.filledSize = cycle.filledSize ∧ snapshot.pendingEntrySize = 0)

/-- Source `exact`: the whole position stands under a protection of its size. -/
def exactlyProtected (cycle : V4GmoStoredCycle) (snapshot : V4GmoBrokerSnapshot) : Bool :=
  wholePosition cycle snapshot &&
    decide (snapshot.protectionStatus = .exactMatch ∧
      snapshot.protectionSize = cycle.filledSize)

def cancellationConfirmed (cycle : V4GmoStoredCycle) (snapshot : V4GmoBrokerSnapshot) :
    Bool :=
  wholePosition cycle snapshot &&
    decide (snapshot.protectionSize = 0 ∧ snapshot.protectionStatus = .none)

def reconcileCancelledProtection (sha : Sha256) (cycle : V4GmoStoredCycle)
    (nowUtc : Instant) : Engine V4GmoCycleResult := do
  let snapshot ← readSnapshotOrNone
  match freshKnown snapshot with
  | none => halt sha cycle .protectionCancelReconciliationUnknown nowUtc
  | some snapshot =>
      if spelledOutFlat snapshot = true then
        moveFlat sha cycle .protectionCancelFoundFlat (some 0) nowUtc
      else if cancellationConfirmed cycle snapshot = false then
        halt sha cycle .mismatchedProtectionPersistsAfterCancel nowUtc
      else
        startEmergencyExit sha cycle .mismatchedProtectionRemovedExitRequired nowUtc

def attemptCancelProtection (sha : Sha256) (cycle : V4GmoStoredCycle)
    (protectionSize : Nat) (nowUtc : Instant) : Engine V4GmoCycleResult :=
  if protectionSize = 0 then halt sha cycle .mismatchedProtectionSizeUnknown nowUtc
  else
    attemptAction sha cycle .cancelMismatchedProtection .protectionCancelAttempted
      protectionSize .protectionCancelBoundaryRefused (pure nowUtc) nowUtc
      fun attempted => do
        let cancelled ← transition sha attempted.cycleRef
          { target := .protectionCancelReconciling
            eventCategory := .protectionCancelReconciling } nowUtc
        reconcileCancelledProtection sha cancelled nowUtc

def cancelProtection (sha : Sha256) (cycle : V4GmoStoredCycle)
    (category : V4GmoEventCategory) (snapshot : V4GmoBrokerSnapshot) (nowUtc : Instant) :
    Engine V4GmoCycleResult := do
  let cancelling ← transition sha cycle.cycleRef
    { target := .protectionCancelIntentPersisted
      eventCategory := category
      protectedSize := some snapshot.protectionSize } nowUtc
  attemptCancelProtection sha cancelling snapshot.protectionSize nowUtc

/-- The end of `_reconcile_protection` for an exact protection: the confirmation is
in time, or the cycle is halted. -/
def confirmProtection (sha : Sha256) (cycle : V4GmoStoredCycle)
    (policy : V4GmoExecutionPolicy) (snapshot : V4GmoBrokerSnapshot) (nowUtc : Instant) :
    Engine V4GmoCycleResult := do
  let confirmationTime ← now nowUtc
  match cycle.unprotectedSinceUtc with
  | none =>
      halt sha cycle .unprotectedStartTimeMissingAtConfirmation confirmationTime
  | some unprotectedSince =>
      if confirmationTime - unprotectedSince < 0 then
        halt sha cycle .clockMovedBackwardAtProtectionConfirmation confirmationTime
      else if wallSeconds policy.maxUnprotectedSeconds <
          confirmationTime - unprotectedSince then
        halt sha cycle .protectionConfirmedAfterDeadline confirmationTime
      else do
        let secured ← transition sha cycle.cycleRef
          { target := .positionProtected
            eventCategory := .exactSizeProtectionConfirmed
            filledSize := some snapshot.filledSize
            protectedSize := some snapshot.protectionSize } confirmationTime
        result .positionProtectedSynthetic secured []

def reconcileProtection (sha : Sha256) (cycle : V4GmoStoredCycle)
    (policy : V4GmoExecutionPolicy) (nowUtc : Instant) : Engine V4GmoCycleResult := do
  let snapshot ← readSnapshotOrNone
  match freshKnown snapshot with
  | none => halt sha cycle .protectionReconciliationUnknown nowUtc
  | some snapshot =>
      if spelledOutFlat snapshot = true then
        moveFlat sha cycle .positionAlreadyFlat (some 0) nowUtc
      else if snapshot.positionCount = 0 then
        if 0 < snapshot.protectionSize then
          cancelProtection sha cycle .orphanProtectionCancelIntentPersisted snapshot nowUtc
        else halt sha cycle .flatWithUnknownProtectionState nowUtc
      else if 1 < snapshot.positionCount then
        halt sha cycle .multiplePositionsDetectedDuringProtection nowUtc
      else if snapshot.positionSide ≠ some cycle.side then
        halt sha cycle .positionSideMismatchDuringProtection nowUtc
      else if exactlyProtected cycle snapshot = true then
        confirmProtection sha cycle policy snapshot nowUtc
      else if 0 < snapshot.protectionSize ∨
          snapshot.protectionStatus ∈ [.undersized, .oversized, .exactMatch] then
        cancelProtection sha cycle .mismatchedProtectionCancelIntentPersisted snapshot nowUtc
      else startEmergencyExit sha cycle .protectionNotExact nowUtc

def attemptProtection (sha : Sha256) (cycle : V4GmoStoredCycle)
    (policy : V4GmoExecutionPolicy) (nowUtc : Instant) : Engine V4GmoCycleResult :=
  attemptAction sha cycle .exactSizeOcoProtection .protectionAttempted cycle.filledSize
    .protectionBoundaryRefused (pure nowUtc) nowUtc
    fun attempted => do
      let reconciling ← transition sha attempted.cycleRef
        { target := .protectionReconciling, eventCategory := .protectionReconciling } nowUtc
      reconcileProtection sha reconciling policy nowUtc

def ensureProtection (sha : Sha256) (cycle : V4GmoStoredCycle)
    (policy : V4GmoExecutionPolicy) (nowUtc : Instant) : Engine V4GmoCycleResult := do
  let currentTime ← now nowUtc
  match cycle.unprotectedSinceUtc with
  | none => halt sha cycle .unprotectedStartTimeMissing currentTime
  | some unprotectedSince =>
      if currentTime - unprotectedSince < 0 then
        halt sha cycle .clockMovedBackward currentTime
      else if wallSeconds policy.maxUnprotectedSeconds < currentTime - unprotectedSince then
        startEmergencyExit sha cycle .unprotectedWindowExceeded currentTime
      else do
        let intended ← transition sha cycle.cycleRef
          { target := .protectionIntentPersisted
            eventCategory := .protectionIntentPersisted } currentTime
        attemptProtection sha intended policy currentTime

def entrySnapshotInvalidReason (snapshot : V4GmoBrokerSnapshot)
    (cycle : V4GmoStoredCycle) : Option V4GmoHaltReason :=
  if 1 < snapshot.positionCount then some .multiplePositionsDetected
  else if 0 < snapshot.protectionSize ∨ snapshot.protectionStatus ≠ .none then
    some .unexpectedProtectionDuringEntryReconciliation
  else if cycle.requestedSize < snapshot.filledSize then some .filledSizeExceedsIntent
  else if cycle.requestedSize < snapshot.pendingEntrySize then
    some .pendingSizeExceedsIntent
  else if cycle.requestedSize < snapshot.filledSize + snapshot.pendingEntrySize then
    some .entryTotalSizeExceedsIntent
  else if snapshot.positionCount = 1 then
    if snapshot.positionSide ≠ some cycle.side then some .positionSideMismatch
    else if snapshot.filledSize = 0 then some .positionWithoutReconciledFill
    else none
  else if 0 < snapshot.filledSize then some .fillWithoutPosition
  else none

/-- Source `_attempt_cancel_remainder`, with the reconciliation that follows it. -/
def attemptCancelRemainder (sha : Sha256) (cycle : V4GmoStoredCycle)
    (snapshot : V4GmoBrokerSnapshot) (nowUtc : Instant)
    (reconcile : V4GmoStoredCycle → Engine V4GmoCycleResult) : Engine V4GmoCycleResult :=
  attemptAction sha cycle .cancelEntryRemainder .remainderCancelAttempted
    snapshot.pendingEntrySize .cancelRemainderBoundaryRefused (pure nowUtc) nowUtc
    fun attempted => do
      let reconciling ← transition sha attempted.cycleRef
        { target := .entryReconciling, eventCategory := .cancelRemainderReconciling } nowUtc
      reconcile reconciling

/-- Source `_reconcile_entry`.  It calls itself through the cancel of the remainder;
`depth` is how many frames the call stack still takes. -/
def reconcileEntry (sha : Sha256) (policy : V4GmoExecutionPolicy) (nowUtc : Instant) :
    Nat → V4GmoStoredCycle → Engine V4GmoCycleResult
  | 0, _ => Process.kill
  | depth + 1, cycle => do
      let snapshot ← readSnapshotOrNone
      match freshKnown snapshot with
      | none => halt sha cycle .entryReconciliationUnknown nowUtc
      | some snapshot =>
          match entrySnapshotInvalidReason snapshot cycle with
          | some reason => halt sha cycle reason nowUtc
          | none =>
              if 0 < snapshot.pendingEntrySize then do
                let cancelled ← Process.gets fun w =>
                  w.store.actionAttempted cycle.cycleRef .cancelEntryRemainder
                if cancelled = true then
                  halt sha cycle .entryRemainderPersistsAfterCancel nowUtc
                else
                  attemptCancelRemainder sha cycle snapshot nowUtc
                    (reconcileEntry sha policy nowUtc depth)
              else if snapshot.positionCount = 0 ∧ snapshot.filledSize = 0 then
                moveFlat sha cycle .entryRejectedOrUnfilledFlat none nowUtc
              else do
                let filled ← transition sha cycle.cycleRef
                  { target := .entryFilledUnprotected
                    eventCategory := .entryFilledUnprotected
                    filledSize := some snapshot.filledSize
                    protectedSize := some snapshot.protectionSize
                    unprotectedSinceUtc := some nowUtc } nowUtc
                ensureProtection sha filled policy nowUtc

def attemptMarketEntry (sha : Sha256) (depth : Nat) (cycle : V4GmoStoredCycle)
    (policy : V4GmoExecutionPolicy) (nowUtc : Instant) : Engine V4GmoCycleResult :=
  attemptAction sha cycle .marketEntry .marketEntryAttempted cycle.requestedSize
    .marketEntryBoundaryRefused (now nowUtc) nowUtc
    fun attempted => do
      let reconcileTime ← now nowUtc
      let reconciling ← transition sha attempted.cycleRef
        { target := .entryReconciling, eventCategory := .entryReconciling } reconcileTime
      reconcileEntry sha policy reconcileTime depth reconciling

def reconcileExistingProtectedPosition (sha : Sha256) (cycle : V4GmoStoredCycle)
    (nowUtc : Instant) : Engine V4GmoCycleResult := do
  let snapshot ← readSnapshotOrNone
  match freshKnown snapshot with
  | none => halt sha cycle .protectedPositionReconciliationUnknown nowUtc
  | some snapshot =>
      if flatSnapshotBlockedReasons snapshot = [] then
        moveFlat sha cycle .protectedPositionFoundFlat (some 0) nowUtc
      else if exactlyProtected cycle snapshot = true then
        result .positionProtectedSynthetic cycle []
      else if snapshot.positionCount ≠ 1 then
        halt sha cycle .protectedPositionCountMismatch nowUtc
      else if snapshot.positionSide ≠ some cycle.side then
        halt sha cycle .protectedPositionSideMismatch nowUtc
      else if snapshot.filledSize ≠ cycle.filledSize ∨ snapshot.pendingEntrySize ≠ 0 then
        halt sha cycle .protectedPositionSizeMismatch nowUtc
      else if 0 < snapshot.protectionSize then
        cancelProtection sha cycle .restartMismatchedProtectionCancelIntent snapshot nowUtc
      else startEmergencyExit sha cycle .restartProtectionMissingExitRequired nowUtc

/-- The reasons of `run_signal_once_synthetic` that need no store. -/
def signalBlockedReasons (signal : FormalSignal) (preflight : V4GmoPreflightSnapshot)
    (nowUtc : Instant) : List String :=
  preflight.blockedReasons ++
    failedChecks [(decide (nowUtc < signal.validUntilUtc), "SIGNAL_EXPIRED_OR_CLOCK_INVALID")]

def signalOfPolicy (signal : FormalSignal) (policy : V4GmoExecutionPolicy) : Bool :=
  decide (signal.strategyVersion = policy.strategyVersion ∧
    signal.signalConfigHash = policy.signalConfigHash ∧
    signal.horizon = policy.selectedHorizon)

/-- Source `_empty_result` with the status that the reasons lead to. -/
def emptyResult (status : V4GmoCycleStatus) (reasons : List String) : V4GmoCycleResult where
  status
  blockedReasons := reasons

def runSignalOnceSynthetic (sha : Sha256) (depth : Nat) (signal : FormalSignal)
    (policy : V4GmoExecutionPolicy) (preflight : V4GmoPreflightSnapshot)
    (nowUtc : Instant) : Engine V4GmoCycleResult :=
  if signal.decision = .stay then
    let reasons := signalBlockedReasons signal preflight nowUtc ++
      failedChecks [(signalOfPolicy signal policy, "SIGNAL_POLICY_MISMATCH")]
    if reasons ≠ [] then pure (emptyResult .blockedSafe reasons)
    else pure (emptyResult .noActionStay [])
  else do
    let activeCount ← Process.gets fun w => w.store.activeCycleCount
    let halted ← Process.gets fun w => w.store.haltLatched
    let reasons := signalBlockedReasons signal preflight nowUtc ++
      failedChecks
        [(policy.accepts signal, "SIGNAL_POLICY_MISMATCH"),
          (decide (activeCount = 0), "ACTIVE_V4_CYCLE_EXISTS"),
          (!halted, "OPERATOR_HALT_LATCHED")]
    if reasons ≠ [] then pure (emptyResult .blockedSafe reasons)
    else do
      let cycle ← createCycle sha signal policy nowUtc
      attemptMarketEntry sha depth cycle policy nowUtc

/-- The transition by which a restart takes an attempted cycle to its
reconciliation. -/
def restartTo (sha : Sha256) (cycleRef : Digest) (target : V4GmoCycleState)
    (category : V4GmoEventCategory) (nowUtc : Instant) : Engine V4GmoStoredCycle :=
  transition sha cycleRef { target, eventCategory := category } nowUtc

def resumeSynthetic (sha : Sha256) (depth : Nat) (cycleRef : Digest)
    (policy : V4GmoExecutionPolicy) (nowUtc : Instant) : Engine V4GmoCycleResult := do
  let cycle ← loadCycle cycleRef
  if cycle.policyConfigHash ≠ policy.configHash sha then
    halt sha cycle .policyConfigHashMismatch nowUtc
  else
    match cycle.state with
    | .entryIntentPersisted => do
        let snapshot ← readSnapshotOrNone
        match snapshot with
        | none => halt sha cycle .restartEntryPreflightNotFlatOrUnknown nowUtc
        | some snapshot =>
            if flatSnapshotBlockedReasons snapshot ≠ [] then
              halt sha cycle .restartEntryPreflightNotFlatOrUnknown nowUtc
            else attemptMarketEntry sha depth cycle policy nowUtc
    | .marketEntryAttempted => do
        let cycle ← restartTo sha cycleRef .entryReconciling .restartEntryReconciling nowUtc
        reconcileEntry sha policy nowUtc depth cycle
    | .remainderCancelAttempted => do
        let cycle ← restartTo sha cycleRef .entryReconciling .restartCancelReconciling nowUtc
        reconcileEntry sha policy nowUtc depth cycle
    | .entryReconciling => reconcileEntry sha policy nowUtc depth cycle
    | .entryFilledUnprotected => ensureProtection sha cycle policy nowUtc
    | .protectionIntentPersisted => attemptProtection sha cycle policy nowUtc
    | .protectionAttempted => do
        let cycle ← restartTo sha cycleRef .protectionReconciling
          .restartProtectionReconciling nowUtc
        reconcileProtection sha cycle policy nowUtc
    | .protectionReconciling => reconcileProtection sha cycle policy nowUtc
    | .protectionCancelIntentPersisted =>
        attemptCancelProtection sha cycle cycle.protectedSize nowUtc
    | .protectionCancelAttempted => do
        let cycle ← restartTo sha cycleRef .protectionCancelReconciling
          .restartProtectionCancelReconciling nowUtc
        reconcileCancelledProtection sha cycle nowUtc
    | .protectionCancelReconciling => reconcileCancelledProtection sha cycle nowUtc
    | .emergencyExitIntentPersisted => attemptEmergencyExit sha cycle nowUtc
    | .emergencyExitAttempted => reconcileEmergencyExit sha cycle nowUtc
    | .positionProtected => reconcileExistingProtectedPosition sha cycle nowUtc
    | .flatReconciled => result .flatReconciledSynthetic cycle []
    | .haltedOperatorReviewRequired | .operatorReloadCleared =>
        result .haltedOperatorReviewRequired cycle
          [(cycle.haltReason.map V4GmoHaltReason.value).getD "OPERATOR_REVIEW_REQUIRED"]

def engageGlobalHalt (reason : String) (nowUtc : Instant) : Engine Unit :=
  write (V4GmoStateStore.engageGlobalHalt reason nowUtc) fun _ => []

def clearGlobalHaltNoPost (confirmation : String) (freshFlatConfirmed : Bool) :
    Engine Unit := do
  ofExcept (V4GmoStateStore.requireOperatorReload confirmation freshFlatConfirmed)
  let activeCount ← Process.gets fun w => w.store.activeCycleCount
  Process.require (activeCount = 0)
    (persistenceError "v4 operator reload refused while cycle is active")
  write (fun store => .ok { store with globalHalt := none }) fun _ => []

def clearHaltedCycleNoPost (sha : Sha256) (cycleRef : Digest) (confirmation : String)
    (freshFlatConfirmed : Bool) (nowUtc : Instant) : Engine V4GmoStoredCycle := do
  ofExcept (V4GmoStateStore.requireOperatorReload confirmation freshFlatConfirmed)
  let cycle ← loadCycle cycleRef
  Process.require (cycle.state = .haltedOperatorReviewRequired)
    (persistenceError "v4 cycle is not halted for operator review")
  transition sha cycleRef
    { target := .operatorReloadCleared
      eventCategory := .operatorReloadClearedNoPost
      filledSize := some 0
      protectedSize := some 0 } nowUtc

end Engine

end FxStrategyLab
