import FxStrategyLab.Coordinator.Recovery

/-!
# Opening, watching and looking up the ledger

The store methods that read: the monitor snapshot, the lookups by signal and
the daily attempt count.  Opening the store belongs here too, since the owner
latches the unknown halt when it finds a pending marker and an observer does
not, and so do the two rarely used writers, the inherited attempt baseline and
the marker of the KILL rehearsal.
-/

namespace FxStrategyLab

open Library

section Monitor

variable (sha : Sha256)

/-- Source `_initialize`: the owner of the ledger latches the halt when it
restarts on a pending transport; `open_monitor_observer` does not. -/
def openStore (latchPendingRestartHalt : Bool) : Store Unit :=
  transact fun l =>
    .ok ((),
      if l.pendingTransportAttempt.isSome ∧ latchPendingRestartHalt = true then
        l.haltLatched
      else l)

structure V4CoordinatorMonitorSnapshot where
  generationBound : Bool
  cyclePresent : Bool
  entryAttemptedAtUtc : Option Instant
  flatReconciled : Bool
  protectionConfirmed : Bool
  timeExitCancelAttempted : Bool
  timeExitCloseAttempted : Bool
  pendingTransport : Bool
  unknownHaltLatched : Bool
  externalFlatReconciled : Bool
deriving DecidableEq

/-- What `monitor_snapshot_safe` says of the latest cycle, if there is one. -/
def Ledger.monitorSnapshot (l : Ledger) (nowUtc : Instant) :
    V4CoordinatorMonitorSnapshot :=
  let base : V4CoordinatorMonitorSnapshot :=
    { generationBound := l.generation.isSome
      cyclePresent := false
      entryAttemptedAtUtc := none
      flatReconciled := false
      protectionConfirmed := false
      timeExitCancelAttempted := false
      timeExitCloseAttempted := false
      pendingTransport := l.pendingTransportAttempt.isSome
      unknownHaltLatched := l.unknownHaltLatched
      externalFlatReconciled := false }
  match l.latestCycle? with
  | none => base
  | some row =>
      let flatReconciled := row.realizedPnlJpy.isSome
      let externalFlatReconciled :=
        externalFlatReconciliationMatches l.externalFlatReconciliation row.cycleRef
          (l.generationDigest?.getD []) nowUtc
      { base with
        cyclePresent := !flatReconciled && !externalFlatReconciled
        entryAttemptedAtUtc := row.marketAttemptedAtUtc
        flatReconciled
        protectionConfirmed := row.protectionConfirmedAtUtc.isSome
        timeExitCancelAttempted :=
          (l.attempt? row.cycleRef .cancelExactProtectionForTimeExit).isSome
        timeExitCloseAttempted :=
          (l.attempt? row.cycleRef .positionSpecificTimeExit).isSome
        externalFlatReconciled }

def monitorSnapshotSafe (nowUtc : Instant) : Store V4CoordinatorMonitorSnapshot :=
  transact fun l =>
    if 1 < l.unresolved.length then
      .error (coordinatorError "v4 canary cycle count invalid")
    else .ok (l.monitorSnapshot nowUtc, l)

def lookupSignal {α : Type} (signalFingerprint : Digest) (f : CycleRow → α) : Store α :=
  transact fun l =>
    match l.cycleOfSignal? signalFingerprint with
    | none => .error (coordinatorError "v4 entry intent is missing")
    | some row => .ok (f row, l)

/-- Source `cycle_ref_for_signal_internal`. -/
def cycleRefForSignal (signalFingerprint : Digest) : Store Digest :=
  lookupSignal signalFingerprint CycleRow.cycleRef

/-- Source `side_for_signal_internal`. -/
def sideForSignal (signalFingerprint : Digest) : Store SignalDecision :=
  lookupSignal signalFingerprint CycleRow.side

/-- The size that a settlement must show: the size of a closing action, else
the size of the protection plan. -/
def CycleRow.expectedClosedSize (row : CycleRow) : Except V4Error Nat :=
  match row.settlementExpectedSize, row.protectionPlanJson with
  | some size, _ =>
      if 0 < size ∧ size ≤ 1000 then .ok size
      else .error (coordinatorError "v4 settlement size is invalid")
  | none, some plan => .ok plan.exactFilledSize
  | none, none => .error (coordinatorError "v4 settlement size is unavailable")

/-- Source `expected_closed_size_for_signal_internal`. -/
def expectedClosedSizeForSignal (signalFingerprint : Digest) : Store Nat := do
  let size ← lookupSignal signalFingerprint CycleRow.expectedClosedSize
  ofExcept size

/-- The transaction of `record_kill_rehearsal_pending_no_transport`. -/
def killRehearsalTransaction (cycleRef : Digest) : Transaction Unit := fun l =>
  if (l.cycle? cycleRef).isNone ∨ l.unknownHaltLatched = true then
    .error (coordinatorError "v4 KILL rehearsal state mismatch")
  else
    match l.pendingTransportAttempt with
    | some _ => .error (coordinatorError "v4 pending transport requires operator review")
    | none => .ok ((), { l with pendingTransportAttempt := some ⟨.marketEntry, cycleRef⟩ })

def recordKillRehearsalPendingNoTransport (cycleRef : Digest) : Store Unit :=
  transact (killRehearsalTransaction cycleRef)

def Ledger.marketAttemptsOfDay (l : Ledger) (tradingDayJst : TradingDay) : Nat :=
  (l.attempts.rows.filter fun attempt =>
    attempt.action = .marketEntry &&
      (l.cycles.rows.any fun row =>
        row.cycleRef = attempt.cycleRef && row.tradingDayJst = tradingDayJst)).length

def Ledger.inheritedBaseline? (l : Ledger) (tradingDayJst : TradingDay) :
    Option InheritedAttemptBaseline :=
  l.inheritedBaselines.find? fun baseline => baseline.tradingDayJst = tradingDayJst

def marketAttemptCountForDay (tradingDayJst : TradingDay) : Store Nat :=
  transact fun l =>
    match l.inheritedBaseline? tradingDayJst with
    | none => .ok (l.marketAttemptsOfDay tradingDayJst, l)
    | some baseline =>
        if l.generationDigest? = some baseline.targetGenerationDigest then
          .ok (baseline.attemptCount + l.marketAttemptsOfDay tradingDayJst, l)
        else .error (coordinatorError "v4 inherited attempt baseline is invalid")

/-- The transaction of `initialize_inherited_market_attempt_baseline_once`. -/
def inheritedBaselineTransaction (baseline : InheritedAttemptBaseline) :
    Transaction Unit := fun l =>
  if l.generationDigest? ≠ some baseline.targetGenerationDigest then
    .error (coordinatorError "v4 inherited attempt baseline is invalid")
  else
    match l.inheritedBaseline? baseline.tradingDayJst with
    | some existing =>
        if existing = baseline then .ok ((), l)
        else .error (coordinatorError "v4 inherited attempt baseline mismatch")
    | none =>
        if l.cycles.rows.isEmpty then
          .ok ((), { l with inheritedBaselines := baseline :: l.inheritedBaselines })
        else .error (coordinatorError "v4 inherited attempt baseline is invalid")

def initializeInheritedMarketAttemptBaselineOnce (baseline : InheritedAttemptBaseline) :
    Store Unit :=
  transact (inheritedBaselineTransaction baseline)

end Monitor

end FxStrategyLab
