import FxStrategyLab.Coordinator.Frames
import FxStrategyLab.Library.Runs

/-!
# Runs of the coordinator store

A run is a list of store calls on one database.  A call names a method with
its arguments and the interference before each of its transactions, so it may
be killed at any of them; `reopen` builds a new store object on the database.
The objects that calls return stay with the run, since a process that only
reopens the store keeps them; a method that takes such an object is called
only with one that was handed out before.
-/

namespace FxStrategyLab

open Library

section Runs

variable (sha : Sha256)

/-- The calls of the store and of the persisted-authorization functions. -/
inductive StoreOp
  | reopen (latchPendingRestartHalt : Bool)
  | bindGeneration (generation : V4GmoFrozenGeneration)
  | reserveEntryCycle (intent : EntryIntent) (nowUtc : Instant)
  | releaseUnattemptedReservation (cycleRef : Digest)
  | recordEntryPreflight (input : EntryPreflightInput) (nowUtc : Instant)
      (nowMonotonic : Monotonic)
  | recordMarketAttempt (authorization : V4VerifiedEntryPreflightAuthorization)
      (signalFingerprint : Digest) (plan : V4GmoActionPlan) (nowUtc : Instant)
      (nowMonotonic : Monotonic)
  | persistExactProtectionPlan (signalFingerprint : Digest) (averageFillPrice : ℚ)
      (filledSize : Nat) (nowMonotonic : Monotonic)
  | recordExactProtectionAttempt (signalFingerprint : Digest) (plan : V4GmoActionPlan)
      (protectionPlan : V4GmoExactProtectionPlan) (reconciliationDigest : Digest)
      (nowUtc : Instant) (nowMonotonic : Monotonic)
  | recordRiskReducingAttempt (input : RiskReducingInput) (nowUtc : Instant)
  | recordTransportOutcome (cycleRef : Digest) (action : V4GmoAction)
      (outcome : V4GmoPrivateOutcome)
  | resolvePendingTransport (input : RecoveryInput) (nowUtc : Instant)
  | confirmExactProtection (signalFingerprint : Digest) (size : Nat) (nowUtc : Instant)
      (nowMonotonic : Monotonic)
  | recordClosedMetricsOnce (cycleRef : Digest) (realizedPnlJpy : Int)
  | reconcileExternalFlatNoPost (input : ExternalFlatInput) (nowUtc : Instant)
  | engageUnknownHalt
  | recordKillRehearsalPending (cycleRef : Digest)
  | initializeInheritedBaseline (baseline : InheritedAttemptBaseline)
  | consumeActionAuthorization (authorization : V4PersistedActionAuthorization)
      (plan : V4GmoActionPlan) (protectionPlan : Option V4GmoExactProtectionPlan)
      (reconciliationDigest : Option Digest) (requestBindingDigest : Digest)
      (nowMonotonic : Monotonic)

/-- The objects that a call may hand out. -/
inductive StoreResult
  | nothing
  | preflight (authorization : V4VerifiedEntryPreflightAuthorization)
  | attempt (prepared : V4PreparedAttempt)
  | transport (authorization : V4PersistedTransportAuthorization)

/-- Run a method and keep the object it hands out. -/
def keepResult {α : Type} (x : Store α) (f : α → StoreResult) : Store StoreResult := do
  let a ← x
  pure (f a)

/-- The method of a call. -/
def StoreOp.exec : StoreOp → Store StoreResult
  | .reopen latch => keepResult (openStore latch) fun _ => .nothing
  | .bindGeneration generation => keepResult (FxStrategyLab.bindGeneration generation)
      fun _ => .nothing
  | .reserveEntryCycle intent nowUtc =>
      keepResult (FxStrategyLab.reserveEntryCycle sha intent nowUtc) fun _ => .nothing
  | .releaseUnattemptedReservation cycleRef =>
      keepResult (FxStrategyLab.releaseUnattemptedReservation cycleRef) fun _ => .nothing
  | .recordEntryPreflight input nowUtc nowMonotonic =>
      keepResult (FxStrategyLab.recordEntryPreflight sha input nowUtc nowMonotonic)
        .preflight
  | .recordMarketAttempt authorization signalFingerprint plan nowUtc nowMonotonic =>
      keepResult
        (FxStrategyLab.recordMarketAttempt sha authorization signalFingerprint plan nowUtc
          nowMonotonic) .attempt
  | .persistExactProtectionPlan signalFingerprint averageFillPrice filledSize
      nowMonotonic =>
      keepResult
        (FxStrategyLab.persistExactProtectionPlan sha signalFingerprint averageFillPrice
          filledSize nowMonotonic) fun _ => .nothing
  | .recordExactProtectionAttempt signalFingerprint plan protectionPlan
      reconciliationDigest nowUtc nowMonotonic =>
      keepResult
        (FxStrategyLab.recordExactProtectionAttempt sha signalFingerprint plan
          protectionPlan reconciliationDigest nowUtc nowMonotonic) .attempt
  | .recordRiskReducingAttempt input nowUtc =>
      keepResult (FxStrategyLab.recordRiskReducingAttempt sha input nowUtc) .attempt
  | .recordTransportOutcome cycleRef action outcome =>
      keepResult (FxStrategyLab.recordTransportOutcome cycleRef action outcome)
        fun _ => .nothing
  | .resolvePendingTransport input nowUtc =>
      keepResult (FxStrategyLab.resolvePendingTransport input nowUtc) fun _ => .nothing
  | .confirmExactProtection signalFingerprint size nowUtc nowMonotonic =>
      keepResult
        (confirmExactProtectionWithinDeadline signalFingerprint size nowUtc nowMonotonic)
        fun _ => .nothing
  | .recordClosedMetricsOnce cycleRef realizedPnlJpy =>
      keepResult (FxStrategyLab.recordClosedMetricsOnce cycleRef realizedPnlJpy)
        fun _ => .nothing
  | .reconcileExternalFlatNoPost input nowUtc =>
      keepResult (FxStrategyLab.reconcileExternalFlatNoPost input nowUtc)
        fun _ => .nothing
  | .engageUnknownHalt => keepResult FxStrategyLab.engageUnknownHalt fun _ => .nothing
  | .recordKillRehearsalPending cycleRef =>
      keepResult (recordKillRehearsalPendingNoTransport cycleRef) fun _ => .nothing
  | .initializeInheritedBaseline baseline =>
      keepResult (initializeInheritedMarketAttemptBaselineOnce baseline) fun _ => .nothing
  | .consumeActionAuthorization authorization plan protectionPlan reconciliationDigest
      requestBindingDigest nowMonotonic =>
      keepResult
        (consumePersistedActionAuthorization sha authorization plan protectionPlan
          reconciliationDigest requestBindingDigest nowMonotonic) .transport

/-- A call: a method and the interference before each of its transactions. -/
structure StoreCall where
  op : StoreOp
  agenda : List Interference := []

/-- The state of a run: the store, the objects handed out, and the successful
uses of action authorizations, newest first. -/
structure StoreRun where
  world : StoreWorld := {}
  preflights : List V4VerifiedEntryPreflightAuthorization := []
  authorizations : List V4PersistedActionAuthorization := []
  consumptions : List V4PersistedTransportAuthorization := []

variable (r : StoreRun)

def StoreRun.holds : StoreOp → Prop
  | .recordMarketAttempt authorization _ _ _ _ => authorization ∈ r.preflights
  | .consumeActionAuthorization authorization _ _ _ _ _ =>
      authorization ∈ r.authorizations
  | _ => True

instance (r : StoreRun) : (op : StoreOp) → Decidable (r.holds op)
  | .recordMarketAttempt authorization _ _ _ _ =>
      inferInstanceAs (Decidable (authorization ∈ r.preflights))
  | .consumeActionAuthorization authorization _ _ _ _ _ =>
      inferInstanceAs (Decidable (authorization ∈ r.authorizations))
  | .reopen _ | .bindGeneration _ | .reserveEntryCycle _ _
  | .releaseUnattemptedReservation _ | .recordEntryPreflight _ _ _
  | .persistExactProtectionPlan _ _ _ _ | .recordExactProtectionAttempt _ _ _ _ _ _
  | .recordRiskReducingAttempt _ _ | .recordTransportOutcome _ _ _
  | .resolvePendingTransport _ _ | .confirmExactProtection _ _ _ _
  | .recordClosedMetricsOnce _ _ | .reconcileExternalFlatNoPost _ _
  | .engageUnknownHalt | .recordKillRehearsalPending _
  | .initializeInheritedBaseline _ => isTrue trivial

def StoreRun.keep : Outcome V4Error StoreResult → StoreRun
  | .returned (.preflight authorization) =>
      { r with preflights := authorization :: r.preflights }
  | .returned (.attempt prepared) =>
      { r with authorizations := prepared.authorization :: r.authorizations }
  | .returned (.transport authorization) =>
      { r with consumptions := authorization :: r.consumptions }
  | _ => r

def StoreRun.execute (call : StoreCall) :
    Outcome V4Error StoreResult × StoreWorld :=
  (call.op.exec sha).run { r.world with agenda := call.agenda }

/-- One call of a run. -/
def storeStep (call : StoreCall) : StoreRun :=
  if r.holds call.op then
    ({ r with world := (r.execute sha call).2 } : StoreRun).keep (r.execute sha call).1
  else r

def StoreOp.writes : StoreOp → LedgerWrite → Prop
  | _, .haltLatched => True
  | .bindGeneration generation, w => w = .bindGeneration generation
  | .reserveEntryCycle intent nowUtc, w =>
      w = .bindGeneration intent.generation ∨ ∃ risk, w = .reserve intent risk nowUtc
  | .releaseUnattemptedReservation cycleRef, w => w = .release cycleRef
  | .recordEntryPreflight input nowUtc nowMonotonic, w =>
      w = .entryPreflight input nowUtc nowMonotonic
  | .recordMarketAttempt authorization signalFingerprint plan nowUtc nowMonotonic, w =>
      w = .marketAttempt authorization signalFingerprint plan nowUtc nowMonotonic
  | .persistExactProtectionPlan _ averageFillPrice _ _, w =>
      ∃ cycleRef plan, w = .protectionPlan cycleRef plan averageFillPrice
  | .recordExactProtectionAttempt signalFingerprint plan protectionPlan
      reconciliationDigest nowUtc nowMonotonic, w =>
      w = .protectionAttempt signalFingerprint plan protectionPlan reconciliationDigest
        nowUtc nowMonotonic
  | .recordRiskReducingAttempt input nowUtc, w => w = .riskReducing input nowUtc
  | .recordTransportOutcome cycleRef action outcome, w =>
      w = .transportOutcome cycleRef action outcome
  | .resolvePendingTransport input nowUtc, w => w = .resolve input nowUtc
  | .confirmExactProtection signalFingerprint size nowUtc nowMonotonic, w =>
      w = .confirmProtection signalFingerprint size nowUtc nowMonotonic
  | .recordClosedMetricsOnce cycleRef realizedPnlJpy, w =>
      w = .closedMetrics cycleRef realizedPnlJpy
  | .reconcileExternalFlatNoPost input _, w => w = .externalFlat input
  | .recordKillRehearsalPending cycleRef, w => w = .killRehearsal cycleRef
  | .initializeInheritedBaseline baseline, w => w = .inheritedBaseline baseline
  | _, _ => False

variable {sha}

theorem within_keepResult {α : Type} {F : Frame StoreWorld} {x : Store α}
    {f : α → StoreResult} (hx : Within F x) : Within F (keepResult x f) :=
  hx.bind fun _ => Within.pure _

theorem StoreOp.within_exec (sha : Sha256) (op : StoreOp) :
    Within (storeWrites sha op.writes) (op.exec sha) := by
  cases op with
  | reopen latch => exact within_keepResult (within_openStore (by simp [writes]) _)
  | bindGeneration generation =>
      exact within_keepResult
        (within_bindGeneration (by simp [writes]) (by simp [writes]))
  | reserveEntryCycle intent nowUtc =>
      exact within_keepResult
        (within_reserveEntryCycle (by simp [writes]) (by simp [writes])
          (by simp [writes]))
  | releaseUnattemptedReservation cycleRef =>
      exact within_keepResult (within_release (by simp [writes]) (by simp [writes]))
  | recordEntryPreflight input nowUtc nowMonotonic =>
      exact within_keepResult
        (within_recordEntryPreflight (by simp [writes]) (by simp [writes]))
  | recordMarketAttempt authorization signalFingerprint plan nowUtc nowMonotonic =>
      exact within_keepResult
        (within_recordMarketAttempt (by simp [writes]) (by simp [writes]))
  | persistExactProtectionPlan signalFingerprint averageFillPrice filledSize
      nowMonotonic =>
      exact within_keepResult
        (within_persistExactProtectionPlan (by simp [writes]) (by simp [writes]))
  | recordExactProtectionAttempt signalFingerprint plan protectionPlan
      reconciliationDigest nowUtc nowMonotonic =>
      exact within_keepResult
        (within_recordExactProtectionAttempt (by simp [writes]) (by simp [writes]))
  | recordRiskReducingAttempt input nowUtc =>
      exact within_keepResult
        (within_recordRiskReducingAttempt (by simp [writes]) (by simp [writes]))
  | recordTransportOutcome cycleRef action outcome =>
      exact within_keepResult
        (within_recordTransportOutcome (by simp [writes]) (by simp [writes]))
  | resolvePendingTransport input nowUtc =>
      exact within_keepResult
        (within_resolvePendingTransport (by simp [writes]) (by simp [writes]))
  | confirmExactProtection signalFingerprint size nowUtc nowMonotonic =>
      exact within_keepResult
        (within_confirmExactProtection (by simp [writes]) (by simp [writes]))
  | recordClosedMetricsOnce cycleRef realizedPnlJpy =>
      exact within_keepResult
        (within_recordClosedMetricsOnce (by simp [writes]) (by simp [writes]))
  | reconcileExternalFlatNoPost input nowUtc =>
      exact within_keepResult
        (within_reconcileExternalFlatNoPost (by simp [writes]) (by simp [writes]))
  | engageUnknownHalt =>
      exact within_keepResult (within_engageUnknownHalt (by simp [writes]))
  | recordKillRehearsalPending cycleRef =>
      exact within_keepResult
        (within_recordKillRehearsal (by simp [writes]) (by simp [writes]))
  | initializeInheritedBaseline baseline =>
      exact within_keepResult
        (within_initializeInheritedBaseline (by simp [writes]) (by simp [writes]))
  | consumeActionAuthorization authorization plan protectionPlan reconciliationDigest
      requestBindingDigest nowMonotonic =>
      exact within_keepResult
        (within_consumePersistedActionAuthorization (by simp [writes]))

@[simp]
theorem StoreRun.keep_world (o : Outcome V4Error StoreResult) : (r.keep o).world = r.world := by
  unfold keep
  split <;> rfl

theorem storeStep_writes (sha : Sha256) (r : StoreRun) (call : StoreCall) :
    (writes sha call.op.writes).rel r.world.ledger (storeStep sha r call).world.ledger := by
  unfold storeStep
  split
  · rw [StoreRun.keep_world]
    exact (StoreOp.within_exec sha call.op { r.world with agenda := call.agenda }).1
  · exact .refl

end Runs

end FxStrategyLab
