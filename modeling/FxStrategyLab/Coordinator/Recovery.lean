import FxStrategyLab.Coordinator.Actions

/-!
# Outcomes, recovery and the end of a cycle

The store methods that follow an attempt: the recorded transport outcome, the
resolution of a pending marker from a fresh snapshot, the confirmation of the
protection, the realized result, and the operator's external-flat
reconciliation, the only method that releases the unknown halt.
-/

namespace FxStrategyLab

open Library

section Recovery

variable (sha : Sha256)

inductive V4GmoPrivateOutcome
  | acceptedSanitized
  | rejectedSanitized
  | unknownSanitized
deriving DecidableEq

variable (cycleRef : Digest)

/-- The transaction of `_record_transport_outcome_from_coordinated_path`: a
rejection clears the marker; an accepted or unknown outcome keeps it and
latches the halt. -/
def transportOutcomeTransaction (action : V4GmoAction)
    (outcome : V4GmoPrivateOutcome) : Transaction Unit := fun l =>
  if l.pendingTransportAttempt = some ⟨action, cycleRef⟩ then
    match outcome with
    | .rejectedSanitized => .ok ((), { l with pendingTransportAttempt := none })
    | _ => .ok ((), l.haltLatched)
  else .error (coordinatorError "v4 pending transport state mismatch")

/-- Source `_record_transport_outcome_from_coordinated_path`. -/
def recordTransportOutcome (action : V4GmoAction)
    (outcome : V4GmoPrivateOutcome) : Store Unit :=
  transact (transportOutcomeTransaction cycleRef action outcome)

variable (snapshot : V4GmoBrokerSnapshot)

/-- The account shows nothing of the cycle. -/
def V4GmoBrokerSnapshot.recoveryFlat
    (positionBundleTotal : Option Nat) : Prop :=
  snapshot.positionCount = 0 ∧ snapshot.positionSide = none ∧
    snapshot.filledSize = 0 ∧ snapshot.pendingEntrySize = 0 ∧
    snapshot.protectionSize = 0 ∧
    (snapshot.entryStatus = .none ∨ snapshot.entryStatus = .rejected) ∧
    snapshot.protectionStatus = .none ∧ positionBundleTotal = none
deriving Decidable

/-- The account shows one position of the expected side, all of it owned. -/
def V4GmoBrokerSnapshot.ownershipExact
    (expectedSide : SignalDecision) (positionBundleTotal : Option Nat) : Prop :=
  snapshot.positionCount = 1 ∧ snapshot.positionSide = some expectedSide ∧
    0 < snapshot.filledSize ∧ positionBundleTotal = some snapshot.filledSize
deriving Decidable

/-- The entry of the cycle is still working. -/
def V4GmoBrokerSnapshot.partialPending
    (previousAction : V4GmoAction) (expectedSide : SignalDecision)
    (positionBundleTotal : Option Nat) : Prop :=
  previousAction = .marketEntry ∧
    (snapshot.entryStatus = .pending ∨ snapshot.entryStatus = .partially) ∧
    0 < snapshot.pendingEntrySize ∧ snapshot.protectionSize = 0 ∧
    snapshot.protectionStatus = .none ∧
    ((snapshot.positionCount = 0 ∧ snapshot.positionSide = none ∧
        snapshot.filledSize = 0 ∧ positionBundleTotal = none) ∨
      snapshot.ownershipExact expectedSide positionBundleTotal)
deriving Decidable

/-- The entry is settled and the position owned. -/
def V4GmoBrokerSnapshot.filledExact
    (expectedSide : SignalDecision) (positionBundleTotal : Option Nat) : Prop :=
  snapshot.ownershipExact expectedSide positionBundleTotal ∧
    snapshot.entryStatus = .filled ∧ snapshot.pendingEntrySize = 0
deriving Decidable

def classifyPendingTransportRecovery (previousAction : V4GmoAction)
    (expectedSide : SignalDecision) (snapshot : V4GmoBrokerSnapshot)
    (positionBundleTotal : Option Nat) : Option RecoveryClassification :=
  if snapshot.recoveryFlat positionBundleTotal then
    some .flatOrRejected
  else if snapshot.partialPending previousAction expectedSide positionBundleTotal then
    some .marketPartialPending
  else if snapshot.filledExact expectedSide positionBundleTotal ∧
      snapshot.protectionSize = 0 ∧ snapshot.protectionStatus = .none then
    some .filledUnprotected
  else if snapshot.filledExact expectedSide positionBundleTotal ∧
      snapshot.protectionSize = snapshot.filledSize ∧
      snapshot.protectionStatus = .exactMatch then
    some .filledProtected
  else if snapshot.filledExact expectedSide positionBundleTotal ∧
      0 < snapshot.protectionSize ∧
      (snapshot.protectionStatus = .undersized ∨
        snapshot.protectionStatus = .oversized) then
    some .filledProtectionMismatched
  else none

/-- What the coordinated path hands to a recovery. -/
structure RecoveryInput where
  cycleRef : Digest
  snapshot : V4GmoBrokerSnapshot
  positionBundleTotal : Option Nat
  authoritativeReconciliationDigest : Digest

/-- The transaction of `_resolve_pending_transport_from_coordinated_path`. -/
def resolveTransaction (input : RecoveryInput) (nowUtc : Instant) :
    Transaction PendingTransportResolution := fun l =>
  match l.pendingTransportAttempt, l.cycle? input.cycleRef with
  | some pending, some cycle =>
      if l.unknownHaltLatched = false ∨ pending.cycleRef ≠ input.cycleRef then
        .error (coordinatorError "v4 pending transport recovery state mismatch")
      else
        match classifyPendingTransportRecovery pending.action cycle.side input.snapshot
            input.positionBundleTotal with
        | none => .error (coordinatorError "v4 pending transport recovery remains unknown")
        | some classification =>
            match l.generationDigest? with
            | none => .error (coordinatorError "v4 generation binding is missing")
            | some generationDigest =>
                let resolution : PendingTransportResolution :=
                  { classification
                    cycleRef := input.cycleRef
                    generationDigest
                    previousAction := pending.action
                    reconciliationDigest := input.authoritativeReconciliationDigest
                    resolvedAtUtc := nowUtc }
                .ok (resolution,
                  { l with
                    pendingTransportResolution := some resolution
                    pendingTransportAttempt := none })
  | _, _ => .error (coordinatorError "v4 pending transport recovery state mismatch")

/-- Source `_resolve_pending_transport_from_coordinated_path`; the result stands
for `V4PendingTransportRecovery`. -/
def resolvePendingTransport (input : RecoveryInput) (nowUtc : Instant) :
    Store PendingTransportResolution := do
  Process.require (input.snapshot.fresh = true ∧ input.snapshot.resultKnown = true ∧
      validDigest input.authoritativeReconciliationDigest = true)
    (coordinatorError "v4 pending transport recovery remains unknown")
  transact (resolveTransaction input nowUtc)

def CycleRow.withProtectionConfirmed (row : CycleRow) (nowUtc : Instant) : CycleRow :=
  { row with protectionConfirmedAtUtc := some nowUtc }

/-- The transaction of `confirm_exact_protection_within_deadline`. -/
def confirmProtectionTransaction (signalFingerprint : Digest)
    (confirmedProtectionSize : Nat) (nowUtc : Instant) (nowMonotonic : Monotonic) :
    Transaction Unit := fun l =>
  match l.cycleOfSignal? signalFingerprint with
  | none => .error (coordinatorError "v4 persisted protection plan mismatch")
  | some row =>
      match row.protectionPlanJson with
      | none => .error (coordinatorError "v4 persisted protection plan mismatch")
      | some plan =>
          match row.marketAttemptedMonotonic with
          | none => .error (coordinatorError "v4 MARKET attempt is not persisted")
          | some attemptedMonotonic =>
              let inOrder := decide (plan.exactFilledSize = confirmedProtectionSize)
              if inOrder &&
                  monotonicWithin attemptedMonotonic nowMonotonic v4ProtectionDeadline then
                .ok ((), l.updateCycles
                  (fun r => r.signalFingerprint = signalFingerprint)
                  (fun r => r.withProtectionConfirmed nowUtc) (fun _ => ⟨rfl, rfl⟩))
              else
                .error
                  ((coordinatorError "v4 exact protection confirmation failed").lateIf
                    inOrder)

def confirmExactProtectionWithinDeadline (signalFingerprint : Digest)
    (confirmedProtectionSize : Nat) (nowUtc : Instant) (nowMonotonic : Monotonic) :
    Store Unit :=
  transact
    (confirmProtectionTransaction signalFingerprint confirmedProtectionSize nowUtc
      nowMonotonic)

def CycleRow.closedMetrics (row : CycleRow) (realizedPnlJpy : Int) :
    Option Int × Option ℚ × Option Bool :=
  (some realizedPnlJpy, some (realizedPnlJpy / (row.requestedSize * (1 / 100))),
    some (decide (0 < realizedPnlJpy)))

def CycleRow.withClosedMetrics (row : CycleRow) (realizedPnlJpy : Int) : CycleRow :=
  { row with
    realizedPnlJpy := (row.closedMetrics realizedPnlJpy).1
    netPips := (row.closedMetrics realizedPnlJpy).2.1
    tradeWon := (row.closedMetrics realizedPnlJpy).2.2 }

/-- The transaction of `record_closed_metrics_once_internal`. -/
def closedMetricsTransaction (realizedPnlJpy : Int) :
    Transaction Bool := fun l =>
  match l.cycle? cycleRef with
  | none => .error (coordinatorError "v4 cycle is unknown")
  | some row =>
      if (row.realizedPnlJpy, row.netPips, row.tradeWon) =
          row.closedMetrics realizedPnlJpy then
        .ok (false, l)
      else if row.realizedPnlJpy = none ∧ row.netPips = none ∧ row.tradeWon = none then
        .ok (true, l.updateCycles (fun r => r.cycleRef = cycleRef)
          (fun r => r.withClosedMetrics realizedPnlJpy) (fun _ => ⟨rfl, rfl⟩))
      else .error (coordinatorError "v4 closed metric mismatch")

/-- Source `record_closed_metrics_once_internal`. -/
def recordClosedMetricsOnce (realizedPnlJpy : Int) : Store Bool :=
  transact (closedMetricsTransaction cycleRef realizedPnlJpy)

/-- What the operator's tool hands to `reconcile_external_flat_no_post`. -/
structure ExternalFlatInput where
  generationDigest : Digest
  reviewedFilesDigest : Digest
  evidenceDigest : Digest
  observedAtUtc : Instant
  validUntilUtc : Instant
  accountFlat : Bool
  activeOrdersZero : Bool
  brokerWrite : Bool
  brokerPostCount : Nat

/-- The checks of `reconcile_external_flat_no_post` that do not read the ledger. -/
def ExternalFlatInput.wellFormed (input : ExternalFlatInput) (nowUtc : Instant) : Prop :=
  validReconciliationDigest input.generationDigest = true ∧
    validReconciliationDigest input.reviewedFilesDigest = true ∧
    validReconciliationDigest input.evidenceDigest = true ∧
    input.brokerWrite = false ∧ input.brokerPostCount = 0 ∧
    input.observedAtUtc ≤ nowUtc ∧ nowUtc ≤ input.validUntilUtc ∧
    input.validUntilUtc - input.observedAtUtc ≤ wallSeconds 60
deriving Decidable

/-- The transaction of `reconcile_external_flat_no_post`: the latest cycle must
be the only unresolved one and nothing may be pending. -/
def externalFlatTransaction (input : ExternalFlatInput) : Transaction Bool := fun l =>
  match l.latestCycle? with
  | none => .ok (false, l)
  | some row =>
      if l.generationDigest? = some input.generationDigest ∧
          l.pendingTransportAttempt = none ∧ input.accountFlat = true ∧
          input.activeOrdersZero = true ∧ row.realizedPnlJpy = none ∧
          l.unresolved.length = 1 then
        .ok (true,
          { l with
            externalFlatReconciliation :=
              some
                { generationDigest := input.generationDigest
                  reviewedFilesDigest := input.reviewedFilesDigest
                  evidenceDigest := input.evidenceDigest
                  cycleRef := row.cycleRef
                  observedAtUtc := input.observedAtUtc
                  validUntilUtc := input.validUntilUtc }
            unknownHaltLatched := false })
      else .ok (false, l)

def reconcileExternalFlatNoPost (input : ExternalFlatInput) (nowUtc : Instant) :
    Store Bool :=
  if input.wellFormed nowUtc then transact (externalFlatTransaction input)
  else pure false

end Recovery

end FxStrategyLab
