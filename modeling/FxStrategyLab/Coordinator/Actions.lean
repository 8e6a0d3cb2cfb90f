import FxStrategyLab.Coordinator.Attempts

/-!
# The actions of a cycle

The store methods that commit one attempt each: the MARKET entry, the exact
OCO protection after its plan was persisted, and the five risk-reducing
actions, whose states of the account differ and whose frame is the same.
-/

namespace FxStrategyLab

open Library

section Actions

variable (sha : Sha256)

def v4EntryPreflightMaxAge : Nat := monotonicSeconds 2

/-- Not earlier than the reference and at most `limit` after it. -/
def monotonicWithin (reference now limit : Nat) : Bool :=
  decide (reference ≤ now ∧ now - reference ≤ limit)

variable (row : CycleRow)

def CycleRow.admitsMarket (plan : V4GmoActionPlan)
    (authorization : V4VerifiedEntryPreflightAuthorization) : Bool :=
  decide (plan.action = .marketEntry ∧ plan.cycleRef = row.cycleRef ∧
    plan.side = row.side ∧ plan.requestedSize = row.requestedSize ∧
    row.entryPreflightDigest = some authorization.preflightDigest ∧
    row.cycleRef = authorization.cycleRef ∧ row.entryPreflightMonotonic.isSome)

/-- The signal is still valid and the preflight not older than two seconds. -/
def CycleRow.marketTimely (nowUtc : Instant)
    (nowMonotonic : Monotonic) : Bool :=
  row.signalValid nowUtc &&
  match row.entryPreflightMonotonic with
  | none => false
  | some preflightAt => monotonicWithin preflightAt nowMonotonic v4EntryPreflightMaxAge

def marketAttemptRow (plan : V4GmoActionPlan) (cycleRef : Digest) (nowUtc : Instant) :
    AttemptRow where
  cycleRef
  action := .marketEntry
  attemptedAtUtc := nowUtc
  planDigest := persistedPlanDigest sha plan

def CycleRow.withMarketAttempt (nowUtc : Instant)
    (nowMonotonic : Monotonic) : CycleRow :=
  { row with
    marketAttemptedAtUtc := some nowUtc
    marketAttemptedMonotonic := some nowMonotonic }

/-- The transaction of `_record_market_attempt_from_coordinated_path`. -/
def marketAttemptTransaction (authorization : V4VerifiedEntryPreflightAuthorization)
    (signalFingerprint : Digest) (plan : V4GmoActionPlan) (nowUtc : Instant)
    (nowMonotonic : Monotonic) : Transaction AttemptRow := fun l =>
  match l.cycleOfSignal? signalFingerprint with
  | none => .error (coordinatorError "v4 entry intent is missing")
  | some row =>
      if row.admitsMarket plan authorization && row.marketTimely nowUtc nowMonotonic then
        let attempt := marketAttemptRow sha plan row.cycleRef nowUtc
        match l.insertAttempt attempt "second v4 MARKET attempt refused" with
        | .error e => .error e
        | .ok inserted =>
            .ok (attempt,
              inserted.updateCycles (fun r => r.cycleRef = row.cycleRef)
                (fun r => r.withMarketAttempt nowUtc nowMonotonic)
                (fun _ => ⟨rfl, rfl⟩))
      else
        .error
          ((coordinatorError "v4 MARKET plan does not match persisted intent").lateIf
            (row.admitsMarket plan authorization))

/-- Source `_record_market_attempt_from_coordinated_path`. -/
def recordMarketAttempt (authorization : V4VerifiedEntryPreflightAuthorization)
    (signalFingerprint : Digest) (plan : V4GmoActionPlan) (nowUtc : Instant)
    (nowMonotonic : Monotonic) : Store V4PreparedAttempt := do
  let consumed ← Process.gets StoreWorld.consumedObjects
  Process.require (authorization.objectId ∉ consumed ∧
      authorization.signalFingerprint = signalFingerprint)
    (coordinatorError "v4 entry issuer is invalid")
  let halted ← unknownHaltLatched
  Process.require (halted = false) (coordinatorError "v4 unknown halt is latched")
  let attempt ← transact
    (marketAttemptTransaction sha authorization signalFingerprint plan nowUtc nowMonotonic)
  consumeObject authorization.objectId
  issuePreparedAttempt attempt none none

def v4ProtectionDeadline : Nat := monotonicSeconds 15

/-- The average fill price that `entry_slippage_pips` compares with. -/
def CycleRow.slippagePips (average bid ask : ℚ) : ℚ :=
  match row.side with
  | .buy => (average - ask) / (1 / 100)
  | _ => (bid - average) / (1 / 100)

def deriveProtectionPlan (signalFingerprint : Digest)
    (averageFillPrice : ℚ) (filledSize : Nat) (nowMonotonic : Monotonic) :
    Except V4Error V4GmoExactProtectionPlan :=
  match row.marketAttemptedAtUtc, row.marketAttemptedMonotonic with
  | some _, some attemptedMonotonic =>
      if monotonicWithin attemptedMonotonic nowMonotonic v4ProtectionDeadline = false then
        .error ((coordinatorError "v4 protection deadline exceeded").lateIf true)
      else if row.frozenAtrDigest ≠ atrDigest sha signalFingerprint row.frozenAtr24 then
        .error (coordinatorError "v4 frozen ATR digest mismatch")
      else
        match row.instructionBid, row.instructionAsk with
        | some bid, some ask =>
            if 0 < bid ∧ bid ≤ ask then
              buildExactFillOcoPlanNoPost row.side averageFillPrice row.frozenAtr24
                filledSize
            else .error (coordinatorError "v4 entry execution metrics are invalid")
        | _, _ => .error (coordinatorError "v4 entry reference quote is missing")
  | _, _ => .error (coordinatorError "v4 MARKET attempt is not persisted")

def CycleRow.withProtectionPlan (plan : V4GmoExactProtectionPlan)
    (averageFillPrice : ℚ) : CycleRow :=
  let bid := row.instructionBid.getD 0
  let ask := row.instructionAsk.getD 0
  { row with
    protectionPlanDigest := some (plan.persistedDigest sha)
    protectionPlanJson := some plan
    entryAverageFillPrice := some averageFillPrice
    entrySpreadPips := some ((ask - bid) / (1 / 100))
    entrySlippagePips := some (row.slippagePips averageFillPrice bid ask) }

/-- The writing transaction of
`_persist_exact_protection_plan_from_coordinated_path`. -/
def protectionPlanTransaction (cycleRef : Digest) (plan : V4GmoExactProtectionPlan)
    (averageFillPrice : ℚ) : Transaction Unit := fun l =>
  match l.cycle? cycleRef with
  | none => .error (coordinatorError "second v4 protection plan refused")
  | some row =>
      if row.protectionPlanDigest.isNone then
        .ok ((), l.updateCycles (fun r => r.cycleRef = cycleRef)
          (fun r => r.withProtectionPlan sha plan averageFillPrice) (fun _ => ⟨rfl, rfl⟩))
      else .error (coordinatorError "second v4 protection plan refused")

/-- Source `_persist_exact_protection_plan_from_coordinated_path`. -/
def persistExactProtectionPlan (signalFingerprint : Digest) (averageFillPrice : ℚ)
    (filledSize : Nat) (nowMonotonic : Monotonic) : Store V4GmoExactProtectionPlan := do
  let found ← query fun l => l.cycleOfSignal? signalFingerprint
  match found with
  | none => Process.raise (coordinatorError "v4 MARKET attempt is not persisted")
  | some row => do
      let plan ← ofExcept
        (deriveProtectionPlan sha row signalFingerprint averageFillPrice filledSize
          nowMonotonic)
      transact (protectionPlanTransaction sha row.cycleRef plan averageFillPrice)
      pure plan

def CycleRow.admitsProtection (plan : V4GmoActionPlan)
    (protectionPlan : V4GmoExactProtectionPlan) (reconciliationDigest : Digest) : Bool :=
  decide (row.protectionPlanDigest = some (protectionPlan.persistedDigest sha) ∧
    row.protectionPlanJson = some protectionPlan ∧
    plan.action = .exactSizeOcoProtection ∧ plan.cycleRef = row.cycleRef ∧
    plan.side = row.side ∧ plan.requestedSize = protectionPlan.exactFilledSize ∧
    plan.requestedSize ≤ row.requestedSize ∧
    plan.protectionContractHash = some protectionPlan.contractHash ∧
    validDigest reconciliationDigest = true)

def reconciledAttemptRow (plan : V4GmoActionPlan) (cycleRef : Digest)
    (reconciliationDigest : Digest) (nowUtc : Instant) : AttemptRow where
  cycleRef
  action := plan.action
  attemptedAtUtc := nowUtc
  planDigest := persistedPlanDigest sha plan
  reconciliationDigest := some reconciliationDigest

/-- The transaction of `_record_exact_protection_attempt_from_coordinated_path`:
the committed row and the MARKET attempt's monotonic time. -/
def protectionAttemptTransaction (signalFingerprint : Digest) (plan : V4GmoActionPlan)
    (protectionPlan : V4GmoExactProtectionPlan) (reconciliationDigest : Digest)
    (nowUtc : Instant) (nowMonotonic : Monotonic) :
    Transaction (AttemptRow × Monotonic) := fun l =>
  if l.haltAllowsAction plan.cycleRef .exactSizeOcoProtection = false then
    .error (coordinatorError "v4 unknown halt is latched")
  else
    match l.cycleOfSignal? signalFingerprint with
    | none => .error (coordinatorError "v4 persisted protection plan mismatch")
    | some row =>
        if row.admitsProtection sha plan protectionPlan reconciliationDigest = false then
          .error (coordinatorError "v4 persisted protection plan mismatch")
        else
          match row.marketAttemptedMonotonic with
          | none => .error (coordinatorError "v4 MARKET attempt is not persisted")
          | some attemptedMonotonic =>
              if monotonicWithin attemptedMonotonic nowMonotonic v4ProtectionDeadline then
                let attempt :=
                  reconciledAttemptRow sha plan row.cycleRef reconciliationDigest nowUtc
                match l.insertAttempt attempt "second v4 protection attempt refused" with
                | .error e => .error e
                | .ok inserted => .ok ((attempt, attemptedMonotonic), inserted)
              else
                .error ((coordinatorError "v4 protection deadline exceeded").lateIf true)

/-- Source `_record_exact_protection_attempt_from_coordinated_path`. -/
def recordExactProtectionAttempt (signalFingerprint : Digest) (plan : V4GmoActionPlan)
    (protectionPlan : V4GmoExactProtectionPlan) (reconciliationDigest : Digest)
    (nowUtc : Instant) (nowMonotonic : Monotonic) : Store V4PreparedAttempt := do
  let (attempt, attemptedMonotonic) ← transact
    (protectionAttemptTransaction sha signalFingerprint plan protectionPlan
      reconciliationDigest nowUtc nowMonotonic)
  issuePreparedAttempt attempt (some (protectionPlan.persistedDigest sha))
    (some (attemptedMonotonic + v4ProtectionDeadline))

def V4GmoBrokerSnapshot.showsExactPosition (snapshot : V4GmoBrokerSnapshot)
    (side : SignalDecision) (positionBundleTotal : Option Nat) : Prop :=
  snapshot.positionCount = 1 ∧ snapshot.positionSide = some side ∧
    0 < snapshot.filledSize ∧ snapshot.pendingEntrySize = 0 ∧
    snapshot.entryStatus = .filled ∧ positionBundleTotal = some snapshot.filledSize
deriving Decidable

def riskReducingStateValid (action : V4GmoAction) (side : SignalDecision)
    (requestedSize : Nat) (snapshot : V4GmoBrokerSnapshot)
    (positionBundleTotal : Option Nat) : Bool :=
  match action with
  | .cancelEntryRemainder =>
      decide (0 < snapshot.pendingEntrySize ∧ snapshot.positionCount ≤ 1 ∧
        requestedSize = snapshot.pendingEntrySize)
  | .cancelMismatchedProtection =>
      decide (snapshot.positionCount = 1 ∧ 0 < snapshot.filledSize ∧
        0 < snapshot.protectionSize ∧
        (snapshot.protectionStatus = .undersized ∨
          snapshot.protectionStatus = .oversized) ∧
        requestedSize = snapshot.protectionSize)
  | .positionSpecificEmergencyExit | .positionSpecificTimeExit =>
      decide (snapshot.showsExactPosition side positionBundleTotal ∧
        snapshot.protectionSize = 0 ∧ requestedSize = snapshot.filledSize)
  | _ =>
      decide (snapshot.showsExactPosition side positionBundleTotal ∧
        snapshot.protectionSize = snapshot.filledSize ∧
        snapshot.protectionStatus = .exactMatch ∧
        requestedSize = snapshot.protectionSize)

def timeExitDue (attemptedAt nowUtc : Instant) : Bool :=
  match v4GmoScheduledTimeExitAt attemptedAt with
  | none => false
  | some scheduledExit => decide (scheduledExit ≤ nowUtc)

def CycleRow.admitsSettlementSize (size : Nat) : Bool :=
  match row.settlementExpectedSize with
  | none => true
  | some expected => decide (expected = size)

def CycleRow.withSettlementSize (size : Nat) : CycleRow :=
  { row with settlementExpectedSize := some size }

/-- What the coordinated path hands to a risk-reducing attempt. -/
structure RiskReducingInput where
  signalFingerprint : Digest
  plan : V4GmoActionPlan
  snapshot : V4GmoBrokerSnapshot
  positionBundleTotal : Option Nat
  authoritativeReconciliationDigest : Digest

def Ledger.fixSettlementSize (l : Ledger) (row : CycleRow) (plan : V4GmoActionPlan) :
    Except V4Error Ledger :=
  if plan.action ∈ V4GmoAction.positionClose then
    if row.admitsSettlementSize plan.requestedSize then
      .ok (l.updateCycles (fun r => r.cycleRef = row.cycleRef)
        (fun r => r.withSettlementSize plan.requestedSize) (fun _ => ⟨rfl, rfl⟩))
    else .error (coordinatorError "v4 settlement size mismatch")
  else .ok l

/-- The transaction of `_record_risk_reducing_attempt_from_coordinated_path`. -/
def riskReducingTransaction (input : RiskReducingInput) (nowUtc : Instant) :
    Transaction AttemptRow := fun l =>
  match l.cycleOfSignal? input.signalFingerprint with
  | none => .error (coordinatorError "v4 MARKET attempt is not persisted")
  | some row =>
      match row.marketAttemptedAtUtc with
      | none => .error (coordinatorError "v4 MARKET attempt is not persisted")
      | some attemptedAt =>
          if input.plan.cycleRef ≠ row.cycleRef ∨ input.plan.side ≠ row.side then
            .error (coordinatorError "v4 risk-reducing plan mismatch")
          else if l.haltAllowsAction row.cycleRef input.plan.action = false then
            .error (coordinatorError "v4 unknown halt risk action mismatch")
          else if riskReducingStateValid input.plan.action row.side
                input.plan.requestedSize input.snapshot input.positionBundleTotal = false ∨
              (input.plan.action ∈ V4GmoAction.timeExit ∧
                timeExitDue attemptedAt nowUtc = false) then
            .error ((coordinatorError "v4 risk-reducing state mismatch").lateIf
              (riskReducingStateValid input.plan.action row.side input.plan.requestedSize
                input.snapshot input.positionBundleTotal))
          else
            match l.fixSettlementSize row input.plan with
            | .error e => .error e
            | .ok settled =>
                let attempt := reconciledAttemptRow sha input.plan row.cycleRef
                  input.authoritativeReconciliationDigest nowUtc
                match settled.insertAttempt attempt
                    "second v4 risk-reducing attempt refused" with
                | .error e => .error e
                | .ok inserted => .ok (attempt, inserted)

/-- Source `_record_risk_reducing_attempt_from_coordinated_path`. -/
def recordRiskReducingAttempt (input : RiskReducingInput) (nowUtc : Instant) :
    Store V4PreparedAttempt := do
  Process.require (input.plan.action ∈ V4GmoAction.riskReducing)
    (coordinatorError "v4 risk-reducing action is invalid")
  Process.require (input.snapshot.fresh = true ∧ input.snapshot.resultKnown = true)
    (coordinatorError "v4 risk-reducing state is unknown")
  Process.require (validDigest input.authoritativeReconciliationDigest = true)
    (coordinatorError "v4 authoritative reconciliation digest is invalid")
  let attempt ← transact (riskReducingTransaction sha input nowUtc)
  issuePreparedAttempt attempt none none

end Actions

end FxStrategyLab
