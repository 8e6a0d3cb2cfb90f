import FxStrategyLab.Coordinator.Entry

/-!
# Attempts and their one-use authorizations

Every action is committed as a row of `attempts`, together with the marker
`pending_transport_attempt`, before anything is sent.  The commit hands out an
authorization in memory, which is good for one use and only while the
committed row, the marker and the generation are what they were.
-/

namespace FxStrategyLab

open Library

section Attempts

variable (sha : Sha256)

def authorizationError (label : String) : V4Error :=
  { exceptionClass := .persistedAuthorization, message := label }

/-- Source `_recovery_value_allows_action`. -/
def RecoveryClassification.allows : RecoveryClassification → List V4GmoAction
  | .flatOrRejected => []
  | .marketPartialPending => [.cancelEntryRemainder]
  | .filledUnprotected =>
      [.exactSizeOcoProtection, .positionSpecificEmergencyExit, .positionSpecificTimeExit]
  | .filledProtectionMismatched =>
      [.cancelMismatchedProtection, .positionSpecificEmergencyExit]
  | .filledProtected => [.cancelExactProtectionForTimeExit]

def Ledger.recoveryAllowsAction (l : Ledger) (cycleRef : Digest)
    (action : V4GmoAction) : Bool :=
  match l.pendingTransportResolution with
  | none => false
  | some resolution =>
      decide (resolution.cycleRef = cycleRef ∧
        action ∈ resolution.classification.allows)

def Ledger.haltAllowsAction (l : Ledger) (cycleRef : Digest)
    (action : V4GmoAction) : Bool :=
  !l.unknownHaltLatched || l.recoveryAllowsAction cycleRef action

/-- Insert an attempt and the pending marker; the primary key refuses a second
attempt, the marker an action while another one is pending. -/
def Ledger.insertAttempt (l : Ledger) (row : AttemptRow) (secondRefused : String) :
    Except V4Error Ledger :=
  match l.attempts.insert? row with
  | none => .error (coordinatorError secondRefused)
  | some attempts =>
      match l.pendingTransportAttempt with
      | some _ => .error (coordinatorError "v4 pending transport requires operator review")
      | none =>
          .ok { l with
            attempts
            pendingTransportAttempt := some ⟨row.action, row.cycleRef⟩ }

/-- The verifier's re-reading of the database, source `verify`. -/
def CommittedAttemptVerifier.verify (v : CommittedAttemptVerifier) (l : Ledger) : Bool :=
  match l.attempt? v.cycleRef v.action with
  | none => false
  | some row =>
      decide (row.planDigest = v.planDigest ∧
        row.reconciliationDigest = v.reconciliationDigest ∧
        l.generationDigest? = some v.expectedGenerationDigest ∧
        l.pendingTransportAttempt = some ⟨v.action, v.cycleRef⟩ ∧
        (l.unknownHaltLatched = true →
          v.action ≠ .marketEntry ∧ l.recoveryAllowsAction v.cycleRef v.action = true)) &&
      match l.cycle? v.cycleRef with
      | none => false
      | some cycle =>
          decide ((v.action = .marketEntry → cycle.entryPreflightDigest.isSome) ∧
            (v.protectionPlanDigest.isSome →
              cycle.protectionPlanDigest = v.protectionPlanDigest))

def committedAttemptVerifier (row : AttemptRow) (protectionPlanDigest : Option Digest) :
    Store CommittedAttemptVerifier := do
  let generation ← query Ledger.generationDigest?
  match generation with
  | none => Process.raise (coordinatorError "v4 generation binding is missing")
  | some expectedGenerationDigest =>
      pure
        { cycleRef := row.cycleRef
          action := row.action
          planDigest := row.planDigest
          protectionPlanDigest
          reconciliationDigest := row.reconciliationDigest
          expectedGenerationDigest }

/-- Hand out the authorization of a committed attempt, source
`_issue_persisted_action_authorization`. -/
def issuePreparedAttempt (row : AttemptRow) (protectionPlanDigest : Option Digest)
    (deadlineMonotonic : Option Monotonic) : Store V4PreparedAttempt := do
  let verifier ← committedAttemptVerifier row protectionPlanDigest
  let objectId ← issueObject
  pure
    { cycleRef := row.cycleRef
      action := row.action
      attemptedAtUtc := row.attemptedAtUtc
      authorization :=
        { objectId
          planDigest := row.planDigest
          protectionPlanDigest
          reconciliationDigest := row.reconciliationDigest
          deadlineMonotonic
          verifyCommitted := verifier } }

/-- The checks of `consume_persisted_action_authorization` that do not read
the database. -/
def authorizationMatches (authorization : V4PersistedActionAuthorization)
    (plan : V4GmoActionPlan) (protectionPlan : Option V4GmoExactProtectionPlan)
    (reconciliationDigest : Option Digest) (requestBindingDigest : Digest)
    (nowMonotonic : Monotonic) : Except V4Error Unit :=
  if authorization.planDigest ≠ persistedPlanDigest sha plan ∨
      authorization.reconciliationDigest ≠ reconciliationDigest ∨
      validDigest requestBindingDigest = false then
    .error (authorizationError "V4_PERSISTED_AUTHORIZATION_INVALID")
  else if plan.action = .exactSizeOcoProtection then
    match protectionPlan, authorization.deadlineMonotonic with
    | some protection, some deadline =>
        let inOrder := decide
          (authorization.protectionPlanDigest = some (protection.persistedDigest sha))
        if inOrder && decide (nowMonotonic ≤ deadline) then .ok ()
        else
          .error
            ((authorizationError "V4_PERSISTED_PROTECTION_AUTHORIZATION_INVALID").lateIf
              inOrder)
    | _, _ => .error (authorizationError "V4_PERSISTED_PROTECTION_AUTHORIZATION_INVALID")
  else if authorization.protectionPlanDigest.isSome then
    .error (authorizationError "V4_PERSISTED_AUTHORIZATION_INVALID")
  else .ok ()

def consumePersistedActionAuthorization (authorization : V4PersistedActionAuthorization)
    (plan : V4GmoActionPlan) (protectionPlan : Option V4GmoExactProtectionPlan)
    (reconciliationDigest : Option Digest) (requestBindingDigest : Digest)
    (nowMonotonic : Monotonic) : Store V4PersistedTransportAuthorization := do
  let consumed ← Process.gets StoreWorld.consumedObjects
  Process.require (authorization.objectId ∉ consumed)
    (authorizationError "V4_PERSISTED_AUTHORIZATION_INVALID")
  ofExcept (authorizationMatches sha authorization plan protectionPlan
    reconciliationDigest requestBindingDigest nowMonotonic)
  let committed ← query authorization.verifyCommitted.verify
  Process.require (committed = true)
    (authorizationError "V4_PERSISTED_COMMIT_REVERIFY_FAILED")
  consumeObject authorization.objectId
  let objectId ← issueObject
  pure
    { objectId
      cycleRef := plan.cycleRef
      action := plan.action
      planDigest := persistedPlanDigest sha plan
      requestBindingDigest }

def consumePersistedTransportAuthorization
    (authorization : V4PersistedTransportAuthorization) (cycleRef : Digest)
    (allowedActions : List V4GmoAction) (requestBindingDigest : Digest) : Store Unit := do
  let consumed ← Process.gets StoreWorld.consumedObjects
  Process.require (authorization.objectId ∉ consumed ∧
      authorization.cycleRef = cycleRef ∧ authorization.action ∈ allowedActions ∧
      authorization.requestBindingDigest = requestBindingDigest)
    (authorizationError "V4_PERSISTED_TRANSPORT_AUTHORIZATION_INVALID")
  consumeObject authorization.objectId

end Attempts

end FxStrategyLab
