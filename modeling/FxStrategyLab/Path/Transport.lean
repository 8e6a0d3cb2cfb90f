import FxStrategyLab.Path.World

/-!
# The private transport and the adapter

This file embeds `V4PrivateApiCadenceGate`, the method `request` of
`V4GmoHttpxPrivateTransport`, and the two methods of `V4GmoActualAdapter` that
reach the broker: `perform_once`, which sends one persisted action, and
`reconcile_at_fixed_cadence`, which reads executions, positions and active
orders, in this order and never closer together than the frozen pacing.
-/

namespace FxStrategyLab

open Library

variable {β : Type}

/-- Source `V4_PRIVATE_GET_PACING_SECONDS`. -/
def v4PrivateGetPacing : Nat := monotonicMilliseconds 550

/-- Source `V4_PRIVATE_POST_TO_GET_PACING_SECONDS`. -/
def v4PrivatePostToGetPacing : Nat := monotonicMilliseconds 1100

/-- Source `V4_PRIVATE_GET_TO_POST_PACING_SECONDS`. -/
def v4PrivateGetToPostPacing : Nat := monotonicMilliseconds 1100

/-- Source `V4_PRIVATE_POST_TO_POST_PACING_SECONDS`. -/
def v4PrivatePostToPostPacing : Nat := monotonicMilliseconds 1200

/-- Source `get_minimum_interval_seconds`. -/
def gateGetMinimum : Nat := monotonicMilliseconds 500

/-- Source `post_minimum_interval_seconds`. -/
def gatePostMinimum : Nat := monotonicMilliseconds 1100

/-- Source `cross_minimum_interval_seconds`. -/
def gateCrossMinimum : Nat := monotonicMilliseconds 1000

namespace CadenceGate

def admitted (previous : Option Monotonic) (now minimum : Nat) : Bool :=
  match previous with
  | none => true
  | some p => decide (p + minimum ≤ now)

/-- Source `admit` for a GET. -/
def admitGet (gate : CadenceGate) (now : Monotonic) : Option CadenceGate :=
  if admitted gate.lastGetAt now gateGetMinimum &&
      admitted gate.lastPostAt now gateCrossMinimum then
    some { gate with lastGetAt := some now }
  else none

/-- Source `admit` for a POST. -/
def admitPost (gate : CadenceGate) (now : Monotonic) : Option CadenceGate :=
  if admitted gate.lastPostAt now gatePostMinimum &&
      admitted gate.lastGetAt now gateCrossMinimum then
    some { gate with lastPostAt := some now }
  else none

end CadenceGate

namespace Path

def modifyTransport (f : TransportState → TransportState) : Path β Unit :=
  Process.modify fun w => { w with transport := f w.transport }

def modifyAdapter (f : AdapterState → AdapterState) : Path β Unit :=
  Process.modify fun w => { w with adapter := f w.adapter }

def admitAtGate (pass : CadenceGate → Option CadenceGate) : Path β Unit := do
  let w ← Process.gets id
  match pass w.transport.gate with
  | none => refuse { transportError "V4_GMO_PRIVATE_CADENCE_BLOCKED" with late := true }
  | some gate => modifyTransport fun t => { t with gate }

/-- Source `_require_recovered_exit_scope`, its check of the lifetime. -/
def requireRecoveryAlive (scope : G075RecoveryScope) (nowUtc : Instant) : Path β Unit :=
  requireTimely (scope.alive nowUtc = true)
    (transportError "V4_GMO_G075_RECOVERY_SCOPE_INVALID")

/-- The check of the scope at the start of `request`.  The fields of a recovery scope
are frozen and were checked when the transport was built; its lifetime goes on. -/
def requireRuntimeScope : Path β Unit := do
  let scope ← Process.gets fun w => w.transport.scope
  match scope with
  | .activated _ => pure ()
  | .recovered scope => do
      let nowUtc ← wallNow
      requireRecoveryAlive scope nowUtc

/-- An answer of the broker, with the status check of `_envelope_data` left to
the caller. -/
def receive {α : Type} (ask : β → PrivateAnswer α × β) : Path β (PrivateAnswer α) :=
  fun w => (.returned (ask w.broker).1, { w with broker := (ask w.broker).2 })

/-- Source `request` for a GET, and `_envelope_data` on its answer. -/
def privateGet {α : Type} (ask : β → PrivateAnswer α × β) : Path β α := do
  requireRuntimeScope
  let now ← monotonicNow
  admitAtGate fun gate => gate.admitGet now
  outside
  let answer ← receive ask
  match answer with
  | .failed failure => refuse (transportError failure.label)
  | .envelope status data =>
      require (status = 0) (adapterError "V4_GMO_RESPONSE_REJECTED")
      pure data

/-- Source `_require_bound_post_once`: the key of the POST and the actions that it
may stand for.  A close is marked as attempted before it is authorized. -/
def requireBoundPostOnce (key : PostKey) : Path β (List V4GmoAction) := do
  let w ← Process.gets id
  require (key ∉ w.transport.postKeys ∧
      requestMatchesCycle key w.transport.scope.cycleRef = true)
    (transportError "V4_GMO_SAME_ACTION_SECOND_ATTEMPT_FORBIDDEN")
  match postSequence w.transport.scope.cycleRef w.transport.postKeys
      w.transport.marketCloseAttempted key with
  | none => refuse (transportError "V4_GMO_POST_SEQUENCE_INVALID")
  | some allowedActions => do
      modifyTransport fun t =>
        { t with
          marketCloseAttempted := t.marketCloseAttempted ||
            decide (key.2.head? = some 'X' ∨ key.2.head? = some 'T') }
      pure allowedActions

def entryBodyMatches (scope : V4ActivatedRuntimeScope) : V4GmoPrivateRequest → Bool
  | .order side size _ => decide (side = scope.side ∧ size = scope.size)
  | _ => false

def entryScopeMismatch : V4Error :=
  transportError "V4_GMO_CURRENT_TURN_ENTRY_SCOPE_EXPIRED_OR_MISMATCHED"

def requireEntryScope (scope : RuntimeScope) (request : V4GmoPrivateRequest)
    (now : Monotonic) : Path β Unit :=
  match scope with
  | .activated scope => do
      require (entryBodyMatches scope request = true) entryScopeMismatch
      requireTimely (now ≤ scope.entryExpiresMonotonic) entryScopeMismatch
  -- not reached: an entry order goes first, and a recovered transport has keys
  | .recovered _ => refuse entryScopeMismatch

/-- Source `engage_unknown_halt` as the callback of a POST without answer; an
exception in it is swallowed. -/
def unknownPostCallback : Path β Unit :=
  (onStore engageUnknownHalt).attempt fun _ => pure ()

def countDispatch (request : V4GmoPrivateRequest) : Path β Unit :=
  Process.modify fun w =>
    { w with
      transport := { w.transport with postsDispatched := w.transport.postsDispatched + 1 }
      trace := w.trace ++ [.dispatched request] }

variable (sha : Sha256)

/-- Source `request` for a POST: the status of the answer. -/
def privatePost (broker : Broker β) (request : V4GmoPrivateRequest)
    (path : PostPath) (clientOrderId : List Char)
    (authorization : V4PersistedTransportAuthorization) : Path β Int := do
  requireRuntimeScope
  let now ← monotonicNow
  admitAtGate fun gate => gate.admitPost now
  let key := postKeyOf path clientOrderId
  let allowedActions ← requireBoundPostOnce key
  let scope ← Process.gets fun w => w.transport.scope
  (onStore (consumePersistedTransportAuthorization authorization scope.cycleRef
    allowedActions (request.bindingDigest sha))).attempt fun _ =>
      refuse (transportError "V4_GMO_PERSISTED_TRANSPORT_AUTHORIZATION_REQUIRED")
  modifyTransport fun t => { t with postKeys := key :: t.postKeys }
  if .marketEntry ∈ allowedActions then
    requireEntryScope scope request now
  outside
  countDispatch request
  let answer ← receive (broker.post request)
  match answer with
  | .failed failure => do
      unknownPostCallback
      refuse (transportError failure.label)
  | .envelope status _ => pure status

/-- What a POST does once it is past its guards and its check of a kill. -/
def countAndPost (broker : Broker β) (request : V4GmoPrivateRequest) : Path β Int := do
  countDispatch request
  let answer ← receive (broker.post request)
  match answer with
  | .failed failure => do
      unknownPostCallback
      refuse (transportError failure.label)
  | .envelope status _ => pure status

/-- Source `V4GmoPublicMarketStatusEvidence`, with its identity. -/
structure V4GmoPublicMarketStatusEvidence where
  objectId : Nat
  generationDigest : Digest
  status : V4GmoPublicMarketStatus
  issuedMonotonic : Monotonic

/-- Source `V4_GMO_PUBLIC_STATUS_MAX_AGE_SECONDS`. -/
def v4GmoPublicStatusMaxAge : Nat := monotonicSeconds 2

/-- Source `require_fresh_open_at_transport_boundary`, with the adapter's label
for its refusals; the evidence is used up by the check. -/
def requireFreshOpen (generationDigest : Digest)
    (evidence : V4GmoPublicMarketStatusEvidence) : Path β Unit := do
  let now ← monotonicNow
  let e := adapterError "V4_GMO_PUBLIC_MARKET_OPEN_REQUIRED_AT_TRANSPORT_BOUNDARY"
  let used ← Process.gets PathWorld.usedMarketStatus
  Process.modify fun w =>
    { w with usedMarketStatus := evidence.objectId :: w.usedMarketStatus }
  require (evidence.objectId ∉ used ∧ evidence.generationDigest = generationDigest) e
  requireTimely (evidence.issuedMonotonic ≤ now ∧
    now - evidence.issuedMonotonic ≤ v4GmoPublicStatusMaxAge) e
  require (evidence.status = .open_) e

/-- Source `V4_GMO_SURFACEABLE_FAILURE_CLASSES`, as far as `request` raises them. -/
def surfaceableFailureClasses : List String :=
  ["V4_GMO_PRIVATE_RESULT_UNKNOWN_TIMEOUT", "V4_GMO_PRIVATE_RESULT_UNKNOWN_CONNECTION",
    "V4_GMO_PRIVATE_RESULT_UNKNOWN_NON_JSON",
    "V4_GMO_PRIVATE_RESULT_UNKNOWN_ENVELOPE_INVALID", "V4_GMO_PRIVATE_RESULT_UNKNOWN",
    "V4_GMO_PERSISTED_TRANSPORT_AUTHORIZATION_REQUIRED",
    "V4_GMO_CURRENT_TURN_ENTRY_SCOPE_EXPIRED_OR_MISMATCHED",
    "V4_GMO_PRIVATE_CADENCE_BLOCKED", "V4_GMO_SAME_ACTION_SECOND_ATTEMPT_FORBIDDEN",
    "V4_GMO_POST_SEQUENCE_INVALID"]

def sanitizedFailureClass (e : V4Error) : String :=
  if e.exceptionClass = .transport ∧ e.message ∈ surfaceableFailureClasses then e.message
  else "V4_GMO_PRIVATE_RESULT_UNKNOWN"

def outcomeOfStatus (status : Int) : V4GmoPrivateOutcome :=
  if status = 0 then .acceptedSanitized else .rejectedSanitized

/-- What the coordinated path hands to `perform_once`. -/
structure PerformInput where
  plan : V4GmoActionPlan
  authorization : V4PersistedActionAuthorization
  reconciliation : Option V4GmoActualReconciliation := none
  protectionPlan : Option V4GmoExactProtectionPlan := none
  marketStatus : Option V4GmoPublicMarketStatusEvidence := none

/-- The market-status guard of `perform_once`. -/
def requireMarketStatus (generationDigest : Digest) (action : V4GmoAction)
    (marketStatus : Option V4GmoPublicMarketStatusEvidence) : Path β Unit :=
  if action ∈ V4GmoAction.timeExit then
    match marketStatus with
    | none => refuse (adapterError "V4_GMO_PUBLIC_MARKET_STATUS_GUARD_REQUIRED")
    | some evidence => requireFreshOpen generationDigest evidence
  else
    require (marketStatus = none)
      (adapterError "V4_GMO_PUBLIC_MARKET_STATUS_GUARD_UNEXPECTED")

/-- The transport call of `perform_once` and the outcome of its answer. -/
def sendAnswered (broker : Broker β) (request : V4GmoPrivateRequest)
    (path : PostPath) (clientOrderId : List Char)
    (authorization : V4PersistedTransportAuthorization) : Path β V4GmoPrivateOutcome := do
  let status ← privatePost sha broker request path clientOrderId authorization
  if status ≠ 0 then
    modifyAdapter fun a =>
      { a with lastFailureClass := some "V4_GMO_PRIVATE_RESULT_REJECTED_BY_BROKER" }
  pure (outcomeOfStatus status)

/-- The same with its failures: a transport failure is an unknown outcome. -/
def sendOnce (broker : Broker β) (request : V4GmoPrivateRequest)
    (path : PostPath) (clientOrderId : List Char)
    (authorization : V4PersistedTransportAuthorization) : Path β V4GmoPrivateOutcome :=
  (sendAnswered sha broker request path clientOrderId authorization).attempt fun e =>
    if e.exceptionClass = .transport then do
      modifyAdapter fun a => { a with lastFailureClass := some (sanitizedFailureClass e) }
      pure .unknownSanitized
    else Process.raise e

def performOnce (broker : Broker β) (generationDigest : Digest)
    (input : PerformInput) (nowMonotonic : Monotonic) : Path β V4GmoPrivateOutcome := do
  modifyAdapter fun a => { a with lastFailureClass := none }
  let key := (input.plan.cycleRef, input.plan.action)
  let attempted ← Process.gets fun w => w.adapter.attempted
  require (key ∉ attempted) (adapterError "V4_GMO_SAME_ACTION_SECOND_ATTEMPT_FORBIDDEN")
  let request ← ofResult
    (buildActionRequest input.plan input.reconciliation input.protectionPlan)
  match request.post? with
  | none => refuse (adapterError "V4_GMO_ACTION_NOT_SUPPORTED")
  | some (path, clientOrderId) => do
      let authorization ← onStore
        (consumePersistedActionAuthorization sha input.authorization input.plan
          input.protectionPlan
          (input.reconciliation.map fun r => r.bindingDigestInternal sha)
          (request.bindingDigest sha) nowMonotonic)
      modifyAdapter fun a => { a with attempted := key :: a.attempted }
      requireMarketStatus generationDigest input.plan.action input.marketStatus
      modifyAdapter fun a => { a with lastPrivatePostStart := some nowMonotonic }
      sendOnce sha broker request path clientOrderId authorization

def getTarget (start offset : Nat) (adapter : AdapterState) : Monotonic :=
  max (start + v4PrivateGetPacing + offset)
    (max ((adapter.lastPrivateGetStart.map (· + v4PrivateGetPacing)).getD 0)
      ((adapter.lastPrivatePostStart.map (· + v4PrivatePostToGetPacing)).getD 0))

/-- The inner function `request_at`: wait for the cadence and make one GET. -/
def requestAt {α : Type} (start offset : Nat) (ask : β → PrivateAnswer α × β) :
    Path β α := do
  let adapter ← Process.gets fun w => w.adapter
  let target := getTarget start offset adapter
  let current ← monotonicNow
  requireTimely ((adapter.lastPrivateGetStart.getD 0) ≤ current)
    (adapterError "V4_GMO_RECONCILIATION_CADENCE_CLOCK_INVALID")
  if current < target then waitFor (target - current)
  let actualStart ← monotonicNow
  requireTimely (target ≤ actualStart)
    (adapterError "V4_GMO_RECONCILIATION_CADENCE_NOT_REACHED")
  modifyAdapter fun a => { a with lastPrivateGetStart := some actualStart }
  privateGet ask

/-- The three reads, in the order of the source, and what their rows say. -/
def readAndReconcile (broker : Broker β) (cycleRef : Digest) (side : SignalDecision)
    (requestedSize : Nat) (start : Monotonic) : Path β V4GmoActualReconciliation := do
  let executionData ← requestAt start 0 broker.latestExecutions
  let executions ← ofResult (parseExecutions executionData)
  let positionData ← requestAt start v4PrivateGetPacing broker.openPositions
  let positions ← ofResult (parsePositions positionData)
  let activeOrderData ← requestAt start (2 * v4PrivateGetPacing) broker.activeOrders
  let activeOrders ← ofResult (parseActiveOrders activeOrderData)
  ofResult (reconcileRows cycleRef side requestedSize executions positions activeOrders)

/-- Source `reconcile_at_fixed_cadence`: a refused or failed read is the unknown
reconciliation. -/
def reconcileAtFixedCadence (broker : Broker β) (cycleRef : Digest)
    (side : SignalDecision) (requestedSize : Nat) : Path β V4GmoActualReconciliation := do
  require (IsHex64 cycleRef) (adapterError "V4_GMO_CYCLE_REF_INVALID")
  require side.Directional (adapterError "V4_GMO_SIDE_INVALID")
  require (0 < requestedSize ∧ requestedSize ≤ 1000)
    (adapterError "V4_GMO_REQUESTED_SIZE_INVALID")
  let start ← monotonicNow
  (readAndReconcile broker cycleRef side requestedSize start).attempt fun e =>
    if e.exceptionClass = .transport ∨ e.exceptionClass = .adapter then do
      modifyAdapter fun a =>
        { a with
          lastFailureClass := some
            (if e.exceptionClass = .adapter ∧ e.message = "V4_GMO_RESPONSE_REJECTED" then
              "V4_GMO_PRIVATE_GET_REJECTED_BY_BROKER"
            else sanitizedFailureClass e) }
      pure .unknown
    else Process.raise e

end Path

end FxStrategyLab
