import FxStrategyLab.Adapter.Requests
import FxStrategyLab.Coordinator.Monitor

/-!
# The world of the coordinated path

The coordinated path of one process acts on more than the ledger: the risk and
dead-man files, the marker files, the clocks, the broker, and the objects that
live in the process.  `PathWorld` holds all of it, over any broker state `β`.

What the program does not control is part of the world, too.  `delays` says how
long each clock reading or wait takes beyond its minimum, `wallReadings` what
the wall clock shows, `incidents` what happens at each point where foreign code
runs, and the agenda of the store what happens before each transaction.

Two fields only record: `trace` lists what the path did, and `clockRefused`
tells whether a check of a clock refused a step.
-/

namespace FxStrategyLab

open Library

/-- Why a private call gave no answer. -/
inductive TransportFailure
  | timeout
  | connection
  | nonJson
  | statusInvalid
  | interrupted

/-- Source `_classify_private_result_unknown`. -/
def TransportFailure.label : TransportFailure → String
  | timeout => "V4_GMO_PRIVATE_RESULT_UNKNOWN_TIMEOUT"
  | connection => "V4_GMO_PRIVATE_RESULT_UNKNOWN_CONNECTION"
  | nonJson => "V4_GMO_PRIVATE_RESULT_UNKNOWN_NON_JSON"
  | statusInvalid => "V4_GMO_PRIVATE_RESULT_UNKNOWN_ENVELOPE_INVALID"
  | interrupted => "V4_GMO_PRIVATE_RESULT_UNKNOWN"

/-- The answer to a private call: an envelope with its status, or none. -/
inductive PrivateAnswer (α : Type)
  | envelope (status : Int) (data : α)
  | failed (failure : TransportFailure)

inductive V4GmoPublicMarketStatus
  | open_
  | notOpen
  | unknown
deriving DecidableEq

/-- The public quote of the pair, with the status that comes with it. -/
structure PublicTicker where
  bid : ℚ
  ask : ℚ
  timestamp : Instant
  marketOpen : Bool

/-- A broker: what it answers in each of its states, and the state after. -/
structure Broker (β : Type) where
  latestExecutions : β → PrivateAnswer (List ExecutionPayload) × β
  openPositions : β → PrivateAnswer (List PositionPayload) × β
  activeOrders : β → PrivateAnswer (List ActiveOrderPayload) × β
  post : V4GmoPrivateRequest → β → PrivateAnswer Unit × β
  publicStatus : β → V4GmoPublicMarketStatus × β
  publicTicker : β → PublicTicker × β

/-- What happens at a point where foreign code runs. -/
inductive Incident
  | quiet
  | raises (e : V4Error)
  | kill
deriving DecidableEq

/-- The mutable fields of `V4GmoActualAdapter`. -/
structure AdapterState where
  attempted : List (Digest × V4GmoAction) := []
  lastPrivateGetStart : Option Monotonic := none
  lastPrivatePostStart : Option Monotonic := none
  lastFailureClass : Option String := none
deriving DecidableEq

/-- Source `V4PrivateApiCadenceGate`. -/
structure CadenceGate where
  lastGetAt : Option Monotonic := none
  lastPostAt : Option Monotonic := none
deriving DecidableEq

/-- Source `V4ActivatedRuntimeScope`; symbol and execution type are the frozen ones. -/
structure V4ActivatedRuntimeScope where
  generationDigest : Digest
  cycleRef : Digest
  side : SignalDecision
  size : Nat
  entryExpiresMonotonic : Monotonic
deriving DecidableEq

/-- Source `G075RecoveryScope`: what a process may close that an earlier one has
opened. -/
structure G075RecoveryScope where
  generationDigest : Digest
  reviewedFilesDigest : Digest
  releaseCapabilityDigest : Digest
  reconciliationArtifactDigest : Digest
  cycleId : Digest
  symbol : String
  quantity : Nat
  side : SignalDecision
  expiresAtUtc : Instant
  ownershipExact : Bool
  quantityMatches : Bool
  protectionConfirmed : Bool
  actionKey : Digest
  scopeDigest : Digest
deriving DecidableEq

namespace G075RecoveryScope

/-- The canonical text of the fields that a recovery scope's own digest covers. -/
def canonicalBase (scope : G075RecoveryScope) : CanonicalText :=
  [("action_key", .digest scope.actionKey), ("cycle_id", .digest scope.cycleId),
    ("expires_at_utc", .integer scope.expiresAtUtc),
    ("generation_digest", .digest scope.generationDigest),
    ("ownership_exact", .boolean scope.ownershipExact),
    ("protection_confirmed", .boolean scope.protectionConfirmed),
    ("quantity", .integer scope.quantity),
    ("quantity_matches", .boolean scope.quantityMatches),
    ("reconciliation_artifact_digest", .digest scope.reconciliationArtifactDigest),
    ("release_capability_digest", .digest scope.releaseCapabilityDigest),
    ("reviewed_files_digest", .digest scope.reviewedFilesDigest),
    ("side", .text scope.side.value), ("symbol", .text scope.symbol)]

/-- The checks of `_require_g075_recovered_exit_scope` on the scope itself. -/
def exact (sha : Sha256) (scope : G075RecoveryScope) : Bool :=
  decide (scope.generationDigest ≠ [] ∧ scope.reviewedFilesDigest ≠ [] ∧
    scope.releaseCapabilityDigest ≠ [] ∧ scope.reconciliationArtifactDigest ≠ [] ∧
    scope.actionKey.take 7 = sha256Prefix ∧ scope.actionKey.length = 71 ∧
    scope.symbol = "USD_JPY" ∧ scope.quantity = 1000 ∧ scope.side.Directional ∧
    scope.ownershipExact = true ∧ scope.quantityMatches = true ∧
    scope.protectionConfirmed = true ∧
    scope.scopeDigest = sha.prefixed scope.canonicalBase)

def alive (scope : G075RecoveryScope) (nowUtc : Instant) : Bool :=
  decide (nowUtc < scope.expiresAtUtc ∧ scope.expiresAtUtc - nowUtc ≤ wallSeconds 60)

end G075RecoveryScope

/-- The scope of a transport: of an activation, or of a recovered exit. -/
inductive RuntimeScope
  | activated (scope : V4ActivatedRuntimeScope)
  | recovered (scope : G075RecoveryScope)
deriving DecidableEq

namespace RuntimeScope

def cycleRef : RuntimeScope → Digest
  | activated scope => scope.cycleRef
  | recovered scope => scope.cycleId

/-- The POSTs that a new transport takes for done: in a recovered exit the entry and
its protection. -/
def initialPostKeys : RuntimeScope → List PostKey
  | activated _ => []
  | recovered scope => [entryPostKey scope.cycleId, protectionPostKey scope.cycleId]

end RuntimeScope

/-- The mutable fields of `V4GmoHttpxPrivateTransport`, with its scope. -/
structure TransportState where
  scope : RuntimeScope
  postKeys : List PostKey := []
  marketCloseAttempted : Bool := false
  postsDispatched : Nat := 0
  gate : CadenceGate := {}
deriving DecidableEq

/-- The clocks: how late the next readings and waits are, and what the wall
clock shows next. -/
structure Clock where
  monotonic : Monotonic := 0
  delays : List Nat := []
  wall : Instant := 0
  wallReadings : List Instant := []
deriving DecidableEq

def Clock.elapse (clock : Clock) (duration : Nat) : Clock :=
  { clock with
    monotonic := clock.monotonic + duration + clock.delays.headD 0
    delays := clock.delays.tail }

theorem Clock.le_elapse (clock : Clock) (duration : Nat) :
    clock.monotonic ≤ (clock.elapse duration).monotonic :=
  (Nat.le_add_right _ _).trans (Nat.le_add_right _ _)

/-- Source `V4AuthoritativeReconciliationEvidence`, with its identity; it is
unused as long as the path holds a reconciliation under that identity. -/
structure V4AuthoritativeReconciliationEvidence where
  objectId : Nat
  generationDigest : Digest
  cycleRef : Digest
  bindingDigest : Digest
  issuedMonotonic : Monotonic
deriving DecidableEq

/-- The marker files of the state root, by their name without the day. -/
inductive MarkerName
  | exitDispatchRequired
  | exitDispatchClaimed
  | exitDispatchFailed
  | exitDispatchCompleted
  | protectionDeadlineMissed
  | flatTargetMissed
deriving DecidableEq

structure Marker where
  name : MarkerName
  tradingDayJst : TradingDay
  generationDigest : Digest
  status : String
  observedAtUtc : Instant
deriving DecidableEq

/-- What the path did, for the statements about it. -/
inductive PathEvent
  | reconciling (cycleRef : Digest)
  | dispatched (request : V4GmoPrivateRequest)
  | protectedEntry (cycleRef : Digest)
deriving DecidableEq

/-- The state that the coordinated path of one process acts on. -/
structure PathWorld (β : Type) where
  store : StoreWorld := {}
  riskFile : StateFile PhaseBRiskState := .absent
  deadManFile : StateFile DeadManHeartbeat := .absent
  markers : List Marker := []
  processLockHeld : Bool := true
  reconciliations : List (Nat × V4GmoActualReconciliation) := []
  evidenceIssued : Nat := 0
  usedMarketStatus : List Nat := []
  entryAuthorizations : List (Digest × V4VerifiedEntryPreflightAuthorization) := []
  adapter : AdapterState := {}
  transport : TransportState
  clock : Clock := {}
  incidents : List Incident := []
  broker : β
  trace : List PathEvent := []
  clockRefused : Bool := false
deriving DecidableEq

abbrev Path (β α : Type) := Process (PathWorld β) V4Error α

namespace Path

variable {β α : Type}

/-- Raise an exception, and record whether a clock decided it. -/
def refuse (e : V4Error) : Path β α := do
  Process.modify fun w => { w with clockRefused := w.clockRefused || e.late }
  Process.raise e

def require (c : Prop) [Decidable c] (e : V4Error) : Path β Unit :=
  if c then pure () else refuse e

def requireTimely (c : Prop) [Decidable c] (e : V4Error) : Path β Unit :=
  require c { e with late := true }

/-- A value or an exception. -/
def ofResult : Except V4Error α → Path β α
  | .ok a => pure a
  | .error e => refuse e

def onStore (x : Store α) : Path β α :=
  (Process.zoom PathWorld.store (fun s w => { w with store := s }) x).attempt refuse

/-- A point where foreign code runs: a callback, a sleep, the keychain, a file. -/
def outside : Path β Unit := fun w =>
  match w.incidents with
  | [] | .quiet :: _ => (.returned (), { w with incidents := w.incidents.tail })
  | .raises e :: incidents => (.raised e, { w with incidents })
  | .kill :: incidents => (.killed, { w with incidents })

def note (event : PathEvent) : Path β Unit :=
  Process.modify fun w => { w with trace := w.trace ++ [event] }

def monotonicNow : Path β Monotonic := fun w =>
  let clock := w.clock.elapse 0
  (.returned clock.monotonic, { w with clock })

def wallNow : Path β Instant := fun w =>
  let wall := w.clock.wallReadings.headD w.clock.wall
  (.returned wall,
    { w with clock := { w.clock with wall, wallReadings := w.clock.wallReadings.tail } })

/-- Source `reconciliation_wait`: sleep at least that long. -/
def waitFor (duration : Nat) : Path β Unit := do
  outside
  Process.modify fun w => { w with clock := w.clock.elapse duration }

section Returned

variable {w w' : PathWorld β}

theorem refuse_not_returned {e : V4Error} {a : α} :
    (refuse e : Path β α).run w ≠ (.returned a, w') := by
  intro h
  cases h

theorem run_require_of {c : Prop} [Decidable c] (hc : c) (e : V4Error)
    (w : PathWorld β) : (require c e).run w = (.returned (), w) := by
  rw [require, if_pos hc]
  rfl

theorem require_returned {c : Prop} [Decidable c] {e : V4Error} {u : Unit}
    (h : (require c e : Path β Unit).run w = (.returned u, w')) : c ∧ w' = w := by
  by_cases hc : c
  · rw [run_require_of hc] at h
    cases h
    exact ⟨hc, rfl⟩
  · rw [require, if_neg hc] at h
    exact absurd h refuse_not_returned

theorem onStore_returned {x : Store α} {a : α} (h : (onStore x).run w = (.returned a, w')) :
    x.run w.store = (.returned a, w'.store) ∧ w' = { w with store := w'.store } := by
  rw [onStore, Process.run_attempt, Process.run_zoom] at h
  rcases hx : x.run w.store with ⟨o, s⟩
  rw [hx] at h
  cases o with
  | returned b =>
      cases h
      exact ⟨rfl, rfl⟩
  | raised e => exact absurd h refuse_not_returned
  | killed => cases h

end Returned

end Path

end FxStrategyLab
