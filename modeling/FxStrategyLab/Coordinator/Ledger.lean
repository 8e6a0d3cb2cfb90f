import FxStrategyLab.Protection
import FxStrategyLab.Library.Table

/-!
# The coordinator ledger

This file embeds the data of `v4_gmo_actual_coordinator.py`: the tables
`cycles` and `attempts`, the metadata entries, and the objects that the store
hands out in memory.

A store method is a process on `StoreWorld`.  Every SQLite transaction of the
source is one atomic step `transact`: it commits as a whole or raises and
leaves the ledger as it was.  Between two transactions the process may be
killed and a monitor in another process may latch the unknown halt; the list
`agenda` says what happens before each of the next transactions.
-/

namespace FxStrategyLab

open Library

def coordinatorError (message : String) : V4Error :=
  { exceptionClass := .coordinator, message }

/-- A row of the table `cycles`. -/
structure CycleRow where
  cycleRef : Digest
  signalFingerprint : Digest
  tradingDayJst : TradingDay
  side : SignalDecision
  requestedSize : Nat
  frozenAtr24 : ℚ
  frozenAtrDigest : Digest
  probabilityUp : ℚ
  plannedLossBoundJpy : Int
  signalValidUntilUtc : Instant
  createdAtUtc : Instant
  instructionBid : Option ℚ := none
  instructionAsk : Option ℚ := none
  entryAverageFillPrice : Option ℚ := none
  entrySpreadPips : Option ℚ := none
  entrySlippagePips : Option ℚ := none
  realizedPnlJpy : Option Int := none
  netPips : Option ℚ := none
  tradeWon : Option Bool := none
  protectionPlanDigest : Option Digest := none
  protectionPlanJson : Option V4GmoExactProtectionPlan := none
  protectionConfirmedAtUtc : Option Instant := none
  settlementExpectedSize : Option Nat := none
  marketAttemptedAtUtc : Option Instant := none
  marketAttemptedMonotonic : Option Monotonic := none
  entryPreflightJson : Option CanonicalText := none
  entryPreflightDigest : Option Digest := none
  entryPreflightAtUtc : Option Instant := none
  entryPreflightMonotonic : Option Monotonic := none
deriving DecidableEq

/-- A row of the table `attempts`. -/
structure AttemptRow where
  cycleRef : Digest
  action : V4GmoAction
  attemptedAtUtc : Instant
  planDigest : Digest
  reconciliationDigest : Option Digest := none
deriving DecidableEq

/-- The two unique columns of `cycles`. -/
def cycleKeys : List (CycleRow → Digest) :=
  [CycleRow.cycleRef, CycleRow.signalFingerprint]

/-- The primary key of `attempts`. -/
def AttemptRow.primaryKey (row : AttemptRow) : Digest × V4GmoAction :=
  (row.cycleRef, row.action)

/-- The table `cycles`. -/
abbrev CycleTable := Table CycleRow Digest cycleKeys

/-- The table `attempts`. -/
abbrev AttemptTable := Table AttemptRow (Digest × V4GmoAction) [AttemptRow.primaryKey]

/-- The metadata entries that `bind_generation` writes. -/
structure GenerationBinding where
  generationDigest : Digest
  generationManifest : String
  implementationDigest : Digest
  operatorSelectionDigest : Digest
  policyConfigHash : Digest
  riskPolicyDigest : Digest
  deadManPolicyDigest : Digest
deriving DecidableEq

/-- The metadata entry `pending_transport_attempt`. -/
structure PendingTransportAttempt where
  action : V4GmoAction
  cycleRef : Digest
deriving DecidableEq

inductive RecoveryClassification
  | flatOrRejected
  | marketPartialPending
  | filledUnprotected
  | filledProtected
  | filledProtectionMismatched
deriving DecidableEq

/-- The metadata entry `pending_transport_resolution`. -/
structure PendingTransportResolution where
  classification : RecoveryClassification
  cycleRef : Digest
  generationDigest : Digest
  previousAction : V4GmoAction
  reconciliationDigest : Digest
  resolvedAtUtc : Instant
deriving DecidableEq

/-- The metadata entry `external_flat_reconciliation`; the flags that the
source always writes with the same value are left out. -/
structure ExternalFlatReconciliation where
  generationDigest : Digest
  reviewedFilesDigest : Digest
  evidenceDigest : Digest
  cycleRef : Digest
  observedAtUtc : Instant
  validUntilUtc : Instant
deriving DecidableEq

/-- A metadata entry `inherited_market_attempt_baseline:<day>`. -/
structure InheritedAttemptBaseline where
  tradingDayJst : TradingDay
  sourceGenerationDigest : Digest
  targetGenerationDigest : Digest
  attemptCount : Nat
deriving DecidableEq

/-- The committed content of the coordinator database. -/
structure Ledger where
  generation : Option GenerationBinding := none
  unknownHaltLatched : Bool := false
  pendingTransportAttempt : Option PendingTransportAttempt := none
  pendingTransportResolution : Option PendingTransportResolution := none
  externalFlatReconciliation : Option ExternalFlatReconciliation := none
  inheritedBaselines : List InheritedAttemptBaseline := []
  cycles : CycleTable := Table.empty
  attempts : AttemptTable := Table.empty
deriving DecidableEq

namespace Ledger

def cycle? (l : Ledger) (cycleRef : Digest) : Option CycleRow :=
  l.cycles.rows.find? fun row => row.cycleRef = cycleRef

def cycleOfSignal? (l : Ledger) (signalFingerprint : Digest) : Option CycleRow :=
  l.cycles.rows.find? fun row => row.signalFingerprint = signalFingerprint

def attempt? (l : Ledger) (cycleRef : Digest) (action : V4GmoAction) :
    Option AttemptRow :=
  l.attempts.rows.find? fun row => row.primaryKey = (cycleRef, action)

def unresolved (l : Ledger) : List CycleRow :=
  l.cycles.rows.filter fun row => row.realizedPnlJpy.isNone

/-- The cycle created last: `ORDER BY created_at_utc DESC LIMIT 1`. -/
def latestCycle? (l : Ledger) : Option CycleRow :=
  l.cycles.rows.argmax CycleRow.createdAtUtc

/-- Change the cycles that meet a condition; the two key columns stay. -/
def updateCycles (l : Ledger) (p : CycleRow → Bool) (f : CycleRow → CycleRow)
    (hf : ∀ row, (f row).cycleRef = row.cycleRef ∧
      (f row).signalFingerprint = row.signalFingerprint) : Ledger :=
  { l with
    cycles :=
      l.cycles.updateWhere p f (by
        intro row key hkey
        simp only [cycleKeys, List.mem_cons, List.not_mem_nil, or_false] at hkey
        rcases hkey with rfl | rfl
        · exact (hf row).1
        · exact (hf row).2) }

@[simp]
theorem rows_updateCycles (l : Ledger) (p : CycleRow → Bool) (f : CycleRow → CycleRow)
    (hf : ∀ row, (f row).cycleRef = row.cycleRef ∧
      (f row).signalFingerprint = row.signalFingerprint) :
    (l.updateCycles p f hf).cycles.rows =
      l.cycles.rows.map fun row => if p row then f row else row :=
  rfl

variable {row : CycleRow} {l : Ledger}

theorem cycle?_eq_some {cycleRef : Digest} :
    l.cycle? cycleRef = some row ↔ row ∈ l.cycles.rows ∧ row.cycleRef = cycleRef :=
  l.cycles.find?_key_eq_some (by simp [cycleKeys])

theorem cycleOfSignal?_eq_some {signalFingerprint : Digest}
    :
    l.cycleOfSignal? signalFingerprint = some row ↔
      row ∈ l.cycles.rows ∧ row.signalFingerprint = signalFingerprint :=
  l.cycles.find?_key_eq_some (by simp [cycleKeys])

theorem mem_unresolved :
    row ∈ l.unresolved ↔ row ∈ l.cycles.rows ∧ row.realizedPnlJpy = none := by
  simp [unresolved, Option.isNone_iff_eq_none]

end Ledger

/-- Source `_V4VerifiedEntryPreflightAuthorization`, with an identity. -/
structure V4VerifiedEntryPreflightAuthorization where
  objectId : Nat
  cycleRef : Digest
  signalFingerprint : Digest
  preflightDigest : Digest
deriving DecidableEq

/-- What the verifier of `_committed_attempt_verifier` closes over. -/
structure CommittedAttemptVerifier where
  cycleRef : Digest
  action : V4GmoAction
  planDigest : Digest
  protectionPlanDigest : Option Digest
  reconciliationDigest : Option Digest
  expectedGenerationDigest : Digest
deriving DecidableEq

/-- Source `V4PersistedActionAuthorization`, with an identity. -/
structure V4PersistedActionAuthorization where
  objectId : Nat
  planDigest : Digest
  protectionPlanDigest : Option Digest
  reconciliationDigest : Option Digest
  deadlineMonotonic : Option Monotonic
  verifyCommitted : CommittedAttemptVerifier
deriving DecidableEq

/-- Source `V4PersistedTransportAuthorization`, with an identity. -/
structure V4PersistedTransportAuthorization where
  objectId : Nat
  cycleRef : Digest
  action : V4GmoAction
  planDigest : Digest
  requestBindingDigest : Digest

structure V4PreparedAttempt where
  cycleRef : Digest
  action : V4GmoAction
  attemptedAtUtc : Instant
  authorization : V4PersistedActionAuthorization

/-- What happens just before a transaction of the owning process. -/
inductive Interference
  | quiet
  | observerHalts
  | kill
deriving DecidableEq

/-- The ledger with the interference to come and the identities of the objects
that were handed out and of those already used. -/
structure StoreWorld where
  ledger : Ledger := {}
  agenda : List Interference := []
  issuedObjects : Nat := 0
  consumedObjects : List Nat := []
deriving DecidableEq

abbrev Store (α : Type) := Process StoreWorld V4Error α

abbrev Transaction (α : Type) := Ledger → Except V4Error (α × Ledger)

/-- Source `engage_unknown_halt`, as a change of the ledger. -/
def Ledger.haltLatched (l : Ledger) : Ledger :=
  { l with unknownHaltLatched := true }

def StoreWorld.ledgerAtStart (s : StoreWorld) : Ledger :=
  match s.agenda with
  | .observerHalts :: _ => s.ledger.haltLatched
  | _ => s.ledger

theorem StoreWorld.ledgerAtStart_eq (s : StoreWorld) :
    s.ledgerAtStart = s.ledger ∨ s.ledgerAtStart = s.ledger.haltLatched := by
  unfold ledgerAtStart
  split
  · exact Or.inr rfl
  · exact Or.inl rfl

@[simp]
theorem StoreWorld.attempts_ledgerAtStart (s : StoreWorld) :
    s.ledgerAtStart.attempts = s.ledger.attempts := by
  rcases s.ledgerAtStart_eq with h | h <;> rw [h]
  rfl

def transact {α : Type} (t : Transaction α) : Store α := fun s =>
  match s.agenda with
  | .kill :: agenda => (.killed, { s with agenda })
  | _ =>
      match t s.ledgerAtStart with
      | .ok (a, ledger) => (.returned a, { s with ledger, agenda := s.agenda.tail })
      | .error e =>
          (.raised e, { s with ledger := s.ledgerAtStart, agenda := s.agenda.tail })

variable {s s' : StoreWorld} {α : Type}

theorem run_transact_eq_returned {t : Transaction α} {a : α} :
    (transact t).run s = (.returned a, s') ↔
      s.agenda.head? ≠ some .kill ∧ ∃ l, t s.ledgerAtStart = .ok (a, l) ∧
        s' = { s with ledger := l, agenda := s.agenda.tail } := by
  rw [Process.run]
  unfold transact
  rcases hagenda : s.agenda with _ | ⟨i, rest⟩
  · rcases ht : t s.ledgerAtStart with e | ⟨b, l⟩
    · simp [ht]
    · simp [ht, eq_comm]
  · cases i with
    | kill => simp
    | quiet =>
        rcases ht : t s.ledgerAtStart with e | ⟨b, l⟩
        · simp [ht]
        · simp [ht, eq_comm]
    | observerHalts =>
        rcases ht : t s.ledgerAtStart with e | ⟨b, l⟩
        · simp [ht]
        · simp [ht, eq_comm]

theorem run_transact_killed {t : Transaction α} (h : s.agenda.head? = some .kill) :
    (transact t).run s = (.killed, { s with agenda := s.agenda.tail }) := by
  rw [Process.run]
  unfold transact
  rcases hagenda : s.agenda with _ | ⟨i, rest⟩
  · rw [hagenda] at h
    cases h
  · rw [hagenda] at h
    cases h
    rfl

theorem run_transact_not_returned {t : Transaction α}
    (h : ∀ a s', (transact t).run s ≠ (.returned a, s')) :
    ((transact t).run s).2.ledger = s.ledger ∨
      ((transact t).run s).2.ledger = s.ledgerAtStart := by
  rcases hrun : (transact t).run s with ⟨outcome, s'⟩
  cases outcome with
  | returned a => exact absurd hrun (h a s')
  | raised e =>
      right
      rw [Process.run] at hrun
      unfold transact at hrun
      split at hrun
      · cases hrun
      · split at hrun
        · cases hrun
        · cases hrun
          rfl
  | killed =>
      left
      rw [Process.run] at hrun
      unfold transact at hrun
      split at hrun
      · cases hrun
        rfl
      · split at hrun <;> cases hrun

theorem transact_returned {t : Transaction α} {a : α}
    (h : (transact t).run s = (.returned a, s')) :
    t s.ledgerAtStart = .ok (a, s'.ledger) ∧
      s'.consumedObjects = s.consumedObjects := by
  obtain ⟨-, l, hok, rfl⟩ := run_transact_eq_returned.mp h
  exact ⟨hok, rfl⟩

def query {α : Type} (f : Ledger → α) : Store α :=
  transact fun l => .ok (f l, l)

def issueObject : Store Nat := fun s =>
  (.returned s.issuedObjects, { s with issuedObjects := s.issuedObjects + 1 })

def consumeObject (objectId : Nat) : Store Unit :=
  Process.modify fun s => { s with consumedObjects := objectId :: s.consumedObjects }

end FxStrategyLab
