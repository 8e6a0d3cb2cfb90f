import FxStrategyLab.Coordinator.Ledger
import FxStrategyLab.RuntimeSafety

/-!
# Reserving a cycle and recording the entry

The store methods that lead from a signal to a committed MARKET attempt:
`bind_generation`, `reserve_entry_cycle`, `release_unattempted_reservation`,
the entry preflight and the MARKET attempt.  A transaction of the source is a
definition of its own, named after its method, so that each commit is one
atomic step.
-/

namespace FxStrategyLab

open Library

section Entry

variable (sha : Sha256)

def V4GmoFrozenGeneration.binding (generation : V4GmoFrozenGeneration) :
    GenerationBinding where
  generationDigest := generation.digest
  generationManifest := generation.canonicalJson
  implementationDigest := generation.implementationDigest
  operatorSelectionDigest := generation.operatorSelectionDigest
  policyConfigHash := generation.policyConfigHash
  riskPolicyDigest := generation.riskPolicyDigest
  deadManPolicyDigest := generation.deadManPolicyDigest

def Ledger.generationDigest? (l : Ledger) : Option Digest :=
  l.generation.map GenerationBinding.generationDigest

/-- The transaction of `bind_generation`. -/
def bindGenerationTransaction (generation : V4GmoFrozenGeneration) : Transaction Unit :=
  fun l =>
    match l.generation with
    | none => .ok ((), { l with generation := some generation.binding })
    | some existing =>
        if existing = generation.binding then .ok ((), l)
        else .error (coordinatorError "v4 generation binding mismatch")

def bindGeneration (generation : V4GmoFrozenGeneration) : Store Unit :=
  transact (bindGenerationTransaction generation)

def unknownHaltLatched : Store Bool :=
  query Ledger.unknownHaltLatched

def engageUnknownHalt : Store Unit :=
  transact fun l => .ok ((), l.haltLatched)

/-- Source `_cycle_ref`. -/
def cycleRefOf (generationDigest signalFingerprint : Digest) : Digest :=
  sha.hexdigest (plainText (generationDigest ++ ':' :: signalFingerprint))

def atrDigest (signalFingerprint : Digest) (canonicalAtr : ℚ) : Digest :=
  sha.prefixed
    [("atr_24", .decimal canonicalAtr), ("signal_fingerprint", .digest signalFingerprint)]

structure V4FrozenSignalRisk where
  signalFingerprint : Digest
  atr24 : ℚ
  atrDigest : Digest
  adverseSlippageAllowancePips : ℚ
  plannedLossBoundJpy : Int

/-- The planned loss of a trade: stop width, tick rounding and slippage, in yen. -/
def plannedLossBound (frozenAtr24 : ℚ) (quantityUnits : Nat)
    (adverseSlippageAllowancePips : ℚ) : Int :=
  let stopWidthPips := frozenAtr24 * (3 / 2) / (1 / 100)
  let yenPerPip := (quantityUnits : ℚ) * (1 / 100)
  ⌈(stopWidthPips + 1 / 10 + adverseSlippageAllowancePips) * yenPerPip⌉

def calculateV4PlannedLoss (signalFingerprint : Digest) (frozenAtr24 : ℚ)
    (quantityUnits : Nat) (adverseSlippageAllowancePips : ℚ) :
    Except V4Error V4FrozenSignalRisk :=
  if signalFingerprint.length ≠ 64 ∨ frozenAtr24 ≤ 0 ∨ quantityUnits ≠ 1000 ∨
      adverseSlippageAllowancePips < 0 then
    .error (coordinatorError "v4 frozen risk input is invalid")
  else
    .ok
      { signalFingerprint
        atr24 := frozenAtr24
        atrDigest := atrDigest sha signalFingerprint frozenAtr24
        adverseSlippageAllowancePips
        plannedLossBoundJpy :=
          plannedLossBound frozenAtr24 quantityUnits adverseSlippageAllowancePips }

/-- What a caller hands to `evaluate_entry_intent` and `reserve_entry_cycle`. -/
structure EntryIntent where
  generation : V4GmoFrozenGeneration
  signal : FormalSignal
  policy : V4GmoExecutionPolicy
  frozenAtr24 : ℚ

variable (intent : EntryIntent)

/-- The checks of `_validate_and_price_entry` that read neither the ledger nor
the halt. -/
def priceEntry (nowUtc : Instant) :
    Except V4Error V4FrozenSignalRisk :=
  if intent.signal.validUntilUtc ≤ nowUtc then
    .error ((coordinatorError "v4 signal time is invalid").lateIf true)
  else if intent.policy.accepts intent.signal = false then
    .error (coordinatorError "v4 signal contract mismatch")
  else if intent.policy.configHash sha ≠ intent.generation.policyConfigHash then
    .error (coordinatorError "v4 policy generation mismatch")
  else if ¬intent.signal.decision.Directional then
    .error (coordinatorError "v4 directional signal required")
  else
    match calculateV4PlannedLoss sha (intent.signal.fingerprint sha)
        intent.frozenAtr24 intent.policy.requestedSize
        intent.generation.adverseSlippageAllowancePips with
    | .error e => .error e
    | .ok risk =>
        if intent.policy.maxLossPerTradeYen < risk.plannedLossBoundJpy then
          .error (coordinatorError "v4 planned loss exceeds operator limit")
        else .ok risk

def validateAndPriceEntry (nowUtc : Instant) :
    Store V4FrozenSignalRisk := do
  bindGeneration intent.generation
  let halted ← unknownHaltLatched
  Process.require (halted = false) (coordinatorError "v4 unknown halt is latched")
  ofExcept (priceEntry sha intent nowUtc)

def evaluateEntryIntent (nowUtc : Instant) :
    Store V4FrozenSignalRisk :=
  validateAndPriceEntry sha intent nowUtc

def externalFlatReconciliationMatches (marker : Option ExternalFlatReconciliation)
    (cycleRef generationDigest : Digest) (nowUtc : Instant) : Bool :=
  match marker with
  | none => false
  | some payload =>
      decide (payload.cycleRef = cycleRef ∧
        payload.generationDigest = generationDigest ∧
        validReconciliationDigest payload.evidenceDigest = true ∧
        validReconciliationDigest payload.reviewedFilesDigest = true ∧
        payload.observedAtUtc ≤ nowUtc ∧ nowUtc ≤ payload.validUntilUtc ∧
        payload.validUntilUtc - payload.observedAtUtc ≤ wallSeconds 60)

def reservedRow (risk : V4FrozenSignalRisk) (nowUtc : Instant) :
    CycleRow where
  cycleRef := cycleRefOf sha intent.generation.digest (intent.signal.fingerprint sha)
  signalFingerprint := intent.signal.fingerprint sha
  tradingDayJst := v4GmoTradingDayJst nowUtc
  side := intent.signal.decision
  requestedSize := intent.policy.requestedSize
  frozenAtr24 := risk.atr24
  frozenAtrDigest := risk.atrDigest
  probabilityUp := intent.signal.probabilityUp
  plannedLossBoundJpy := risk.plannedLossBoundJpy
  signalValidUntilUtc := intent.signal.validUntilUtc
  createdAtUtc := nowUtc

/-- The reserving transaction of `reserve_entry_cycle`: every unresolved cycle
must be covered by a matching external-flat marker. -/
def reserveTransaction (risk : V4FrozenSignalRisk)
    (nowUtc : Instant) : Transaction Unit := fun l =>
  if l.unresolved.any fun row =>
      !externalFlatReconciliationMatches l.externalFlatReconciliation row.cycleRef
        intent.generation.digest nowUtc then
    .error (coordinatorError "v4 canary already has an unresolved cycle")
  else
    match l.cycles.insert? (reservedRow sha intent risk nowUtc) with
    | none => .error (coordinatorError "duplicate v4 entry intent refused")
    | some cycles => .ok ((), { l with cycles })

def reserveEntryCycle (nowUtc : Instant) :
    Store V4FrozenSignalRisk := do
  Process.require (intent.generation.entryDisabled = false)
    (coordinatorError "v4 generation is entry disabled")
  let risk ← validateAndPriceEntry sha intent nowUtc
  transact (reserveTransaction sha intent risk nowUtc)
  pure risk

variable (row : CycleRow)

def CycleRow.unattempted : Bool :=
  row.marketAttemptedAtUtc.isNone && row.realizedPnlJpy.isNone

/-- The transaction of `release_unattempted_reservation`. -/
def releaseTransaction (cycleRef : Digest) : Transaction Bool := fun l =>
  if l.unknownHaltLatched then .ok (false, l)
  else
    let matched := fun row : CycleRow => row.cycleRef = cycleRef && row.unattempted
    .ok (l.cycles.rows.any matched,
      { l with cycles := l.cycles.deleteWhere matched })

def releaseUnattemptedReservation (cycleRef : Digest) : Store Bool :=
  transact (releaseTransaction cycleRef)

def prepareEntryIntent (nowUtc : Instant) :
    Store V4FrozenSignalRisk :=
  reserveEntryCycle sha intent nowUtc

structure V4CanaryEntryPreflightEvidence where
  generationDigest : Digest
  cycleRef : Digest
  signalFingerprint : Digest
  clockStatusLabel : String
  notificationStatusLabel : String
  accountExclusivityLabel : String
  unownedPositionCount : Nat
  activeOrderCount : Nat
  unownedActiveOrderCount : Nat

def v4ClockStatusRequired : String := "NETWORK_TIME_ENABLED_VERIFIED"

def v4NotificationStatusRequired : String := "PUSHOVER_ACK_AND_EMAIL_RECEIVED"

def v4AccountExclusivityRequired : String :=
  "H11_V4_ACCOUNT_EXCLUSIVE_CURRENT_GENERATION"

structure EntryPreflightInput where
  evidence : V4CanaryEntryPreflightEvidence
  snapshot : V4GmoBrokerSnapshot
  positionBundlePresent : Bool
  averageFillPricePresent : Bool
  instructionBid : ℚ
  instructionAsk : ℚ
  authoritativeReconciliationDigest : Digest

def V4GmoBrokerSnapshot.entryFlat (snapshot : V4GmoBrokerSnapshot) : Prop :=
  snapshot.fresh = true ∧ snapshot.resultKnown = true ∧ snapshot.positionCount = 0 ∧
    snapshot.positionSide = none ∧ snapshot.filledSize = 0 ∧
    snapshot.pendingEntrySize = 0 ∧ snapshot.protectionSize = 0 ∧
    snapshot.entryStatus = .none ∧ snapshot.protectionStatus = .none
deriving Decidable

variable (input : EntryPreflightInput)

def EntryPreflightInput.accountClear : Prop :=
  input.snapshot.entryFlat ∧ input.positionBundlePresent = false ∧
    input.averageFillPricePresent = false ∧
    input.evidence.clockStatusLabel = v4ClockStatusRequired ∧
    input.evidence.notificationStatusLabel = v4NotificationStatusRequired ∧
    input.evidence.accountExclusivityLabel = v4AccountExclusivityRequired ∧
    input.evidence.unownedPositionCount = 0 ∧ input.evidence.activeOrderCount = 0 ∧
    input.evidence.unownedActiveOrderCount = 0 ∧
    validDigest input.authoritativeReconciliationDigest = true
deriving Decidable

def EntryPreflightInput.canonicalJson : CanonicalText :=
  [("account_exclusivity_label", .text input.evidence.accountExclusivityLabel),
    ("active_order_count", .integer input.evidence.activeOrderCount),
    ("authoritative_reconciliation_digest",
      .digest input.authoritativeReconciliationDigest),
    ("clock_status_label", .text input.evidence.clockStatusLabel),
    ("cycle_ref", .digest input.evidence.cycleRef),
    ("generation_digest", .digest input.evidence.generationDigest),
    ("instruction_ask", .decimal input.instructionAsk),
    ("instruction_bid", .decimal input.instructionBid),
    ("notification_status_label", .text input.evidence.notificationStatusLabel),
    ("signal_fingerprint", .digest input.evidence.signalFingerprint),
    ("snapshot.entry_status", .text input.snapshot.entryStatus.value),
    ("snapshot.filled_size", .integer input.snapshot.filledSize),
    ("snapshot.pending_entry_size", .integer input.snapshot.pendingEntrySize),
    ("snapshot.position_count", .integer input.snapshot.positionCount),
    ("snapshot.protection_size", .integer input.snapshot.protectionSize),
    ("snapshot.protection_status", .text input.snapshot.protectionStatus.value),
    ("snapshot.result_known", .boolean input.snapshot.resultKnown),
    ("unowned_active_order_count", .integer input.evidence.unownedActiveOrderCount),
    ("unowned_position_count", .integer input.evidence.unownedPositionCount)]

def CycleRow.signalValid (nowUtc : Instant) : Bool :=
  decide (nowUtc < row.signalValidUntilUtc)

def CycleRow.withPreflight (input : EntryPreflightInput)
    (digest : Digest) (nowUtc : Instant) (nowMonotonic : Monotonic) : CycleRow :=
  { row with
    entryPreflightJson := some input.canonicalJson
    entryPreflightDigest := some digest
    entryPreflightAtUtc := some nowUtc
    entryPreflightMonotonic := some nowMonotonic
    instructionBid := some input.instructionBid
    instructionAsk := some input.instructionAsk }

def CycleRow.awaitsPreflight : Bool :=
  row.entryPreflightDigest.isNone && row.marketAttemptedAtUtc.isNone

/-- The transaction of `_record_entry_preflight_from_coordinated_path`. -/
def entryPreflightTransaction (nowUtc : Instant)
    (nowMonotonic : Monotonic) : Transaction Digest := fun l =>
  match l.cycle? input.evidence.cycleRef with
  | none => .error (coordinatorError "v4 entry preflight mismatch")
  | some row =>
      let inOrder := decide
        (l.generationDigest? = some input.evidence.generationDigest ∧
          row.signalFingerprint = input.evidence.signalFingerprint ∧ input.accountClear)
      if inOrder && row.signalValid nowUtc then
        if row.awaitsPreflight then
          let digest := sha.prefixed input.canonicalJson
          .ok (digest,
            l.updateCycles (fun r => r.cycleRef = row.cycleRef)
              (fun r => r.withPreflight input digest nowUtc nowMonotonic)
              (fun _ => ⟨rfl, rfl⟩))
        else .error (coordinatorError "second v4 entry preflight refused")
      else .error ((coordinatorError "v4 entry preflight mismatch").lateIf inOrder)

/-- Source `_record_entry_preflight_from_coordinated_path`. -/
def recordEntryPreflight (nowUtc : Instant)
    (nowMonotonic : Monotonic) : Store V4VerifiedEntryPreflightAuthorization := do
  Process.require (0 < input.instructionBid ∧
      input.instructionBid ≤ input.instructionAsk)
    (coordinatorError "v4 entry reference quote is invalid")
  let digest ← transact (entryPreflightTransaction sha input nowUtc nowMonotonic)
  let objectId ← issueObject
  pure
    { objectId
      cycleRef := input.evidence.cycleRef
      signalFingerprint := input.evidence.signalFingerprint
      preflightDigest := digest }

end Entry

namespace Sample

def generation : V4GmoFrozenGeneration where
  digest := Sha256.checksum.prefixed (plainText ['g', 'e', 'n'])
  canonicalJson := "manifest"
  implementationDigest := Sha256.checksum.prefixed (plainText ['i'])
  operatorSelectionDigest := Sha256.checksum.prefixed (plainText ['o'])
  policyConfigHash := policy.configHash Sha256.checksum
  riskPolicyDigest := riskPolicy.digest Sha256.checksum
  deadManPolicyDigest := deadManPolicy.digest Sha256.checksum
  riskPolicyLabel := riskPolicy.policyLabel
  deadManPolicyLabel := deadManPolicy.policyLabel
  strategyVersion := "formal-v1"
  signalConfigHash := "signal-config"
  selectedHorizon := .minutes30
  brokerCapabilityEvidenceHash := "capability"
  protectionContractHash := h11V4GmoProtectionContractHash
  maximumEntriesPerDay := 3
  adverseSlippageAllowancePips := 1 / 2
  entryDisabled := false
  entries_bounds := policy.entries_bounds
  protection_frozen := rfl

variable (seconds : Int)

def intent : EntryIntent where
  generation
  signal := signal seconds
  policy
  frozenAtr24 := 1 / 10

def cycleRef : Digest :=
  cycleRefOf Sha256.checksum generation.digest ((signal seconds).fingerprint Sha256.checksum)

/-- A clear account, seen for that cycle. -/
def preflight : EntryPreflightInput where
  evidence :=
    { generationDigest := generation.digest
      cycleRef := cycleRef seconds
      signalFingerprint := (signal seconds).fingerprint Sha256.checksum
      clockStatusLabel := v4ClockStatusRequired
      notificationStatusLabel := v4NotificationStatusRequired
      accountExclusivityLabel := v4AccountExclusivityRequired
      unownedPositionCount := 0
      activeOrderCount := 0
      unownedActiveOrderCount := 0 }
  snapshot :=
    { fresh := true
      resultKnown := true
      positionCount := 0
      positionSide := none
      filledSize := 0
      pendingEntrySize := 0
      protectionSize := 0
      entryStatus := .none
      protectionStatus := .none }
  positionBundlePresent := false
  averageFillPricePresent := false
  instructionBid := 150
  instructionAsk := 150 + 1 / 1000
  authoritativeReconciliationDigest := Sha256.checksum.prefixed (plainText ['p'])

theorem size_pos : 0 < 1000 := by
  decide

def marketPlan : V4GmoActionPlan where
  cycleRef := cycleRef seconds
  action := .marketEntry
  side := .buy
  requestedSize := 1000
  protectionContractHash := none
  routeSafeLabel := V4GmoAction.marketEntry.routeSafeLabel
  cycleRef_hex := Sha256.checksum.hexdigest_hex _
  side_directional := SignalDecision.buy_directional
  requestedSize_pos := size_pos
  protection_only := by decide

end Sample

end FxStrategyLab
