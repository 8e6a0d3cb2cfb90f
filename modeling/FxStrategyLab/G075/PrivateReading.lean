import FxStrategyLab.Adapter.Reconciled
import FxStrategyLab.Coordinator.Monitor
import FxStrategyLab.G075.Reconciliation

/-!
# Reading the account for the resident runtime

This file embeds `G075PrivateReconciler.reconcile_once` of
`h11_v4_g075_live_runtime.py`: the three GETs through the read-only transport, the
adapter that turns them into a reconciliation, and the sanitized snapshot made from
it.

The adapter answers a failure that it catches with the unknown reconciliation, whose
counts are zero, and the snapshot takes over the counts but not the flag.

**Results.**
* `reading_told_iff`: exactly when a cycle tells what the broker answered.
* `rejected_reading_stored_flat`: a rejected answer is stored as `FRESH_FLAT`.
-/

namespace FxStrategyLab.G075

open Library

inductive GetAnswer (ρ : Type)
  /-- the client raised, or the payload is no mapping -/
  | raised
  /-- the status is no integer -/
  | envelopeInvalid
  /-- the status is not zero -/
  | rejected
  /-- the data is no list of mappings -/
  | schemaInvalid
  | rows (data : List ρ)

/-- The answers to the three GETs. -/
structure BrokerAnswers where
  executions : GetAnswer ExecutionPayload
  positions : GetAnswer PositionPayload
  activeOrders : GetAnswer ActiveOrderPayload

/-- The parsed rows of the three answers. -/
structure AccountRows where
  executions : List ExecutionRow
  positions : List PositionRow
  activeOrders : List ActiveOrderRow

def GetAnswer.parsed? {ρ α : Type} (answer : GetAnswer ρ)
    (parse : List ρ → Except V4Error α) : Option α :=
  match answer with
  | .rows data =>
      match parse data with
      | .ok a => some a
      | .error _ => none
  | _ => none

/-- One GET and its parsing: `G075_PRIVATE_GET_RESULT_UNKNOWN` passes through the
adapter, every other failure is caught by it. -/
def GetAnswer.read {ρ α : Type} (answer : GetAnswer ρ)
    (parse : List ρ → Except V4Error α) : Except G075Exception (Option α) :=
  match answer with
  | .raised => .error { errorClass := .liveRuntime, label := "G075_PRIVATE_GET_RESULT_UNKNOWN" }
  | answer => .ok (answer.parsed? parse)

/-- The three GETs one after the other, and how many were made: `none` when the
adapter caught a failure. -/
def BrokerAnswers.read (answers : BrokerAnswers) :
    Except G075Exception (Option AccountRows) × Nat :=
  match answers.executions.read parseExecutions with
  | .error e => (.error e, 1)
  | .ok none => (.ok none, 1)
  | .ok (some executions) =>
      match answers.positions.read parsePositions with
      | .error e => (.error e, 2)
      | .ok none => (.ok none, 2)
      | .ok (some positions) =>
          match answers.activeOrders.read parseActiveOrders with
          | .error e => (.error e, 3)
          | .ok none => (.ok none, 3)
          | .ok (some activeOrders) => (.ok (some { executions, positions, activeOrders }), 3)

def BrokerAnswers.parsed? (answers : BrokerAnswers) : Option AccountRows :=
  match answers.executions.parsed? parseExecutions, answers.positions.parsed? parsePositions,
    answers.activeOrders.parsed? parseActiveOrders with
  | some executions, some positions, some activeOrders =>
      some { executions, positions, activeOrders }
  | _, _, _ => none

/-- The one cycle of the ledger: the cycle reference and the side that
`load_single_signal_fingerprint_internal` and the two lookups behind it give. -/
def ledgerCycle? (ledger : Ledger) : Option (Digest × SignalDecision) :=
  match ledger.cycles.rows with
  | [row] => some (row.cycleRef, row.side)
  | _ => none

variable (generationDigest : Digest)

/-- The cycle that the account is read for: that of the ledger, else one named by the
generation. -/
def readCycle (ledger : Ledger) : Digest × SignalDecision :=
  (ledgerCycle? ledger).getD (generationDigest.drop 7, .buy)

/-- The inputs that the adapter takes, source `_validate_cycle_inputs`. -/
def CycleInputsValid (cycle : Digest × SignalDecision) (requestedSize : Nat) : Prop :=
  IsHex64 cycle.1 ∧ cycle.2.Directional ∧ 0 < requestedSize ∧ requestedSize ≤ 1000
deriving Decidable

/-- Source `V4GmoActualAdapter.reconcile` behind its pacing, on a parsed account. -/
def adapterReconcile (cycle : Digest × SignalDecision) (requestedSize : Nat) :
    Option AccountRows → V4GmoActualReconciliation
  | none => .unknown
  | some rows =>
      match reconcileRows cycle.1 cycle.2 requestedSize rows.executions rows.positions
        rows.activeOrders with
      | .ok r => r
      | .error _ => .unknown

def snapshotFields (quantityUnits requestCount : Nat) (r : V4GmoActualReconciliation) :
    SnapshotFields :=
  let owned := decide (r.unownedPositionCount = 0 ∧ r.positionBundle.isSome = true ∧
    r.snapshot.positionCount = 1)
  let quantityMatches := owned && decide (r.positionBundleTotal = some quantityUnits ∧
    r.snapshot.filledSize = quantityUnits)
  let protected_ := quantityMatches && decide (r.accountActiveOrderCount = 2 ∧
    r.snapshot.protectionSize = quantityUnits ∧ r.snapshot.protectionStatus = .exactMatch)
  { latestExecutionCount := 0
    openPositionCount := r.accountPositionCount
    activeOrderCount := r.accountActiveOrderCount
    positionSide := r.snapshot.positionSide
    ownershipExact := owned
    quantityMatches
    protectionConfirmed := protected_
    brokerGetCount := requestCount
    privateApiReadCount := requestCount
    credentialReadCount := 1 }

def reconcileOnce (quantityUnits : Nat) (ledger : Ledger)
    (answers : BrokerAnswers) : Except G075Exception SanitizedSnapshot :=
  if validDigest generationDigest = false then
    .error { errorClass := .otherException, label := "V4_RUNTIME_GENERATION_DIGEST_INVALID" }
  else if ¬CycleInputsValid (readCycle generationDigest ledger) quantityUnits then
    .error { errorClass := .otherException, label := "V4_GMO_CYCLE_INPUT_INVALID" }
  else do
    let account ← answers.read.1
    (snapshotFields quantityUnits answers.read.2
      (adapterReconcile (readCycle generationDigest ledger) quantityUnits account)).sanitized

def answerOf {α : Type} : Except G075Exception α → PortAnswer α
  | .ok a => .returns a
  | .error e => .raises e

/-- Source `run_g075_reconciliation_cycle_once` with a `G075PrivateReconciler`. -/
def runPrivateCycle (sha : Sha256) (generationDigest reviewedFilesDigest : Digest)
    (cycleId : List Char) (nowUtc : Instant) (quantityUnits : Nat) (ledger : Ledger)
    (answers : BrokerAnswers) : RootProcess Evidence :=
  runReconciliationCycleOnce sha generationDigest reviewedFilesDigest cycleId nowUtc
    (answerOf (reconcileOnce generationDigest quantityUnits ledger answers))

def AccountEmpty (answers : BrokerAnswers) : Prop :=
  ∃ rows, answers.parsed? = some rows ∧ rows.positions = [] ∧ rows.activeOrders = []

def OpenedBy (cycleRef : Digest) (executions : List ExecutionRow) (row : PositionRow) : Prop :=
  row.symbol = .usdJpy ∧
    ∃ execution ∈ ownedOpenRows cycleRef executions, execution.positionId = row.positionId

/-- The broker answered that every position is of the ledger's cycle, that they sum to
the quantity, and that the active orders are the two protection orders of that size. -/
def AccountProtected (quantityUnits : Nat) (ledger : Ledger) (answers : BrokerAnswers) : Prop :=
  ∃ rows cycle, answers.parsed? = some rows ∧ ledgerCycle? ledger = some cycle ∧
    (∀ row ∈ rows.positions, OpenedBy cycle.1 rows.executions row) ∧
    openSize rows.positions = quantityUnits ∧
    rows.activeOrders.length = 2 ∧
    ∀ order ∈ rows.activeOrders, order.symbol = .usdJpy ∧
      order.clientOrderId = v4GmoClientOrderId cycle.1 .exactSizeOcoProtection ∧
      order.size = quantityUnits

def StoresOrReturns (cycleId : List Char) (ended : Outcome G075Exception Evidence × StateRoot)
    (state : ReconciliationState) : Prop :=
  (∃ e, ended.1 = .returned e ∧ e.state = state) ∨
    ∃ e, ended.2.files .reconciliation = some (.evidence e) ∧ e.cycleId = cycleId ∧
      e.state = state

/-- **What a cycle tells.** `FRESH_FLAT` only of an empty account, `FRESH_PROTECTED`
only of a protected one, and otherwise the call raises with the halt on file. -/
def TellsTruth (cycleId : List Char) (quantityUnits : Nat) (ledger : Ledger)
    (answers : BrokerAnswers) (ended : Outcome G075Exception Evidence × StateRoot) : Prop :=
  (StoresOrReturns cycleId ended .freshFlat → AccountEmpty answers) ∧
    (StoresOrReturns cycleId ended .freshProtected →
      AccountProtected quantityUnits ledger answers) ∧
    (¬StoresOrReturns cycleId ended .freshFlat →
      ¬StoresOrReturns cycleId ended .freshProtected →
      (∃ e, ended.1 = .raised e) ∧ StateRoot.present ended.2 .persistentHalt = true)

/-- The position has the full size and two orders are active, one of which is a
protection order of that size. -/
def ShowsProtection (cycleRef : Digest) (quantityUnits : Nat) (rows : AccountRows) : Prop :=
  openSize rows.positions = quantityUnits ∧ rows.activeOrders.length = 2 ∧
    protectedSize cycleRef rows.activeOrders = quantityUnits

/-- The rows do not reach a defect of the reading: the account is empty, or its rows
are told to be foreign, or they pass every check and two active orders with protection
are the two protection orders of the one cycle of the ledger. -/
def RowsSound (quantityUnits : Nat) (ledger : Ledger)
    (rows : AccountRows) : Prop :=
  let cycle := readCycle generationDigest ledger
  rows.positions = [] ∧ rows.activeOrders = [] ∨
    openRowsValid cycle.2 quantityUnits (ownedOpenRows cycle.1 rows.executions) = true ∧
      (ForeignRows cycle.1 rows.executions rows.positions rows.activeOrders ∨
        RowsConsistent cycle.1 cycle.2 quantityUnits rows.executions rows.positions
            rows.activeOrders ∧
          (ShowsProtection cycle.1 quantityUnits rows →
            (ledgerCycle? ledger).isSome = true ∧
              activeOrdersOf cycle.1 .exactSizeOcoProtection rows.activeOrders =
                rows.activeOrders))

/-- The answers do not reach a defect of the reading: a GET failed in a way that the
adapter does not catch, or all were accepted and parsed into sound rows. -/
def ReadingSound (quantityUnits : Nat) (ledger : Ledger)
    (answers : BrokerAnswers) : Prop :=
  match answers.read.1 with
  | .error _ => True
  | .ok none => False
  | .ok (some rows) => RowsSound generationDigest quantityUnits ledger rows

section Answers

variable {answers : BrokerAnswers}

theorem GetAnswer.read_eq {ρ α : Type} (answer : GetAnswer ρ)
    (parse : List ρ → Except V4Error α) :
    (∃ e, answer.read parse = .error e ∧ answer.parsed? parse = none) ∨
      answer.read parse = .ok (answer.parsed? parse) := by
  cases answer with
  | raised => exact Or.inl ⟨_, rfl, rfl⟩
  | envelopeInvalid | rejected | schemaInvalid | rows data => exact Or.inr rfl

/-- The adapter is handed an account exactly when all three answers were accepted and
parsed. -/
theorem BrokerAnswers.read_eq_some {rows : AccountRows} :
    answers.read.1 = .ok (some rows) ↔ answers.parsed? = some rows := by
  unfold BrokerAnswers.read BrokerAnswers.parsed?
  rcases answers.executions.read_eq parseExecutions with ⟨e, hread, hparsed⟩ | hread
  · rw [hread, hparsed]
    simp
  rw [hread]
  cases answers.executions.parsed? parseExecutions with
  | none => simp
  | some executions =>
      rcases answers.positions.read_eq parsePositions with ⟨e, hread, hparsed⟩ | hread
      · rw [hread, hparsed]
        simp
      rw [hread]
      cases answers.positions.parsed? parsePositions with
      | none => simp
      | some positions =>
          rcases answers.activeOrders.read_eq parseActiveOrders with ⟨e, hread, hparsed⟩ | hread
          · rw [hread, hparsed]
            simp
          rw [hread]
          cases answers.activeOrders.parsed? parseActiveOrders with
          | none => simp
          | some activeOrders => simp

theorem BrokerAnswers.read_error {e : G075Exception} (h : answers.read.1 = .error e) :
    e.errorClass = .liveRuntime := by
  have hget : ∀ {ρ α : Type} (answer : GetAnswer ρ) (parse : List ρ → Except V4Error α),
      answer.read parse = .error e → e.errorClass = .liveRuntime := by
    intro ρ α answer parse hread
    cases answer with
    | raised =>
        cases hread
        rfl
    | envelopeInvalid | rejected | schemaInvalid | rows data => cases hread
  unfold BrokerAnswers.read at h
  split at h
  · cases h
    exact hget _ _ (by assumption)
  · cases h
  · split at h
    · cases h
      exact hget _ _ (by assumption)
    · cases h
    · split at h
      · cases h
        exact hget _ _ (by assumption)
      · cases h
      · cases h

theorem BrokerAnswers.read_count (answers : BrokerAnswers) : answers.read.2 ≤ 3 := by
  unfold BrokerAnswers.read
  split
  · simp
  · simp
  · split
    · simp
    · simp
    · split <;> simp

theorem BrokerAnswers.parsed?_positions {rows : AccountRows} (h : answers.parsed? = some rows) :
    ∀ row ∈ rows.positions, row.positionId ≠ [] ∧ 0 < row.size := by
  have hpositions : answers.positions.parsed? parsePositions = some rows.positions := by
    unfold BrokerAnswers.parsed? at h
    split at h
    · cases h
      assumption
    · cases h
  unfold GetAnswer.parsed? at hpositions
  split at hpositions
  · split at hpositions
    · cases hpositions
      exact parsePositions_ok (by assumption)
    · cases hpositions
  · cases hpositions

end Answers

section Snapshot

theorem SnapshotFields.sanitized_ok {fields : SnapshotFields} {snapshot : SanitizedSnapshot}
    (h : fields.sanitized = .ok snapshot) : snapshot.toSnapshotFields = fields := by
  unfold SnapshotFields.sanitized at h
  split_ifs at h
  cases h
  rfl

theorem SnapshotFields.sanitized_error {fields : SnapshotFields} {e : G075Exception}
    (h : fields.sanitized = .error e) : e.errorClass ≠ .base := by
  unfold SnapshotFields.sanitized at h
  split_ifs at h <;> cases h <;> simp [g075Error]

section

variable {quantityUnits requestCount : Nat} {r : V4GmoActualReconciliation}
variable {snapshot : SanitizedSnapshot}

/-- The snapshot of a reconciliation exists when the side says whether there is a
position. -/
theorem snapshotFields_sanitized (quantityUnits : Nat) (hcount : requestCount ≤ 3)
    (hside : ∀ side, r.snapshot.positionSide = some side → side.Directional)
    (hpresent : r.accountPositionCount = 0 ↔ r.snapshot.positionSide = none) :
    ∃ snapshot, (snapshotFields quantityUnits requestCount r).sanitized = .ok snapshot := by
  have hreads : (snapshotFields quantityUnits requestCount r).brokerGetCount ≤ 3 ∧
      (snapshotFields quantityUnits requestCount r).privateApiReadCount ≤ 3 :=
    ⟨hcount, hcount⟩
  have hcredentials : (snapshotFields quantityUnits requestCount r).credentialReadCount ≤ 1 :=
    le_refl 1
  unfold SnapshotFields.sanitized
  rw [dif_pos hreads, dif_pos hcredentials]
  refine ⟨_, (dif_pos ?_).trans (dif_pos ?_)⟩
  · exact hside
  · exact hpresent

theorem snapshotFields_mismatch (hpositions : r.accountPositionCount ≠ 0)
    (hside : r.snapshot.positionSide = none) :
    (snapshotFields quantityUnits requestCount r).sanitized ≠ .ok snapshot := by
  intro h
  have hpresent := snapshot.side_present
  rw [SnapshotFields.sanitized_ok h] at hpresent
  exact hpositions (hpresent.mpr hside)

theorem state_flat_iff
    (h : (snapshotFields quantityUnits requestCount r).sanitized = .ok snapshot) :
    snapshotState snapshot = .freshFlat ↔
      r.accountPositionCount = 0 ∧ r.accountActiveOrderCount = 0 := by
  have hfields := SnapshotFields.sanitized_ok h
  rw [snapshotState_flat_iff (by rw [hfields]; rfl) (by rw [hfields]; rfl), hfields]
  rfl

theorem state_protected_iff
    (h : (snapshotFields quantityUnits requestCount r).sanitized = .ok snapshot) :
    snapshotState snapshot = .freshProtected ↔
      r.accountPositionCount ≠ 0 ∧
        (snapshotFields quantityUnits requestCount r).protectionConfirmed = true := by
  have hfields := SnapshotFields.sanitized_ok h
  rw [snapshotState_protected_iff (by rw [hfields]; rfl) (by rw [hfields]; rfl), hfields]
  constructor
  · rintro ⟨hopen, _, _, _, hprotected⟩
    exact ⟨hopen, hprotected⟩
  · rintro ⟨hopen, hprotected⟩
    have hparts := hprotected
    simp only [snapshotFields, Bool.and_eq_true, decide_eq_true_eq] at hparts
    have hactive : 0 < (snapshotFields quantityUnits requestCount r).activeOrderCount := by
      show 0 < r.accountActiveOrderCount
      rw [hparts.2.1]
      omega
    have hquantity :
        (snapshotFields quantityUnits requestCount r).quantityMatches = true := by
      simp only [snapshotFields, Bool.and_eq_true, decide_eq_true_eq]
      exact hparts.1
    have howned : (snapshotFields quantityUnits requestCount r).ownershipExact = true := by
      simp only [snapshotFields, decide_eq_true_eq]
      exact hparts.1.1
    exact ⟨hopen, hactive, howned, hquantity, hprotected⟩

end

end Snapshot

section Rows

variable {generationDigest : Digest} {quantityUnits requestCount : Nat} {ledger : Ledger}
variable {answers : BrokerAnswers} {rows : AccountRows} {snapshot : SanitizedSnapshot}

/-- The snapshot tells what the answers say. -/
def Told (quantityUnits : Nat) (ledger : Ledger) (answers : BrokerAnswers)
    (snapshot : SanitizedSnapshot) : Prop :=
  (snapshotState snapshot = .freshFlat → AccountEmpty answers) ∧
    (snapshotState snapshot = .freshProtected → AccountProtected quantityUnits ledger answers)

theorem accountEmpty_iff (hrows : answers.parsed? = some rows) :
    AccountEmpty answers ↔ rows.positions = [] ∧ rows.activeOrders = [] := by
  constructor
  · rintro ⟨rows', hrows', hempty⟩
    rw [hrows] at hrows'
    cases hrows'
    exact hempty
  · intro hempty
    exact ⟨rows, hrows, hempty⟩

theorem told_unknown_iff (hcount : requestCount ≤ 3) :
    (∀ snapshot, (snapshotFields quantityUnits requestCount .unknown).sanitized =
      .ok snapshot → Told quantityUnits ledger answers snapshot) ↔ AccountEmpty answers := by
  have hsanitized : ∃ snapshot,
      (snapshotFields quantityUnits requestCount .unknown).sanitized = .ok snapshot := by
    refine snapshotFields_sanitized quantityUnits hcount ?_ ?_ <;>
      simp [V4GmoActualReconciliation.unknown, V4GmoBrokerSnapshot.unknown]
  obtain ⟨snapshot, hsnapshot⟩ := hsanitized
  have hflat : snapshotState snapshot = .freshFlat :=
    (state_flat_iff hsnapshot).mpr ⟨rfl, rfl⟩
  constructor
  · intro h
    exact (h snapshot hsnapshot).1 hflat
  · intro hempty other hother
    rw [hsnapshot] at hother
    cases hother
    refine ⟨fun _ => hempty, fun hprotected => ?_⟩
    rw [hflat] at hprotected
    cases hprotected

/-- Rows that are not foreign and consistent, and show protection, are those of a
protected account when the ledger has one cycle and both orders protect it. -/
theorem accountProtected_iff (hrows : answers.parsed? = some rows)
    (hforeign : ¬ForeignRows (readCycle generationDigest ledger).1 rows.executions
      rows.positions rows.activeOrders)
    (hconsistent : RowsConsistent (readCycle generationDigest ledger).1
      (readCycle generationDigest ledger).2 quantityUnits rows.executions rows.positions
      rows.activeOrders)
    (hshows : ShowsProtection (readCycle generationDigest ledger).1 quantityUnits rows) :
    AccountProtected quantityUnits ledger answers ↔
      (ledgerCycle? ledger).isSome = true ∧
        activeOrdersOf (readCycle generationDigest ledger).1 .exactSizeOcoProtection
          rows.activeOrders = rows.activeOrders := by
  constructor
  · rintro ⟨rows', cycle, hrows', hcycle, _, _, _, horders⟩
    rw [hrows] at hrows'
    cases hrows'
    have hread : readCycle generationDigest ledger = cycle := by
      simp [readCycle, hcycle]
    refine ⟨by simp [hcycle], ?_⟩
    rw [hread, activeOrdersOf, List.filter_eq_self]
    intro order horder
    simp [(horders order horder).2.1]
  · rintro ⟨hsome, hall⟩
    obtain ⟨cycle, hcycle⟩ := Option.isSome_iff_exists.mp hsome
    have hread : readCycle generationDigest ledger = cycle := by
      simp [readCycle, hcycle]
    rw [hread] at hforeign hconsistent hshows hall
    unfold ForeignRows at hforeign
    push Not at hforeign
    refine ⟨rows, cycle, hrows, hcycle, ?_, hshows.1, hshows.2.1, ?_⟩
    · intro row hrow
      have howned := List.filter_eq_nil_iff.mp hforeign.1 row hrow
      simp only [Bool.not_eq_true', Bool.not_eq_false, Bool.and_eq_true,
        decide_eq_true_eq, List.any_eq_true] at howned
      exact howned
    · intro order horder
      have hpermitted := List.filter_eq_nil_iff.mp hforeign.2 order horder
      simp only [Bool.not_eq_true', Bool.not_eq_false, Bool.and_eq_true,
        decide_eq_true_eq] at hpermitted
      have hid : order.clientOrderId = v4GmoClientOrderId cycle.1 .exactSizeOcoProtection := by
        have hfilter := List.filter_eq_self.mp hall order horder
        simpa using hfilter
      refine ⟨hpermitted.1, hid, ?_⟩
      -- all protection orders have the size of the first one
      have hsizes := hconsistent.2.2
      rw [hall] at hsizes
      have hsame : order.size = protectedSize cycle.1 rows.activeOrders := by
        unfold protectedSize
        rw [hall]
        cases hlist : rows.activeOrders with
        | nil =>
            rw [hlist] at horder
            simp at horder
        | cons first rest =>
            simp only [activeOrdersValid, Bool.and_eq_true, List.all_eq_true,
              decide_eq_true_eq] at hsizes
            simpa using hsizes.2 order horder first (by simp [hlist])
      rw [hsame]
      exact hshows.2.2

/-- A known account with a position is confirmed as protected exactly when it shows
protection. -/
theorem confirmed_iff (requestCount : Nat) {r : V4GmoActualReconciliation} {cycleRef : Digest}
    (hquantity : 0 < quantityUnits) (hpositions : rows.positions ≠ [])
    (horders : r.accountActiveOrderCount = rows.activeOrders.length)
    (hunowned : r.unownedPositionCount = 0)
    (hbundle : r.positionBundleTotal = some (openSize rows.positions))
    (hcount : r.snapshot.positionCount = 1)
    (hfilled : r.snapshot.filledSize = openSize rows.positions)
    (hsize : r.snapshot.protectionSize = protectedSize cycleRef rows.activeOrders)
    (hstatus : r.snapshot.protectionStatus =
      (if activeOrdersOf cycleRef .exactSizeOcoProtection rows.activeOrders = [] then .none
        else protectionStatusOf (protectedSize cycleRef rows.activeOrders)
          (openSize rows.positions))) :
    (snapshotFields quantityUnits requestCount r).protectionConfirmed = true ↔
      ShowsProtection cycleRef quantityUnits rows := by
  have hsome : r.positionBundle.isSome = true := by
    unfold V4GmoActualReconciliation.positionBundleTotal at hbundle
    cases hr : r.positionBundle with
    | none => simp [hr] at hbundle
    | some bundle => rfl
  simp only [snapshotFields, Bool.and_eq_true, decide_eq_true_eq, hunowned, hsome, hcount,
    hbundle, hfilled, horders, hsize, hstatus, ShowsProtection, true_and, Option.some.injEq,
    and_self]
  constructor
  · rintro ⟨hopen, horders, hprotected, _⟩
    exact ⟨hopen, horders, hprotected⟩
  · rintro ⟨hopen, horders, hprotected⟩
    refine ⟨hopen, horders, hprotected, ?_⟩
    have hsome : activeOrdersOf cycleRef .exactSizeOcoProtection rows.activeOrders ≠ [] := by
      intro hnone
      simp [protectedSize, hnone] at hprotected
      omega
    rw [if_neg hsome, hprotected, hopen, protectionStatusOf, if_pos ⟨rfl, hquantity⟩]

/-- **Parsed rows.** What is made of a parsed account tells what it says exactly when
the rows are sound. -/
theorem rows_told_iff (hrows : answers.parsed? = some rows)
    (hinputs : CycleInputsValid (readCycle generationDigest ledger) quantityUnits)
    (hcount : requestCount ≤ 3) :
    (∀ snapshot, (snapshotFields quantityUnits requestCount
        (adapterReconcile (readCycle generationDigest ledger) quantityUnits
          (some rows))).sanitized = .ok snapshot → Told quantityUnits ledger answers snapshot) ↔
      RowsSound generationDigest quantityUnits ledger rows := by
  have hempty := accountEmpty_iff hrows
  -- the checks of the rows in the order of the source
  by_cases hopen : openRowsValid (readCycle generationDigest ledger).2 quantityUnits
      (ownedOpenRows (readCycle generationDigest ledger).1 rows.executions) = true
  swap
  · have hr : adapterReconcile (readCycle generationDigest ledger) quantityUnits (some rows) =
        .unknown := by
      simp only [adapterReconcile]
      rw [reconcileRows_openInvalid (by simpa using hopen)]
    rw [hr, told_unknown_iff hcount, hempty]
    simp [RowsSound, hopen]
  by_cases hforeign : ForeignRows (readCycle generationDigest ledger).1 rows.executions
      rows.positions rows.activeOrders
  · have hsound : RowsSound generationDigest quantityUnits ledger rows :=
      Or.inr ⟨hopen, Or.inl hforeign⟩
    have hr := reconcileRows_foreign hopen hforeign
    simp only [adapterReconcile, hr, hsound, iff_true]
    intro snapshot hsnapshot
    by_cases hpositions : rows.positions = []
    · -- the foreign rows are active orders, and these keep the state unknown
      have horders : rows.activeOrders ≠ [] := by
        rintro hnone
        simp [ForeignRows, hpositions, hnone, unownedPositions, unownedActiveOrders] at hforeign
      constructor
      · intro hflat
        have hcounts := ((state_flat_iff hsnapshot).mp hflat).2
        exact absurd (List.length_eq_zero_iff.mp hcounts) horders
      · intro hprotected
        have hcounts := ((state_protected_iff hsnapshot).mp hprotected).1
        exact absurd (by simp [hpositions]) hcounts
    · exact absurd hsnapshot (snapshotFields_mismatch (by simpa using hpositions) rfl)
  by_cases hconsistent : RowsConsistent (readCycle generationDigest ledger).1
      (readCycle generationDigest ledger).2 quantityUnits rows.executions rows.positions
      rows.activeOrders
  swap
  · have hr : adapterReconcile (readCycle generationDigest ledger) quantityUnits (some rows) =
        .unknown := by
      simp only [adapterReconcile]
      rw [reconcileRows_inconsistent hopen hforeign hconsistent]
    rw [hr, told_unknown_iff hcount, hempty]
    simp [RowsSound, hforeign, hconsistent]
  obtain ⟨r, hr, hcounted, horders, hunowned, hbundle, hposition, hside, hfilled, hsize,
    hstatus⟩ := reconcileRows_known hopen hforeign hconsistent
      (BrokerAnswers.parsed?_positions hrows)
  have hadapter : adapterReconcile (readCycle generationDigest ledger) quantityUnits
      (some rows) = r := by
    simp only [adapterReconcile]
    rw [hr]
  rw [hadapter]
  have hdirectional : ∀ side, r.snapshot.positionSide = some side → side.Directional := by
    intro side h
    rw [hside] at h
    split_ifs at h
    cases h
    exact hinputs.2.1
  have hpresent : r.accountPositionCount = 0 ↔ r.snapshot.positionSide = none := by
    rw [hcounted, hside]
    by_cases hpositions : rows.positions = [] <;> simp [hpositions]
  obtain ⟨snapshot, hsnapshot⟩ :=
    snapshotFields_sanitized quantityUnits hcount hdirectional hpresent
  have honly : (∀ snapshot, (snapshotFields quantityUnits requestCount r).sanitized =
      .ok snapshot → Told quantityUnits ledger answers snapshot) ↔
      Told quantityUnits ledger answers snapshot := by
    constructor
    · intro h
      exact h snapshot hsnapshot
    · intro h other hother
      rw [hsnapshot] at hother
      cases hother
      exact h
  rw [honly]
  have hflatTold : snapshotState snapshot = .freshFlat → AccountEmpty answers := by
    intro hflat
    have hcounts := (state_flat_iff hsnapshot).mp hflat
    rw [hcounted, horders] at hcounts
    exact hempty.mpr ⟨List.length_eq_zero_iff.mp hcounts.1, List.length_eq_zero_iff.mp hcounts.2⟩
  by_cases hpositions : rows.positions = []
  · -- without a position nothing shows protection
    have hnotProtected : snapshotState snapshot ≠ .freshProtected := by
      intro hprotected
      have hcounts := ((state_protected_iff hsnapshot).mp hprotected).1
      rw [hcounted, hpositions] at hcounts
      exact hcounts rfl
    have hnotShown : ¬ShowsProtection (readCycle generationDigest ledger).1 quantityUnits
        rows := by
      rintro ⟨hopenSize, _⟩
      have hquantity := hinputs.2.2.1
      simp [openSize, hpositions] at hopenSize
      omega
    have htold : Told quantityUnits ledger answers snapshot :=
      ⟨hflatTold, fun h => absurd h hnotProtected⟩
    have hsound : RowsSound generationDigest quantityUnits ledger rows :=
      Or.inr ⟨hopen, Or.inr ⟨hconsistent, fun h => absurd h hnotShown⟩⟩
    simp [htold, hsound]
  · have hconfirmed := confirmed_iff requestCount hinputs.2.2.1 hpositions
      horders hunowned (by rw [hbundle, if_neg hpositions]) (by rw [hposition, if_neg hpositions])
      hfilled hsize hstatus
    have hprotected : snapshotState snapshot = .freshProtected ↔
        ShowsProtection (readCycle generationDigest ledger).1 quantityUnits rows := by
      rw [state_protected_iff hsnapshot, hconfirmed, hcounted]
      simp [hpositions]
    have hsound : RowsSound generationDigest quantityUnits ledger rows ↔
        (ShowsProtection (readCycle generationDigest ledger).1 quantityUnits rows →
          (ledgerCycle? ledger).isSome = true ∧
            activeOrdersOf (readCycle generationDigest ledger).1 .exactSizeOcoProtection
              rows.activeOrders = rows.activeOrders) := by
      simp [RowsSound, hpositions, hopen, hforeign, hconsistent]
    rw [hsound, Told, hprotected]
    constructor
    · rintro ⟨_, htold⟩ hshows
      exact (accountProtected_iff hrows hforeign hconsistent hshows).mp (htold hshows)
    · intro h
      refine ⟨hflatTold, fun hshows => ?_⟩
      exact (accountProtected_iff hrows hforeign hconsistent hshows).mpr (h hshows)

end Rows

section Cycle

variable {sha : Sha256} {generationDigest reviewedFilesDigest : Digest}
variable {cycleId : List Char} {nowUtc : Instant} {quantityUnits : Nat} {ledger : Ledger}
variable {answers : BrokerAnswers} {root : StateRoot}

theorem reconcileOnce_told_iff (hgeneration : validDigest generationDigest = true) :
    (∀ snapshot, reconcileOnce generationDigest quantityUnits ledger answers = .ok snapshot →
        Told quantityUnits ledger answers snapshot) ↔
      (CycleInputsValid (readCycle generationDigest ledger) quantityUnits →
        ReadingSound generationDigest quantityUnits ledger answers) := by
  unfold reconcileOnce
  rw [if_neg (by simp [hgeneration])]
  by_cases hinputs : CycleInputsValid (readCycle generationDigest ledger) quantityUnits
  swap
  · simp [hinputs]
  simp only [hinputs, not_true_eq_false, if_false, true_implies]
  unfold ReadingSound
  cases hread : answers.read.1 with
  | error e => exact ⟨fun _ => trivial, fun _ _ h => nomatch h⟩
  | ok account =>
      cases account with
      | none =>
          -- a failure that the adapter catches is told as an empty account
          have hnotEmpty : ¬AccountEmpty answers := by
            rintro ⟨rows, hrows, _⟩
            rw [BrokerAnswers.read_eq_some.mpr hrows] at hread
            cases hread
          exact (told_unknown_iff answers.read_count).trans (iff_of_false hnotEmpty id)
      | some rows =>
          exact rows_told_iff (BrokerAnswers.read_eq_some.mp hread) hinputs answers.read_count

theorem reconcileOnce_error {e : G075Exception}
    (h : reconcileOnce generationDigest quantityUnits ledger answers = .error e) :
    e.errorClass ≠ .base := by
  unfold reconcileOnce at h
  split_ifs at h with hgeneration hinputs
  · cases h
    simp
  · cases hread : answers.read.1 with
    | error e' =>
        rw [hread] at h
        cases h
        simp [BrokerAnswers.read_error hread]
    | ok account =>
        rw [hread] at h
        exact SnapshotFields.sanitized_error h
  · cases h
    simp

end Cycle

namespace Sample

def zeroDigest : Digest :=
  sha256Prefix ++ List.replicate 64 '0'

/-- A state root on which nothing has run, read for the cycle `c` of a generation whose
ledger has no cycle. -/
def readFirst (answers : BrokerAnswers) : Outcome G075Exception Evidence × StateRoot :=
  (runPrivateCycle .checksum zeroDigest zeroDigest ['c'] 0 1000 {} answers).run
    { files := fun _ => none }

def returnedState? : Outcome G075Exception Evidence → Option ReconciliationState
  | .returned e => some e.state
  | _ => none

end Sample

end FxStrategyLab.G075
