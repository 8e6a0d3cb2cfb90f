import FxStrategyLab.G075.StateRoot

/-!
# Reconciliation cycles

This file embeds the sanitized snapshot of `h11_v4_g075_runtime.py`, the evidence
made from it, the one-use cycle that stores the evidence, and its reading by a later
tick.  A snapshot carries its own checks.
-/

namespace FxStrategyLab.G075

open Library

/-- The fields of `G075SanitizedSnapshot`, without the two that must be zero
(`broker_write`, `broker_post_count`). -/
structure SnapshotFields where
  latestExecutionCount : Nat
  openPositionCount : Nat
  activeOrderCount : Nat
  positionSide : Option SignalDecision := none
  ownershipExact : Bool := false
  quantityMatches : Bool := false
  protectionConfirmed : Bool := false
  brokerGetCount : Nat := 0
  privateApiReadCount : Nat := 0
  credentialReadCount : Nat := 0
  pendingTransport : Bool := false
  unknown : Bool := false

/-- Source `G075SanitizedSnapshot`; the proofs are the checks of `__post_init__`. -/
structure SanitizedSnapshot extends SnapshotFields where
  reads_bounded : brokerGetCount ≤ 3 ∧ privateApiReadCount ≤ 3
  credentials_bounded : credentialReadCount ≤ 1
  side_valid : ∀ side, positionSide = some side → side.Directional
  side_present : openPositionCount = 0 ↔ positionSide = none

/-- Source `G075SanitizedSnapshot.__post_init__`. -/
def SnapshotFields.sanitized (fields : SnapshotFields) :
    Except G075Exception SanitizedSnapshot :=
  if hreads : fields.brokerGetCount ≤ 3 ∧ fields.privateApiReadCount ≤ 3 then
    if hcredentials : fields.credentialReadCount ≤ 1 then
      if hside : ∀ side, fields.positionSide = some side → side.Directional then
        if hpresent : fields.openPositionCount = 0 ↔ fields.positionSide = none then
          .ok { fields with
            reads_bounded := hreads
            credentials_bounded := hcredentials
            side_valid := hside
            side_present := hpresent }
        else .error (g075Error "G075_SNAPSHOT_SIDE_MISMATCH")
      else .error (g075Error "G075_SNAPSHOT_SIDE_INVALID")
    else .error (g075Error "G075_SNAPSHOT_BOUNDARY_VIOLATION")
  else .error (g075Error "G075_SNAPSHOT_READ_COUNT_INVALID")

def snapshotState (snapshot : SanitizedSnapshot) : ReconciliationState :=
  if snapshot.unknown = true ∨ snapshot.pendingTransport = true then .unknown
  else if snapshot.openPositionCount = 0 then
    if snapshot.activeOrderCount = 0 then .freshFlat else .unknown
  else if 0 < snapshot.activeOrderCount ∧ snapshot.ownershipExact = true ∧
      snapshot.quantityMatches = true ∧ snapshot.protectionConfirmed = true then
    .freshProtected
  else .unknown

theorem snapshotState_cases (snapshot : SanitizedSnapshot) :
    snapshotState snapshot = .freshFlat ∨ snapshotState snapshot = .freshProtected ∨
      snapshotState snapshot = .unknown := by
  unfold snapshotState
  split_ifs <;> simp

theorem snapshotState_flat_iff {snapshot : SanitizedSnapshot} (hunknown : snapshot.unknown = false)
    (hpending : snapshot.pendingTransport = false) :
    snapshotState snapshot = .freshFlat ↔
      snapshot.openPositionCount = 0 ∧ snapshot.activeOrderCount = 0 := by
  unfold snapshotState
  rw [if_neg (by simp [hunknown, hpending])]
  by_cases hopen : snapshot.openPositionCount = 0
  · rw [if_pos hopen]
    by_cases hactive : snapshot.activeOrderCount = 0 <;> simp [hopen, hactive]
  · rw [if_neg hopen]
    split <;> simp [hopen]

theorem snapshotState_protected_iff {snapshot : SanitizedSnapshot}
    (hunknown : snapshot.unknown = false) (hpending : snapshot.pendingTransport = false) :
    snapshotState snapshot = .freshProtected ↔
      snapshot.openPositionCount ≠ 0 ∧ 0 < snapshot.activeOrderCount ∧
        snapshot.ownershipExact = true ∧ snapshot.quantityMatches = true ∧
        snapshot.protectionConfirmed = true := by
  unfold snapshotState
  rw [if_neg (by simp [hunknown, hpending])]
  by_cases hopen : snapshot.openPositionCount = 0
  · rw [if_pos hopen]
    split <;> simp [hopen]
  · rw [if_neg hopen]
    split
    case isTrue h => simp [hopen, h]
    case isFalse h => simp [hopen, h]

def Evidence.canonicalJson (e : Evidence) : CanonicalText :=
  [("account_flat", .boolean e.accountFlat),
    ("active_order_count", .integer e.activeOrderCount),
    ("active_orders_zero", .boolean e.activeOrdersZero),
    ("broker_get_count", .integer e.brokerGetCount), ("broker_post_count", .integer 0),
    ("broker_write", .boolean false),
    ("credential_read_count", .integer e.credentialReadCount),
    ("cycle_id", .digest e.cycleId), ("generation_digest", .digest e.generationDigest),
    ("generation_label", .text generationLabel),
    ("latest_execution_count", .integer e.latestExecutionCount),
    ("observed_at_utc", .integer e.observedAtUtc),
    ("open_position_count", .integer e.openPositionCount),
    ("ownership_exact", .boolean e.ownershipExact),
    ("pending_transport", .boolean e.pendingTransport),
    ("position_open", .boolean e.positionOpen),
    ("position_side",
      .ofOption (fun side : SignalDecision => .text side.value) e.positionSide),
    ("private_api_read_count", .integer e.privateApiReadCount),
    ("protection_confirmed", .boolean e.protectionConfirmed),
    ("quantity_matches", .boolean e.quantityMatches),
    ("reviewed_files_digest", .digest e.reviewedFilesDigest),
    ("state", .text e.state.value)]

/-- The characters of `_CYCLE`. -/
def cycleCharacter (c : Char) : Bool :=
  c.isAlphanum || c = '_' || c = '.' || c = '-'

variable (cycleId : List Char)

/-- Source `_CYCLE.fullmatch`. -/
def validCycleId : Bool :=
  decide (1 ≤ cycleId.length ∧ cycleId.length ≤ 80) && cycleId.all cycleCharacter

variable (sha : Sha256)

def Evidence.ofSnapshot (generationDigest reviewedFilesDigest : Digest)
    (cycleId : List Char) (nowUtc : Instant) (snapshot : SanitizedSnapshot) : Evidence :=
  let base : Evidence :=
    { generationDigest
      reviewedFilesDigest
      cycleId
      observedAtUtc := nowUtc
      state := snapshotState snapshot
      latestExecutionCount := snapshot.latestExecutionCount
      openPositionCount := snapshot.openPositionCount
      activeOrderCount := snapshot.activeOrderCount
      positionSide := snapshot.positionSide
      positionOpen := decide (0 < snapshot.openPositionCount)
      accountFlat := decide (snapshot.openPositionCount = 0)
      activeOrdersZero := decide (snapshot.activeOrderCount = 0)
      ownershipExact := snapshot.ownershipExact
      quantityMatches := snapshot.quantityMatches
      protectionConfirmed := snapshot.protectionConfirmed
      brokerGetCount := snapshot.brokerGetCount
      privateApiReadCount := snapshot.privateApiReadCount
      credentialReadCount := snapshot.credentialReadCount
      pendingTransport := snapshot.pendingTransport
      artifactDigest := [] }
  { base with artifactDigest := sha.prefixed base.canonicalJson }

def evidenceFromSnapshot (generationDigest reviewedFilesDigest : Digest)
    (cycleId : List Char) (nowUtc : Instant) (snapshot : SanitizedSnapshot) :
    Except G075Exception Evidence :=
  if validDigest generationDigest = false then
    .error (g075Error "G075_GENERATION_DIGEST_INVALID")
  else if validDigest reviewedFilesDigest = false then
    .error (g075Error "G075_REVIEWED_DIGEST_INVALID")
  else if validCycleId cycleId = false then
    .error (g075Error "G075_CYCLE_INPUT_INVALID")
  else .ok (.ofSnapshot sha generationDigest reviewedFilesDigest cycleId nowUtc snapshot)

/-- A value or an exception, in a process on the state root. -/
def ofResult {α : Type} : Except G075Exception α → RootProcess α
  | .ok a => pure a
  | .error e => Process.raise e

/-- Store the evidence, record the outcome and hand the evidence out unless it is
unknown. -/
def storeEvidence (evidence : Evidence) : RootProcess Evidence := do
  atomicJson .reconciliation (.evidence evidence)
  exclusiveJson (.reconciliationOutcome cycleId) .marker
  if evidence.state = .unknown then do
    engageHalt
    Process.raise (g075Error "G075_RECONCILIATION_UNKNOWN_NO_RETRY")
  else pure evidence

/-- The body of a cycle: read the account, make the evidence and store it. -/
def reconciliationBody (generationDigest reviewedFilesDigest : Digest)
    (cycleId : List Char) (nowUtc : Instant) (reconciler : PortAnswer SanitizedSnapshot) :
    RootProcess Evidence := do
  let snapshot ← reconciler.run
  let evidence ← ofResult
    (evidenceFromSnapshot sha generationDigest reviewedFilesDigest cycleId nowUtc snapshot)
  storeEvidence cycleId evidence

def recordMissingOutcome : RootProcess Unit := do
  let recorded ← Process.gets fun root =>
    StateRoot.present root (.reconciliationOutcome cycleId)
  if recorded then pure () else exclusiveJson (.reconciliationOutcome cycleId) .marker

/-- The handler of a cycle: record an outcome if there is none, halt, raise; it is
not entered by a `BaseException`. -/
def reconciliationFailed (e : G075Exception) :
    RootProcess Evidence :=
  if e.errorClass = .base then Process.raise e
  else do
    recordMissingOutcome cycleId
    engageHalt
    Process.raise
      (if e.errorClass = .g075 then e
        else g075Error "G075_RECONCILIATION_UNKNOWN_NO_RETRY")

/-- Source `run_g075_reconciliation_cycle_once`. -/
def runReconciliationCycleOnce (generationDigest reviewedFilesDigest : Digest)
    (cycleId : List Char) (nowUtc : Instant) (reconciler : PortAnswer SanitizedSnapshot) :
    RootProcess Evidence := do
  Process.require (validCycleId cycleId = true) (g075Error "G075_CYCLE_ID_INVALID")
  let fresh ← Process.gets fun root =>
    !StateRoot.present root (.reconciliationStarted cycleId) &&
      !StateRoot.present root (.reconciliationOutcome cycleId)
  Process.require (fresh = true)
    (g075Error "G075_RECONCILIATION_CYCLE_ALREADY_STARTED_NO_RETRY")
  exclusiveJson (.reconciliationStarted cycleId) .marker
  (reconciliationBody sha generationDigest reviewedFilesDigest cycleId nowUtc
    reconciler).attempt (reconciliationFailed cycleId)

/-- Source `load_g075_reconciliation`. -/
def loadReconciliation (generationDigest reviewedFilesDigest : Digest)
    (nowUtc : Instant) (root : StateRoot) : Except G075Exception (Option Evidence) :=
  match root.files .reconciliation with
  | none => .ok none
  | some (.evidence e) =>
      if e.generationDigest ≠ generationDigest ∨
          e.reviewedFilesDigest ≠ reviewedFilesDigest ∨
          e.artifactDigest ≠ sha.prefixed e.canonicalJson then
        .error (g075Error "G075_RECONCILIATION_DIGEST_MISMATCH")
      else if nowUtc < e.observedAtUtc ∨ wallSeconds 60 < nowUtc - e.observedAtUtc then
        .ok (some { e with state := .stale })
      else .ok (some e)
  | some _ => .error (g075Error "G075_RECONCILIATION_INVALID")

section Cycle

variable {sha : Sha256} {generationDigest reviewedFilesDigest : Digest}
variable {cycleId : List Char} {nowUtc : Instant}
variable {reconciler : PortAnswer SanitizedSnapshot} {root : StateRoot}

def NewCycle (root : StateRoot) (cycleId : List Char) : Prop :=
  root.files (.reconciliationStarted cycleId) = none ∧
    root.files (.reconciliationOutcome cycleId) = none
deriving Decidable

@[simp]
theorem Evidence.canonicalJson_artifactDigest (e : Evidence) (digest : Digest) :
    ({ e with artifactDigest := digest } : Evidence).canonicalJson = e.canonicalJson :=
  rfl

@[simp]
theorem ofResult_ok_bind {α β : Type} (a : α) (f : α → RootProcess β) :
    (ofResult (.ok a) >>= f) = f a :=
  rfl

variable {snapshot : SanitizedSnapshot}

theorem evidenceFromSnapshot_ok {e : Evidence}
    (h : evidenceFromSnapshot sha generationDigest reviewedFilesDigest cycleId nowUtc
      snapshot = .ok e) :
    (validDigest generationDigest = true ∧ validDigest reviewedFilesDigest = true) ∧
      e = .ofSnapshot sha generationDigest reviewedFilesDigest cycleId nowUtc snapshot := by
  unfold evidenceFromSnapshot at h
  split_ifs at h with hgeneration hreviewed hcycle
  cases h
  exact ⟨⟨by simpa using hgeneration, by simpa using hreviewed⟩, rfl⟩

theorem evidenceFromSnapshot_error {e : G075Exception}
    (h : evidenceFromSnapshot sha generationDigest reviewedFilesDigest cycleId nowUtc
      snapshot = .error e) : e.errorClass ≠ .base := by
  unfold evidenceFromSnapshot at h
  split_ifs at h <;> cases h <;> simp [g075Error]

theorem runReconciliationCycleOnce_new (hfates : root.fates = [])
    (hvalid : validCycleId cycleId = true) (hnew : NewCycle root cycleId) :
    (runReconciliationCycleOnce sha generationDigest reviewedFilesDigest cycleId nowUtc
      reconciler).run root =
      ((reconciliationBody sha generationDigest reviewedFilesDigest cycleId nowUtc
        reconciler).attempt (reconciliationFailed cycleId)).run
        (root.set (.reconciliationStarted cycleId) (some .marker)) := by
  unfold runReconciliationCycleOnce
  rw [Process.run_require_bind hvalid, Process.run_gets_bind,
    Process.run_require_bind (by simp [StateRoot.present, hnew.1, hnew.2]), Process.run_bind]
  unfold exclusiveJson
  rw [Disk.createExclusive_free hnew.1 hfates]

theorem recordMissingOutcome_of_noFates (cycleId : List Char) (hfates : root.fates = []) :
    ∃ root', (recordMissingOutcome cycleId).run root = (.returned (), root') ∧
      root'.fates = [] ∧
      ∀ file, file ≠ .reconciliationOutcome cycleId → root'.files file = root.files file := by
  unfold recordMissingOutcome
  rw [Process.run_gets_bind]
  cases hrecorded : StateRoot.present root (.reconciliationOutcome cycleId) with
  | true => exact ⟨root, rfl, hfates, fun _ _ => rfl⟩
  | false =>
      have hfree : root.files (.reconciliationOutcome cycleId) = none := by
        simpa [StateRoot.present] using hrecorded
      simp only [Bool.false_eq_true, if_false, exclusiveJson,
        Disk.createExclusive_free hfree hfates]
      exact ⟨_, rfl, hfates, fun file hfile => by rw [Disk.set_other _ _ hfile]⟩

theorem reconciliationFailed_halts (cycleId : List Char) {e : G075Exception} (he : e.errorClass ≠ .base)
    (hfates : root.fates = []) :
    ∃ e' root', (reconciliationFailed cycleId e).run root = (.raised e', root') ∧
      StateRoot.present root' .persistentHalt = true ∧
      root'.files .reconciliation = root.files .reconciliation := by
  obtain ⟨recorded, hrecord, hfates, hrecorded⟩ :=
    recordMissingOutcome_of_noFates cycleId hfates
  obtain ⟨halted, hhalt, _, hpresent, hhalted⟩ := engageHalt_of_noFates recorded hfates
  unfold reconciliationFailed
  rw [if_neg he, Process.run_bind, hrecord]
  dsimp only
  rw [Process.run_bind, hhalt]
  exact ⟨_, halted, rfl, hpresent, (hhalted _ (by simp)).trans (hrecorded _ (by simp))⟩

theorem storeEvidence_run {evidence : Evidence} (hfates : root.fates = [])
    (hfree : root.files (.reconciliationOutcome cycleId) = none) :
    (storeEvidence cycleId evidence).run root =
      (if evidence.state = .unknown then do
          engageHalt
          Process.raise (g075Error "G075_RECONCILIATION_UNKNOWN_NO_RETRY")
        else pure evidence : RootProcess Evidence).run
        ((root.set .reconciliation (some (.evidence evidence))).set
          (.reconciliationOutcome cycleId) (some .marker)) := by
  have hfree' : (root.set .reconciliation (some (.evidence evidence))).files
      (.reconciliationOutcome cycleId) = none := by
    simpa using hfree
  unfold storeEvidence
  rw [Process.run_bind, atomicJson, Disk.replace_of_noFates hfates]
  dsimp only
  rw [Process.run_bind, exclusiveJson, Disk.createExclusive_free hfree' hfates]

theorem storeEvidence_clears (evidence : Evidence) (hfates : root.fates = [])
    (hfree : root.files (.reconciliationOutcome cycleId) = none)
    (hstate : evidence.state ≠ .unknown) :
    ∃ root', (storeEvidence cycleId evidence).run root = (.returned evidence, root') ∧
      root'.files .reconciliation = some (.evidence evidence) ∧ root'.fates = [] ∧
      root'.files .persistentHalt = root.files .persistentHalt := by
  rw [storeEvidence_run hfates hfree, if_neg hstate]
  exact ⟨_, rfl, by simp, hfates, by simp⟩

theorem storeEvidence_unknown (evidence : Evidence) (hfates : root.fates = [])
    (hfree : root.files (.reconciliationOutcome cycleId) = none)
    (hstate : evidence.state = .unknown) :
    ∃ root', (storeEvidence cycleId evidence).run root =
        (.raised (g075Error "G075_RECONCILIATION_UNKNOWN_NO_RETRY"), root') ∧
      root'.fates = [] ∧ root'.files .reconciliation = some (.evidence evidence) := by
  rw [storeEvidence_run hfates hfree, if_pos hstate]
  obtain ⟨halted, hhalt, hnone, _, hkept⟩ := engageHalt_of_noFates
    ((root.set .reconciliation (some (.evidence evidence))).set
      (.reconciliationOutcome cycleId) (some .marker)) hfates
  rw [Process.run_bind, hhalt]
  exact ⟨halted, rfl, hnone, (hkept _ (by simp)).trans (by simp)⟩

theorem reconciliationBody_returns (snapshot : SanitizedSnapshot) :
    reconciliationBody sha generationDigest reviewedFilesDigest cycleId nowUtc
      (.returns snapshot) =
      (ofResult (evidenceFromSnapshot sha generationDigest reviewedFilesDigest cycleId nowUtc
        snapshot) >>= storeEvidence cycleId) :=
  rfl

/-- **A cycle that clears.** A snapshot that is not unknown is stored and returned. -/
theorem runReconciliationCycleOnce_cleared (sha : Sha256) (nowUtc : Instant)
    (hfates : root.fates = []) (hvalid : validCycleId cycleId = true)
    (hnew : NewCycle root cycleId) (hgeneration : validDigest generationDigest = true)
    (hreviewed : validDigest reviewedFilesDigest = true)
    (hstate : snapshotState snapshot ≠ .unknown) :
    ∃ root', (runReconciliationCycleOnce sha generationDigest reviewedFilesDigest cycleId
        nowUtc (.returns snapshot)).run root =
        (.returned (.ofSnapshot sha generationDigest reviewedFilesDigest cycleId nowUtc
          snapshot), root') ∧
      root'.files .reconciliation =
        some (.evidence (.ofSnapshot sha generationDigest reviewedFilesDigest cycleId nowUtc
          snapshot)) ∧ root'.fates = [] ∧
      root'.files .persistentHalt = root.files .persistentHalt := by
  have hevidence : evidenceFromSnapshot sha generationDigest reviewedFilesDigest cycleId
      nowUtc snapshot =
      .ok (.ofSnapshot sha generationDigest reviewedFilesDigest cycleId nowUtc snapshot) := by
    simp [evidenceFromSnapshot, hgeneration, hreviewed, hvalid]
  have hbegun : (root.set (.reconciliationStarted cycleId) (some .marker)).fates = [] := hfates
  have hfree : (root.set (.reconciliationStarted cycleId) (some .marker)).files
      (.reconciliationOutcome cycleId) = none := by
    simpa using hnew.2
  obtain ⟨root', hrun, hstored, hnone, hhalt⟩ := storeEvidence_clears
    (.ofSnapshot sha generationDigest reviewedFilesDigest cycleId nowUtc snapshot)
    hbegun hfree hstate
  rw [runReconciliationCycleOnce_new hfates hvalid hnew, Process.run_attempt,
    reconciliationBody_returns, hevidence, ofResult_ok_bind, hrun]
  exact ⟨root', rfl, hstored, hnone, hhalt.trans (by simp)⟩

/-- **A cycle that does not clear.** An exception, refused bindings or an unknown
snapshot end with the halt on file and nothing fresh stored. -/
theorem runReconciliationCycleOnce_refused (sha : Sha256) (nowUtc : Instant)
    (hfates : root.fates = [])
    (hvalid : validCycleId cycleId = true) (hnew : NewCycle root cycleId)
    (hdies : reconciler ≠ .dies) (hbase : ∀ e, reconciler = .raises e → e.errorClass ≠ .base)
    (hstate : ∀ snapshot, reconciler = .returns snapshot →
      validDigest generationDigest = true → validDigest reviewedFilesDigest = true →
      snapshotState snapshot = .unknown) :
    ∃ e root', (runReconciliationCycleOnce sha generationDigest reviewedFilesDigest cycleId
        nowUtc reconciler).run root = (.raised e, root') ∧
      StateRoot.present root' .persistentHalt = true ∧
      (root'.files .reconciliation = root.files .reconciliation ∨
        ∃ e, root'.files .reconciliation = some (.evidence e) ∧ e.state = .unknown) := by
  have hbegun : (root.set (.reconciliationStarted cycleId) (some .marker)).fates = [] := hfates
  rw [runReconciliationCycleOnce_new hfates hvalid hnew, Process.run_attempt]
  cases reconciler with
  | dies => exact absurd rfl hdies
  | raises e =>
      obtain ⟨e', root', hrun, hhalt, hkept⟩ :=
        reconciliationFailed_halts cycleId (hbase e rfl) hbegun
      exact ⟨e', root', hrun, hhalt, Or.inl (hkept.trans (by simp))⟩
  | returns snapshot =>
      rw [reconciliationBody_returns]
      cases hevidence : evidenceFromSnapshot sha generationDigest reviewedFilesDigest cycleId
          nowUtc snapshot with
      | error e =>
          obtain ⟨e', root', hrun, hhalt, hkept⟩ := reconciliationFailed_halts
            cycleId (evidenceFromSnapshot_error hevidence) hbegun
          exact ⟨e', root', hrun, hhalt, Or.inl (hkept.trans (by simp))⟩
      | ok evidence =>
          obtain ⟨hbindings, rfl⟩ := evidenceFromSnapshot_ok hevidence
          have hunknown := hstate snapshot rfl hbindings.1 hbindings.2
          obtain ⟨stored, hstore, hnone, hfile⟩ := storeEvidence_unknown
            (.ofSnapshot sha generationDigest reviewedFilesDigest cycleId nowUtc snapshot)
            hbegun (by simpa using hnew.2) hunknown
          have hclass : (g075Error "G075_RECONCILIATION_UNKNOWN_NO_RETRY").errorClass ≠ .base := by
            simp [g075Error]
          obtain ⟨e', root', hrun, hhalt, hkept⟩ :=
            reconciliationFailed_halts cycleId hclass hnone
          rw [ofResult_ok_bind, hstore]
          exact ⟨e', root', hrun, hhalt, Or.inr ⟨_, hkept.trans hfile, hunknown⟩⟩

end Cycle

section Frames

variable {sha : Sha256} {generationDigest reviewedFilesDigest : Digest}
variable {cycleId : List Char} {nowUtc : Instant}
variable {reconciler : PortAnswer SanitizedSnapshot} {F : Frame StateRoot}

theorem PortAnswer.run_within {α : Type} (answer : PortAnswer α) : Within F answer.run := by
  cases answer with
  | returns a => exact Within.pure a
  | raises e => exact Within.raise e
  | dies => exact F.refl

/-- A frame that the halt and the outcome of the cycle respect bounds the handler. -/
theorem reconciliationFailed_within (hhalt : Within F engageHalt)
    (houtcome : Within F (exclusiveJson (.reconciliationOutcome cycleId) .marker))
    (e : G075Exception) : Within F (reconciliationFailed cycleId e) := by
  refine Within.ite (Within.raise _) (Within.bind ?_ fun _ => hhalt.bind fun _ => Within.raise _)
  exact (Within.gets _).bind fun _ => Within.ite (Within.pure _) houtcome

/-- A frame that moreover lets the evidence of the cycle be stored bounds the body. -/
theorem reconciliationBody_within (hhalt : Within F engageHalt)
    (houtcome : Within F (exclusiveJson (.reconciliationOutcome cycleId) .marker))
    (hevidence : ∀ e : Evidence, e.cycleId = cycleId →
      Within F (atomicJson .reconciliation (.evidence e))) :
    Within F (reconciliationBody sha generationDigest reviewedFilesDigest cycleId nowUtc
      reconciler) := by
  refine (PortAnswer.run_within reconciler).bind fun snapshot => ?_
  cases hmade : evidenceFromSnapshot sha generationDigest reviewedFilesDigest cycleId nowUtc
      snapshot with
  | error e => exact Within.raise e
  | ok evidence =>
      obtain ⟨_, rfl⟩ := evidenceFromSnapshot_ok hmade
      rw [ofResult_ok_bind]
      refine (hevidence _ rfl).bind fun _ => houtcome.bind fun _ => ?_
      exact Within.ite (hhalt.bind fun _ => Within.raise _) (Within.pure _)

theorem runReconciliationCycleOnce_grows :
    Within Disk.grows (runReconciliationCycleOnce sha generationDigest reviewedFilesDigest
      cycleId nowUtc reconciler) := by
  refine (Within.require _ _).bind fun _ => (Within.gets _).bind fun _ =>
    (Within.require _ _).bind fun _ => exclusiveJson_grows.bind fun _ => ?_
  exact (reconciliationBody_within engageHalt_grows exclusiveJson_grows
    fun _ _ => atomicJson_grows).attempt
      (reconciliationFailed_within engageHalt_grows exclusiveJson_grows)

def StateFile.OfCycle (file : StateFile) (cycleId : List Char) : Prop :=
  file = .persistentHalt ∨ file = .reconciliation ∨ file = .reconciliationStarted cycleId ∨
    file = .reconciliationOutcome cycleId

theorem runReconciliationCycleOnce_keepsFile {file : StateFile} (h : ¬file.OfCycle cycleId) :
    Within (Disk.keepsFile file) (runReconciliationCycleOnce sha generationDigest
      reviewedFilesDigest cycleId nowUtc reconciler) := by
  simp only [StateFile.OfCycle, not_or] at h
  obtain ⟨hhalt, hevidence, hstarted, houtcome⟩ := h
  refine (Within.require _ _).bind fun _ => (Within.gets _).bind fun _ =>
    (Within.require _ _).bind fun _ => (exclusiveJson_keepsFile hstarted).bind fun _ => ?_
  exact (reconciliationBody_within (engageHalt_keepsFile hhalt)
    (exclusiveJson_keepsFile houtcome) fun _ _ => atomicJson_keepsFile hevidence).attempt
      (reconciliationFailed_within (engageHalt_keepsFile hhalt)
        (exclusiveJson_keepsFile houtcome))

def EvidenceStarted (root : StateRoot) : Prop :=
  ∀ e, root.files .reconciliation = some (.evidence e) →
    StateRoot.present root (.reconciliationStarted e.cycleId) = true

theorem EvidenceStarted.mono {root root' : StateRoot} (h : EvidenceStarted root)
    (hgrows : Disk.grows.rel root root')
    (hevidence : root'.files .reconciliation = root.files .reconciliation) :
    EvidenceStarted root' :=
  fun e he => hgrows _ (h e (hevidence ▸ he))

def cycleBegun (cycleId : List Char) : Frame StateRoot :=
  Frame.keeps fun root =>
    StateRoot.present root (.reconciliationStarted cycleId) = true ∧ EvidenceStarted root

theorem cycleBegun_of_keeps {α : Type} {x : RootProcess α} (hgrows : Within Disk.grows x)
    (hevidence : Within (Disk.keepsFile .reconciliation) x) : Within (cycleBegun cycleId) x :=
  fun root h => ⟨hgrows root _ h.1, h.2.mono (hgrows root) (hevidence root)⟩

variable {e evidence : Evidence}

theorem cycleBegun_store (he : e.cycleId = cycleId) :
    Within (cycleBegun cycleId) (atomicJson .reconciliation (.evidence e)) := by
  intro root h
  have hgrows := @atomicJson_grows .reconciliation (.evidence e) root
  refine ⟨hgrows _ h.1, ?_⟩
  rcases Disk.change_files osError .reconciliation (some (Content.evidence e)) root with
    hsame | hset
  · exact h.2.mono hgrows (congrFun hsame _)
  · intro e' he'
    have hstored : (root.set .reconciliation (some (.evidence e))).files .reconciliation =
        some (.evidence e') := (congrFun hset .reconciliation).symm.trans he'
    rw [Disk.set_same] at hstored
    cases hstored
    rw [he]
    exact hgrows _ h.1

/-- **The evidence on file is that of a begun cycle**, also behind another cycle. -/
theorem runReconciliationCycleOnce_evidenceStarted :
    Within (Frame.keeps EvidenceStarted) (runReconciliationCycleOnce sha generationDigest
      reviewedFilesDigest cycleId nowUtc reconciler) := by
  refine (Within.require _ _).bind fun _ => (Within.gets _).bind fun _ =>
    (Within.require _ _).bind fun _ => ?_
  intro root h
  have hmarker : EvidenceStarted
      ((exclusiveJson (.reconciliationStarted cycleId) .marker).run root).2 :=
    h.mono (exclusiveJson_grows root) (exclusiveJson_keepsFile (by simp) root)
  refine Process.run_bind_ends (fun u begun hbegun => ?_) hmarker
  have hpresent : StateRoot.present begun (.reconciliationStarted cycleId) = true := by
    simp [StateRoot.present, (Disk.createExclusive_returned hbegun).2]
  have hother : EvidenceStarted begun := by
    rw [hbegun] at hmarker
    exact hmarker
  have hhalt : Within (cycleBegun cycleId) engageHalt :=
    cycleBegun_of_keeps engageHalt_grows (engageHalt_keepsFile (by simp))
  have houtcome : Within (cycleBegun cycleId)
      (exclusiveJson (.reconciliationOutcome cycleId) .marker) :=
    cycleBegun_of_keeps exclusiveJson_grows (exclusiveJson_keepsFile (by simp))
  exact ((reconciliationBody_within hhalt houtcome fun _ => cycleBegun_store).attempt
    (reconciliationFailed_within hhalt houtcome) begun ⟨hpresent, hother⟩).2

theorem reconciliationFailed_never_returns (cycleId : List Char) (err : G075Exception)
    (root root' : StateRoot) (e : Evidence) :
    (reconciliationFailed cycleId err).run root ≠ (.returned e, root') := by
  intro h
  unfold reconciliationFailed at h
  split at h
  · cases h
  · obtain ⟨_, _, _, h⟩ := Process.run_bind_eq_returned.mp h
    obtain ⟨_, _, _, h⟩ := Process.run_bind_eq_returned.mp h
    cases h

variable {root root' : StateRoot}

theorem storeEvidence_returned
    (h : (storeEvidence cycleId evidence).run root = (.returned e, root')) :
    e = evidence ∧ e.state ≠ .unknown := by
  obtain ⟨_, _, _, h⟩ := Process.run_bind_eq_returned.mp h
  obtain ⟨_, _, _, h⟩ := Process.run_bind_eq_returned.mp h
  split at h
  case isTrue =>
    obtain ⟨_, _, _, h⟩ := Process.run_bind_eq_returned.mp h
    cases h
  case isFalse hstate =>
    cases h
    exact ⟨rfl, hstate⟩

/-- The evidence that a cycle hands out: its reconciler answers, its digests are valid
and the snapshot is not unknown. -/
def CycleEvidence (sha : Sha256) (generationDigest reviewedFilesDigest : Digest)
    (cycleId : List Char) (nowUtc : Instant) (reconciler : PortAnswer SanitizedSnapshot)
    (e : Evidence) : Prop :=
  ∃ snapshot, reconciler = .returns snapshot ∧
    (validDigest generationDigest = true ∧ validDigest reviewedFilesDigest = true) ∧
    snapshotState snapshot ≠ .unknown ∧
    e = .ofSnapshot sha generationDigest reviewedFilesDigest cycleId nowUtc snapshot

theorem reconciliationBody_returned
    (h : (reconciliationBody sha generationDigest reviewedFilesDigest cycleId nowUtc
      reconciler).run root = (.returned e, root')) :
    CycleEvidence sha generationDigest reviewedFilesDigest cycleId nowUtc reconciler e := by
  obtain ⟨snapshot, _, hanswer, h⟩ := Process.run_bind_eq_returned.mp h
  obtain ⟨evidence, _, hmade, h⟩ := Process.run_bind_eq_returned.mp h
  obtain ⟨rfl, hstate⟩ := storeEvidence_returned h
  cases reconciler with
  | dies => cases hanswer
  | raises err => cases hanswer
  | returns snapshot' =>
      cases hanswer
      cases hresult : evidenceFromSnapshot sha generationDigest reviewedFilesDigest cycleId
          nowUtc snapshot with
      | error err =>
          rw [hresult] at hmade
          cases hmade
      | ok made =>
          rw [hresult] at hmade
          cases hmade
          obtain ⟨hdigests, rfl⟩ := evidenceFromSnapshot_ok hresult
          exact ⟨snapshot, rfl, hdigests, hstate, rfl⟩

/-- **A cycle that returns** had not begun before, and its evidence is its own. -/
theorem runReconciliationCycleOnce_returned
    (h : (runReconciliationCycleOnce sha generationDigest reviewedFilesDigest cycleId nowUtc
      reconciler).run root = (.returned e, root')) :
    validCycleId cycleId = true ∧ NewCycle root cycleId ∧
      CycleEvidence sha generationDigest reviewedFilesDigest cycleId nowUtc reconciler e ∧
      StateRoot.present root' (.reconciliationStarted cycleId) = true := by
  obtain ⟨hvalid, h⟩ := Process.run_require_bind_eq_returned.mp h
  rw [Process.run_gets_bind] at h
  obtain ⟨hnew, h⟩ := Process.run_require_bind_eq_returned.mp h
  obtain ⟨_, begun, hbegun, h⟩ := Process.run_bind_eq_returned.mp h
  obtain ⟨_, hfiles⟩ := Disk.createExclusive_returned hbegun
  have hpresent : StateRoot.present begun (.reconciliationStarted cycleId) = true := by
    simp [StateRoot.present, hfiles]
  have hgrows := ((reconciliationBody_within engageHalt_grows exclusiveJson_grows
    fun _ _ => atomicJson_grows).attempt
      (reconciliationFailed_within engageHalt_grows exclusiveJson_grows)).rel h
  have hfresh : NewCycle root cycleId := by
    simpa [StateRoot.present, NewCycle] using hnew
  refine ⟨hvalid, hfresh, ?_, hgrows _ hpresent⟩
  rw [Process.run_attempt] at h
  rcases hbody : (reconciliationBody sha generationDigest reviewedFilesDigest cycleId nowUtc
    reconciler).run begun with ⟨o, stored⟩
  rw [hbody] at h
  cases o with
  | killed => cases h
  | raised e' => exact absurd h (reconciliationFailed_never_returns _ _ _ _ _)
  | returned e' =>
      cases h
      exact reconciliationBody_returned hbody

end Frames

end FxStrategyLab.G075
