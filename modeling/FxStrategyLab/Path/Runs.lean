import FxStrategyLab.Path.Methods
import FxStrategyLab.Library.Runs

/-!
# Runs of the path

A run is a list of calls, each with what the world does to it: the interference
before its transactions, the incidents at its callbacks, the delays of its
clock readings and what the wall clock shows.  A call that takes an evidence is
made only with one that the same process was handed.  A kill ends the process:
what it held in memory is gone, and the next call that does anything on the
path is a restart.

The state of a run records three things that the program does not: where an
evidence comes from, which closed results are still owed to the risk file, and
whether a POST was performed since the last released halt.
-/

namespace FxStrategyLab

open Library

variable {β : Type}

/-- The calls of the path, and the store calls of the processes around it. -/
inductive PathOp
  | restart (scope : V4ActivatedRuntimeScope)
  | restartRecovered (scope : G075RecoveryScope)
  | reserveEntryCycle (intent : EntryIntent) (nowUtc : Instant)
  | releaseUnattemptedReservation (cycleRef : Digest)
  | reconcileExternalFlatNoPost (input : ExternalFlatInput) (nowUtc : Instant)
  | engageUnknownHalt
  | reconcileOnceFixed (cycleRef : Digest) (side : SignalDecision) (requestedSize : Nat)
  | recordCanaryEntryPreflight (signalFingerprint cycleRef : Digest)
      (instructionBid instructionAsk : ℚ)
      (evidence : V4AuthoritativeReconciliationEvidence)
  | recoverPendingTransportOnce (cycleRef : Digest)
      (evidence : V4AuthoritativeReconciliationEvidence)
  | recoverPendingTransportAndCarryOnce (cycleRef : Digest)
      (evidence : V4AuthoritativeReconciliationEvidence)
  | performMarketOnce (signalFingerprint : Digest) (plan : V4GmoActionPlan)
  | prepareExactProtectionPlan (signalFingerprint : Digest)
      (evidence : V4AuthoritativeReconciliationEvidence)
  | prepareCancelEntryRemainderPlan (signalFingerprint : Digest)
      (evidence : V4AuthoritativeReconciliationEvidence)
  | performExactProtectionOnce (signalFingerprint : Digest) (plan : V4GmoActionPlan)
      (protectionPlan : V4GmoExactProtectionPlan)
      (evidence : V4AuthoritativeReconciliationEvidence)
  | performRiskReducingOnce (signalFingerprint : Digest) (plan : V4GmoActionPlan)
      (evidence : V4AuthoritativeReconciliationEvidence)
      (marketStatus : Option Path.V4GmoPublicMarketStatusEvidence)
  | confirmExactProtectionOnce (signalFingerprint : Digest)
      (evidence : V4AuthoritativeReconciliationEvidence)
  | recordFlatClosedResultOnce (signalFingerprint : Digest)
      (evidence : V4AuthoritativeReconciliationEvidence)
  | classifyProtectedLifecycleOnce (signalFingerprint : Digest)
      (evidence : V4AuthoritativeReconciliationEvidence)
  | heartbeat (heartbeatUtc : Instant)

/-- What a call hands back, as far as runs keep it. -/
inductive PathResult
  | done
  | evidence (e : V4AuthoritativeReconciliationEvidence)
  | outcome (o : V4GmoPrivateOutcome)
  | released (r : Bool)
deriving DecidableEq

namespace PathOp

/-- The method of a call. -/
def exec (path : V4GmoCoordinatedActualPath β) : PathOp → Path β PathResult
  | restart scope => do
      Path.onStore (openStore true)
      V4GmoCoordinatedActualPath.freshProcess (.activated scope)
      pure .done
  | restartRecovered scope => do
      path.bindRecoveredRuntime scope
      pure .done
  | reserveEntryCycle intent nowUtc => do
      let _risk ← Path.onStore (FxStrategyLab.reserveEntryCycle path.sha intent nowUtc)
      pure .done
  | releaseUnattemptedReservation cycleRef => do
      let _released ← Path.onStore (FxStrategyLab.releaseUnattemptedReservation cycleRef)
      pure .done
  | reconcileExternalFlatNoPost input nowUtc => do
      let released ← Path.onStore
        (FxStrategyLab.reconcileExternalFlatNoPost input nowUtc)
      pure (.released released)
  | engageUnknownHalt => do
      Path.onStore FxStrategyLab.engageUnknownHalt
      pure .done
  | reconcileOnceFixed cycleRef side requestedSize => do
      let evidence ← path.reconcileOnceFixed cycleRef side requestedSize
      pure (.evidence evidence)
  | recordCanaryEntryPreflight signalFingerprint cycleRef bid ask evidence => do
      let _digest ← path.recordCanaryEntryPreflight signalFingerprint cycleRef bid ask
        evidence
      pure .done
  | recoverPendingTransportOnce cycleRef evidence => do
      let _recovery ← path.recoverPendingTransportOnce cycleRef evidence
      pure .done
  | recoverPendingTransportAndCarryOnce cycleRef evidence => do
      let (_, carried) ← path.recoverPendingTransportAndCarryOnce cycleRef evidence
      pure (.evidence carried)
  | performMarketOnce signalFingerprint plan => do
      let outcome ← path.performMarketOnce signalFingerprint plan
      pure (.outcome outcome)
  | prepareExactProtectionPlan signalFingerprint evidence => do
      let (_, carried) ← path.prepareExactProtectionPlan signalFingerprint evidence
      pure (.evidence carried)
  | prepareCancelEntryRemainderPlan signalFingerprint evidence => do
      let (_, carried) ← path.prepareCancelEntryRemainderPlan signalFingerprint evidence
      pure (.evidence carried)
  | performExactProtectionOnce signalFingerprint plan protectionPlan evidence => do
      let outcome ← path.performExactProtectionOnce signalFingerprint plan protectionPlan
        evidence
      pure (.outcome outcome)
  | performRiskReducingOnce signalFingerprint plan evidence marketStatus => do
      let outcome ← path.performRiskReducingOnce signalFingerprint plan evidence
        marketStatus
      pure (.outcome outcome)
  | confirmExactProtectionOnce signalFingerprint evidence => do
      path.confirmExactProtectionOnce signalFingerprint evidence
      pure .done
  | recordFlatClosedResultOnce signalFingerprint evidence => do
      let _applied ← path.recordFlatClosedResultOnce signalFingerprint evidence
      pure .done
  | classifyProtectedLifecycleOnce signalFingerprint evidence => do
      let lifecycle ← path.classifyProtectedLifecycleOnce signalFingerprint evidence
      match lifecycle with
      | .positionExactlyProtected => pure .done
      | .flatClosed carried => pure (.evidence carried)
  | heartbeat heartbeatUtc => do
      path.heartbeat heartbeatUtc
      pure .done

def evidence? : PathOp → Option V4AuthoritativeReconciliationEvidence
  | recordCanaryEntryPreflight _ _ _ _ evidence | recoverPendingTransportOnce _ evidence
  | recoverPendingTransportAndCarryOnce _ evidence | prepareExactProtectionPlan _ evidence
  | prepareCancelEntryRemainderPlan _ evidence
  | performExactProtectionOnce _ _ _ evidence | performRiskReducingOnce _ _ evidence _
  | confirmExactProtectionOnce _ evidence | recordFlatClosedResultOnce _ evidence
  | classifyProtectedLifecycleOnce _ evidence => some evidence
  | _ => none

def performs : PathOp → Bool
  | performMarketOnce _ _ | performExactProtectionOnce _ _ _ _
  | performRiskReducingOnce _ _ _ _ => true
  | _ => false

/-- The writes of a call, besides the halt and the binding of a generation. -/
def writes : PathOp → LedgerWrite → Prop
  | _, .haltLatched | _, .bindGeneration _ => True
  | reserveEntryCycle intent nowUtc, w => ∃ risk, w = .reserve intent risk nowUtc
  | releaseUnattemptedReservation cycleRef, w => w = .release cycleRef
  | reconcileExternalFlatNoPost input _, w => w = .externalFlat input
  | recordCanaryEntryPreflight _ _ _ _ _, w =>
      ∃ input nowUtc nowMonotonic, w = .entryPreflight input nowUtc nowMonotonic
  | recoverPendingTransportOnce _ _, w | recoverPendingTransportAndCarryOnce _ _, w =>
      ∃ input nowUtc, w = .resolve input nowUtc
  | performMarketOnce signalFingerprint plan, w =>
      (∃ authorization nowUtc nowMonotonic,
        w = .marketAttempt authorization signalFingerprint plan nowUtc nowMonotonic) ∨
      ∃ outcome, w = .transportOutcome plan.cycleRef plan.action outcome
  | prepareExactProtectionPlan _ _, w =>
      ∃ cycleRef plan price, w = .protectionPlan cycleRef plan price
  | performExactProtectionOnce signalFingerprint plan protectionPlan _, w =>
      (∃ digest nowUtc nowMonotonic,
        w = .protectionAttempt signalFingerprint plan protectionPlan digest nowUtc
          nowMonotonic) ∨
      ∃ outcome, w = .transportOutcome plan.cycleRef plan.action outcome
  | performRiskReducingOnce signalFingerprint plan _ _, w =>
      (∃ reconciliation digest nowUtc,
        w = .riskReducing
          (V4GmoCoordinatedActualPath.riskReducingInput signalFingerprint plan
            reconciliation digest) nowUtc) ∨
      ∃ outcome, w = .transportOutcome plan.cycleRef plan.action outcome
  | confirmExactProtectionOnce _ _, w =>
      ∃ signalFingerprint size nowUtc nowMonotonic,
        w = .confirmProtection signalFingerprint size nowUtc nowMonotonic
  | recordFlatClosedResultOnce _ _, w => ∃ cycleRef pnl, w = .closedMetrics cycleRef pnl
  | _, _ => False

/-- What a call may do. -/
def effects (op : PathOp) : PathEffects where
  allowed := op.writes
  posting := op.performs = true
  saving :=
    match op with
    | performMarketOnce _ _ | recordFlatClosedResultOnce _ _ => True
    | _ => False

/-- The call starts a new process. -/
def restarts : PathOp → Bool
  | restart _ | restartRecovered _ => true
  | _ => false

end PathOp

/-- A call of a run: a method and what the world does to it. -/
structure PathCall where
  op : PathOp
  agenda : List Interference := []
  incidents : List Incident := []
  delays : List Nat := []
  wallReadings : List Instant := []

/-- Where the reconciliation behind an evidence comes from. -/
structure EvidenceOrigin where
  completedMonotonic : Monotonic
  postsDispatched : Nat
  traceLength : Nat
deriving DecidableEq

/-- An evidence that the process was handed. -/
structure HeldEvidence where
  evidence : V4AuthoritativeReconciliationEvidence
  origin : EvidenceOrigin
  carried : Bool
deriving DecidableEq

structure PathRun (β : Type) where
  world : PathWorld β
  held : List HeldEvidence := []
  owed : List Digest := []
  unreleasedPost : Bool := false

def PathWorld.beforeCall (w : PathWorld β) (call : PathCall) : PathWorld β :=
  { w with
    store := { w.store with agenda := call.agenda }
    incidents := call.incidents
    clock := { w.clock with delays := call.delays, wallReadings := call.wallReadings } }

def PathWorld.processEnded (w : PathWorld β) : PathWorld β :=
  { w with processLockHeld := false, reconciliations := [], entryAuthorizations := [] }

def Ledger.realizedRefs (l : Ledger) : List Digest :=
  (l.cycles.rows.filter fun row => row.realizedPnlJpy.isSome).map CycleRow.cycleRef

namespace PathRun

variable (r : PathRun β)

def holds (op : PathOp) : Prop :=
  ∀ evidence ∈ op.evidence?, evidence ∈ r.held.map HeldEvidence.evidence

instance (r : PathRun β) (op : PathOp) : Decidable (r.holds op) :=
  match h : op.evidence? with
  | none => isTrue fun evidence hevidence => by simp [h] at hevidence
  | some evidence =>
      decidable_of_iff (evidence ∈ r.held.map HeldEvidence.evidence) (by simp [holds, h])

/-- How a call ends, and the world after it. -/
def execute (path : V4GmoCoordinatedActualPath β) (call : PathCall) :
    Outcome V4Error PathResult × PathWorld β :=
  (call.op.exec path).run (r.world.beforeCall call)

def heldOf (evidence : V4AuthoritativeReconciliationEvidence) :
    Option HeldEvidence :=
  r.held.find? fun h => h.evidence = evidence

/-- What the process holds of evidence after a call. -/
def heldAfter (op : PathOp) :
    Outcome V4Error PathResult → List HeldEvidence
  | .returned (.evidence e) =>
      match op.evidence?.bind r.heldOf with
      | some source => ⟨e, source.origin, true⟩ :: r.held
      | none =>
          ⟨e,
            { completedMonotonic := e.issuedMonotonic
              postsDispatched := r.world.transport.postsDispatched
              traceLength := r.world.trace.length }, false⟩ :: r.held
  | .killed => []
  | _ => if op.restarts then [] else r.held

/-- The closed results that the risk file still lacks after a call: a recording
that does not return owes what it has newly written to the ledger, one that
returns pays for its cycle. -/
def owedAfter (op : PathOp) (o : Outcome V4Error PathResult)
    (w : PathWorld β) : List Digest :=
  match op, o with
  | .recordFlatClosedResultOnce signalFingerprint _, .returned _ =>
      r.owed.filter fun ref =>
        !decide ((w.store.ledger.cycleOfSignal? signalFingerprint).map CycleRow.cycleRef =
          some ref)
  | .recordFlatClosedResultOnce _ _, _ =>
      (w.store.ledger.realizedRefs.filter fun ref =>
        ref ∉ r.world.store.ledger.realizedRefs) ++ r.owed
  | _, _ => r.owed

/-- Whether a POST was performed since the last released halt. -/
def unreleasedAfter (op : PathOp) (o : Outcome V4Error PathResult) :
    Bool :=
  match o with
  | .returned (.released true) => false
  | _ => r.unreleasedPost || op.performs

/-- The run after a call that ended so. -/
def next (op : PathOp) (o : Outcome V4Error PathResult)
    (w : PathWorld β) : PathRun β where
  world := if o = .killed then w.processEnded else w
  held := r.heldAfter op o
  owed := r.owedAfter op o w
  unreleasedPost := r.unreleasedAfter op o

end PathRun

def PathRun.start (scope : V4ActivatedRuntimeScope) (broker : β) : PathRun β where
  world := { transport := { scope := .activated scope }, broker }

/-- One call of a run. -/
def pathStep (path : V4GmoCoordinatedActualPath β) (r : PathRun β) (call : PathCall) :
    PathRun β :=
  if r.holds call.op then
    r.next call.op (r.execute path call).1 (r.execute path call).2
  else r

section Effects

variable (path : V4GmoCoordinatedActualPath β)

theorem PathOp.within_exec (op : PathOp) (h : op.restarts = false) :
    Within (pathChange path.sha op.effects) (op.exec path) := by
  have hhalt : op.effects.allowed .haltLatched := by simp [effects, writes]
  have hbind : op.effects.allowed (.bindGeneration path.generation) := by
    simp [effects, writes]
  cases op with
  | restart scope => cases h
  | restartRecovered scope => cases h
  | reserveEntryCycle intent nowUtc =>
      refine (Path.within_onStore (within_reserveEntryCycle hhalt ?_ ?_)).bind fun _ =>
        Within.pure _
      · simp [effects, writes]
      · intro risk
        exact ⟨risk, rfl⟩
  | releaseUnattemptedReservation cycleRef =>
      exact (Path.within_onStore (within_release hhalt rfl)).bind fun _ => Within.pure _
  | reconcileExternalFlatNoPost input nowUtc =>
      exact (Path.within_onStore (within_reconcileExternalFlatNoPost hhalt rfl)).bind
        fun _ => Within.pure _
  | engageUnknownHalt =>
      exact (Path.within_onStore (within_engageUnknownHalt hhalt)).bind fun _ =>
        Within.pure _
  | reconcileOnceFixed cycleRef side requestedSize =>
      exact (path.within_reconcileOnceFixed hhalt _ _ _).bind fun _ => Within.pure _
  | recordCanaryEntryPreflight signalFingerprint cycleRef bid ask evidence =>
      exact (path.within_recordCanaryEntryPreflight hhalt hbind
        (fun _ _ _ => ⟨_, _, _, rfl⟩) _ _ _ _ _).bind fun _ => Within.pure _
  | recoverPendingTransportOnce cycleRef evidence =>
      exact (path.within_recoverPendingTransportOnce hhalt hbind
        (fun _ _ => ⟨_, _, rfl⟩) _ _).bind fun _ => Within.pure _
  | recoverPendingTransportAndCarryOnce cycleRef evidence =>
      exact (path.within_recoverPendingTransportAndCarryOnce hhalt hbind
        (fun _ _ => ⟨_, _, rfl⟩) _ _).bind fun _ => Within.pure _
  | performMarketOnce signalFingerprint plan =>
      exact (path.within_performMarketOnce hhalt hbind rfl trivial _ _
        (fun _ _ _ => Or.inl ⟨_, _, _, rfl⟩) fun _ => Or.inr ⟨_, rfl⟩).bind fun _ =>
          Within.pure _
  | prepareExactProtectionPlan signalFingerprint evidence =>
      exact (path.within_prepareExactProtectionPlan hhalt
        (fun _ _ _ => ⟨_, _, _, rfl⟩) _ _).bind fun _ => Within.pure _
  | prepareCancelEntryRemainderPlan signalFingerprint evidence =>
      exact (path.within_prepareCancelEntryRemainderPlan hhalt _ _).bind fun _ =>
        Within.pure _
  | performExactProtectionOnce signalFingerprint plan protectionPlan evidence =>
      exact (path.within_performExactProtectionOnce hhalt hbind rfl _ _ _ _
        (fun _ _ _ => Or.inl ⟨_, _, _, rfl⟩) fun _ => Or.inr ⟨_, rfl⟩).bind fun _ =>
          Within.pure _
  | performRiskReducingOnce signalFingerprint plan evidence marketStatus =>
      exact (path.within_performRiskReducingOnce hhalt hbind rfl _ _ _ _
        (fun _ _ _ => Or.inl ⟨_, _, _, rfl⟩) fun _ => Or.inr ⟨_, rfl⟩).bind fun _ =>
          Within.pure _
  | confirmExactProtectionOnce signalFingerprint evidence =>
      exact (path.within_confirmExactProtectionOnce hhalt
        (fun _ _ _ _ => ⟨_, _, _, _, rfl⟩) _ _).bind fun _ => Within.pure _
  | recordFlatClosedResultOnce signalFingerprint evidence =>
      exact (path.within_recordFlatClosedResultOnce hhalt trivial
        (fun _ _ => ⟨_, _, rfl⟩) _ _).bind fun _ => Within.pure _
  | classifyProtectedLifecycleOnce signalFingerprint evidence =>
      refine (path.within_classifyProtectedLifecycleOnce hhalt _ _).bind fun lifecycle => ?_
      cases lifecycle <;> exact Within.pure _
  | heartbeat heartbeatUtc =>
      exact (path.within_heartbeat _).bind fun _ => Within.pure _

end Effects

namespace Sample

def path (broker : Broker β) : V4GmoCoordinatedActualPath β where
  sha := Sha256.checksum
  broker
  generation
  riskPolicy
  deadManPolicy
  policies_bound := ⟨rfl, rfl, rfl, rfl⟩

/-- A broker that accepts every POST and whose account stays empty. -/
def flatBroker : Broker Unit where
  latestExecutions b := (.envelope 0 [], b)
  openPositions b := (.envelope 0 [], b)
  activeOrders b := (.envelope 0 [], b)
  post _ b := (.envelope 0 (), b)
  publicStatus b := (.open_, b)
  publicTicker b := (⟨150, 150 + 1 / 1000, monday, true⟩, b)

def fingerprint (seconds : Int) : Digest :=
  (signal seconds).fingerprint Sha256.checksum

def scope (seconds : Int) : V4ActivatedRuntimeScope where
  generationDigest := generation.digest
  cycleRef := cycleRef seconds
  side := .buy
  size := 1000
  entryExpiresMonotonic := monotonicSeconds 600

/-- What the reads of an empty account say. -/
def flatReconciliation : V4GmoActualReconciliation :=
  match reconcileRows (cycleRef 0) .buy 1000 [] [] [] with
  | .ok reconciliation => reconciliation
  | .error _ => .unknown

def evidence (seconds : Int) (objectId : Nat) (reconciliation : V4GmoActualReconciliation)
    (issuedMonotonic : Monotonic) : V4AuthoritativeReconciliationEvidence where
  objectId
  generationDigest := generation.digest
  cycleRef := cycleRef seconds
  bindingDigest := reconciliation.bindingDigestInternal Sha256.checksum
  issuedMonotonic

end Sample

end FxStrategyLab
