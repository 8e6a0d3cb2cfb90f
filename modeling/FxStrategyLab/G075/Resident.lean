import FxStrategyLab.G075.Dispatch

/-!
# The resident supervisor

This file embeds `G075ResidentSupervisor.tick` of `h11_v4_g075_runtime.py` in four
parts: what the tick observes, what it plans to do with the evidence, the plan's
execution, and the files it writes at its end.  The injected parts (the broker
reading, the strategy, the exit reason, the action port) answer in any way.

**Results.** `execute_quiet` and `execute_begun` say what a plan does to the state
root and to the port; `tick_ends` splits a tick into its parts.
-/

namespace FxStrategyLab.G075

open Library

/-- Source `G075EffectiveState`. -/
inductive EffectiveState
  | off
  | onWaiting
  | onExitOnly
  | exitOnly
  | halted
deriving DecidableEq

/-- Source `G075EntryState`. -/
inductive EntryState
  | disabled
  | waitingForReconciliation
  | waitingForSignal
  | entryReady
  | actionInProgress
  | blockedPositionOpen
  | halted
deriving DecidableEq

/-- Source `G075ActionState`. -/
inductive ActionState
  | idle
  | started
  | resultKnown
  | unknown
deriving DecidableEq

/-- Source `G075ExitState`. -/
inductive ExitState
  | notRequired
  | protectedPosition
  | exitDue
  | exitInProgress
  | flat
  | unknown
deriving DecidableEq

/-- The fields of the runtime status that the tick decides; the others are copies of
its inputs, of the evidence and of the decision. -/
structure TickStatus where
  effectiveState : EffectiveState
  entryGateOpen : Bool := false
  entryState : EntryState
  reconciliationState : ReconciliationState
  actionState : ActionState := .idle
  exitState : ExitState := .notRequired
  safeReasonLabel : String
  persistentHalt : Bool := false
deriving DecidableEq

def shownState (evidence : Option Evidence) : ReconciliationState :=
  (evidence.map Evidence.state).getD .required

def haltedStatus (evidence : Option Evidence) (reason : String) : TickStatus :=
  { effectiveState := .halted
    entryState := .halted
    reconciliationState := shownState evidence
    safeReasonLabel := reason
    persistentHalt := true }

/-- What a tick is given: its arguments, the fields of the supervisor, the next
cycle id and the answers of the injected parts.  A dispatcher is given by the digests
that it is bound to. -/
structure TickInput where
  generationDigest : Digest
  reviewedFilesDigest : Digest
  nowUtc : Instant
  armOn : Bool
  processLockSingle : Bool := true
  deadManAlive : Bool := true
  heartbeatChainBeat : Bool := true
  /-- what `require_g075_no_unresolved_halt` finds -/
  scanClear : Bool := true
  cycleId : List Char
  reconciler : Option (PortAnswer SanitizedSnapshot)
  strategy : Option (PortAnswer StrategyDecision)
  exitReason : Option (PortAnswer (Option Action))
  entryDispatcher : Option ActionBinding
  exitDispatcher : Option ActionBinding
  port : ActionScope → PortReply

/-- The evidence that a tick works with, and whether it is halted. -/
structure Observation where
  halted : Bool
  predecessorHalted : Bool := false
  evidence : Option Evidence

def reconciliationRefused (loaded : Option Evidence) (e : G075Exception) :
    RootProcess Observation :=
  if e.errorClass = .g075 then pure { halted := true, evidence := loaded }
  else Process.raise e

variable (sha : Sha256)

def reconcileWhenDue (input : TickInput) (loaded : Option Evidence) :
    RootProcess Observation :=
  match input.reconciler with
  | none => pure { halted := false, evidence := loaded }
  | some reconciler =>
      if loaded.all (fun e => decide (e.state = .stale)) = true then
        (runReconciliationCycleOnce sha input.generationDigest input.reviewedFilesDigest
          input.cycleId input.nowUtc reconciler >>= fun evidence =>
            pure { halted := false, evidence := some evidence }).attempt
          (reconciliationRefused loaded)
      else pure { halted := false, evidence := loaded }

def TickInput.loaded (input : TickInput) (root : StateRoot) :
    Except G075Exception (Option Evidence) :=
  loadReconciliation sha input.generationDigest input.reviewedFilesDigest input.nowUtc root

/-- The first part of a tick. -/
def observe (sha : Sha256) (input : TickInput) : RootProcess Observation := do
  let root ← Process.gets fun root => root
  if StateRoot.present root .persistentHalt = true then
    pure { halted := true, evidence := none }
  else if input.scanClear = false then
    pure { halted := true, predecessorHalted := true, evidence := none }
  else
    match input.loaded sha root with
    | .error _ => pure { halted := true, evidence := none }
    | .ok loaded => reconcileWhenDue sha input loaded

inductive TickPlan
  /-- no dispatcher is called -/
  | report (status : TickStatus)
  /-- an exception leaves the tick -/
  | fails (e : G075Exception)
  /-- the process dies in injected code -/
  | dies
  | enter (binding : ActionBinding) (decision : StrategyDecision) (evidence : Evidence)
  | exit (binding : ActionBinding) (side : SignalDecision) (reason : Action)
      (evidence : Evidence)

/-- The exceptions that the handler around the strategy and the entry swallows. -/
def ErrorClass.swallowed : ErrorClass → Bool
  | g075 | typeOrValue => true
  | coordinatedPath | liveRuntime | os | otherException | base => false

variable (input : TickInput)

def exitStatus (evidence : Evidence) (action : ActionState) :
    TickStatus :=
  { effectiveState := if input.armOn then .onExitOnly else .exitOnly
    entryState := .blockedPositionOpen
    reconciliationState := evidence.state
    actionState := action
    exitState := .protectedPosition
    safeReasonLabel := "G075_PROTECTED_POSITION_EXIT_MANAGEMENT" }

/-- The branch of a tick with an open position. -/
def exitPlan (evidence : Evidence) : TickPlan :=
  if (evidence.ownershipExact && evidence.quantityMatches && evidence.protectionConfirmed) =
      false ∨ evidence.state ≠ .freshProtected then
    .report { haltedStatus (some evidence) "G075_POSITION_PROTECTION_NOT_CONFIRMED" with
      exitState := .unknown }
  else
    match input.exitReason, input.exitDispatcher with
    | some (.returns none), some _ => .report (exitStatus input evidence .idle)
    | some (.returns (some reason)), some binding =>
        match evidence.positionSide with
        | some side =>
            if side.Directional then .exit binding side reason evidence
            else .fails (g075Error "G075_EXIT_SIDE_UNKNOWN")
        | none => .fails (g075Error "G075_EXIT_SIDE_UNKNOWN")
    | some (.raises e), some _ => .fails e
    | some .dies, some _ => .dies
    | _, _ => .report (exitStatus input evidence .idle)

variable (evidence : Evidence)

def waitingStatus : TickStatus :=
  { effectiveState := .onWaiting
    entryState := .waitingForSignal
    reconciliationState := evidence.state
    safeReasonLabel := "G075_WAITING_FOR_SIGNAL" }

/-- The branch of a tick with a flat account. -/
def entryPlan (evidence : Evidence) : TickPlan :=
  match input.strategy with
  | none => .report (waitingStatus evidence)
  | some .dies => .dies
  | some (.raises e) =>
      if e.errorClass.swallowed then
        .report (haltedStatus (some evidence) "G075_STRATEGY_EVALUATION_UNKNOWN")
      else .fails e
  | some (.returns decision) =>
      if decision.bindingValid input.generationDigest input.reviewedFilesDigest = false then
        .report (haltedStatus (some evidence) "G075_STRATEGY_BINDING_NOT_CLEAR")
      else if decision.gateOpen input.generationDigest input.reviewedFilesDigest = false then
        .report (waitingStatus evidence)
      else
        match input.entryDispatcher with
        | none =>
            .report { waitingStatus evidence with
              entryGateOpen := true
              entryState := .entryReady
              safeReasonLabel := "G075_ENTRY_GATE_OPEN" }
        | some binding => .enter binding decision evidence

def tickPlan (observed : Observation) (capability : Bool) : TickPlan :=
  if observed.halted = true ∨ input.processLockSingle = false ∨ input.deadManAlive = false ∨
      input.heartbeatChainBeat = false then
    .report (haltedStatus observed.evidence
      (if observed.predecessorHalted then "G075_UNRESOLVED_HALT_PRESENT"
        else "G075_RUNTIME_HEALTH_NOT_CLEAR"))
  else
    match observed.evidence with
    | some evidence =>
        if evidence.state = .unknown ∨ evidence.state = .stale then
          .report { haltedStatus (some evidence) "G075_RECONCILIATION_NOT_CLEAR" with
            exitState := .unknown }
        else if evidence.positionOpen = true then exitPlan input evidence
        else if input.armOn = false then
          .report { effectiveState := .off, entryState := .disabled,
                    reconciliationState := evidence.state, safeReasonLabel := "G075_ARM_OFF" }
        else if capability = false then
          .report { effectiveState := .halted, entryState := .halted,
                    reconciliationState := evidence.state,
                    safeReasonLabel := "G075_RELEASE_CAPABILITY_LOCKED" }
        else if evidence.state = .freshFlat then entryPlan input evidence
        else .report (haltedStatus (some evidence) "G075_RECONCILIATION_STATE_INVALID")
    | none =>
        if input.armOn = false then
          .report { effectiveState := .off, entryState := .disabled,
                    reconciliationState := .required, safeReasonLabel := "G075_ARM_OFF" }
        else if capability = false then
          .report { effectiveState := .halted, entryState := .halted,
                    reconciliationState := .required,
                    safeReasonLabel := "G075_RELEASE_CAPABILITY_LOCKED" }
        else
          .report { effectiveState := .onWaiting, entryState := .waitingForReconciliation,
                    reconciliationState := .required,
                    safeReasonLabel := "G075_RECONCILIATION_REQUIRED" }

/-- The status of an entry whose two actions have a known result. -/
def enteredStatus : TickStatus :=
  { waitingStatus evidence with
    entryState := .actionInProgress
    actionState := .resultKnown
    safeReasonLabel := "G075_ENTRY_LIFECYCLE_RESULT_KNOWN" }

/-- The status of an entry that raised: nothing in it tells how far the entry came. -/
def entryFailedStatus : TickStatus :=
  { haltedStatus (some evidence) "G075_STRATEGY_EVALUATION_UNKNOWN" with
    actionState := .started }

def entryFailed (e : G075Exception) : ResidentProcess TickStatus :=
  if e.errorClass.swallowed = true then pure (entryFailedStatus evidence)
  else Process.raise e

/-- Do what is planned. -/
def execute (input : TickInput) : TickPlan → ResidentProcess TickStatus
  | .report status => pure status
  | .fails e => Process.raise e
  | .dies => Process.kill
  | .enter binding decision evidence =>
      (enterAndProtectOnce sha binding input.port decision evidence input.nowUtc >>= fun _ =>
        pure (enteredStatus evidence)).attempt (entryFailed evidence)
  | .exit binding side reason evidence =>
      exitOnce sha binding input.port evidence side reason input.nowUtc >>= fun _ =>
        pure (exitStatus input evidence .resultKnown)

/-- The files at the end of a tick; a heartbeat chain that cannot be read raises. -/
def recordTick : RootProcess Unit := do
  atomicJson .runtimeStatus .marker
  atomicJson .heartbeat .marker
  atomicJson .deadMan .marker
  let chain ← Process.gets fun root => root.files .heartbeatChain
  Process.require (chain ≠ some .unreadable) (g075Error "G075_HEARTBEAT_CHAIN_INVALID")
  atomicJson .heartbeatChain .marker

def tick (input : TickInput) : ResidentProcess TickStatus := do
  let observed ← onRoot (observe sha input)
  let capability ← Process.gets fun w : Resident =>
    capabilityValid sha input.generationDigest input.reviewedFilesDigest input.scanClear w.root
  let status ← execute sha input (tickPlan input observed capability)
  onRoot recordTick
  pure status

/-- A tick whose writes meet these fates. -/
def tickRun (w : Resident) (input : TickInput) (fates : List WriteFate) :
    Outcome G075Exception TickStatus × Resident :=
  (tick sha input).run { w with root := { w.root with fates } }

inductive LifecycleKind
  | entry
  | exit

namespace LifecycleKind

/-- The action that a lifecycle begins with. -/
def first : LifecycleKind → Action
  | entry => .entry
  | exit => .cancelProtection

/-- The action that follows an accepted first one. -/
def second : LifecycleKind → Action
  | entry => .protection
  | exit => .closePosition

def refused : LifecycleKind → G075Exception
  | entry => g075Error "G075_ENTRY_NOT_ACCEPTED"
  | exit => g075Error "G075_EXIT_CANCEL_NOT_ACCEPTED"

def finish : LifecycleKind → ActionOutcome → ResidentProcess Unit
  | entry => protectionFinish
  | exit => fun close =>
      Process.require (close = .flatKnown) (g075Error "G075_EXIT_NOT_FLAT")

theorem finish_attempts (kind : LifecycleKind) (o : ActionOutcome) :
    Within attemptsKept (kind.finish o) := by
  cases kind with
  | entry =>
      exact Within.ite (Within.pure _) ((onRoot_attempts _).bind fun _ => Within.raise _)
  | exit => exact Within.require _ _

theorem finish_grows (kind : LifecycleKind) (o : ActionOutcome) :
    Within (Disk.grows.through Resident.root) (kind.finish o) := by
  cases kind with
  | entry =>
      exact Within.ite (Within.pure _)
        ((onRoot_within engageHalt_grows).bind fun _ => Within.raise _)
  | exit => exact Within.require _ _

theorem finish_keepsFile {file : StateFile} (hfile : file ≠ .persistentHalt)
    (kind : LifecycleKind) (o : ActionOutcome) :
    Within ((Disk.keepsFile file).through Resident.root) (kind.finish o) := by
  cases kind with
  | entry =>
      exact Within.ite (Within.pure _)
        ((onRoot_within (engageHalt_keepsFile hfile)).bind fun _ => Within.raise _)
  | exit => exact Within.require _ _

end LifecycleKind

structure Lifecycle where
  kind : LifecycleKind
  binding : ActionBinding
  side : SignalDecision
  evidence : Evidence

namespace Lifecycle

variable (sha : Sha256)

def scope (lifecycle : Lifecycle) (nowUtc : Instant) (action : Action) :
    ActionScope :=
  actionScope sha lifecycle.binding lifecycle.evidence.cycleId action lifecycle.side 1000
    lifecycle.evidence.artifactDigest nowUtc

/-- The two actions of the lifecycle. -/
def process (lifecycle : Lifecycle) (port : ActionScope → PortReply)
    (nowUtc : Instant) : ResidentProcess Unit :=
  twoActions sha lifecycle.binding port lifecycle.evidence lifecycle.side nowUtc
    lifecycle.kind.first lifecycle.kind.second lifecycle.kind.refused lifecycle.kind.finish

def attempt (lifecycle : Lifecycle) (port : ActionScope → PortReply)
    (nowUtc : Instant) (action : Action) : ResidentProcess ActionOutcome :=
  attemptOnce sha lifecycle.binding port lifecycle.evidence.cycleId action lifecycle.side 1000
    lifecycle.evidence.artifactDigest nowUtc

theorem process_eq (lifecycle : Lifecycle) (port : ActionScope → PortReply) (nowUtc : Instant) :
    lifecycle.process sha port nowUtc =
      (lifecycle.attempt sha port nowUtc lifecycle.kind.first >>= fun opened =>
        Process.require (opened = .acceptedKnown) lifecycle.kind.refused >>= fun _ =>
          lifecycle.attempt sha port nowUtc lifecycle.kind.second >>= lifecycle.kind.finish) :=
  rfl

@[simp]
theorem scope_action (lifecycle : Lifecycle) (nowUtc : Instant)
    (action : Action) : (lifecycle.scope sha nowUtc action).action = action :=
  rfl

theorem attempt_ends {sha : Sha256} {lifecycle : Lifecycle} {port : ActionScope → PortReply}
    {nowUtc : Instant} {action : Action} {w w' : Resident}
    {o : Outcome G075Exception ActionOutcome}
    (h : (lifecycle.attempt sha port nowUtc action).run w = (o, w')) :
    AttemptEnds port (lifecycle.scope sha nowUtc action) w w' o :=
  attemptOnce_ends h

def Admitted (lifecycle : Lifecycle) : Prop :=
  G075.Admitted lifecycle.side lifecycle.evidence.artifactDigest
deriving Decidable

end Lifecycle

namespace TickPlan

def lifecycle : TickPlan → Option Lifecycle
  | .enter binding decision evidence =>
      if evidence.state = .freshFlat ∧
          decision.gateOpen evidence.generationDigest evidence.reviewedFilesDigest = true then
        some { kind := .entry, binding, side := decision.side, evidence }
      else none
  | .exit binding side reason evidence =>
      if evidence.state = .freshProtected ∧
          (reason = .takeProfit ∨ reason = .stopLoss ∨ reason = .timeExit) then
        some { kind := .exit, binding, side, evidence }
      else none
  | .report _ | .fails _ | .dies => none

def begun (plan : TickPlan) : Option Lifecycle :=
  plan.lifecycle.filter fun lifecycle => decide lifecycle.Admitted

end TickPlan

section Execution

variable {sha : Sha256} {input : TickInput} {plan : TickPlan} {lifecycle : Lifecycle}

theorem Lifecycle.process_refused (sha : Sha256) (port : ActionScope → PortReply)
    (nowUtc : Instant) (h : ¬lifecycle.Admitted) (w : Resident) :
    ∃ e, (lifecycle.process sha port nowUtc).run w = (.raised e, w) := by
  obtain ⟨e, hrefused, _⟩ := attemptOnce_refused sha lifecycle.binding port
    lifecycle.evidence.cycleId lifecycle.kind.first nowUtc h w
  exact ⟨e, Process.run_bind_raised hrefused _⟩

/-- What the plan's process does to the resident, and whether it is killed, is told by
its lifecycle. -/
def SameEnd {α β : Type} (x : Outcome G075Exception α × Resident)
    (y : Outcome G075Exception β × Resident) : Prop :=
  x.2 = y.2 ∧ (x.1 = .killed ↔ y.1 = .killed)

theorem sameEnd_bind_pure {α β : Type} (x : ResidentProcess α) (f : α → β) (w : Resident) :
    SameEnd ((x >>= fun a => pure (f a)).run w) (x.run w) := by
  rw [Process.run_bind_pure]
  rcases x.run w with ⟨o, w'⟩
  cases o <;> simp [SameEnd, Outcome.map]

theorem sameEnd_entryFailed {x : ResidentProcess TickStatus} {evidence : Evidence}
    (w : Resident) : SameEnd ((x.attempt (entryFailed evidence)).run w) (x.run w) := by
  rw [Process.run_attempt]
  rcases x.run w with ⟨o, w'⟩
  cases o with
  | returned a => simp [SameEnd]
  | killed => simp [SameEnd]
  | raised e =>
      unfold entryFailed
      by_cases hswallowed : e.errorClass.swallowed = true <;> simp [SameEnd, hswallowed]

theorem SameEnd.trans {α β γ : Type} {x : Outcome G075Exception α × Resident}
    {y : Outcome G075Exception β × Resident} {z : Outcome G075Exception γ × Resident}
    (hxy : SameEnd x y) (hyz : SameEnd y z) : SameEnd x z :=
  ⟨hxy.1.trans hyz.1, hxy.2.trans hyz.2⟩

/-- **A plan that begins a lifecycle** ends as the lifecycle does. -/
theorem execute_lifecycle (h : plan.lifecycle = some lifecycle) (w : Resident) :
    SameEnd ((execute sha input plan).run w)
      ((lifecycle.process sha input.port input.nowUtc).run w) := by
  cases plan with
  | report status => cases h
  | fails e => cases h
  | dies => cases h
  | enter binding decision evidence =>
      simp only [TickPlan.lifecycle, Option.ite_none_right_eq_some, Option.some.injEq] at h
      obtain ⟨hguard, rfl⟩ := h
      have hprocess : (enterAndProtectOnce sha binding input.port decision evidence
          input.nowUtc).run w = (Lifecycle.process sha
            { kind := .entry, binding, side := decision.side, evidence } input.port
            input.nowUtc).run w :=
        Process.run_require_bind hguard _ _ _
      rw [← hprocess]
      exact (sameEnd_entryFailed w).trans (sameEnd_bind_pure _ _ w)
  | exit binding side reason evidence =>
      simp only [TickPlan.lifecycle, Option.ite_none_right_eq_some, Option.some.injEq] at h
      obtain ⟨⟨hstate, hreason⟩, rfl⟩ := h
      have hprocess : (exitOnce sha binding input.port evidence side reason input.nowUtc).run w =
          (Lifecycle.process sha { kind := .exit, binding, side, evidence } input.port
            input.nowUtc).run w := by
        unfold exitOnce
        rw [Process.run_require_bind hstate, Process.run_require_bind hreason]
        rfl
      rw [← hprocess]
      exact sameEnd_bind_pure _ _ w

theorem execute_noLifecycle (h : plan.lifecycle = none) (w : Resident) :
    ((execute sha input plan).run w).2 = w := by
  cases plan with
  | report status => rfl
  | fails e => rfl
  | dies => rfl
  | enter binding decision evidence =>
      have hguard : ¬(evidence.state = .freshFlat ∧
          decision.gateOpen evidence.generationDigest evidence.reviewedFilesDigest = true) := by
        intro hguard
        simp [TickPlan.lifecycle, hguard] at h
      have hrefused : (enterAndProtectOnce sha binding input.port decision evidence
          input.nowUtc).run w = (.raised (g075Error "G075_ENTRY_GATE_NOT_OPEN"), w) :=
        Process.run_require_bind_not hguard _ _ _
      have hend : SameEnd ((execute sha input (.enter binding decision evidence)).run w)
          ((enterAndProtectOnce sha binding input.port decision evidence input.nowUtc).run w) :=
        (sameEnd_entryFailed w).trans (sameEnd_bind_pure _ _ w)
      rw [hend.1, hrefused]
  | exit binding side reason evidence =>
      have hend : SameEnd ((execute sha input (.exit binding side reason evidence)).run w)
          ((exitOnce sha binding input.port evidence side reason input.nowUtc).run w) :=
        sameEnd_bind_pure _ _ w
      rw [hend.1]
      unfold exitOnce
      by_cases hstate : evidence.state = .freshProtected
      · have hreason : ¬(reason = .takeProfit ∨ reason = .stopLoss ∨ reason = .timeExit) := by
          intro hreason
          simp [TickPlan.lifecycle, hstate, hreason] at h
        rw [Process.run_require_bind hstate, Process.run_require_bind_not hreason]
      · rw [Process.run_require_bind_not hstate]

/-- **A plan that begins nothing** leaves the resident as it is. -/
theorem execute_quiet (h : plan.begun = none) (w : Resident) :
    ((execute sha input plan).run w).2 = w := by
  cases hlifecycle : plan.lifecycle with
  | none => exact execute_noLifecycle hlifecycle w
  | some lifecycle =>
      have hrefused : ¬lifecycle.Admitted := by
        intro hadmitted
        simp [TickPlan.begun, hlifecycle, hadmitted] at h
      obtain ⟨e, hrun⟩ :=
        Lifecycle.process_refused sha input.port input.nowUtc hrefused w
      rw [(execute_lifecycle hlifecycle w).1, hrun]

/-- **A plan that begins a lifecycle** has admitted attempts. -/
theorem execute_begun (h : plan.begun = some lifecycle) (w : Resident) :
    lifecycle.Admitted ∧ SameEnd ((execute sha input plan).run w)
      ((lifecycle.process sha input.port input.nowUtc).run w) := by
  obtain ⟨hlifecycle, hadmitted⟩ := Option.filter_eq_some_iff.mp h
  exact ⟨by simpa using hadmitted, execute_lifecycle hlifecycle w⟩

end Execution

section Observations

variable {sha : Sha256} {input : TickInput} {F : Frame StateRoot}

theorem observe_within
    (hcycle : ∀ reconciler, Within F (runReconciliationCycleOnce sha input.generationDigest
      input.reviewedFilesDigest input.cycleId input.nowUtc reconciler)) :
    Within F (observe sha input) := by
  refine (Within.gets _).bind fun root => Within.ite (Within.pure _)
    (Within.ite (Within.pure _) ?_)
  cases hloaded : input.loaded sha root with
  | error e => exact Within.pure _
  | ok loaded =>
      show Within F (reconcileWhenDue sha input loaded)
      unfold reconcileWhenDue
      cases input.reconciler with
      | none => exact Within.pure _
      | some reconciler =>
          refine Within.ite (Within.attempt ?_ fun e => ?_) (Within.pure _)
          · exact (hcycle reconciler).bind fun _ => Within.pure _
          · exact Within.ite (Within.pure _) (Within.raise _)

/-- The evidence on file that a tick acts on without a new cycle. -/
def TickInput.stored (sha : Sha256) (input : TickInput) (root : StateRoot) : Option Evidence :=
  if StateRoot.present root .persistentHalt = true ∨ input.scanClear = false then none
  else
    match input.loaded sha root with
    | .ok evidence => evidence
    | .error _ => none

variable {e evidence : Evidence} {root root' : StateRoot}

theorem TickInput.stored_cycle (h : input.stored sha root = some e) :
    ∃ e', root.files .reconciliation = some (.evidence e') ∧ e.cycleId = e'.cycleId := by
  unfold TickInput.stored TickInput.loaded loadReconciliation at h
  split_ifs at h
  split at h
  case h_2 => cases h
  case h_1 hloaded =>
    subst h
    split at hloaded
    case h_1 => cases hloaded
    case h_2 e' hfile =>
      split_ifs at hloaded <;> cases hloaded <;> exact ⟨_, hfile, rfl⟩
    case h_3 => cases hloaded

def TickInput.newEvidence (sha : Sha256) (input : TickInput) (root : StateRoot) :
    Option Evidence :=
  match input.reconciler with
  | some (.returns snapshot) =>
      if validCycleId input.cycleId = true ∧ NewCycle root input.cycleId ∧
          (validDigest input.generationDigest = true ∧
            validDigest input.reviewedFilesDigest = true) ∧
          snapshotState snapshot ≠ .unknown then
        some (.ofSnapshot sha input.generationDigest input.reviewedFilesDigest input.cycleId
          input.nowUtc snapshot)
      else none
  | _ => none

theorem TickInput.newEvidence_new (h : input.newEvidence sha root = some e) :
    root.files (.reconciliationStarted e.cycleId) = none := by
  unfold TickInput.newEvidence at h
  split at h
  case h_1 =>
    simp only [Option.ite_none_right_eq_some, Option.some.injEq] at h
    obtain ⟨⟨_, hnew, _⟩, rfl⟩ := h
    exact hnew.1
  case h_2 => cases h

/-- **What a tick that is not halted observes**: the evidence on file, the state root
being as it was, or the evidence of a new cycle. -/
theorem observe_returned {observed : Observation}
    (h : (observe sha input).run root = (.returned observed, root'))
    (hclear : observed.halted = false) (he : observed.evidence = some e) :
    (input.stored sha root = some e ∧ observed = { halted := false, evidence := some e } ∧
        root' = root) ∨
      (¬(StateRoot.present root .persistentHalt = true ∨ input.scanClear = false) ∧
        (∃ loaded, input.loaded sha root = .ok loaded ∧
          loaded.all (fun e => decide (e.state = .stale)) = true) ∧
        input.newEvidence sha root = some e ∧
        StateRoot.present root' (.reconciliationStarted e.cycleId) = true) := by
  unfold observe at h
  rw [Process.run_gets_bind] at h
  by_cases hhalt : StateRoot.present root .persistentHalt = true
  · rw [if_pos hhalt] at h
    cases h
    cases hclear
  by_cases hscan : input.scanClear = false
  · rw [if_neg hhalt, if_pos hscan] at h
    cases h
    cases hclear
  rw [if_neg hhalt, if_neg hscan] at h
  have hstored : ∀ loaded, input.loaded sha root = .ok loaded →
      input.stored sha root = loaded := by
    intro loaded hloaded
    simp [TickInput.stored, hhalt, hscan, hloaded]
  cases hloaded : input.loaded sha root with
  | error err =>
      rw [hloaded] at h
      cases h
      cases hclear
  | ok loaded =>
      rw [hloaded] at h
      change (reconcileWhenDue sha input loaded).run root = _ at h
      unfold reconcileWhenDue at h
      cases hreconciler : input.reconciler with
      | none =>
          rw [hreconciler] at h
          cases h
          cases he
          exact Or.inl ⟨hstored _ hloaded, rfl, rfl⟩
      | some reconciler =>
          rw [hreconciler] at h
          dsimp only at h
          split at h
          case isFalse hfresh =>
            cases h
            cases he
            exact Or.inl ⟨hstored _ hloaded, rfl, rfl⟩
          case isTrue hdue =>
            rw [Process.run_attempt, Process.run_bind] at h
            rcases hcycle : (runReconciliationCycleOnce sha input.generationDigest
              input.reviewedFilesDigest input.cycleId input.nowUtc reconciler).run root with
              ⟨o, stored⟩
            rw [hcycle] at h
            cases o with
            | returned evidence =>
                cases h
                cases he
                obtain ⟨hvalid, hnew, ⟨snapshot, rfl, hdigests, hstate, rfl⟩, hbegun⟩ :=
                  runReconciliationCycleOnce_returned hcycle
                refine Or.inr ⟨not_or.mpr ⟨hhalt, hscan⟩, ⟨loaded, rfl, hdue⟩, ?_, hbegun⟩
                simp [TickInput.newEvidence, hreconciler, hvalid, hnew, hdigests, hstate]
            | raised err =>
                dsimp only at h
                unfold reconciliationRefused at h
                split at h
                · cases h
                  cases hclear
                · cases h
            | killed => cases h

variable {lifecycle : Lifecycle}

theorem exitPlan_lifecycle (h : (exitPlan input evidence).lifecycle = some lifecycle) :
    lifecycle.evidence = evidence := by
  unfold exitPlan at h
  split_ifs at h
  · cases h
  · split at h
    case h_2 reason binding _ _ =>
      split at h
      case h_1 side _ =>
        split_ifs at h
        · simp only [TickPlan.lifecycle, Option.ite_none_right_eq_some, Option.some.injEq] at h
          rw [← h.2]
        · cases h
      case h_2 => cases h
    all_goals cases h

theorem entryPlan_lifecycle (h : (entryPlan input evidence).lifecycle = some lifecycle) :
    lifecycle.evidence = evidence := by
  unfold entryPlan at h
  split at h
  case h_4 decision _ =>
    split_ifs at h
    · cases h
    · cases h
    · split at h
      · cases h
      · simp only [TickPlan.lifecycle, Option.ite_none_right_eq_some, Option.some.injEq] at h
        rw [← h.2]
  case h_3 => split_ifs at h <;> cases h
  all_goals cases h

theorem tickPlan_begun {observed : Observation} {capability : Bool}
    (h : (tickPlan input observed capability).begun = some lifecycle) :
    observed.halted = false ∧ observed.evidence = some lifecycle.evidence := by
  obtain ⟨hlifecycle, _⟩ := Option.filter_eq_some_iff.mp h
  unfold tickPlan at hlifecycle
  split at hlifecycle
  case isTrue hhealth => cases hlifecycle
  case isFalse hhealth =>
    simp only [not_or] at hhealth
    refine ⟨by simpa using hhealth.1, ?_⟩
    cases hevidence : observed.evidence with
    | none =>
        rw [hevidence] at hlifecycle
        dsimp only at hlifecycle
        split_ifs at hlifecycle <;> cases hlifecycle
    | some evidence =>
        rw [hevidence] at hlifecycle
        dsimp only at hlifecycle
        split_ifs at hlifecycle
        · cases hlifecycle
        · rw [exitPlan_lifecycle hlifecycle]
        · cases hlifecycle
        · cases hlifecycle
        · rw [entryPlan_lifecycle hlifecycle]
        · cases hlifecycle

theorem recordTick_grows : Within Disk.grows recordTick :=
  atomicJson_grows.bind fun _ => atomicJson_grows.bind fun _ => atomicJson_grows.bind fun _ =>
    (Within.gets _).bind fun _ => (Within.require _ _).bind fun _ => atomicJson_grows

def StateFile.OfRecord (file : StateFile) : Prop :=
  file = .runtimeStatus ∨ file = .heartbeat ∨ file = .deadMan ∨ file = .heartbeatChain

theorem recordTick_keepsFile {file : StateFile} (h : ¬file.OfRecord) :
    Within (Disk.keepsFile file) recordTick := by
  simp only [StateFile.OfRecord, not_or] at h
  obtain ⟨hstatus, hheartbeat, hdead, hchain⟩ := h
  exact (atomicJson_keepsFile hstatus).bind fun _ => (atomicJson_keepsFile hheartbeat).bind
    fun _ => (atomicJson_keepsFile hdead).bind fun _ => (Within.gets _).bind fun _ =>
      (Within.require _ _).bind fun _ => atomicJson_keepsFile hchain

/-- **The parts of a tick.** What holds behind the observation, and behind the plan and
the files at the end when the observation returns, holds of the end of the tick. -/
theorem tick_ends {Q : Resident → Prop} {w : Resident}
    (hobserved : Q { w with root := ((observe sha input).run w.root).2 })
    (hreturned : ∀ observed root, (observe sha input).run w.root = (.returned observed, root) →
      Q ((execute sha input (tickPlan input observed
        (capabilityValid sha input.generationDigest input.reviewedFilesDigest input.scanClear
          root))).run { w with root }).2)
    (hrecord : ∀ w, Q w → Q { w with root := (recordTick.run w.root).2 }) :
    Q ((tick sha input).run w).2 := by
  unfold tick
  refine Process.run_bind_ends (fun observed w₁ hobserve => ?_) hobserved
  obtain ⟨root, hroot, rfl⟩ : ∃ root, (observe sha input).run w.root =
      (.returned observed, root) ∧ w₁ = { w with root } := by
    rw [run_onRoot] at hobserve
    obtain ⟨houtcome, hroot⟩ := Prod.mk.inj hobserve
    exact ⟨_, Prod.ext houtcome rfl, hroot.symm⟩
  rw [Process.run_gets_bind]
  have hplan := hreturned observed root hroot
  refine Process.run_bind_ends (fun status w₂ hexecute => ?_) hplan
  rw [hexecute] at hplan
  have hend := hrecord w₂ hplan
  refine Process.run_bind_ends (fun u w₃ hrecorded => ?_) hend
  rw [run_onRoot] at hrecorded
  rw [← (Prod.mk.inj hrecorded).2]
  exact hend

end Observations

end FxStrategyLab.G075
