import FxStrategyLab.Unattended.BoundedRun

/-!
# The scheduled launcher

This file embeds `_run_one_tick` and `main` of `h11_auto_v4_unattended_live_scheduled_launcher.py`.
What the tick calls outside is given by its results.  The tick imports the monitor supervisor
in the branch of generation `G063` only, which makes the name a local of the whole function: the
resident branch reads it unbound.  The blanket clause around that branch writes the persistent
halt, and the main loop ends with the status of the tick.

**Results.** `residentBody_raises`: the resident branch ends where it reads the name.
-/

namespace FxStrategyLab.Launcher

open Library.Calls

/-- Source `V4GmoMonitorTick`, as far as the launcher reads it. -/
structure V4GmoMonitorTick where
  persistentHalt : Bool
  runtimeRiskReady : Bool
  deadManAlive : Bool
  heartbeatChainBeat : Bool
  brokerWrite : Bool
  actualPostCount : Nat
  processLockClear : Bool
  unknownHalt : Bool
  entryGateOpen : Bool

structure ArmCheck where
  armed : Bool
  blockedReasons : List String

/-- What the arm-off path reads of the position evidence. -/
structure PositionReconciliation where
  evidenceAvailable : Bool
  generationBound : Bool
  positionOpen : Bool

/-- The supervisor's heartbeat of the runtime-only generations, as the launcher checks it. -/
structure SupervisorHeartbeat where
  generationDigest : String
  runtimeRiskReady : Bool
  deadManAlive : Bool
  heartbeatChainBeat : Bool
  brokerWrite : Bool
  actualPostCount : Nat
  ageSeconds : ℚ
  supervisorIsRunning : Bool

/-- The completion marker of the `G063` bootstrap. -/
inductive BootstrapMarker
  | symlink
  | absent
  | found (statusComplete filesPresent : Bool)

/-- The results of what a tick calls. -/
structure TickWorld where
  bakedDigests : Except PyException V4GmoFrozenGeneration
  bindingHaltLatched : Bool
  supervisorInit : Except PyException Unit
  supervisorAcquire : Except PyException Unit
  bootstrapMarker : Except PyException BootstrapMarker
  monitorTick : Except PyException V4GmoMonitorTick
  writeOnceMarker : Except PyException Unit
  verifyContract : Except PyException Unit
  materializePosition : Except PyException Unit
  verifyActivation : Except PyException Unit
  writeHalt : Except PyException Unit
  g038Activation : Except PyException Unit
  armCheck : Except PyException ArmCheck
  runtimeOnlyCompletion : Except PyException SupervisorHeartbeat
  lockAcquired : Except PyException Bool
  armOffMaterialize : Except PyException Unit
  writeLease : Except PyException Unit
  loadPosition : Except PyException PositionReconciliation
  clearLease : Except PyException Unit
  writeExitOnly : Except PyException Unit
  runExitOnly : Except PyException Unit
  prepareSession : Except PyException V4GmoFrozenGeneration
  openStores : Except PyException Unit
  connectTransports : Except PyException Unit
  cycle : CycleInput

/-- The class that the tick imports by name. -/
inductive SupervisorClass
  | v4GmoMonitorSupervisor

structure TickLocals where
  v4GmoMonitorSupervisor : Option SupervisorClass := none

def readLocal {α : Type} (name : String) (slot : Option α) : PyCall α :=
  match slot with
  | some value => pure value
  | none => throw (.unboundLocalError name)

def statusLine (label : String) : String :=
  "status=" ++ label ++ " broker_write=false actual_post_count=0"

def writePersistentHalt (world : TickWorld) : PyCall Unit := do
  outcome world.writeHalt
  modify fun machine => { machine with haltWritten := true }

/-- The path after a failed check of the baked digests. -/
def afterBindingFailure (latched : Bool) : PyCall Int := do
  if latched then
    modify fun machine => { machine with haltWritten := true }
    printStatus (statusLine "G064_RESIDENT_RUNTIME_HALTED")
  else printStatus (statusLine "G064_RESIDENT_RUNTIME_HALT_NOT_WRITTEN")
  pure 2

/-- What the `G063` bootstrap does under its lock: the status line that it ends with. -/
def bootstrapUnderLock (world : TickWorld) : PyCall String := do
  match ← outcome world.bootstrapMarker with
  | .symlink => pure "G063_NO_POST_RUNTIME_BOOTSTRAP_NOT_CLEAR"
  | .found statusComplete filesPresent =>
      if statusComplete && filesPresent then
        pure ("G063_NO_POST_RUNTIME_BOOTSTRAP_ALREADY_COMPLETED " ++
          "live_ready=false unattended_live_supported=false")
      else pure "G063_NO_POST_RUNTIME_BOOTSTRAP_NOT_CLEAR"
  | .absent =>
      let tick ← outcome world.monitorTick
      if !tick.brokerWrite && tick.actualPostCount = 0 then
        outcome world.writeOnceMarker
        pure ("G063_NO_POST_RUNTIME_BOOTSTRAP_COMPLETED " ++
          "live_ready=false unattended_live_supported=false")
      else pure "G063_NO_POST_RUNTIME_BOOTSTRAP_NOT_CLEAR"

/-- The branch of a generation that is not commissioned.  It imports the supervisor. -/
def uncommissioned (world : TickWorld) (generation : V4GmoFrozenGeneration) : PyCall Int := do
  if generation.generationLabel = "H11_AUTO_30M_20260731_G063" then
    let locals : TickLocals := { v4GmoMonitorSupervisor := some .v4GmoMonitorSupervisor }
    let _ ← readLocal "V4GmoMonitorSupervisor" locals.v4GmoMonitorSupervisor
    outcome world.supervisorInit
    let status ← attempt
      (do
        outcome world.supervisorAcquire
        bootstrapUnderLock world)
      PyException.isException
      fun _ => pure "G063_NO_POST_RUNTIME_BOOTSTRAP_NOT_CLEAR"
    printStatus (statusLine status)
    pure 0
  else
    printStatus (statusLine "UNATTENDED_SCHEDULER_GENERATION_NOT_COMMISSIONED")
    pure 0

def safeLabel (generation : V4GmoFrozenGeneration) : String :=
  if generation.generationLabel = g065GenerationLabel then "G065" else "G064"

/-- The exception that the halt of a resident generation may end in. -/
def activationError (generation : V4GmoFrozenGeneration) : PyException :=
  if generation.generationLabel = g065GenerationLabel then .v4G065ActivationError
  else .v4G064ActivationError

def haltResident (world : TickWorld) (generation : V4GmoFrozenGeneration) : PyCall Int := do
  let written ← attempt
    (do
      writePersistentHalt world
      pure true)
    (fun e => e = activationError generation) fun _ => pure false
  if written then printStatus (statusLine (safeLabel generation ++ "_RESIDENT_RUNTIME_NOT_CLEAR"))
  else printStatus (statusLine (safeLabel generation ++ "_RESIDENT_RUNTIME_HALT_NOT_WRITTEN"))
  pure 2

/-- The body of the `try` of the resident branch, with the locals of the tick. -/
def residentBody (world : TickWorld) (generation : V4GmoFrozenGeneration)
    (locals : TickLocals) : PyCall V4GmoMonitorTick := do
  outcome world.verifyContract
  let _ ← readLocal "V4GmoMonitorSupervisor" locals.v4GmoMonitorSupervisor
  outcome world.supervisorInit
  onlyIf (generation.generationLabel = g065GenerationLabel) (outcome world.materializePosition)
  outcome world.supervisorAcquire
  let residentTick ← outcome world.monitorTick
  outcome world.verifyActivation
  pure residentTick

def residentFlagsClear (tick : V4GmoMonitorTick) : Bool :=
  !tick.brokerWrite && tick.actualPostCount = 0 && tick.runtimeRiskReady && tick.deadManAlive &&
    tick.heartbeatChainBeat && tick.processLockClear

def residentMonitor (world : TickWorld) (generation : V4GmoFrozenGeneration)
    (locals : TickLocals) : PyCall (Int ⊕ V4GmoMonitorTick) := do
  let result ← attempt
    (do
      let tick ← residentBody world generation locals
      pure (Sum.inr tick))
    PyException.isException
    fun _ => do
      let status ← haltResident world generation
      pure (Sum.inl status)
  match result with
  | .inl status => pure (.inl status)
  | .inr tick =>
      if residentFlagsClear tick then pure (.inr tick)
      else
        let status ← haltResident world generation
        pure (.inl status)

/-- The generations whose runtime evidence is checked before a session. -/
def runtimeOnlyLabels : List String :=
  ["H11_AUTO_30M_20260729_G040", "H11_AUTO_30M_20260729_G041", "H11_AUTO_30M_20260730_G047",
    "H11_AUTO_30M_20260730_G048", "H11_AUTO_30M_20260730_G049", "H11_AUTO_30M_20260730_G050",
    "H11_AUTO_30M_20260730_G051", "H11_AUTO_30M_20260730_G052", "H11_AUTO_30M_20260730_G053",
    "H11_AUTO_30M_20260730_G054", "H11_AUTO_30M_20260730_G055", "H11_AUTO_30M_20260730_G056"]

def runtimeNotClear : PyException → Bool
  | .v4ActualPreparationGuardError => true
  | .osError => true
  | .keyError => true
  | .typeError => true
  | .valueError => true
  | _ => false

def runtimeClear (generation : V4GmoFrozenGeneration) (heartbeat : SupervisorHeartbeat) : Bool :=
  heartbeat.generationDigest = generation.digest && heartbeat.runtimeRiskReady &&
    heartbeat.deadManAlive && heartbeat.heartbeatChainBeat && !heartbeat.brokerWrite &&
    heartbeat.actualPostCount = 0 && 0 ≤ heartbeat.ageSeconds && heartbeat.ageSeconds ≤ 60 &&
    heartbeat.supervisorIsRunning

def armOff (world : TickWorld) (generation : V4GmoFrozenGeneration) (preheld : Bool) :
    PyCall Int := do
  onlyIf (generation.generationLabel = g065GenerationLabel) (outcome world.armOffMaterialize)
  outcome world.writeLease
  let position ← outcome world.loadPosition
  if !position.evidenceAvailable || !position.generationBound then do
    onlyIf (!preheld) (outcome world.clearLease)
    throw (.v4GmoG013CanaryError (safeLabel generation ++ "_POSITION_EVIDENCE_NOT_CLEAR"))
  else do
    outcome world.writeExitOnly
    onlyIf position.positionOpen (outcome world.runExitOnly)
    printStatus (statusLine
      (safeLabel generation ++ "_ARM_OFF_EXIT_ONLY_MONITORING_NO_POST entry_gate_open=false"))
    onlyIf (!preheld) (outcome world.clearLease)
    pure 0

def prepareCanarySession (world : TickWorld) : PyCall (Int ⊕ V4GmoFrozenGeneration) :=
  attempt
    (do
      let session ← outcome world.prepareSession
      pure (Sum.inr session))
    (fun e =>
      match e with
      | .v4GmoG013CanaryError _ => true
      | .v4GmoFormalCanarySourceError label => label = "G013_FORMAL_SIGNAL_STAY"
      | _ => false)
    fun e => do
      match e with
      | .v4GmoG013CanaryError label =>
          printStatus ("status=UNATTENDED_SCHEDULER_TICK_NOT_YET reason_label=" ++ label)
      | _ =>
          printStatus (statusLine
            "UNATTENDED_SCHEDULER_TICK_NOT_YET reason_label=G013_FORMAL_SIGNAL_STAY")
      pure (Sum.inl 0)

def boundedTick (world : TickWorld) (generation session : V4GmoFrozenGeneration)
    (arm : ArmCheck) (preheld : Bool) : PyCall Int := do
  let resident := isResidentLabel generation.generationLabel
  outcome world.openStores
  onlyIf (!resident) (outcome world.connectTransports)
  onlyIf resident (outcome world.writeLease)
  ensuring (boundedRunMain session arm.armed [world.cycle])
    (onlyIf (resident && !preheld) (outcome world.clearLease))

def underLock (world : TickWorld) (generation : V4GmoFrozenGeneration) (arm : ArmCheck)
    (preheld : Bool) : PyCall Int := do
  if isResidentLabel generation.generationLabel && !arm.armed then
    armOff world generation preheld
  else
    match ← prepareCanarySession world with
    | .inl status => pure status
    | .inr session => boundedTick world generation session arm preheld

/-- The part of a tick behind its runtime evidence. -/
def withLock (world : TickWorld) (generation : V4GmoFrozenGeneration) (arm : ArmCheck)
    (preheld : Bool) : PyCall Int := do
  if preheld then underLock world generation arm preheld
  else
    if ← outcome world.lockAcquired then underLock world generation arm preheld
    else
      printStatus "status=UNATTENDED_SCHEDULER_TICK_SKIPPED_LOCK_HELD"
      pure 0

def runtimeEvidenceClear (world : TickWorld) (generation : V4GmoFrozenGeneration) :
    PyCall Bool :=
  if generation.generationLabel ∈ runtimeOnlyLabels then
    attempt
      (do
        let heartbeat ← outcome world.runtimeOnlyCompletion
        pure (runtimeClear generation heartbeat))
      runtimeNotClear fun _ => pure false
  else pure true

/-- The tick from the arm check on; a resident generation brings its monitor tick. -/
def fromArmCheck (world : TickWorld) (generation : V4GmoFrozenGeneration)
    (residentTick : Option V4GmoMonitorTick) (preheld : Bool) : PyCall Int := do
  modify fun machine => { machine with armChecked := true }
  let arm ← outcome world.armCheck
  let resident := isResidentLabel generation.generationLabel
  let gateClosed :=
    match residentTick with
    | none => true
    | some tick => tick.persistentHalt || tick.unknownHalt || (arm.armed && !tick.entryGateOpen)
  if !arm.armed && !resident then
    printStatus (statusLine ("UNATTENDED_SCHEDULER_TICK_DISARMED reason_label=" ++
      arm.blockedReasons.headD "OPERATOR_DISARMED"))
    pure 0
  else if resident && gateClosed then
    printStatus (statusLine (safeLabel generation ++ "_ENTRY_GATE_CLOSED"))
    pure 0
  else
    if ← runtimeEvidenceClear world generation then withLock world generation arm preheld
    else
      printStatus (statusLine "UNATTENDED_SCHEDULER_RUNTIME_NOT_CLEAR")
      pure 0

/-- The activation of a generation that is not resident: whether the tick may go on. -/
def legacyActivation (world : TickWorld) : PyCall Bool :=
  attempt
    (do
      outcome world.g038Activation
      pure true)
    (fun e => e = .v4G038ActivationError) fun _ => pure false

/-- Source `_run_one_tick`, behind the check of the baked digests.  Only the branch of `G063`
binds the supervisor. -/
def tickOfGeneration (world : TickWorld) (preheld : Bool) (generation : V4GmoFrozenGeneration) :
    PyCall Int := do
  let locals : TickLocals := {}
  if !generation.liveReady || !generation.unattendedLiveSupported then
    uncommissioned world generation
  else if isResidentLabel generation.generationLabel then
    match ← residentMonitor world generation locals with
    | .inl status => pure status
    | .inr tick => fromArmCheck world generation (some tick) preheld
  else
    if ← legacyActivation world then fromArmCheck world generation none preheld
    else
      printStatus (statusLine "UNATTENDED_SCHEDULER_ACTIVATION_EVIDENCE_NOT_CLEAR")
      pure 0

def runOneTick (world : TickWorld) (preheld : Bool) : PyCall Int :=
  match world.bakedDigests with
  | .ok generation => tickOfGeneration world preheld generation
  | .error e => if e.isException then afterBindingFailure world.bindingHaltLatched else throw e

/-- The end of `main`: an exit status, or still in the loop. -/
inductive MainEnd
  | exited (status : Int)
  | running

/-- The handler of the main loop: it writes the halt, and its activation errors end it too. -/
def haltMain (world : TickWorld) (generation : V4GmoFrozenGeneration) : PyCall MainEnd := do
  let written ← attempt
    (do
      writePersistentHalt world
      pure true)
    (fun e => e = .v4G064ActivationError ∨ e = .v4G065ActivationError) fun _ => pure false
  printStatus (statusLine (safeLabel generation ++
    if written then "_RESIDENT_RUNTIME_HALTED" else "_RESIDENT_RUNTIME_HALT_NOT_WRITTEN"))
  pure (.exited 2)

/-- One pass of the loop of `main`: it ends, or goes on to the next tick. -/
def mainPass (generation : V4GmoFrozenGeneration) (world : TickWorld) : PyCall MainEnd :=
  attempt
    (do
      let status ← runOneTick world true
      if status = 0 then pure .running else pure (.exited status))
    (fun _ => true)
    fun _ => haltMain world generation

/-- The loop of `main`, over what its ticks meet. -/
def mainLoop (generation : V4GmoFrozenGeneration) : List TickWorld → PyCall MainEnd
  | [] => pure .running
  | world :: worlds => do
      match ← mainPass generation world with
      | .exited status => pure (.exited status)
      | .running => mainLoop generation worlds

/-- What `main` meets before its loop, and the clearing of its lease. -/
structure MainWorld where
  bakedDigests : Except PyException V4GmoFrozenGeneration
  bindingHaltLatched : Bool
  lockAcquired : Except PyException Bool
  clearLease : Except PyException Unit

/-- Source `main`: a resident generation is ticked in a loop, another one once. -/
def main (start : MainWorld) (ticks : List TickWorld) : PyCall MainEnd := do
  match start.bakedDigests with
  | .error e =>
      if e.isException then
        let status ← afterBindingFailure start.bindingHaltLatched
        pure (.exited status)
      else throw e
  | .ok generation =>
      if isResidentLabel generation.generationLabel then
        if ← outcome start.lockAcquired then
          ensuring (mainLoop generation ticks) (outcome start.clearLease)
        else
          printStatus (statusLine "G064_RESIDENT_WORKER_LOCK_HELD")
          pure (.exited 0)
      else
        match ticks with
        | [] => pure .running
        | world :: _ => do
            let status ← runOneTick world false
            pure (.exited status)

/-- **The unbound name.** A resident tick whose contract verifies ends where it reads the
supervisor. -/
theorem residentBody_raises {world : TickWorld} (h : world.verifyContract = .ok ())
    (generation : V4GmoFrozenGeneration) (machine : Machine) :
    residentBody world generation {} machine =
      .error (.unboundLocalError "V4GmoMonitorSupervisor") machine := by
  unfold residentBody outcome
  rw [h]
  rfl

end FxStrategyLab.Launcher
