import FxStrategyLab.Unattended.Launcher

/-!
# Halts of the resident launcher

A resident generation that is ready, whose verifications and whose monitor tick succeed, gives
the launcher no cause to halt.  The tick halts nevertheless, in front of its arm check, the main
loop does not go on, and no session of any generation is evaluated.

**Results.**

* `main_evaluates_nothing`: no run of the launcher evaluates a cycle.
* `halts_without_cause`.
-/

namespace FxStrategyLab.Launcher

open Library.Calls

/-- A tick of a resident generation that is ready, with nothing that is a cause to halt. -/
structure ClearTick (world : TickWorld) (generation : V4GmoFrozenGeneration) : Prop where
  baked : world.bakedDigests = .ok generation
  resident : isResidentLabel generation.generationLabel = true
  liveReady : generation.liveReady = true
  supported : generation.unattendedLiveSupported = true
  contract : world.verifyContract = .ok ()
  supervisor : world.supervisorInit = .ok ()
  acquired : world.supervisorAcquire = .ok ()
  position : world.materializePosition = .ok ()
  ready : ∃ tick, world.monitorTick = .ok tick ∧ residentFlagsClear tick = true
  activation : world.verifyActivation = .ok ()

def ReachesArmCheck (world : TickWorld) (preheld : Bool) : Prop :=
  (stateAfter (runOneTick world preheld) {}).armChecked = true ∧
    (stateAfter (runOneTick world preheld) {}).haltWritten = false

def SessionEvaluated (session : V4GmoFrozenGeneration) (reasons : List String)
    (armIntent : Bool) (entryCycle : Except PyException CycleOutcome) : Prop :=
  0 < (stateAfter (runOneCycle session reasons armIntent entryCycle) {}).cyclesEvaluated

def GoesOn (generation : V4GmoFrozenGeneration) (world : TickWorld) : Prop :=
  ∃ machine, mainPass generation world {} = .ok .running machine

section Keeping

variable {P : Machine → Prop}

/-- The property reads neither the printed lines, nor the halt, nor the arm check. -/
structure Untouched (P : Machine → Prop) : Prop where
  printed : ∀ machine status, P machine → P { machine with printed := machine.printed ++ [status] }
  halted : ∀ machine, P machine → P { machine with haltWritten := true }
  checked : ∀ machine, P machine → P { machine with armChecked := true }

theorem printStatus_keeps (h : Untouched P) (status : String) : Keeps P (printStatus status) :=
  keeps_modify fun machine hmachine => h.printed machine status hmachine

theorem writePersistentHalt_keeps (h : Untouched P) (world : TickWorld) :
    Keeps P (writePersistentHalt world) :=
  keeps_bind (keeps_outcome _) fun _ => keeps_modify h.halted

theorem afterBindingFailure_keeps (h : Untouched P) (latched : Bool) :
    Keeps P (afterBindingFailure latched) := by
  unfold afterBindingFailure
  cases latched with
  | true =>
      exact keeps_bind (keeps_modify h.halted) fun _ =>
        keeps_bind (printStatus_keeps h _) fun _ => keeps_pure 2
  | false => exact keeps_bind (printStatus_keeps h _) fun _ => keeps_pure 2

theorem uncommissioned_keeps (h : Untouched P) (world : TickWorld)
    (generation : V4GmoFrozenGeneration) : Keeps P (uncommissioned world generation) := by
  have hbootstrap : Keeps P (bootstrapUnderLock world) := by
    refine keeps_bind (keeps_outcome _) fun marker => ?_
    cases marker with
    | symlink => exact keeps_pure _
    | absent =>
        refine keeps_bind (keeps_outcome _) fun tick => ?_
        exact keeps_ite (keeps_bind (keeps_outcome _) fun _ => keeps_pure _) (keeps_pure _)
    | found statusComplete filesPresent => exact keeps_ite (keeps_pure _) (keeps_pure _)
  unfold uncommissioned
  refine keeps_ite ?_ (keeps_bind (printStatus_keeps h _) fun _ => keeps_pure 0)
  refine keeps_bind (keeps_pure _) fun _ => keeps_bind (keeps_outcome _) fun _ => ?_
  refine keeps_bind (keeps_attempt ?_ fun _ => keeps_pure _) fun status =>
    keeps_bind (printStatus_keeps h _) fun _ => keeps_pure 0
  exact keeps_bind (keeps_outcome _) fun _ => hbootstrap

theorem haltResident_keeps (h : Untouched P) (world : TickWorld)
    (generation : V4GmoFrozenGeneration) : Keeps P (haltResident world generation) := by
  unfold haltResident
  refine keeps_bind (keeps_attempt ?_ fun _ => keeps_pure _) fun written => ?_
  · exact keeps_bind (writePersistentHalt_keeps h world) fun _ => keeps_pure _
  · cases written <;> exact keeps_bind (printStatus_keeps h _) fun _ => keeps_pure 2

theorem residentMonitor_keeps (h : Untouched P) (world : TickWorld)
    (generation : V4GmoFrozenGeneration) (locals : TickLocals) :
    Keeps P (residentMonitor world generation locals) := by
  have hbody : Keeps P (residentBody world generation locals) := by
    unfold residentBody
    refine keeps_bind (keeps_outcome _) fun _ => ?_
    refine keeps_bind ?_ fun _ => keeps_bind (keeps_outcome _) fun _ => ?_
    · unfold readLocal
      split
      · exact keeps_pure _
      · exact keeps_throw _
    · exact keeps_bind (keeps_onlyIf (keeps_outcome _)) fun _ => keeps_bind (keeps_outcome _)
        fun _ => keeps_bind (keeps_outcome _) fun tick => keeps_bind (keeps_outcome _)
          fun _ => keeps_pure tick
  unfold residentMonitor
  refine keeps_bind (keeps_attempt (keeps_bind hbody fun tick => keeps_pure _) fun _ =>
    keeps_bind (haltResident_keeps h world generation) fun status => keeps_pure _) fun result => ?_
  cases result with
  | inl status => exact keeps_pure _
  | inr tick =>
      exact keeps_ite (keeps_pure _)
        (keeps_bind (haltResident_keeps h world generation) fun status => keeps_pure _)

theorem armOff_keeps (h : Untouched P) (world : TickWorld) (generation : V4GmoFrozenGeneration)
    (preheld : Bool) : Keeps P (armOff world generation preheld) := by
  unfold armOff
  refine keeps_bind (keeps_onlyIf (keeps_outcome _)) fun _ => keeps_bind (keeps_outcome _)
    fun _ => keeps_bind (keeps_outcome _) fun position => keeps_ite ?_ ?_
  · exact keeps_bind (keeps_onlyIf (keeps_outcome _)) fun _ => keeps_throw _
  · refine keeps_bind (keeps_outcome _) fun _ => keeps_bind (keeps_onlyIf (keeps_outcome _))
      fun _ => keeps_bind (printStatus_keeps h _) fun _ => ?_
    exact keeps_bind (keeps_onlyIf (keeps_outcome _)) fun _ => keeps_pure 0

theorem underLock_keeps (h : Untouched P) (world : TickWorld)
    (generation : V4GmoFrozenGeneration) (arm : ArmCheck) (preheld : Bool) :
    Keeps P (underLock world generation arm preheld) := by
  unfold underLock
  refine keeps_ite (armOff_keeps h world generation preheld) (keeps_bind ?_ fun result => ?_)
  · unfold prepareCanarySession
    refine keeps_attempt (keeps_bind (keeps_outcome _) fun _ => keeps_pure _) fun e => ?_
    split
    · exact keeps_bind (printStatus_keeps h _) fun _ => keeps_pure _
    · exact keeps_bind (printStatus_keeps h _) fun _ => keeps_pure _
  · cases result with
    | inl status => exact keeps_pure status
    | inr session =>
        unfold boundedTick
        exact keeps_bind (keeps_outcome _) fun _ => keeps_bind (keeps_onlyIf (keeps_outcome _))
          fun _ => keeps_bind (keeps_onlyIf (keeps_outcome _)) fun _ => keeps_ensuring
            (boundedRunMain_keeps h.printed session arm.armed [world.cycle])
            (keeps_onlyIf (keeps_outcome _))

theorem fromArmCheck_keeps (h : Untouched P) (world : TickWorld)
    (generation : V4GmoFrozenGeneration) (residentTick : Option V4GmoMonitorTick)
    (preheld : Bool) : Keeps P (fromArmCheck world generation residentTick preheld) := by
  have hclear : Keeps P (runtimeEvidenceClear world generation) := by
    unfold runtimeEvidenceClear
    exact keeps_ite (keeps_attempt (keeps_bind (keeps_outcome _) fun _ => keeps_pure _)
      fun _ => keeps_pure _) (keeps_pure _)
  unfold fromArmCheck
  refine keeps_bind (keeps_modify h.checked) fun _ => keeps_bind (keeps_outcome _) fun arm => ?_
  refine keeps_ite (keeps_bind (printStatus_keeps h _) fun _ => keeps_pure _)
    (keeps_ite (keeps_bind (printStatus_keeps h _) fun _ => keeps_pure _)
      (keeps_bind hclear fun clear => keeps_ite ?_
        (keeps_bind (printStatus_keeps h _) fun _ => keeps_pure _)))
  unfold withLock
  exact keeps_ite (underLock_keeps h world generation arm preheld)
    (keeps_bind (keeps_outcome _) fun acquired =>
      keeps_ite (underLock_keeps h world generation arm preheld)
        (keeps_bind (printStatus_keeps h _) fun _ => keeps_pure _))

theorem runOneTick_keeps (h : Untouched P) (world : TickWorld) (preheld : Bool) :
    Keeps P (runOneTick world preheld) := by
  unfold runOneTick
  cases world.bakedDigests with
  | error e => exact keeps_ite (afterBindingFailure_keeps h _) (keeps_throw _)
  | ok generation =>
      unfold tickOfGeneration
      refine keeps_ite (uncommissioned_keeps h world generation) (keeps_ite ?_ ?_)
      · refine keeps_bind (residentMonitor_keeps h world generation {}) fun result => ?_
        cases result with
        | inl status => exact keeps_pure status
        | inr tick => exact fromArmCheck_keeps h world generation (some tick) preheld
      · refine keeps_bind ?_ fun clear => keeps_ite
          (fromArmCheck_keeps h world generation none preheld)
          (keeps_bind (printStatus_keeps h _) fun _ => keeps_pure _)
        exact keeps_attempt (keeps_bind (keeps_outcome _) fun _ => keeps_pure _)
          fun _ => keeps_pure _

theorem mainLoop_keeps (h : Untouched P) (generation : V4GmoFrozenGeneration)
    (worlds : List TickWorld) : Keeps P (mainLoop generation worlds) := by
  induction worlds with
  | nil => exact keeps_pure _
  | cons world worlds ih =>
      unfold mainLoop
      refine keeps_bind ?_ fun ending => ?_
      · refine keeps_attempt (keeps_bind (runOneTick_keeps h world true) fun status =>
          keeps_ite (keeps_pure _) (keeps_pure _)) fun _ => ?_
        unfold haltMain
        refine keeps_bind (keeps_attempt (keeps_bind (writePersistentHalt_keeps h world)
          fun _ => keeps_pure _) fun _ => keeps_pure _) fun written =>
            keeps_bind (printStatus_keeps h _) fun _ => keeps_pure _
      · cases ending with
        | exited status => exact keeps_pure _
        | running => exact ih

theorem main_keeps (h : Untouched P) (start : MainWorld) (ticks : List TickWorld) :
    Keeps P (main start ticks) := by
  unfold main
  cases start.bakedDigests with
  | error e =>
      exact keeps_ite (keeps_bind (afterBindingFailure_keeps h _) fun _ => keeps_pure _)
        (keeps_throw _)
  | ok generation =>
      refine keeps_ite (keeps_bind (keeps_outcome _) fun acquired => keeps_ite
        (keeps_ensuring (mainLoop_keeps h generation ticks) (keeps_outcome _))
        (keeps_bind (printStatus_keeps h _) fun _ => keeps_pure _)) ?_
      cases ticks with
      | nil => exact keeps_pure _
      | cons world worlds =>
          exact keeps_bind (runOneTick_keeps h world false) fun _ => keeps_pure _

end Keeping

/-- **No run evaluates a cycle.** Whatever a run of the launcher meets, no session reaches the
evaluation of its cycle. -/
theorem main_evaluates_nothing (start : MainWorld) (ticks : List TickWorld) :
    (stateAfter (main start ticks) {}).cyclesEvaluated = 0 :=
  main_keeps (P := fun machine => machine.cyclesEvaluated = 0)
    { printed := fun _ _ h => h
      halted := fun _ h => h
      checked := fun _ h => h } start ticks {} rfl

theorem haltResident_cases (world : TickWorld) (generation : V4GmoFrozenGeneration)
    (machine : Machine) :
    (world.writeHalt = .ok () ∧ haltResident world generation machine =
      .ok 2 { machine with
        haltWritten := true
        printed := machine.printed ++
          [statusLine (safeLabel generation ++ "_RESIDENT_RUNTIME_NOT_CLEAR")] }) ∨
    (world.writeHalt ≠ .ok () ∧ haltResident world generation machine =
      .ok 2 { machine with
        printed := machine.printed ++
          [statusLine (safeLabel generation ++ "_RESIDENT_RUNTIME_HALT_NOT_WRITTEN")] }) ∨
    (world.writeHalt ≠ .ok () ∧ ∃ e, haltResident world generation machine =
      .error e machine) := by
  cases hwrite : world.writeHalt with
  | ok value =>
      refine Or.inl ⟨rfl, ?_⟩
      unfold haltResident writePersistentHalt outcome
      rw [hwrite]
      rfl
  | error e =>
      right
      have hbody : (do
          writePersistentHalt world
          pure true : PyCall Bool) machine = .error e machine := by
        unfold writePersistentHalt outcome
        rw [hwrite]
        rfl
      by_cases hcaught : e = activationError generation
      · refine Or.inl ⟨by simp, ?_⟩
        unfold haltResident attempt
        simp only [bind, EStateM.bind] at hbody ⊢
        rw [hbody]
        simp only [hcaught, decide_true, if_true]
        rfl
      · refine Or.inr ⟨by simp, e, ?_⟩
        unfold haltResident attempt
        simp only [bind, EStateM.bind] at hbody ⊢
        rw [hbody]
        simp only [hcaught, decide_false, Bool.false_eq_true, if_false]

variable {generation : V4GmoFrozenGeneration} {world : TickWorld}

/-- **The tick.** A tick without a cause to halt is the halt. -/
theorem tick_halts (h : ClearTick world generation) (preheld : Bool) (machine : Machine) :
    runOneTick world preheld machine = haltResident world generation machine := by
  have hmonitor : residentMonitor world generation {} machine =
      match haltResident world generation machine with
      | .ok status machine' => .ok (Sum.inl status) machine'
      | .error e machine' => .error e machine' := by
    unfold residentMonitor attempt
    simp only [bind, EStateM.bind, residentBody_raises h.contract generation machine,
      PyException.isException, if_true]
    cases haltResident world generation machine <;> rfl
  unfold runOneTick
  rw [h.baked]
  simp only [tickOfGeneration, h.liveReady, h.supported, h.resident, Bool.not_true,
    Bool.or_self, Bool.false_eq_true, if_false, if_true, bind, EStateM.bind, hmonitor]
  cases haltResident world generation machine <;> rfl

theorem tick_not_armed (h : ClearTick world generation) (preheld : Bool) :
    (stateAfter (runOneTick world preheld) {}).armChecked = false := by
  unfold stateAfter
  rw [tick_halts h preheld]
  rcases haltResident_cases world generation {} with ⟨-, hend⟩ | ⟨-, hend⟩ | ⟨-, e, hend⟩ <;>
    rw [hend]

theorem tick_halted
    (h : ClearTick world generation) (hwrite : world.writeHalt = .ok ()) (preheld : Bool) :
    (stateAfter (runOneTick world preheld) {}).haltWritten = true := by
  unfold stateAfter
  rw [tick_halts h preheld]
  rcases haltResident_cases world generation {} with ⟨-, hend⟩ | ⟨hnot, -⟩ | ⟨hnot, -⟩
  · rw [hend]
  · exact absurd hwrite hnot
  · exact absurd hwrite hnot

theorem haltMain_ends (world : TickWorld) (generation : V4GmoFrozenGeneration)
    (machine machine' : Machine) : haltMain world generation machine ≠ .ok .running machine' := by
  unfold haltMain
  simp only [bind, EStateM.bind, pure, EStateM.pure]
  intro hend
  split at hend
  next =>
    split at hend
    next => cases hend
    next => cases hend
  next => cases hend

theorem main_ends (h : ClearTick world generation) : ¬ GoesOn generation world := by
  rintro ⟨machine, hend⟩
  unfold mainPass attempt at hend
  simp only [bind, EStateM.bind, tick_halts h true] at hend
  rcases haltResident_cases world generation {} with ⟨-, hhalt⟩ | ⟨-, hhalt⟩ | ⟨-, e, hhalt⟩
  · rw [hhalt] at hend
    cases hend
  · rw [hhalt] at hend
    cases hend
  · rw [hhalt] at hend
    exact haltMain_ends world generation _ _ hend

theorem session_not_evaluated (session : V4GmoFrozenGeneration) (reasons : List String)
    (armIntent : Bool) (entryCycle : Except PyException CycleOutcome) :
    ¬ SessionEvaluated session reasons armIntent entryCycle := by
  unfold SessionEvaluated stateAfter
  rw [runOneCycle_raises]
  exact lt_irrefl 0

/-- **Halts without a cause.** In every tick of a resident generation that gives no cause to
halt, the launcher does not come to its arm check, writes the halt where it can, and ends its
main loop; and no prepared session of any generation comes to the evaluation of its cycle. -/
theorem halts_without_cause (world : TickWorld) (generation : V4GmoFrozenGeneration)
    (h : ClearTick world generation) :
    (∀ preheld, ¬ ReachesArmCheck world preheld ∧
      (stateAfter (runOneTick world preheld) {}).armChecked = false ∧
      (world.writeHalt = .ok () →
        (stateAfter (runOneTick world preheld) {}).haltWritten = true)) ∧
    (∀ session reasons armIntent entryCycle,
      ¬ SessionEvaluated session reasons armIntent entryCycle) ∧
    ¬ GoesOn generation world := by
  refine ⟨fun preheld => ⟨fun hreach => ?_, tick_not_armed h preheld,
    fun hwrite => tick_halted h hwrite preheld⟩, session_not_evaluated, main_ends h⟩
  have harmed := tick_not_armed h preheld
  rw [hreach.1] at harmed
  cases harmed

/-- A live generation `G065`. -/
def liveGeneration : V4GmoFrozenGeneration where
  generationLabel := "H11_AUTO_30M_20260801_G065"
  digest := "sha256:generation"
  implementationDigest := "sha256:implementation"
  liveReady := true
  unattendedLiveSupported := true

/-- A tick of it in which every call succeeds and every flag is clear. -/
def clearWorld : TickWorld where
  bakedDigests := .ok liveGeneration
  bindingHaltLatched := false
  supervisorInit := .ok ()
  supervisorAcquire := .ok ()
  bootstrapMarker := .ok .absent
  monitorTick := .ok
    { persistentHalt := false, runtimeRiskReady := true, deadManAlive := true,
      heartbeatChainBeat := true, brokerWrite := false, actualPostCount := 0,
      processLockClear := true, unknownHalt := false, entryGateOpen := true }
  writeOnceMarker := .ok ()
  verifyContract := .ok ()
  materializePosition := .ok ()
  verifyActivation := .ok ()
  writeHalt := .ok ()
  g038Activation := .ok ()
  armCheck := .ok { armed := true, blockedReasons := [] }
  runtimeOnlyCompletion := .error .osError
  lockAcquired := .ok true
  armOffMaterialize := .ok ()
  writeLease := .ok ()
  loadPosition := .ok { evidenceAvailable := true, generationBound := true, positionOpen := false }
  clearLease := .ok ()
  writeExitOnly := .ok ()
  runExitOnly := .ok ()
  prepareSession := .ok liveGeneration
  openStores := .ok ()
  connectTransports := .ok ()
  cycle := { entryGateReasons := .ok [], entryCycle := .error .otherException }

theorem clearWorld_clear : ClearTick clearWorld liveGeneration where
  baked := rfl
  resident := by decide
  liveReady := rfl
  supported := rfl
  contract := rfl
  supervisor := rfl
  acquired := rfl
  position := rfl
  ready := ⟨_, rfl, rfl⟩
  activation := rfl

/-- The halts without a cause, for that tick. -/
theorem halts_without_cause_clear :
    (stateAfter (runOneTick clearWorld true) {}).haltWritten = true ∧
      ¬ GoesOn liveGeneration clearWorld :=
  ⟨((halts_without_cause clearWorld liveGeneration clearWorld_clear).1 true).2.2 rfl,
    (halts_without_cause clearWorld liveGeneration clearWorld_clear).2.2⟩

/-- That tick writes the persistent halt in front of its arm check. -/
theorem clear_tick_halts :
    ClearTick clearWorld liveGeneration ∧ ¬ ReachesArmCheck clearWorld true ∧
      (stateAfter (runOneTick clearWorld true) {}).haltWritten = true := by
  refine ⟨clearWorld_clear, fun hreach => ?_, tick_halted clearWorld_clear rfl true⟩
  have harmed := tick_not_armed clearWorld_clear true
  rw [hreach.1] at harmed
  cases harmed

end FxStrategyLab.Launcher
