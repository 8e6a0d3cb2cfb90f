import FxStrategyLab.Library.Decide

/-!
# The wall-clock soak

A soak runs synthetic batches until its duration has passed, and fails when two observations
lie too far apart.  The loop compares the clock with the duration before it looks at the gap,
so the last gap of a soak that passes is neither checked nor counted.

**Results.** `soakLoop_passed_iff` for the loop, `passes_iff` for the soak, and
`observed_without_hole_iff`.
-/

namespace FxStrategyLab.WallClockSoak

/-- Source `WallClockSoakConfig`; the fields carry the constructor's checks. -/
structure WallClockSoakConfig where
  durationSeconds : ℚ
  batchIntervalSeconds : ℚ
  maximumObservationGapSeconds : ℚ
  duration_bounds : 1 ≤ durationSeconds ∧ durationSeconds ≤ 86400
  interval_bounds : 1 / 10 ≤ batchIntervalSeconds ∧ batchIntervalSeconds ≤ 3600
  gap_covers : batchIntervalSeconds ≤ maximumObservationGapSeconds

inductive WallClockSoakStatus
  | passedFakeOnly
  | failedObservationGap
  | failedSyntheticBatch
  | blockedCheckpointExists
deriving DecidableEq

/-- What a turn of the loop meets: the monotonic clock, the batch, and whether its checkpoint
can be written.  How long the turn sleeps is in the clock of the next one. -/
structure Turn where
  tick : ℚ
  batchPassed : Bool
  syntheticCycleCount : Nat
  checkpointWritten : Bool

/-- The local variables of the loop. -/
structure SoakProgress where
  previousTick : ℚ
  maximumGap : ℚ
  batches : Nat
  cycles : Nat

/-- Source `WallClockSoakReport`, without its texts and constants. -/
structure WallClockSoakReport where
  status : WallClockSoakStatus
  targetDurationSeconds : ℚ
  observedElapsedSeconds : ℚ
  batchCount : Nat
  syntheticCycleCount : Nat
  maximumObservedGapSeconds : ℚ
deriving DecidableEq

/-- What a soak meets from its start to its report. -/
structure Surroundings where
  checkpointExists : Bool
  lockHeld : Bool
  startTick : ℚ
  startWritten : Bool
  turns : List Turn
  finishTick : ℚ
  reportWritten : Bool

section Soak

variable (config : WallClockSoakConfig)

/-- The loop of the soak over the turns it has had, and nothing when it raises or still
runs. -/
def soakLoop (startTick : ℚ) :
    SoakProgress → List Turn → Option (WallClockSoakStatus × SoakProgress)
  | _, [] => none
  | progress, turn :: turns =>
      if config.durationSeconds ≤ turn.tick - startTick then some (.passedFakeOnly, progress)
      else
        let gap := turn.tick - progress.previousTick
        let observed := { progress with maximumGap := max progress.maximumGap gap }
        if config.maximumObservationGapSeconds < gap then some (.failedObservationGap, observed)
        else
          let batched :=
            { observed with
              batches := observed.batches + 1
              cycles := observed.cycles + turn.syntheticCycleCount }
          if turn.batchPassed then
            if turn.checkpointWritten then
              soakLoop startTick { batched with previousTick := turn.tick } turns
            else none
          else some (.failedSyntheticBatch, batched)

def runWallClockFakeSoakNoPost (env : Surroundings) : Option WallClockSoakReport :=
  if env.checkpointExists then
    some
      { status := .blockedCheckpointExists
        targetDurationSeconds := config.durationSeconds
        observedElapsedSeconds := 0
        batchCount := 0
        syntheticCycleCount := 0
        maximumObservedGapSeconds := 0 }
  else if env.lockHeld ∨ ¬ env.startWritten then none
  else
    match soakLoop config env.startTick ⟨env.startTick, 0, 0, 0⟩ env.turns with
    | none => none
    | some (status, progress) =>
        if env.reportWritten then
          some
            { status := status
              targetDurationSeconds := config.durationSeconds
              observedElapsedSeconds := max 0 (env.finishTick - env.startTick)
              batchCount := progress.batches
              syntheticCycleCount := progress.cycles
              maximumObservedGapSeconds := progress.maximumGap }
        else none

/-- The differences of consecutive ticks. -/
def gaps : List ℚ → List ℚ
  | first :: second :: rest => (second - first) :: gaps (second :: rest)
  | _ => []

def Running (startTick : ℚ) (turn : Turn) : Prop :=
  turn.tick - startTick < config.durationSeconds
deriving Decidable

def turnsBefore (startTick : ℚ) (turns : List Turn) : List Turn :=
  turns.takeWhile fun turn => Running config startTick turn

def stopTurn (startTick : ℚ) (turns : List Turn) : Option Turn :=
  (turns.dropWhile fun turn => Running config startTick turn).head?

/-- The observations of a soak that runs until the duration is reached. -/
def observationTicks (env : Surroundings) : List ℚ :=
  env.startTick :: ((turnsBefore config env.startTick env.turns).map Turn.tick ++
    (stopTurn config env.startTick env.turns).toList.map Turn.tick)

/-- A passed soak has no gap larger than the configured one, and reports its largest gap. -/
def ObservedWithoutHole (env : Surroundings) : Prop :=
  ∀ report, runWallClockFakeSoakNoPost config env = some report →
    report.status = .passedFakeOnly →
      (∀ gap ∈ gaps (observationTicks config env), gap ≤ config.maximumObservationGapSeconds) ∧
        IsGreatest {gap | gap ∈ gaps (observationTicks config env)}
          report.maximumObservedGapSeconds

def checkedGaps (env : Surroundings) : List ℚ :=
  gaps (env.startTick :: (turnsBefore config env.startTick env.turns).map Turn.tick)

/-- The duration is reached, and nothing in front of it stops the soak. -/
structure Passes (env : Surroundings) (stop : Turn) : Prop where
  fresh : env.checkpointExists = false
  free : env.lockHeld = false
  started : env.startWritten = true
  stops : stopTurn config env.startTick env.turns = some stop
  small : ∀ gap ∈ checkedGaps config env, gap ≤ config.maximumObservationGapSeconds
  works : ∀ turn ∈ turnsBefore config env.startTick env.turns,
    turn.batchPassed = true ∧ turn.checkpointWritten = true
  reported : env.reportWritten = true

def lastTickBefore (env : Surroundings) : ℚ :=
  (((turnsBefore config env.startTick env.turns).map Turn.tick).getLast?).getD env.startTick

def FinalGapCovered (env : Surroundings) (stop : Turn) : Prop :=
  ∃ gap ∈ checkedGaps config env, stop.tick - lastTickBefore config env ≤ gap

end Soak

section Loop

variable {config : WallClockSoakConfig}

theorem gaps_append_singleton (first : ℚ) (ticks : List ℚ) (last : ℚ) :
    gaps (first :: (ticks ++ [last])) =
      gaps (first :: ticks) ++ [last - (ticks.getLast?).getD first] := by
  induction ticks generalizing first with
  | nil => simp [gaps]
  | cons second ticks ih =>
      have hrest := ih second
      rw [List.cons_append, gaps, hrest, gaps, List.cons_append, List.getLast?_cons]
      rfl

variable (config) in
/-- **The loop passes when a turn reaches the duration and no turn in front of it stops it; it
then knows the largest of the gaps in front of that turn.** -/
theorem soakLoop_passed_iff (startTick : ℚ) (progress : SoakProgress) (turns : List Turn) :
    (∃ after, soakLoop config startTick progress turns = some (.passedFakeOnly, after)) ↔
      (∃ stop, stopTurn config startTick turns = some stop) ∧
        (∀ gap ∈ gaps (progress.previousTick ::
            (turnsBefore config startTick turns).map Turn.tick),
          gap ≤ config.maximumObservationGapSeconds) ∧
        ∀ turn ∈ turnsBefore config startTick turns,
          turn.batchPassed = true ∧ turn.checkpointWritten = true := by
  induction turns generalizing progress with
  | nil => simp [soakLoop, stopTurn]
  | cons turn turns ih =>
      by_cases hstop : config.durationSeconds ≤ turn.tick - startTick
      · have hrunning : ¬ Running config startTick turn := not_lt.mpr hstop
        simp [soakLoop, hstop, stopTurn, turnsBefore, hrunning, gaps]
      · have hrunning : Running config startTick turn := not_le.mp hstop
        have hstopTurn : stopTurn config startTick (turn :: turns) =
            stopTurn config startTick turns := by
          simp [stopTurn, hrunning]
        have hbefore : turnsBefore config startTick (turn :: turns) =
            turn :: turnsBefore config startTick turns := by
          simp [turnsBefore, hrunning]
        rw [hstopTurn, hbefore, List.map_cons, gaps, List.forall_mem_cons, List.forall_mem_cons]
        unfold soakLoop
        simp only [hstop, if_false]
        by_cases hgap : config.maximumObservationGapSeconds < turn.tick - progress.previousTick
        · simp [hgap, not_le.mpr hgap]
        · have hsmall : turn.tick - progress.previousTick ≤
              config.maximumObservationGapSeconds := not_lt.mp hgap
          simp only [hgap, if_false]
          by_cases hbatch : turn.batchPassed = true
          · by_cases hwritten : turn.checkpointWritten = true
            · simp only [hbatch, hwritten, if_true]
              rw [ih]
              simp [hsmall]
            · simp [hbatch, hwritten]
          · simp [hbatch]

theorem soakLoop_maximumGap {startTick : ℚ} {progress after : SoakProgress} {turns : List Turn}
    (h : soakLoop config startTick progress turns = some (.passedFakeOnly, after)) :
    IsGreatest
      {gap | gap = progress.maximumGap ∨ gap ∈ gaps (progress.previousTick ::
        (turnsBefore config startTick turns).map Turn.tick)} after.maximumGap := by
  induction turns generalizing progress with
  | nil => simp [soakLoop] at h
  | cons turn turns ih =>
      unfold soakLoop at h
      by_cases hstop : config.durationSeconds ≤ turn.tick - startTick
      · have hrunning : ¬ Running config startTick turn := not_lt.mpr hstop
        simp only [hstop, if_true, Option.some.injEq, Prod.mk.injEq, true_and] at h
        subst h
        simp [turnsBefore, hrunning, gaps]
      · have hrunning : Running config startTick turn := not_le.mp hstop
        have hbefore : turnsBefore config startTick (turn :: turns) =
            turn :: turnsBefore config startTick turns := by
          simp [turnsBefore, hrunning]
        simp only [hstop, if_false] at h
        split_ifs at h
        · simp at h
        · have hgreatest := ih h
          rw [hbefore, List.map_cons, gaps]
          obtain ⟨hmem, hupper⟩ := hgreatest
          constructor
          · rcases hmem with hmax | hlater
            · rcases max_choice progress.maximumGap (turn.tick - progress.previousTick) with
                hold | hnew
              · exact Or.inl (hmax.trans hold)
              · exact Or.inr (hmax.trans hnew ▸ List.mem_cons_self)
            · exact Or.inr (List.mem_cons_of_mem _ hlater)
          · rintro gap (rfl | hgap)
            · exact (le_max_left _ _).trans (hupper (Or.inl rfl))
            · rcases List.mem_cons.mp hgap with rfl | hlater
              · exact (le_max_right _ _).trans (hupper (Or.inl rfl))
              · exact hupper (Or.inr hlater)
        · simp at h

end Loop

section Soak

variable {config : WallClockSoakConfig} {env : Surroundings} {report : WallClockSoakReport}

theorem run_passed_iff :
    (runWallClockFakeSoakNoPost config env = some report ∧ report.status = .passedFakeOnly) ↔
      (env.checkpointExists = false ∧ env.lockHeld = false ∧ env.startWritten = true ∧
        env.reportWritten = true) ∧
      ∃ after,
        soakLoop config env.startTick ⟨env.startTick, 0, 0, 0⟩ env.turns =
          some (.passedFakeOnly, after) ∧
        report =
          { status := .passedFakeOnly
            targetDurationSeconds := config.durationSeconds
            observedElapsedSeconds := max 0 (env.finishTick - env.startTick)
            batchCount := after.batches
            syntheticCycleCount := after.cycles
            maximumObservedGapSeconds := after.maximumGap } := by
  constructor
  · rintro ⟨hrun, hstatus⟩
    unfold runWallClockFakeSoakNoPost at hrun
    cases hloop : soakLoop config env.startTick ⟨env.startTick, 0, 0, 0⟩ env.turns with
    | none =>
        simp only [hloop] at hrun
        split_ifs at hrun
        obtain rfl := Option.some.inj hrun
        simp at hstatus
    | some result =>
        obtain ⟨status, after⟩ := result
        simp only [hloop] at hrun
        split_ifs at hrun with hexists hblocked hreported
        · obtain rfl := Option.some.inj hrun
          simp at hstatus
        · obtain rfl := Option.some.inj hrun
          push Not at hblocked
          obtain rfl : status = .passedFakeOnly := hstatus
          refine ⟨⟨?_, ?_, hblocked.2, hreported⟩, after, rfl, rfl⟩
          · simpa using hexists
          · simpa using hblocked.1
  · rintro ⟨⟨hfresh, hfree, hstarted, hreported⟩, after, hloop, rfl⟩
    simp [runWallClockFakeSoakNoPost, hfresh, hfree, hstarted, hreported, hloop]

/-- **A soak passes when it reaches its duration, no gap in front of the last observation is
too large, and every batch and every write works.** -/
theorem passes_iff :
    (∃ report, runWallClockFakeSoakNoPost config env = some report ∧
        report.status = .passedFakeOnly) ↔
      ∃ stop, Passes config env stop := by
  have hloop := soakLoop_passed_iff config env.startTick
    ⟨env.startTick, 0, 0, 0⟩ env.turns
  constructor
  · rintro ⟨report, hrun⟩
    obtain ⟨⟨hfresh, hfree, hstarted, hreported⟩, after, hafter, -⟩ := run_passed_iff.mp hrun
    obtain ⟨⟨stop, hstop⟩, hsmall, hworks⟩ := hloop.mp ⟨after, hafter⟩
    exact ⟨stop, hfresh, hfree, hstarted, hstop, hsmall, hworks, hreported⟩
  · rintro ⟨stop, hpasses⟩
    obtain ⟨after, hafter⟩ := hloop.mpr ⟨⟨stop, hpasses.stops⟩, hpasses.small, hpasses.works⟩
    exact ⟨_, run_passed_iff.mpr
      ⟨⟨hpasses.fresh, hpasses.free, hpasses.started, hpasses.reported⟩, after, hafter, rfl⟩⟩

theorem maximum_of_passed (hrun : runWallClockFakeSoakNoPost config env = some report)
    (hstatus : report.status = .passedFakeOnly) :
    IsGreatest {gap | gap = 0 ∨ gap ∈ checkedGaps config env}
      report.maximumObservedGapSeconds := by
  obtain ⟨-, after, hafter, rfl⟩ := run_passed_iff.mp ⟨hrun, hstatus⟩
  exact soakLoop_maximumGap hafter

theorem gaps_observationTicks {stop : Turn}
    (hstop : stopTurn config env.startTick env.turns = some stop) :
    gaps (observationTicks config env) =
      checkedGaps config env ++ [stop.tick - lastTickBefore config env] := by
  simp only [observationTicks, hstop, Option.toList_some, List.map_cons, List.map_nil]
  exact gaps_append_singleton _ _ _

variable (config env) in
theorem lastTickBefore_lt : lastTickBefore config env < env.startTick + config.durationSeconds := by
  unfold lastTickBefore
  cases hlast : ((turnsBefore config env.startTick env.turns).map Turn.tick).getLast? with
  | none =>
      have hpositive := config.duration_bounds.1
      simp only [Option.getD_none]
      linarith
  | some tick =>
      obtain ⟨turn, hturn, rfl⟩ := List.mem_map.mp (List.mem_of_getLast? hlast)
      have hrunning : Running config env.startTick turn := by
        simpa using List.mem_takeWhile_imp hturn
      unfold Running at hrunning
      simp only [Option.getD_some]
      linarith

theorem duration_le_stop {stop : Turn}
    (hstop : stopTurn config env.startTick env.turns = some stop) :
    env.startTick + config.durationSeconds ≤ stop.tick := by
  have hnot := List.head?_dropWhile_not
    (fun turn => decide (Running config env.startTick turn)) env.turns
  unfold stopTurn at hstop
  rw [hstop] at hnot
  have hreached : ¬ Running config env.startTick stop := by simpa using hnot
  have hle := not_lt.mp hreached
  linarith

/-- **A soak is observed without a hole exactly when, if it passes, its last gap is no larger
than one in front of it.** -/
theorem observed_without_hole_iff (config : WallClockSoakConfig) (env : Surroundings) :
    ObservedWithoutHole config env ↔
      ∀ stop, Passes config env stop → FinalGapCovered config env stop := by
  constructor
  · intro hobserved stop hpasses
    obtain ⟨report, hrun, hstatus⟩ := passes_iff.mpr ⟨stop, hpasses⟩
    obtain ⟨-, -, hupper⟩ := hobserved report hrun hstatus
    have hfinal : stop.tick - lastTickBefore config env ≤ report.maximumObservedGapSeconds := by
      apply hupper
      rw [Set.mem_ofPred_eq, gaps_observationTicks hpasses.stops]
      exact List.mem_append_right _ List.mem_cons_self
    have hpositive : 0 < stop.tick - lastTickBefore config env := by
      have hlast := lastTickBefore_lt config env
      have hreached := duration_le_stop hpasses.stops
      linarith
    rcases (maximum_of_passed hrun hstatus).1 with hzero | hchecked
    · linarith
    · exact ⟨_, hchecked, hfinal⟩
  · intro hcovered report hrun hstatus
    obtain ⟨stop, hpasses⟩ := passes_iff.mp ⟨report, hrun, hstatus⟩
    obtain ⟨larger, hlarger, hfinal⟩ := hcovered stop hpasses
    obtain ⟨hmem, hupper⟩ := maximum_of_passed hrun hstatus
    have hpositive : 0 < stop.tick - lastTickBefore config env := by
      have hlast := lastTickBefore_lt config env
      have hreached := duration_le_stop hpasses.stops
      linarith
    rw [gaps_observationTicks hpasses.stops]
    refine ⟨?_, ?_, ?_⟩
    · intro gap hgap
      rcases List.mem_append.mp hgap with hchecked | hlast
      · exact hpasses.small gap hchecked
      · rw [List.mem_singleton.mp hlast]
        exact hfinal.trans (hpasses.small larger hlarger)
    · refine List.mem_append_left _ (hmem.resolve_left ?_)
      have hle := hupper (Or.inr hlarger)
      intro hzero
      linarith
    · intro gap hgap
      rcases List.mem_append.mp hgap with hchecked | hlast
      · exact hupper (Or.inr hchecked)
      · rw [List.mem_singleton.mp hlast]
        exact hfinal.trans (hupper (Or.inr hlarger))

def tenSeconds : WallClockSoakConfig where
  durationSeconds := 10
  batchIntervalSeconds := 1
  maximumObservationGapSeconds := 2
  duration_bounds := by norm_num
  interval_bounds := by norm_num
  gap_covers := by norm_num

def suspendedHost : Surroundings where
  checkpointExists := false
  lockHeld := false
  startTick := 0
  startWritten := true
  turns := [⟨0, true, 100, true⟩, ⟨1, true, 100, true⟩, ⟨3601, true, 100, true⟩]
  finishTick := 3601
  reportWritten := true

/-- The suspended soak passes and reports a largest gap of one second. -/
theorem suspended_host_passes :
    (∃ report, runWallClockFakeSoakNoPost tenSeconds suspendedHost = some report ∧
      report.status = .passedFakeOnly ∧ report.maximumObservedGapSeconds = 1 ∧
      (3600 : ℚ) ∈ gaps (observationTicks tenSeconds suspendedHost)) ∧
    ¬ ObservedWithoutHole tenSeconds suspendedHost := by
  have hgap : (3600 : ℚ) ∈ gaps (observationTicks tenSeconds suspendedHost) := by
    decide +kernel
  have hrun : runWallClockFakeSoakNoPost tenSeconds suspendedHost =
      some ⟨.passedFakeOnly, 10, 3601, 2, 200, 1⟩ := by
    decide +kernel
  refine ⟨⟨_, hrun, rfl, rfl, hgap⟩, ?_⟩
  intro hobserved
  have hsmall := (hobserved _ hrun rfl).1 3600 hgap
  norm_num [tenSeconds] at hsmall

end Soak

end FxStrategyLab.WallClockSoak
