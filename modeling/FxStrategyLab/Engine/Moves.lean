import FxStrategyLab.Engine.Safety

/-!
# What the engine's transitions are

A second pass over the methods of the engine, for what they ask of `transition`: the
targets and categories that a transition may have, and the one transition that takes a
cycle to POSITION_PROTECTED, with the snapshot and the time it rests on.
-/

namespace FxStrategyLab

open Library

structure V4GmoStoredCycle.ProtectionConfirmed (cycle : V4GmoStoredCycle)
    (nowUtc : Instant) (lastRead : Option V4GmoBrokerSnapshot) : Prop where
  reading : ∃ snapshot, lastRead = some snapshot ∧
    Engine.exactlyProtected cycle snapshot = true
  inTime : ∃ unprotectedSince, cycle.unprotectedSinceUtc = some unprotectedSince ∧
    0 ≤ nowUtc - unprotectedSince ∧ nowUtc - unprotectedSince ≤ wallSeconds 15

namespace V4GmoCycleState

@[simp]
def ofAttempt : List V4GmoCycleState :=
  [marketEntryAttempted, remainderCancelAttempted, protectionAttempted,
    protectionCancelAttempted, emergencyExitAttempted]

end V4GmoCycleState

def V4GmoEventCategory.ofMove : V4GmoEventCategory → Bool
  | entryIntentPersisted | attemptStarted _ | outcomeRecorded .. => false
  | _ => true

/-- What holds of every transition of the engine: it leads to no state of an attempt, is
journaled as a transition, and brings a start of the unprotected window along only for a
filled entry. -/
structure V4GmoMove.Plain (move : V4GmoMove) : Prop where
  target : move.target ∉ V4GmoCycleState.ofAttempt
  category : move.eventCategory.ofMove = true
  since : move.unprotectedSinceUtc ≠ none → move.target = .entryFilledUnprotected

/-- Every transition is plain, and one that takes a cycle to PROTECTED is confirmed. -/
def EngineEvent.Proper : EngineEvent → Prop
  | performed .. => True
  | moved cycle move nowUtc lastRead =>
      move.Plain ∧
        (move.target = .positionProtected → cycle.ProtectionConfirmed nowUtc lastRead)

def V4GmoMove.Unprotecting (move : V4GmoMove) : Prop :=
  move.Plain ∧ move.target ≠ .positionProtected

theorem V4GmoMove.Unprotecting.proper {move : V4GmoMove} (h : move.Unprotecting)
    (cycle : V4GmoStoredCycle) (nowUtc : Instant) (lastRead : Option V4GmoBrokerSnapshot) :
    (EngineEvent.moved cycle move nowUtc lastRead).Proper :=
  ⟨h.1, fun hprotected => absurd hprotected h.2⟩

theorem V4GmoMove.Unprotecting.of_target {move : V4GmoMove}
    (htarget : move.target ∉ V4GmoCycleState.positionProtected :: V4GmoCycleState.ofAttempt)
    (hcategory : move.eventCategory.ofMove = true)
    (hsince : move.unprotectedSinceUtc = none) : move.Unprotecting := by
  rw [List.mem_cons, not_or] at htarget
  exact ⟨⟨htarget.2, hcategory, fun h => absurd hsince h⟩, htarget.1⟩

def EngineWorld.AllProper (w : EngineWorld) : Prop :=
  ∀ event ∈ w.events, event.Proper

abbrev properFrame : Frame EngineWorld :=
  Frame.keeps EngineWorld.AllProper

def EngineWorld.Current (w : EngineWorld) (cycle : V4GmoStoredCycle) : Prop :=
  w.store.cycle? cycle.cycleRef = some cycle

namespace Engine

variable {sha : Sha256}

theorem crashPoint_proper : Within properFrame crashPoint := by
  intro w
  rw [run_crashPoint]
  split <;> exact id

variable {w t : EngineWorld}

theorem write_proper {f : V4GmoStateStore → Except V4Error V4GmoStateStore}
    {note : EngineWorld → List EngineEvent}
    (hnote : ∀ n, ∀ event ∈ note { w with crashIn := n }, event.Proper) :
    WithinAt properFrame (write f note) w := by
  refine WithinAt.bind (crashPoint_proper w) fun _ t hcrash => ?_
  obtain ⟨n, rfl⟩ := crashPoint_returned hcrash
  unfold WithinAt
  rw [run_commit]
  split
  · exact id
  · intro hw event hevent
    rcases List.mem_append.mp hevent with hevent | hevent
    · exact hw event hevent
    · exact hnote n event hevent

variable {α : Type}

theorem ofExcept_proper (x : Except V4Error α) : Within properFrame (ofExcept x : Engine α) := by
  cases x with
  | ok a => exact Within.pure a
  | error e => exact Within.raise e

theorem loadCycle_proper (cycleRef : Digest) : Within properFrame (loadCycle cycleRef) :=
  Within.bind (Within.gets _) ofExcept_proper

variable {row cycle : V4GmoStoredCycle} {cycleRef : Digest}

theorem loadCycle_current
    (h : (loadCycle cycleRef).run w = (.returned row, t)) : t = w ∧ w.Current row := by
  have hsame := loadCycle_returned h
  refine ⟨hsame, ?_⟩
  unfold loadCycle at h
  rw [Process.run_gets_bind] at h
  unfold V4GmoStateStore.loadCycle at h
  cases hrow : w.store.cycle? cycleRef with
  | none =>
      rw [hrow] at h
      cases h
  | some r =>
      rw [hrow] at h
      cases h
      unfold EngineWorld.Current
      rw [(V4GmoStateStore.cycle?_eq_some.mp hrow).2]
      exact hrow

variable {nowUtc fallback : Instant} {target : V4GmoCycleState} {action : V4GmoAction}

theorem recordActionAttempt_proper
    : Within properFrame (recordActionAttempt sha cycleRef action target nowUtc) :=
  Within.bind (fun _ => write_proper (by simp)) fun _ => loadCycle_proper cycleRef

theorem recordActionOutcome_proper {outcome : V4GmoSyntheticOutcome} :
    Within properFrame (recordActionOutcome sha cycleRef action outcome) :=
  fun _ => write_proper (by simp)

theorem perform_proper (plan : V4GmoActionPlan) : Within properFrame (perform plan) := by
  refine Within.bind crashPoint_proper fun _ w hw event hevent => ?_
  rcases List.mem_append.mp hevent with hevent | hevent
  · exact hw event hevent
  · rw [List.mem_singleton.mp hevent]
    trivial

theorem readSnapshotOrNone_proper : Within properFrame readSnapshotOrNone :=
  Within.bind crashPoint_proper fun _ _ => id

theorem now_proper : Within properFrame (now fallback) :=
  fun _ => id

theorem result_proper {status : V4GmoCycleStatus}
    {reasons : List String} : Within properFrame (result status cycle reasons) :=
  Within.gets _

variable {move : V4GmoMove}

theorem transition_proper (h : ∀ row, w.store.cycle? cycleRef = some row →
      (EngineEvent.moved row move nowUtc w.lastRead).Proper) :
    WithinAt properFrame (transition sha cycleRef move nowUtc) w := by
  refine WithinAt.bind (write_proper fun n event hevent => ?_)
    fun _ t _ => loadCycle_proper cycleRef t
  obtain ⟨row, hrow, rfl⟩ := List.mem_map.mp hevent
  exact h row (Option.mem_toList.mp hrow)

theorem move_bind_proper {k : V4GmoStoredCycle → Engine α} (hmove : move.Unprotecting)
    (hk : ∀ row w, w.Current row → WithinAt properFrame (k row) w) :
    Within properFrame (transition sha cycleRef move nowUtc >>= k) := by
  intro w
  refine WithinAt.bind (transition_proper fun row _ => hmove.proper row nowUtc _)
    fun row t h => hk row t ?_
  obtain ⟨_, u, -, hload⟩ := Process.run_bind_eq_returned.mp h
  obtain ⟨rfl, hcurrent⟩ := loadCycle_current hload
  exact hcurrent

theorem move_then_proper {k : V4GmoStoredCycle → Engine α} (hmove : move.Unprotecting)
    (hk : ∀ row, Within properFrame (k row)) :
    Within properFrame (transition sha cycleRef move nowUtc >>= k) :=
  move_bind_proper hmove fun row w _ => hk row w

theorem halt_proper {reason : V4GmoHaltReason}
    : Within properFrame (halt sha cycle reason nowUtc) :=
  move_then_proper (.of_target (by simp) rfl rfl) fun _ => result_proper

variable {category reason : V4GmoEventCategory}

theorem moveFlat_proper {size : Option Nat} (hcategory : category.ofMove = true) :
    Within properFrame (moveFlat sha cycle category size nowUtc) :=
  move_then_proper (.of_target (by simp) hcategory rfl) fun _ => result_proper

theorem read_known_proper {unknown : Engine α} {k : V4GmoBrokerSnapshot → Engine α}
    (hunknown : Within properFrame unknown)
    (hk : ∀ snapshot t, t.store = w.store → t.lastRead = some snapshot →
      WithinAt properFrame (k snapshot) t) :
    WithinAt properFrame (readSnapshotOrNone >>= fun reading =>
      match freshKnown reading with
      | none => unknown
      | some snapshot => k snapshot) w := by
  refine WithinAt.bind (readSnapshotOrNone_proper w) fun reading t h => ?_
  obtain ⟨_, u, hcrash, hreconcile⟩ := Process.run_bind_eq_returned.mp h
  obtain ⟨n, rfl⟩ := crashPoint_returned hcrash
  cases hreconcile
  split
  · exact hunknown _
  case h_2 snapshot hsnapshot =>
    exact hk snapshot _ rfl (freshKnown_eq_some hsnapshot).1

theorem read_then_proper {unknown : Engine α}
    {k : V4GmoBrokerSnapshot → Engine α} (hunknown : Within properFrame unknown)
    (hk : ∀ snapshot, Within properFrame (k snapshot)) :
    Within properFrame (readSnapshotOrNone >>= fun reading =>
      match freshKnown reading with
      | none => unknown
      | some snapshot => k snapshot) :=
  fun _ => read_known_proper hunknown fun snapshot t _ _ => hk snapshot t

theorem attemptAction_proper {size : Nat} {refused : V4GmoHaltReason}
    {attemptTime : Engine Instant} {next : V4GmoStoredCycle → Engine V4GmoCycleResult}
    (htime : Within properFrame attemptTime)
    (hnext : ∀ attempted, Within properFrame (next attempted)) :
    Within properFrame
      (attemptAction sha cycle action target size refused attemptTime nowUtc next) := by
  refine Within.bind (ofExcept_proper _) fun plan => Within.bind htime fun actionTime => ?_
  refine Within.bind recordActionAttempt_proper fun attempted => ?_
  refine Within.bind (perform_proper plan) fun outcome => ?_
  cases outcome with
  | none => exact halt_proper
  | some outcome => exact Within.bind recordActionOutcome_proper fun _ => hnext attempted

theorem reconcileEmergencyExit_proper (cycle : V4GmoStoredCycle) (nowUtc : Instant) :
    Within properFrame (reconcileEmergencyExit sha cycle nowUtc) :=
  read_then_proper halt_proper fun _ => Within.ite (moveFlat_proper rfl) halt_proper

theorem attemptEmergencyExit_proper (cycle : V4GmoStoredCycle) (nowUtc : Instant) :
    Within properFrame (attemptEmergencyExit sha cycle nowUtc) :=
  Within.ite halt_proper
    (attemptAction_proper (Within.pure _) fun attempted =>
      reconcileEmergencyExit_proper attempted nowUtc)

theorem startEmergencyExit_proper (cycle : V4GmoStoredCycle)
    (hreason : reason.ofMove = true) (nowUtc : Instant) :
    Within properFrame (startEmergencyExit sha cycle reason nowUtc) :=
  move_then_proper (.of_target (by simp) hreason rfl) fun exiting =>
    attemptEmergencyExit_proper exiting nowUtc

theorem reconcileCancelledProtection_proper (cycle : V4GmoStoredCycle) (nowUtc : Instant) :
    Within properFrame (reconcileCancelledProtection sha cycle nowUtc) := by
  refine read_then_proper halt_proper fun snapshot => Within.ite (moveFlat_proper rfl) ?_
  exact Within.ite halt_proper (startEmergencyExit_proper cycle rfl nowUtc)

theorem attemptCancelProtection_proper (cycle : V4GmoStoredCycle) (protectionSize : Nat)
    (nowUtc : Instant) :
    Within properFrame (attemptCancelProtection sha cycle protectionSize nowUtc) := by
  refine Within.ite halt_proper (attemptAction_proper (Within.pure _) fun attempted => ?_)
  exact move_then_proper (.of_target (by simp) rfl rfl) fun cancelled =>
    reconcileCancelledProtection_proper cancelled nowUtc

theorem cancelProtection_proper (cycle : V4GmoStoredCycle)
    (hcategory : category.ofMove = true) (snapshot : V4GmoBrokerSnapshot) (nowUtc : Instant) :
    Within properFrame (cancelProtection sha cycle category snapshot nowUtc) :=
  move_then_proper (.of_target (by simp) hcategory rfl) fun cancelling =>
    attemptCancelProtection_proper cancelling _ nowUtc

/-- **The only way to PROTECTED.** For the stored cycle and the snapshot just read, the
confirmation is one in time. -/
theorem confirmProtection_proper (policy : V4GmoExecutionPolicy)
    {snapshot : V4GmoBrokerSnapshot} (nowUtc : Instant)
    (hcurrent : w.Current cycle) (hread : w.lastRead = some snapshot)
    (hexact : exactlyProtected cycle snapshot = true) :
    WithinAt properFrame (confirmProtection sha cycle policy snapshot nowUtc) w := by
  refine WithinAt.bind (now_proper w) fun confirmationTime t ht => ?_
  cases ht
  cases hsince : cycle.unprotectedSinceUtc with
  | none => exact halt_proper _
  | some unprotectedSince =>
      refine WithinAt.ite (fun _ => halt_proper _) fun hforward => ?_
      refine WithinAt.ite (fun _ => halt_proper _) fun hdeadline => ?_
      refine WithinAt.bind
        (transition_proper fun row hrow => 
          ⟨⟨by simp, rfl, fun h => absurd rfl h⟩, fun _ => ?_⟩)
        fun _ t _ => result_proper t
      obtain rfl : cycle = row := Option.some.inj (hcurrent.symm.trans hrow)
      exact ⟨⟨snapshot, hread, hexact⟩,
        ⟨unprotectedSince, hsince, Int.not_lt.mp hforward, Int.not_lt.mp hdeadline⟩⟩

theorem reconcileProtection_proper (policy : V4GmoExecutionPolicy) (nowUtc : Instant)
    (hcurrent : w.Current cycle) :
    WithinAt properFrame (reconcileProtection sha cycle policy nowUtc) w := by
  refine read_known_proper halt_proper fun snapshot t hstore hread => ?_
  refine WithinAt.ite (fun _ => moveFlat_proper rfl t) fun _ => ?_
  refine WithinAt.ite (fun _ => Within.ite (cancelProtection_proper _ rfl _ _) halt_proper t)
    fun _ => ?_
  refine WithinAt.ite (fun _ => halt_proper t) fun _ => ?_
  refine WithinAt.ite (fun _ => halt_proper t) fun _ => ?_
  refine WithinAt.ite (fun hexact => ?_) fun _ => ?_
  · have hcurrent' : t.Current cycle := by
      unfold EngineWorld.Current
      rw [hstore]
      exact hcurrent
    exact confirmProtection_proper policy nowUtc hcurrent' hread hexact
  · exact Within.ite (cancelProtection_proper _ rfl _ _) (startEmergencyExit_proper _ rfl _) t

theorem attemptProtection_proper (cycle : V4GmoStoredCycle) (policy : V4GmoExecutionPolicy)
    (nowUtc : Instant) : Within properFrame (attemptProtection sha cycle policy nowUtc) := by
  refine attemptAction_proper (Within.pure _) fun attempted => ?_
  exact move_bind_proper (.of_target (by simp) rfl rfl) fun _ _ hcurrent =>
    reconcileProtection_proper policy nowUtc hcurrent

theorem ensureProtection_proper (cycle : V4GmoStoredCycle) (policy : V4GmoExecutionPolicy)
    (nowUtc : Instant) : Within properFrame (ensureProtection sha cycle policy nowUtc) := by
  refine Within.bind now_proper fun currentTime => ?_
  cases cycle.unprotectedSinceUtc with
  | none => exact halt_proper
  | some unprotectedSince =>
      refine Within.ite halt_proper (Within.ite (startEmergencyExit_proper _ rfl _) ?_)
      exact move_then_proper (.of_target (by simp) rfl rfl) fun intended =>
        attemptProtection_proper intended policy currentTime

theorem reconcileEntry_proper (policy : V4GmoExecutionPolicy) (nowUtc : Instant)
    (depth : Nat) (cycle : V4GmoStoredCycle) :
    Within properFrame (reconcileEntry sha policy nowUtc depth cycle) := by
  induction depth generalizing cycle with
  | zero => exact fun _ => id
  | succ depth ih =>
      refine read_then_proper halt_proper fun snapshot => ?_
      split
      · exact halt_proper
      · refine Within.ite ?_ (Within.ite (moveFlat_proper rfl) ?_)
        · refine Within.bind (Within.gets _) fun cancelled => Within.ite halt_proper ?_
          refine attemptAction_proper (Within.pure _) fun attempted => ?_
          exact move_then_proper (.of_target (by simp) rfl rfl) ih
        · exact move_then_proper ⟨⟨by simp, rfl, fun _ => rfl⟩, by simp⟩ fun filled =>
            ensureProtection_proper filled policy nowUtc

theorem attemptMarketEntry_proper (depth : Nat) (cycle : V4GmoStoredCycle)
    (policy : V4GmoExecutionPolicy) (nowUtc : Instant) :
    Within properFrame (attemptMarketEntry sha depth cycle policy nowUtc) := by
  refine attemptAction_proper now_proper fun attempted => ?_
  refine Within.bind now_proper fun reconcileTime => ?_
  exact move_then_proper (.of_target (by simp) rfl rfl) fun reconciling =>
    reconcileEntry_proper policy reconcileTime depth reconciling

theorem reconcileExistingProtectedPosition_proper (cycle : V4GmoStoredCycle) (nowUtc : Instant) :
    Within properFrame (reconcileExistingProtectedPosition sha cycle nowUtc) := by
  refine read_then_proper halt_proper fun snapshot => Within.ite (moveFlat_proper rfl) ?_
  refine Within.ite result_proper (Within.ite halt_proper (Within.ite halt_proper ?_))
  refine Within.ite halt_proper ?_
  exact Within.ite (cancelProtection_proper _ rfl _ _) (startEmergencyExit_proper _ rfl _)

theorem createCycle_proper (signal : FormalSignal) (policy : V4GmoExecutionPolicy)
    (nowUtc : Instant) : Within properFrame (createCycle sha signal policy nowUtc) := by
  refine Within.bind (ofExcept_proper _) fun cycleRef => ?_
  exact Within.bind (fun _ => write_proper (by simp)) fun _ => loadCycle_proper cycleRef

theorem runSignalOnceSynthetic_proper (depth : Nat) (signal : FormalSignal)
    (policy : V4GmoExecutionPolicy) (preflight : V4GmoPreflightSnapshot) (nowUtc : Instant) :
    Within properFrame
      (runSignalOnceSynthetic sha depth signal policy preflight nowUtc) := by
  unfold runSignalOnceSynthetic
  refine Within.ite (Within.ite (Within.pure _) (Within.pure _)) ?_
  refine Within.bind (Within.gets _) fun activeCount =>
    Within.bind (Within.gets _) fun halted => Within.ite (Within.pure _) ?_
  exact Within.bind (createCycle_proper signal policy nowUtc) fun cycle =>
    attemptMarketEntry_proper depth cycle policy nowUtc

theorem restartTo_bind_proper {k : V4GmoStoredCycle → Engine α}
    (htarget : target ∉ V4GmoCycleState.positionProtected :: V4GmoCycleState.ofAttempt)
    (hcategory : category.ofMove = true)
    (hk : ∀ row w, w.Current row → WithinAt properFrame (k row) w) :
    Within properFrame (restartTo sha cycleRef target category nowUtc >>= k) :=
  move_bind_proper (.of_target htarget hcategory rfl) hk

theorem resumeSynthetic_proper (depth : Nat) (cycleRef : Digest)
    (policy : V4GmoExecutionPolicy) (nowUtc : Instant) :
    Within properFrame (resumeSynthetic sha depth cycleRef policy nowUtc) := by
  intro w
  refine WithinAt.bind (loadCycle_proper cycleRef w) fun cycle t hload => ?_
  obtain ⟨rfl, hcurrent⟩ := loadCycle_current hload
  refine WithinAt.ite (fun _ => halt_proper _) fun _ => ?_
  cases cycle.state with
  | entryIntentPersisted =>
      refine Within.bind readSnapshotOrNone_proper (fun reading => ?_) _
      cases reading with
      | none => exact halt_proper
      | some snapshot =>
          exact Within.ite halt_proper (attemptMarketEntry_proper depth cycle policy nowUtc)
  | marketEntryAttempted =>
      exact restartTo_bind_proper (by decide) rfl
        (fun row u _ => reconcileEntry_proper policy nowUtc depth row u) _
  | remainderCancelAttempted =>
      exact restartTo_bind_proper (by decide) rfl
        (fun row u _ => reconcileEntry_proper policy nowUtc depth row u) _
  | entryReconciling => exact reconcileEntry_proper policy nowUtc depth cycle _
  | entryFilledUnprotected => exact ensureProtection_proper cycle policy nowUtc _
  | protectionIntentPersisted => exact attemptProtection_proper cycle policy nowUtc _
  | protectionAttempted =>
      exact restartTo_bind_proper (by decide) rfl
        (fun _ _ hrow => reconcileProtection_proper policy nowUtc hrow) _
  | protectionReconciling => exact reconcileProtection_proper policy nowUtc hcurrent
  | protectionCancelIntentPersisted =>
      exact attemptCancelProtection_proper cycle cycle.protectedSize nowUtc _
  | protectionCancelAttempted =>
      exact restartTo_bind_proper (by decide) rfl
        (fun row u _ => reconcileCancelledProtection_proper row nowUtc u) _
  | protectionCancelReconciling =>
      exact reconcileCancelledProtection_proper cycle nowUtc _
  | emergencyExitIntentPersisted => exact attemptEmergencyExit_proper cycle nowUtc _
  | emergencyExitAttempted => exact reconcileEmergencyExit_proper cycle nowUtc _
  | positionProtected => exact reconcileExistingProtectedPosition_proper cycle nowUtc _
  | flatReconciled => exact result_proper _
  | haltedOperatorReviewRequired => exact result_proper _
  | operatorReloadCleared => exact result_proper _

theorem clearHaltedCycleNoPost_proper (cycleRef : Digest) (confirmation : String)
    (freshFlatConfirmed : Bool) (nowUtc : Instant) :
    Within properFrame
      (clearHaltedCycleNoPost sha cycleRef confirmation freshFlatConfirmed nowUtc) := by
  refine Within.bind (ofExcept_proper _) fun _ => ?_
  refine Within.bind (loadCycle_proper cycleRef) fun cycle => ?_
  exact Within.bind (Within.require _ _) fun _ _ => transition_proper fun row _ =>
    V4GmoMove.Unprotecting.proper (.of_target (by simp) rfl rfl) row nowUtc _

end Engine

section Proper

variable {sha : Sha256}

open Engine in
theorem exec_proper (op : EngineOp) : Within properFrame (op.exec sha) := by
  unfold EngineOp.exec
  cases op.call with
  | createCycle signal policy =>
      exact Within.bind (createCycle_proper signal policy op.nowUtc) fun _ => Within.pure _
  | runSignalOnce signal policy preflight =>
      exact Within.bind
        (runSignalOnceSynthetic_proper op.depth signal policy preflight op.nowUtc)
        fun _ => Within.pure _
  | resume cycleRef policy =>
      exact Within.bind (resumeSynthetic_proper op.depth cycleRef policy op.nowUtc)
        fun _ => Within.pure _
  | engageGlobalHalt reason => exact fun _ => write_proper (by simp)
  | clearGlobalHalt confirmation fresh =>
      refine Within.bind (ofExcept_proper _) fun _ => Within.bind (Within.gets _) fun _ => ?_
      exact Within.bind (Within.require _ _) fun _ _ => write_proper (by simp)
  | clearHaltedCycle cycleRef confirmation fresh =>
      exact Within.bind
        (clearHaltedCycleNoPost_proper cycleRef confirmation fresh op.nowUtc)
        fun _ => Within.pure _

theorem allProper_of_run (ops : List EngineOp) : (after (engineStep sha) {} ops).AllProper := by
  have hstart : EngineWorld.AllProper {} := fun _ hevent => nomatch hevent
  have hstep : ∀ w op, EngineWorld.AllProper w → True →
      EngineWorld.AllProper (engineStep sha w op) :=
    fun w op hw _ => exec_proper op (op.start w) hw
  exact invariant_after hstep hstart (meetsAlong_always fun _ _ => trivial)

end Proper

end FxStrategyLab
