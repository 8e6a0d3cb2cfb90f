import FxStrategyLab.Engine.Engine
import FxStrategyLab.Library.Runs

/-!
# Steps and runs of the synthetic engine

`EngineStep` says once what the engine does to its store: what is committed, in
which order the committed attempt and its action come, which snapshot a
transition rests on and which reading of the clock an entry carries.  Every
engine call is a sequence of such steps, however it ends, so that an invariant
of the steps is an invariant of every run.
-/

namespace FxStrategyLab

open Library

/-- What a transition of the engine rests on: a move to FLAT on a fresh and known
snapshot that passes the test of flatness, a filled entry on a fill. -/
structure V4GmoMove.Sound (move : V4GmoMove) (lastRead : Option V4GmoBrokerSnapshot) :
    Prop where
  flat : move.target = .flatReconciled → ∃ snapshot, lastRead = some snapshot ∧
    snapshot.fresh = true ∧ snapshot.resultKnown = true ∧
      Engine.spelledOutFlat snapshot = true
  filled : move.target = .entryFilledUnprotected →
    ∃ size, 0 < size ∧ move.filledSize = some size
  intended : move.target = .protectionIntentPersisted → move.filledSize = none

/-- One step of the engine: a step that commits nothing, one of the four writes of a
cycle, or a change of the global halt.  A recorded attempt may be followed by its
action before anything else happens.  `C` is what the caller knows of the store and
the time when it creates a cycle. -/
inductive EngineStep (sha : Sha256) (C : V4GmoStateStore → Instant → Prop)
    (w w' : EngineWorld) : Prop
  | quiet (store : w'.store = w.store) (events : w'.events = w.events)
      (times : w.times <+: w'.times)
  | create (cycleRef : Digest) (signal : FormalSignal) (policy : V4GmoExecutionPolicy)
      (nowUtc : Instant)
      (cycleRef_hex : IsHex64 cycleRef) (directional : signal.decision.Directional)
      (committed :
        V4GmoStateStore.createCycle sha cycleRef signal policy nowUtc w.store =
          .ok w'.store)
      (events : w'.events = w.events) (times : w'.times = w.times)
      (latest : w.times.getLast? = some nowUtc) (condition : C w.store nowUtc)
  | attempt (cycleRef : Digest) (action : V4GmoAction) (target : V4GmoCycleState)
      (nowUtc : Instant)
      (committed :
        V4GmoStateStore.recordActionAttempt sha cycleRef action target nowUtc w.store =
          .ok w'.store)
      (events : w'.events = w.events ∨ ∃ plan : V4GmoActionPlan,
        plan.cycleRef = cycleRef ∧ plan.action = action ∧
          w'.events = w.events ++
            [.performed plan (w'.store.attempts.rows.map V4GmoActionAttempt.primaryKey)])
      (times : w'.times = w.times)
      (latest : action = .marketEntry → w.times.getLast? = some nowUtc)
  | outcome (cycleRef : Digest) (action : V4GmoAction) (outcome : V4GmoSyntheticOutcome)
      (committed :
        V4GmoStateStore.recordActionOutcome sha cycleRef action outcome w.store =
          .ok w'.store)
      (events : w'.events = w.events) (times : w'.times = w.times)
  | move (cycleRef : Digest) (move : V4GmoMove) (nowUtc : Instant)
      (committed :
        V4GmoStateStore.transition sha cycleRef move nowUtc w.store = .ok w'.store)
      (events : w'.events = w.events ++ Engine.movedEvent cycleRef move nowUtc w)
      (times : w'.times = w.times) (sound : move.Sound w.lastRead)
  | globalHalt (halt : Option V4GmoGlobalHalt)
      (store : w'.store = { w.store with globalHalt := halt })
      (events : w'.events = w.events) (times : w'.times = w.times)

def engineFrame (sha : Sha256) (C : V4GmoStateStore → Instant → Prop) :
    Frame EngineWorld where
  rel := Relation.ReflTransGen (EngineStep sha C)
  refl _ := .refl
  trans h₁ h₂ := h₁.trans h₂

namespace Engine

variable {sha : Sha256} {C : V4GmoStateStore → Instant → Prop}

variable {w w' : EngineWorld}

theorem quiet_step (hstore : w'.store = w.store)
    (hevents : w'.events = w.events) (htimes : w.times <+: w'.times) :
    (engineFrame sha C).rel w w' :=
  .single (.quiet hstore hevents htimes)

theorem run_crashPoint (w : EngineWorld) :
    crashPoint.run w =
      match w.crashIn with
      | some 0 => (.killed, w)
      | some (n + 1) => (.returned (), { w with crashIn := some n })
      | none => (.returned (), w) :=
  rfl

theorem run_commit (f : V4GmoStateStore → Except V4Error V4GmoStateStore)
    (note : EngineWorld → List EngineEvent) (w : EngineWorld) :
    (commit f note).run w =
      match f w.store with
      | .error e => (.raised e, w)
      | .ok store => (.returned (), { w with store, events := w.events ++ note w }) :=
  rfl

theorem crashPoint_within : Within (engineFrame sha C) crashPoint := by
  intro w
  rw [run_crashPoint]
  split <;> exact quiet_step rfl rfl List.prefix_rfl

theorem crashPoint_returned {w t : EngineWorld} {a : Unit}
    (h : crashPoint.run w = (.returned a, t)) : ∃ n, t = { w with crashIn := n } := by
  rw [run_crashPoint] at h
  split at h
  · cases h
  · cases h
    exact ⟨_, rfl⟩
  · cases h
    exact ⟨w.crashIn, rfl⟩

variable {f : V4GmoStateStore → Except V4Error V4GmoStateStore}

theorem write_returned {note : EngineWorld → List EngineEvent} {w t : EngineWorld} {a : Unit}
    (h : (write f note).run w = (.returned a, t)) :
    ∃ n store, f w.store = .ok store ∧
      t = { w with
            crashIn := n
            store
            events := w.events ++ note { w with crashIn := n } } := by
  obtain ⟨_, u, hcrash, hrest⟩ := Process.run_bind_eq_returned.mp h
  obtain ⟨n, rfl⟩ := crashPoint_returned hcrash
  rw [run_commit] at hrest
  split at hrest
  · cases hrest
  case h_2 store hf =>
    cases hrest
    exact ⟨n, store, hf, rfl⟩

theorem write_withinAt {note : EngineWorld → List EngineEvent}
    (h : ∀ n store, f w.store = .ok store →
      EngineStep sha C { w with crashIn := n }
        { w with
          crashIn := n
          store
          events := w.events ++ note { w with crashIn := n } }) :
    WithinAt (engineFrame sha C) (write f note) w := by
  refine WithinAt.bind (crashPoint_within w) fun _ t hcrash => ?_
  obtain ⟨n, rfl⟩ := crashPoint_returned hcrash
  unfold WithinAt
  rw [run_commit]
  split
  · exact (engineFrame sha C).refl _
  case h_2 store hf => exact .single (h n store hf)

variable {α : Type}

theorem ofExcept_within (x : Except V4Error α) : Within (engineFrame sha C) (ofExcept x) := by
  cases x with
  | ok a => exact Within.pure a
  | error e => exact Within.raise e

variable {cycleRef : Digest} {action : V4GmoAction} {size : Nat}

theorem ofExcept_plan {side : SignalDecision}
    {hash : String} {plan : V4GmoActionPlan} {w t : EngineWorld}
    (h : (ofExcept (buildV4ActionPlan cycleRef action side size hash) :
      Engine V4GmoActionPlan).run w = (.returned plan, t)) :
    plan.cycleRef = cycleRef ∧ plan.action = action := by
  cases hbuild : buildV4ActionPlan cycleRef action side size hash with
  | error e =>
      rw [hbuild] at h
      cases h
  | ok p =>
      rw [hbuild] at h
      cases h
      exact ⟨(buildV4ActionPlan_ok hbuild).1, (buildV4ActionPlan_ok hbuild).2.1⟩

variable {row cycle : V4GmoStoredCycle}

theorem loadCycle_returned {w t : EngineWorld}
    (h : (loadCycle cycleRef).run w = (.returned row, t)) : t = w := by
  unfold loadCycle at h
  rw [Process.run_gets_bind] at h
  cases hrow : w.store.loadCycle cycleRef with
  | ok r =>
      rw [hrow] at h
      cases h
      rfl
  | error e =>
      rw [hrow] at h
      cases h

theorem loadCycle_within (cycleRef : Digest) : Within (engineFrame sha C) (loadCycle cycleRef) :=
  Within.bind (Within.gets _) fun loaded => ofExcept_within loaded

theorem buildV4CycleRef_ok {signal : FormalSignal} {policy : V4GmoExecutionPolicy}
    (h : buildV4CycleRef sha signal policy = .ok cycleRef) :
    IsHex64 cycleRef ∧ signal.decision.Directional := by
  unfold buildV4CycleRef at h
  split at h
  case isFalse => cases h
  case isTrue haccepts =>
    cases h
    exact ⟨sha.hexdigest_hex _, (of_decide_eq_true haccepts).2.2.2⟩

variable {nowUtc fallback t actionTime : Instant}

theorem createCycle_withinAt {signal : FormalSignal} {policy : V4GmoExecutionPolicy}
    (hlatest : w.times.getLast? = some nowUtc) (hC : C w.store nowUtc) :
    WithinAt (engineFrame sha C) (createCycle sha signal policy nowUtc) w := by
  unfold createCycle
  cases href : buildV4CycleRef sha signal policy with
  | error e => exact (engineFrame sha C).refl w
  | ok cycleRef =>
      obtain ⟨hhex, hside⟩ := buildV4CycleRef_ok href
      refine WithinAt.bind (x := ofExcept (.ok cycleRef)) (Within.pure cycleRef w)
        fun a t ha => ?_
      cases ha
      refine WithinAt.bind (write_withinAt fun n store hf => ?_)
        fun _ t _ => loadCycle_within cycleRef t
      exact .create cycleRef signal policy nowUtc hhex hside hf (List.append_nil _) rfl
        hlatest hC

variable {target : V4GmoCycleState}

theorem recordActionAttempt_withinAt
    (hlatest : action = .marketEntry → w.times.getLast? = some nowUtc) :
    WithinAt (engineFrame sha C)
      (recordActionAttempt sha cycleRef action target nowUtc) w := by
  refine WithinAt.bind (write_withinAt fun n store hf => ?_)
    fun _ t _ => loadCycle_within cycleRef t
  exact .attempt cycleRef action target nowUtc hf (Or.inl (List.append_nil _)) rfl hlatest

/-- **The action comes after its committed attempt.**  Nothing happens between the
two, unless the process dies there. -/
theorem recordThenPerform_withinAt {plan : V4GmoActionPlan}
    {k : V4GmoStoredCycle → Option V4GmoSyntheticOutcome → Engine α}
    (hlatest : action = .marketEntry → w.times.getLast? = some nowUtc)
    (hplan : plan.cycleRef = cycleRef ∧ plan.action = action)
    (hk : ∀ attempted outcome, Within (engineFrame sha C) (k attempted outcome)) :
    WithinAt (engineFrame sha C)
      (recordActionAttempt sha cycleRef action target nowUtc >>= fun attempted =>
        perform plan >>= k attempted) w := by
  have hrecord : WithinAt (engineFrame sha C)
      (recordActionAttempt sha cycleRef action target nowUtc) w :=
    recordActionAttempt_withinAt hlatest
  unfold WithinAt at hrecord ⊢
  rw [Process.run_bind]
  rcases hr : (recordActionAttempt sha cycleRef action target nowUtc).run w with ⟨o, t⟩
  rw [hr] at hrecord
  cases o with
  | raised e => exact hrecord
  | killed => exact hrecord
  | returned attempted =>
    obtain ⟨_, u, hwrite, hload⟩ := Process.run_bind_eq_returned.mp hr
    obtain ⟨n, store, hcommitted, rfl⟩ := write_returned hwrite
    obtain rfl := loadCycle_returned hload
    show (engineFrame sha C).rel w (((crashPoint >>= fun _ => brokerPerform plan) >>=
      k attempted).run _).2
    rw [bind_assoc, Process.run_bind]
    rcases hc : crashPoint.run _ with ⟨o, t⟩
    have hcrash : WithinAt (engineFrame sha C) crashPoint
        { w with crashIn := n, store, events := w.events ++ [] } :=
      crashPoint_within _
    unfold WithinAt at hcrash
    rw [hc] at hcrash
    cases o with
    | raised e => exact (engineFrame sha C).trans hrecord hcrash
    | killed => exact (engineFrame sha C).trans hrecord hcrash
    | returned a =>
      obtain ⟨m, rfl⟩ := crashPoint_returned hc
      refine (engineFrame sha C).trans (.single ?_) (hk attempted _ _)
      refine .attempt cycleRef action target nowUtc hcommitted (Or.inr ⟨plan, hplan.1,
        hplan.2, ?_⟩) rfl hlatest
      simp

theorem recordActionOutcome_within {outcome : V4GmoSyntheticOutcome} :
    Within (engineFrame sha C) (recordActionOutcome sha cycleRef action outcome) :=
  fun _ => write_withinAt fun _ _ hf =>
    .outcome cycleRef action outcome hf (List.append_nil _) rfl

variable {move : V4GmoMove}

theorem transition_withinAt (hsound : move.Sound w.lastRead) :
    WithinAt (engineFrame sha C) (transition sha cycleRef move nowUtc) w := by
  refine WithinAt.bind (write_withinAt fun n store hf => ?_)
    fun _ t _ => loadCycle_within cycleRef t
  exact .move cycleRef move nowUtc hf rfl rfl hsound

theorem result_within {status : V4GmoCycleStatus}
    {reasons : List String} : Within (engineFrame sha C) (result status cycle reasons) :=
  Within.gets _

theorem transition_bind_within {k : V4GmoStoredCycle → Engine α} (w : EngineWorld)
    (hsound : move.Sound w.lastRead) (hk : ∀ row, Within (engineFrame sha C) (k row)) :
    WithinAt (engineFrame sha C) (transition sha cycleRef move nowUtc >>= k) w :=
  WithinAt.bind (transition_withinAt hsound) fun row t _ => hk row t

theorem sound_of_plain {lastRead : Option V4GmoBrokerSnapshot}
    (h : move.target ∉ [V4GmoCycleState.flatReconciled, .entryFilledUnprotected,
      .protectionIntentPersisted]) : move.Sound lastRead := by
  simp only [List.mem_cons, List.not_mem_nil, or_false, not_or] at h
  exact ⟨fun hf => absurd hf h.1, fun hf => absurd hf h.2.1, fun hf => absurd hf h.2.2⟩

variable {reason refused : V4GmoHaltReason}

theorem halt_within
    : Within (engineFrame sha C) (halt sha cycle reason nowUtc) :=
  fun w => transition_bind_within w (sound_of_plain (by simp)) fun _ => result_within

variable {snapshot : V4GmoBrokerSnapshot}

theorem moveFlat_withinAt {category : V4GmoEventCategory} {size : Option Nat}
    (hread : w.lastRead = some snapshot)
    (hknown : snapshot.fresh = true ∧ snapshot.resultKnown = true)
    (hflat : spelledOutFlat snapshot = true) :
    WithinAt (engineFrame sha C) (moveFlat sha cycle category size nowUtc) w := by
  refine transition_bind_within w ⟨?_, ?_, ?_⟩ fun _ => result_within
  · exact fun _ => ⟨snapshot, hread, hknown.1, hknown.2, hflat⟩
  · intro h
    cases h
  · intro h
    cases h

theorem brokerReconcile_within : Within (engineFrame sha C) brokerReconcile :=
  fun _ => quiet_step rfl rfl List.prefix_rfl

theorem read_bind_within {k : Option V4GmoBrokerSnapshot → Engine α}
    (hk : ∀ snapshot w, w.lastRead = snapshot → WithinAt (engineFrame sha C) (k snapshot) w) :
    Within (engineFrame sha C) (readSnapshotOrNone >>= k) := by
  intro w
  refine WithinAt.bind
    (Within.bind crashPoint_within (fun _ => brokerReconcile_within) w) fun snapshot t h => ?_
  obtain ⟨_, u, -, hreconcile⟩ := Process.run_bind_eq_returned.mp h
  have hlast : t.lastRead = snapshot := by
    cases hreconcile
    rfl
  exact hk snapshot t hlast

theorem freshKnown_eq_some {reading : Option V4GmoBrokerSnapshot}
    (h : freshKnown reading = some snapshot) :
    reading = some snapshot ∧ snapshot.fresh = true ∧ snapshot.resultKnown = true := by
  unfold freshKnown at h
  rw [Option.filter_eq_some_iff] at h
  simpa using h

theorem read_known_within {unknown : Engine α} {k : V4GmoBrokerSnapshot → Engine α}
    (hunknown : Within (engineFrame sha C) unknown)
    (hk : ∀ snapshot w, w.lastRead = some snapshot →
      snapshot.fresh = true ∧ snapshot.resultKnown = true →
        WithinAt (engineFrame sha C) (k snapshot) w) :
    Within (engineFrame sha C) (readSnapshotOrNone >>= fun reading =>
      match freshKnown reading with
      | none => unknown
      | some snapshot => k snapshot) := by
  refine read_bind_within fun reading w hread => ?_
  split
  · exact hunknown w
  case h_2 snapshot hsnapshot =>
    obtain ⟨rfl, hknown⟩ := freshKnown_eq_some hsnapshot
    exact hk snapshot w hread hknown

theorem now_within : Within (engineFrame sha C) (now fallback) :=
  fun _ => quiet_step rfl rfl (List.prefix_append _ _)

theorem now_latest
    (h : (now fallback).run w = (.returned t, w')) : w'.times.getLast? = some t := by
  cases h
  simp

theorem attemptAction_within {attemptTime : Engine Instant}
    {next : V4GmoStoredCycle → Engine V4GmoCycleResult}
    (htime : Within (engineFrame sha C) attemptTime) (hlatest : action = .marketEntry → ∀ w t w',
      attemptTime.run w = (.returned t, w') → w'.times.getLast? = some t)
    (hnext : ∀ attempted, Within (engineFrame sha C) (next attempted)) :
    Within (engineFrame sha C)
      (attemptAction sha cycle action target size refused attemptTime nowUtc next) := by
  intro w
  refine WithinAt.bind (ofExcept_within _ w) fun plan u hplan => ?_
  refine WithinAt.bind (htime u) fun actionTime v hv => ?_
  refine recordThenPerform_withinAt (fun haction => hlatest haction u actionTime v hv)
    (ofExcept_plan hplan) fun attempted outcome => ?_
  cases outcome with
  | none => exact halt_within
  | some outcome =>
      exact Within.bind recordActionOutcome_within fun _ => hnext attempted

theorem attemptAction_within_of_pure {next : V4GmoStoredCycle → Engine V4GmoCycleResult}
    (haction : action ≠ .marketEntry)
    (hnext : ∀ attempted, Within (engineFrame sha C) (next attempted)) :
    Within (engineFrame sha C)
      (attemptAction sha cycle action target size refused (pure actionTime) nowUtc next) :=
  attemptAction_within (Within.pure _) (fun h => absurd h haction) hnext

theorem reconcileEmergencyExit_within (cycle : V4GmoStoredCycle) (nowUtc : Instant) :
    Within (engineFrame sha C) (reconcileEmergencyExit sha cycle nowUtc) := by
  refine read_known_within halt_within fun snapshot w hread hknown => ?_
  refine WithinAt.ite (fun hflat => ?_) fun _ => halt_within w
  exact moveFlat_withinAt hread hknown hflat

theorem attemptEmergencyExit_within (cycle : V4GmoStoredCycle) (nowUtc : Instant) :
    Within (engineFrame sha C) (attemptEmergencyExit sha cycle nowUtc) :=
  Within.ite halt_within
    (attemptAction_within_of_pure (by decide) fun attempted =>
      reconcileEmergencyExit_within attempted nowUtc)

theorem startEmergencyExit_within (cycle : V4GmoStoredCycle) (reason : V4GmoEventCategory)
    (nowUtc : Instant) :
    Within (engineFrame sha C) (startEmergencyExit sha cycle reason nowUtc) :=
  fun w => transition_bind_within w (sound_of_plain (by simp))
    fun exiting => attemptEmergencyExit_within exiting nowUtc

theorem reconcileCancelledProtection_within (cycle : V4GmoStoredCycle) (nowUtc : Instant) :
    Within (engineFrame sha C) (reconcileCancelledProtection sha cycle nowUtc) := by
  refine read_known_within halt_within fun snapshot w hread hknown => ?_
  refine WithinAt.ite (fun hflat => moveFlat_withinAt hread hknown hflat) fun _ => ?_
  exact WithinAt.ite (fun _ => halt_within w)
    fun _ => startEmergencyExit_within cycle _ nowUtc w

theorem attemptCancelProtection_within (cycle : V4GmoStoredCycle) (protectionSize : Nat)
    (nowUtc : Instant) :
    Within (engineFrame sha C) (attemptCancelProtection sha cycle protectionSize nowUtc) :=
  Within.ite halt_within
    (attemptAction_within_of_pure (by decide) fun _ w =>
      transition_bind_within w (sound_of_plain (by simp))
        fun cancelled => reconcileCancelledProtection_within cancelled nowUtc)

theorem cancelProtection_within (cycle : V4GmoStoredCycle) (category : V4GmoEventCategory)
    (snapshot : V4GmoBrokerSnapshot) (nowUtc : Instant) :
    Within (engineFrame sha C) (cancelProtection sha cycle category snapshot nowUtc) :=
  fun w => transition_bind_within w (sound_of_plain (by simp))
    fun cancelling => attemptCancelProtection_within cancelling _ nowUtc

theorem confirmProtection_within (cycle : V4GmoStoredCycle)
    (policy : V4GmoExecutionPolicy) (snapshot : V4GmoBrokerSnapshot) (nowUtc : Instant) :
    Within (engineFrame sha C) (confirmProtection sha cycle policy snapshot nowUtc) := by
  refine Within.bind now_within fun confirmationTime => ?_
  cases cycle.unprotectedSinceUtc with
  | none => exact halt_within
  | some unprotectedSince =>
      refine Within.ite halt_within (Within.ite halt_within fun w => ?_)
      exact transition_bind_within w (sound_of_plain (by simp)) fun _ => result_within

theorem reconcileProtection_within (cycle : V4GmoStoredCycle)
    (policy : V4GmoExecutionPolicy) (nowUtc : Instant) :
    Within (engineFrame sha C) (reconcileProtection sha cycle policy nowUtc) := by
  refine read_known_within halt_within fun snapshot w hread hknown => ?_
  refine WithinAt.ite (fun hflat => moveFlat_withinAt hread hknown hflat) fun _ => ?_
  refine Within.ite (Within.ite (cancelProtection_within _ _ _ _) halt_within) ?_ w
  refine Within.ite halt_within (Within.ite halt_within ?_)
  refine Within.ite (confirmProtection_within _ _ _ _) ?_
  exact Within.ite (cancelProtection_within _ _ _ _) (startEmergencyExit_within _ _ _)

theorem attemptProtection_within (cycle : V4GmoStoredCycle)
    (policy : V4GmoExecutionPolicy) (nowUtc : Instant) :
    Within (engineFrame sha C) (attemptProtection sha cycle policy nowUtc) :=
  attemptAction_within_of_pure (by decide) fun _ w =>
    transition_bind_within w (sound_of_plain (by simp))
      fun reconciling => reconcileProtection_within reconciling policy nowUtc

theorem ensureProtection_within (cycle : V4GmoStoredCycle)
    (policy : V4GmoExecutionPolicy) (nowUtc : Instant) :
    Within (engineFrame sha C) (ensureProtection sha cycle policy nowUtc) := by
  refine Within.bind now_within fun currentTime => ?_
  cases cycle.unprotectedSinceUtc with
  | none => exact halt_within
  | some unprotectedSince =>
      refine Within.ite halt_within
        (Within.ite (startEmergencyExit_within _ _ _) fun w => ?_)
      refine transition_bind_within w ⟨?_, ?_, ?_⟩
        fun intended => attemptProtection_within intended policy currentTime
      · intro h
        cases h
      · intro h
        cases h
      · exact fun _ => rfl

theorem entrySnapshot_valid (h : entrySnapshotInvalidReason snapshot cycle = none) :
    snapshot.protectionSize = 0 ∧ snapshot.protectionStatus = .none ∧
      (snapshot.positionCount = 0 ∨ snapshot.positionCount = 1) ∧
      (snapshot.positionCount = 1 → 0 < snapshot.filledSize) ∧
      (snapshot.positionCount = 0 → snapshot.filledSize = 0) := by
  unfold entrySnapshotInvalidReason at h
  split at h
  · cases h
  case isFalse hcount =>
  split at h
  · cases h
  case isFalse hprotection =>
  rw [not_or, not_not, Nat.not_lt, Nat.le_zero] at hprotection
  split at h
  · cases h
  split at h
  · cases h
  split at h
  · cases h
  refine ⟨hprotection.1, hprotection.2, by omega, ?_⟩
  split at h
  case isTrue hone =>
    split at h
    · cases h
    split at h
    · cases h
    case isFalse hfilled => exact ⟨fun _ => Nat.pos_of_ne_zero hfilled, by omega⟩
  case isFalse hone =>
    split at h
    · cases h
    case isFalse hfilled => exact ⟨fun h1 => absurd h1 hone, by omega⟩

theorem reconcileEntry_within (policy : V4GmoExecutionPolicy) (nowUtc : Instant)
    (depth : Nat) (cycle : V4GmoStoredCycle) :
    Within (engineFrame sha C) (reconcileEntry sha policy nowUtc depth cycle) := by
  induction depth generalizing cycle with
  | zero => exact fun w => (engineFrame sha C).refl w
  | succ depth ih =>
      refine read_known_within halt_within fun snapshot w hread hknown => ?_
      split
      · exact halt_within w
      case h_2 hvalid =>
      obtain ⟨hsize, hstatus, hcount, hfilled, hflat⟩ := entrySnapshot_valid hvalid
      refine WithinAt.ite (fun _ => ?_) fun hpending => ?_
      · refine WithinAt.gets_bind (WithinAt.ite (fun _ => halt_within w) fun _ => ?_)
        refine attemptAction_within_of_pure (by decide) (fun attempted w => ?_) w
        exact transition_bind_within w (sound_of_plain (by simp)) fun row => ih row
      · refine WithinAt.ite (fun hnone => ?_) fun hsome => ?_
        · have hpending : snapshot.pendingEntrySize = 0 := by omega
          exact moveFlat_withinAt hread hknown
            (decide_eq_true ⟨hnone.1, hpending, hsize, hstatus⟩)
        · refine transition_bind_within w ⟨?_, fun _ => ?_, ?_⟩
            fun filled => ensureProtection_within filled policy nowUtc
          · intro h
            cases h
          · refine ⟨snapshot.filledSize, ?_, rfl⟩
            rcases hcount with hzero | hone
            · exact absurd ⟨hzero, hflat hzero⟩ hsome
            · exact hfilled hone
          · intro h
            cases h

theorem attemptMarketEntry_within (depth : Nat) (cycle : V4GmoStoredCycle)
    (policy : V4GmoExecutionPolicy) (nowUtc : Instant) :
    Within (engineFrame sha C) (attemptMarketEntry sha depth cycle policy nowUtc) := by
  refine attemptAction_within now_within (fun _ w t w' h => now_latest h) fun attempted => ?_
  refine Within.bind now_within fun reconcileTime w => ?_
  exact transition_bind_within w (sound_of_plain (by simp))
    fun reconciling => reconcileEntry_within policy reconcileTime depth reconciling

theorem reconcileExistingProtectedPosition_within (cycle : V4GmoStoredCycle) (nowUtc : Instant) :
    Within (engineFrame sha C) (reconcileExistingProtectedPosition sha cycle nowUtc) := by
  refine read_known_within halt_within fun snapshot w hread hknown => ?_
  refine WithinAt.ite (fun hreasons => ?_) fun _ => ?_
  · obtain ⟨-, -, hposition, -, hpending, hprotection⟩ :=
      flatSnapshotBlockedReasons_eq_nil.mp hreasons
    exact moveFlat_withinAt hread hknown (decide_eq_true ⟨hposition, hpending, hprotection⟩)
  · refine Within.ite result_within ?_ w
    refine Within.ite halt_within (Within.ite halt_within (Within.ite halt_within ?_))
    exact Within.ite (cancelProtection_within _ _ _ _) (startEmergencyExit_within _ _ _)

theorem runSignalOnceSynthetic_withinAt (depth : Nat) (signal : FormalSignal)
    (policy : V4GmoExecutionPolicy) (preflight : V4GmoPreflightSnapshot)
    (hlatest : w.times.getLast? = some nowUtc) (hC : C w.store nowUtc) :
    WithinAt (engineFrame sha C)
      (runSignalOnceSynthetic sha depth signal policy preflight nowUtc) w := by
  unfold runSignalOnceSynthetic
  refine WithinAt.ite (fun _ => ?_) fun _ => ?_
  · exact Within.ite (Within.pure _) (Within.pure _) w
  · refine WithinAt.gets_bind (WithinAt.gets_bind (WithinAt.ite (fun _ => ?_) fun _ => ?_))
    · exact Within.pure _ w
    · exact WithinAt.bind (createCycle_withinAt hlatest hC)
        fun cycle t _ => attemptMarketEntry_within depth cycle policy nowUtc t

theorem restartTo_bind_within {category : V4GmoEventCategory} {k : V4GmoStoredCycle → Engine α}
    (htarget : target ∉ [V4GmoCycleState.flatReconciled, .entryFilledUnprotected,
      .protectionIntentPersisted])
    (hk : ∀ row, Within (engineFrame sha C) (k row)) :
    Within (engineFrame sha C) (restartTo sha cycleRef target category nowUtc >>= k) :=
  fun w => transition_bind_within w (sound_of_plain htarget) hk

theorem resumeSynthetic_within (depth : Nat) (cycleRef : Digest)
    (policy : V4GmoExecutionPolicy) (nowUtc : Instant) :
    Within (engineFrame sha C) (resumeSynthetic sha depth cycleRef policy nowUtc) := by
  refine Within.bind (loadCycle_within cycleRef) fun cycle => ?_
  refine Within.ite halt_within ?_
  cases cycle.state with
  | entryIntentPersisted =>
      refine read_bind_within fun snapshot w _ => ?_
      cases snapshot with
      | none => exact halt_within w
      | some snapshot =>
          exact Within.ite halt_within (attemptMarketEntry_within depth cycle policy nowUtc) w
  | marketEntryAttempted =>
      exact restartTo_bind_within (by decide)
        fun row => reconcileEntry_within policy nowUtc depth row
  | remainderCancelAttempted =>
      exact restartTo_bind_within (by decide)
        fun row => reconcileEntry_within policy nowUtc depth row
  | entryReconciling => exact reconcileEntry_within policy nowUtc depth cycle
  | entryFilledUnprotected => exact ensureProtection_within cycle policy nowUtc
  | protectionIntentPersisted => exact attemptProtection_within cycle policy nowUtc
  | protectionAttempted =>
      exact restartTo_bind_within (by decide)
        fun row => reconcileProtection_within row policy nowUtc
  | protectionReconciling => exact reconcileProtection_within cycle policy nowUtc
  | protectionCancelIntentPersisted =>
      exact attemptCancelProtection_within cycle cycle.protectedSize nowUtc
  | protectionCancelAttempted =>
      exact restartTo_bind_within (by decide)
        fun row => reconcileCancelledProtection_within row nowUtc
  | protectionCancelReconciling => exact reconcileCancelledProtection_within cycle nowUtc
  | emergencyExitIntentPersisted => exact attemptEmergencyExit_within cycle nowUtc
  | emergencyExitAttempted => exact reconcileEmergencyExit_within cycle nowUtc
  | positionProtected => exact reconcileExistingProtectedPosition_within cycle nowUtc
  | flatReconciled => exact result_within
  | haltedOperatorReviewRequired => exact result_within
  | operatorReloadCleared => exact result_within

theorem globalHalt_within (hf : ∀ store store', f store = .ok store' →
      ∃ halt, store' = { store with globalHalt := halt }) :
    Within (engineFrame sha C) (write f fun _ => []) := by
  intro w
  refine write_withinAt fun n store hstore => ?_
  obtain ⟨halt, rfl⟩ := hf _ _ hstore
  exact .globalHalt halt rfl (List.append_nil _) rfl

theorem engageGlobalHalt_within (reason : String) (nowUtc : Instant) :
    Within (engineFrame sha C) (engageGlobalHalt reason nowUtc) := by
  refine globalHalt_within fun store store' h => ?_
  unfold V4GmoStateStore.engageGlobalHalt at h
  split at h
  · cases h
  · cases h
    exact ⟨_, rfl⟩

theorem clearGlobalHaltNoPost_within (confirmation : String) (freshFlatConfirmed : Bool) :
    Within (engineFrame sha C) (clearGlobalHaltNoPost confirmation freshFlatConfirmed) := by
  refine Within.bind (ofExcept_within _) fun _ => ?_
  refine Within.bind (Within.gets _) fun activeCount => ?_
  refine Within.bind (Within.require _ _) fun _ => globalHalt_within fun store store' h => ?_
  cases h
  exact ⟨none, rfl⟩

theorem clearHaltedCycleNoPost_within (cycleRef : Digest) (confirmation : String)
    (freshFlatConfirmed : Bool) (nowUtc : Instant) :
    Within (engineFrame sha C)
      (clearHaltedCycleNoPost sha cycleRef confirmation freshFlatConfirmed nowUtc) := by
  refine Within.bind (ofExcept_within _) fun _ => ?_
  refine Within.bind (loadCycle_within cycleRef) fun cycle => ?_
  exact Within.bind (Within.require _ _)
    fun _ _ => transition_withinAt (sound_of_plain (by simp))

end Engine

inductive EngineCall
  | createCycle (signal : FormalSignal) (policy : V4GmoExecutionPolicy)
  | runSignalOnce (signal : FormalSignal) (policy : V4GmoExecutionPolicy)
      (preflight : V4GmoPreflightSnapshot)
  | resume (cycleRef : Digest) (policy : V4GmoExecutionPolicy)
  | engageGlobalHalt (reason : String)
  | clearGlobalHalt (confirmation : String) (freshFlatConfirmed : Bool)
  | clearHaltedCycle (cycleRef : Digest) (confirmation : String)
      (freshFlatConfirmed : Bool)

def EngineCall.creates : EngineCall → Bool
  | .createCycle .. | .runSignalOnce .. => true
  | _ => false

/-- One call by an engine over the store: its time, its broker and clock, the place
where the process dies, and the depth of its call stack. -/
structure EngineOp where
  call : EngineCall
  nowUtc : Instant
  broker : V4GmoSyntheticBroker := .refusing
  clock : Option (Nat → Instant) := none
  crashIn : Option Nat := none
  depth : Nat := 1000

namespace EngineOp

def start (op : EngineOp) (w : EngineWorld) : EngineWorld :=
  { w with
    broker := op.broker
    clock := op.clock
    readings := 0
    crashIn := op.crashIn
    lastRead := none
    times := w.times ++ [op.nowUtc] }

open Engine in
/-- The call as a process; its result is not used by the next one. -/
def exec (sha : Sha256) (op : EngineOp) : Engine Unit :=
  match op.call with
  | .createCycle signal policy => do
      let _ ← createCycle sha signal policy op.nowUtc
  | .runSignalOnce signal policy preflight => do
      let _ ← runSignalOnceSynthetic sha op.depth signal policy preflight op.nowUtc
  | .resume cycleRef policy => do
      let _ ← resumeSynthetic sha op.depth cycleRef policy op.nowUtc
  | .engageGlobalHalt reason => Engine.engageGlobalHalt reason op.nowUtc
  | .clearGlobalHalt confirmation freshFlatConfirmed =>
      clearGlobalHaltNoPost confirmation freshFlatConfirmed
  | .clearHaltedCycle cycleRef confirmation freshFlatConfirmed => do
      let _ ← clearHaltedCycleNoPost sha cycleRef confirmation freshFlatConfirmed op.nowUtc

end EngineOp

def engineStep (sha : Sha256) (w : EngineWorld) (op : EngineOp) : EngineWorld :=
  ((op.exec sha).run (op.start w)).2

/-- The condition on the store under which the call may create a cycle. -/
def CreatesUnder (C : V4GmoStateStore → Instant → Prop) (w : EngineWorld)
    (op : EngineOp) : Prop :=
  op.call.creates = true → C w.store op.nowUtc

section Runs

variable {sha : Sha256} {C : V4GmoStateStore → Instant → Prop}

variable {w : EngineWorld}

theorem exec_withinAt {op : EngineOp} (hC : CreatesUnder C w op) :
    WithinAt (engineFrame sha C) (op.exec sha) (op.start w) := by
  have hlatest : (op.start w).times.getLast? = some op.nowUtc := by
    simp [EngineOp.start]
  unfold EngineOp.exec
  cases hcall : op.call with
  | createCycle signal policy =>
      have hcondition : C (op.start w).store op.nowUtc := hC (by rw [hcall]; rfl)
      exact WithinAt.bind (Engine.createCycle_withinAt hlatest hcondition)
        fun _ t _ => Within.pure _ t
  | runSignalOnce signal policy preflight =>
      have hcondition : C (op.start w).store op.nowUtc := hC (by rw [hcall]; rfl)
      exact WithinAt.bind
        (Engine.runSignalOnceSynthetic_withinAt op.depth signal policy preflight hlatest
          hcondition)
        fun _ t _ => Within.pure _ t
  | resume cycleRef policy =>
      exact Within.bind (Engine.resumeSynthetic_within op.depth cycleRef policy op.nowUtc)
        (fun _ => Within.pure _) _
  | engageGlobalHalt reason => exact Engine.engageGlobalHalt_within reason op.nowUtc _
  | clearGlobalHalt confirmation fresh =>
      exact Engine.clearGlobalHaltNoPost_within confirmation fresh _
  | clearHaltedCycle cycleRef confirmation fresh =>
      exact Within.bind
        (Engine.clearHaltedCycleNoPost_within cycleRef confirmation fresh op.nowUtc)
        (fun _ => Within.pure _) _

theorem engineStep_steps {op : EngineOp} (hC : CreatesUnder C w op) :
    Relation.ReflTransGen (EngineStep sha C) w (engineStep sha w op) := by
  have hstart : EngineStep sha C w (op.start w) := .quiet rfl rfl (List.prefix_append _ _)
  exact .head hstart (exec_withinAt hC)

/-- **Invariant rule of the engine.** What every engine step keeps holds after every
run. -/
theorem engine_invariant {I : EngineWorld → Prop}
    (hstep : ∀ w w', EngineStep sha C w w' → I w → I w') (hw : I w)
    {ops : List EngineOp} (hC : MeetsAlong (engineStep sha) (CreatesUnder C) w ops) :
    I (after (engineStep sha) w ops) := by
  refine invariant_after (fun w op hI hop => ?_) hw hC
  have hkeeps : ∀ w', Relation.ReflTransGen (EngineStep sha C) w w' → I w' := by
    intro w' hsteps
    induction hsteps with
    | refl => exact hI
    | tail _ hlast ih => exact hstep _ _ hlast ih
  exact hkeeps _ (engineStep_steps hop)

theorem engine_invariant_always {I : EngineWorld → Prop}
    (hstep : ∀ w w', EngineStep sha (fun _ _ => True) w w' → I w → I w')
    (hw : I w) (ops : List EngineOp) : I (after (engineStep sha) w ops) :=
  engine_invariant hstep hw (meetsAlong_always fun _ _ _ => trivial)

end Runs

namespace Sample

def readyPreflight : V4GmoPreflightSnapshot where
  bootReconciled := true
  processLockHeld := true
  dataFresh := true
  clockSynchronized := true
  notificationPathReady := true
  brokerSnapshotFresh := true

def acceptingBroker (snapshots : List V4GmoBrokerSnapshot) : V4GmoSyntheticBroker :=
  .fake { outcomes := fun _ => [.accepted], snapshots }

def filledSnapshot : V4GmoBrokerSnapshot :=
  { V4GmoBrokerSnapshot.flat with
    positionCount := 1, positionSide := some .buy, filledSize := 1000, entryStatus := .filled }

def protectedSnapshot : V4GmoBrokerSnapshot :=
  { filledSnapshot with protectionSize := 1000, protectionStatus := .exactMatch }

def engineCycleRef (seconds : Int) : Digest :=
  match buildV4CycleRef Sha256.checksum (signal seconds) policy with
  | .ok cycleRef => cycleRef
  | .error _ => []

def runSignal (seconds : Int) (broker : V4GmoSyntheticBroker) (crashIn : Option Nat) :
    EngineOp where
  call := .runSignalOnce (signal seconds) policy readyPreflight
  nowUtc := at_ (seconds + 1)
  broker
  crashIn

/-- The cycle of a signal, resumed at some second. -/
def resumeAt (seconds now : Int) (broker : V4GmoSyntheticBroker) : EngineOp where
  call := .resume (engineCycleRef seconds) policy
  nowUtc := at_ now
  broker

end Sample

end FxStrategyLab
