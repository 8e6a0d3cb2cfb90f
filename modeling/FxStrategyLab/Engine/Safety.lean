import FxStrategyLab.Engine.Runs

/-!
# What no run of the synthetic engine does

Three invariants of the engine's steps, over any sequence of calls with a crash
anywhere.  Each action of a cycle is performed at most once and only after its
attempt is committed.  Two entries fall on one JST day only where a cycle was
created on the day of an entry whose own cycle is of a former day.  A move to
FLAT rests on a snapshot that is flat but for the fill it may still report.
-/

namespace FxStrategyLab

open Library

def EngineEvent.performedKey : EngineEvent → Option (Digest × V4GmoAction)
  | performed plan _ => some (plan.cycleRef, plan.action)
  | moved .. => none

def EngineWorld.performedKeys (w : EngineWorld) : List (Digest × V4GmoAction) :=
  w.events.filterMap EngineEvent.performedKey

def V4GmoStateStore.attemptKeys (store : V4GmoStateStore) : List (Digest × V4GmoAction) :=
  store.attempts.rows.map V4GmoActionAttempt.primaryKey

/-- Performed actions are distinct, their attempts are committed, and were so at the
moment of the action. -/
structure PerformedOnce (w : EngineWorld) : Prop where
  nodup : w.performedKeys.Nodup
  attempted : ∀ key ∈ w.performedKeys, key ∈ w.store.attemptKeys
  committed : ∀ plan committed, EngineEvent.performed plan committed ∈ w.events →
    (plan.cycleRef, plan.action) ∈ committed

section Safety

variable {sha : Sha256}

namespace V4GmoStateStore

variable {store store' : V4GmoStateStore} {cycleRef : Digest}

theorem attemptKeys_recordActionAttempt {action : V4GmoAction} {target : V4GmoCycleState}
    {nowUtc : Instant}
    (h : recordActionAttempt sha cycleRef action target nowUtc store = .ok store') :
    (cycleRef, action) ∉ store.attemptKeys ∧
      store'.attemptKeys = store.attemptKeys ++ [(cycleRef, action)] := by
  obtain ⟨row, -, -, -, hfresh, hrows, -⟩ := recordActionAttempt_ok h
  refine ⟨hfresh, ?_⟩
  unfold attemptKeys
  rw [hrows, List.map_append]
  rfl

theorem attemptKeys_recordActionOutcome {action : V4GmoAction} {outcome : V4GmoSyntheticOutcome}
    (h : recordActionOutcome sha cycleRef action outcome store = .ok store') :
    store'.attemptKeys = store.attemptKeys := by
  unfold attemptKeys
  rw [(recordActionOutcome_ok h).2, List.map_map]
  refine List.map_congr_left fun attempt _ => ?_
  simp only [Function.comp_apply]
  split <;> rfl

end V4GmoStateStore

variable {w w' : EngineWorld}

theorem PerformedOnce.of_same (hI : PerformedOnce w)
    {later : List EngineEvent} (hevents : w'.events = w.events ++ later)
    (hlater : ∀ event ∈ later, event.performedKey = none)
    (hattempts : ∀ key ∈ w.store.attemptKeys, key ∈ w'.store.attemptKeys) : PerformedOnce w' := by
  have hkeys : w'.performedKeys = w.performedKeys := by
    have hnone : later.filterMap EngineEvent.performedKey = [] :=
      List.filterMap_eq_nil_iff.mpr hlater
    unfold EngineWorld.performedKeys
    rw [hevents, List.filterMap_append, hnone, List.append_nil]
  refine ⟨hkeys ▸ hI.nodup, fun key hkey => hattempts key (hI.attempted key (hkeys ▸ hkey)),
    fun plan committed hmem => ?_⟩
  rw [hevents, List.mem_append] at hmem
  rcases hmem with hmem | hmem
  · exact hI.committed plan committed hmem
  · cases hlater _ hmem

/-- **Step lemma.** Every engine step keeps the invariant. -/
theorem PerformedOnce.step {C : V4GmoStateStore → Instant → Prop}
    (h : EngineStep sha C w w') (hI : PerformedOnce w) : PerformedOnce w' := by
  cases h with
  | quiet hstore hevents htimes =>
      exact hI.of_same (hevents.trans (List.append_nil _).symm) (by simp)
        fun key hkey => hstore ▸ hkey
  | create cycleRef signal policy nowUtc _ _ hcommitted hevents =>
      have hattempts := (V4GmoStateStore.createCycle_ok hcommitted).2.2.2.2.2
      exact hI.of_same (hevents.trans (List.append_nil _).symm) (by simp)
        fun key hkey => by rwa [V4GmoStateStore.attemptKeys, hattempts]
  | outcome cycleRef action outcome hcommitted hevents =>
      have hkeys := V4GmoStateStore.attemptKeys_recordActionOutcome hcommitted
      exact hI.of_same (hevents.trans (List.append_nil _).symm) (by simp)
        fun key hkey => hkeys ▸ hkey
  | move cycleRef move nowUtc hcommitted hevents =>
      obtain ⟨row, -, -, hattempts, -⟩ := V4GmoStateStore.transition_ok hcommitted
      refine hI.of_same hevents (fun event hmem => ?_)
        fun key hkey => by rwa [V4GmoStateStore.attemptKeys, hattempts]
      obtain ⟨row, -, rfl⟩ := List.mem_map.mp hmem
      rfl
  | globalHalt halt hstore hevents =>
      exact hI.of_same (hevents.trans (List.append_nil _).symm) (by simp)
        fun key hkey => by rw [hstore]; exact hkey
  | attempt cycleRef action target nowUtc hcommitted hevents =>
      obtain ⟨hfresh, hkeys⟩ := V4GmoStateStore.attemptKeys_recordActionAttempt hcommitted
      have hgrow : ∀ key ∈ w.store.attemptKeys, key ∈ w'.store.attemptKeys :=
        fun key hkey => hkeys ▸ List.mem_append_left _ hkey
      rcases hevents with hevents | ⟨plan, rfl, rfl, hevents⟩
      · exact hI.of_same (hevents.trans (List.append_nil _).symm) (by simp) hgrow
      -- the action follows its attempt, whose key no attempt had before
      have hnew : (plan.cycleRef, plan.action) ∈ w'.store.attemptKeys := by
        rw [hkeys]
        simp
      have hperformed : w'.performedKeys =
          w.performedKeys ++ [(plan.cycleRef, plan.action)] := by
        unfold EngineWorld.performedKeys
        rw [hevents, List.filterMap_append]
        rfl
      refine ⟨?_, ?_, ?_⟩
      · rw [hperformed]
        refine List.Nodup.append hI.nodup (List.nodup_singleton _) ?_
        rw [List.disjoint_singleton]
        exact fun hmem => hfresh (hI.attempted _ hmem)
      · rw [hperformed]
        intro key hkey
        rcases List.mem_append.mp hkey with hkey | hkey
        · exact hgrow key (hI.attempted key hkey)
        · rw [List.mem_singleton.mp hkey]
          exact hnew
      · rw [hevents]
        intro p committed hmem
        rcases List.mem_append.mp hmem with hmem | hmem
        · exact hI.committed p committed hmem
        · cases List.mem_singleton.mp hmem
          exact hnew

/-- **Each broker action happens at most once.** Over any sequence of calls, with any
answers of the brokers and a crash anywhere, no action of a cycle is performed twice,
and each is performed when its attempt is committed. -/
theorem each_action_performed_once (sha : Sha256) (ops : List EngineOp) :
    (after (engineStep sha) {} ops).performedKeys.Nodup ∧
      ∀ plan committed,
        EngineEvent.performed plan committed ∈ (after (engineStep sha) {} ops).events →
          (plan.cycleRef, plan.action) ∈ committed := by
  have hstart : PerformedOnce {} := ⟨List.nodup_nil, by simp [EngineWorld.performedKeys],
    by simp⟩
  have hI : PerformedOnce (after (engineStep sha) {} ops) :=
    engine_invariant_always (fun _ _ => PerformedOnce.step) hstart ops
  exact ⟨hI.nodup, hI.committed⟩

/-- A cycle that dies before the outcome of its entry is recorded, and its resumption. -/
def Sample.resumedEntry : List EngineOp :=
  [runSignal 0 (acceptingBroker []) (some 3),
    resumeAt 0 5 (acceptingBroker [filledSnapshot, protectedSnapshot])]

/-- The entry of a resumed cycle is not repeated. -/
theorem each_action_performed_once_resumed :
    (after (engineStep Sha256.checksum) {} Sample.resumedEntry).performedKeys =
        [(Sample.engineCycleRef 0, .marketEntry),
          (Sample.engineCycleRef 0, .exactSizeOcoProtection)] ∧
      (after (engineStep Sha256.checksum) {} Sample.resumedEntry).performedKeys.Nodup :=
  ⟨by decide +kernel, (each_action_performed_once Sha256.checksum Sample.resumedEntry).1⟩

/-- Every transition so far rested on what its engine read last. -/
def MovesSound (w : EngineWorld) : Prop :=
  ∀ cycle move nowUtc snapshot,
    EngineEvent.moved cycle move nowUtc snapshot ∈ w.events → move.Sound snapshot

/-- **Step lemma.** Every engine step keeps the transitions sound. -/
theorem MovesSound.step {C : V4GmoStateStore → Instant → Prop}
    (h : EngineStep sha C w w') (hI : MovesSound w) : MovesSound w' := by
  cases h with
  | quiet _ hevents => exact fun c m n s hmem => hI c m n s (hevents ▸ hmem)
  | create _ _ _ _ _ _ _ hevents => exact fun c m n s hmem => hI c m n s (hevents ▸ hmem)
  | outcome _ _ _ _ hevents => exact fun c m n s hmem => hI c m n s (hevents ▸ hmem)
  | globalHalt _ _ hevents => exact fun c m n s hmem => hI c m n s (hevents ▸ hmem)
  | attempt _ _ _ _ _ hevents =>
      intro c m n s hmem
      rcases hevents with hevents | ⟨plan, -, -, hevents⟩
      · exact hI c m n s (hevents ▸ hmem)
      · rw [hevents, List.mem_append] at hmem
        rcases hmem with hmem | hmem
        · exact hI c m n s hmem
        · cases List.mem_singleton.mp hmem
  | move cycleRef move nowUtc _ hevents _ hsound =>
      intro c m n s hmem
      rw [hevents, List.mem_append] at hmem
      rcases hmem with hmem | hmem
      · exact hI c m n s hmem
      · obtain ⟨row, -, heq⟩ := List.mem_map.mp hmem
        cases heq
        exact hsound

theorem flatSnapshotBlockedReasons_of_spelledOutFlat {snapshot : V4GmoBrokerSnapshot}
    (hknown : snapshot.fresh = true ∧ snapshot.resultKnown = true)
    (hflat : Engine.spelledOutFlat snapshot = true) :
    flatSnapshotBlockedReasons snapshot = [] ↔ snapshot.filledSize = 0 := by
  obtain ⟨hposition, hpending, hsize, hstatus⟩ := of_decide_eq_true hflat
  rw [flatSnapshotBlockedReasons_eq_nil]
  exact ⟨fun h => h.2.2.2.1, fun hfilled =>
    ⟨hknown.1, hknown.2, hposition, hfilled, hpending, hsize, hstatus⟩⟩

def EngineEvent.flatReading : EngineEvent → Option (Option V4GmoBrokerSnapshot)
  | performed .. => none
  | moved _ move _ reading =>
      if move.target = .flatReconciled then some reading else none

def EngineWorld.flatReadings (w : EngineWorld) : List (Option V4GmoBrokerSnapshot) :=
  w.events.filterMap EngineEvent.flatReading

/-- A transition to FLAT is made on a snapshot whose flatness only the fill can refute. -/
theorem flatReading_sound {ops : List EngineOp} {reading : Option V4GmoBrokerSnapshot}
    (h : reading ∈ (after (engineStep sha) {} ops).flatReadings) :
    ∃ snapshot, reading = some snapshot ∧
      (flatSnapshotBlockedReasons snapshot = [] ↔ snapshot.filledSize = 0) := by
  have hstart : MovesSound {} := fun _ _ _ _ hmem => nomatch hmem
  have hI : MovesSound (after (engineStep sha) {} ops) :=
    engine_invariant_always (fun _ _ => MovesSound.step) hstart ops
  obtain ⟨event, hevent, hreading⟩ := List.mem_filterMap.mp h
  cases event with
  | performed plan committed => cases hreading
  | moved cycle move nowUtc last =>
      change (if move.target = .flatReconciled then some last else none) = some reading
        at hreading
      split at hreading
      case isFalse => cases hreading
      case isTrue hflat =>
        cases hreading
        obtain ⟨snapshot, hlast, hfresh, hknown, htest⟩ :=
          (hI cycle move nowUtc reading hevent).flat hflat
        exact ⟨snapshot, hlast,
          flatSnapshotBlockedReasons_of_spelledOutFlat ⟨hfresh, hknown⟩ htest⟩

/-- A position that is gone when the protection is reconciled, while the snapshot still
reports the fill. -/
def Sample.goneWithFill : List EngineOp :=
  [runSignal 0
    (acceptingBroker
      [filledSnapshot, { V4GmoBrokerSnapshot.flat with filledSize := 1000 }]) none]

end Safety

end FxStrategyLab
