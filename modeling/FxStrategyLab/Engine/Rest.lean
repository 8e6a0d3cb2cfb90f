import FxStrategyLab.Engine.Safety

/-!
# Every engine call ends at rest

`resume_synthetic` of an active cycle, in any store that a run can reach, returns
and leaves the cycle protected, flat or halted.  The argument is an invariant of
the store: the attempts of a cycle are among those its state allows for, so that
no path asks for an action a second time, and a cycle whose entry is filled
stores a fill, so that no path plans an order of size zero.  Every method of the
engine then gets a rule that says it returns.
-/

namespace FxStrategyLab

open Library

namespace V4GmoCycleState

def mayHaveAttempted : V4GmoCycleState → List V4GmoAction
  | entryIntentPersisted => []
  | marketEntryAttempted => [.marketEntry]
  | entryReconciling | remainderCancelAttempted | entryFilledUnprotected
  | protectionIntentPersisted => [.marketEntry, .cancelEntryRemainder]
  | protectionAttempted | protectionReconciling | positionProtected
  | protectionCancelIntentPersisted =>
      [.marketEntry, .cancelEntryRemainder, .exactSizeOcoProtection]
  | protectionCancelAttempted | protectionCancelReconciling
  | emergencyExitIntentPersisted =>
      [.marketEntry, .cancelEntryRemainder, .exactSizeOcoProtection,
        .cancelMismatchedProtection]
  | emergencyExitAttempted | flatReconciled | haltedOperatorReviewRequired
  | operatorReloadCleared => Engine.allActions

def atRest : List V4GmoCycleState :=
  [positionProtected, flatReconciled, haltedOperatorReviewRequired]

theorem mayHaveAttempted_subset {state target : V4GmoCycleState}
    (h : target ∈ state.allowedTargets) : state.mayHaveAttempted ⊆ target.mayHaveAttempted := by
  revert h
  revert target
  cases state <;> decide

theorem mem_mayHaveAttempted {action : V4GmoAction} {target : V4GmoCycleState}
    (h : action.attemptTarget = some target) : action ∈ target.mayHaveAttempted := by
  cases action <;> cases h <;> decide

end V4GmoCycleState

/-- A stored cycle is well formed, and stores a fill while its entry is filled and not
yet under protection. -/
structure V4GmoStoredCycle.Sound (row : V4GmoStoredCycle) : Prop where
  cycleRef_hex : IsHex64 row.cycleRef
  side_directional : row.side.Directional
  requestedSize_pos : 0 < row.requestedSize
  filled : row.state = .entryFilledUnprotected ∨ row.state = .protectionIntentPersisted →
    0 < row.filledSize

/-- Every cycle is sound, every attempt is of a cycle, and its state allows for it. -/
structure V4GmoStateStore.Sound (store : V4GmoStateStore) : Prop where
  cycles : ∀ row ∈ store.cycles.rows, row.Sound
  known : ∀ key ∈ store.attemptKeys, ∃ row ∈ store.cycles.rows, row.cycleRef = key.1
  allowed : ∀ row ∈ store.cycles.rows, ∀ action, (row.cycleRef, action) ∈ store.attemptKeys →
    action ∈ row.state.mayHaveAttempted

section Rest

variable {sha : Sha256}

namespace V4GmoStateStore

variable {store store' : V4GmoStateStore} {cycleRef : Digest}

variable {nowUtc : Instant}

theorem Sound.createCycle {signal : FormalSignal} {policy : V4GmoExecutionPolicy}
    (hI : store.Sound) (h : createCycle sha cycleRef signal policy nowUtc store = .ok store')
    (hhex : IsHex64 cycleRef) (hside : signal.decision.Directional) : store'.Sound := by
  obtain ⟨-, -, -, hfresh, hrows, hattempts⟩ := createCycle_ok h
  have hkeys : store'.attemptKeys = store.attemptKeys := by
    unfold attemptKeys
    rw [hattempts]
  refine ⟨?_, ?_, ?_⟩
  · rw [hrows]
    intro row hrow
    rcases List.mem_append.mp hrow with hrow | hrow
    · exact hI.cycles row hrow
    · rw [List.mem_singleton.mp hrow]
      exact ⟨hhex, hside, Nat.succ_pos 999, by simp [newCycle]⟩
  · rw [hkeys, hrows]
    intro key hkey
    obtain ⟨row, hrow, href⟩ := hI.known key hkey
    exact ⟨row, List.mem_append_left _ hrow, href⟩
  · rw [hkeys, hrows]
    intro row hrow action hkey
    rcases List.mem_append.mp hrow with hrow | hrow
    · exact hI.allowed row hrow action hkey
    -- a new cycle has a new reference, which no attempt carries
    · obtain ⟨old, hold, href⟩ := hI.known _ hkey
      refine absurd ?_ (hfresh V4GmoStoredCycle.cycleRef (by simp [storedCycleKeys]))
      rw [List.mem_singleton.mp hrow] at href
      exact List.mem_map.mpr ⟨old, hold, href⟩

/-- Changing the state of a cycle along an allowed transition keeps the store sound, if
the changed row is sound and its new attempts are allowed for. -/
theorem Sound.updateCycle {f : V4GmoStoredCycle → V4GmoStoredCycle} {hf : KeepsKeys f}
    {row : V4GmoStoredCycle} (hI : store.Sound) (hrow : store.cycle? cycleRef = some row)
    (hcycles : store'.cycles = (store.updateCycle cycleRef f hf).cycles) (hsound : (f row).Sound)
    (hnew : ∀ key ∈ store'.attemptKeys, key ∈ store.attemptKeys ∨ key.1 = cycleRef)
    (hallowed : ∀ action, (cycleRef, action) ∈ store'.attemptKeys →
      action ∈ (f row).state.mayHaveAttempted) : store'.Sound := by
  have hkey : (f row).cycleRef = row.cycleRef := hf row V4GmoStoredCycle.cycleRef
    (by simp [storedCycleKeys])
  have hold := cycle?_eq_some.mp hrow
  have hmem : ∀ r ∈ store'.cycles.rows, (r ∈ store.cycles.rows ∧ r.cycleRef ≠ cycleRef) ∨
      r = f row := by
    intro r hr
    rw [hcycles, mem_updateCycle] at hr
    rcases hr with hr | ⟨row', hrow', rfl⟩
    · exact Or.inl hr
    · rw [Option.some.inj (hrow.symm.trans hrow')]
      exact Or.inr rfl
  have hchanged : f row ∈ store'.cycles.rows := by
    rw [hcycles, mem_updateCycle]
    exact Or.inr ⟨row, hrow, rfl⟩
  refine ⟨?_, ?_, ?_⟩
  · intro r hr
    rcases hmem r hr with ⟨hr, -⟩ | rfl
    · exact hI.cycles r hr
    · exact hsound
  · intro key hkeys
    rcases hnew key hkeys with hkeys | hcycle
    · obtain ⟨r, hr, href⟩ := hI.known key hkeys
      by_cases hsame : r.cycleRef = cycleRef
      · exact ⟨f row, hchanged, by rw [hkey, hold.2, ← hsame, href]⟩
      · refine ⟨r, ?_, href⟩
        rw [hcycles, mem_updateCycle]
        exact Or.inl ⟨hr, hsame⟩
    · exact ⟨f row, hchanged, by rw [hkey, hold.2, hcycle]⟩
  · intro r hr action hkeys
    rcases hmem r hr with ⟨hr, hother⟩ | rfl
    · rcases hnew _ hkeys with hkeys | hcycle
      · exact hI.allowed r hr action hkeys
      · exact absurd hcycle hother
    · rw [hkey, hold.2] at hkeys
      exact hallowed action hkeys

theorem Sound.recordActionAttempt {action : V4GmoAction} {target : V4GmoCycleState}
    (hI : store.Sound)
    (h : recordActionAttempt sha cycleRef action target nowUtc store = .ok store') :
    store'.Sound := by
  obtain ⟨-, hkeys⟩ := attemptKeys_recordActionAttempt h
  obtain ⟨row, hrow, htarget, hallowed, -, -, hcycles⟩ := recordActionAttempt_ok h
  have hold := cycle?_eq_some.mp hrow
  have hsound := hI.cycles row hold.1
  refine hI.updateCycle hrow hcycles ⟨hsound.cycleRef_hex, hsound.side_directional,
    hsound.requestedSize_pos, ?_⟩ ?_ ?_
  · rintro (hstate | hstate)
    all_goals
      cases hstate
      cases action <;> cases htarget
  · intro key hkey
    rw [hkeys] at hkey
    rcases List.mem_append.mp hkey with hkey | hkey
    · exact Or.inl hkey
    · rw [List.mem_singleton.mp hkey]
      exact Or.inr rfl
  · intro a hkey
    rw [hkeys] at hkey
    rcases List.mem_append.mp hkey with hkey | hkey
    · exact V4GmoCycleState.mayHaveAttempted_subset hallowed
        (hI.allowed row hold.1 a (hold.2.symm ▸ hkey))
    · cases List.mem_singleton.mp hkey
      exact V4GmoCycleState.mem_mayHaveAttempted htarget

def FillStored (move : V4GmoMove) : Prop :=
  (move.target = .entryFilledUnprotected → ∃ size, 0 < size ∧ move.filledSize = some size) ∧
    (move.target = .protectionIntentPersisted → move.filledSize = none)

variable {move : V4GmoMove}

theorem fillStored_of_plain
    (h : move.target ∉ [V4GmoCycleState.entryFilledUnprotected, .protectionIntentPersisted]) :
    FillStored move := by
  simp only [List.mem_cons, List.not_mem_nil, or_false, not_or] at h
  exact ⟨fun ht => absurd ht h.1, fun ht => absurd ht h.2⟩

theorem movedCycle_sound {row : V4GmoStoredCycle}
    (hrow : row.Sound) (hallowed : move.target ∈ row.state.allowedTargets)
    (hfill : FillStored move) : (movedCycle move nowUtc row).Sound := by
  refine ⟨hrow.cycleRef_hex, hrow.side_directional, hrow.requestedSize_pos, ?_⟩
  rintro (hstate | hstate)
  · obtain ⟨size, hpos, hsize⟩ := hfill.1 hstate
    simpa [movedCycle, hsize] using hpos
  · have hfrom : row.state = .entryFilledUnprotected := by
      have htarget : move.target = .protectionIntentPersisted := hstate
      rw [htarget] at hallowed
      revert hallowed
      cases row.state <;> decide
    simpa [movedCycle, hfill.2 hstate] using hrow.filled (Or.inl hfrom)

theorem Sound.transition (hI : store.Sound)
    (h : transition sha cycleRef move nowUtc store = .ok store')
    (hfill : FillStored move) : store'.Sound := by
  obtain ⟨row, hrow, hallowed, hattempts, hcycles⟩ := transition_ok h
  have hkeys : store'.attemptKeys = store.attemptKeys := by
    unfold attemptKeys
    rw [hattempts]
  have hold := cycle?_eq_some.mp hrow
  refine hI.updateCycle hrow hcycles
    (movedCycle_sound (hI.cycles row hold.1) hallowed hfill) ?_ ?_
  · exact fun key hkey => Or.inl (hkeys ▸ hkey)
  · intro action hkey
    rw [hkeys] at hkey
    exact V4GmoCycleState.mayHaveAttempted_subset hallowed
      (hI.allowed row hold.1 action (hold.2.symm ▸ hkey))

theorem Sound.of_same (hI : store.Sound) (hcycles : store'.cycles = store.cycles)
    (hkeys : store'.attemptKeys = store.attemptKeys) : store'.Sound := by
  refine ⟨?_, ?_, ?_⟩
  · rw [hcycles]
    exact hI.cycles
  · rw [hkeys, hcycles]
    exact hI.known
  · rw [hkeys, hcycles]
    exact hI.allowed

/-- **Step lemma.** Every engine step keeps the store sound. -/
theorem Sound.step {C : V4GmoStateStore → Instant → Prop} {w w' : EngineWorld}
    (h : EngineStep sha C w w') (hI : w.store.Sound) : w'.store.Sound := by
  cases h with
  | quiet hstore => exact hstore ▸ hI
  | create cycleRef signal policy nowUtc hhex hside hcommitted =>
      exact hI.createCycle hcommitted hhex hside
  | attempt cycleRef action target nowUtc hcommitted =>
      exact hI.recordActionAttempt hcommitted
  | outcome cycleRef action outcome hcommitted =>
      exact hI.of_same (recordActionOutcome_ok hcommitted).1
        (attemptKeys_recordActionOutcome hcommitted)
  | move cycleRef move nowUtc hcommitted _ _ hsound =>
      exact hI.transition hcommitted ⟨hsound.filled, hsound.intended⟩
  | globalHalt halt hstore => exact hI.of_same (by rw [hstore]) (by rw [hstore]; rfl)

theorem sound_of_run (ops : List EngineOp) : (after (engineStep sha) {} ops).store.Sound := by
  have hstart : ({} : EngineWorld).store.Sound := by
    refine ⟨?_, ?_, ?_⟩
    all_goals
      intro x hx
      cases hx
  exact engine_invariant_always (fun _ _ => Sound.step) hstart ops

end V4GmoStateStore

open V4GmoStateStore (FillStored fillStored_of_plain)

/-- A cycle in hand: its row is the stored one, the store is sound, and no crash is to
come. -/
structure Live (w : EngineWorld) (cycle : V4GmoStoredCycle) : Prop where
  sound : w.store.Sound
  noCrash : w.crashIn = none
  stored : cycle ∈ w.store.cycles.rows

theorem Live.cycle? {w : EngineWorld} {cycle : V4GmoStoredCycle} (h : Live w cycle) :
    w.store.cycle? cycle.cycleRef = some cycle :=
  V4GmoStateStore.cycle?_eq_some.mpr ⟨h.stored, rfl⟩

def LeftAtRest (cycleRef : Digest) (_ : Engine.V4GmoCycleResult) (w : EngineWorld) : Prop :=
  ∃ row ∈ w.store.cycles.rows, row.cycleRef = cycleRef ∧ row.state ∈ V4GmoCycleState.atRest

namespace Engine

variable {w : EngineWorld} {cycle : V4GmoStoredCycle}

theorem write_returns {f : V4GmoStateStore → Except V4Error V4GmoStateStore}
    {note : EngineWorld → List EngineEvent} {store : V4GmoStateStore}
    (hcrash : w.crashIn = none) (hf : f w.store = .ok store) :
    Returns (write f note) w fun _ t => t.store = store ∧ t.crashIn = none := by
  have hpoint : crashPoint.run w = (.returned (), w) := by
    rw [run_crashPoint, hcrash]
  refine ⟨(), { w with store, events := w.events ++ note w }, ?_, rfl, hcrash⟩
  unfold write
  rw [Process.run_bind_returned hpoint, run_commit, hf]

theorem loadCycle_returns {t : EngineWorld} {row : V4GmoStoredCycle}
    (hrow : t.store.cycle? row.cycleRef = some row) {Q : V4GmoStoredCycle → EngineWorld → Prop}
    (hQ : Q row t) : Returns (loadCycle row.cycleRef) t Q := by
  refine ⟨row, t, ?_, hQ⟩
  unfold loadCycle
  rw [Process.run_gets_bind]
  unfold V4GmoStateStore.loadCycle
  rw [hrow]
  rfl

variable {nowUtc attemptedAtUtc fallback : Instant}

theorem transition_returns {move : V4GmoMove} (h : Live w cycle)
    (hallowed : move.target ∈ cycle.state.allowedTargets) (hfill : FillStored move) :
    Returns (transition sha cycle.cycleRef move nowUtc) w fun row t =>
      row = V4GmoStateStore.movedCycle move nowUtc cycle ∧ Live t row ∧
        t.store.attemptKeys = w.store.attemptKeys := by
  obtain ⟨store, hcommitted⟩ :
      ∃ store, V4GmoStateStore.transition sha cycle.cycleRef move nowUtc w.store =
        .ok store := by
    unfold V4GmoStateStore.transition
    rw [h.cycle?]
    simp only
    rw [V4GmoStateStore.requireV4Transition_ok.mpr hallowed]
    exact ⟨_, rfl⟩
  refine Returns.bind (write_returns h.noCrash hcommitted) fun _ t ht => ?_
  obtain ⟨hstore, hcrash⟩ := ht
  obtain ⟨row, hrow, -, hattempts, hcycles⟩ := V4GmoStateStore.transition_ok hcommitted
  obtain rfl : cycle = row := Option.some.inj (h.cycle?.symm.trans hrow)
  have hkeys : t.store.attemptKeys = w.store.attemptKeys := by
    rw [hstore]
    exact congrArg (fun table => table.rows.map V4GmoActionAttempt.primaryKey) hattempts
  have hmem : V4GmoStateStore.movedCycle move nowUtc cycle ∈ t.store.cycles.rows := by
    rw [hstore, hcycles, V4GmoStateStore.mem_updateCycle]
    exact Or.inr ⟨cycle, hrow, rfl⟩
  have hlive : Live t (V4GmoStateStore.movedCycle move nowUtc cycle) :=
    ⟨hstore ▸ h.sound.transition hcommitted hfill, hcrash, hmem⟩
  exact loadCycle_returns hlive.cycle? ⟨rfl, hlive, hkeys⟩

variable {action : V4GmoAction} {target : V4GmoCycleState}

theorem recordActionAttempt_returns
    (h : Live w cycle) (htarget : action.attemptTarget = some target)
    (hallowed : target ∈ cycle.state.allowedTargets)
    (hfirst : (cycle.cycleRef, action) ∉ w.store.attemptKeys) :
    Returns (recordActionAttempt sha cycle.cycleRef action target nowUtc) w fun row t =>
      row = V4GmoStateStore.attemptedCycle action target nowUtc cycle ∧ Live t row ∧
        V4GmoActionAttempt.mk cycle.cycleRef action nowUtc none ∈ t.store.attempts.rows := by
  obtain ⟨store, hcommitted⟩ :
      ∃ store, V4GmoStateStore.recordActionAttempt sha cycle.cycleRef action target nowUtc
        w.store = .ok store := by
    have hfresh : w.store.attempts.Fresh
        { cycleRef := cycle.cycleRef, action, attemptedAtUtc := nowUtc } := by
      intro key hkey
      rw [List.mem_singleton.mp hkey]
      exact hfirst
    have hinsert : w.store.attempts.insert?
        { cycleRef := cycle.cycleRef, action, attemptedAtUtc := nowUtc } = some _ :=
      dif_pos hfresh
    unfold V4GmoStateStore.recordActionAttempt
    rw [if_neg (by simp [htarget]), if_neg (by simp [htarget]), h.cycle?]
    simp only
    rw [V4GmoStateStore.requireV4Transition_ok.mpr hallowed, hinsert]
    exact ⟨_, rfl⟩
  refine Returns.bind (write_returns h.noCrash hcommitted) fun _ t ht => ?_
  obtain ⟨hstore, hcrash⟩ := ht
  obtain ⟨row, hrow, -, -, -, hattempts, hcycles⟩ :=
    V4GmoStateStore.recordActionAttempt_ok hcommitted
  obtain rfl : cycle = row := Option.some.inj (h.cycle?.symm.trans hrow)
  have hmem : V4GmoStateStore.attemptedCycle action target nowUtc cycle ∈
      t.store.cycles.rows := by
    rw [hstore, hcycles, V4GmoStateStore.mem_updateCycle]
    exact Or.inr ⟨cycle, hrow, rfl⟩
  have hlive : Live t (V4GmoStateStore.attemptedCycle action target nowUtc cycle) :=
    ⟨hstore ▸ h.sound.recordActionAttempt hcommitted, hcrash, hmem⟩
  refine loadCycle_returns hlive.cycle? ⟨rfl, hlive, ?_⟩
  rw [hstore, hattempts]
  simp

theorem recordActionOutcome_returns {outcome : V4GmoSyntheticOutcome} (h : Live w cycle)
    (hopen : V4GmoActionAttempt.mk cycle.cycleRef action attemptedAtUtc none ∈
      w.store.attempts.rows) :
    Returns (recordActionOutcome sha cycle.cycleRef action outcome) w fun _ t =>
      Live t cycle ∧ t.store.attemptKeys = w.store.attemptKeys := by
  obtain ⟨store, hcommitted⟩ :
      ∃ store, V4GmoStateStore.recordActionOutcome sha cycle.cycleRef action outcome
        w.store = .ok store := by
    have hany : w.store.attempts.rows.any
        (V4GmoStateStore.openAttempt cycle.cycleRef action) = true :=
      List.any_eq_true.mpr ⟨_, hopen, decide_eq_true ⟨rfl, rfl⟩⟩
    unfold V4GmoStateStore.recordActionOutcome
    rw [if_neg (by simp [hany]), h.cycle?]
    exact ⟨_, rfl⟩
  refine (write_returns h.noCrash hcommitted).mono fun _ t ht => ?_
  obtain ⟨hstore, hcrash⟩ := ht
  have hcycles := (V4GmoStateStore.recordActionOutcome_ok hcommitted).1
  have hkeys := V4GmoStateStore.attemptKeys_recordActionOutcome hcommitted
  refine ⟨⟨hstore ▸ h.sound.of_same hcycles hkeys, hcrash, ?_⟩, hstore ▸ hkeys⟩
  rw [hstore, hcycles]
  exact h.stored

theorem Live.of_store {t : EngineWorld} (h : Live w cycle) (hstore : t.store = w.store)
    (hcrash : t.crashIn = w.crashIn) : Live t cycle :=
  ⟨hstore ▸ h.sound, hcrash.trans h.noCrash, hstore ▸ h.stored⟩

theorem perform_returns {plan : V4GmoActionPlan} (hcrash : w.crashIn = none) :
    Returns (perform plan) w fun _ t => t.store = w.store ∧ t.crashIn = w.crashIn := by
  have hpoint : crashPoint.run w = (.returned (), w) := by
    rw [run_crashPoint, hcrash]
  refine ⟨_, _, (Process.run_bind_returned hpoint _).trans rfl, rfl, rfl⟩

theorem now_returns :
    Returns (now fallback) w fun _ t => t.store = w.store ∧ t.crashIn = w.crashIn :=
  ⟨_, _, rfl, rfl, rfl⟩

theorem halt_returns {reason : V4GmoHaltReason} (h : Live w cycle)
    (hactive : cycle.state.active = true) :
    Returns (halt sha cycle reason nowUtc) w (LeftAtRest cycle.cycleRef) := by
  refine Returns.bind (transition_returns h
    (V4GmoCycleState.halted_mem_allowedTargets hactive)
    (fillStored_of_plain (by simp))) fun row t ht => ?_
  obtain ⟨rfl, hlive, -⟩ := ht
  exact Returns.gets ⟨_, hlive.stored, rfl,
    by simp [V4GmoStateStore.movedCycle, V4GmoCycleState.atRest]⟩

variable {category reason : V4GmoEventCategory}

theorem moveFlat_returns {size : Option Nat} (h : Live w cycle)
    (hallowed : .flatReconciled ∈ cycle.state.allowedTargets) :
    Returns (moveFlat sha cycle category size nowUtc) w (LeftAtRest cycle.cycleRef) := by
  refine Returns.bind (transition_returns h hallowed
    (fillStored_of_plain (by simp))) fun row t ht => ?_
  obtain ⟨rfl, hlive, -⟩ := ht
  exact Returns.gets ⟨_, hlive.stored, rfl,
    by simp [V4GmoStateStore.movedCycle, V4GmoCycleState.atRest]⟩

variable {α : Type}

theorem read_bind_returns {k : Option V4GmoBrokerSnapshot → Engine α}
    {Q : α → EngineWorld → Prop} (h : Live w cycle)
    (hk : ∀ reading t, Live t cycle → t.store = w.store → Returns (k reading) t Q) :
    Returns (readSnapshotOrNone >>= k) w Q := by
  have hpoint : crashPoint.run w = (.returned (), w) := by
    rw [run_crashPoint, h.noCrash]
  have hread : Returns readSnapshotOrNone w fun _ t =>
      t.store = w.store ∧ t.crashIn = w.crashIn :=
    ⟨_, _, (Process.run_bind_returned hpoint _).trans rfl, rfl, rfl⟩
  exact Returns.bind hread fun reading t ht =>
    hk reading t (Live.of_store h ht.1 ht.2) ht.1

theorem read_known_returns {unknown : Engine α}
    {k : V4GmoBrokerSnapshot → Engine α} {Q : α → EngineWorld → Prop} (h : Live w cycle)
    (hunknown : ∀ t, Live t cycle → Returns unknown t Q)
    (hk : ∀ snapshot t, Live t cycle → t.store = w.store → Returns (k snapshot) t Q) :
    Returns (readSnapshotOrNone >>= fun reading =>
      match freshKnown reading with
      | none => unknown
      | some snapshot => k snapshot) w Q := by
  refine read_bind_returns h fun reading t hlive hstore => ?_
  split
  · exact hunknown t hlive
  case h_2 snapshot _ => exact hk snapshot t hlive hstore

variable {size protectionSize depth : Nat}

/-- **An attempt returns** when its action is the first of its kind, its state follows
the cycle's and its size is positive; what follows it starts in the attempted cycle. -/
theorem attemptAction_returns {refused : V4GmoHaltReason} {attemptTime : Engine Instant}
    {next : V4GmoStoredCycle → Engine V4GmoCycleResult}
    (h : Live w cycle) (htarget : action.attemptTarget = some target)
    (hallowed : target ∈ cycle.state.allowedTargets)
    (hfirst : (cycle.cycleRef, action) ∉ w.store.attemptKeys) (hsize : 0 < size)
    (htime : ∀ w, Returns attemptTime w fun _ t =>
      t.store = w.store ∧ t.crashIn = w.crashIn)
    (hnext : ∀ attempted t, Live t attempted → attempted.cycleRef = cycle.cycleRef →
      attempted.state = target → attempted.filledSize = cycle.filledSize →
        (cycle.cycleRef, action) ∈ t.store.attemptKeys →
          Returns (next attempted) t (LeftAtRest cycle.cycleRef)) :
    Returns (attemptAction sha cycle action target size refused attemptTime nowUtc next) w
      (LeftAtRest cycle.cycleRef) := by
  have hcycle := h.sound.cycles cycle h.stored
  obtain ⟨plan, hplan⟩ := exists_buildV4ActionPlan action h11V4GmoProtectionContractHash
    hcycle.cycleRef_hex hcycle.side_directional hsize (by decide)
  have hbuilt : Returns (ofExcept (buildV4ActionPlan cycle.cycleRef action cycle.side size
      h11V4GmoProtectionContractHash) : Engine V4GmoActionPlan) w fun p t =>
        p = plan ∧ t = w := by
    rw [hplan]
    exact Returns.pure ⟨rfl, rfl⟩
  refine Returns.bind hbuilt fun p u hp => ?_
  obtain ⟨rfl, rfl⟩ := hp
  refine Returns.bind (htime _) fun actionTime v hv => ?_
  have hlive : Live v cycle := Live.of_store h hv.1 hv.2
  have hfirst' : (cycle.cycleRef, action) ∉ v.store.attemptKeys := by
    rw [hv.1]
    exact hfirst
  refine Returns.bind (recordActionAttempt_returns hlive htarget hallowed hfirst')
    fun attempted x hx => ?_
  obtain ⟨rfl, hattempted, hrow⟩ := hx
  refine Returns.bind (perform_returns hattempted.noCrash) fun outcome y hy => ?_
  have hperformed := Live.of_store hattempted hy.1 hy.2
  have hactive : target.active = true := by
    cases action <;> cases htarget <;> rfl
  cases outcome with
  | none => exact halt_returns hperformed hactive
  | some outcome =>
      refine Returns.bind (recordActionOutcome_returns hperformed (hy.1 ▸ hrow))
        fun _ z hz => ?_
      refine hnext _ z hz.1 rfl rfl rfl ?_
      rw [hz.2, hy.1]
      exact List.mem_map.mpr ⟨_, hrow, rfl⟩

theorem transition_bind_returns {move : V4GmoMove}
    {k : V4GmoStoredCycle → Engine α} {Q : α → EngineWorld → Prop} (h : Live w cycle)
    (hallowed : move.target ∈ cycle.state.allowedTargets) (hfill : FillStored move)
    (hk : ∀ t, Live t (V4GmoStateStore.movedCycle move nowUtc cycle) →
      t.store.attemptKeys = w.store.attemptKeys →
        Returns (k (V4GmoStateStore.movedCycle move nowUtc cycle)) t Q) :
    Returns (transition sha cycle.cycleRef move nowUtc >>= k) w Q := by
  refine Returns.bind (transition_returns h hallowed hfill) fun row t ht => ?_
  obtain ⟨rfl, hlive, hkeys⟩ := ht
  exact hk t hlive hkeys

theorem Live.first (h : Live w cycle) (hnot : action ∉ cycle.state.mayHaveAttempted) :
    (cycle.cycleRef, action) ∉ w.store.attemptKeys :=
  fun hkey => hnot (h.sound.allowed cycle h.stored action hkey)

theorem pure_returns (w : EngineWorld) :
    Returns (pure nowUtc : Engine Instant) w fun _ t =>
      t.store = w.store ∧ t.crashIn = w.crashIn :=
  Returns.pure ⟨rfl, rfl⟩

theorem reconcileEmergencyExit_returns (h : Live w cycle)
    (hstate : cycle.state = .emergencyExitAttempted) :
    Returns (reconcileEmergencyExit sha cycle nowUtc) w (LeftAtRest cycle.cycleRef) := by
  have hactive : cycle.state.active = true := by
    rw [hstate]
    rfl
  refine read_known_returns h (fun t ht => halt_returns ht hactive)
    fun snapshot t ht _ => ?_
  refine Returns.ite (fun _ => moveFlat_returns ht ?_) fun _ => halt_returns ht hactive
  rw [hstate]
  decide

theorem attemptEmergencyExit_returns (h : Live w cycle)
    (hstate : cycle.state = .emergencyExitIntentPersisted) :
    Returns (attemptEmergencyExit sha cycle nowUtc) w (LeftAtRest cycle.cycleRef) := by
  refine Returns.ite (fun _ => halt_returns h (by rw [hstate]; rfl)) fun hsize => ?_
  refine attemptAction_returns h rfl (by rw [hstate]; decide)
    (Live.first h (by rw [hstate]; decide)) (Nat.pos_of_ne_zero hsize) pure_returns
    fun attempted t ht href hattempted _ _ => ?_
  exact href ▸ reconcileEmergencyExit_returns ht hattempted

theorem startEmergencyExit_returns (h : Live w cycle)
    (hallowed : .emergencyExitIntentPersisted ∈ cycle.state.allowedTargets) :
    Returns (startEmergencyExit sha cycle reason nowUtc) w (LeftAtRest cycle.cycleRef) :=
  transition_bind_returns h hallowed (fillStored_of_plain (by simp))
    fun _ ht _ => attemptEmergencyExit_returns ht rfl

theorem reconcileCancelledProtection_returns (h : Live w cycle)
    (hstate : cycle.state = .protectionCancelReconciling) :
    Returns (reconcileCancelledProtection sha cycle nowUtc) w
      (LeftAtRest cycle.cycleRef) := by
  have hactive : cycle.state.active = true := by
    rw [hstate]
    rfl
  refine read_known_returns h (fun t ht => halt_returns ht hactive)
    fun snapshot t ht _ => ?_
  refine Returns.ite (fun _ => moveFlat_returns ht (by rw [hstate]; decide)) fun _ => ?_
  refine Returns.ite (fun _ => halt_returns ht hactive) fun _ => ?_
  exact startEmergencyExit_returns ht (by rw [hstate]; decide)

theorem attemptCancelProtection_returns
    (h : Live w cycle) (hstate : cycle.state = .protectionCancelIntentPersisted) :
    Returns (attemptCancelProtection sha cycle protectionSize nowUtc) w
      (LeftAtRest cycle.cycleRef) := by
  refine Returns.ite (fun _ => halt_returns h (by rw [hstate]; rfl)) fun hsize => ?_
  refine attemptAction_returns h rfl (by rw [hstate]; decide)
    (Live.first h (by rw [hstate]; decide)) (Nat.pos_of_ne_zero hsize) pure_returns
    fun attempted t ht href hattempted _ _ => ?_
  refine transition_bind_returns ht (by rw [hattempted]; decide)
    (fillStored_of_plain (by simp)) fun u hu _ => ?_
  exact href ▸ reconcileCancelledProtection_returns hu rfl

theorem cancelProtection_returns {snapshot : V4GmoBrokerSnapshot} (h : Live w cycle)
    (hallowed : .protectionCancelIntentPersisted ∈ cycle.state.allowedTargets) :
    Returns (cancelProtection sha cycle category snapshot nowUtc) w
      (LeftAtRest cycle.cycleRef) :=
  transition_bind_returns h hallowed (fillStored_of_plain (by simp))
    fun _ ht _ => attemptCancelProtection_returns ht rfl

variable {policy : V4GmoExecutionPolicy}

theorem confirmProtection_returns {snapshot : V4GmoBrokerSnapshot} (h : Live w cycle)
    (hstate : cycle.state = .protectionReconciling) :
    Returns (confirmProtection sha cycle policy snapshot nowUtc) w
      (LeftAtRest cycle.cycleRef) := by
  have hactive : cycle.state.active = true := by
    rw [hstate]
    rfl
  refine Returns.bind now_returns fun confirmationTime t ht => ?_
  have hlive : Live t cycle := Live.of_store h ht.1 ht.2
  cases cycle.unprotectedSinceUtc with
  | none => exact halt_returns hlive hactive
  | some unprotectedSince =>
      refine Returns.ite (fun _ => halt_returns hlive hactive) fun _ => ?_
      refine Returns.ite (fun _ => halt_returns hlive hactive) fun _ => ?_
      have hallowed : .positionProtected ∈ cycle.state.allowedTargets := by
        rw [hstate]
        decide
      refine transition_bind_returns hlive hallowed (fillStored_of_plain (by simp))
        fun u hu _ => ?_
      exact Returns.gets ⟨_, hu.stored, rfl,
        by simp [V4GmoStateStore.movedCycle, V4GmoCycleState.atRest]⟩

theorem reconcileProtection_returns
    (h : Live w cycle) (hstate : cycle.state = .protectionReconciling) :
    Returns (reconcileProtection sha cycle policy nowUtc) w
      (LeftAtRest cycle.cycleRef) := by
  have hactive : cycle.state.active = true := by
    rw [hstate]
    rfl
  have hcancel : .protectionCancelIntentPersisted ∈ cycle.state.allowedTargets := by
    rw [hstate]
    decide
  refine read_known_returns h (fun t ht => halt_returns ht hactive)
    fun snapshot t ht _ => ?_
  refine Returns.ite (fun _ => moveFlat_returns ht (by rw [hstate]; decide)) fun _ => ?_
  refine Returns.ite (fun _ => ?_) fun _ => ?_
  · exact Returns.ite (fun _ => cancelProtection_returns ht hcancel)
      fun _ => halt_returns ht hactive
  · refine Returns.ite (fun _ => halt_returns ht hactive) fun _ => ?_
    refine Returns.ite (fun _ => halt_returns ht hactive) fun _ => ?_
    refine Returns.ite (fun _ => confirmProtection_returns ht hstate) fun _ => ?_
    exact Returns.ite (fun _ => cancelProtection_returns ht hcancel)
      fun _ => startEmergencyExit_returns ht (by rw [hstate]; decide)

theorem attemptProtection_returns
    (h : Live w cycle) (hstate : cycle.state = .protectionIntentPersisted) :
    Returns (attemptProtection sha cycle policy nowUtc) w (LeftAtRest cycle.cycleRef) := by
  have hfilled : 0 < cycle.filledSize :=
    (h.sound.cycles cycle h.stored).filled (Or.inr hstate)
  refine attemptAction_returns h rfl (by rw [hstate]; decide)
    (Live.first h (by rw [hstate]; decide)) hfilled pure_returns
    fun attempted t ht href hattempted _ _ => ?_
  refine transition_bind_returns ht (by rw [hattempted]; decide)
    (fillStored_of_plain (by simp)) fun u hu _ => ?_
  exact href ▸ reconcileProtection_returns hu rfl

theorem ensureProtection_returns
    (h : Live w cycle) (hstate : cycle.state = .entryFilledUnprotected) :
    Returns (ensureProtection sha cycle policy nowUtc) w (LeftAtRest cycle.cycleRef) := by
  have hactive : cycle.state.active = true := by
    rw [hstate]
    rfl
  refine Returns.bind now_returns fun currentTime t ht => ?_
  have hlive : Live t cycle := Live.of_store h ht.1 ht.2
  cases cycle.unprotectedSinceUtc with
  | none => exact halt_returns hlive hactive
  | some unprotectedSince =>
      refine Returns.ite (fun _ => halt_returns hlive hactive) fun _ => ?_
      refine Returns.ite
        (fun _ => startEmergencyExit_returns hlive (by rw [hstate]; decide)) fun _ => ?_
      refine transition_bind_returns hlive (by rw [hstate]; decide) ⟨?_, fun _ => rfl⟩
        fun u hu _ => attemptProtection_returns hu rfl
      intro ht
      cases ht

/-- The depth that a reconciliation of the entry needs: the cancel of the remainder is
attempted at most once, and reconciles the entry once more. -/
def EntryDepth (w : EngineWorld) (cycleRef : Digest) (depth : Nat) : Prop :=
  1 ≤ depth ∧ ((cycleRef, .cancelEntryRemainder) ∈ w.store.attemptKeys ∨ 2 ≤ depth)

theorem actionAttempted_iff {store : V4GmoStateStore} {cycleRef : Digest}
    : store.actionAttempted cycleRef action = true ↔ (cycleRef, action) ∈ store.attemptKeys := by
  simp [V4GmoStateStore.actionAttempted, V4GmoStateStore.attemptKeys]

theorem reconcileEntry_returns (h : Live w cycle) (hstate : cycle.state = .entryReconciling)
    (hdepth : EntryDepth w cycle.cycleRef depth) :
    Returns (reconcileEntry sha policy nowUtc depth cycle) w
      (LeftAtRest cycle.cycleRef) := by
  induction depth generalizing w cycle with
  | zero => exact absurd hdepth.1 (by decide)
  | succ depth ih =>
      have hactive : cycle.state.active = true := by
        rw [hstate]
        rfl
      refine read_known_returns h (fun t ht => halt_returns ht hactive)
        fun snapshot t ht hstore => ?_
      cases hinvalid : entrySnapshotInvalidReason snapshot cycle with
      | some reason => exact halt_returns ht hactive
      | none =>
      obtain ⟨-, -, hcount, hfilled, hflat⟩ := entrySnapshot_valid hinvalid
      refine Returns.ite (fun hpending => Returns.gets_bind ?_) fun _ => ?_
      · refine Returns.ite (fun _ => halt_returns ht hactive) fun hcancelled => ?_
        rw [actionAttempted_iff] at hcancelled
        -- the remainder has not been cancelled, so that there is depth for one more pass
        have hmore : 1 ≤ depth := by
          rcases hdepth.2 with hkey | htwo
          · exact absurd (hstore ▸ hkey) hcancelled
          · omega
        refine attemptAction_returns ht rfl (by rw [hstate]; decide) hcancelled hpending
          pure_returns fun attempted u hu href hattempted _ hkey => ?_
        refine transition_bind_returns hu (by rw [hattempted]; decide)
          (fillStored_of_plain (by simp)) fun v hv hkeys => ?_
        refine href ▸ ih hv rfl ⟨hmore, Or.inl ?_⟩
        rw [hkeys]
        exact href ▸ hkey
      · refine Returns.ite (fun _ => moveFlat_returns ht (by rw [hstate]; decide))
          fun hsome => ?_
        have hallowed : .entryFilledUnprotected ∈ cycle.state.allowedTargets := by
          rw [hstate]
          decide
        refine transition_bind_returns ht hallowed ⟨fun _ => ?_, ?_⟩
          fun u hu _ => ensureProtection_returns hu rfl
        · refine ⟨snapshot.filledSize, ?_, rfl⟩
          rcases hcount with hzero | hone
          · exact absurd ⟨hzero, hflat hzero⟩ hsome
          · exact hfilled hone
        · intro hintent
          cases hintent

theorem attemptMarketEntry_returns
    (h : Live w cycle) (hstate : cycle.state = .entryIntentPersisted) (hdepth : 2 ≤ depth) :
    Returns (attemptMarketEntry sha depth cycle policy nowUtc) w
      (LeftAtRest cycle.cycleRef) := by
  refine attemptAction_returns h rfl (by rw [hstate]; decide)
    (Live.first h (by rw [hstate]; decide)) (h.sound.cycles cycle h.stored).requestedSize_pos
    (fun _ => now_returns) fun attempted t ht href hattempted _ _ => ?_
  refine Returns.bind now_returns fun reconcileTime u hu => ?_
  have hlive : Live u attempted := Live.of_store ht hu.1 hu.2
  refine transition_bind_returns hlive (by rw [hattempted]; decide)
    (fillStored_of_plain (by simp)) fun v hv _ => ?_
  exact href ▸ reconcileEntry_returns hv rfl ⟨by omega, Or.inr hdepth⟩

theorem reconcileExistingProtectedPosition_returns (h : Live w cycle)
    (hstate : cycle.state = .positionProtected) :
    Returns (reconcileExistingProtectedPosition sha cycle nowUtc) w
      (LeftAtRest cycle.cycleRef) := by
  have hactive : cycle.state.active = true := by
    rw [hstate]
    rfl
  refine read_known_returns h (fun t ht => halt_returns ht hactive)
    fun snapshot t ht _ => ?_
  refine Returns.ite (fun _ => moveFlat_returns ht (by rw [hstate]; decide)) fun _ => ?_
  refine Returns.ite (fun _ => ?_) fun _ => ?_
  · exact Returns.gets ⟨cycle, ht.stored, rfl, by rw [hstate]; decide⟩
  · refine Returns.ite (fun _ => halt_returns ht hactive) fun _ => ?_
    refine Returns.ite (fun _ => halt_returns ht hactive) fun _ => ?_
    refine Returns.ite (fun _ => halt_returns ht hactive) fun _ => ?_
    exact Returns.ite (fun _ => cancelProtection_returns ht (by rw [hstate]; decide))
      fun _ => startEmergencyExit_returns ht (by rw [hstate]; decide)

theorem restartTo_bind_returns {k : V4GmoStoredCycle → Engine V4GmoCycleResult}
    (h : Live w cycle) (hallowed : target ∈ cycle.state.allowedTargets)
    (hplain : target ∉ [V4GmoCycleState.entryFilledUnprotected, .protectionIntentPersisted])
    (hk : ∀ row t, Live t row → row.cycleRef = cycle.cycleRef → row.state = target →
      Returns (k row) t (LeftAtRest row.cycleRef)) :
    Returns (restartTo sha cycle.cycleRef target category nowUtc >>= k) w
      (LeftAtRest cycle.cycleRef) :=
  transition_bind_returns h hallowed (fillStored_of_plain hplain)
    fun t ht _ => hk _ t ht rfl rfl

theorem loadCycle_bind_returns {k : V4GmoStoredCycle → Engine α}
    {Q : α → EngineWorld → Prop} (h : Live w cycle) (hk : Returns (k cycle) w Q) :
    Returns (loadCycle cycle.cycleRef >>= k) w Q := by
  have hload : Returns (loadCycle cycle.cycleRef) w fun row t => row = cycle ∧ t = w :=
    loadCycle_returns h.cycle? ⟨rfl, rfl⟩
  refine Returns.bind hload fun row t hrow => ?_
  obtain ⟨rfl, rfl⟩ := hrow
  exact hk

theorem resumeSynthetic_returns (h : Live w cycle) (hactive : cycle.state.active = true)
    (hdepth : 2 ≤ depth) :
    Returns (resumeSynthetic sha depth cycle.cycleRef policy nowUtc) w
      (LeftAtRest cycle.cycleRef) := by
  have hentry : ∀ row t, Live t row → row.state = .entryReconciling →
      Returns (reconcileEntry sha policy nowUtc depth row) t (LeftAtRest row.cycleRef) :=
    fun row t ht hrow => reconcileEntry_returns ht hrow ⟨by omega, Or.inr hdepth⟩
  refine loadCycle_bind_returns h ?_
  refine Returns.ite (fun _ => halt_returns h hactive) fun _ => ?_
  cases hstate : cycle.state with
  | entryIntentPersisted =>
      refine read_bind_returns h fun reading u hu _ => ?_
      cases reading with
      | none => exact halt_returns hu hactive
      | some snapshot =>
          exact Returns.ite (fun _ => halt_returns hu hactive)
            fun _ => attemptMarketEntry_returns hu hstate hdepth
  | marketEntryAttempted =>
      exact restartTo_bind_returns h (by rw [hstate]; decide) (by decide)
        fun r u hu _ hr => hentry r u hu hr
  | remainderCancelAttempted =>
      exact restartTo_bind_returns h (by rw [hstate]; decide) (by decide)
        fun r u hu _ hr => hentry r u hu hr
  | entryReconciling => exact hentry cycle w h hstate
  | entryFilledUnprotected => exact ensureProtection_returns h hstate
  | protectionIntentPersisted => exact attemptProtection_returns h hstate
  | protectionAttempted =>
      exact restartTo_bind_returns h (by rw [hstate]; decide) (by decide)
        fun r u hu _ hr => reconcileProtection_returns hu hr
  | protectionReconciling => exact reconcileProtection_returns h hstate
  | protectionCancelIntentPersisted => exact attemptCancelProtection_returns h hstate
  | protectionCancelAttempted =>
      exact restartTo_bind_returns h (by rw [hstate]; decide) (by decide)
        fun r u hu _ hr => reconcileCancelledProtection_returns hu hr
  | protectionCancelReconciling => exact reconcileCancelledProtection_returns h hstate
  | emergencyExitIntentPersisted => exact attemptEmergencyExit_returns h hstate
  | emergencyExitAttempted => exact reconcileEmergencyExit_returns h hstate
  | positionProtected => exact reconcileExistingProtectedPosition_returns h hstate
  | flatReconciled | haltedOperatorReviewRequired | operatorReloadCleared =>
      rw [hstate] at hactive
      cases hactive

end Engine

/-- **Every engine call ends at rest.** In any store that a run can reach, and for any
policy, broker and clock, the resumption of an active cycle returns, and leaves the
cycle protected, flat or halted.  Two frames of the call stack are enough. -/
theorem resume_ends_at_rest (sha : Sha256) (ops : List EngineOp) {cycle : V4GmoStoredCycle}
    (hstored : cycle ∈ (after (engineStep sha) {} ops).store.cycles.rows)
    (hactive : cycle.state.active = true) (policy : V4GmoExecutionPolicy)
    (nowUtc : Instant) (broker : V4GmoSyntheticBroker) (clock : Option (Nat → Instant))
    {depth : Nat} (hdepth : 2 ≤ depth) :
    ∃ result w',
      (Engine.resumeSynthetic sha depth cycle.cycleRef policy nowUtc).run
          { after (engineStep sha) {} ops with
            broker, clock, readings := 0, crashIn := none, lastRead := none } =
        (.returned result, w') ∧
      ∃ row ∈ w'.store.cycles.rows, row.cycleRef = cycle.cycleRef ∧
        row.state ∈ [V4GmoCycleState.positionProtected, .flatReconciled,
          .haltedOperatorReviewRequired] :=
  Engine.resumeSynthetic_returns ⟨V4GmoStateStore.sound_of_run ops, rfl, hstored⟩ hactive
    hdepth

def Sample.diedBeforeEntry : List EngineOp :=
  [runSignal 0 .refusing (some 1)]

theorem resume_ends_at_rest_without_broker :
    ∃ result w',
      (Engine.resumeSynthetic Sha256.checksum 2 (Sample.engineCycleRef 0) Sample.policy
          (Sample.at_ 60)).run
          { after (engineStep Sha256.checksum) {} Sample.diedBeforeEntry with
            broker := .refusing, clock := none, readings := 0, crashIn := none,
            lastRead := none } =
        (.returned result, w') ∧
      ∃ row ∈ w'.store.cycles.rows, row.cycleRef = Sample.engineCycleRef 0 ∧
        row.state ∈ [V4GmoCycleState.positionProtected, .flatReconciled,
          .haltedOperatorReviewRequired] := by
  have hrow : ∃ cycle ∈
      (after (engineStep Sha256.checksum) {} Sample.diedBeforeEntry).store.cycles.rows,
        cycle.cycleRef = Sample.engineCycleRef 0 ∧ cycle.state.active = true := by
    decide +kernel
  obtain ⟨cycle, hstored, href, hactive⟩ := hrow
  rw [← href]
  exact resume_ends_at_rest Sha256.checksum Sample.diedBeforeEntry hstored hactive
    Sample.policy (Sample.at_ 60) .refusing none (Nat.le_refl 2)

end Rest

end FxStrategyLab
