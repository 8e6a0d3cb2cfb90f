import FxStrategyLab.Engine.Moves

/-!
# What PROTECTED rests on

A cycle enters POSITION_PROTECTED at one place of the engine, on a snapshot of its
whole position under a protection of its size, and at a time that is measured from
the stored start of the unprotected window.  That start is written by `COALESCE` in
two store operations.  The first of them is the MARKET attempt, so the start is the
time of that attempt in every store a run can reach, and no fill, crash or resume
moves it.
-/

namespace FxStrategyLab

open Library

section Protected

variable {sha : Sha256}

namespace V4GmoStateStore

def marketEntryTime? (store : V4GmoStateStore) (cycleRef : Digest) : Option Instant :=
  (store.attempts.rows.find? fun attempt =>
    attempt.primaryKey = (cycleRef, .marketEntry)).map V4GmoActionAttempt.attemptedAtUtc

variable {store store' : V4GmoStateStore} {cycleRef : Digest}

variable {entered : Instant}

theorem marketEntryTime?_eq_some :
    store.marketEntryTime? cycleRef = some entered ↔
      ∃ attempt ∈ store.attempts.rows,
        attempt.primaryKey = (cycleRef, .marketEntry) ∧ attempt.attemptedAtUtc = entered := by
  unfold marketEntryTime?
  rw [Option.map_eq_some_iff]
  simp only [store.attempts.find?_key_eq_some (List.mem_singleton_self _), and_assoc]

theorem marketEntryTime?_of_prefix (hrows : store.attempts.rows <+: store'.attempts.rows)
    (h : store.marketEntryTime? cycleRef = some entered) :
    store'.marketEntryTime? cycleRef = some entered := by
  obtain ⟨attempt, hattempt, hkey⟩ := marketEntryTime?_eq_some.mp h
  exact marketEntryTime?_eq_some.mpr ⟨attempt, hrows.subset hattempt, hkey⟩

theorem marketEntryTime?_recordActionOutcome {ref : Digest} {action : V4GmoAction}
    {outcome : V4GmoSyntheticOutcome}
    (hcommitted : recordActionOutcome sha cycleRef action outcome store = .ok store')
    (h : store.marketEntryTime? ref = some entered) :
    store'.marketEntryTime? ref = some entered := by
  obtain ⟨attempt, hattempt, hkey, htime⟩ := marketEntryTime?_eq_some.mp h
  rw [marketEntryTime?_eq_some, (recordActionOutcome_ok hcommitted).2]
  refine ⟨_, List.mem_map_of_mem hattempt, ?_⟩
  split <;> exact ⟨hkey, htime⟩

end V4GmoStateStore

def V4GmoCycleState.windowNotStarted : List V4GmoCycleState :=
  [entryIntentPersisted, haltedOperatorReviewRequired, operatorReloadCleared]

/-- A stored start of the unprotected window is the time of the MARKET attempt, and it is
missing only before that attempt. -/
structure V4GmoStoredCycle.WindowFromEntry (row : V4GmoStoredCycle)
    (store : V4GmoStateStore) : Prop where
  started : ∀ t, row.unprotectedSinceUtc = some t →
    store.marketEntryTime? row.cycleRef = some t
  missing : row.unprotectedSinceUtc = none → row.state ∈ V4GmoCycleState.windowNotStarted

def EngineEvent.protection :
    EngineEvent → Option (V4GmoStoredCycle × Instant × Option V4GmoBrokerSnapshot)
  | performed .. => none
  | moved cycle move nowUtc lastRead =>
      if move.target = .positionProtected then some (cycle, nowUtc, lastRead) else none

def EngineWorld.protections (w : EngineWorld) :
    List (V4GmoStoredCycle × Instant × Option V4GmoBrokerSnapshot) :=
  w.events.filterMap EngineEvent.protection

/-- The windows of all stored cycles, and of the cycles that were protected, start at
their MARKET attempts; a protected cycle was protected by a transition. -/
structure WindowsFromEntries (w : EngineWorld) : Prop where
  stored : ∀ row ∈ w.store.cycles.rows, row.WindowFromEntry w.store
  protections : ∀ entry ∈ w.protections, ∀ t, entry.1.unprotectedSinceUtc = some t →
    w.store.marketEntryTime? entry.1.cycleRef = some t
  entered : ∀ row ∈ w.store.cycles.rows, row.state = .positionProtected →
    ∃ entry ∈ w.protections, entry.1.cycleRef = row.cycleRef

namespace WindowsFromEntries

variable {w w' : EngineWorld}

theorem of_same (hI : WindowsFromEntries w) (hcycles : w'.store.cycles = w.store.cycles)
    (htimes : ∀ ref t, w.store.marketEntryTime? ref = some t →
      w'.store.marketEntryTime? ref = some t)
    (hevents : w'.protections = w.protections) : WindowsFromEntries w' := by
  refine ⟨?_, ?_, ?_⟩
  · rw [hcycles]
    intro row hrow
    exact ⟨fun t ht => htimes _ t ((hI.stored row hrow).started t ht),
      (hI.stored row hrow).missing⟩
  · rw [hevents]
    exact fun entry hentry t ht => htimes _ t (hI.protections entry hentry t ht)
  · rw [hcycles, hevents]
    exact hI.entered

variable {cycleRef : Digest}

/-- What a change of one cycle keeps, when the changed row keeps its window and the
events account for it. -/
theorem update (hI : WindowsFromEntries w)
    {f : V4GmoStoredCycle → V4GmoStoredCycle} {hf : V4GmoStateStore.KeepsKeys f}
    {row : V4GmoStoredCycle} (hrow : w.store.cycle? cycleRef = some row)
    (hcycles : w'.store.cycles = (w.store.updateCycle cycleRef f hf).cycles)
    (htimes : ∀ ref t, w.store.marketEntryTime? ref = some t →
      w'.store.marketEntryTime? ref = some t)
    {new : List (V4GmoStoredCycle × Instant × Option V4GmoBrokerSnapshot)}
    (hevents : w'.protections = w.protections ++ new) (hnew : ∀ entry ∈ new, entry.1 = row)
    (hwindow : (f row).WindowFromEntry w'.store)
    (hentered : (f row).state = .positionProtected → new ≠ []) : WindowsFromEntries w' := by
  have hkey : (f row).cycleRef = row.cycleRef := hf row V4GmoStoredCycle.cycleRef
    (by simp [storedCycleKeys])
  have hold := V4GmoStateStore.cycle?_eq_some.mp hrow
  have hmem : ∀ r ∈ w'.store.cycles.rows, r ∈ w.store.cycles.rows ∨ r = f row := by
    intro r hr
    rw [hcycles, V4GmoStateStore.mem_updateCycle] at hr
    rcases hr with ⟨hr, -⟩ | ⟨row', hrow', rfl⟩
    · exact Or.inl hr
    · rw [Option.some.inj (hrow.symm.trans hrow')]
      exact Or.inr rfl
  refine ⟨?_, ?_, ?_⟩
  · intro r hr
    rcases hmem r hr with hr | rfl
    · exact ⟨fun t ht => htimes _ t ((hI.stored r hr).started t ht),
        (hI.stored r hr).missing⟩
    · exact hwindow
  · rw [hevents]
    intro entry hentry t ht
    rcases List.mem_append.mp hentry with hentry | hentry
    · exact htimes _ t (hI.protections entry hentry t ht)
    · rw [hnew entry hentry] at ht ⊢
      exact htimes _ t ((hI.stored row hold.1).started t ht)
  · rw [hevents]
    intro r hr hprotected
    rcases hmem r hr with hr | rfl
    · obtain ⟨entry, hentry, href⟩ := hI.entered r hr hprotected
      exact ⟨entry, List.mem_append_left _ hentry, href⟩
    · obtain ⟨entry, hentry⟩ := List.exists_mem_of_ne_nil _ (hentered hprotected)
      exact ⟨entry, List.mem_append_right _ hentry, by rw [hnew entry hentry, hkey]⟩

/-- **The MARKET attempt starts the window.** `COALESCE` keeps a start that is there, and
no other attempt sets one. -/
theorem attempt (hI : WindowsFromEntries w) {action : V4GmoAction}
    {target : V4GmoCycleState} {nowUtc : Instant} (hcommitted :
      V4GmoStateStore.recordActionAttempt sha cycleRef action target nowUtc w.store =
        .ok w'.store)
    (hevents : w'.protections = w.protections) : WindowsFromEntries w' := by
  obtain ⟨row, hrow, htarget, hallowed, hfresh, hattempts, hcycles⟩ :=
    V4GmoStateStore.recordActionAttempt_ok hcommitted
  have hold := V4GmoStateStore.cycle?_eq_some.mp hrow
  have htimes : ∀ ref t, w.store.marketEntryTime? ref = some t →
      w'.store.marketEntryTime? ref = some t := by
    refine fun ref t => V4GmoStateStore.marketEntryTime?_of_prefix ?_
    rw [hattempts]
    exact List.prefix_append _ _
  have hstored := hI.stored row hold.1
  refine hI.update hrow hcycles htimes (hevents.trans (List.append_nil _).symm) (by simp)
    ⟨fun t ht => ?_, fun hnone => ?_⟩ (fun hstate => ?_)
  · by_cases hentry : action = .marketEntry
    · subst hentry
      have hnot : row.unprotectedSinceUtc = none := by
        cases hsince : row.unprotectedSinceUtc with
        | none => rfl
        | some since =>
            -- the start would be the time of a MARKET attempt, which is the first now
            obtain ⟨old, hmem, hkey, -⟩ :=
              V4GmoStateStore.marketEntryTime?_eq_some.mp (hstored.started since hsince)
            exact absurd (List.mem_map.mpr ⟨old, hmem, hold.2 ▸ hkey⟩) hfresh
      have hnow : nowUtc = t := by
        simpa [V4GmoStateStore.attemptedCycle, hnot] using ht
      subst hnow
      refine V4GmoStateStore.marketEntryTime?_eq_some.mpr
        ⟨{ cycleRef, action := .marketEntry, attemptedAtUtc := nowUtc }, ?_, ?_, rfl⟩
      · rw [hattempts]
        exact List.mem_append_right _ (List.mem_singleton_self _)
      · exact congrArg (fun ref => (ref, V4GmoAction.marketEntry)) hold.2.symm
    · refine htimes _ t (hstored.started t ?_)
      simpa [V4GmoStateStore.attemptedCycle, hentry] using ht
  · by_cases hentry : action = .marketEntry
    · subst hentry
      cases hsince : row.unprotectedSinceUtc <;>
        simp [V4GmoStateStore.attemptedCycle, hsince] at hnone
    · -- before the MARKET attempt no other action has an allowed state
      have hnone' : row.unprotectedSinceUtc = none := by
        simpa [V4GmoStateStore.attemptedCycle, hentry] using hnone
      have hstate := hstored.missing hnone'
      revert hstate hallowed hentry
      cases action <;> cases htarget <;> cases row.state <;>
        simp [V4GmoCycleState.windowNotStarted, V4GmoCycleState.allowedTargets]
  · have htarget' : target = .positionProtected := hstate
    subst htarget'
    cases action <;> cases htarget

/-- **No transition moves the start of the window.** -/
theorem move (hI : WindowsFromEntries w) {move : V4GmoMove} {nowUtc : Instant}
    (hcommitted : V4GmoStateStore.transition sha cycleRef move nowUtc w.store = .ok w'.store)
    (hevents : w'.events = w.events ++ Engine.movedEvent cycleRef move nowUtc w)
    (hproper : w'.AllProper) : WindowsFromEntries w' := by
  obtain ⟨row, hrow, hallowed, hattempts, hcycles⟩ :=
    V4GmoStateStore.transition_ok hcommitted
  have hold := V4GmoStateStore.cycle?_eq_some.mp hrow
  have hstored := hI.stored row hold.1
  have hevent : Engine.movedEvent cycleRef move nowUtc w =
      [.moved row move nowUtc w.lastRead] := by
    unfold Engine.movedEvent
    rw [hrow]
    rfl
  rw [hevent] at hevents
  have htimes : ∀ ref t, w.store.marketEntryTime? ref = some t →
      w'.store.marketEntryTime? ref = some t := by
    refine fun ref t => V4GmoStateStore.marketEntryTime?_of_prefix ?_
    rw [hattempts]
  obtain ⟨⟨hplain, -, hfilled⟩, -⟩ : (EngineEvent.moved row move nowUtc w.lastRead).Proper := by
    refine hproper _ ?_
    rw [hevents]
    exact List.mem_append_right _ (List.mem_singleton_self _)
  have hprotections : w'.protections =
      w.protections ++ (EngineEvent.moved row move nowUtc w.lastRead).protection.toList := by
    unfold EngineWorld.protections
    rw [hevents, List.filterMap_append]
    cases hp : (EngineEvent.moved row move nowUtc w.lastRead).protection <;>
      simp [hp]
  refine hI.update hrow hcycles htimes hprotections (fun entry hentry => ?_)
    ⟨fun t ht => ?_, fun hnone => ?_⟩ (fun hstate => ?_)
  · rw [Option.mem_toList] at hentry
    change (if move.target = .positionProtected then some (row, nowUtc, w.lastRead) else none)
      = some entry at hentry
    split at hentry
    · cases hentry
      rfl
    · cases hentry
  · cases hsince : row.unprotectedSinceUtc with
    | some since =>
        refine htimes _ t (hstored.started t ?_)
        simpa [V4GmoStateStore.movedCycle, hsince] using ht
    | none =>
        -- only a filled entry brings a start along, and its window has started before
        have hbrought : move.unprotectedSinceUtc ≠ none := by
          intro hnot
          simp [V4GmoStateStore.movedCycle, hsince, hnot] at ht
        rw [hfilled hbrought] at hallowed
        have hstate := hstored.missing hsince
        revert hstate hallowed
        cases row.state <;>
          simp [V4GmoCycleState.windowNotStarted, V4GmoCycleState.allowedTargets]
  · have hnone' : row.unprotectedSinceUtc = none := by
      cases hsince : row.unprotectedSinceUtc with
      | none => rfl
      | some since => simp [V4GmoStateStore.movedCycle, hsince] at hnone
    have hstate := hstored.missing hnone'
    have htarget : (V4GmoStateStore.movedCycle move nowUtc row).state = move.target := rfl
    rw [htarget]
    revert hstate hallowed hplain
    cases row.state <;> cases move.target <;>
      simp [V4GmoCycleState.windowNotStarted, V4GmoCycleState.allowedTargets,
        V4GmoCycleState.ofAttempt]
  · have htarget : move.target = .positionProtected := hstate
    simp [EngineEvent.protection, htarget]

/-- Steps that show nothing of a cycle leave the transitions to PROTECTED as they are. -/
theorem protections_of_performed {later : List EngineEvent}
    (hevents : w'.events = w.events ++ later)
    (hlater : ∀ event ∈ later, event.protection = none) : w'.protections = w.protections := by
  unfold EngineWorld.protections
  rw [hevents, List.filterMap_append, List.filterMap_eq_nil_iff.mpr hlater, List.append_nil]

/-- **Step lemma.** Every engine step with proper events keeps the windows. -/
theorem step {C : V4GmoStateStore → Instant → Prop} (h : EngineStep sha C w w')
    (hI : w.AllProper → WindowsFromEntries w) : w'.AllProper → WindowsFromEntries w' := by
  intro hproper
  have hbefore : ∀ later, w'.events = w.events ++ later → WindowsFromEntries w := by
    intro later hevents
    refine hI fun event hevent => hproper event ?_
    rw [hevents]
    exact List.mem_append_left _ hevent
  cases h with
  | quiet hstore hevents =>
      have hw := hbefore [] (hevents.trans (List.append_nil _).symm)
      exact hw.of_same (by rw [hstore]) (by rw [hstore]; exact fun _ _ => id)
        (congrArg (List.filterMap EngineEvent.protection) hevents)
  | create cycleRef signal policy nowUtc _ _ hcommitted hevents =>
      have hw := hbefore [] (hevents.trans (List.append_nil _).symm)
      obtain ⟨-, -, -, -, hrows, hattempts⟩ := V4GmoStateStore.createCycle_ok hcommitted
      have htimes : ∀ ref t, w.store.marketEntryTime? ref = some t →
          w'.store.marketEntryTime? ref = some t := by
        refine fun ref t => V4GmoStateStore.marketEntryTime?_of_prefix ?_
        rw [hattempts]
      have hprotections : w'.protections = w.protections :=
        congrArg (List.filterMap EngineEvent.protection) hevents
      refine ⟨?_, ?_, ?_⟩
      · rw [hrows]
        intro row hrow
        rcases List.mem_append.mp hrow with hrow | hrow
        · exact ⟨fun t ht => htimes _ t ((hw.stored row hrow).started t ht),
            (hw.stored row hrow).missing⟩
        · rw [List.mem_singleton.mp hrow]
          exact ⟨fun t ht => (nomatch ht), fun _ => List.mem_cons_self⟩
      · rw [hprotections]
        exact fun entry hentry t ht => htimes _ t (hw.protections entry hentry t ht)
      · rw [hrows, hprotections]
        intro row hrow hprotected
        rcases List.mem_append.mp hrow with hrow | hrow
        · exact hw.entered row hrow hprotected
        · rw [List.mem_singleton.mp hrow] at hprotected
          cases hprotected
  | attempt cycleRef action target nowUtc hcommitted hevents =>
      rcases hevents with hevents | ⟨plan, -, -, hevents⟩
      · have hw := hbefore [] (hevents.trans (List.append_nil _).symm)
        exact hw.attempt hcommitted (congrArg (List.filterMap EngineEvent.protection) hevents)
      · refine (hbefore _ hevents).attempt hcommitted (protections_of_performed hevents ?_)
        intro event hevent
        rw [List.mem_singleton.mp hevent]
        rfl
  | outcome cycleRef action outcome hcommitted hevents =>
      have hw := hbefore [] (hevents.trans (List.append_nil _).symm)
      exact hw.of_same (V4GmoStateStore.recordActionOutcome_ok hcommitted).1
        (fun ref t => V4GmoStateStore.marketEntryTime?_recordActionOutcome hcommitted)
        (congrArg (List.filterMap EngineEvent.protection) hevents)
  | move cycleRef move nowUtc hcommitted hevents =>
      exact (hbefore _ hevents).move hcommitted hevents hproper
  | globalHalt halt hstore hevents =>
      have hw := hbefore [] (hevents.trans (List.append_nil _).symm)
      exact hw.of_same (by rw [hstore]) (by rw [hstore]; exact fun _ _ => id)
        (congrArg (List.filterMap EngineEvent.protection) hevents)

end WindowsFromEntries

theorem windowsFromEntries_of_run (ops : List EngineOp) :
    WindowsFromEntries (after (engineStep sha) {} ops) := by
  have hstart : EngineWorld.AllProper {} → WindowsFromEntries {} := by
    intro _
    refine ⟨?_, ?_, ?_⟩
    all_goals
      intro x hx
      cases hx
  exact engine_invariant_always (fun _ _ => WindowsFromEntries.step) hstart ops
    (allProper_of_run ops)

theorem exactlyProtected_iff {cycle : V4GmoStoredCycle} {snapshot : V4GmoBrokerSnapshot} :
    Engine.exactlyProtected cycle snapshot = true ↔
      snapshot.positionCount = 1 ∧ snapshot.positionSide = some cycle.side ∧
        snapshot.filledSize = cycle.filledSize ∧ snapshot.pendingEntrySize = 0 ∧
        snapshot.protectionStatus = .exactMatch ∧
        snapshot.protectionSize = cycle.filledSize := by
  simp [Engine.exactlyProtected, Engine.wholePosition, and_assoc]

/-- **PROTECTED is truthful and in time.** In every run, with crashes and resumes at any
place, each transition to POSITION_PROTECTED follows a snapshot of one position on the
cycle's side with the stored fill, no pending entry and an exact protection of that
size, and comes within the bound after the time of the cycle's MARKET attempt; and a
cycle is stored as protected only through such a transition. -/
theorem protected_truthful_and_in_time (sha : Sha256) (ops : List EngineOp)
    (policy : V4GmoExecutionPolicy) :
    (∀ cycle nowUtc lastRead,
      (cycle, nowUtc, lastRead) ∈ (after (engineStep sha) {} ops).protections →
        ∃ snapshot entered, lastRead = some snapshot ∧
          snapshot.positionCount = 1 ∧ snapshot.positionSide = some cycle.side ∧
          snapshot.filledSize = cycle.filledSize ∧ snapshot.pendingEntrySize = 0 ∧
          snapshot.protectionStatus = .exactMatch ∧
          snapshot.protectionSize = cycle.filledSize ∧
          (after (engineStep sha) {} ops).store.marketEntryTime? cycle.cycleRef =
            some entered ∧
          0 ≤ nowUtc - entered ∧
          nowUtc - entered ≤ wallSeconds policy.maxUnprotectedSeconds) ∧
      ∀ row ∈ (after (engineStep sha) {} ops).store.cycles.rows,
        row.state = .positionProtected →
          ∃ entry ∈ (after (engineStep sha) {} ops).protections,
            entry.1.cycleRef = row.cycleRef := by
  have hwindows := @windowsFromEntries_of_run sha ops
  refine ⟨fun cycle nowUtc lastRead hprotection => ?_, hwindows.entered⟩
  obtain ⟨event, hevent, hmoved⟩ := List.mem_filterMap.mp hprotection
  cases event with
  | performed plan committed => cases hmoved
  | moved row move time reading =>
      change (if move.target = .positionProtected then some (row, time, reading) else none) =
        some (cycle, nowUtc, lastRead) at hmoved
      split at hmoved
      case isFalse => cases hmoved
      case isTrue htarget =>
        cases hmoved
        obtain ⟨⟨snapshot, hread, hexact⟩, entered, hsince, hforward, hdeadline⟩ :=
          (allProper_of_run ops _ hevent).2 htarget
        obtain ⟨hcount, hside, hfilled, hpending, hstatus, hsize⟩ :=
          exactlyProtected_iff.mp hexact
        have hentered := hwindows.protections _ hprotection entered hsince
        exact ⟨snapshot, entered, hread, hcount, hside, hfilled, hpending, hstatus, hsize,
          hentered, hforward, hdeadline⟩

/-- A cycle that dies right behind its entry is protected by its resumption. -/
theorem protected_truthful_and_in_time_resumed :
    ∃ cycle nowUtc lastRead,
      (cycle, nowUtc, lastRead) ∈
          (after (engineStep Sha256.checksum) {} Sample.resumedEntry).protections ∧
        ∃ entered,
          (after (engineStep Sha256.checksum) {} Sample.resumedEntry).store.marketEntryTime?
            cycle.cycleRef = some entered ∧
          0 ≤ nowUtc - entered ∧ nowUtc - entered ≤ wallSeconds 15 := by
  have hprotected : (after (engineStep Sha256.checksum) {} Sample.resumedEntry).protections ≠
      [] := by
    decide +kernel
  obtain ⟨⟨cycle, nowUtc, lastRead⟩, hmem⟩ := List.exists_mem_of_ne_nil _ hprotected
  obtain ⟨snapshot, entered, -, -, -, -, -, -, -, hentered, hforward, hdeadline⟩ :=
    (protected_truthful_and_in_time Sha256.checksum Sample.resumedEntry Sample.policy).1
      cycle nowUtc lastRead hmem
  exact ⟨cycle, nowUtc, lastRead, hmem, entered, hentered, hforward, hdeadline⟩

end Protected

end FxStrategyLab
