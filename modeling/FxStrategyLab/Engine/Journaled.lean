import FxStrategyLab.Engine.Moves
import FxStrategyLab.Engine.Journal
import FxStrategyLab.Library.History

/-!
# What the journal of a run holds

Every write of the store appends one event, in the transaction that changes the tables.
The journal therefore tells the tables: the last event of a cycle carries its state, the
events of attempts are the attempts in order, and the outcome of an attempt is the one
that is journaled for it.  A transition raises the rank of the state of its cycle, so
that no run of transitions leads back to a state.
-/

namespace FxStrategyLab

open Library

namespace V4GmoSafeEvent

def startedKey (event : V4GmoSafeEvent) : Option (Digest × V4GmoAction) :=
  event.eventCategory.startedAction.map fun action => (event.cycleRef, action)

def outcomeOf (key : Digest × V4GmoAction) (event : V4GmoSafeEvent) :
    Option V4GmoSyntheticOutcome :=
  if event.cycleRef = key.1 then event.eventCategory.outcomeOf key.2 else none

end V4GmoSafeEvent

def lastState (events : List V4GmoSafeEvent) : Digest → Option V4GmoCycleState :=
  events.foldl (fun states event =>
    Function.update states event.cycleRef (some event.stateSafeLabel)) fun _ => none

@[simp]
theorem lastState_nil : lastState [] = fun _ => none :=
  rfl

theorem lastState_append_singleton (events : List V4GmoSafeEvent) (event : V4GmoSafeEvent) :
    lastState (events ++ [event]) =
      Function.update (lastState events) event.cycleRef (some event.stateSafeLabel) := by
  unfold lastState
  rw [List.foldl_append]
  rfl

theorem lastState_isSome {events : List V4GmoSafeEvent} {cycleRef : Digest} :
    (lastState events cycleRef).isSome = true ↔
      ∃ event ∈ events, event.cycleRef = cycleRef := by
  induction events using List.reverseRecOn with
  | nil => simp
  | append_singleton events event ih =>
      rw [lastState_append_singleton]
      by_cases h : cycleRef = event.cycleRef
      · subst h
        simp
      · rw [Function.update_of_ne h, ih]
        simp only [List.mem_append, List.mem_singleton]
        constructor
        · rintro ⟨e, he, href⟩
          exact ⟨e, Or.inl he, href⟩
        · rintro ⟨e, he | rfl, href⟩
          · exact ⟨e, he, href⟩
          · exact absurd href.symm h

theorem lastState_eq_none {events : List V4GmoSafeEvent} {cycleRef : Digest}
    (h : ∀ event ∈ events, event.cycleRef ≠ cycleRef) : lastState events cycleRef = none := by
  have hnot : ¬(lastState events cycleRef).isSome = true := by
    rw [lastState_isSome]
    rintro ⟨event, hevent, href⟩
    exact h event hevent href
  simpa using hnot

def V4GmoCycleState.rank : V4GmoCycleState → Nat
  | entryIntentPersisted | marketEntryAttempted | remainderCancelAttempted => 0
  | entryReconciling => 1
  | entryFilledUnprotected => 2
  | protectionIntentPersisted | protectionAttempted => 3
  | protectionReconciling => 4
  | positionProtected => 5
  | protectionCancelIntentPersisted | protectionCancelAttempted => 6
  | protectionCancelReconciling => 7
  | emergencyExitIntentPersisted | emergencyExitAttempted => 8
  | flatReconciled => 9
  | haltedOperatorReviewRequired => 10
  | operatorReloadCleared => 11

theorem V4GmoCycleState.rank_lt {state target : V4GmoCycleState}
    (h : target ∈ state.allowedTargets) (hplain : target ∉ ofAttempt) :
    state.rank < target.rank := by
  revert h hplain
  revert target
  cases state <;> decide

/-- What an event must find in the journal before it: a new cycle no event, a transition
a state of lower rank. -/
def Follows (before : List V4GmoSafeEvent) (event : V4GmoSafeEvent) : Prop :=
  (event.eventCategory = .entryIntentPersisted → lastState before event.cycleRef = none) ∧
    (event.eventCategory.ofMove = true →
      ∃ state, lastState before event.cycleRef = some state ∧
        state.rank < event.stateSafeLabel.rank)

namespace V4GmoStateStore

/-- The journal of the store tells its tables. -/
structure Journaled (sha : Sha256) (store : V4GmoStateStore) : Prop where
  valid : (journalLinking sha).Valid 1 genesisDigest
    (store.safeEvents.map V4GmoSafeEvent.row)
  grown : Grown Follows store.safeEvents
  states : ∀ row ∈ store.cycles.rows,
    lastState store.safeEvents row.cycleRef = some row.state
  covered : ∀ event ∈ store.safeEvents, ∃ row ∈ store.cycles.rows,
    row.cycleRef = event.cycleRef
  started : store.safeEvents.filterMap V4GmoSafeEvent.startedKey = store.attemptKeys
  outcomes : ∀ attempt ∈ store.attempts.rows,
    store.safeEvents.filterMap (V4GmoSafeEvent.outcomeOf attempt.primaryKey) =
      attempt.outcomeSafeLabel.toList
  recorded : ∀ event ∈ store.safeEvents, ∀ action,
    (event.eventCategory.outcomeOf action).isSome = true →
      (event.cycleRef, action) ∈ store.attemptKeys

def nextEvent (sha : Sha256) (events : List V4GmoSafeEvent) (cycleRef : Digest)
    (eventCategory : V4GmoEventCategory) (state : V4GmoCycleState) : V4GmoSafeEvent where
  sequence := (events.getLast?.map fun event => event.sequence + 1).getD 1
  cycleRef
  eventCategory
  stateSafeLabel := state
  previousDigest := (events.getLast?.map V4GmoSafeEvent.digest).getD genesisDigest
  digest := eventDigest sha ((events.getLast?.map fun event => event.sequence + 1).getD 1)
    cycleRef eventCategory state
    ((events.getLast?.map V4GmoSafeEvent.digest).getD genesisDigest)

variable {sha : Sha256} {store store' : V4GmoStateStore} {cycleRef : Digest}

variable {nowUtc : Instant}

theorem safeEvents_createCycle {signal : FormalSignal} {policy : V4GmoExecutionPolicy}
    (h : createCycle sha cycleRef signal policy nowUtc store = .ok store') :
    store'.safeEvents = store.safeEvents ++
      [nextEvent sha store.safeEvents cycleRef .entryIntentPersisted
        .entryIntentPersisted] := by
  unfold createCycle at h
  split at h
  · cases h
  split at h
  · cases h
  split at h
  · cases h
  split at h
  · cases h
  cases h
  rfl

theorem safeEvents_recordActionAttempt {action : V4GmoAction} {target : V4GmoCycleState}
    (h : recordActionAttempt sha cycleRef action target nowUtc store = .ok store') :
    store'.safeEvents = store.safeEvents ++
      [nextEvent sha store.safeEvents cycleRef (.attemptStarted action) target] := by
  unfold recordActionAttempt at h
  split at h
  · cases h
  split at h
  · cases h
  split at h
  · cases h
  split at h
  · cases h
  split at h
  · cases h
  cases h
  rfl

theorem safeEvents_recordActionOutcome {action : V4GmoAction} {outcome : V4GmoSyntheticOutcome}
    (h : recordActionOutcome sha cycleRef action outcome store = .ok store') :
    ∃ row attempt, store.cycle? cycleRef = some row ∧ attempt ∈ store.attempts.rows ∧
      openAttempt cycleRef action attempt = true ∧
      store'.safeEvents = store.safeEvents ++
        [nextEvent sha store.safeEvents cycleRef (.outcomeRecorded action outcome)
          row.state] := by
  unfold recordActionOutcome at h
  split at h
  · cases h
  case isFalse hopen =>
  split at h
  · cases h
  case h_2 row hrow =>
  cases h
  rw [Bool.not_eq_false, List.any_eq_true] at hopen
  obtain ⟨attempt, hattempt, hopen⟩ := hopen
  exact ⟨row, attempt, hrow, hattempt, hopen, rfl⟩

theorem safeEvents_transition {move : V4GmoMove}
    (h : transition sha cycleRef move nowUtc store = .ok store') :
    store'.safeEvents = store.safeEvents ++
      [nextEvent sha store.safeEvents cycleRef move.eventCategory move.target] := by
  unfold transition at h
  split at h
  · cases h
  split at h
  · cases h
  cases h
  rfl

theorem valid_append {events : List V4GmoSafeEvent} (category : V4GmoEventCategory)
    (state : V4GmoCycleState)
    (h : (journalLinking sha).Valid 1 genesisDigest (events.map V4GmoSafeEvent.row)) :
    (journalLinking sha).Valid 1 genesisDigest
      ((events ++ [nextEvent sha events cycleRef category state]).map
        V4GmoSafeEvent.row) := by
  have hlast : (journalLinking sha).lastDigest genesisDigest
      (events.map V4GmoSafeEvent.row) =
        (events.getLast?.map V4GmoSafeEvent.digest).getD genesisDigest := by
    unfold Linking.lastDigest
    rw [List.getLast?_map, Option.map_map]
    rfl
  have hnext : (events.getLast?.map fun event => event.sequence + 1).getD 1 =
      1 + (events.map V4GmoSafeEvent.row).length := by
    rw [← h.nextSequence_eq]
    unfold Linking.nextSequence
    rw [List.getLast?_map, Option.map_map]
    rfl
  rw [List.map_append, List.map_singleton, Linking.valid_append_singleton, hlast]
  exact ⟨h, hnext, rfl, rfl⟩

theorem states_append {events : List V4GmoSafeEvent} {event : V4GmoSafeEvent}
    {rows : List V4GmoStoredCycle} (hother : ∀ row ∈ rows, row.cycleRef ≠ event.cycleRef →
      lastState events row.cycleRef = some row.state)
    (hsame : ∀ row ∈ rows, row.cycleRef = event.cycleRef →
      row.state = event.stateSafeLabel) :
    ∀ row ∈ rows, lastState (events ++ [event]) row.cycleRef = some row.state := by
  intro row hrow
  rw [lastState_append_singleton]
  by_cases href : row.cycleRef = event.cycleRef
  · rw [href, Function.update_self, hsame row hrow href]
  · rw [Function.update_of_ne href]
    exact hother row hrow href

/-- An event of no attempt and no outcome leaves what is read of the attempts alone. -/
theorem attempts_append {events : List V4GmoSafeEvent} {event : V4GmoSafeEvent}
    (hstarted : event.eventCategory.startedAction = none)
    (houtcome : ∀ action, event.eventCategory.outcomeOf action = none) :
    (events ++ [event]).filterMap V4GmoSafeEvent.startedKey =
        events.filterMap V4GmoSafeEvent.startedKey ∧
      ∀ key, (events ++ [event]).filterMap (V4GmoSafeEvent.outcomeOf key) =
        events.filterMap (V4GmoSafeEvent.outcomeOf key) := by
  have hkey : event.startedKey = none := by
    unfold V4GmoSafeEvent.startedKey
    rw [hstarted]
    rfl
  have hnone : ∀ key, event.outcomeOf key = none := by
    intro key
    unfold V4GmoSafeEvent.outcomeOf
    rw [houtcome, ite_self]
  refine ⟨?_, fun key => ?_⟩
  · rw [List.filterMap_append]
    simp [hkey]
  · rw [List.filterMap_append]
    simp [hnone]

/-- After a change of one cycle, every row is of a cycle that was there, and the changed
one carries the changed state. -/
theorem mem_changed {f : V4GmoStoredCycle → V4GmoStoredCycle} {hf : KeepsKeys f}
    {row : V4GmoStoredCycle} (hrow : store.cycle? cycleRef = some row)
    (hcycles : store'.cycles = (store.updateCycle cycleRef f hf).cycles) :
    (∀ r ∈ store'.cycles.rows, r.cycleRef ≠ cycleRef → r ∈ store.cycles.rows) ∧
      (∀ r ∈ store'.cycles.rows, r.cycleRef = cycleRef → r = f row) ∧
      ∀ r ∈ store.cycles.rows, ∃ r' ∈ store'.cycles.rows, r'.cycleRef = r.cycleRef := by
  have hkey : (f row).cycleRef = row.cycleRef := hf row V4GmoStoredCycle.cycleRef
    (by simp [storedCycleKeys])
  have hold := cycle?_eq_some.mp hrow
  have hmem : ∀ r, r ∈ store'.cycles.rows ↔
      (r ∈ store.cycles.rows ∧ r.cycleRef ≠ cycleRef) ∨ r = f row := by
    intro r
    rw [hcycles, mem_updateCycle]
    refine or_congr_right ⟨?_, ?_⟩
    · rintro ⟨row', hrow', rfl⟩
      rw [Option.some.inj (hrow.symm.trans hrow')]
    · rintro rfl
      exact ⟨row, hrow, rfl⟩
  refine ⟨fun r hr href => ?_, fun r hr href => ?_, fun r hr => ?_⟩
  · rcases (hmem r).mp hr with ⟨hr, -⟩ | rfl
    · exact hr
    · exact absurd (hkey.trans hold.2) href
  · rcases (hmem r).mp hr with ⟨-, hother⟩ | rfl
    · exact absurd href hother
    · rfl
  · by_cases href : r.cycleRef = cycleRef
    · exact ⟨f row, (hmem _).mpr (Or.inr rfl), hkey.trans (hold.2.trans href.symm)⟩
    · exact ⟨r, (hmem r).mpr (Or.inl ⟨hr, href⟩), rfl⟩

namespace Journaled

variable {nowUtc : Instant}

theorem createCycle {signal : FormalSignal} {policy : V4GmoExecutionPolicy}
    (hI : store.Journaled sha)
    (h : createCycle sha cycleRef signal policy nowUtc store = .ok store') :
    store'.Journaled sha := by
  obtain ⟨-, -, -, hfresh, hrows, hattempts⟩ := createCycle_ok h
  have hevents := safeEvents_createCycle h
  have hkeys : store'.attemptKeys = store.attemptKeys := by
    unfold attemptKeys
    rw [hattempts]
  -- the new cycle has no event yet
  have hnew : ∀ row ∈ store.cycles.rows, row.cycleRef ≠ cycleRef := by
    intro row hrow href
    exact hfresh V4GmoStoredCycle.cycleRef (by simp [storedCycleKeys])
      (List.mem_map.mpr ⟨row, hrow, href⟩)
  have hnone : lastState store.safeEvents cycleRef = none := by
    refine lastState_eq_none fun event hevent href => ?_
    obtain ⟨row, hrow, hcycle⟩ := hI.covered event hevent
    exact hnew row hrow (hcycle.trans href)
  obtain ⟨hstarted, houtcomes⟩ := @attempts_append store.safeEvents
    (nextEvent sha store.safeEvents cycleRef .entryIntentPersisted
      .entryIntentPersisted) rfl fun _ => rfl
  refine ⟨?_, ?_, ?_, ?_, ?_, ?_, ?_⟩
  · rw [hevents]
    exact valid_append _ _ hI.valid
  · rw [hevents, grown_append_singleton]
    exact ⟨hI.grown, fun _ => hnone, fun hmove => absurd hmove Bool.false_ne_true⟩
  · rw [hevents, hrows]
    refine states_append (fun row hrow href => ?_) fun row hrow href => ?_
    · rcases List.mem_append.mp hrow with hrow | hrow
      · exact hI.states row hrow
      · rw [List.mem_singleton.mp hrow] at href
        exact absurd rfl href
    · rcases List.mem_append.mp hrow with hrow | hrow
      · exact absurd href (hnew row hrow)
      · rw [List.mem_singleton.mp hrow]
        rfl
  · rw [hevents, hrows]
    intro event hevent
    rcases List.mem_append.mp hevent with hevent | hevent
    · obtain ⟨row, hrow, href⟩ := hI.covered event hevent
      exact ⟨row, List.mem_append_left _ hrow, href⟩
    · rw [List.mem_singleton.mp hevent]
      exact ⟨_, List.mem_append_right _ (List.mem_singleton_self _), rfl⟩
  · rw [hevents, hstarted, hkeys]
    exact hI.started
  · rw [hattempts, hevents]
    intro attempt hattempt
    rw [houtcomes]
    exact hI.outcomes attempt hattempt
  · rw [hevents, hkeys]
    intro event hevent action hsome
    rcases List.mem_append.mp hevent with hevent | hevent
    · exact hI.recorded event hevent action hsome
    · rw [List.mem_singleton.mp hevent] at hsome
      cases hsome

theorem transition {move : V4GmoMove} (hI : store.Journaled sha)
    (h : transition sha cycleRef move nowUtc store = .ok store') (hplain : move.Plain) :
    store'.Journaled sha := by
  obtain ⟨row, hrow, hallowed, hattempts, hcycles⟩ := transition_ok h
  have hevents := safeEvents_transition h
  have hold := cycle?_eq_some.mp hrow
  have hkeys : store'.attemptKeys = store.attemptKeys := by
    unfold attemptKeys
    rw [hattempts]
  obtain ⟨hother, hchanged, hthere⟩ := mem_changed hrow hcycles
  have hcategory := hplain.category
  have hnothing : move.eventCategory.startedAction = none ∧
      ∀ action, move.eventCategory.outcomeOf action = none := by
    revert hcategory
    cases move.eventCategory <;> simp [V4GmoEventCategory.ofMove,
      V4GmoEventCategory.startedAction, V4GmoEventCategory.outcomeOf]
  obtain ⟨hstarted, houtcomes⟩ := @attempts_append store.safeEvents
    (nextEvent sha store.safeEvents cycleRef move.eventCategory move.target)
    hnothing.1 hnothing.2
  refine ⟨?_, ?_, ?_, ?_, ?_, ?_, ?_⟩
  · rw [hevents]
    exact valid_append _ _ hI.valid
  · rw [hevents, grown_append_singleton]
    refine ⟨hI.grown, fun hentry => ?_, fun _ => ⟨row.state, ?_, ?_⟩⟩
    · have hentry' : move.eventCategory = .entryIntentPersisted := hentry
      rw [hentry'] at hcategory
      cases hcategory
    · have hstate := hI.states row hold.1
      rwa [hold.2] at hstate
    · exact V4GmoCycleState.rank_lt hallowed hplain.target
  · rw [hevents]
    refine states_append (fun r hr href => hI.states r (hother r hr href))
      fun r hr href => ?_
    rw [hchanged r hr href]
    rfl
  · rw [hevents]
    intro event hevent
    rcases List.mem_append.mp hevent with hevent | hevent
    · obtain ⟨r, hr, href⟩ := hI.covered event hevent
      obtain ⟨r', hr', href'⟩ := hthere r hr
      exact ⟨r', hr', href'.trans href⟩
    · rw [List.mem_singleton.mp hevent]
      obtain ⟨r', hr', href'⟩ := hthere row hold.1
      exact ⟨r', hr', href'.trans hold.2⟩
  · rw [hevents, hstarted, hkeys]
    exact hI.started
  · rw [hattempts, hevents]
    intro attempt hattempt
    rw [houtcomes]
    exact hI.outcomes attempt hattempt
  · rw [hevents, hkeys]
    intro event hevent action hsome
    rcases List.mem_append.mp hevent with hevent | hevent
    · exact hI.recorded event hevent action hsome
    · rw [List.mem_singleton.mp hevent] at hsome
      have hnone : (nextEvent sha store.safeEvents cycleRef move.eventCategory
          move.target).eventCategory.outcomeOf action = none := hnothing.2 action
      rw [hnone] at hsome
      cases hsome

theorem recordActionAttempt {action : V4GmoAction} {target : V4GmoCycleState}
    (hI : store.Journaled sha)
    (h : recordActionAttempt sha cycleRef action target nowUtc store = .ok store') :
    store'.Journaled sha := by
  obtain ⟨row, hrow, -, -, hfresh, hattempts, hcycles⟩ := recordActionAttempt_ok h
  obtain ⟨-, hkeys⟩ := attemptKeys_recordActionAttempt h
  have hevents := safeEvents_recordActionAttempt h
  have hold := cycle?_eq_some.mp hrow
  obtain ⟨hother, hchanged, hthere⟩ := mem_changed hrow hcycles
  have houtcomes : ∀ key, store'.safeEvents.filterMap (V4GmoSafeEvent.outcomeOf key) =
      store.safeEvents.filterMap (V4GmoSafeEvent.outcomeOf key) := by
    intro key
    rw [hevents, List.filterMap_append]
    simp [V4GmoSafeEvent.outcomeOf, nextEvent, V4GmoEventCategory.outcomeOf]
  refine ⟨?_, ?_, ?_, ?_, ?_, ?_, ?_⟩
  · rw [hevents]
    exact valid_append _ _ hI.valid
  · rw [hevents, grown_append_singleton]
    exact ⟨hI.grown, nofun, nofun⟩
  · rw [hevents]
    refine states_append (fun r hr href => hI.states r (hother r hr href))
      fun r hr href => ?_
    rw [hchanged r hr href]
    rfl
  · rw [hevents]
    intro event hevent
    rcases List.mem_append.mp hevent with hevent | hevent
    · obtain ⟨r, hr, href⟩ := hI.covered event hevent
      obtain ⟨r', hr', href'⟩ := hthere r hr
      exact ⟨r', hr', href'.trans href⟩
    · rw [List.mem_singleton.mp hevent]
      obtain ⟨r', hr', href'⟩ := hthere row hold.1
      exact ⟨r', hr', href'.trans hold.2⟩
  · rw [hevents, hkeys, List.filterMap_append, hI.started]
    rfl
  · rw [hattempts]
    intro attempt hattempt
    rw [houtcomes]
    rcases List.mem_append.mp hattempt with hattempt | hattempt
    · exact hI.outcomes attempt hattempt
    · -- an outcome of the new attempt would be of an attempt that was there
      rw [List.mem_singleton.mp hattempt]
      refine List.filterMap_eq_nil_iff.mpr fun event hevent => ?_
      unfold V4GmoSafeEvent.outcomeOf
      split
      case isFalse => rfl
      case isTrue href =>
        cases houtcome : event.eventCategory.outcomeOf action with
        | none => exact houtcome
        | some outcome =>
            have hmem := hI.recorded event hevent action (by rw [houtcome]; rfl)
            rw [href] at hmem
            exact absurd hmem hfresh
  · rw [hevents, hkeys]
    intro event hevent a hsome
    rcases List.mem_append.mp hevent with hevent | hevent
    · exact List.mem_append_left _ (hI.recorded event hevent a hsome)
    · rw [List.mem_singleton.mp hevent] at hsome
      cases hsome

theorem recordActionOutcome {action : V4GmoAction} {outcome : V4GmoSyntheticOutcome}
    (hI : store.Journaled sha)
    (h : recordActionOutcome sha cycleRef action outcome store = .ok store') :
    store'.Journaled sha := by
  obtain ⟨hcycles, hattempts⟩ := recordActionOutcome_ok h
  have hkeys := attemptKeys_recordActionOutcome h
  obtain ⟨row, opened, hrow, hopened, hopen, hevents⟩ := safeEvents_recordActionOutcome h
  obtain ⟨hkey, hnone⟩ := of_decide_eq_true hopen
  have hold := cycle?_eq_some.mp hrow
  have hnew : ∀ key, (nextEvent sha store.safeEvents cycleRef
      (.outcomeRecorded action outcome) row.state).outcomeOf key =
        if key = (cycleRef, action) then some outcome else none := by
    rintro ⟨ref, a⟩
    by_cases href : cycleRef = ref <;> by_cases ha : action = a <;>
      simp [V4GmoSafeEvent.outcomeOf, nextEvent, V4GmoEventCategory.outcomeOf, href, ha,
        eq_comm]
  refine ⟨?_, ?_, ?_, ?_, ?_, ?_, ?_⟩
  · rw [hevents]
    exact valid_append _ _ hI.valid
  · rw [hevents, grown_append_singleton]
    exact ⟨hI.grown, nofun, nofun⟩
  · rw [hevents, hcycles]
    refine states_append (fun r hr _ => hI.states r hr) fun r hr href => ?_
    have hsame : r = row := @Table.eq_of_key_eq _ _ _ store.cycles V4GmoStoredCycle.cycleRef
      (by simp [storedCycleKeys]) _ _ hr hold.1 (href.trans hold.2.symm)
    rw [hsame]
    rfl
  · rw [hevents, hcycles]
    intro event hevent
    rcases List.mem_append.mp hevent with hevent | hevent
    · exact hI.covered event hevent
    · rw [List.mem_singleton.mp hevent]
      exact ⟨row, hold.1, hold.2⟩
  · rw [hevents, hkeys, List.filterMap_append, hI.started]
    exact List.append_nil _
  · rw [hattempts, hevents]
    intro attempt hattempt
    obtain ⟨before, hbefore, rfl⟩ := List.mem_map.mp hattempt
    have hbeforeOutcomes := hI.outcomes before hbefore
    rw [List.filterMap_append]
    by_cases hsame : before.primaryKey = (cycleRef, action)
    · -- the attempt of that key is the open one
      have hbeforeOpened : before = opened :=
        store.attempts.eq_of_key_eq (List.mem_singleton_self _) hbefore hopened
          (hsame.trans hkey.symm)
      subst hbeforeOpened
      rw [if_pos hopen]
      have hkey' : (V4GmoActionAttempt.mk before.cycleRef before.action before.attemptedAtUtc
          (some outcome)).primaryKey = (cycleRef, action) := hsame
      rw [hkey', ← hsame, hbeforeOutcomes, hnone, hsame]
      simp [hnew]
    · have hclosed : ¬openAttempt cycleRef action before = true :=
        fun hopen => hsame (of_decide_eq_true hopen).1
      rw [if_neg hclosed, hbeforeOutcomes]
      simp [hnew, hsame]
  · rw [hevents, hkeys]
    intro event hevent a hsome
    rcases List.mem_append.mp hevent with hevent | hevent
    · exact hI.recorded event hevent a hsome
    · rw [List.mem_singleton.mp hevent] at hsome ⊢
      have haction : action = a := by
        by_contra hne
        simp [nextEvent, V4GmoEventCategory.outcomeOf, hne] at hsome
      subst haction
      exact List.mem_map.mpr ⟨opened, hopened, hkey⟩

theorem of_same (hI : store.Journaled sha) (hevents : store'.safeEvents = store.safeEvents)
    (hcycles : store'.cycles = store.cycles) (hattempts : store'.attempts = store.attempts) :
    store'.Journaled sha := by
  have hkeys : store'.attemptKeys = store.attemptKeys := by
    unfold attemptKeys
    rw [hattempts]
  refine ⟨hevents ▸ hI.valid, hevents ▸ hI.grown, ?_, ?_, ?_, ?_, ?_⟩
  · rw [hevents, hcycles]
    exact hI.states
  · rw [hevents, hcycles]
    exact hI.covered
  · rw [hevents, hkeys]
    exact hI.started
  · rw [hevents, hattempts]
    exact hI.outcomes
  · rw [hevents, hkeys]
    exact hI.recorded

/-- **Step lemma.** Every engine step with proper events keeps the journal. -/
theorem step {C : V4GmoStateStore → Instant → Prop} {w w' : EngineWorld}
    (h : EngineStep sha C w w') (hI : w.AllProper → w.store.Journaled sha) :
    w'.AllProper → w'.store.Journaled sha := by
  intro hproper
  have hbefore : ∀ later, w'.events = w.events ++ later → w.store.Journaled sha := by
    intro later hevents
    refine hI fun event hevent => hproper event ?_
    rw [hevents]
    exact List.mem_append_left _ hevent
  have hsame : w'.events = w.events → w.store.Journaled sha :=
    fun hevents => hbefore [] (hevents.trans (List.append_nil _).symm)
  cases h with
  | quiet hstore hevents => exact hstore ▸ hsame hevents
  | create cycleRef signal policy nowUtc _ _ hcommitted hevents =>
      exact (hsame hevents).createCycle hcommitted
  | attempt cycleRef action target nowUtc hcommitted hevents =>
      rcases hevents with hevents | ⟨plan, -, -, hevents⟩
      · exact (hsame hevents).recordActionAttempt hcommitted
      · exact (hbefore _ hevents).recordActionAttempt hcommitted
  | outcome cycleRef action outcome hcommitted hevents =>
      exact (hsame hevents).recordActionOutcome hcommitted
  | move cycleRef move nowUtc hcommitted hevents =>
      obtain ⟨row, hrow, -⟩ := transition_ok hcommitted
      have hmoved : (EngineEvent.moved row move nowUtc w.lastRead).Proper := by
        refine hproper _ ?_
        rw [hevents]
        refine List.mem_append_right _ ?_
        unfold Engine.movedEvent
        rw [hrow]
        exact List.mem_singleton_self _
      exact (hbefore _ hevents).transition hcommitted hmoved.1
  | globalHalt halt hstore hevents =>
      exact (hsame hevents).of_same (by rw [hstore]) (by rw [hstore]) (by rw [hstore])

end Journaled

theorem journaled_of_run (ops : List EngineOp) :
    (after (engineStep sha) {} ops).store.Journaled sha := by
  have hstart : ({} : EngineWorld).AllProper → ({} : EngineWorld).store.Journaled sha := by
    intro _
    refine ⟨trivial, grown_nil, ?_, ?_, rfl, ?_, ?_⟩
    all_goals
      intro x hx
      cases hx
  exact engine_invariant_always (fun _ _ => Journaled.step) hstart ops (allProper_of_run ops)

end V4GmoStateStore

end FxStrategyLab
