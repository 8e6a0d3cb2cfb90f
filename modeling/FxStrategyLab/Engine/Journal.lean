import FxStrategyLab.Engine.Engine
import FxStrategyLab.Library.Chain

/-!
# The verification of the journal

This file embeds `verify_journal` of `v4_gmo_persistence.py`.  It reads the rows of
three tables as they stand in the database, so that labels are texts here: a row whose
label no method of the store would write is a row that the verification has to judge.
The rows of a store are the texts of its typed rows.
-/

namespace FxStrategyLab

open Library

/-- A row of `safe_events`. -/
structure SafeEventRow where
  sequence : Nat
  cycleRef : Digest
  eventCategory : List Char
  stateSafeLabel : List Char
  previousDigest : Digest
  digest : Digest

/-- The columns of `action_attempts` that are verified. -/
structure ActionAttemptRow where
  cycleRef : Digest
  actionKind : List Char
  outcomeSafeLabel : List Char

/-- The columns of `cycles` that are verified. -/
structure CycleStateRow where
  cycleRef : Digest
  state : List Char

/-- The three selections of `verify_journal`; the events are ordered by their number. -/
structure JournalRows where
  events : List SafeEventRow
  attempts : List ActionAttemptRow
  cycles : List CycleStateRow

/-- Source `V4GmoJournalSummary`, without its constant fields. -/
structure V4GmoJournalSummary where
  eventCount : Nat
  actionAttemptCount : Nat
  finalState : List Char

def attemptStartedLabel : List Char := "ATTEMPT_STARTED".toList

def attemptStartedSuffix : List Char := "_ATTEMPT_STARTED".toList

def V4GmoActionAttempt.label (attempt : V4GmoActionAttempt) : List Char :=
  match attempt.outcomeSafeLabel with
  | none => attemptStartedLabel
  | some outcome => outcome.value.toList

def V4GmoSafeEvent.row (event : V4GmoSafeEvent) : SafeEventRow where
  sequence := event.sequence
  cycleRef := event.cycleRef
  eventCategory := event.eventCategory.value.toList
  stateSafeLabel := event.stateSafeLabel.value.toList
  previousDigest := event.previousDigest
  digest := event.digest

def V4GmoActionAttempt.row (attempt : V4GmoActionAttempt) : ActionAttemptRow where
  cycleRef := attempt.cycleRef
  actionKind := attempt.action.value.toList
  outcomeSafeLabel := attempt.label

def V4GmoStoredCycle.row (cycle : V4GmoStoredCycle) : CycleStateRow where
  cycleRef := cycle.cycleRef
  state := cycle.state.value.toList

/-- What `verify_journal` selects from a store. -/
def V4GmoStateStore.journalRows (store : V4GmoStateStore) : JournalRows where
  events := store.safeEvents.map V4GmoSafeEvent.row
  attempts := store.attempts.rows.map V4GmoActionAttempt.row
  cycles := store.cycles.rows.map V4GmoStoredCycle.row

variable (sha : Sha256)

/-- Source `_event_digest`, on the texts of a row. -/
def SafeEventRow.expectedDigest (row : SafeEventRow)
    (previousDigest : Digest) : Digest :=
  sha.hexdigest (plainText
    ((toString row.sequence).toList ++ '|' :: row.cycleRef ++ '|' :: row.eventCategory ++
      '|' :: row.stateSafeLabel ++ '|' :: previousDigest))

def journalLinking : Linking SafeEventRow Digest where
  sequence := SafeEventRow.sequence
  previous := SafeEventRow.previousDigest
  digest := SafeEventRow.digest
  recompute := SafeEventRow.expectedDigest sha

variable (events : List SafeEventRow)

/-- Source `final_state_by_cycle`: the last state journaled for each cycle. -/
def finalStateByCycle : Digest → Option (List Char) :=
  events.foldl (fun states row =>
    Function.update states row.cycleRef (some row.stateSafeLabel)) fun _ => none

/-- The categories of the outcomes of an attempt, source `outcome_categories`. -/
def outcomeCategories (attempt : ActionAttemptRow) :
    List (List Char) :=
  (events.filter fun row => decide (row.cycleRef = attempt.cycleRef ∧
    (attempt.actionKind ++ ['_']) <+: row.eventCategory ∧
    row.eventCategory ≠ attempt.actionKind ++ attemptStartedSuffix)).map
      SafeEventRow.eventCategory

/-- The test of one attempt: it is started once, and its outcome is journaled exactly
when it has one. -/
def attemptVerified (attempt : ActionAttemptRow) : Bool :=
  let expectedStart := attempt.actionKind ++ attemptStartedSuffix
  let expectedOutcome := attempt.actionKind ++ '_' :: attempt.outcomeSafeLabel
  let startMatches := events.countP fun row =>
    decide (row.cycleRef = attempt.cycleRef ∧ row.eventCategory = expectedStart)
  let categories := outcomeCategories events attempt
  if attempt.outcomeSafeLabel = attemptStartedLabel then
    decide (startMatches = 1 ∧ categories = [])
  else
    decide (startMatches = 1 ∧ categories.count expectedOutcome = 1 ∧ categories.length = 1)

def startCount : Nat :=
  events.countP fun row => decide (attemptStartedSuffix <:+ row.eventCategory)

def verifyJournal (rows : JournalRows) :
    Except V4Error V4GmoJournalSummary :=
  if ¬(journalLinking sha).Valid 1 V4GmoStateStore.genesisDigest rows.events then
    .error (persistenceError "v4 safe journal verification failed")
  else if ¬((∀ row ∈ rows.events, row.cycleRef ∈ rows.cycles.map CycleStateRow.cycleRef) ∧
      ∀ cycle ∈ rows.cycles, cycle.cycleRef ∈ rows.events.map SafeEventRow.cycleRef) then
    .error (persistenceError "v4 cycle journal coverage failed")
  else if ¬∀ cycle ∈ rows.cycles,
      finalStateByCycle rows.events cycle.cycleRef = some cycle.state then
    .error (persistenceError "v4 cycle state journal mismatch")
  else if ¬∀ attempt ∈ rows.attempts, attemptVerified rows.events attempt = true then
    .error (persistenceError "v4 action journal verification failed")
  else if startCount rows.events ≠ rows.attempts.length then
    .error (persistenceError "v4 action journal verification failed")
  else
    .ok
      { eventCount := rows.events.length
        actionAttemptCount := rows.attempts.length
        finalState := (rows.events.getLast?.map SafeEventRow.stateSafeLabel).getD
          "EMPTY".toList }

def JournalRows.Refused (rows : JournalRows) : Prop :=
  ∃ e, verifyJournal sha rows = .error e

structure JournalRows.Accepted (sha : Sha256) (rows : JournalRows) : Prop where
  valid : (journalLinking sha).Valid 1 V4GmoStateStore.genesisDigest rows.events
  covered : ∀ row ∈ rows.events, row.cycleRef ∈ rows.cycles.map CycleStateRow.cycleRef
  covering : ∀ cycle ∈ rows.cycles,
    cycle.cycleRef ∈ rows.events.map SafeEventRow.cycleRef
  states : ∀ cycle ∈ rows.cycles,
    finalStateByCycle rows.events cycle.cycleRef = some cycle.state
  attempts : ∀ attempt ∈ rows.attempts, attemptVerified rows.events attempt = true
  starts : startCount rows.events = rows.attempts.length

theorem verifyJournal_eq_ok {sha : Sha256} {rows : JournalRows} :
    (∃ summary, verifyJournal sha rows = .ok summary) ↔ rows.Accepted sha := by
  unfold verifyJournal
  constructor
  · rintro ⟨summary, h⟩
    split at h
    · cases h
    case isFalse hvalid =>
    split at h
    · cases h
    case isFalse hcovered =>
    split at h
    · cases h
    case isFalse hstates =>
    split at h
    · cases h
    case isFalse hattempts =>
    split at h
    · cases h
    case isFalse hstarts =>
    rw [not_not] at hvalid hcovered hstates hattempts hstarts
    exact ⟨hvalid, hcovered.1, hcovered.2, hstates, hattempts, hstarts⟩
  · intro h
    rw [if_neg (not_not.mpr h.valid), if_neg (not_not.mpr ⟨h.covered, h.covering⟩),
      if_neg (not_not.mpr h.states), if_neg (not_not.mpr h.attempts),
      if_neg (not_not.mpr h.starts)]
    exact ⟨_, rfl⟩

theorem JournalRows.refused_of_not_accepted {sha : Sha256} {rows : JournalRows}
    (h : ¬rows.Accepted sha) : rows.Refused sha := by
  rw [← verifyJournal_eq_ok] at h
  cases hrows : verifyJournal sha rows with
  | ok summary => exact absurd ⟨summary, hrows⟩ h
  | error e => exact ⟨e, hrows⟩

namespace V4GmoCycleState

/-- The members of the enumeration, in order. -/
def all : List V4GmoCycleState :=
  [entryIntentPersisted, marketEntryAttempted, entryReconciling, remainderCancelAttempted,
    entryFilledUnprotected, protectionIntentPersisted, protectionAttempted,
    protectionReconciling, positionProtected, protectionCancelIntentPersisted,
    protectionCancelAttempted, protectionCancelReconciling, emergencyExitIntentPersisted,
    emergencyExitAttempted, flatReconciled, haltedOperatorReviewRequired,
    operatorReloadCleared]

theorem mem_all (state : V4GmoCycleState) : state ∈ all := by
  cases state <;> decide

theorem value_injective {state state' : V4GmoCycleState}
    (h : state.value.toList = state'.value.toList) : state = state' := by
  have hall : ∀ s ∈ all, ∀ s' ∈ all, s.value = s'.value → s = s' := by
    decide +kernel
  exact hall state (mem_all state) state' (mem_all state') (String.toList_inj.mp h)

end V4GmoCycleState

namespace V4GmoSyntheticOutcome

theorem value_ne_started (outcome : V4GmoSyntheticOutcome) :
    outcome.value.toList ≠ attemptStartedLabel := by
  intro h
  have h : outcome.value = "ATTEMPT_STARTED" := String.toList_inj.mp h
  cases outcome <;> simp [value] at h

end V4GmoSyntheticOutcome

theorem V4GmoSyntheticOutcome.not_suffix (outcome : V4GmoSyntheticOutcome) :
    ¬(attemptStartedSuffix <:+ outcome.value.toList ∨
      outcome.value.toList <:+ attemptStartedSuffix) := by
  cases outcome <;> decide +kernel

theorem attemptStartedSuffix_eq : attemptStartedSuffix = '_' :: attemptStartedLabel :=
  rfl

/-- The value of an action with the blank behind it, by which its outcomes are found. -/
def V4GmoAction.stem (action : V4GmoAction) : List Char :=
  action.value.toList ++ ['_']

theorem V4GmoAction.eq_of_stem_prefix {action action' : V4GmoAction} {l : List Char}
    (h : action.stem <+: l) (h' : action'.stem <+: l) : action = action' := by
  have hall : ∀ a ∈ Engine.allActions, ∀ a' ∈ Engine.allActions,
      a.stem <+: a'.stem → a = a' := by
    decide +kernel
  have hmem : ∀ a : V4GmoAction, a ∈ Engine.allActions := by
    intro a
    cases a <;> decide
  rcases List.prefix_or_prefix_of_prefix h h' with hstem | hstem
  · exact hall action (hmem action) action' (hmem action') hstem
  · exact (hall action' (hmem action') action (hmem action) hstem).symm

namespace V4GmoEventCategory

def startedAction : V4GmoEventCategory → Option V4GmoAction
  | attemptStarted action => some action
  | _ => none

def outcomeOf (action : V4GmoAction) : V4GmoEventCategory → Option V4GmoSyntheticOutcome
  | outcomeRecorded recorded outcome => if recorded = action then some outcome else none
  | _ => none

variable {action recorded : V4GmoAction}

theorem outcomeOf_outcomeRecorded {outcome : V4GmoSyntheticOutcome} :
    (outcomeRecorded recorded outcome).outcomeOf action =
      if recorded = action then some outcome else none :=
  rfl

def fixed : List V4GmoEventCategory :=
  [entryIntentPersisted, restartEntryReconciling, restartCancelReconciling,
    restartProtectionReconciling, restartProtectionCancelReconciling,
    protectedPositionFoundFlat, restartMismatchedProtectionCancelIntent, entryReconciling,
    entryRejectedOrUnfilledFlat, entryFilledUnprotected, cancelRemainderReconciling,
    protectionIntentPersisted, protectionReconciling, positionAlreadyFlat,
    orphanProtectionCancelIntentPersisted, exactSizeProtectionConfirmed,
    mismatchedProtectionCancelIntentPersisted, protectionCancelReconciling,
    protectionCancelFoundFlat, restartProtectionMissingExitRequired,
    unprotectedWindowExceeded, protectionNotExact, mismatchedProtectionRemovedExitRequired,
    emergencyExitFlatConfirmed, haltedOperatorReviewRequired, operatorReloadClearedNoPost]

variable {category : V4GmoEventCategory}

theorem fixed_texts (h : category ∈ fixed) :
    (∀ action : V4GmoAction, ¬action.stem <+: category.value.toList) ∧
      ¬attemptStartedSuffix <:+ category.value.toList := by
  have hall : ∀ c ∈ fixed, (∀ a ∈ Engine.allActions, ¬a.stem <+: c.value.toList) ∧
      ¬attemptStartedSuffix <:+ c.value.toList := by
    decide +kernel
  refine ⟨fun action => (hall category h).1 action ?_, (hall category h).2⟩
  cases action <;> decide

theorem value_attemptStarted (action : V4GmoAction) :
    (attemptStarted action).value.toList = action.value.toList ++ attemptStartedSuffix :=
  String.toList_append

theorem value_outcomeRecorded (action : V4GmoAction) (outcome : V4GmoSyntheticOutcome) :
    (outcomeRecorded action outcome).value.toList = action.stem ++ outcome.value.toList := by
  have hblank : "_".toList = ['_'] := rfl
  unfold V4GmoAction.stem
  rw [← hblank, ← String.toList_append, ← String.toList_append]
  rfl

theorem stem_prefix_attemptStarted (action : V4GmoAction) :
    action.stem <+: (attemptStarted action).value.toList := by
  rw [value_attemptStarted, attemptStartedSuffix_eq]
  exact ⟨attemptStartedLabel, by simp [V4GmoAction.stem]⟩

theorem value_eq_started_iff :
    category.value.toList = action.value.toList ++ attemptStartedSuffix ↔
      category.startedAction = some action := by
  rw [← value_attemptStarted]
  constructor
  · intro h
    have hstem : action.stem <+: category.value.toList :=
      h ▸ stem_prefix_attemptStarted action
    cases category with
    | attemptStarted started =>
        rw [V4GmoAction.eq_of_stem_prefix (stem_prefix_attemptStarted started) hstem]
        rfl
    | outcomeRecorded recorded outcome =>
        rw [value_outcomeRecorded] at h hstem
        obtain rfl := V4GmoAction.eq_of_stem_prefix (List.prefix_append _ _) hstem
        rw [value_attemptStarted, attemptStartedSuffix_eq] at h
        have htext : outcome.value.toList = attemptStartedLabel := by
          simpa [V4GmoAction.stem] using h
        exact absurd htext outcome.value_ne_started
    | _ => exact absurd hstem ((fixed_texts (by decide)).1 action)
  · intro h
    cases category with
    | attemptStarted started =>
        cases h
        rfl
    | outcomeRecorded recorded outcome => cases h
    | _ => cases h

theorem outcomePrefix_iff :
    action.stem <+: category.value.toList ∧
        category.value.toList ≠ action.value.toList ++ attemptStartedSuffix ↔
      (category.outcomeOf action).isSome = true := by
  rw [Ne, value_eq_started_iff]
  cases category with
  | attemptStarted started =>
      constructor
      · rintro ⟨hstem, hnot⟩
        refine absurd ?_ hnot
        rw [V4GmoAction.eq_of_stem_prefix hstem (stem_prefix_attemptStarted started)]
        rfl
      · intro h
        cases h
  | outcomeRecorded recorded outcome =>
      rw [value_outcomeRecorded, outcomeOf_outcomeRecorded]
      constructor
      · rintro ⟨hstem, -⟩
        rw [if_pos (V4GmoAction.eq_of_stem_prefix (List.prefix_append _ _) hstem)]
        rfl
      · intro h
        split at h
        case isTrue heq =>
          subst heq
          exact ⟨List.prefix_append _ _, nofun⟩
        case isFalse => cases h
  | _ => exact ⟨fun h => absurd h.1 ((fixed_texts (by decide)).1 action), fun h => nomatch h⟩

theorem startedSuffix_iff :
    attemptStartedSuffix <:+ category.value.toList ↔ category.startedAction.isSome = true := by
  cases category with
  | attemptStarted started =>
      rw [value_attemptStarted]
      exact ⟨fun _ => rfl, fun _ => List.suffix_append _ _⟩
  | outcomeRecorded recorded outcome =>
      refine ⟨fun h => ?_, fun h => nomatch h⟩
      rw [value_outcomeRecorded] at h
      -- two ends of one text, so that one of them ends the other
      exact absurd (List.suffix_or_suffix_of_suffix h (List.suffix_append _ _))
        outcome.not_suffix
  | _ => exact ⟨fun h => absurd h (fixed_texts (by decide)).2, fun h => nomatch h⟩

end V4GmoEventCategory

end FxStrategyLab
