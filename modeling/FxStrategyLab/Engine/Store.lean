import FxStrategyLab.Engine.Contracts
import FxStrategyLab.Library.Table

/-!
# The journal store of the synthetic engine

This file embeds `V4GmoStateStore` of `v4_gmo_persistence.py`: the tables
`cycles`, `action_attempts` and `safe_events` with their keys, the global halt,
and the write methods.  A write method is one SQLite transaction; it gives the
store it commits, or the error it raises, in which case nothing is committed.
-/

namespace FxStrategyLab

open Library

def persistenceError (message : String) : V4Error :=
  { exceptionClass := .persistence, message }

/-- Source `V4GmoStoredCycle`, a row of the table `cycles`. -/
structure V4GmoStoredCycle where
  cycleRef : Digest
  signalFingerprint : Digest
  policyConfigHash : Digest
  state : V4GmoCycleState
  side : SignalDecision
  requestedSize : Nat
  filledSize : Nat := 0
  protectedSize : Nat := 0
  unprotectedSinceUtc : Option Instant := none
  entryDayJst : TradingDay
  createdAtUtc : Instant
  updatedAtUtc : Instant
  haltReason : Option V4GmoHaltReason := none

/-- A row of the table `action_attempts`; no outcome stands for `ATTEMPT_STARTED`. -/
structure V4GmoActionAttempt where
  cycleRef : Digest
  action : V4GmoAction
  attemptedAtUtc : Instant
  outcomeSafeLabel : Option V4GmoSyntheticOutcome := none

/-- The primary key of `action_attempts`. -/
def V4GmoActionAttempt.primaryKey (row : V4GmoActionAttempt) : Digest × V4GmoAction :=
  (row.cycleRef, row.action)

/-- A row of the table `safe_events`. -/
structure V4GmoSafeEvent where
  sequence : Nat
  cycleRef : Digest
  eventCategory : V4GmoEventCategory
  stateSafeLabel : V4GmoCycleState
  previousDigest : Digest
  digest : Digest

structure V4GmoGlobalHalt where
  reason : String
  atUtc : Instant

/-- The two unique columns of `cycles`. -/
def storedCycleKeys : List (V4GmoStoredCycle → Digest) :=
  [V4GmoStoredCycle.cycleRef, V4GmoStoredCycle.signalFingerprint]

/-- Source `V4GmoStateStore`: the committed content of the database. -/
structure V4GmoStateStore where
  cycles : Table V4GmoStoredCycle Digest storedCycleKeys := Table.empty
  attempts : Table V4GmoActionAttempt (Digest × V4GmoAction)
    [V4GmoActionAttempt.primaryKey] := Table.empty
  safeEvents : List V4GmoSafeEvent := []
  globalHalt : Option V4GmoGlobalHalt := none

/-- The arguments of `transition` behind the cycle and the time. -/
structure V4GmoMove where
  target : V4GmoCycleState
  eventCategory : V4GmoEventCategory
  filledSize : Option Nat := none
  protectedSize : Option Nat := none
  unprotectedSinceUtc : Option Instant := none
  haltReason : Option V4GmoHaltReason := none

namespace V4GmoStateStore

variable (store : V4GmoStateStore)

def cycle? (cycleRef : Digest) : Option V4GmoStoredCycle :=
  store.cycles.rows.find? fun row => row.cycleRef = cycleRef

def loadCycle (cycleRef : Digest) :
    Except V4Error V4GmoStoredCycle :=
  match store.cycle? cycleRef with
  | none => .error (persistenceError "v4 GMO cycle not found")
  | some row => .ok row

def actionAttempted (cycleRef : Digest)
    (action : V4GmoAction) : Bool :=
  store.attempts.rows.any fun row => row.primaryKey = (cycleRef, action)

def activeCycleCount : Nat :=
  store.cycles.rows.countP fun row => row.state.active

/-- Source `halt_latched`: the global halt, or a cycle that is halted. -/
def haltLatched : Bool :=
  store.globalHalt.isSome ||
    store.cycles.rows.any fun row => row.state = .haltedOperatorReviewRequired

/-- The daily guard of `create_cycle`: a cycle of that entry day has a MARKET attempt. -/
def marketAttemptOfEntryDay (entryDayJst : TradingDay) : Bool :=
  store.attempts.rows.any fun attempt =>
    decide (attempt.action = .marketEntry) &&
      store.cycles.rows.any fun row =>
        decide (row.cycleRef = attempt.cycleRef ∧ row.entryDayJst = entryDayJst)

variable (sha : Sha256)

def eventDigest (sequence : Nat) (cycleRef : Digest)
    (eventCategory : V4GmoEventCategory) (state : V4GmoCycleState)
    (previousDigest : Digest) : Digest :=
  sha.hexdigest (plainText
    ((toString sequence).toList ++ '|' :: cycleRef ++ '|' :: eventCategory.value.toList ++
      '|' :: state.value.toList ++ '|' :: previousDigest))

def genesisDigest : Digest := "GENESIS".toList

def appendEvent (cycleRef : Digest) (eventCategory : V4GmoEventCategory)
    (state : V4GmoCycleState) (store : V4GmoStateStore) : V4GmoStateStore :=
  let last := store.safeEvents.getLast?
  let sequence := (last.map fun event => event.sequence + 1).getD 1
  let previousDigest := (last.map V4GmoSafeEvent.digest).getD genesisDigest
  { store with
    safeEvents := store.safeEvents ++
      [{ sequence
         cycleRef
         eventCategory
         stateSafeLabel := state
         previousDigest
         digest :=
          eventDigest sha sequence cycleRef eventCategory state previousDigest }] }

def KeepsKeys (f : V4GmoStoredCycle → V4GmoStoredCycle) : Prop :=
  ∀ r, ∀ key ∈ storedCycleKeys, key (f r) = key r

def updateCycle (cycleRef : Digest)
    (f : V4GmoStoredCycle → V4GmoStoredCycle)
    (hf : KeepsKeys f) : V4GmoStateStore :=
  { store with
    cycles := store.cycles.updateWhere (fun row => row.cycleRef = cycleRef) f hf }

/-- The row that `create_cycle` inserts. -/
def newCycle (cycleRef : Digest) (signal : FormalSignal)
    (policy : V4GmoExecutionPolicy) (nowUtc : Instant) : V4GmoStoredCycle where
  cycleRef
  signalFingerprint := signal.fingerprint sha
  policyConfigHash := policy.configHash sha
  state := .entryIntentPersisted
  side := signal.decision
  requestedSize := policy.requestedSize
  entryDayJst := v4GmoTradingDayJst nowUtc
  createdAtUtc := nowUtc
  updatedAtUtc := nowUtc

/-- Source `create_cycle`, for the reference that `build_v4_cycle_ref` gave. -/
def createCycle (cycleRef : Digest) (signal : FormalSignal)
    (policy : V4GmoExecutionPolicy) (nowUtc : Instant) (store : V4GmoStateStore) :
    Except V4Error V4GmoStateStore :=
  if store.activeCycleCount ≠ 0 then
    .error (persistenceError "an active v4 GMO cycle already exists")
  else if store.haltLatched = true then
    .error (persistenceError "v4 GMO operator halt is latched")
  else if store.marketAttemptOfEntryDay (v4GmoTradingDayJst nowUtc) = true then
    .error (persistenceError "v4 GMO daily entry attempt already exists")
  else
    match store.cycles.insert? (newCycle sha cycleRef signal policy nowUtc) with
    | none => .error (persistenceError "duplicate v4 GMO cycle refused")
    | some cycles =>
        .ok (appendEvent sha cycleRef .entryIntentPersisted .entryIntentPersisted
          { store with cycles })

def attemptedCycle (action : V4GmoAction) (target : V4GmoCycleState) (nowUtc : Instant)
    (row : V4GmoStoredCycle) : V4GmoStoredCycle :=
  { row with
    state := target
    updatedAtUtc := nowUtc
    unprotectedSinceUtc :=
      if action = .marketEntry then row.unprotectedSinceUtc <|> some nowUtc
      else row.unprotectedSinceUtc }

theorem attemptedCycle_keepsKeys (action : V4GmoAction) (target : V4GmoCycleState)
    (nowUtc : Instant) : KeepsKeys (attemptedCycle action target nowUtc) := by
  intro r key hkey
  simp only [storedCycleKeys, List.mem_cons, List.not_mem_nil, or_false] at hkey
  rcases hkey with rfl | rfl <;> rfl

/-- Source `record_action_attempt`.  An action without an attempt state is a missing
key of the source's table. -/
def recordActionAttempt (cycleRef : Digest) (action : V4GmoAction)
    (target : V4GmoCycleState) (nowUtc : Instant) (store : V4GmoStateStore) :
    Except V4Error V4GmoStateStore :=
  if action.attemptTarget = none then
    .error { exceptionClass := .other, message := "KeyError" }
  else if action.attemptTarget ≠ some target then
    .error (persistenceError "v4 action and attempt state do not match")
  else
    match store.cycle? cycleRef with
    | none => .error (persistenceError "v4 GMO cycle not found")
    | some row =>
        match requireV4Transition row.state target with
        | .error e => .error e
        | .ok () =>
            match store.attempts.insert? { cycleRef, action, attemptedAtUtc := nowUtc } with
            | none => .error (persistenceError "second v4 GMO action attempt refused")
            | some attempts =>
                .ok (appendEvent sha cycleRef (.attemptStarted action) target
                  ({ store with attempts }.updateCycle cycleRef
                    (attemptedCycle action target nowUtc)
                    (attemptedCycle_keepsKeys action target nowUtc)))

def openAttempt (cycleRef : Digest) (action : V4GmoAction)
    (attempt : V4GmoActionAttempt) : Bool :=
  decide (attempt.primaryKey = (cycleRef, action) ∧ attempt.outcomeSafeLabel = none)

def recordActionOutcome (cycleRef : Digest) (action : V4GmoAction)
    (outcome : V4GmoSyntheticOutcome) (store : V4GmoStateStore) :
    Except V4Error V4GmoStateStore :=
  if store.attempts.rows.any (openAttempt cycleRef action) = false then
    .error (persistenceError "v4 GMO action attempt not found")
  else
    match store.cycle? cycleRef with
    | none => .error (persistenceError "v4 GMO cycle not found")
    | some row =>
        .ok (appendEvent sha cycleRef (.outcomeRecorded action outcome) row.state
          { store with
            attempts := store.attempts.updateWhere (openAttempt cycleRef action)
              (fun attempt => { attempt with outcomeSafeLabel := some outcome })
              (by simp [V4GmoActionAttempt.primaryKey]) })

def movedCycle (move : V4GmoMove) (nowUtc : Instant) (row : V4GmoStoredCycle) :
    V4GmoStoredCycle :=
  { row with
    state := move.target
    updatedAtUtc := nowUtc
    filledSize := move.filledSize.getD row.filledSize
    protectedSize := move.protectedSize.getD row.protectedSize
    unprotectedSinceUtc := row.unprotectedSinceUtc <|> move.unprotectedSinceUtc
    haltReason := move.haltReason <|> row.haltReason }

theorem movedCycle_keepsKeys (move : V4GmoMove) (nowUtc : Instant) :
    KeepsKeys (movedCycle move nowUtc) := by
  intro r key hkey
  simp only [storedCycleKeys, List.mem_cons, List.not_mem_nil, or_false] at hkey
  rcases hkey with rfl | rfl <;> rfl

def transition (cycleRef : Digest) (move : V4GmoMove) (nowUtc : Instant)
    (store : V4GmoStateStore) : Except V4Error V4GmoStateStore :=
  match store.cycle? cycleRef with
  | none => .error (persistenceError "v4 GMO cycle not found")
  | some row =>
      match requireV4Transition row.state move.target with
      | .error e => .error e
      | .ok () =>
          .ok (appendEvent sha cycleRef move.eventCategory move.target
            (store.updateCycle cycleRef (movedCycle move nowUtc)
              (movedCycle_keepsKeys move nowUtc)))

def engageGlobalHalt (reason : String) (nowUtc : Instant) (store : V4GmoStateStore) :
    Except V4Error V4GmoStateStore :=
  if validSafeLabel reason = false then
    .error (persistenceError "v4 safe label is invalid")
  else .ok { store with globalHalt := some { reason, atUtc := nowUtc } }

def requireOperatorReload (confirmation : String) (freshFlatConfirmed : Bool) :
    Except V4Error Unit :=
  if confirmation ≠ "H11_V4_GMO_OPERATOR_RELOAD_NO_POST" then
    .error (persistenceError "v4 operator reload confirmation mismatch")
  else if freshFlatConfirmed = false then
    .error (persistenceError "v4 operator reload requires fresh flat state")
  else .ok ()

section Committed

variable {sha : Sha256} {store store' : V4GmoStateStore} {cycleRef : Digest}

@[simp]
theorem cycles_appendEvent (category : V4GmoEventCategory) (state : V4GmoCycleState) :
    (appendEvent sha cycleRef category state store).cycles = store.cycles :=
  rfl

@[simp]
theorem attempts_appendEvent (category : V4GmoEventCategory) (state : V4GmoCycleState) :
    (appendEvent sha cycleRef category state store).attempts = store.attempts :=
  rfl

@[simp]
theorem attempts_updateCycle {f : V4GmoStoredCycle → V4GmoStoredCycle}
    {hf : KeepsKeys f} : (store.updateCycle cycleRef f hf).attempts = store.attempts :=
  rfl

theorem cycle?_eq_some {row : V4GmoStoredCycle} :
    store.cycle? cycleRef = some row ↔ row ∈ store.cycles.rows ∧ row.cycleRef = cycleRef :=
  store.cycles.find?_key_eq_some (by simp [storedCycleKeys])

theorem mem_updateCycle {f : V4GmoStoredCycle → V4GmoStoredCycle} {hf : KeepsKeys f}
    {r : V4GmoStoredCycle} :
    r ∈ (store.updateCycle cycleRef f hf).cycles.rows ↔
      (r ∈ store.cycles.rows ∧ r.cycleRef ≠ cycleRef) ∨
        ∃ row, store.cycle? cycleRef = some row ∧ r = f row := by
  have hrows : (store.updateCycle cycleRef f hf).cycles.rows =
      store.cycles.rows.map fun row =>
        if decide (row.cycleRef = cycleRef) = true then f row else row :=
    rfl
  rw [hrows]
  simp only [decide_eq_true_eq, List.mem_map, cycle?_eq_some]
  constructor
  · rintro ⟨row, hrow, rfl⟩
    by_cases h : row.cycleRef = cycleRef
    · rw [if_pos h]
      exact Or.inr ⟨row, ⟨hrow, h⟩, rfl⟩
    · rw [if_neg h]
      exact Or.inl ⟨hrow, h⟩
  · rintro (⟨hr, h⟩ | ⟨row, ⟨hrow, h⟩, rfl⟩)
    · exact ⟨r, hr, if_neg h⟩
    · exact ⟨row, hrow, if_pos h⟩

theorem requireV4Transition_ok {current target : V4GmoCycleState} :
    requireV4Transition current target = .ok () ↔ target ∈ current.allowedTargets := by
  unfold requireV4Transition
  split <;> simp_all

variable {nowUtc : Instant}

theorem createCycle_ok {signal : FormalSignal} {policy : V4GmoExecutionPolicy}
    (h : createCycle sha cycleRef signal policy nowUtc store = .ok store') :
    store.activeCycleCount = 0 ∧ store.haltLatched = false ∧
      store.marketAttemptOfEntryDay (v4GmoTradingDayJst nowUtc) = false ∧
      store.cycles.Fresh (newCycle sha cycleRef signal policy nowUtc) ∧
      store'.cycles.rows =
        store.cycles.rows ++ [newCycle sha cycleRef signal policy nowUtc] ∧
      store'.attempts = store.attempts := by
  unfold createCycle at h
  split at h
  · cases h
  case isFalse hactive =>
  split at h
  · cases h
  case isFalse hhalt =>
  split at h
  · cases h
  case isFalse hday =>
  split at h
  · cases h
  case h_2 cycles hinsert =>
  cases h
  obtain ⟨hfresh, hrows⟩ := Table.insert?_eq_some.mp hinsert
  exact ⟨not_not.mp hactive, by simpa using hhalt, by simpa using hday, hfresh, hrows, rfl⟩

theorem recordActionAttempt_ok {action : V4GmoAction} {target : V4GmoCycleState}
    (h : recordActionAttempt sha cycleRef action target nowUtc store = .ok store') :
    ∃ row, store.cycle? cycleRef = some row ∧ action.attemptTarget = some target ∧
      target ∈ row.state.allowedTargets ∧
      (cycleRef, action) ∉ store.attempts.rows.map V4GmoActionAttempt.primaryKey ∧
      store'.attempts.rows =
        store.attempts.rows ++ [{ cycleRef, action, attemptedAtUtc := nowUtc }] ∧
      store'.cycles =
        (store.updateCycle cycleRef (attemptedCycle action target nowUtc)
          (attemptedCycle_keepsKeys action target nowUtc)).cycles := by
  unfold recordActionAttempt at h
  split at h
  · cases h
  split at h
  · cases h
  case isFalse htarget =>
  split at h
  · cases h
  case h_2 row hrow =>
  split at h
  · cases h
  case h_2 hallowed =>
  split at h
  · cases h
  case h_2 attempts hinsert =>
  cases h
  obtain ⟨hfresh, hrows⟩ := Table.insert?_eq_some.mp hinsert
  refine ⟨row, hrow, not_not.mp htarget, requireV4Transition_ok.mp hallowed, ?_, hrows, rfl⟩
  exact hfresh V4GmoActionAttempt.primaryKey (by simp)

theorem recordActionOutcome_ok {action : V4GmoAction} {outcome : V4GmoSyntheticOutcome}
    (h : recordActionOutcome sha cycleRef action outcome store = .ok store') :
    store'.cycles = store.cycles ∧
      store'.attempts.rows = store.attempts.rows.map fun attempt =>
        if openAttempt cycleRef action attempt then
          { attempt with outcomeSafeLabel := some outcome }
        else attempt := by
  unfold recordActionOutcome at h
  split at h
  · cases h
  split at h
  · cases h
  cases h
  exact ⟨rfl, rfl⟩

theorem transition_ok {move : V4GmoMove}
    (h : transition sha cycleRef move nowUtc store = .ok store') :
    ∃ row, store.cycle? cycleRef = some row ∧ move.target ∈ row.state.allowedTargets ∧
      store'.attempts = store.attempts ∧
      store'.cycles =
        (store.updateCycle cycleRef (movedCycle move nowUtc)
          (movedCycle_keepsKeys move nowUtc)).cycles := by
  unfold transition at h
  split at h
  · cases h
  case h_2 row hrow =>
  split at h
  · cases h
  case h_2 hallowed =>
  cases h
  exact ⟨row, hrow, requireV4Transition_ok.mp hallowed, rfl, rfl⟩

end Committed

end V4GmoStateStore

end FxStrategyLab
