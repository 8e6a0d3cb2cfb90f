import FxStrategyLab.Contracts

/-!
# Persistent risk limits and dead-man switch

This file embeds `runtime_safety.py`: the calendar-rolled loss and entry
budgets with their latched stop states, and the dead-man heartbeat.  The
functions of the source change a state object in place; here they return the
changed state.  A state file is absent, malformed or holds a state; reading a
malformed one raises the message stored with it.
-/

namespace FxStrategyLab

def runtimeSafetyError (message : String) : V4Error :=
  { exceptionClass := .runtimeSafety, message }

inductive AutoRiskStopState
  | active
  | stoppedDailyBudget
  | stoppedMonthlyBudget
  | stoppedConsecutiveLosses
  | killed
deriving DecidableEq

/-- Source `PhaseBRiskPolicy`; the fields carry the constructor's checks. -/
structure PhaseBRiskPolicy where
  policyLabel : String
  perTradeLossBoundJpy : Int
  dailyLossLimitJpy : Int
  monthlyLossLimitJpy : Int
  maximumConsecutiveLosses : Int
  maximumEntriesPerDay : Int
  bound_pos : 0 < perTradeLossBoundJpy
  limits_consistent :
    perTradeLossBoundJpy ≤ dailyLossLimitJpy ∧ dailyLossLimitJpy ≤ monthlyLossLimitJpy
  consecutive_pos : 0 < maximumConsecutiveLosses
  entries_bounds :
    1 ≤ maximumEntriesPerDay ∧ maximumEntriesPerDay ≤ maximumEntriesPerDayCeiling

variable (sha : Sha256)

def PhaseBRiskPolicy.digest (policy : PhaseBRiskPolicy) : Digest :=
  sha.hexdigest
    [("daily_loss_limit_jpy", .integer policy.dailyLossLimitJpy),
      ("maximum_consecutive_losses", .integer policy.maximumConsecutiveLosses),
      ("maximum_entries_per_day", .integer policy.maximumEntriesPerDay),
      ("monthly_loss_limit_jpy", .integer policy.monthlyLossLimitJpy),
      ("per_trade_loss_bound_jpy", .integer policy.perTradeLossBoundJpy),
      ("policy_label", .text policy.policyLabel)]

abbrev TradingMonth := Int

/-- The calendar month of a day, by the civil calendar of the Gregorian rule. -/
def tradingMonth (day : TradingDay) : TradingMonth :=
  let shifted := day + 719468
  let era := shifted / 146097
  let dayOfEra := shifted - era * 146097
  let yearOfEra :=
    (dayOfEra - dayOfEra / 1460 + dayOfEra / 36524 - dayOfEra / 146096) / 365
  let dayOfYear := dayOfEra - (365 * yearOfEra + yearOfEra / 4 - yearOfEra / 100)
  let monthFromMarch := (5 * dayOfYear + 2) / 153
  (yearOfEra + era * 400) * 12 + monthFromMarch + 3

structure PhaseBRiskState where
  policyDigest : Digest
  stopState : AutoRiskStopState := .active
  currentDayJst : Option TradingDay := none
  currentMonthJst : Option TradingMonth := none
  dailyLossJpyInternal : Int := 0
  monthlyLossJpyInternal : Int := 0
  consecutiveLosses : Int := 0
  entriesToday : Int := 0
  stoppedOnJst : Option TradingDay := none
  disciplineViolationCount : Int := 0
  closedResultCycleRefs : List Digest := []
deriving DecidableEq

structure PhaseBRiskGateResult where
  allowed : Bool
  stopState : AutoRiskStopState
  blockedReasons : List String
deriving DecidableEq

def validateRiskState (policy : PhaseBRiskPolicy)
    (state : PhaseBRiskState) : Except V4Error Unit :=
  if state.policyDigest ≠ policy.digest sha then
    .error (runtimeSafetyError "risk state policy mismatch")
  else if state.dailyLossJpyInternal < 0 ∨ state.monthlyLossJpyInternal < 0 ∨
      state.consecutiveLosses < 0 ∨ state.entriesToday < 0 ∨
      state.disciplineViolationCount < 0 then
    .error (runtimeSafetyError "risk state counters are invalid")
  else if ¬((∀ ref ∈ state.closedResultCycleRefs, IsHex64 ref) ∧
      state.closedResultCycleRefs.Nodup) then
    .error (runtimeSafetyError "risk closed result refs are invalid")
  else
    .ok ()

def rollCalendar (state : PhaseBRiskState) (currentDay : TradingDay) : PhaseBRiskState :=
  let rolled :=
    if state.currentDayJst = some currentDay then state
    else
      let cleared :=
        { state with
          currentDayJst := some currentDay
          dailyLossJpyInternal := 0
          entriesToday := 0 }
      if state.stopState = .stoppedDailyBudget then
        { cleared with stopState := .active, stoppedOnJst := none }
      else cleared
  if rolled.currentMonthJst = some (tradingMonth currentDay) then rolled
  else
    let turned := { rolled with currentMonthJst := some (tradingMonth currentDay) }
    if rolled.stopState = .active then { turned with monthlyLossJpyInternal := 0 }
    else turned

def entryBlockedReasons (policy : PhaseBRiskPolicy) (state : PhaseBRiskState) :
    List String :=
  (if state.stopState ≠ .active then ["PERSISTENT_RISK_STOPPED"] else []) ++
  (if policy.maximumEntriesPerDay ≤ state.entriesToday then
    ["MAX_ENTRIES_PER_DAY_REACHED"] else []) ++
  (if policy.dailyLossLimitJpy ≤ state.dailyLossJpyInternal then
    ["DAILY_LOSS_LIMIT_REACHED"] else []) ++
  (if policy.monthlyLossLimitJpy ≤ state.monthlyLossJpyInternal then
    ["MONTHLY_LOSS_LIMIT_REACHED"] else []) ++
  (if policy.maximumConsecutiveLosses ≤ state.consecutiveLosses then
    ["CONSECUTIVE_LOSS_LIMIT_REACHED"] else [])

/-- Source `evaluate_risk_before_entry`: the rolled state and the gate's answer. -/
def evaluateRiskBeforeEntry (policy : PhaseBRiskPolicy)
    (state : PhaseBRiskState) (cycleDayJst : TradingDay) :
    Except V4Error (PhaseBRiskState × PhaseBRiskGateResult) := do
  validateRiskState sha policy state
  let rolled := rollCalendar state cycleDayJst
  let reasons := entryBlockedReasons policy rolled
  return (rolled,
    { allowed := reasons.isEmpty
      stopState := rolled.stopState
      blockedReasons := reasons })

def recordRiskEntryAttempt (policy : PhaseBRiskPolicy)
    (state : PhaseBRiskState) (cycleDayJst : TradingDay) :
    Except V4Error PhaseBRiskState := do
  let (rolled, gate) ← evaluateRiskBeforeEntry sha policy state cycleDayJst
  if gate.allowed then
    return { rolled with entriesToday := rolled.entriesToday + 1 }
  else
    throw (runtimeSafetyError "entry attempt blocked by persistent risk gate")

/-- Source `_stop`. -/
def stopRisk (state : PhaseBRiskState) (stop : AutoRiskStopState)
    (cycleDayJst : TradingDay) : PhaseBRiskState :=
  { state with stopState := stop, stoppedOnJst := some cycleDayJst }

def stopForBudgets (policy : PhaseBRiskPolicy) (state : PhaseBRiskState)
    (cycleDayJst : TradingDay) : PhaseBRiskState :=
  if policy.maximumConsecutiveLosses ≤ state.consecutiveLosses then
    stopRisk state .stoppedConsecutiveLosses cycleDayJst
  else if policy.monthlyLossLimitJpy ≤ state.monthlyLossJpyInternal then
    stopRisk state .stoppedMonthlyBudget cycleDayJst
  else if policy.dailyLossLimitJpy ≤ state.dailyLossJpyInternal then
    stopRisk state .stoppedDailyBudget cycleDayJst
  else state

/-- Source `record_closed_result`.  The latched stop that blocks the budget
checks is the one before the calendar is rolled. -/
def recordClosedResult (policy : PhaseBRiskPolicy)
    (state : PhaseBRiskState) (cycleDayJst : TradingDay) (pnlJpyInternal : Int) :
    Except V4Error PhaseBRiskState := do
  validateRiskState sha policy state
  let existingStop := state.stopState
  let rolled := rollCalendar state cycleDayJst
  let loss := max 0 (-pnlJpyInternal)
  if policy.perTradeLossBoundJpy < loss then
    return stopRisk
      { rolled with disciplineViolationCount := rolled.disciplineViolationCount + 1 }
      .killed cycleDayJst
  else
    let counted :=
      if 0 < loss then
        { rolled with
          dailyLossJpyInternal := rolled.dailyLossJpyInternal + loss
          monthlyLossJpyInternal := rolled.monthlyLossJpyInternal + loss
          consecutiveLosses := rolled.consecutiveLosses + 1 }
      else { rolled with consecutiveLosses := 0 }
    if existingStop ≠ .active then return counted
    else return stopForBudgets policy counted cycleDayJst

/-- Source `record_closed_result_once`: the new state and whether the result
was applied by this call. -/
def recordClosedResultOnce (policy : PhaseBRiskPolicy)
    (state : PhaseBRiskState) (cycleDayJst : TradingDay) (cycleRef : Digest)
    (pnlJpyInternal : Int) : Except V4Error (PhaseBRiskState × Bool) :=
  if ¬IsHex64 cycleRef then
    .error (runtimeSafetyError "closed result cycle is invalid")
  else do
    validateRiskState sha policy state
    if cycleRef ∈ state.closedResultCycleRefs then
      return (state, false)
    else
      let closed ← recordClosedResult sha policy state cycleDayJst pnlJpyInternal
      return ({ closed with
        closedResultCycleRefs := closed.closedResultCycleRefs ++ [cycleRef] }, true)

/-- A state file: absent, unreadable with the message its reader raises, or
holding a value. -/
inductive StateFile (α : Type)
  | absent
  | malformed (message : String)
  | holds (value : α)
deriving DecidableEq

/-- Source `PhaseBRiskStore.load`. -/
def loadRiskState (policy : PhaseBRiskPolicy)
    (file : StateFile PhaseBRiskState) : Except V4Error PhaseBRiskState :=
  match file with
  | .absent => .ok { policyDigest := policy.digest sha }
  | .malformed message => .error (runtimeSafetyError message)
  | .holds state => do
      validateRiskState sha policy state
      return state

structure DeadManPolicy where
  policyLabel : String
  maximumHeartbeatAgeSeconds : Int
  age_pos : 0 < maximumHeartbeatAgeSeconds

def DeadManPolicy.digest (policy : DeadManPolicy) : Digest :=
  sha.hexdigest
    [("maximum_heartbeat_age_seconds", .integer policy.maximumHeartbeatAgeSeconds),
      ("policy_label", .text policy.policyLabel)]

structure DeadManHeartbeat where
  policyDigest : Digest
  lastHeartbeatUtc : Instant
deriving DecidableEq

/-- Source `DeadManStore.evaluate`: whether the switch is alive, and why. -/
def evaluateDeadMan (policy : DeadManPolicy)
    (file : StateFile DeadManHeartbeat) (nowUtc : Instant) : Bool × String :=
  match file with
  | .absent => (false, "DEAD_MAN_HEARTBEAT_MISSING")
  | .malformed _ => (false, "DEAD_MAN_STATE_INVALID")
  | .holds heartbeat =>
      if heartbeat.policyDigest ≠ policy.digest sha then
        (false, "DEAD_MAN_STATE_INVALID")
      else if nowUtc < heartbeat.lastHeartbeatUtc then
        (false, "DEAD_MAN_HEARTBEAT_FROM_FUTURE")
      else if wallSeconds policy.maximumHeartbeatAgeSeconds <
          nowUtc - heartbeat.lastHeartbeatUtc then
        (false, "DEAD_MAN_HEARTBEAT_STALE")
      else (true, "DEAD_MAN_ALIVE")

/-- Source `DeadManStore.heartbeat`: the file after a heartbeat. -/
def deadManHeartbeat (policy : DeadManPolicy)
    (file : StateFile DeadManHeartbeat) (heartbeatUtc : Instant) :
    Except V4Error (StateFile DeadManHeartbeat) :=
  let written := .holds ⟨policy.digest sha, heartbeatUtc⟩
  match file with
  | .absent => .ok written
  | .malformed _ => .error (runtimeSafetyError "dead-man state is invalid")
  | .holds previous =>
      if previous.policyDigest ≠ policy.digest sha then
        .error (runtimeSafetyError "dead-man state is invalid")
      else if heartbeatUtc < previous.lastHeartbeatUtc then
        .error (runtimeSafetyError "heartbeat time must not move backwards")
      else .ok written

namespace Sample

def riskPolicy : PhaseBRiskPolicy where
  policyLabel := "risk"
  perTradeLossBoundJpy := 5000
  dailyLossLimitJpy := 10000
  monthlyLossLimitJpy := 30000
  maximumConsecutiveLosses := 3
  maximumEntriesPerDay := 3
  bound_pos := by decide
  limits_consistent := by decide
  consecutive_pos := by decide
  entries_bounds := by decide

def deadManPolicy : DeadManPolicy where
  policyLabel := "dead-man"
  maximumHeartbeatAgeSeconds := 120
  age_pos := by decide

end Sample

end FxStrategyLab
