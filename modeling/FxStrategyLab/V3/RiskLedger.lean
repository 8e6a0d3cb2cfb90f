import FxStrategyLab.RiskGate

/-!
# The persistent risk ledger of version 3

This file embeds the risk part of `h11_v3_runtime_safety.py`: the persistent state with
its single stop field, the lazy calendar roll, the gate before an entry, the closed
results, the kill and the operator's reload.  The functions of the source change the state
object in place; here they return the changed state.  Days are valid days: a text that is
none raises before anything changes.

**Results.**

* `counters_roll`, `counters_countLoss`: calendar and counters are those of the later ledger.
* `stopForLosses_stop`, `rollRiskCalendar_stop`: what becomes of the stop.
-/

namespace FxStrategyLab.V3

def monthlyMaxLossJpy : Int := 50000
def dailyMaxLossJpy : Int := 10000
def perTradeMaxLossBoundJpy : Int := 5000
def maxConsecutiveLossesStop : Int := 5
def maxTradesPerDay : Int := 1
def budgetReloadCoolingDays : Int := 14

/-- Source `H11V3RiskStopState`; its members are those of `AutoRiskStopState`. -/
abbrev H11V3RiskStopState := AutoRiskStopState

structure H11V3RiskPersistentState where
  stopState : H11V3RiskStopState := .active
  currentDayJst : Option TradingDay := none
  currentMonthJst : Option TradingMonth := none
  dailyLossJpy : Int := 0
  monthlyLossJpy : Int := 0
  consecutiveLosses : Int := 0
  entriesToday : Int := 0
  stoppedOnJst : Option TradingDay := none
  disciplineViolationCount : Int := 0

structure H11V3RiskGateResult where
  allowed : Bool
  stopState : H11V3RiskStopState
  blockedReasons : List String

variable (state : H11V3RiskPersistentState)

def rollRiskCalendar (currentDay : TradingDay) :
    H11V3RiskPersistentState :=
  let rolled :=
    if state.currentDayJst = some currentDay then state
    else
      let cleared :=
        { state with currentDayJst := some currentDay, dailyLossJpy := 0, entriesToday := 0 }
      if state.stopState = .stoppedDailyBudget then
        { cleared with stopState := .active, stoppedOnJst := none }
      else cleared
  if rolled.currentMonthJst = some (tradingMonth currentDay) then rolled
  else
    let turned := { rolled with currentMonthJst := some (tradingMonth currentDay) }
    -- the figure that triggered a stop survives the month
    if rolled.stopState = .active then { turned with monthlyLossJpy := 0 }
    else turned

def enterRiskStop (stop : H11V3RiskStopState)
    (cycleDayJst : TradingDay) : H11V3RiskPersistentState :=
  { state with stopState := stop, stoppedOnJst := some cycleDayJst }

def riskBlockedReasons : List String :=
  (if state.stopState ≠ .active then ["RISK_SESSION_STOPPED"] else []) ++
  (if maxTradesPerDay ≤ state.entriesToday then ["MAX_ENTRIES_PER_DAY_REACHED"] else []) ++
  (if dailyMaxLossJpy ≤ state.dailyLossJpy then ["DAILY_LOSS_LIMIT_REACHED"] else []) ++
  (if monthlyMaxLossJpy ≤ state.monthlyLossJpy then ["MONTHLY_LOSS_LIMIT_REACHED"] else []) ++
  (if maxConsecutiveLossesStop ≤ state.consecutiveLosses then
    ["CONSECUTIVE_LOSS_LIMIT_REACHED"] else [])

/-- Source `evaluate_h11_v3_risk_before_entry`: the rolled state and the gate's answer. -/
def evaluateH11V3RiskBeforeEntry
    (cycleDayJst : TradingDay) : H11V3RiskPersistentState × H11V3RiskGateResult :=
  let rolled := rollRiskCalendar state cycleDayJst
  let reasons := riskBlockedReasons rolled
  (rolled,
    { allowed := reasons.isEmpty, stopState := rolled.stopState, blockedReasons := reasons })

/-- Source `record_h11_v3_entry_attempt`.  A blocked attempt raises, and leaves the state
as the gate rolled it. -/
def recordH11V3EntryAttempt (cycleDayJst : TradingDay) :
    H11V3RiskPersistentState × Except String Unit :=
  let (rolled, gate) := evaluateH11V3RiskBeforeEntry state cycleDayJst
  if gate.allowed then
    ({ rolled with entriesToday := rolled.entriesToday + 1 }, .ok ())
  else (rolled, .error "entry attempt blocked by persistent risk gate")

def countLoss (loss : Int) : H11V3RiskPersistentState :=
  if loss ≠ 0 then
    { state with
      dailyLossJpy := state.dailyLossJpy + loss
      monthlyLossJpy := state.monthlyLossJpy + loss
      consecutiveLosses := state.consecutiveLosses + 1 }
  else { state with consecutiveLosses := 0 }

def stopForLosses (cycleDayJst : TradingDay) :
    H11V3RiskPersistentState :=
  if maxConsecutiveLossesStop ≤ state.consecutiveLosses then
    enterRiskStop state .stoppedConsecutiveLosses cycleDayJst
  else if monthlyMaxLossJpy ≤ state.monthlyLossJpy then
    enterRiskStop state .stoppedMonthlyBudget cycleDayJst
  else if dailyMaxLossJpy ≤ state.dailyLossJpy then
    enterRiskStop state .stoppedDailyBudget cycleDayJst
  else state

/-- Source `record_h11_v3_closed_result`; what it returns is the stop of the state. -/
def recordH11V3ClosedResult (cycleDayJst : TradingDay)
    (pnlJpyInternal : Int) : H11V3RiskPersistentState :=
  let rolled := rollRiskCalendar state cycleDayJst
  let loss := lossOf pnlJpyInternal
  if perTradeMaxLossBoundJpy < loss then
    enterRiskStop
      { rolled with disciplineViolationCount := rolled.disciplineViolationCount + 1 }
      .killed cycleDayJst
  else stopForLosses (countLoss rolled loss) cycleDayJst

def engageH11V3Kill (cycleDayJst : TradingDay) :
    H11V3RiskPersistentState :=
  enterRiskStop state .killed cycleDayJst

/-- When a reload is due: a monthly or a consecutive stop with its post-mortem and review,
cooled down and of an earlier month. -/
def ReloadDue (reloadDay : TradingDay)
    (postmortemComplete reviewApproved : Bool) : Prop :=
  (state.stopState = .stoppedMonthlyBudget ∨ state.stopState = .stoppedConsecutiveLosses) ∧
    postmortemComplete = true ∧ reviewApproved = true ∧
    ∃ stoppedDay ∈ state.stoppedOnJst, budgetReloadCoolingDays ≤ reloadDay - stoppedDay ∧
      tradingMonth reloadDay ≠ tradingMonth stoppedDay
deriving Decidable

/-- Source `operator_reload_h11_v3_risk`: the state, and whether it was reloaded. -/
def operatorReloadH11V3Risk (reloadDay : TradingDay)
    (postmortemComplete reviewApproved : Bool) : H11V3RiskPersistentState × Bool :=
  if ReloadDue state reloadDay postmortemComplete reviewApproved then
    ({ state with
      stopState := .active
      dailyLossJpy := 0
      monthlyLossJpy := 0
      consecutiveLosses := 0
      entriesToday := 0
      stoppedOnJst := none
      currentDayJst := some reloadDay
      currentMonthJst := some (tradingMonth reloadDay) }, true)
  else (state, false)

def OnlyDailyReached (day : TradingDay) (loss : Int) :
    Prop :=
  let counted := countLoss (rollRiskCalendar state day) loss
  counted.consecutiveLosses < maxConsecutiveLossesStop ∧
    counted.monthlyLossJpy < monthlyMaxLossJpy ∧ dailyMaxLossJpy ≤ counted.dailyLossJpy

instance (state : H11V3RiskPersistentState) (day : TradingDay) (loss : Int) :
    Decidable (OnlyDailyReached state day loss) :=
  inferInstanceAs (Decidable (_ ∧ _ ∧ _))

def ledgerPolicy : PhaseBRiskPolicy where
  policyLabel := ""
  perTradeLossBoundJpy := perTradeMaxLossBoundJpy
  dailyLossLimitJpy := dailyMaxLossJpy
  monthlyLossLimitJpy := monthlyMaxLossJpy
  maximumConsecutiveLosses := maxConsecutiveLossesStop
  maximumEntriesPerDay := maxTradesPerDay
  bound_pos := by decide
  limits_consistent := by decide
  consecutive_pos := by decide
  entries_bounds := by decide

def H11V3RiskPersistentState.counters :
    PhaseBRiskState where
  policyDigest := []
  stopState := state.stopState
  currentDayJst := state.currentDayJst
  currentMonthJst := state.currentMonthJst
  dailyLossJpyInternal := state.dailyLossJpy
  monthlyLossJpyInternal := state.monthlyLossJpy
  consecutiveLosses := state.consecutiveLosses
  entriesToday := state.entriesToday
  stoppedOnJst := state.stoppedOnJst
  disciplineViolationCount := state.disciplineViolationCount

section Counters

variable {state : H11V3RiskPersistentState} {day : TradingDay} {history : List RiskRecord}

theorem counters_roll :
    (rollRiskCalendar state day).counters = rollCalendar state.counters day := by
  unfold rollRiskCalendar rollCalendar
  by_cases hday : state.currentDayJst = some day <;>
    by_cases hstop : state.stopState = .stoppedDailyBudget <;>
    by_cases hmonth : state.currentMonthJst = some (tradingMonth day) <;>
    by_cases hactive : state.stopState = .active <;>
    simp_all [H11V3RiskPersistentState.counters]

theorem counters_countLoss (pnl : Int) :
    (countLoss state (lossOf pnl)).counters = countResult state.counters pnl := by
  have hnonneg := lossOf_nonneg pnl
  unfold countLoss countResult
  by_cases hloss : lossOf pnl = 0
  · simp [hloss, H11V3RiskPersistentState.counters]
  · have hpos : 0 < lossOf pnl := lt_of_le_of_ne hnonneg (Ne.symm hloss)
    simp [hloss, hpos, H11V3RiskPersistentState.counters]

theorem counters_enterRiskStop (stop : H11V3RiskStopState) :
    SameCounters state.counters (enterRiskStop state stop day).counters :=
  ⟨rfl, rfl, rfl, rfl, rfl, rfl⟩

theorem counters_stopForLosses :
    SameCounters state.counters (stopForLosses state day).counters := by
  unfold stopForLosses
  split_ifs
  · exact counters_enterRiskStop _
  · exact counters_enterRiskStop _
  · exact counters_enterRiskStop _
  · exact ⟨rfl, rfl, rfl, rfl, rfl, rfl⟩

theorem rollRiskCalendar_day : (rollRiskCalendar state day).currentDayJst = some day := by
  have h := congrArg PhaseBRiskState.currentDayJst (@counters_roll state day)
  rwa [rollCalendar_day] at h

theorem rollRiskCalendar_stop :
    (rollRiskCalendar state day).stopState =
      if state.currentDayJst ≠ some day ∧ state.stopState = .stoppedDailyBudget then .active
      else state.stopState := by
  unfold rollRiskCalendar
  by_cases hday : state.currentDayJst = some day <;>
    by_cases hstop : state.stopState = .stoppedDailyBudget <;>
    by_cases hmonth : state.currentMonthJst = some (tradingMonth day) <;>
    by_cases hactive : state.stopState = .active <;>
    simp_all

theorem countLoss_day {loss : Int} :
    (countLoss state loss).currentDayJst = state.currentDayJst := by
  unfold countLoss
  split_ifs <;> rfl

theorem countLoss_stop (loss : Int) : (countLoss state loss).stopState = state.stopState := by
  unfold countLoss
  split_ifs <;> rfl

theorem stopForLosses_stop :
    (stopForLosses state day).stopState =
      if maxConsecutiveLossesStop ≤ state.consecutiveLosses then .stoppedConsecutiveLosses
      else if monthlyMaxLossJpy ≤ state.monthlyLossJpy then .stoppedMonthlyBudget
      else if dailyMaxLossJpy ≤ state.dailyLossJpy then .stoppedDailyBudget
      else state.stopState := by
  unfold stopForLosses
  split_ifs <;> rfl

theorem recordH11V3ClosedResult_cases (pnl : Int) :
    (perTradeMaxLossBoundJpy < lossOf pnl ∧
      (recordH11V3ClosedResult state day pnl).stopState = .killed ∧
      (recordH11V3ClosedResult state day pnl).currentDayJst = some day) ∨
    (lossOf pnl ≤ perTradeMaxLossBoundJpy ∧
      recordH11V3ClosedResult state day pnl =
        stopForLosses (countLoss (rollRiskCalendar state day) (lossOf pnl)) day) := by
  by_cases hbound : perTradeMaxLossBoundJpy < lossOf pnl
  · refine Or.inl ⟨hbound, ?_⟩
    simp only [recordH11V3ClosedResult, hbound, if_true]
    exact ⟨rfl, rollRiskCalendar_day⟩
  · refine Or.inr ⟨not_lt.mp hbound, ?_⟩
    simp only [recordH11V3ClosedResult, hbound, if_false]

theorem recordH11V3ClosedResult_within {pnl : Int}
    (hbound : lossOf pnl ≤ perTradeMaxLossBoundJpy) :
    recordH11V3ClosedResult state day pnl =
      stopForLosses (countLoss (rollRiskCalendar state day) (lossOf pnl)) day := by
  rcases @recordH11V3ClosedResult_cases state day pnl with ⟨hover, -⟩ | ⟨-, hresult⟩
  · exact absurd hbound (not_le.mpr hover)
  · exact hresult

theorem stopForLosses_day (pnl : Int) :
    (stopForLosses (countLoss (rollRiskCalendar state day) (lossOf pnl)) day).currentDayJst =
      some day :=
  (@counters_stopForLosses _ day).day.trans (countLoss_day.trans rollRiskCalendar_day)

theorem riskBlockedReasons_eq_nil :
    riskBlockedReasons state = [] ↔
      state.stopState = .active ∧ state.entriesToday < maxTradesPerDay ∧
        state.dailyLossJpy < dailyMaxLossJpy ∧ state.monthlyLossJpy < monthlyMaxLossJpy ∧
        state.consecutiveLosses < maxConsecutiveLossesStop := by
  unfold riskBlockedReasons
  simp

/-- The gate allows exactly when the rolled state is active and below every limit. -/
theorem allowed_iff :
    (evaluateH11V3RiskBeforeEntry state day).2.allowed = true ↔
      riskBlockedReasons (rollRiskCalendar state day) = [] :=
  List.isEmpty_iff

end Counters

end FxStrategyLab.V3
