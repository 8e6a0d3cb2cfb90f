import FxStrategyLab.V3.RiskLedger

/-!
# The Stage 1 session

This file embeds the session of `h11_stage1_paper_wiring.py`: its calendar, its pre-trade
gate, the outcomes it records, its kill switch and its reload.  Its limits are those of the
ledger of version 3.

**Results.**

* `operatorReload_killed`: no reload follows a kill.
* `stopped_mem_reasons`: when the gate reports a stop.
-/

namespace FxStrategyLab.V3

open Library

/-- A JST wall-clock time: a day and a microsecond of it. -/
structure JstTime where
  day : TradingDay
  microsecond : Nat

def JstTime.hour (now : JstTime) : Nat :=
  now.microsecond / 3600000000

def JstTime.weekday (now : JstTime) : Int :=
  (now.day + 3) % 7

/-- The whole days from one time to another, as `timedelta.days` counts them. -/
def JstTime.daysSince (now earlier : JstTime) : Int :=
  ((now.day - earlier.day) * 86400000000 + (now.microsecond - earlier.microsecond)) /
    86400000000

def blockedHoursJst : List Nat := [5, 6, 7, 8]
def fridayEntryCutoffHourJst : Nat := 21
def weekdayFriday : Int := 4
def weekendDays : List Int := [5, 6]

/-- Source `H11Stage1StopState`; its members are those of `AutoRiskStopState`. -/
abbrev H11Stage1StopState := AutoRiskStopState

/-- The fields of the source's `H11Stage1Session`. -/
structure H11Stage1Session where
  stopState : H11Stage1StopState := .active
  killSwitchOn : Bool := false
  disciplineViolationLog : List String := []
  monthlyLossJpy : Int := 0
  dailyLossJpy : Int := 0
  consecutiveLosses : Int := 0
  tradesToday : Int := 0
  currentDay : Option TradingDay := none
  currentMonth : Option TradingMonth := none
  stoppedAt : Option JstTime := none

namespace H11Stage1Session

variable (session : H11Stage1Session)

def rollCalendar (now : JstTime) : H11Stage1Session :=
  let rolled :=
    if session.currentDay = some now.day then session
    else
      let cleared :=
        { session with currentDay := some now.day, dailyLossJpy := 0, tradesToday := 0 }
      if session.stopState = .stoppedDailyBudget then
        { cleared with stopState := .active, stoppedAt := none }
      else cleared
  if rolled.currentMonth = some (tradingMonth now.day) then rolled
  else
    let turned := { rolled with currentMonth := some (tradingMonth now.day) }
    if rolled.stopState = .active then { turned with monthlyLossJpy := 0 }
    else turned

def enterStop (stop : H11Stage1StopState) (now : JstTime) :
    H11Stage1Session :=
  { session with stopState := stop, stoppedAt := some now }

/-- Source `pre_trade_gate_reasons`: the rolled session and the reasons in order. -/
def preTradeGateReasons (now : JstTime)
    (eventExclusionActive : Bool) : H11Stage1Session × List String :=
  let rolled := session.rollCalendar now
  (rolled,
    (if rolled.killSwitchOn then ["KILL_SWITCH_ON"] else []) ++
    (if rolled.stopState ≠ .active then ["SESSION_STOPPED"] else []) ++
    (if now.weekday ∈ weekendDays then ["WEEKEND_BLOCKED"] else []) ++
    (if now.hour ∈ blockedHoursJst then ["OUTSIDE_TRADING_HOURS"] else []) ++
    (if now.weekday = weekdayFriday ∧ fridayEntryCutoffHourJst ≤ now.hour then
      ["FRIDAY_LATE_ENTRY_BLOCKED"] else []) ++
    (if eventExclusionActive then ["EVENT_EXCLUSION_WINDOW"] else []) ++
    (if maxTradesPerDay ≤ rolled.tradesToday then ["MAX_TRADES_PER_DAY_REACHED"] else []))

def countOutcome (loss : Int) : H11Stage1Session :=
  let logged :=
    if perTradeMaxLossBoundJpy < loss then
      { session with disciplineViolationLog :=
          session.disciplineViolationLog ++ ["PER_TRADE_LOSS_BOUND_EXCEEDED"] }
    else session
  if 0 < loss then
    { logged with
      dailyLossJpy := logged.dailyLossJpy + loss
      monthlyLossJpy := logged.monthlyLossJpy + loss
      consecutiveLosses := logged.consecutiveLosses + 1 }
  else { logged with consecutiveLosses := 0 }

/-- The stop that the counted outcomes call for, if the stop in force leaves room for it. -/
def stopForOutcomes (now : JstTime) : H11Stage1Session :=
  if maxConsecutiveLossesStop ≤ session.consecutiveLosses ∧ session.stopState = .active then
    session.enterStop .stoppedConsecutiveLosses now
  else if monthlyMaxLossJpy ≤ session.monthlyLossJpy ∧
      session.stopState ≠ .stoppedMonthlyBudget then
    session.enterStop .stoppedMonthlyBudget now
  else if dailyMaxLossJpy ≤ session.dailyLossJpy ∧ session.stopState = .active then
    session.enterStop .stoppedDailyBudget now
  else session

/-- Source `record_paper_trade_outcome_jpy`; what it returns is the stop of the session. -/
def recordPaperTradeOutcomeJpy (netJpySanitized : Int)
    (now : JstTime) : H11Stage1Session :=
  ((session.rollCalendar now).countOutcome (lossOf netJpySanitized)).stopForOutcomes now

/-- Source `operator_reload`: the session, and whether it was reloaded. -/
def operatorReload (now : JstTime) : H11Stage1Session × Bool :=
  if session.stopState = .active ∨ session.stopState = .killed then (session, false)
  else
    match session.stoppedAt with
    | none => (session, false)
    | some stoppedAt =>
        if tradingMonth now.day = tradingMonth stoppedAt.day ∨
            now.daysSince stoppedAt < budgetReloadCoolingDays then
          (session, false)
        else
          ({ session with
            stopState := .active
            stoppedAt := none
            monthlyLossJpy := 0
            dailyLossJpy := 0
            consecutiveLosses := 0 }, true)

def engageKillSwitch : H11Stage1Session :=
  { session with killSwitchOn := true, stopState := .killed }

theorem stopped_mem_reasons (now : JstTime) (eventExclusionActive : Bool) :
    "SESSION_STOPPED" ∈ (session.preTradeGateReasons now eventExclusionActive).2 ↔
      (session.rollCalendar now).stopState ≠ .active := by
  unfold preTradeGateReasons
  simp only [List.mem_append]
  constructor
  · intro h
    by_contra hactive
    simp [hactive, List.mem_ite_nil_right] at h
  · intro hstop
    simp [hstop]

theorem rollCalendar_stop (now : JstTime) :
    (session.rollCalendar now).stopState =
      if session.currentDay ≠ some now.day ∧ session.stopState = .stoppedDailyBudget then
        .active
      else session.stopState := by
  unfold rollCalendar
  by_cases hday : session.currentDay = some now.day <;>
    by_cases hstop : session.stopState = .stoppedDailyBudget <;>
    by_cases hmonth : session.currentMonth = some (tradingMonth now.day) <;>
    by_cases hactive : session.stopState = .active <;>
    simp_all

theorem stopForOutcomes_stop (now : JstTime) :
    (session.stopForOutcomes now).stopState =
      if maxConsecutiveLossesStop ≤ session.consecutiveLosses ∧ session.stopState = .active then
        .stoppedConsecutiveLosses
      else if monthlyMaxLossJpy ≤ session.monthlyLossJpy ∧
          session.stopState ≠ .stoppedMonthlyBudget then
        .stoppedMonthlyBudget
      else if dailyMaxLossJpy ≤ session.dailyLossJpy ∧ session.stopState = .active then
        .stoppedDailyBudget
      else session.stopState := by
  unfold stopForOutcomes
  split_ifs <;> rfl

theorem stopForOutcomes_frame (now : JstTime) :
    (session.stopForOutcomes now).currentDay = session.currentDay ∧
      (session.stopForOutcomes now).currentMonth = session.currentMonth ∧
      (session.stopForOutcomes now).dailyLossJpy = session.dailyLossJpy ∧
      (session.stopForOutcomes now).monthlyLossJpy = session.monthlyLossJpy ∧
      (session.stopForOutcomes now).consecutiveLosses = session.consecutiveLosses := by
  unfold stopForOutcomes
  split_ifs <;> exact ⟨rfl, rfl, rfl, rfl, rfl⟩

end H11Stage1Session

theorem stopped_mem_blockedReasons (state : H11V3RiskPersistentState) (day : TradingDay) :
    "RISK_SESSION_STOPPED" ∈ (evaluateH11V3RiskBeforeEntry state day).2.blockedReasons ↔
      (rollRiskCalendar state day).stopState ≠ .active := by
  unfold evaluateH11V3RiskBeforeEntry riskBlockedReasons
  simp only [List.mem_append]
  constructor
  · intro h
    by_contra hactive
    simp [hactive, List.mem_ite_nil_right] at h
  · intro hstop
    simp [hstop]

end FxStrategyLab.V3
