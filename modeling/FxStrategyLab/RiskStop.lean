import FxStrategyLab.RiskGate

/-!
# The stop that a closed result reports

`record_closed_result` reads the stop in force before it rolls the calendar, and returns
that stop when it was not the active one.  The roll may have lifted it: a daily stop of an
earlier day is over, the budgets are not looked at in that call, and the stop returned is
not the state's.

**Results.**

* `closedResult_stop`: what becomes of the stop, and what is returned.
* `stop_current_iff`: the stop is current except in that one case.
-/

namespace FxStrategyLab

/-- Source `record_closed_result` with the stop that it returns. -/
def closedResultReturning (sha : Sha256) (policy : PhaseBRiskPolicy)
    (state : PhaseBRiskState) (cycleDayJst : TradingDay) (pnlJpyInternal : Int) :
    Except V4Error (PhaseBRiskState × AutoRiskStopState) := do
  validateRiskState sha policy state
  let existingStop := state.stopState
  let rolled := rollCalendar state cycleDayJst
  let loss := max 0 (-pnlJpyInternal)
  if policy.perTradeLossBoundJpy < loss then
    return (stopRisk
      { rolled with disciplineViolationCount := rolled.disciplineViolationCount + 1 }
      .killed cycleDayJst, .killed)
  else
    let counted :=
      if 0 < loss then
        { rolled with
          dailyLossJpyInternal := rolled.dailyLossJpyInternal + loss
          monthlyLossJpyInternal := rolled.monthlyLossJpyInternal + loss
          consecutiveLosses := rolled.consecutiveLosses + 1 }
      else { rolled with consecutiveLosses := 0 }
    if existingStop ≠ .active then return (counted, existingStop)
    else
      let stopped := stopForBudgets policy counted cycleDayJst
      return (stopped, stopped.stopState)

section ClosedResult

variable {sha : Sha256} {policy : PhaseBRiskPolicy} {state : PhaseBRiskState}
  {day : TradingDay} {pnl : Int}

def LimitReached (policy : PhaseBRiskPolicy) (state : PhaseBRiskState) : Prop :=
  policy.dailyLossLimitJpy ≤ state.dailyLossJpyInternal ∨
    policy.monthlyLossLimitJpy ≤ state.monthlyLossJpyInternal ∨
    policy.maximumConsecutiveLosses ≤ state.consecutiveLosses

/-- The stop returned is that of the state, and a reached limit has stopped it. -/
def StopCurrent (policy : PhaseBRiskPolicy) (answer : PhaseBRiskState × AutoRiskStopState) :
    Prop :=
  answer.2 = answer.1.stopState ∧
    (LimitReached policy answer.1 → answer.1.stopState ≠ .active)

def DailyStopOver (policy : PhaseBRiskPolicy) (state : PhaseBRiskState) (day : TradingDay)
    (pnl : Int) : Prop :=
  lossOf pnl ≤ policy.perTradeLossBoundJpy ∧ state.stopState = .stoppedDailyBudget ∧
    state.currentDayJst ≠ some day
deriving Decidable

theorem rollCalendar_stop_eq :
    (rollCalendar state day).stopState =
      if state.currentDayJst ≠ some day ∧ state.stopState = .stoppedDailyBudget then .active
      else state.stopState := by
  unfold rollCalendar
  by_cases hday : state.currentDayJst = some day <;>
    by_cases hstop : state.stopState = .stoppedDailyBudget <;>
    by_cases hmonth : state.currentMonthJst = some (tradingMonth day) <;>
    by_cases hactive : state.stopState = .active <;>
    simp_all

theorem countResult_stop : (countResult state pnl).stopState = state.stopState := by
  unfold countResult
  split_ifs <;> rfl

theorem stopForBudgets_stopped :
    LimitReached policy (stopForBudgets policy state day) →
      (stopForBudgets policy state day).stopState ≠ .active := by
  have hsame := @stopForBudgets_same policy day state
  unfold LimitReached
  rw [hsame.daily, hsame.monthly, hsame.consecutive]
  unfold stopForBudgets
  intro hreached
  split_ifs with hconsecutive hmonthly hdaily
  · simp [stopRisk]
  · simp [stopRisk]
  · simp [stopRisk]
  · rcases hreached with h | h | h
    · exact absurd h hdaily
    · exact absurd h hmonthly
    · exact absurd h hconsecutive

theorem closedResultReturning_of_valid {u : Unit}
    (hvalid : validateRiskState sha policy state = .ok u) :
    closedResultReturning sha policy state day pnl =
      if policy.perTradeLossBoundJpy < lossOf pnl then
        .ok (stopRisk
          { rollCalendar state day with
            disciplineViolationCount := (rollCalendar state day).disciplineViolationCount + 1 }
          .killed day, .killed)
      else if state.stopState ≠ .active then
        .ok (countResult (rollCalendar state day) pnl, state.stopState)
      else
        .ok (stopForBudgets policy (countResult (rollCalendar state day) pnl) day,
          (stopForBudgets policy (countResult (rollCalendar state day) pnl) day).stopState) := by
  unfold closedResultReturning
  rw [hvalid]
  by_cases hloss : 0 < max 0 (-pnl) <;>
    simp [countResult, lossOf, hloss, bind, Except.bind, pure, Except.pure]

theorem closedResult_stop {answer : PhaseBRiskState × AutoRiskStopState}
    (h : closedResultReturning sha policy state day pnl = .ok answer) :
    (policy.perTradeLossBoundJpy < lossOf pnl ∧ answer.1.stopState = .killed ∧
        answer.2 = .killed) ∨
      (lossOf pnl ≤ policy.perTradeLossBoundJpy ∧ state.stopState ≠ .active ∧
        answer = (countResult (rollCalendar state day) pnl, state.stopState)) ∨
      (lossOf pnl ≤ policy.perTradeLossBoundJpy ∧ state.stopState = .active ∧
        answer.1 = stopForBudgets policy (countResult (rollCalendar state day) pnl) day ∧
        answer.2 = answer.1.stopState) := by
  have hvalid : ∃ u, validateRiskState sha policy state = .ok u := by
    cases hvalid : validateRiskState sha policy state with
    | error e =>
        unfold closedResultReturning at h
        rw [hvalid] at h
        cases h
    | ok u => exact ⟨u, rfl⟩
  obtain ⟨u, hvalid⟩ := hvalid
  rw [closedResultReturning_of_valid hvalid] at h
  split_ifs at h with hbound hstop
  · obtain rfl := Except.ok.inj h
    exact Or.inl ⟨hbound, rfl, rfl⟩
  · exact Or.inr (Or.inl ⟨not_lt.mp hbound, hstop, (Except.ok.inj h).symm⟩)
  · obtain rfl := Except.ok.inj h
    exact Or.inr (Or.inr ⟨not_lt.mp hbound, not_not.mp hstop, rfl, rfl⟩)

/-- **Exactly when the stop is current.** In any state that passes its check, for any day
and result: the stop returned is the state's, and a reached limit has stopped it, unless a
result within the bound meets a daily stop of another day. -/
theorem stop_current_iff (sha : Sha256) (policy : PhaseBRiskPolicy) (state : PhaseBRiskState)
    (day : TradingDay) (pnl : Int) {answer : PhaseBRiskState × AutoRiskStopState}
    (h : closedResultReturning sha policy state day pnl = .ok answer) :
    StopCurrent policy answer ↔ ¬ DailyStopOver policy state day pnl := by
  rcases closedResult_stop h with ⟨hbound, hstate, hreturned⟩ | ⟨hbound, hstop, rfl⟩ |
    ⟨hbound, hactive, hstate, hreturned⟩
  · have hover : ¬ DailyStopOver policy state day pnl := fun hover =>
      absurd hbound (not_lt.mpr hover.1)
    refine iff_of_true ⟨hreturned.trans hstate.symm, fun _ => ?_⟩ hover
    rw [hstate]
    decide
  · by_cases hover : state.currentDayJst ≠ some day ∧ state.stopState = .stoppedDailyBudget
    · -- the roll has lifted the stop that is returned
      refine iff_of_false (fun hcurrent => ?_) fun hnot => hnot ⟨hbound, hover.2, hover.1⟩
      have hreturned := hcurrent.1
      rw [countResult_stop, rollCalendar_stop_eq, if_pos hover, hover.2] at hreturned
      cases hreturned
    · have hkept : (countResult (rollCalendar state day) pnl).stopState = state.stopState := by
        rw [countResult_stop, rollCalendar_stop_eq, if_neg hover]
      refine iff_of_true ⟨hkept.symm, fun _ => ?_⟩ fun hnot => hover ⟨hnot.2.2, hnot.2.1⟩
      rw [hkept]
      exact hstop
  · refine iff_of_true ⟨hreturned, ?_⟩ fun hover => ?_
    · rw [hstate]
      exact stopForBudgets_stopped
    · have hdaily := hactive.symm.trans hover.2.1
      cases hdaily

end ClosedResult

namespace Sample

/-- A state stopped for day 4 by its daily budget, two losses in a row behind it. -/
def dailyStopped : PhaseBRiskState where
  policyDigest := riskPolicy.digest .checksum
  stopState := .stoppedDailyBudget
  currentDayJst := some 4
  currentMonthJst := some (tradingMonth 4)
  dailyLossJpyInternal := 10000
  monthlyLossJpyInternal := 10000
  consecutiveLosses := 2
  stoppedOnJst := some 4

end Sample

theorem stop_current_same_day :
    (closedResultReturning .checksum Sample.riskPolicy Sample.dailyStopped 4 (-100)).toOption =
        some (countResult Sample.dailyStopped (-100), .stoppedDailyBudget) ∧
      StopCurrent Sample.riskPolicy
        (countResult Sample.dailyStopped (-100), .stoppedDailyBudget) := by
  have hresult : closedResultReturning .checksum Sample.riskPolicy Sample.dailyStopped 4 (-100) =
      .ok (countResult Sample.dailyStopped (-100), .stoppedDailyBudget) := by
    decide +kernel
  exact ⟨congrArg Except.toOption hresult,
    (stop_current_iff .checksum Sample.riskPolicy Sample.dailyStopped 4 (-100) hresult).mpr
      (by decide +kernel)⟩

/-- On the next day a third loss in a row reaches its limit: the daily stop is returned, and
the state is active. -/
theorem lifted_stop_returned :
    ¬ ∀ answer, closedResultReturning .checksum Sample.riskPolicy Sample.dailyStopped 5 (-100) =
      .ok answer → StopCurrent Sample.riskPolicy answer := by
  intro hall
  have hcurrent := hall ({ Sample.dailyStopped with
      stopState := .active
      currentDayJst := some 5
      dailyLossJpyInternal := 100
      monthlyLossJpyInternal := 10100
      consecutiveLosses := 3
      stoppedOnJst := none }, .stoppedDailyBudget) (by decide +kernel)
  exact absurd hcurrent.1 (by decide)

end FxStrategyLab
