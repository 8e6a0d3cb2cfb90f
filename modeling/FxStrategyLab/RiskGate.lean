import FxStrategyLab.RuntimeSafety
import FxStrategyLab.Library.Runs

/-!
# What an allowed entry says about the past

The risk state keeps counters that a lazy calendar roll resets.  This file
relates them to the full history of a run of risk calls: while no kill was
engaged and no loss was oversized, each counter is the measure of the history
that it stands for, except that the monthly counter may still hold losses of a
month in which a stop was latched.  An allowed entry therefore speaks about the
history.
-/

namespace FxStrategyLab

open Library

def yearOfEra (dayOfEra : Int) : Int :=
  (dayOfEra - dayOfEra / 1460 + dayOfEra / 36524 - dayOfEra / 146096) / 365

def dayOfYear (dayOfEra : Int) : Int :=
  dayOfEra - (365 * yearOfEra dayOfEra + yearOfEra dayOfEra / 4 - yearOfEra dayOfEra / 100)

variable {d d' s s' : Int}

theorem yearOfEra_mono (h : d ≤ d') : yearOfEra d ≤ yearOfEra d' := by
  unfold yearOfEra
  have hleap : d - d / 1460 ≤ d' - d' / 1460 := by omega
  have hcentury : d / 36524 - d / 146096 ≤ d' / 36524 - d' / 146096 := by omega
  exact Int.ediv_le_ediv (by decide) (by omega)

theorem yearOfEra_bounds (hd : 0 ≤ d ∧ d ≤ 146096) : 0 ≤ yearOfEra d ∧ yearOfEra d ≤ 399 := by
  unfold yearOfEra
  omega

theorem dayOfYear_bounds (hd : 0 ≤ d ∧ d ≤ 146096) : 0 ≤ dayOfYear d ∧ dayOfYear d ≤ 366 := by
  unfold dayOfYear
  by_cases hlast : d = 146096
  · subst hlast
    decide
  have hera : d / 146096 = 0 := by omega
  have hcentury : yearOfEra d / 100 = d / 36524 := by
    unfold yearOfEra
    rw [hera]
    have hb : d / 36524 = 0 ∨ d / 36524 = 1 ∨ d / 36524 = 2 ∨ d / 36524 = 3 := by omega
    rcases hb with hb | hb | hb | hb <;> rw [hb] <;> omega
  have hyear : 365 * yearOfEra d ≤ d - d / 1460 + d / 36524 ∧
      d - d / 1460 + d / 36524 ≤ 365 * yearOfEra d + 364 := by
    unfold yearOfEra
    rw [hera]
    omega
  have hlower : yearOfEra d / 4 ≤ d / 1460 := by omega
  have hupper : d / 1460 ≤ yearOfEra d / 4 + 2 := by omega
  rw [hcentury]
  omega

def monthOfShifted (s : Int) : Int :=
  (yearOfEra (s % 146097) + s / 146097 * 400) * 12 +
    (5 * dayOfYear (s % 146097) + 2) / 153 + 3

theorem tradingMonth_eq (day : TradingDay) :
    tradingMonth day = monthOfShifted (day + 719468) := by
  have hmod : ∀ s : Int, s - s / 146097 * 146097 = s % 146097 := by
    intro s
    omega
  unfold tradingMonth
  simp only [hmod]
  rfl

theorem monthOfShifted_mono (h : s ≤ s') : monthOfShifted s ≤ monthOfShifted s' := by
  unfold monthOfShifted
  have hd : 0 ≤ s % 146097 ∧ s % 146097 ≤ 146096 := by omega
  have hd' : 0 ≤ s' % 146097 ∧ s' % 146097 ≤ 146096 := by omega
  have hy := yearOfEra_bounds hd
  have hy' := yearOfEra_bounds hd'
  have hdoy := dayOfYear_bounds hd
  have hdoy' := dayOfYear_bounds hd'
  by_cases hera : s / 146097 = s' / 146097
  · -- within one era the year decides, and within one year the day
    have hday : s % 146097 ≤ s' % 146097 := by omega
    have hyear := yearOfEra_mono hday
    by_cases hsame : yearOfEra (s % 146097) = yearOfEra (s' % 146097)
    · have hdays : dayOfYear (s % 146097) ≤ dayOfYear (s' % 146097) := by
        unfold dayOfYear
        rw [hsame]
        omega
      rw [hera, hsame]
      omega
    · rw [hera]
      omega
  · omega

theorem tradingMonth_mono {day day' : TradingDay} (h : day ≤ day') :
    tradingMonth day ≤ tradingMonth day' := by
  rw [tradingMonth_eq, tradingMonth_eq]
  exact monthOfShifted_mono (Int.add_le_add_right h _)

/-- What the history of a run keeps: the entries recorded, the results closed and the
kills engaged. -/
inductive RiskRecord
  | entry (day : TradingDay)
  | closed (day : TradingDay) (pnlJpyInternal : Int)
  | killed
deriving DecidableEq

/-- A risk state with the history of the calls on it and the days they were made for. -/
structure RiskRun where
  state : PhaseBRiskState
  history : List RiskRecord := []
  days : List TradingDay := []

inductive RiskCall
  | evaluate (day : TradingDay)
  | entryAttempt (day : TradingDay)
  | closedResult (day : TradingDay) (pnlJpyInternal : Int)
  | closedResultOnce (day : TradingDay) (cycleRef : Digest) (pnlJpyInternal : Int)
  | kill (day : TradingDay)

def RiskCall.day : RiskCall → TradingDay
  | evaluate day | entryAttempt day | closedResult day _ | closedResultOnce day _ _
  | kill day => day

def engageRiskKill (state : PhaseBRiskState) (cycleDayJst : TradingDay) : PhaseBRiskState :=
  stopRisk state .killed cycleDayJst

section RiskRuns

variable (sha : Sha256) (policy : PhaseBRiskPolicy)

/-- The state object after the gate was asked; it is rolled whatever the answer. -/
def stateAfterGate (state : PhaseBRiskState) (day : TradingDay) : PhaseBRiskState :=
  match evaluateRiskBeforeEntry sha policy state day with
  | .ok (rolled, _) => rolled
  | .error _ => state

/-- One call.  A blocked entry attempt raises, but leaves the state as the gate rolled
it; a result that was applied before is not recorded again. -/
def riskStep (run : RiskRun) (call : RiskCall) : RiskRun :=
  let days := run.days ++ [call.day]
  match call with
  | .evaluate day => { run with state := stateAfterGate sha policy run.state day, days }
  | .entryAttempt day =>
      match recordRiskEntryAttempt sha policy run.state day with
      | .ok state => { state, history := run.history ++ [.entry day], days }
      | .error _ => { run with state := stateAfterGate sha policy run.state day, days }
  | .closedResult day pnl =>
      match recordClosedResult sha policy run.state day pnl with
      | .ok state => { state, history := run.history ++ [.closed day pnl], days }
      | .error _ => { run with days }
  | .closedResultOnce day cycleRef pnl =>
      match recordClosedResultOnce sha policy run.state day cycleRef pnl with
      | .ok (state, true) => { state, history := run.history ++ [.closed day pnl], days }
      | .ok (state, false) => { run with state, days }
      | .error _ => { run with days }
  | .kill day =>
      { state := engageRiskKill run.state day, history := run.history ++ [.killed], days }

def initialRiskRun : RiskRun where
  state := { policyDigest := policy.digest sha }

end RiskRuns

def lossOf (pnlJpyInternal : Int) : Int :=
  max 0 (-pnlJpyInternal)

variable (history : List RiskRecord)

def closedLosses : List (TradingDay × Int) :=
  history.filterMap fun
    | .closed day pnl => some (day, lossOf pnl)
    | _ => none

def lossesOn (day : TradingDay) : Int :=
  (((closedLosses history).filter fun loss => loss.1 = day).map Prod.snd).sum

def lossesIn (month : TradingMonth) : Int :=
  (((closedLosses history).filter fun loss => tradingMonth loss.1 = month).map Prod.snd).sum

def losingRun : Nat :=
  ((closedLosses history).reverse.takeWhile fun loss => 0 < loss.2).length

def entriesOn (day : TradingDay) : Nat :=
  history.count (.entry day)

def recordDays : List TradingDay :=
  history.filterMap fun
    | .entry day => some day
    | .closed day _ => some day
    | .killed => none

section Measures

variable (history : List RiskRecord) (day d : TradingDay) (month : TradingMonth) (pnl : Int)

theorem lossOf_nonneg : 0 ≤ lossOf pnl :=
  le_max_left _ _

@[simp]
theorem lossesOn_closed :
    lossesOn (history ++ [.closed d pnl]) day =
      lossesOn history day + if d = day then lossOf pnl else 0 := by
  by_cases h : d = day <;>
    simp [lossesOn, closedLosses, List.filterMap_append, List.filter_append, h]

@[simp]
theorem lossesOn_entry : lossesOn (history ++ [.entry d]) day = lossesOn history day := by
  simp [lossesOn, closedLosses, List.filterMap_append]

@[simp]
theorem lossesIn_closed :
    lossesIn (history ++ [.closed d pnl]) month =
      lossesIn history month + if tradingMonth d = month then lossOf pnl else 0 := by
  by_cases h : tradingMonth d = month <;>
    simp [lossesIn, closedLosses, List.filterMap_append, List.filter_append, h]

@[simp]
theorem lossesIn_entry : lossesIn (history ++ [.entry d]) month = lossesIn history month := by
  simp [lossesIn, closedLosses, List.filterMap_append]

@[simp]
theorem losingRun_closed :
    losingRun (history ++ [.closed d pnl]) =
      if 0 < lossOf pnl then losingRun history + 1 else 0 := by
  by_cases h : 0 < lossOf pnl <;>
    simp [losingRun, closedLosses, List.filterMap_append, h]

@[simp]
theorem losingRun_entry : losingRun (history ++ [.entry d]) = losingRun history := by
  simp [losingRun, closedLosses, List.filterMap_append]

@[simp]
theorem entriesOn_closed :
    entriesOn (history ++ [.closed d pnl]) day = entriesOn history day := by
  simp [entriesOn]

@[simp]
theorem entriesOn_entry :
    entriesOn (history ++ [.entry d]) day =
      entriesOn history day + if d = day then 1 else 0 := by
  by_cases h : d = day <;> simp [entriesOn, h]

theorem lossesOn_eq_zero (h : ∀ d ∈ recordDays history, d ≠ day) : lossesOn history day = 0 := by
  have hnone : (closedLosses history).filter (fun loss => loss.1 = day) = [] := by
    refine List.filter_eq_nil_iff.mpr fun loss hloss => ?_
    obtain ⟨record, hrecord, hrec⟩ := List.mem_filterMap.mp hloss
    cases record with
    | closed d pnl =>
        cases hrec
        simpa using h d (List.mem_filterMap.mpr ⟨_, hrecord, rfl⟩)
    | entry d => cases hrec
    | killed => cases hrec
  simp [lossesOn, hnone]

theorem lossesIn_eq_zero (h : ∀ d ∈ recordDays history, tradingMonth d ≠ month) :
    lossesIn history month = 0 := by
  have hnone :
      (closedLosses history).filter (fun loss => tradingMonth loss.1 = month) = [] := by
    refine List.filter_eq_nil_iff.mpr fun loss hloss => ?_
    obtain ⟨record, hrecord, hrec⟩ := List.mem_filterMap.mp hloss
    cases record with
    | closed d pnl =>
        cases hrec
        simpa using h d (List.mem_filterMap.mpr ⟨_, hrecord, rfl⟩)
    | entry d => cases hrec
    | killed => cases hrec
  simp [lossesIn, hnone]

theorem entriesOn_eq_zero (h : ∀ d ∈ recordDays history, d ≠ day) :
    entriesOn history day = 0 := by
  refine List.count_eq_zero.mpr fun hmem => ?_
  exact h day (List.mem_filterMap.mpr ⟨_, hmem, rfl⟩) rfl

end Measures

/-- The counters of a state that was never killed are the measures of its history. -/
structure Counted (policy : PhaseBRiskPolicy) (state : PhaseBRiskState)
    (history : List RiskRecord) : Prop where
  days : ∀ d ∈ recordDays history, ∃ current, state.currentDayJst = some current ∧ d ≤ current
  month : state.currentMonthJst = state.currentDayJst.map tradingMonth
  daily : ∀ current, state.currentDayJst = some current →
    state.dailyLossJpyInternal = lossesOn history current
  entries : ∀ current, state.currentDayJst = some current →
    state.entriesToday = entriesOn history current
  monthly : ∀ current, state.currentDayJst = some current →
    lossesIn history (tradingMonth current) ≤ state.monthlyLossJpyInternal
  monthly_nonneg : 0 ≤ state.monthlyLossJpyInternal
  consecutive : state.consecutiveLosses = losingRun history
  bounded : ∀ d pnl, RiskRecord.closed d pnl ∈ history →
    lossOf pnl ≤ policy.perTradeLossBoundJpy
  noKill : RiskRecord.killed ∉ history

def UpTo (state : PhaseBRiskState) (day : TradingDay) : Prop :=
  ∀ current, state.currentDayJst = some current → current ≤ day

section Rolling

variable {policy : PhaseBRiskPolicy} {state : PhaseBRiskState} {history : List RiskRecord}
  {day : TradingDay}

@[simp]
theorem rollCalendar_day : (rollCalendar state day).currentDayJst = some day := by
  simp only [rollCalendar]
  split_ifs <;> simp_all

theorem rollCalendar_month : (rollCalendar state day).currentMonthJst =
    some (tradingMonth day) := by
  simp only [rollCalendar]
  split_ifs <;> simp_all

theorem rollCalendar_killed (h : state.stopState = .killed) :
    (rollCalendar state day).stopState = .killed := by
  simp only [rollCalendar]
  split_ifs <;> simp_all

theorem rollCalendar_consecutive :
    (rollCalendar state day).consecutiveLosses = state.consecutiveLosses := by
  simp only [rollCalendar]
  split_ifs <;> rfl

theorem rollCalendar_same (hday : state.currentDayJst = some day)
    (hmonth : state.currentMonthJst = some (tradingMonth day)) :
    rollCalendar state day = state := by
  unfold rollCalendar
  simp [hday, hmonth]

theorem rollCalendar_daily (hday : state.currentDayJst ≠ some day) :
    (rollCalendar state day).dailyLossJpyInternal = 0 ∧
      (rollCalendar state day).entriesToday = 0 := by
  simp only [rollCalendar]
  split_ifs <;> simp_all

theorem rollCalendar_monthly :
    (rollCalendar state day).monthlyLossJpyInternal = state.monthlyLossJpyInternal ∨
      (state.currentMonthJst ≠ some (tradingMonth day) ∧
        (rollCalendar state day).monthlyLossJpyInternal = 0) := by
  simp only [rollCalendar]
  split_ifs <;> simp_all

/-- **Rolling to a day that is not before the state's keeps the counters.** -/
theorem Counted.roll (h : Counted policy state history) (hday : UpTo state day) :
    Counted policy (rollCalendar state day) history := by
  by_cases hsame : state.currentDayJst = some day
  · rw [rollCalendar_same hsame (by rw [h.month, hsame]; rfl)]
    exact h
  -- the day is later than every record
  have hlater : ∀ d ∈ recordDays history, d < day := by
    intro d hd
    obtain ⟨current, hcurrent, hle⟩ := h.days d hd
    have hlt : current ≠ day := fun heq => hsame (heq ▸ hcurrent)
    exact lt_of_le_of_lt hle (lt_of_le_of_ne (hday current hcurrent) hlt)
  have hfresh : ∀ d ∈ recordDays history, d ≠ day := fun d hd => (hlater d hd).ne
  have hcleared := rollCalendar_daily hsame
  refine ⟨?_, ?_, ?_, ?_, ?_, ?_, ?_, h.bounded, h.noKill⟩
  · exact fun d hd => ⟨day, rollCalendar_day, (hlater d hd).le⟩
  · rw [rollCalendar_day, rollCalendar_month]
    rfl
  · intro current hcurrent
    rw [rollCalendar_day] at hcurrent
    cases hcurrent
    rw [hcleared.1, lossesOn_eq_zero _ _ hfresh]
  · intro current hcurrent
    rw [rollCalendar_day] at hcurrent
    cases hcurrent
    rw [hcleared.2, entriesOn_eq_zero _ _ hfresh]
    rfl
  · intro current hcurrent
    rw [rollCalendar_day] at hcurrent
    cases hcurrent
    by_cases hmonth : state.currentMonthJst = some (tradingMonth day)
    · rcases @rollCalendar_monthly state day with hkeep | ⟨hnew, -⟩
      · rw [h.month] at hmonth
        obtain ⟨current, hcurrent, heq⟩ := Option.map_eq_some_iff.mp hmonth
        rw [hkeep, ← heq]
        exact h.monthly current hcurrent
      · exact absurd hmonth hnew
    · -- a new month has no losses yet, since the months of the records are not later
      have hnone : ∀ d ∈ recordDays history, tradingMonth d ≠ tradingMonth day := by
        intro d hd heq
        obtain ⟨current, hcurrent, hle⟩ := h.days d hd
        have hmono := tradingMonth_mono hle
        have hmono' := tradingMonth_mono (hday current hcurrent)
        refine hmonth ?_
        rw [h.month, hcurrent]
        exact congrArg some (le_antisymm hmono' (heq ▸ hmono))
      rw [lossesIn_eq_zero _ _ hnone]
      rcases @rollCalendar_monthly state day with hkeep | ⟨-, hzero⟩
      · rw [hkeep]
        exact h.monthly_nonneg
      · exact hzero.ge
  · rcases @rollCalendar_monthly state day with hkeep | ⟨-, hzero⟩
    · rw [hkeep]
      exact h.monthly_nonneg
    · exact hzero.ge
  · rw [rollCalendar_consecutive]
    exact h.consecutive

end Rolling

section Calls

variable {sha : Sha256} {policy : PhaseBRiskPolicy} {state : PhaseBRiskState}
  {history : List RiskRecord} {day : TradingDay}

def countResult (state : PhaseBRiskState) (pnlJpyInternal : Int) : PhaseBRiskState :=
  if 0 < lossOf pnlJpyInternal then
    { state with
      dailyLossJpyInternal := state.dailyLossJpyInternal + lossOf pnlJpyInternal
      monthlyLossJpyInternal := state.monthlyLossJpyInternal + lossOf pnlJpyInternal
      consecutiveLosses := state.consecutiveLosses + 1 }
  else { state with consecutiveLosses := 0 }

/-- The counters and the calendar of two states are the same. -/
structure SameCounters (state state' : PhaseBRiskState) : Prop where
  day : state'.currentDayJst = state.currentDayJst
  month : state'.currentMonthJst = state.currentMonthJst
  daily : state'.dailyLossJpyInternal = state.dailyLossJpyInternal
  entries : state'.entriesToday = state.entriesToday
  monthly : state'.monthlyLossJpyInternal = state.monthlyLossJpyInternal
  consecutive : state'.consecutiveLosses = state.consecutiveLosses

variable {state' rolled : PhaseBRiskState}

theorem Counted.of_same (h : Counted policy state history)
    (hsame : SameCounters state state') : Counted policy state' history := by
  refine ⟨?_, ?_, ?_, ?_, ?_, ?_, ?_, h.bounded, h.noKill⟩
  · rw [hsame.day]
    exact h.days
  · rw [hsame.day, hsame.month]
    exact h.month
  · rw [hsame.day, hsame.daily]
    exact h.daily
  · rw [hsame.day, hsame.entries]
    exact h.entries
  · rw [hsame.day, hsame.monthly]
    exact h.monthly
  · rw [hsame.monthly]
    exact h.monthly_nonneg
  · rw [hsame.consecutive]
    exact h.consecutive

theorem evaluateRiskBeforeEntry_ok {gate : PhaseBRiskGateResult}
    (h : evaluateRiskBeforeEntry sha policy state day = .ok (rolled, gate)) :
    rolled = rollCalendar state day ∧
      gate.allowed = (entryBlockedReasons policy rolled).isEmpty := by
  unfold evaluateRiskBeforeEntry at h
  cases hvalid : validateRiskState sha policy state with
  | error e =>
      rw [hvalid] at h
      cases h
  | ok =>
      rw [hvalid] at h
      cases h
      exact ⟨rfl, rfl⟩

theorem recordRiskEntryAttempt_ok (h : recordRiskEntryAttempt sha policy state day = .ok state') :
    state' = { rollCalendar state day with
      entriesToday := (rollCalendar state day).entriesToday + 1 } := by
  unfold recordRiskEntryAttempt at h
  cases hgate : evaluateRiskBeforeEntry sha policy state day with
  | error e =>
      rw [hgate] at h
      cases h
  | ok answer =>
      obtain ⟨rolled, gate⟩ := answer
      obtain ⟨rfl, -⟩ := evaluateRiskBeforeEntry_ok hgate
      rw [hgate] at h
      change (if gate.allowed = true then _ else _) = _ at h
      split at h
      · cases h
        rfl
      · cases h

theorem entryBlockedReasons_eq_nil :
    entryBlockedReasons policy state = [] ↔
      state.stopState = .active ∧ state.entriesToday < policy.maximumEntriesPerDay ∧
        state.dailyLossJpyInternal < policy.dailyLossLimitJpy ∧
        state.monthlyLossJpyInternal < policy.monthlyLossLimitJpy ∧
        state.consecutiveLosses < policy.maximumConsecutiveLosses := by
  unfold entryBlockedReasons
  simp [and_assoc]

theorem stopForBudgets_same (state : PhaseBRiskState) :
    SameCounters state (stopForBudgets policy state day) := by
  unfold stopForBudgets
  split_ifs <;> exact ⟨rfl, rfl, rfl, rfl, rfl, rfl⟩

variable {pnl : Int}

theorem recordClosedResult_ok (h : recordClosedResult sha policy state day pnl = .ok state') :
    state'.currentDayJst = some day ∧
      (state'.stopState = .killed ∨
        (lossOf pnl ≤ policy.perTradeLossBoundJpy ∧
          SameCounters (countResult (rollCalendar state day) pnl) state')) := by
  unfold recordClosedResult at h
  cases hvalid : validateRiskState sha policy state with
  | error e =>
      rw [hvalid] at h
      cases h
  | ok =>
      rw [hvalid] at h
      change (if policy.perTradeLossBoundJpy < lossOf pnl then _ else _) = _ at h
      split at h
      · cases h
        exact ⟨rollCalendar_day, Or.inl rfl⟩
      case isFalse hbound =>
        have hday : (countResult (rollCalendar state day) pnl).currentDayJst = some day := by
          unfold countResult
          split_ifs <;> exact rollCalendar_day
        change (if state.stopState ≠ .active then
          Except.ok (countResult (rollCalendar state day) pnl)
          else .ok (stopForBudgets policy (countResult (rollCalendar state day) pnl) day)) = _
          at h
        split at h
        · cases h
          exact ⟨hday, Or.inr ⟨not_lt.mp hbound, ⟨rfl, rfl, rfl, rfl, rfl, rfl⟩⟩⟩
        · cases h
          have hsame := @stopForBudgets_same policy day
            (countResult (rollCalendar state day) pnl)
          exact ⟨hsame.day.trans hday, Or.inr ⟨not_lt.mp hbound, hsame⟩⟩

theorem recordClosedResult_killed (h : recordClosedResult sha policy state day pnl = .ok state')
    (hkilled : state.stopState = .killed) : state'.stopState = .killed := by
  unfold recordClosedResult at h
  cases hvalid : validateRiskState sha policy state with
  | error e =>
      rw [hvalid] at h
      cases h
  | ok =>
      rw [hvalid] at h
      change (if policy.perTradeLossBoundJpy < lossOf pnl then _ else _) = _ at h
      split at h
      · cases h
        rfl
      · change (if state.stopState ≠ .active then
          Except.ok (countResult (rollCalendar state day) pnl)
          else .ok (stopForBudgets policy (countResult (rollCalendar state day) pnl) day)) = _
          at h
        rw [if_pos (by rw [hkilled]; decide)] at h
        cases h
        have hsame : (countResult (rollCalendar state day) pnl).stopState =
            (rollCalendar state day).stopState := by
          unfold countResult
          split_ifs <;> rfl
        exact hsame.trans (rollCalendar_killed hkilled)

theorem recordClosedResultOnce_ok {cycleRef : Digest} {applied : Bool}
    (h : recordClosedResultOnce sha policy state day cycleRef pnl = .ok (state', applied)) :
    (state' = state ∧ applied = false) ∨
      (applied = true ∧ ∃ closed, recordClosedResult sha policy state day pnl = .ok closed ∧
        state' = { closed with
          closedResultCycleRefs := closed.closedResultCycleRefs ++ [cycleRef] }) := by
  unfold recordClosedResultOnce at h
  split at h
  · cases h
  cases hvalid : validateRiskState sha policy state with
  | error e =>
      rw [hvalid] at h
      cases h
  | ok =>
      rw [hvalid] at h
      change (if cycleRef ∈ state.closedResultCycleRefs then _ else _) = _ at h
      split at h
      · cases h
        exact Or.inl ⟨rfl, rfl⟩
      · cases hclosed : recordClosedResult sha policy state day pnl with
        | error e =>
            rw [hclosed] at h
            cases h
        | ok closed =>
            rw [hclosed] at h
            cases h
            exact Or.inr ⟨rfl, closed, rfl, rfl⟩

theorem Counted.closed (h : Counted policy state history) (hday : state.currentDayJst = some day)
    (hbound : lossOf pnl ≤ policy.perTradeLossBoundJpy) :
    Counted policy (countResult state pnl) (history ++ [.closed day pnl]) := by
  have hsame : (countResult state pnl).currentDayJst = state.currentDayJst ∧
      (countResult state pnl).currentMonthJst = state.currentMonthJst ∧
      (countResult state pnl).entriesToday = state.entriesToday := by
    unfold countResult
    split_ifs <;> exact ⟨rfl, rfl, rfl⟩
  have hnonneg := lossOf_nonneg pnl
  have hdaily : (countResult state pnl).dailyLossJpyInternal =
      state.dailyLossJpyInternal + lossOf pnl := by
    unfold countResult
    split_ifs with hloss
    · rfl
    · rw [le_antisymm (not_lt.mp hloss) hnonneg]
      exact (Int.add_zero _).symm
  have hmonthly : (countResult state pnl).monthlyLossJpyInternal =
      state.monthlyLossJpyInternal + lossOf pnl := by
    unfold countResult
    split_ifs with hloss
    · rfl
    · rw [le_antisymm (not_lt.mp hloss) hnonneg]
      exact (Int.add_zero _).symm
  refine ⟨?_, ?_, ?_, ?_, ?_, ?_, ?_, ?_, ?_⟩
  · intro d hd
    rw [hsame.1]
    unfold recordDays at hd
    rw [List.filterMap_append, List.mem_append] at hd
    rcases hd with hd | hd
    · exact h.days d hd
    · rw [List.mem_singleton.mp hd]
      exact ⟨day, hday, le_rfl⟩
  · rw [hsame.1, hsame.2.1]
    exact h.month
  · intro current hcurrent
    rw [hsame.1, hday] at hcurrent
    cases hcurrent
    rw [hdaily, lossesOn_closed, if_pos rfl, h.daily day hday]
  · intro current hcurrent
    rw [hsame.1] at hcurrent
    rw [hsame.2.2, entriesOn_closed]
    exact h.entries current hcurrent
  · intro current hcurrent
    rw [hsame.1, hday] at hcurrent
    cases hcurrent
    rw [hmonthly, lossesIn_closed, if_pos rfl]
    exact Int.add_le_add_right (h.monthly day hday) _
  · rw [hmonthly]
    exact Int.add_nonneg h.monthly_nonneg hnonneg
  · rw [losingRun_closed]
    unfold countResult
    split_ifs with hloss
    · rw [h.consecutive]
      rfl
    · rfl
  · intro d p hmem
    rcases List.mem_append.mp hmem with hmem | hmem
    · exact h.bounded d p hmem
    · cases List.mem_singleton.mp hmem
      exact hbound
  · intro hmem
    rcases List.mem_append.mp hmem with hmem | hmem
    · exact h.noKill hmem
    · cases List.mem_singleton.mp hmem

theorem Counted.entry (h : Counted policy state history) (hday : state.currentDayJst = some day) :
    Counted policy { state with entriesToday := state.entriesToday + 1 }
      (history ++ [.entry day]) := by
  refine ⟨?_, h.month, ?_, ?_, ?_, h.monthly_nonneg, ?_, ?_, ?_⟩
  · intro d hd
    unfold recordDays at hd
    rw [List.filterMap_append, List.mem_append] at hd
    rcases hd with hd | hd
    · exact h.days d hd
    · rw [List.mem_singleton.mp hd]
      exact ⟨day, hday, le_rfl⟩
  · intro current hcurrent
    rw [lossesOn_entry]
    exact h.daily current hcurrent
  · intro current hcurrent
    have heq : day = current := Option.some.inj (hday.symm.trans hcurrent)
    rw [entriesOn_entry, if_pos heq, Nat.cast_add, ← h.entries current hcurrent]
    rfl
  · intro current hcurrent
    rw [lossesIn_entry]
    exact h.monthly current hcurrent
  · rw [losingRun_entry]
    exact h.consecutive
  · intro d p hmem
    rcases List.mem_append.mp hmem with hmem | hmem
    · exact h.bounded d p hmem
    · cases List.mem_singleton.mp hmem
  · intro hmem
    rcases List.mem_append.mp hmem with hmem | hmem
    · exact h.noKill hmem
    · cases List.mem_singleton.mp hmem

end Calls

section Soundness

variable {sha : Sha256} {policy : PhaseBRiskPolicy}

/-- The state's day is one of the run's days, and its counters count the history unless
a kill was engaged. -/
structure RiskSound (policy : PhaseBRiskPolicy) (run : RiskRun) : Prop where
  day : ∀ current, run.state.currentDayJst = some current → current ∈ run.days
  counted : run.state.stopState = .killed ∨ Counted policy run.state run.history

variable {run : RiskRun}

theorem RiskSound.appendDay (h : RiskSound policy run) (day : TradingDay) :
    RiskSound policy { run with days := run.days ++ [day] } :=
  ⟨fun current hcurrent => List.mem_append_left _ (h.day current hcurrent), h.counted⟩

variable {day : TradingDay}

theorem RiskSound.rolled (h : RiskSound policy run) (hday : UpTo run.state day) :
    RiskSound policy
      { run with state := rollCalendar run.state day, days := run.days ++ [day] } := by
  refine ⟨fun current hcurrent => ?_, ?_⟩
  · change (rollCalendar run.state day).currentDayJst = _ at hcurrent
    rw [rollCalendar_day] at hcurrent
    cases hcurrent
    exact List.mem_append_right _ List.mem_cons_self
  · exact h.counted.imp rollCalendar_killed fun hcounted => hcounted.roll hday

theorem RiskSound.afterGate (h : RiskSound policy run) (hday : UpTo run.state day) :
    RiskSound policy
      { run with state := stateAfterGate sha policy run.state day,
                 days := run.days ++ [day] } := by
  unfold stateAfterGate
  cases hgate : evaluateRiskBeforeEntry sha policy run.state day with
  | error e => exact h.appendDay day
  | ok answer =>
      obtain ⟨rolled, gate⟩ := answer
      obtain ⟨rfl, -⟩ := evaluateRiskBeforeEntry_ok hgate
      exact h.rolled hday

theorem RiskSound.closed {pnl : Int}
    {state : PhaseBRiskState} (h : RiskSound policy run) (hday : UpTo run.state day)
    (hclosed : recordClosedResult sha policy run.state day pnl = .ok state) :
    RiskSound policy
      { state, history := run.history ++ [.closed day pnl], days := run.days ++ [day] } := by
  obtain ⟨hcurrent, hresult⟩ := recordClosedResult_ok hclosed
  refine ⟨fun current hc => ?_, ?_⟩
  · obtain rfl : day = current := Option.some.inj (hcurrent.symm.trans hc)
    exact List.mem_append_right _ List.mem_cons_self
  · rcases hresult with hkilled | ⟨hbound, hsame⟩
    · exact Or.inl hkilled
    · rcases h.counted with hkilled | hcounted
      · exact Or.inl (recordClosedResult_killed hclosed hkilled)
      · exact Or.inr (((hcounted.roll hday).closed rollCalendar_day hbound).of_same hsame)

@[simp]
theorem riskStep_days (run : RiskRun) (call : RiskCall) :
    (riskStep sha policy run call).days = run.days ++ [call.day] := by
  unfold riskStep
  cases call <;> simp only <;> (try split) <;> rfl

theorem riskRun_days (run : RiskRun) (calls : List RiskCall) :
    (after (riskStep sha policy) run calls).days = run.days ++ calls.map RiskCall.day := by
  induction calls generalizing run with
  | nil => exact (List.append_nil _).symm
  | cons call calls ih =>
      rw [after_cons, ih, riskStep_days, List.append_assoc]
      rfl

theorem initialRiskRun_sound : RiskSound policy (initialRiskRun sha policy) := by
  refine ⟨?_, Or.inr ⟨?_, rfl, ?_, ?_, ?_, le_rfl, rfl, ?_, ?_⟩⟩
  · intro current hcurrent
    cases hcurrent
  · intro d hd
    cases hd
  · intro current hcurrent
    cases hcurrent
  · intro current hcurrent
    cases hcurrent
  · intro current hcurrent
    cases hcurrent
  · intro d pnl hmem
    cases hmem
  · intro hmem
    cases hmem

/-- **Step lemma.** While the days do not go back, every call keeps the counters. -/
theorem RiskSound.step {call : RiskCall} (h : run.days.Pairwise (· ≤ ·) → RiskSound policy run) :
    (riskStep sha policy run call).days.Pairwise (· ≤ ·) →
      RiskSound policy (riskStep sha policy run call) := by
  intro hsorted
  rw [riskStep_days, List.pairwise_append] at hsorted
  have hsound := h hsorted.1
  have hday : UpTo run.state call.day := fun current hcurrent =>
    hsorted.2.2 current (hsound.day current hcurrent) call.day (List.mem_singleton.mpr rfl)
  cases call with
  | evaluate day => exact hsound.afterGate hday
  | entryAttempt day =>
      simp only [riskStep]
      cases hattempt : recordRiskEntryAttempt sha policy run.state day with
      | error e => exact hsound.afterGate hday
      | ok state =>
          obtain rfl := recordRiskEntryAttempt_ok hattempt
          have hrolled := hsound.rolled hday
          refine ⟨hrolled.day, hrolled.counted.imp id fun hcounted => ?_⟩
          exact hcounted.entry rollCalendar_day
  | closedResult day pnl =>
      simp only [riskStep]
      cases hclosed : recordClosedResult sha policy run.state day pnl with
      | error e => exact hsound.appendDay day
      | ok state => exact hsound.closed hday hclosed
  | closedResultOnce day cycleRef pnl =>
      simp only [riskStep]
      cases honce : recordClosedResultOnce sha policy run.state day cycleRef pnl with
      | error e => exact hsound.appendDay day
      | ok answer =>
          obtain ⟨state, applied⟩ := answer
          rcases recordClosedResultOnce_ok honce with ⟨rfl, rfl⟩ | ⟨rfl, closed, hclosed, rfl⟩
          · exact hsound.appendDay day
          · have hrun := hsound.closed hday hclosed
            refine ⟨hrun.day, hrun.counted.imp id fun hcounted => hcounted.of_same ?_⟩
            exact ⟨rfl, rfl, rfl, rfl, rfl, rfl⟩
  | kill day =>
      exact ⟨fun current hcurrent => List.mem_append_left _ (hsound.day current hcurrent),
        Or.inl rfl⟩

/-- **An allowed entry is sound.** Over any calls on one risk state, from its initial
value and with days that do not go back: when an entry of a day is allowed, the losses
closed on that day and in its month are below their limits, the current run of losing
results and the entries of that day are below their maxima, no single loss was above
its bound and no kill was engaged. -/
theorem allowed_entry_sound (sha : Sha256) (policy : PhaseBRiskPolicy)
    (calls : List RiskCall) {day : TradingDay} {rolled : PhaseBRiskState}
    {gate : PhaseBRiskGateResult} (hdays : (calls.map RiskCall.day ++ [day]).Pairwise (· ≤ ·))
    (hgate : evaluateRiskBeforeEntry sha policy
      (after (riskStep sha policy) (initialRiskRun sha policy) calls).state day =
        .ok (rolled, gate))
    (hallowed : gate.allowed = true) :
    lossesOn (after (riskStep sha policy) (initialRiskRun sha policy) calls).history day <
        policy.dailyLossLimitJpy ∧
      lossesIn (after (riskStep sha policy) (initialRiskRun sha policy) calls).history
          (tradingMonth day) < policy.monthlyLossLimitJpy ∧
      (losingRun (after (riskStep sha policy) (initialRiskRun sha policy) calls).history : Int) <
        policy.maximumConsecutiveLosses ∧
      (entriesOn (after (riskStep sha policy) (initialRiskRun sha policy) calls).history day : Int) <
        policy.maximumEntriesPerDay ∧
      (∀ d pnl, RiskRecord.closed d pnl ∈
          (after (riskStep sha policy) (initialRiskRun sha policy) calls).history →
        -pnl ≤ policy.perTradeLossBoundJpy) ∧
      RiskRecord.killed ∉
        (after (riskStep sha policy) (initialRiskRun sha policy) calls).history := by
  rw [List.pairwise_append] at hdays
  have hrun : (after (riskStep sha policy) (initialRiskRun sha policy) calls).days =
      calls.map RiskCall.day :=
    riskRun_days _ calls
  generalize hafter : after (riskStep sha policy) (initialRiskRun sha policy) calls = run at *
  have hsound : RiskSound policy run := by
    rw [← hafter]
    refine invariant_after (I := fun run => run.days.Pairwise (· ≤ ·) → RiskSound policy run)
      (fun run call hI _ => RiskSound.step hI) (fun _ => initialRiskRun_sound)
      (meetsAlong_always (C := fun _ _ => True) fun _ _ => trivial) ?_
    rw [hafter, hrun]
    exact hdays.1
  have hday : UpTo run.state day := fun current hcurrent =>
    hdays.2.2 current (hrun ▸ hsound.day current hcurrent) day (List.mem_singleton.mpr rfl)
  obtain ⟨rfl, hreasons⟩ := evaluateRiskBeforeEntry_ok hgate
  rw [hallowed] at hreasons
  have hlimits := entryBlockedReasons_eq_nil.mp (List.isEmpty_iff.mp hreasons.symm)
  rcases hsound.counted with hkilled | hcounted
  · rw [rollCalendar_killed hkilled] at hlimits
    cases hlimits.1
  · have hrolled := hcounted.roll hday
    rw [hrolled.entries day rollCalendar_day, hrolled.daily day rollCalendar_day,
      hrolled.consecutive] at hlimits
    exact ⟨hlimits.2.2.1, lt_of_le_of_lt (hrolled.monthly day rollCalendar_day) hlimits.2.2.2.1,
      hlimits.2.2.2.2, hlimits.2.1,
      fun d pnl hmem => le_trans (le_max_right _ _) (hrolled.bounded d pnl hmem),
      hrolled.noKill⟩

/-- Two entries of one day with a loss and a gain, and a loss on the next day. -/
def Sample.riskCalls : List RiskCall :=
  [.entryAttempt 4, .closedResult 4 (-3000), .entryAttempt 4, .closedResult 4 500,
    .closedResultOnce 5 (Sha256.checksum.hexdigest []) (-200)]

theorem allowed_entry_sound_next_day :
    lossesOn (after (riskStep Sha256.checksum Sample.riskPolicy)
        (initialRiskRun Sha256.checksum Sample.riskPolicy) Sample.riskCalls).history 5 = 200 ∧
      lossesOn (after (riskStep Sha256.checksum Sample.riskPolicy)
        (initialRiskRun Sha256.checksum Sample.riskPolicy) Sample.riskCalls).history 5 <
          Sample.riskPolicy.dailyLossLimitJpy := by
  refine ⟨by decide +kernel, ?_⟩
  have hgate : evaluateRiskBeforeEntry Sha256.checksum Sample.riskPolicy
      (after (riskStep Sha256.checksum Sample.riskPolicy)
        (initialRiskRun Sha256.checksum Sample.riskPolicy) Sample.riskCalls).state 5 =
      .ok (rollCalendar (after (riskStep Sha256.checksum Sample.riskPolicy)
          (initialRiskRun Sha256.checksum Sample.riskPolicy) Sample.riskCalls).state 5,
        { allowed := true, stopState := .active, blockedReasons := [] }) := by
    decide +kernel
  exact (allowed_entry_sound Sha256.checksum Sample.riskPolicy Sample.riskCalls
    (by decide) hgate rfl).1

end Soundness

end FxStrategyLab
