import FxStrategyLab.V3.RiskLedger

/-!
# What the gate of version 3 says about the past

A run of ledger calls keeps its records, so that an allowed entry can be held against the
whole history.  The stop field holds one stop.  A budget stop that comes after a kill takes
its place, and a day or a reload then lifts it; as long as neither happens the kill stays
and the gate is sound.

**Results.**

* `LedgerSound.step`: one call keeps the counters and the lasting stop.
* `gate_sound_iff`: the gate is sound at every point of exactly the runs that leave a due
  kill alone.
-/

namespace FxStrategyLab.V3

open Library

inductive LedgerCall
  | evaluate (day : TradingDay)
  | entryAttempt (day : TradingDay)
  | closedResult (day : TradingDay) (pnlJpyInternal : Int)
  | kill (day : TradingDay)
  | reload (day : TradingDay) (postmortemComplete reviewApproved : Bool)

def LedgerCall.day : LedgerCall → TradingDay
  | evaluate day | entryAttempt day | closedResult day _ | kill day | reload day _ _ => day

/-- The state with the records of the calls on it, those before the last successful reload
apart, and the days the calls were made for. -/
structure LedgerRun where
  state : H11V3RiskPersistentState := {}
  past : List RiskRecord := []
  history : List RiskRecord := []
  days : List TradingDay := []

def initialLedgerRun : LedgerRun := {}

variable (run : LedgerRun)

/-- One call. -/
def ledgerStep (call : LedgerCall) : LedgerRun :=
  let days := run.days ++ [call.day]
  match call with
  | .evaluate day =>
      { run with state := (evaluateH11V3RiskBeforeEntry run.state day).1, days }
  | .entryAttempt day =>
      match recordH11V3EntryAttempt run.state day with
      | (state, .ok ()) =>
          { run with state, history := run.history ++ [.entry day], days }
      | (state, .error _) => { run with state, days }
  | .closedResult day pnl =>
      { run with
        state := recordH11V3ClosedResult run.state day pnl
        history := run.history ++ [.closed day pnl]
        days }
  | .kill day =>
      { run with
        state := engageH11V3Kill run.state day
        history := run.history ++ [.killed]
        days }
  | .reload day postmortem review =>
      match operatorReloadH11V3Risk run.state day postmortem review with
      | (state, true) => { state, past := run.past ++ run.history, history := [], days }
      | (state, false) => { run with state, days }

/-- A record that is to stop trading for good: a kill, or a loss above the bound. -/
def Killing : RiskRecord → Prop
  | .killed => True
  | .closed _ pnl => perTradeMaxLossBoundJpy < lossOf pnl
  | .entry _ => False

instance : DecidablePred Killing
  | .killed => isTrue trivial
  | .closed _ pnl => inferInstanceAs (Decidable (perTradeMaxLossBoundJpy < lossOf pnl))
  | .entry _ => isFalse id

/-- At some time of the run a kill was engaged or a loss above the bound was closed. -/
def LedgerRun.Killed : Prop :=
  ∃ record ∈ run.past ++ run.history, Killing record
deriving Decidable

/-- When the gate allows an entry for a day that is not before the calls of the run, no kill
was engaged and no loss was above its bound in the whole run, and since the last successful
reload the losses of the day and of its month and the current losing run are below their
limits. -/
def GateSound : Prop :=
  ∀ day, (∀ d ∈ run.days, d ≤ day) →
    (evaluateH11V3RiskBeforeEntry run.state day).2.allowed = true →
      RiskRecord.killed ∉ run.past ++ run.history ∧
      (∀ d pnl, RiskRecord.closed d pnl ∈ run.past ++ run.history →
        lossOf pnl ≤ perTradeMaxLossBoundJpy) ∧
      lossesOn run.history day < dailyMaxLossJpy ∧
      lossesIn run.history (tradingMonth day) < monthlyMaxLossJpy ∧
      (losingRun run.history : Int) < maxConsecutiveLossesStop

/-- Once a kill is due for good, no result within the bound reaches the daily limit alone,
and no reload is due. -/
def LeavesKill (call : LedgerCall) : Prop :=
  run.Killed →
    match call with
    | .closedResult day pnl =>
        lossOf pnl ≤ perTradeMaxLossBoundJpy → ¬ OnlyDailyReached run.state day (lossOf pnl)
    | .reload day postmortem review => ¬ ReloadDue run.state day postmortem review
    | _ => True

instance (run : LedgerRun) : (call : LedgerCall) → Decidable (LeavesKill run call)
  | .evaluate _ | .entryAttempt _ | .kill _ => isTrue fun _ => trivial
  | .closedResult day pnl =>
      inferInstanceAs (Decidable (run.Killed → lossOf pnl ≤ perTradeMaxLossBoundJpy →
        ¬ OnlyDailyReached run.state day (lossOf pnl)))
  | .reload day postmortem review =>
      inferInstanceAs (Decidable (run.Killed → ¬ ReloadDue run.state day postmortem review))

def Lasting (stop : H11V3RiskStopState) : Prop :=
  stop = .killed ∨ stop = .stoppedConsecutiveLosses ∨ stop = .stoppedMonthlyBudget

theorem Lasting.roll {state : H11V3RiskPersistentState} {day : TradingDay}
    (h : Lasting state.stopState) : (rollRiskCalendar state day).stopState = state.stopState := by
  rw [rollRiskCalendar_stop, if_neg]
  rintro ⟨-, hdaily⟩
  rcases h with h | h | h <;> rw [hdaily] at h <;> cases h

theorem Lasting.not_active {stop : H11V3RiskStopState} (h : Lasting stop) : stop ≠ .active := by
  rintro rfl
  rcases h with h | h | h <;> cases h

/-- The state's day is one of the run's days.  Once a kill is due the ledger has a lasting
stop; before, its counters count the history. -/
structure LedgerSound (run : LedgerRun) : Prop where
  day : ∀ current, run.state.currentDayJst = some current → current ∈ run.days
  kept : run.Killed → Lasting run.state.stopState
  counted : ¬ run.Killed → Counted ledgerPolicy run.state.counters run.history

def InOrder (call : LedgerCall) : Prop :=
  ∀ d ∈ run.days, d ≤ call.day

section Soundness

variable {run : LedgerRun} {day : TradingDay}

theorem LedgerSound.upTo (h : LedgerSound run) (hdays : ∀ d ∈ run.days, d ≤ day) :
    UpTo run.state.counters day :=
  fun current hcurrent => hdays current (h.day current hcurrent)

theorem LedgerSound.gateSound (h : LedgerSound run) : GateSound run := by
  intro day hdays hallowed
  rw [allowed_iff, riskBlockedReasons_eq_nil] at hallowed
  obtain ⟨hactive, -, hdaily, hmonthly, hconsecutive⟩ := hallowed
  have hclear : ¬ run.Killed := by
    intro hkilled
    have hlasting := h.kept hkilled
    rw [hlasting.roll] at hactive
    exact hlasting.not_active hactive
  have hcounted := (h.counted hclear).roll (h.upTo hdays)
  rw [← counters_roll] at hcounted
  have hday : (rollRiskCalendar run.state day).counters.currentDayJst = some day :=
    rollRiskCalendar_day
  refine ⟨fun hmem => hclear ⟨_, hmem, trivial⟩, fun d pnl hmem => ?_, ?_, ?_, ?_⟩
  · exact not_lt.mp fun hlt => hclear ⟨_, hmem, hlt⟩
  · rw [← hcounted.daily day hday]
    exact hdaily
  · exact lt_of_le_of_lt (hcounted.monthly day hday) hmonthly
  · rw [← hcounted.consecutive]
    exact hconsecutive

theorem LedgerSound.rolled (h : LedgerSound run) (hdays : ∀ d ∈ run.days, d ≤ day) :
    LedgerSound
      { run with state := rollRiskCalendar run.state day, days := run.days ++ [day] } := by
  refine ⟨fun current hcurrent => ?_, fun hkilled => ?_, fun hclear => ?_⟩
  · obtain rfl : day = current :=
      Option.some.inj (rollRiskCalendar_day.symm.trans hcurrent)
    exact List.mem_append_right _ List.mem_cons_self
  · have hlasting := h.kept hkilled
    change Lasting (rollRiskCalendar run.state day).stopState
    rw [hlasting.roll]
    exact hlasting
  · change Counted ledgerPolicy (rollRiskCalendar run.state day).counters run.history
    rw [counters_roll]
    exact (h.counted hclear).roll (h.upTo hdays)

theorem LedgerSound.blocked (h : LedgerSound run) (hkilled : run.Killed) :
    (evaluateH11V3RiskBeforeEntry run.state day).2.allowed ≠ true := by
  rw [Ne, allowed_iff, riskBlockedReasons_eq_nil]
  rintro ⟨hactive, -⟩
  have hlasting := h.kept hkilled
  rw [hlasting.roll] at hactive
  exact hlasting.not_active hactive

theorem killed_append (record : RiskRecord) (state : H11V3RiskPersistentState)
    (days : List TradingDay) :
    LedgerRun.Killed { run with state, history := run.history ++ [record], days } ↔
      run.Killed ∨ Killing record := by
  unfold LedgerRun.Killed
  simp only [← List.append_assoc, List.mem_append, List.mem_singleton]
  constructor
  · rintro ⟨r, hr | rfl, hkilling⟩
    · exact Or.inl ⟨r, hr, hkilling⟩
    · exact Or.inr hkilling
  · rintro (⟨r, hr, hkilling⟩ | hkilling)
    · exact ⟨r, Or.inl hr, hkilling⟩
    · exact ⟨record, Or.inr rfl, hkilling⟩

end Soundness

section Steps

variable {run : LedgerRun} {day : TradingDay} {pnl : Int}

/-- The stop after a result within the bound on a ledger with a lasting stop: lasting,
unless the daily limit alone is reached. -/
theorem lasting_of_counted (h : Lasting run.state.stopState)
    (hreached : ¬ OnlyDailyReached run.state day (lossOf pnl)) :
    Lasting (stopForLosses (countLoss (rollRiskCalendar run.state day) (lossOf pnl))
      day).stopState := by
  rw [stopForLosses_stop, countLoss_stop, h.roll]
  split_ifs with hconsecutive hmonthly hdaily
  · exact Or.inr (Or.inl rfl)
  · exact Or.inr (Or.inr rfl)
  · exact absurd ⟨not_le.mp hconsecutive, not_le.mp hmonthly, hdaily⟩ hreached
  · exact h

theorem LedgerSound.closed (h : LedgerSound run) (hdays : ∀ d ∈ run.days, d ≤ day)
    (hleaves : LeavesKill run (.closedResult day pnl)) :
    LedgerSound (ledgerStep run (.closedResult day pnl)) := by
  rcases @recordH11V3ClosedResult_cases run.state day pnl with
    ⟨hover, hstop, hcurrent⟩ | ⟨hbound, hresult⟩
  · refine ⟨fun current hc => ?_, fun _ => Or.inl hstop, fun hclear => ?_⟩
    · obtain rfl : day = current := Option.some.inj (hcurrent.symm.trans hc)
      exact List.mem_append_right _ List.mem_cons_self
    · exact absurd ((killed_append (.closed day pnl) _ _).mpr (Or.inr hover)) hclear
  · have hkilled : (ledgerStep run (.closedResult day pnl)).Killed → run.Killed := by
      intro hkilled
      rcases (killed_append _ _ _).mp hkilled with hkilled | hover
      · exact hkilled
      · exact absurd hbound (not_le.mpr hover)
    simp only [ledgerStep, hresult] at hkilled ⊢
    refine ⟨fun current hc => ?_, fun hk => ?_, fun hclear => ?_⟩
    · obtain rfl : day = current := Option.some.inj ((stopForLosses_day pnl).symm.trans hc)
      exact List.mem_append_right _ List.mem_cons_self
    · exact lasting_of_counted (h.kept (hkilled hk)) (hleaves (hkilled hk) hbound)
    · have hold : ¬ run.Killed := fun hk => hclear ((killed_append _ _ _).mpr (Or.inl hk))
      have hrolled := (h.counted hold).roll (h.upTo hdays)
      have hcounted := hrolled.closed rollCalendar_day hbound
      rw [← counters_roll, ← counters_countLoss] at hcounted
      exact hcounted.of_same counters_stopForLosses

theorem LedgerSound.attempt (h : LedgerSound run) (hdays : ∀ d ∈ run.days, d ≤ day) :
    LedgerSound (ledgerStep run (.entryAttempt day)) := by
  have hrolled := h.rolled hdays
  by_cases hallowed : (evaluateH11V3RiskBeforeEntry run.state day).2.allowed = true
  · have hclear : ¬ run.Killed := fun hkilled => h.blocked hkilled hallowed
    have hstill : ∀ state days, ¬ LedgerRun.Killed
        { run with state, history := run.history ++ [.entry day], days } := by
      intro state days hkilled
      rcases (killed_append _ _ _).mp hkilled with hkilled | hentry
      · exact hclear hkilled
      · exact hentry
    simp only [ledgerStep, recordH11V3EntryAttempt, hallowed, if_true]
    refine ⟨hrolled.day, fun hkilled => absurd hkilled (hstill _ _), fun _ => ?_⟩
    exact (hrolled.counted hclear).entry rollRiskCalendar_day
  · simp only [ledgerStep, recordH11V3EntryAttempt, hallowed]
    exact hrolled

theorem LedgerSound.reload (h : LedgerSound run) {postmortem review : Bool}
    (hleaves : LeavesKill run (.reload day postmortem review)) :
    LedgerSound (ledgerStep run (.reload day postmortem review)) := by
  by_cases hdue : ReloadDue run.state day postmortem review
  · have hclear : ¬ run.Killed := fun hkilled => hleaves hkilled hdue
    simp only [ledgerStep, operatorReloadH11V3Risk, hdue, if_true]
    refine ⟨fun current hc => ?_, fun hkilled => ?_, fun _ => ?_⟩
    · obtain rfl : day = current := Option.some.inj hc
      exact List.mem_append_right _ List.mem_cons_self
    · refine absurd ?_ hclear
      simpa only [LedgerRun.Killed, List.append_nil] using hkilled
    · -- nothing was recorded since, and every counter is zero
      refine ⟨nofun, rfl, ?_, ?_, ?_, le_rfl, rfl, nofun, nofun⟩
      · exact fun _ _ => rfl
      · exact fun _ _ => rfl
      · exact fun _ _ => le_rfl
  · simp only [ledgerStep, operatorReloadH11V3Risk, hdue, if_false]
    exact ⟨fun current hc => List.mem_append_left _ (h.day current hc), h.kept, h.counted⟩

/-- **Step lemma.** A call that leaves a due kill alone keeps the ledger sound. -/
theorem LedgerSound.step {call : LedgerCall} (h : LedgerSound run) (hdays : InOrder run call)
    (hleaves : LeavesKill run call) : LedgerSound (ledgerStep run call) := by
  cases call with
  | evaluate day => exact h.rolled hdays
  | entryAttempt day => exact h.attempt hdays
  | closedResult day pnl => exact h.closed hdays hleaves
  | kill day =>
      refine ⟨fun current hc => List.mem_append_left _ (h.day current hc),
        fun _ => Or.inl rfl, fun hclear => ?_⟩
      exact absurd ((killed_append .killed _ _).mpr (Or.inr trivial)) hclear
  | reload day postmortem review => exact h.reload hleaves

theorem not_gateSound_of_allowed (day : TradingDay) (hkilled : run.Killed) (hdays : ∀ d ∈ run.days, d ≤ day)
    (hallowed : (evaluateH11V3RiskBeforeEntry run.state day).2.allowed = true) :
    ¬ GateSound run := by
  intro h
  obtain ⟨hclear, hbounded, -⟩ := h day hdays hallowed
  obtain ⟨record, hrecord, hkilling⟩ := hkilled
  cases record with
  | killed => exact hclear hrecord
  | closed d pnl => exact absurd (hbounded d pnl hrecord) (not_le.mpr hkilling)
  | entry d => exact hkilling

/-- On a new day a daily stop is gone, and only the month and the losing run count. -/
theorem allowed_of_daily {state : H11V3RiskPersistentState}
    (hday : state.currentDayJst ≠ some day) (hstop : state.stopState = .stoppedDailyBudget)
    (hconsecutive : state.consecutiveLosses < maxConsecutiveLossesStop)
    (hmonthly : state.monthlyLossJpy < monthlyMaxLossJpy) :
    (evaluateH11V3RiskBeforeEntry state day).2.allowed = true := by
  rw [allowed_iff, riskBlockedReasons_eq_nil]
  unfold rollRiskCalendar
  by_cases hmonth : state.currentMonthJst = some (tradingMonth day) <;>
    simp_all [maxTradesPerDay, dailyMaxLossJpy, monthlyMaxLossJpy]

theorem allowed_of_reloaded {state : H11V3RiskPersistentState}
    (hstop : state.stopState = .active) (hday : state.currentDayJst = some day)
    (hmonth : state.currentMonthJst = some (tradingMonth day)) (hentries : state.entriesToday = 0)
    (hdaily : state.dailyLossJpy = 0) (hmonthly : state.monthlyLossJpy = 0)
    (hconsecutive : state.consecutiveLosses = 0) :
    (evaluateH11V3RiskBeforeEntry state day).2.allowed = true := by
  rw [allowed_iff, riskBlockedReasons_eq_nil]
  simp [rollRiskCalendar, hday, hmonth, hstop, hentries, hdaily, hmonthly, hconsecutive,
    maxTradesPerDay, dailyMaxLossJpy, monthlyMaxLossJpy, maxConsecutiveLossesStop]

theorem InOrder.days_le (call : LedgerCall) (h : InOrder run call) (hle : call.day ≤ day)
    {d : TradingDay} (hd : d ∈ run.days ++ [call.day]) : d ≤ day := by
  rcases List.mem_append.mp hd with hd | hd
  · exact le_trans (h d hd) hle
  · rw [List.mem_singleton.mp hd]
    exact hle

/-- **A call that lifts a due kill opens the gate at once**: a daily stop is gone on the
next day, and a reload opens the ledger on its own day. -/
theorem not_gateSound_of_lifted {call : LedgerCall}
    (hdays : InOrder run call) (hlifts : ¬ LeavesKill run call) :
    ¬ GateSound (ledgerStep run call) := by
  cases call with
  | evaluate day => exact absurd (fun _ => trivial) hlifts
  | entryAttempt day => exact absurd (fun _ => trivial) hlifts
  | kill day => exact absurd (fun _ => trivial) hlifts
  | closedResult day pnl =>
      simp only [LeavesKill, Classical.not_imp, not_not] at hlifts
      obtain ⟨hkilled, hbound, hreached⟩ := hlifts
      have hstate : (ledgerStep run (.closedResult day pnl)).state =
          stopForLosses (countLoss (rollRiskCalendar run.state day) (lossOf pnl)) day :=
        recordH11V3ClosedResult_within hbound
      have hsame := @counters_stopForLosses
        (countLoss (rollRiskCalendar run.state day) (lossOf pnl)) day
      have hstop : (ledgerStep run (.closedResult day pnl)).state.stopState =
          .stoppedDailyBudget := by
        rw [hstate, stopForLosses_stop, if_neg (not_le.mpr hreached.1),
          if_neg (not_le.mpr hreached.2.1), if_pos hreached.2.2]
      refine not_gateSound_of_allowed (day + 1)
        ((killed_append (.closed day pnl) _ _).mpr (Or.inl hkilled))
        (fun d => InOrder.days_le (.closedResult day pnl) hdays (Int.le_add_one le_rfl))
        (allowed_of_daily ?_ hstop ?_ ?_)
      · rw [hstate, stopForLosses_day]
        intro heq
        have hnext : day = day + 1 := Option.some.inj heq
        exact (Int.lt_succ day).ne hnext
      · rw [hstate]
        exact lt_of_eq_of_lt hsame.consecutive hreached.1
      · rw [hstate]
        exact lt_of_eq_of_lt hsame.monthly hreached.2.1
  | reload day postmortem review =>
      simp only [LeavesKill, Classical.not_imp, not_not] at hlifts
      obtain ⟨hkilled, hdue⟩ := hlifts
      have hstep : ledgerStep run (.reload day postmortem review) =
          { state := (operatorReloadH11V3Risk run.state day postmortem review).1
            past := run.past ++ run.history
            history := []
            days := run.days ++ [day] } := by
        simp only [ledgerStep, operatorReloadH11V3Risk, hdue, if_true]
        rfl
      rw [hstep]
      simp only [operatorReloadH11V3Risk, hdue, if_true]
      refine not_gateSound_of_allowed day ?_
        (fun d => InOrder.days_le (.reload day postmortem review) hdays le_rfl)
        (allowed_of_reloaded rfl rfl rfl rfl rfl rfl rfl)
      simpa only [LedgerRun.Killed, List.append_nil] using hkilled

end Steps

theorem initialLedger_sound : LedgerSound initialLedgerRun := by
  refine ⟨nofun, ?_, fun _ => ⟨nofun, rfl, nofun, nofun, nofun, le_rfl, rfl, nofun, nofun⟩⟩
  rintro ⟨record, hrecord, -⟩
  cases hrecord

theorem ledgerStep_days (call : LedgerCall) :
    (ledgerStep run call).days = run.days ++ [call.day] := by
  cases call with
  | evaluate day => rfl
  | entryAttempt day =>
      simp only [ledgerStep]
      split <;> rfl
  | closedResult day pnl => rfl
  | kill day => rfl
  | reload day postmortem review =>
      simp only [ledgerStep]
      split <;> rfl

theorem inOrder_along {calls : List LedgerCall}
    (h : (run.days ++ calls.map LedgerCall.day).Pairwise (· ≤ ·)) :
    MeetsAlong ledgerStep InOrder run calls := by
  induction calls generalizing run with
  | nil => trivial
  | cons call calls ih =>
      refine ⟨fun d hd => ?_, ih _ ?_⟩
      · exact (List.pairwise_append.mp h).2.2 d hd call.day List.mem_cons_self
      · rw [ledgerStep_days, List.append_assoc]
        exact h

/-- **Exactly when the gate is sound.** Over any calls on one ledger from its initial state,
with days that do not go back: at every point of the run an allowed entry tells of a history
without a kill and within the limits if and only if, once a kill was engaged or a loss above
the bound was closed, no later result reached the daily limit alone and no reload was due. -/
theorem gate_sound_iff (calls : List LedgerCall)
    (hdays : (calls.map LedgerCall.day).Pairwise (· ≤ ·)) :
    (∀ n, GateSound (after ledgerStep initialLedgerRun (calls.take n))) ↔
      MeetsAlong ledgerStep LeavesKill initialLedgerRun calls :=
  always_iff_meetsAlong (I := LedgerSound) (P := GateSound) (A := InOrder) (C := LeavesKill)
    (fun _ => LedgerSound.gateSound) (fun _ _ => LedgerSound.step)
    (fun _ _ _ => not_gateSound_of_lifted) initialLedger_sound (inOrder_along initialLedgerRun hdays)

/-- A month with a kill at its end, a loss that closes after it and a new attempt. -/
def Sample.killedMonth : List LedgerCall :=
  [.entryAttempt 4, .closedResult 4 (-3000), .entryAttempt 5, .kill 5, .closedResult 5 (-4000),
    .entryAttempt 6]

theorem gate_sound_killed_month :
    GateSound (after ledgerStep initialLedgerRun (Sample.killedMonth.take 6)) :=
  (gate_sound_iff Sample.killedMonth (by decide)).mpr (by decide +kernel) 6

def Sample.killedDay : List LedgerCall :=
  [.kill 10, .closedResult 10 (-5000), .closedResult 10 (-5000)]

/-- Two losses that close after a kill reach the daily limit, and on the next day the gate
allows an entry. -/
theorem daily_stop_lifts_kill :
    (evaluateH11V3RiskBeforeEntry
        (after ledgerStep initialLedgerRun Sample.killedDay).state 11).2.allowed = true ∧
      ¬ GateSound (after ledgerStep initialLedgerRun Sample.killedDay) := by
  have hallowed : (evaluateH11V3RiskBeforeEntry
      (after ledgerStep initialLedgerRun Sample.killedDay).state 11).2.allowed = true := by
    decide +kernel
  refine ⟨hallowed, fun h => ?_⟩
  exact (h 11 (by decide +kernel) hallowed).1 (by decide +kernel)

end FxStrategyLab.V3
