import FxStrategyLab.V3.Stage1

/-!
# Whether Stage 1 and the ledger of version 3 stop alike

The session and the ledger are fed with the same closed results.  They share their limits
and the order in which these are looked at, but the session enters a stop only where the
stop in force leaves room for it, while the ledger replaces whatever stop is there.

**Results.**

* `Matched.roll`, `Matched.outcome`: one look at a day, and one result.
* `stops_alike_iff`: both stop alike along exactly the runs without a diverging result.
-/

namespace FxStrategyLab.V3

open Library

/-- What the session and the ledger are told: a closed result, or to check their gates. -/
inductive TwinEvent
  | outcome (now : JstTime) (netJpy : Int)
  | check (now : JstTime) (eventExclusionActive : Bool)

def TwinEvent.now : TwinEvent → JstTime
  | outcome now _ | check now _ => now

def TwinEvent.loss : TwinEvent → Int
  | outcome _ netJpy => lossOf netJpy
  | check _ _ => 0

/-- A session and a ledger with the results that both were fed with and the days of the
events. -/
structure Twins where
  session : H11Stage1Session := {}
  ledger : H11V3RiskPersistentState := {}
  history : List RiskRecord := []
  days : List TradingDay := []

def initialTwins : Twins := {}

variable (twins : Twins)

/-- One event. -/
def twinStep (event : TwinEvent) : Twins :=
  let days := twins.days ++ [event.now.day]
  match event with
  | .outcome now netJpy =>
      { session := twins.session.recordPaperTradeOutcomeJpy netJpy now
        ledger := recordH11V3ClosedResult twins.ledger now.day netJpy
        history := twins.history ++ [.closed now.day netJpy]
        days }
  | .check now eventExclusion =>
      { twins with
        session := (twins.session.preTradeGateReasons now eventExclusion).1
        ledger := (evaluateH11V3RiskBeforeEntry twins.ledger now.day).1
        days }

/-- At some time of the history the run of losing results had the length of a stop. -/
def LostInARow (history : List RiskRecord) : Prop :=
  ∃ earlier, earlier <+: history ∧ maxConsecutiveLossesStop ≤ (losingRun earlier : Int)

/-- Now, and at the gates of every day that is not before the events, the session is stopped
exactly when the ledger is, and after a run of losses that calls for a stop both are. -/
structure StopAlike (twins : Twins) : Prop where
  now : twins.session.stopState ≠ .active ↔ twins.ledger.stopState ≠ .active
  later : ∀ now eventExclusion, (∀ d ∈ twins.days, d ≤ now.day) →
    ("SESSION_STOPPED" ∈ (twins.session.preTradeGateReasons now eventExclusion).2 ↔
      "RISK_SESSION_STOPPED" ∈
        (evaluateH11V3RiskBeforeEntry twins.ledger now.day).2.blockedReasons)
  lost_now : LostInARow twins.history →
    twins.session.stopState ≠ .active ∧ twins.ledger.stopState ≠ .active
  lost_later : LostInARow twins.history → ∀ now eventExclusion,
    (∀ d ∈ twins.days, d ≤ now.day) →
      "SESSION_STOPPED" ∈ (twins.session.preTradeGateReasons now eventExclusion).2 ∧
        "RISK_SESSION_STOPPED" ∈
          (evaluateH11V3RiskBeforeEntry twins.ledger now.day).2.blockedReasons

def UntilReload (stop : AutoRiskStopState) : Prop :=
  stop = .stoppedConsecutiveLosses ∨ stop = .stoppedMonthlyBudget

instance : DecidablePred UntilReload :=
  fun _ => inferInstanceAs (Decidable (_ ∨ _))

/-- A result completes a losing run on a day that is stopped already, in a month below its
limit: the session keeps the stop of the day, the ledger replaces it. -/
def RunEndsStoppedDay (ledger : H11V3RiskPersistentState) (day : TradingDay) (netJpy : Int) :
    Prop :=
  let counted := countLoss (rollRiskCalendar ledger day) (lossOf netJpy)
  counted.stopState = .stoppedDailyBudget ∧
    maxConsecutiveLossesStop ≤ counted.consecutiveLosses ∧
    counted.monthlyLossJpy < monthlyMaxLossJpy

/-- A result reaches the daily limit alone under a stop that only a reload lifts: the session
keeps that stop, the ledger replaces it by that of the day. -/
def DayEndsStop (ledger : H11V3RiskPersistentState) (day : TradingDay) (netJpy : Int) :
    Prop :=
  UntilReload ledger.stopState ∧ OnlyDailyReached ledger day (lossOf netJpy)

instance (ledger : H11V3RiskPersistentState) (day : TradingDay) (netJpy : Int) :
    Decidable (RunEndsStoppedDay ledger day netJpy) :=
  inferInstanceAs (Decidable (_ ∧ _ ∧ _))

instance (ledger : H11V3RiskPersistentState) (day : TradingDay) (netJpy : Int) :
    Decidable (DayEndsStop ledger day netJpy) :=
  inferInstanceAs (Decidable (_ ∧ _))

/-- The event is no result for which the two part. -/
def StaysAlike : TwinEvent → Prop
  | .outcome now netJpy =>
      ¬ RunEndsStoppedDay twins.ledger now.day netJpy ∧
        ¬ DayEndsStop twins.ledger now.day netJpy
  | .check _ _ => True

instance (twins : Twins) : DecidablePred (StaysAlike twins)
  | .outcome _ _ => inferInstanceAs (Decidable (_ ∧ _))
  | .check _ _ => isTrue trivial

/-- The events that the comparison is about: days do not go back, and a loss is within the
bound. -/
def TwinInput (event : TwinEvent) : Prop :=
  (∀ d ∈ twins.days, d ≤ event.now.day) ∧
    event.loss ≤ perTradeMaxLossBoundJpy

def StopsMatch (stage1 ledger : AutoRiskStopState) : Prop :=
  (stage1 = .active ∧ ledger = .active) ∨
    (stage1 = .stoppedDailyBudget ∧ ledger = .stoppedDailyBudget) ∨
    (UntilReload stage1 ∧ UntilReload ledger)

/-- The calendar and the counters of session and ledger agree, and their stops match. -/
structure Matched (session : H11Stage1Session) (ledger : H11V3RiskPersistentState) : Prop where
  day : session.currentDay = ledger.currentDayJst
  month : session.currentMonth = ledger.currentMonthJst
  daily : session.dailyLossJpy = ledger.dailyLossJpy
  monthly : session.monthlyLossJpy = ledger.monthlyLossJpy
  consecutive : session.consecutiveLosses = ledger.consecutiveLosses
  stops : StopsMatch session.stopState ledger.stopState

section Matching

variable {session : H11Stage1Session} {ledger : H11V3RiskPersistentState} {now : JstTime}

theorem StopsMatch.active_iff {stage1 stop : AutoRiskStopState} (h : StopsMatch stage1 stop) :
    stage1 = .active ↔ stop = .active := by
  rcases h with ⟨rfl, rfl⟩ | ⟨rfl, rfl⟩ | ⟨rfl | rfl, rfl | rfl⟩ <;> simp

theorem Matched.roll (h : Matched session ledger) :
    Matched (session.rollCalendar now) (rollRiskCalendar ledger now.day) := by
  obtain ⟨hday, hmonth, hdaily, hmonthly, hconsecutive, hstops⟩ := h
  unfold H11Stage1Session.rollCalendar rollRiskCalendar
  rw [hday, hmonth]
  rcases hstops with ⟨hs, hl⟩ | ⟨hs, hl⟩ | ⟨hs | hs, hl | hl⟩ <;>
    by_cases hsame : ledger.currentDayJst = some now.day <;>
    by_cases hturn : ledger.currentMonthJst = some (tradingMonth now.day) <;>
    simp [hs, hl, hsame, hturn] <;>
    constructor <;> simp_all [StopsMatch, UntilReload]

theorem Matched.count (h : Matched session ledger) {netJpy : Int}
    (hbound : lossOf netJpy ≤ perTradeMaxLossBoundJpy) :
    Matched (session.countOutcome (lossOf netJpy)) (countLoss ledger (lossOf netJpy)) := by
  obtain ⟨hday, hmonth, hdaily, hmonthly, hconsecutive, hstops⟩ := h
  have hnonneg := lossOf_nonneg netJpy
  unfold H11Stage1Session.countOutcome countLoss
  rw [if_neg (not_lt.mpr hbound)]
  by_cases hloss : lossOf netJpy = 0
  · simp only [hloss, lt_irrefl, ne_eq, not_true_eq_false, if_false]
    exact ⟨hday, hmonth, hdaily, hmonthly, rfl, hstops⟩
  · have hpos : 0 < lossOf netJpy := lt_of_le_of_ne hnonneg (Ne.symm hloss)
    simp only [hpos, hloss, ne_eq, not_false_eq_true, if_true]
    exact ⟨hday, hmonth, congrArg (· + _) hdaily, congrArg (· + _) hmonthly,
      congrArg (· + 1) hconsecutive, hstops⟩

theorem Matched.stop (h : Matched session ledger)
    (hrun : ¬ (ledger.stopState = .stoppedDailyBudget ∧
      maxConsecutiveLossesStop ≤ ledger.consecutiveLosses ∧
      ledger.monthlyLossJpy < monthlyMaxLossJpy))
    (hday : ¬ (UntilReload ledger.stopState ∧
      ledger.consecutiveLosses < maxConsecutiveLossesStop ∧
      ledger.monthlyLossJpy < monthlyMaxLossJpy ∧ dailyMaxLossJpy ≤ ledger.dailyLossJpy)) :
    Matched (session.stopForOutcomes now) (stopForLosses ledger now.day) := by
  have hledger := @counters_stopForLosses ledger now.day
  obtain ⟨hd, hm, hdl, hml, hc⟩ := session.stopForOutcomes_frame now
  refine ⟨hd.trans (h.day.trans hledger.day.symm), hm.trans (h.month.trans hledger.month.symm),
    hdl.trans (h.daily.trans hledger.daily.symm),
    hml.trans (h.monthly.trans hledger.monthly.symm),
    hc.trans (h.consecutive.trans hledger.consecutive.symm), ?_⟩
  rw [session.stopForOutcomes_stop, stopForLosses_stop, h.consecutive, h.monthly, h.daily]
  simp only [lt_iff_not_ge] at hrun hday
  by_cases hconsecutive : maxConsecutiveLossesStop ≤ ledger.consecutiveLosses <;>
    by_cases hmonthly : monthlyMaxLossJpy ≤ ledger.monthlyLossJpy <;>
    by_cases hdaily : dailyMaxLossJpy ≤ ledger.dailyLossJpy <;>
    rcases h.stops with ⟨hs, hl⟩ | ⟨hs, hl⟩ | ⟨hs | hs, hl | hl⟩ <;>
    simp_all [StopsMatch, UntilReload, -not_le, -Int.not_le]

/-- **One result.** Session and ledger stay matched unless the result makes them part. -/
theorem Matched.outcome (h : Matched session ledger) {netJpy : Int}
    (hbound : lossOf netJpy ≤ perTradeMaxLossBoundJpy)
    (hrun : ¬ RunEndsStoppedDay ledger now.day netJpy)
    (hday : ¬ DayEndsStop ledger now.day netJpy) :
    Matched (session.recordPaperTradeOutcomeJpy netJpy now)
      (recordH11V3ClosedResult ledger now.day netJpy) := by
  rw [recordH11V3ClosedResult_within hbound]
  refine ((h.roll).count hbound).stop hrun ?_
  rintro ⟨huntil, hreached⟩
  rw [countLoss_stop] at huntil
  refine hday ⟨?_, hreached⟩
  -- no roll leads to a stop that only a reload lifts
  rw [rollRiskCalendar_stop] at huntil
  split_ifs at huntil
  · rcases huntil with huntil | huntil <;> cases huntil
  · exact huntil

end Matching

theorem lostInARow_append (history : List RiskRecord) (record : RiskRecord) :
    LostInARow (history ++ [record]) ↔
      LostInARow history ∨ maxConsecutiveLossesStop ≤ (losingRun (history ++ [record]) : Int) := by
  unfold LostInARow
  simp only [List.prefix_concat_iff]
  constructor
  · rintro ⟨earlier, rfl | hearlier, hrun⟩
    · exact Or.inr hrun
    · exact Or.inl ⟨earlier, hearlier, hrun⟩
  · rintro (⟨earlier, hearlier, hrun⟩ | hrun)
    · exact ⟨earlier, Or.inr hearlier, hrun⟩
    · exact ⟨_, Or.inl rfl, hrun⟩

/-- The invariant of a run without a diverging result. -/
structure TwinsMatched (twins : Twins) : Prop where
  matched : Matched twins.session twins.ledger
  day : ∀ current, twins.ledger.currentDayJst = some current → current ∈ twins.days
  run : twins.ledger.consecutiveLosses = losingRun twins.history
  lost : LostInARow twins.history → UntilReload twins.ledger.stopState

section Steps

variable {twins : Twins} {now : JstTime} {netJpy : Int}

theorem UntilReload.lasting {stop : AutoRiskStopState} (h : UntilReload stop) :
    stop ≠ .active ∧ stop ≠ .stoppedDailyBudget := by
  rcases h with rfl | rfl <;> decide

theorem UntilReload.roll {ledger : H11V3RiskPersistentState} {day : TradingDay}
    (h : UntilReload ledger.stopState) :
    (rollRiskCalendar ledger day).stopState = ledger.stopState := by
  rw [rollRiskCalendar_stop, if_neg]
  exact fun hdaily => h.lasting.2 hdaily.2

theorem UntilReload.roll_session {session : H11Stage1Session}
    (h : UntilReload session.stopState) :
    (session.rollCalendar now).stopState = session.stopState := by
  rw [session.rollCalendar_stop, if_neg]
  exact fun hdaily => h.lasting.2 hdaily.2

theorem TwinsMatched.stopAlike (h : TwinsMatched twins) : StopAlike twins := by
  have hlost : LostInARow twins.history →
      UntilReload twins.session.stopState ∧ UntilReload twins.ledger.stopState := by
    intro hrow
    have huntil := h.lost hrow
    rcases h.matched.stops with ⟨-, hl⟩ | ⟨-, hl⟩ | hboth
    · exact absurd hl huntil.lasting.1
    · exact absurd hl huntil.lasting.2
    · exact hboth
  refine ⟨not_congr h.matched.stops.active_iff, ?_, ?_, ?_⟩
  · intro now eventExclusion _
    rw [H11Stage1Session.stopped_mem_reasons, stopped_mem_blockedReasons]
    exact not_congr h.matched.roll.stops.active_iff
  · intro hrow
    exact ⟨(hlost hrow).1.lasting.1, (hlost hrow).2.lasting.1⟩
  · intro hrow now eventExclusion _
    rw [H11Stage1Session.stopped_mem_reasons, stopped_mem_blockedReasons,
      (hlost hrow).1.roll_session, (hlost hrow).2.roll]
    exact ⟨(hlost hrow).1.lasting.1, (hlost hrow).2.lasting.1⟩

theorem consecutive_of_within {ledger : H11V3RiskPersistentState} {day : TradingDay}
    {history : List RiskRecord} (h : ledger.consecutiveLosses = losingRun history) :
    (countLoss (rollRiskCalendar ledger day) (lossOf netJpy)).consecutiveLosses =
      losingRun (history ++ [.closed day netJpy]) := by
  have hroll : (rollRiskCalendar ledger day).consecutiveLosses = ledger.consecutiveLosses := by
    have hcounters := congrArg PhaseBRiskState.consecutiveLosses (@counters_roll ledger day)
    rwa [rollCalendar_consecutive] at hcounters
  have hnonneg := lossOf_nonneg netJpy
  rw [losingRun_closed]
  unfold countLoss
  by_cases hloss : lossOf netJpy = 0
  · simp [hloss]
  · have hpos : 0 < lossOf netJpy := lt_of_le_of_ne hnonneg (Ne.symm hloss)
    simp [hloss, hpos, hroll, h]

theorem TwinsMatched.outcome (h : TwinsMatched twins)
    (hbound : lossOf netJpy ≤ perTradeMaxLossBoundJpy)
    (halike : StaysAlike twins (.outcome now netJpy)) :
    TwinsMatched (twinStep twins (.outcome now netJpy)) := by
  have hresult := @recordH11V3ClosedResult_within twins.ledger now.day netJpy hbound
  have hsame := @counters_stopForLosses
    (countLoss (rollRiskCalendar twins.ledger now.day) (lossOf netJpy)) now.day
  have hrun := @consecutive_of_within netJpy twins.ledger now.day twins.history h.run
  refine ⟨h.matched.outcome hbound halike.1 halike.2, fun current hc => ?_, ?_, fun hrow => ?_⟩
  · change (recordH11V3ClosedResult twins.ledger now.day netJpy).currentDayJst = _ at hc
    rw [hresult, stopForLosses_day] at hc
    rw [← Option.some.inj hc]
    exact List.mem_append_right _ List.mem_cons_self
  · change (recordH11V3ClosedResult twins.ledger now.day netJpy).consecutiveLosses = _
    rw [hresult]
    exact hsame.consecutive.trans hrun
  · change UntilReload (recordH11V3ClosedResult twins.ledger now.day netJpy).stopState
    rw [hresult, stopForLosses_stop]
    split_ifs with hconsecutive hmonthly hdaily
    · exact Or.inl rfl
    · exact Or.inr rfl
    all_goals
      -- the run was as long before, so the stop was there before
      have huntil : UntilReload twins.ledger.stopState := by
        rcases (lostInARow_append _ _).mp hrow with hrow | hrow
        · exact h.lost hrow
        · rw [← hrun] at hrow
          exact absurd hrow hconsecutive
    · exact absurd ⟨huntil, not_le.mp hconsecutive, not_le.mp hmonthly, hdaily⟩ halike.2
    · rw [countLoss_stop, huntil.roll]
      exact huntil

theorem TwinsMatched.check (h : TwinsMatched twins) (eventExclusion : Bool) :
    TwinsMatched (twinStep twins (.check now eventExclusion)) := by
  refine ⟨h.matched.roll, fun current hc => ?_, ?_, fun hrow => ?_⟩
  · obtain rfl : now.day = current := Option.some.inj (rollRiskCalendar_day.symm.trans hc)
    exact List.mem_append_right _ List.mem_cons_self
  · have hcounters := congrArg PhaseBRiskState.consecutiveLosses
      (@counters_roll twins.ledger now.day)
    rw [rollCalendar_consecutive] at hcounters
    exact hcounters.trans h.run
  · have huntil := h.lost hrow
    change UntilReload (rollRiskCalendar twins.ledger now.day).stopState
    rw [huntil.roll]
    exact huntil

/-- **Step lemma.** An event that is no diverging result keeps session and ledger matched. -/
theorem TwinsMatched.step {event : TwinEvent} (h : TwinsMatched twins)
    (hinput : TwinInput twins event) (halike : StaysAlike twins event) :
    TwinsMatched (twinStep twins event) := by
  cases event with
  | outcome now netJpy => exact h.outcome hinput.2 halike
  | check now eventExclusion => exact h.check eventExclusion

theorem not_stopAlike_of_stops (hdays : ∀ d ∈ twins.days, d ≤ now.day)
    (hsession : twins.session.currentDay = some now.day)
    (hledger : twins.ledger.currentDayJst = some now.day)
    (hstops : (twins.session.stopState = .stoppedDailyBudget ∧
        UntilReload twins.ledger.stopState) ∨
      (UntilReload twins.session.stopState ∧
        twins.ledger.stopState = .stoppedDailyBudget)) : ¬ StopAlike twins := by
  intro halike
  have hnext : now.day ≠ now.day + 1 := (Int.lt_succ now.day).ne
  have hlater := halike.later ⟨now.day + 1, 0⟩ false fun d hd =>
    le_trans (hdays d hd) (Int.le_add_one le_rfl)
  rw [H11Stage1Session.stopped_mem_reasons, stopped_mem_blockedReasons] at hlater
  rcases hstops with ⟨hdaily, huntil⟩ | ⟨huntil, hdaily⟩
  · rw [huntil.roll, H11Stage1Session.rollCalendar_stop, hsession, if_pos] at hlater
    · exact hlater.mpr huntil.lasting.1 rfl
    · exact ⟨fun heq => hnext (Option.some.inj heq), hdaily⟩
  · rw [huntil.roll_session, rollRiskCalendar_stop, hledger, if_pos] at hlater
    · exact hlater.mp huntil.lasting.1 rfl
    · exact ⟨fun heq => hnext (Option.some.inj heq), hdaily⟩

/-- **A diverging result parts the two at once**: they stop differently on the next day. -/
theorem TwinsMatched.parts {event : TwinEvent} (h : TwinsMatched twins)
    (hinput : TwinInput twins event) (hparts : ¬ StaysAlike twins event) :
    ¬ StopAlike (twinStep twins event) := by
  cases event with
  | check now eventExclusion => exact absurd trivial hparts
  | outcome now netJpy =>
      have hbound : lossOf netJpy ≤ perTradeMaxLossBoundJpy := hinput.2
      have hcounted := (@Matched.roll _ _ now h.matched).count hbound
      have hlday : (twinStep twins (.outcome now netJpy)).ledger.currentDayJst =
          some now.day := by
        change (recordH11V3ClosedResult twins.ledger now.day netJpy).currentDayJst = _
        rw [recordH11V3ClosedResult_within hbound, stopForLosses_day]
      have hsday : (twinStep twins (.outcome now netJpy)).session.currentDay =
          some now.day := by
        refine (H11Stage1Session.stopForOutcomes_frame _ now).1.trans ?_
        exact hcounted.day.trans (countLoss_day.trans rollRiskCalendar_day)
      refine @not_stopAlike_of_stops _ now (fun d hd => ?_) hsday hlday ?_
      · rcases List.mem_append.mp hd with hd | hd
        · exact hinput.1 d hd
        · rw [List.mem_singleton.mp hd]
          exact le_rfl
      have hstop : (twinStep twins (.outcome now netJpy)).ledger.stopState =
          (stopForLosses (countLoss (rollRiskCalendar twins.ledger now.day) (lossOf netJpy))
            now.day).stopState := by
        change (recordH11V3ClosedResult twins.ledger now.day netJpy).stopState = _
        rw [recordH11V3ClosedResult_within hbound]
      have hsession : (twinStep twins (.outcome now netJpy)).session.stopState =
          (((twins.session.rollCalendar now).countOutcome (lossOf netJpy)).stopForOutcomes
            now).stopState :=
        rfl
      rw [hstop, hsession, stopForLosses_stop, H11Stage1Session.stopForOutcomes_stop]
      by_cases hrun : RunEndsStoppedDay twins.ledger now.day netJpy
      · obtain ⟨hdaily, hconsecutive, hmonthly⟩ := hrun
        left
        have hsdaily : ((twins.session.rollCalendar now).countOutcome
            (lossOf netJpy)).stopState = .stoppedDailyBudget := by
          rcases hcounted.stops with ⟨-, hl⟩ | ⟨hs, -⟩ | ⟨-, hl⟩
          · rw [hdaily] at hl
            cases hl
          · exact hs
          · exact absurd hdaily hl.lasting.2
        rw [hsdaily, hcounted.monthly]
        simp [UntilReload, hconsecutive, not_le.mpr hmonthly]
      · have hday := not_not.mp fun hday => hparts ⟨hrun, hday⟩
        obtain ⟨huntil, hconsecutive, hmonthly, hdaily⟩ := hday
        right
        have hsuntil : UntilReload ((twins.session.rollCalendar now).countOutcome
            (lossOf netJpy)).stopState := by
          have hluntil : UntilReload (countLoss (rollRiskCalendar twins.ledger now.day)
              (lossOf netJpy)).stopState := by
            rw [countLoss_stop, huntil.roll]
            exact huntil
          rcases hcounted.stops with ⟨-, hl⟩ | ⟨-, hl⟩ | ⟨hs, -⟩
          · exact absurd hl hluntil.lasting.1
          · exact absurd hl hluntil.lasting.2
          · exact hs
        rw [hcounted.monthly, if_neg (not_le.mpr hconsecutive), if_neg (not_le.mpr hmonthly),
          if_pos hdaily]
        simpa [hsuntil.lasting.1, not_le.mpr hmonthly] using hsuntil

end Steps

theorem initialTwins_matched : TwinsMatched initialTwins := by
  refine ⟨⟨rfl, rfl, rfl, rfl, rfl, Or.inl ⟨rfl, rfl⟩⟩, nofun, rfl, ?_⟩
  rintro ⟨earlier, hearlier, hrun⟩
  have hnil : earlier = [] := List.prefix_nil.mp hearlier
  subst hnil
  exact absurd hrun (by decide)

theorem twinStep_days (event : TwinEvent) :
    (twinStep twins event).days = twins.days ++ [event.now.day] := by
  cases event <;> rfl

theorem twinInput_along {events : List TwinEvent}
    (hdays : (twins.days ++ events.map fun event => event.now.day).Pairwise (· ≤ ·))
    (hbound : ∀ event ∈ events, event.loss ≤ perTradeMaxLossBoundJpy) :
    MeetsAlong twinStep TwinInput twins events := by
  induction events generalizing twins with
  | nil => trivial
  | cons event events ih =>
      refine ⟨⟨fun d hd => ?_, hbound event List.mem_cons_self⟩, ih _ ?_ ?_⟩
      · exact (List.pairwise_append.mp hdays).2.2 d hd event.now.day List.mem_cons_self
      · rw [twinStep_days, List.append_assoc]
        exact hdays
      · exact fun event hmem => hbound event (List.mem_cons_of_mem _ hmem)

/-- **Exactly when both stop alike.** Over any results with losses within the bound, on days
that do not go back, and any looks at the gates between them: at every point of the run the
session is stopped exactly when the ledger is, then and on every later day, and a run of
losses that calls for a stop leaves both stopped, if and only if no result completes a losing
run on a day that is stopped already, in a month below its limit, and no result reaches the
daily limit alone under a stop that only a reload lifts. -/
theorem stops_alike_iff (events : List TwinEvent)
    (hdays : (events.map fun event => event.now.day).Pairwise (· ≤ ·))
    (hbound : ∀ event ∈ events, event.loss ≤ perTradeMaxLossBoundJpy) :
    (∀ n, StopAlike (after twinStep initialTwins (events.take n))) ↔
      MeetsAlong twinStep StaysAlike initialTwins events :=
  always_iff_meetsAlong (I := TwinsMatched) (P := StopAlike) (A := TwinInput)
    (C := StaysAlike) (fun _ => TwinsMatched.stopAlike) (fun _ _ => TwinsMatched.step)
    (fun _ _ => TwinsMatched.parts) initialTwins_matched
    (twinInput_along initialTwins hdays hbound)

/-- Five losses on five days, and a look at the gates on the day after. -/
def Sample.losingWeek : List TwinEvent :=
  [.outcome ⟨4, 0⟩ (-3000), .outcome ⟨5, 0⟩ (-2000), .outcome ⟨6, 0⟩ (-4000),
    .outcome ⟨7, 0⟩ (-100), .outcome ⟨8, 0⟩ (-5000), .check ⟨11, 0⟩ false]

theorem stops_alike_losing_week :
    StopAlike (after twinStep initialTwins (Sample.losingWeek.take 6)) :=
  (stops_alike_iff Sample.losingWeek (by decide) (by decide)).mpr (by decide +kernel) 6

def Sample.losingDay : List TwinEvent :=
  [.outcome ⟨4, 0⟩ (-4000), .outcome ⟨4, 1⟩ (-3000), .outcome ⟨4, 2⟩ (-3000),
    .outcome ⟨4, 3⟩ (-1000), .outcome ⟨4, 4⟩ (-1000)]

/-- After five losses on one day the session is open again on the next, the ledger is not. -/
theorem losing_day_parts :
    "SESSION_STOPPED" ∉ ((after twinStep initialTwins
        Sample.losingDay).session.preTradeGateReasons ⟨5, 36000000000⟩ false).2 ∧
      "RISK_SESSION_STOPPED" ∈ (evaluateH11V3RiskBeforeEntry
        (after twinStep initialTwins Sample.losingDay).ledger 5).2.blockedReasons ∧
      ¬ StopAlike (after twinStep initialTwins Sample.losingDay) := by
  have hsession : "SESSION_STOPPED" ∉ ((after twinStep initialTwins
      Sample.losingDay).session.preTradeGateReasons ⟨5, 36000000000⟩ false).2 := by
    decide +kernel
  have hledger : "RISK_SESSION_STOPPED" ∈ (evaluateH11V3RiskBeforeEntry
      (after twinStep initialTwins Sample.losingDay).ledger 5).2.blockedReasons := by
    decide +kernel
  refine ⟨hsession, hledger, fun halike => hsession ?_⟩
  exact (halike.later ⟨5, 36000000000⟩ false (by decide +kernel)).mpr hledger

end FxStrategyLab.V3
