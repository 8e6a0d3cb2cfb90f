import FxStrategyLab.Stage1.PaperSettlement
import FxStrategyLab.V3.Stage1

/-!
# The review report of the Stage 1 journal

This file embeds the journal lines of the daily run and `summarize_h11_stage1_journal`, which
reduces them to counts and labels.  Lines are given as records; the report of a line that is no
record raises, and the daily run appends none.

**Results.**

* `report_counts`: a report counts the settled lines of its period, and its net result is that
  of their outcomes.
-/

namespace FxStrategyLab.Stage1

open Backtest (PaperSide)
open Library.Rounding (round)
open V3 (H11Stage1StopState JstTime)

def stopValue : H11Stage1StopState → String
  | .active => "ACTIVE"
  | .stoppedDailyBudget => "STOPPED_DAILY_BUDGET"
  | .stoppedMonthlyBudget => "STOPPED_MONTHLY_BUDGET"
  | .stoppedConsecutiveLosses => "STOPPED_CONSECUTIVE_LOSSES"
  | .killed => "KILLED"

/-- The events of a journal.  The number of the entry that a line settles is not in the line:
it says which entry the run settled. -/
inductive JournalEvent
  | paperPositionSettled (exitRoute : PaperExit) (paperOutcomeJpy : Int)
      (stopState : H11Stage1StopState) (closedTradesTotal : Nat) (entry : Nat)
  | stage1EntryEvalSkipped (reason : String)
  | stage1BlockedPreTrade (reasons : List String)
  | paperEntryOpened (direction : PaperSide) (reason : String) (pUp : ℚ)
  | stage1NoEntry (reason : String) (pUp : Option ℚ)
  | disciplineViolation

structure JournalRecord where
  recordedAtJst : JstTime
  event : JournalEvent

/-- A position that was settled: its entry, its outcome and the time of the line. -/
structure SettledTrade where
  entry : Nat
  paperOutcomeJpy : Int
  recordedAtJst : JstTime

def JournalRecord.settled? (record : JournalRecord) : Option SettledTrade :=
  match record.event with
  | .paperPositionSettled _ paperOutcomeJpy _ _ entry =>
      some { entry, paperOutcomeJpy, recordedAtJst := record.recordedAtJst }
  | _ => none

def settledTrades (records : List JournalRecord) : List SettledTrade :=
  records.filterMap JournalRecord.settled?

inductive H11Stage1ReportStatus
  | ready
  | journalMissing
  | noRecordsInPeriod

inductive H11Stage1NetResult
  | positive
  | negative
  | flat
  | notAvailable

/-- Source `H11Stage1SafeAggregate`, without its constant fields. -/
structure H11Stage1SafeAggregate where
  reportStatus : H11Stage1ReportStatus
  periodStartJst : Option TradingDay
  periodEndJst : Option TradingDay
  firstRecordedAtJst : Option JstTime := none
  lastRecordedAtJst : Option JstTime := none
  journalRecordsInPeriod : Nat := 0
  entryCount : Nat := 0
  settleCount : Nat := 0
  blockCount : Nat := 0
  noEntryCount : Nat := 0
  unknownEventCount : Nat := 0
  stopEventCount : Nat := 0
  latestStopState : String := "NOT_RECORDED_IN_JOURNAL"
  closedTradesCumulative : Nat := 0
  disciplineViolationCountCumulative : Nat := 0
  periodWins : Nat := 0
  periodLosses : Nat := 0
  periodFlats : Nat := 0
  periodWinRatePct : Option ℚ := none
  periodNetResult : H11Stage1NetResult := .notAvailable

/-- What the loop over all records keeps. -/
structure Cumulative where
  closed : Nat := 0
  violations : Nat := 0
  latestStopState : String := "NOT_RECORDED_IN_JOURNAL"

/-- One pass of the loop over all records. -/
def Cumulative.add (sums : Cumulative) (record : JournalRecord) : Cumulative :=
  match record.event with
  | .paperPositionSettled _ paperOutcomeJpy stopState closedTradesTotal _ =>
      { closed := max sums.closed closedTradesTotal
        violations :=
          if paperOutcomeJpy < -perTradeMaxLossBoundJpy then sums.violations + 1
          else sums.violations
        latestStopState := stopValue stopState }
  | .disciplineViolation => { sums with violations := sums.violations + 1 }
  | .stage1BlockedPreTrade reasons =>
      if "KILL_SWITCH_ON" ∈ reasons then { sums with latestStopState := "KILLED" }
      else if "SESSION_STOPPED" ∈ reasons then
        if sums.latestStopState = "NOT_RECORDED_IN_JOURNAL" ∨
            sums.latestStopState = "ACTIVE" then
          { sums with latestStopState := "STOPPED_UNSPECIFIED" }
        else sums
      else { sums with latestStopState := "ACTIVE" }
  | .paperEntryOpened _ _ _ => { sums with latestStopState := "ACTIVE" }
  | .stage1NoEntry _ _ => { sums with latestStopState := "ACTIVE" }
  | .stage1EntryEvalSkipped _ => sums

/-- What the loop over the records of the period keeps. -/
structure PeriodCounts where
  entryCount : Nat := 0
  settleCount : Nat := 0
  blockCount : Nat := 0
  noEntryCount : Nat := 0
  unknownEvents : Nat := 0
  stopEvents : Nat := 0
  wins : Nat := 0
  losses : Nat := 0
  flats : Nat := 0
  netTotal : Int := 0

def PeriodCounts.add (counts : PeriodCounts) (record : JournalRecord) : PeriodCounts :=
  match record.event with
  | .paperPositionSettled _ outcome stopState _ _ =>
      let settled :=
        { counts with
          settleCount := counts.settleCount + 1
          netTotal := counts.netTotal + outcome
          stopEvents :=
            if stopState = AutoRiskStopState.active then counts.stopEvents else counts.stopEvents + 1 }
      if 0 < outcome then { settled with wins := settled.wins + 1 }
      else if outcome < 0 then { settled with losses := settled.losses + 1 }
      else { settled with flats := settled.flats + 1 }
  | .paperEntryOpened _ _ _ => { counts with entryCount := counts.entryCount + 1 }
  | .stage1BlockedPreTrade _ => { counts with blockCount := counts.blockCount + 1 }
  | .stage1NoEntry _ _ => { counts with noEntryCount := counts.noEntryCount + 1 }
  | .disciplineViolation => counts
  -- this event is none of `_KNOWN_EVENTS`
  | .stage1EntryEvalSkipped _ => { counts with unknownEvents := counts.unknownEvents + 1 }

def netResultOf (settled : Nat) (netTotal : Int) : H11Stage1NetResult :=
  if settled = 0 then .notAvailable
  else if 0 < netTotal then .positive
  else if netTotal < 0 then .negative
  else .flat

def inPeriod (sinceJst untilJst : Option TradingDay) (recordedAt : JstTime) : Bool :=
  sinceJst.all (fun since => since ≤ recordedAt.day) &&
    untilJst.all (fun final => recordedAt.day ≤ final)

def periodInvalid (sinceJst untilJst : Option TradingDay) : Bool :=
  match sinceJst, untilJst with
  | some since, some final => final < since
  | _, _ => false

/-- Source `summarize_h11_stage1_journal`: a journal file or none, and the period. -/
def summarizeH11Stage1Journal (journal : Option (List JournalRecord))
    (sinceJst untilJst : Option TradingDay) : Except String H11Stage1SafeAggregate :=
  if periodInvalid sinceJst untilJst then .error "report period is invalid"
  else
    let allRecords := journal.getD []
    if allRecords = [] then
      .ok { reportStatus := if journal.isSome then .noRecordsInPeriod else .journalMissing
            periodStartJst := sinceJst
            periodEndJst := untilJst }
    else
      let sums := allRecords.foldl Cumulative.add {}
      let records :=
        allRecords.filter fun record => inPeriod sinceJst untilJst record.recordedAtJst
      if records = [] then
        .ok { reportStatus := .noRecordsInPeriod
              periodStartJst := sinceJst
              periodEndJst := untilJst
              closedTradesCumulative := sums.closed
              disciplineViolationCountCumulative := sums.violations
              latestStopState := sums.latestStopState }
      else
        let counts := records.foldl PeriodCounts.add {}
        let settled := counts.wins + counts.losses + counts.flats
        .ok { reportStatus := .ready
              periodStartJst := sinceJst
              periodEndJst := untilJst
              firstRecordedAtJst := records.head?.map JournalRecord.recordedAtJst
              lastRecordedAtJst := records.getLast?.map JournalRecord.recordedAtJst
              journalRecordsInPeriod := records.length
              entryCount := counts.entryCount
              settleCount := counts.settleCount
              blockCount := counts.blockCount
              noEntryCount := counts.noEntryCount
              unknownEventCount := counts.unknownEvents
              stopEventCount := counts.stopEvents
              latestStopState := sums.latestStopState
              closedTradesCumulative := sums.closed
              disciplineViolationCountCumulative := sums.violations
              periodWins := counts.wins
              periodLosses := counts.losses
              periodFlats := counts.flats
              periodWinRatePct :=
                if settled = 0 then none else some (round (100 * counts.wins / settled) 1)
              periodNetResult := netResultOf settled counts.netTotal }

def netResult (trades : List SettledTrade) : H11Stage1NetResult :=
  netResultOf trades.length (trades.map SettledTrade.paperOutcomeJpy).sum

/-- The settled positions of a period. -/
def tradesIn (sinceJst untilJst : Option TradingDay) (trades : List SettledTrade) :
    List SettledTrade :=
  trades.filter fun trade => inPeriod sinceJst untilJst trade.recordedAtJst

@[simp]
theorem settledTrades_nil : settledTrades [] = [] :=
  rfl

@[simp]
theorem settledTrades_append (before later : List JournalRecord) :
    settledTrades (before ++ later) = settledTrades before ++ settledTrades later := by
  simp [settledTrades]

@[simp]
theorem tradesIn_nil (sinceJst untilJst : Option TradingDay) :
    tradesIn sinceJst untilJst [] = [] :=
  rfl

@[simp]
theorem tradesIn_all (trades : List SettledTrade) : tradesIn none none trades = trades := by
  simp [tradesIn, inPeriod]

theorem settledTrades_filter (sinceJst untilJst : Option TradingDay)
    (records : List JournalRecord) :
    settledTrades (records.filter fun record =>
        inPeriod sinceJst untilJst record.recordedAtJst) =
      tradesIn sinceJst untilJst (settledTrades records) := by
  induction records with
  | nil => rfl
  | cons record records ih =>
      unfold settledTrades tradesIn at ih ⊢
      rcases record with ⟨recordedAt, event⟩
      by_cases hin : inPeriod sinceJst untilJst recordedAt = true <;> cases event <;>
        simp [List.filterMap_cons, JournalRecord.settled?, hin, ih]

theorem counts_foldl (records : List JournalRecord) (counts : PeriodCounts) :
    let final := records.foldl PeriodCounts.add counts
    final.settleCount = counts.settleCount + (settledTrades records).length ∧
      final.wins + final.losses + final.flats =
        counts.wins + counts.losses + counts.flats + (settledTrades records).length ∧
      final.netTotal =
        counts.netTotal + ((settledTrades records).map SettledTrade.paperOutcomeJpy).sum := by
  induction records generalizing counts with
  | nil => simp
  | cons record records ih =>
      obtain ⟨hsettle, hlabels, hnet⟩ := ih (counts.add record)
      rcases record with ⟨recordedAt, event⟩
      simp only [List.foldl_cons]
      rw [hsettle, hlabels, hnet]
      cases event with
      | paperPositionSettled exitRoute outcome stopState closed entry =>
          have hcons : settledTrades
              (⟨recordedAt, .paperPositionSettled exitRoute outcome stopState closed entry⟩ ::
                records) = ⟨entry, outcome, recordedAt⟩ :: settledTrades records := rfl
          rw [hcons]
          simp only [PeriodCounts.add, List.length_cons, List.map_cons, List.sum_cons]
          split_ifs <;> refine ⟨?_, ?_, ?_⟩ <;> simp only [] <;> omega
      | stage1EntryEvalSkipped reason => exact ⟨rfl, rfl, rfl⟩
      | stage1BlockedPreTrade reasons => exact ⟨rfl, rfl, rfl⟩
      | paperEntryOpened direction reason pUp => exact ⟨rfl, rfl, rfl⟩
      | stage1NoEntry reason pUp => exact ⟨rfl, rfl, rfl⟩
      | disciplineViolation => exact ⟨rfl, rfl, rfl⟩

theorem report_counts {journal : Option (List JournalRecord)}
    {sinceJst untilJst : Option TradingDay} {summary : H11Stage1SafeAggregate}
    (h : summarizeH11Stage1Journal journal sinceJst untilJst = .ok summary) :
    summary.settleCount =
        (tradesIn sinceJst untilJst (settledTrades (journal.getD []))).length ∧
      summary.periodNetResult =
        netResult (tradesIn sinceJst untilJst (settledTrades (journal.getD []))) := by
  unfold summarizeH11Stage1Journal at h
  by_cases hperiod : periodInvalid sinceJst untilJst = true
  · rw [if_pos hperiod] at h
    cases h
  rw [if_neg hperiod] at h
  dsimp only at h
  by_cases hempty : journal.getD [] = []
  · rw [if_pos hempty] at h
    cases Except.ok.inj h
    simp [hempty, netResult, netResultOf]
  rw [if_neg hempty] at h
  rw [← settledTrades_filter]
  split at h
  next hnone =>
    cases Except.ok.inj h
    rw [hnone]
    simp [netResult, netResultOf]
  next =>
    cases Except.ok.inj h
    obtain ⟨hsettle, hlabels, hnet⟩ := counts_foldl
      ((journal.getD []).filter fun record =>
        inPeriod sinceJst untilJst record.recordedAtJst) {}
    simp only [hsettle, hlabels, hnet, netResult]
    simp

theorem summarize_all (journal : Option (List JournalRecord)) :
    ∃ summary, summarizeH11Stage1Journal journal none none = .ok summary := by
  unfold summarizeH11Stage1Journal
  simp only [periodInvalid, Bool.false_eq_true, if_false]
  split_ifs <;> exact ⟨_, rfl⟩

end FxStrategyLab.Stage1
