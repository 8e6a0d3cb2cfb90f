import FxStrategyLab.Manual.Ledger
import FxStrategyLab.Library.Rounding
import FxStrategyLab.Library.Series

/-!
# Quick starts of exit plans

A quick start opens an exit plan from the latest public quote and then, in a second
transaction, marks it as quickly started, adds its broker link and records the action of its
forecast.  A forecast has one action only, so the last insert of a second quick start of one
forecast is ignored; the call then raises although the plan, the mark and the link are in the
ledger.

**Results.** `quickPrices_ordered` for the preset, `accepted_iff` for the checks of a call,
`quickStartExitPlan_of_not_startable` and `quickStartExitPlan_of_startable` for what it
writes, and `all_or_nothing_iff`.
-/

namespace FxStrategyLab.Manual

open Library (Table)
open Library.Rounding (round round_near)
open Library.Series (bind_eq_ok)

def quickExitStopPips : ℚ := 15

def quickExitTakePips : ℚ := 45 / 2

def quickExitMaxQuoteAgeSeconds : Int := 15

def jpyPipSize : ℚ := 1 / 100

/-- Raise a `ValueError` unless the condition holds. -/
def require (c : Prop) [Decidable c] (message : String) : Except ValueError Unit :=
  if c then .ok () else .error ⟨message⟩

structure PlanPrices where
  entryPrice : ℚ
  stopLossPrice : ℚ
  takeProfitPrice : ℚ

namespace PlanPrices

def Positive (prices : PlanPrices) : Prop :=
  0 < prices.entryPrice ∧ 0 < prices.stopLossPrice ∧ 0 < prices.takeProfitPrice
deriving Decidable

/-- The entry lies between the stop and the target of its direction. -/
def Ordered (prices : PlanPrices) (direction : Direction) : Prop :=
  (direction = .buy →
      prices.stopLossPrice < prices.entryPrice ∧ prices.entryPrice < prices.takeProfitPrice) ∧
    (direction = .sell →
      prices.takeProfitPrice < prices.entryPrice ∧ prices.entryPrice < prices.stopLossPrice)

end PlanPrices

/-- The time a forecast is about, as `open_exit_plan` takes it. -/
def targetTime (forecast : Forecast) (horizon : Horizon) : Instant :=
  forecast.originTimeUtc + wallMinutes horizon.bars

def exitPlanRequest (forecast : Forecast) (forecastId : String) (horizon : Horizon)
    (direction : Direction) (prices : PlanPrices) (now : Instant) : PlanRequest where
  forecastId := forecastId
  horizon := horizon
  direction := direction
  signalOriginUtc := forecast.originTimeUtc
  targetTimeUtc := targetTime forecast horizon
  entryPrice := prices.entryPrice
  stopLossPrice := prices.stopLossPrice
  takeProfitPrice := prices.takeProfitPrice
  openedAt := now

/-- Source `open_exit_plan`, up to the view of the open plans that it returns. -/
def openExitPlan (ledger : SignalLedger) (forecastId : String) (horizon : Horizon)
    (direction : Direction) (prices : PlanPrices) (now : Instant) :
    Except ValueError OpenedPlan := do
  require (horizon = .minutes10 ∨ horizon = .minutes30)
    "24h is context only and cannot own a short-term exit plan"
  require (direction = .buy ∨ direction = .sell)
    "manual trade direction must be explicitly buy or sell"
  require prices.Positive "manual trade prices must be positive"
  require (direction = .buy →
      prices.stopLossPrice < prices.entryPrice ∧ prices.entryPrice < prices.takeProfitPrice)
    "buy plan requires stop < entry < take profit"
  require (direction = .sell →
      prices.takeProfitPrice < prices.entryPrice ∧ prices.entryPrice < prices.stopLossPrice)
    "sell plan requires take profit < entry < stop"
  match ledger.forecast forecastId with
  | none => .error ⟨"formal forecast does not match the selected horizon"⟩
  | some forecast =>
      require (forecast.horizon = horizon) "formal forecast does not match the selected horizon"
      require (forecast.recordedMode = .prospective)
        "replayed forecast cannot own a manual exit plan"
      require (now < targetTime forecast horizon)
        "formal forecast target time has already passed"
      ledger.openManualTradePlan (exitPlanRequest forecast forecastId horizon direction prices now)

structure QuickStartCall where
  forecastId : String
  horizon : Horizon
  direction : Direction
  now : Instant

/-- A time lies between five seconds ahead of the clock and the largest age of a quote. -/
def FreshTime (now time : Instant) : Prop :=
  wallSeconds (-5) ≤ now - time ∧ now - time ≤ wallSeconds quickExitMaxQuoteAgeSeconds
deriving Decidable

/-- The fixed preset around a quote. -/
def quickPrices (direction : Direction) (tick : RealtimeTick) : PlanPrices :=
  let entryPrice := if direction = .buy then tick.ask else tick.bid
  let sign : ℚ := if direction = .buy then 1 else -1
  { entryPrice := entryPrice
    stopLossPrice := round (entryPrice - sign * quickExitStopPips * jpyPipSize) 6
    takeProfitPrice := round (entryPrice + sign * quickExitTakePips * jpyPipSize) 6 }

/-- The checks of `quick_start_exit_plan` and the preset prices. -/
def quickStartPrices (ledger : SignalLedger) (call : QuickStartCall) :
    Except ValueError PlanPrices := do
  match ledger.forecast call.forecastId with
  | none => .error ⟨"formal forecast does not match the selected horizon"⟩
  | some forecast =>
      require (forecast.horizon = call.horizon)
        "formal forecast does not match the selected horizon"
      require (call.horizon = .minutes10 ∨ call.horizon = .minutes30)
        "quick exit start supports only 10m and 30m"
      require (call.direction = .buy ∨ call.direction = .sell)
        "quick exit start requires a buy or sell signal"
      require (forecast.direction = call.direction)
        "quick exit direction must match the formal forecast"
      match ledger.latestRealtimeTick with
      | none => .error ⟨"fresh Public quote is unavailable"⟩
      | some tick =>
          require (FreshTime call.now tick.sampleTimeUtc ∧ FreshTime call.now tick.marketTimeUtc)
            "fresh Public quote is older than 15 seconds"
          pure (quickPrices call.direction tick)

/-- Both sets of checks and the first transaction. -/
def quickStartPlan (ledger : SignalLedger) (call : QuickStartCall) :
    Except ValueError (PlanPrices × OpenedPlan) := do
  let prices ← quickStartPrices ledger call
  let opened ← openExitPlan ledger call.forecastId call.horizon call.direction prices call.now
  pure (prices, opened)

/-- Source `quick_start_exit_plan`: the ledger that is left, and the new plan or the
exception. -/
def quickStartExitPlan (ledger : SignalLedger) (call : QuickStartCall) :
    SignalLedger × Except ValueError Nat :=
  match quickStartPlan ledger call with
  | .error e => (ledger, .error e)
  | .ok (prices, opened) =>
      let marked := opened.recordManualTradeQuickStart call.forecastId call.horizon
        prices.entryPrice call.now
      if marked.2 then (marked.1, .ok opened.planId)
      else (marked.1, .error ⟨"quick-start audit marker could not be recorded"⟩)

section Preset

variable (direction : Direction) (tick : RealtimeTick)

theorem quickPrices_ordered : (quickPrices direction tick).Ordered direction := by
  constructor
  · rintro rfl
    have hstop := abs_le.mp (round_near (tick.ask - 1 * quickExitStopPips * jpyPipSize) 6)
    have htake := abs_le.mp (round_near (tick.ask + 1 * quickExitTakePips * jpyPipSize) 6)
    simp only [quickExitStopPips, quickExitTakePips, jpyPipSize] at hstop htake
    simp only [quickPrices, quickExitStopPips, quickExitTakePips, jpyPipSize, if_true]
    constructor
    · linarith [hstop.2]
    · linarith [htake.1]
  · rintro rfl
    have hstop := abs_le.mp (round_near (tick.bid - -1 * quickExitStopPips * jpyPipSize) 6)
    have htake := abs_le.mp (round_near (tick.bid + -1 * quickExitTakePips * jpyPipSize) 6)
    simp only [quickExitStopPips, quickExitTakePips, jpyPipSize] at hstop htake
    simp only [quickPrices, quickExitStopPips, quickExitTakePips, jpyPipSize, reduceCtorEq,
      if_false]
    constructor
    · linarith [htake.2]
    · linarith [hstop.1]

end Preset

section Checks

theorem require_bind_eq_ok {α : Type} {c : Prop} [Decidable c] {message : String}
    {f : Unit → Except ValueError α} {a : α} :
    (require c message >>= f) = .ok a ↔ c ∧ f () = .ok a := by
  unfold require
  by_cases hc : c
  · simp [hc, bind, Except.bind]
  · simp [hc, bind, Except.bind]

variable {ledger : SignalLedger} {call : QuickStartCall}

/-- What a call must find to open a plan: its forecast, made ahead of a target time that has
not come, in the direction of the call; a fresh quote with a preset of positive prices; and no
open plan of the horizon. -/
structure Startable (ledger : SignalLedger) (call : QuickStartCall) (forecast : Forecast)
    (tick : RealtimeTick) : Prop where
  found : ledger.forecast call.forecastId = some forecast
  horizon : forecast.horizon = call.horizon
  short : call.horizon = .minutes10 ∨ call.horizon = .minutes30
  side : call.direction = .buy ∨ call.direction = .sell
  direction : forecast.direction = call.direction
  quoted : ledger.latestRealtimeTick = some tick
  freshSample : FreshTime call.now tick.sampleTimeUtc
  freshMarket : FreshTime call.now tick.marketTimeUtc
  positive : (quickPrices call.direction tick).Positive
  prospective : forecast.recordedMode = .prospective
  ahead : call.now < targetTime forecast call.horizon
  free : ¬ ledger.HasOpenPlan call.horizon

def CanStart (ledger : SignalLedger) (call : QuickStartCall) : Prop :=
  ∃ forecast tick, Startable ledger call forecast tick

variable {prices : PlanPrices}

theorem quickStartPrices_eq_ok :
    quickStartPrices ledger call = .ok prices ↔
      ∃ forecast tick, ledger.forecast call.forecastId = some forecast ∧
        forecast.horizon = call.horizon ∧
        (call.horizon = .minutes10 ∨ call.horizon = .minutes30) ∧
        (call.direction = .buy ∨ call.direction = .sell) ∧
        forecast.direction = call.direction ∧
        ledger.latestRealtimeTick = some tick ∧
        (FreshTime call.now tick.sampleTimeUtc ∧ FreshTime call.now tick.marketTimeUtc) ∧
        quickPrices call.direction tick = prices := by
  unfold quickStartPrices
  rcases ledger.forecast call.forecastId with _ | forecast
  · simp
  · dsimp only
    rcases ledger.latestRealtimeTick with _ | tick
    · simp [require_bind_eq_ok]
    · simp [require_bind_eq_ok, pure, Except.pure]

theorem openExitPlan_eq_ok {forecastId : String} {horizon : Horizon} {direction : Direction}
    {now : Instant} {opened : OpenedPlan} :
    openExitPlan ledger forecastId horizon direction prices now = .ok opened ↔
      ∃ forecast, ledger.forecast forecastId = some forecast ∧
        (horizon = .minutes10 ∨ horizon = .minutes30) ∧
        (direction = .buy ∨ direction = .sell) ∧ prices.Positive ∧ prices.Ordered direction ∧
        forecast.horizon = horizon ∧ forecast.recordedMode = .prospective ∧
        now < targetTime forecast horizon ∧
        ledger.openManualTradePlan
          (exitPlanRequest forecast forecastId horizon direction prices now) = .ok opened := by
  unfold openExitPlan
  simp only [require_bind_eq_ok]
  rcases ledger.forecast forecastId with _ | forecast
  · simp
  · simp [require_bind_eq_ok, PlanPrices.Ordered, and_assoc]

theorem quickStartPlan_eq_ok {opened : OpenedPlan}
    (h : quickStartPlan ledger call = .ok (prices, opened)) :
    CanStart ledger call ∧ prices.Positive ∧ opened.planId = ledger.planCounter + 1 ∧
      (∃ plan : ManualTradePlan, opened.ledger.plans.rows = ledger.plans.rows ++ [plan] ∧
        plan.planId = opened.planId ∧ plan.forecastId = call.forecastId ∧
        plan.horizon = call.horizon) ∧
      opened.ledger.signalActions = ledger.signalActions ∧
      opened.ledger.quickStarts = ledger.quickStarts ∧ opened.ledger.links = ledger.links := by
  obtain ⟨found, hprices, h⟩ := bind_eq_ok h
  obtain ⟨plan, hplan, h⟩ := bind_eq_ok h
  cases h
  obtain ⟨forecast, tick, hfound, hhorizon, hshort, hside, hdirection, htick, hfresh, rfl⟩ :=
    quickStartPrices_eq_ok.mp hprices
  obtain ⟨forecast', hfound', -, -, hpositive, -, -, hprospective, hahead, hopened⟩ :=
    openExitPlan_eq_ok.mp hplan
  obtain rfl : forecast = forecast' := Option.some.inj (hfound.symm.trans hfound')
  obtain ⟨hid, hrows, hactions, hstarts, hlinks, -, hfree⟩ :=
    SignalLedger.openManualTradePlan_eq_ok hopened
  exact ⟨⟨forecast, tick, hfound, hhorizon, hshort, hside, hdirection, htick, hfresh.1,
      hfresh.2, hpositive, hprospective, hahead, hfree⟩, hpositive, hid,
    ⟨_, hrows, rfl, rfl, rfl⟩, hactions, hstarts, hlinks⟩

theorem accepted_iff :
    (∃ prices opened, quickStartPlan ledger call = .ok (prices, opened)) ↔
      CanStart ledger call := by
  constructor
  · rintro ⟨prices, opened, h⟩
    exact (quickStartPlan_eq_ok h).1
  · rintro ⟨forecast, tick, h⟩
    have hprices : quickStartPrices ledger call = .ok (quickPrices call.direction tick) :=
      quickStartPrices_eq_ok.mpr ⟨forecast, tick, h.found, h.horizon, h.short, h.side,
        h.direction, h.quoted, ⟨h.freshSample, h.freshMarket⟩, rfl⟩
    have hshort : call.horizon ≠ .hours24 := by
      rcases h.short with hh | hh <;> simp [hh]
    obtain ⟨opened, hopened⟩ := @SignalLedger.openManualTradePlan_total ledger
      (exitPlanRequest forecast call.forecastId call.horizon call.direction
        (quickPrices call.direction tick) call.now) ⟨hshort, h.side, h.positive⟩ h.free
    have hplan : openExitPlan ledger call.forecastId call.horizon call.direction
        (quickPrices call.direction tick) call.now = .ok opened :=
      openExitPlan_eq_ok.mpr ⟨forecast, h.found, h.short, h.side, h.positive,
        quickPrices_ordered call.direction tick, h.horizon, h.prospective, h.ahead, hopened⟩
    refine ⟨quickPrices call.direction tick, opened, ?_⟩
    unfold quickStartPlan
    rw [hprices]
    simp [hplan, bind, Except.bind, pure, Except.pure]

end Checks

def NothingAdded (before after : SignalLedger) : Prop :=
  after.plans.rows = before.plans.rows ∧ after.quickStarts.rows = before.quickStarts.rows ∧
    after.links.rows = before.links.rows ∧ after.signalActions.rows = before.signalActions.rows

/-- One plan, one mark, one link and one action were added, all for the forecast and the
horizon of the call. -/
def OneOfEachAdded (call : QuickStartCall) (before after : SignalLedger) : Prop :=
  ∃ (plan : ManualTradePlan) (start : QuickStart) (link : PlanLink) (action : SignalActionRow),
    after.plans.rows = before.plans.rows ++ [plan] ∧
      after.quickStarts.rows = before.quickStarts.rows ++ [start] ∧
      after.links.rows = before.links.rows ++ [link] ∧
      after.signalActions.rows = before.signalActions.rows ++ [action] ∧
      plan.forecastId = call.forecastId ∧ plan.horizon = call.horizon ∧
      start.planId = plan.planId ∧ link.planId = plan.planId ∧
      action.forecastId = call.forecastId ∧ action.horizon = call.horizon ∧
      action.action = .tradeStarted

/-- A call that raises adds nothing, and one that returns adds one of each. -/
def AllOrNothing (ledger : SignalLedger) (call : QuickStartCall) : Prop :=
  match quickStartExitPlan ledger call with
  | (after, .error _) => NothingAdded ledger after
  | (after, .ok _) => OneOfEachAdded call ledger after

section Calls

variable {ledger : SignalLedger} {call : QuickStartCall}

theorem quickStartExitPlan_of_not_startable (h : ¬ CanStart ledger call) :
    ∃ e, quickStartExitPlan ledger call = (ledger, .error e) := by
  unfold quickStartExitPlan
  rcases hplan : quickStartPlan ledger call with e | ⟨prices, opened⟩
  · exact ⟨e, rfl⟩
  · exact absurd (accepted_iff.mp ⟨prices, opened, hplan⟩) h

/-- A call that can start adds a plan, its mark and its link, and returns if the forecast had
no action. -/
theorem quickStartExitPlan_of_startable (h : CanStart ledger call) :
    ∃ after result plan start link, quickStartExitPlan ledger call = (after, result) ∧
      after.plans.rows = ledger.plans.rows ++ [plan] ∧
      after.quickStarts.rows = ledger.quickStarts.rows ++ [start] ∧
      after.links.rows = ledger.links.rows ++ [link] ∧
      plan.forecastId = call.forecastId ∧ plan.horizon = call.horizon ∧
      start.planId = plan.planId ∧ link.planId = plan.planId ∧
      (ledger.HasSignalAction call.forecastId → ∃ e, result = .error e) ∧
      (¬ ledger.HasSignalAction call.forecastId → result = .ok plan.planId ∧
        after.signalActions.rows = ledger.signalActions.rows ++
          [⟨call.forecastId, call.horizon, .tradeStarted, wholeSeconds call.now⟩]) := by
  obtain ⟨prices, opened, hplan⟩ := accepted_iff.mpr h
  obtain ⟨-, hpositive, hid, ⟨plan, hrows, hplanId, hforecast, hhorizon⟩, hactions, hstarts,
    hlinks⟩ := quickStartPlan_eq_ok hplan
  have hshort : call.horizon ≠ .hours24 := by
    obtain ⟨forecast, tick, hs⟩ := h
    rcases hs.short with hh | hh <;> simp [hh]
  -- the identifier is beyond the counter, so no mark and no link has it
  have hnewStart : ∀ start ∈ opened.ledger.quickStarts.rows, start.planId ≠ opened.planId := by
    intro start hstart
    rw [hstarts] at hstart
    have hcounted := ledger.quickStarts_refer start hstart
    omega
  have hnewLink : ∀ link ∈ opened.ledger.links.rows, link.planId ≠ opened.planId := by
    intro link hlink
    rw [hlinks] at hlink
    have hcounted := ledger.links_refer link hlink
    omega
  obtain ⟨hplans, hmarks, hlinked, hreturned, hadded⟩ :=
    OpenedPlan.recordManualTradeQuickStart_of_new call.forecastId call.now
      hpositive.1 hshort hnewStart hnewLink
  have haction : opened.ledger.HasSignalAction call.forecastId ↔
      ledger.HasSignalAction call.forecastId := by
    unfold SignalLedger.HasSignalAction
    rw [hactions]
  rw [haction] at hreturned
  rw [hstarts] at hmarks
  rw [hlinks] at hlinked
  rw [hactions] at hadded
  set marked := opened.recordManualTradeQuickStart call.forecastId call.horizon
    prices.entryPrice call.now with hmarked
  have hrun : quickStartExitPlan ledger call =
      if marked.2 then (marked.1, .ok opened.planId)
      else (marked.1, .error ⟨"quick-start audit marker could not be recorded"⟩) := by
    unfold quickStartExitPlan
    rw [hplan]
  by_cases hhas : ledger.HasSignalAction call.forecastId
  · have hignored : marked.2 = false := by
      simpa [hhas] using hreturned
    rw [hignored] at hrun
    exact ⟨_, _, plan, _, _, hrun, (congrArg _ hplans).trans hrows, hmarks, hlinked, hforecast,
      hhorizon, hplanId.symm, hplanId.symm, fun _ => ⟨_, rfl⟩, fun hnone => absurd hhas hnone⟩
  · have hrecorded : marked.2 = true := hreturned.mpr hhas
    rw [hrecorded] at hrun
    exact ⟨_, _, plan, _, _, hrun, (congrArg _ hplans).trans hrows, hmarks, hlinked, hforecast,
      hhorizon, hplanId.symm, hplanId.symm, fun hsome => absurd hsome hhas,
      fun _ => ⟨congrArg _ hplanId.symm, hadded hrecorded⟩⟩

end Calls

/-- **A quick start is all or nothing unless its forecast, which it could still be started
for, already has an action.** -/
theorem all_or_nothing_iff (ledger : SignalLedger) (call : QuickStartCall) :
    AllOrNothing ledger call ↔
      (CanStart ledger call → ¬ ledger.HasSignalAction call.forecastId) := by
  unfold AllOrNothing
  by_cases hstart : CanStart ledger call
  · obtain ⟨after, result, plan, start, link, hrun, hplans, hstarts, hlinks, hforecast,
      hhorizon, hstartId, hlinkId, hraises, hreturns⟩ := quickStartExitPlan_of_startable hstart
    rw [hrun]
    by_cases hhas : ledger.HasSignalAction call.forecastId
    · obtain ⟨e, rfl⟩ := hraises hhas
      constructor
      · intro hnothing
        have hsame := hplans.symm.trans hnothing.1
        simp at hsame
      · intro hnone
        exact absurd hhas (hnone hstart)
    · obtain ⟨rfl, hactions⟩ := hreturns hhas
      refine iff_of_true ?_ (fun _ => hhas)
      exact ⟨plan, start, link, _, hplans, hstarts, hlinks, hactions, hforecast, hhorizon,
        hstartId, hlinkId, rfl, rfl, rfl⟩
  · obtain ⟨e, hrun⟩ := quickStartExitPlan_of_not_startable hstart
    rw [hrun]
    exact iff_of_true ⟨rfl, rfl, rfl, rfl⟩ (fun h => absurd h hstart)

namespace Sample

def forecast : Forecast where
  forecastId := "forecast_a"
  horizon := .minutes10
  originTimeUtc := 0
  pUp := 3 / 5
  direction := .buy
  modelConfigHash := "hash"
  recordedMode := .prospective

def closedPlan : ManualTradePlan where
  planId := 1
  forecastId := "forecast_a"
  horizon := .minutes10
  direction := .buy
  signalOriginUtc := 0
  targetTimeUtc := wallSeconds 600
  entryTimeUtc := wallSeconds 60
  entryPrice := 150
  stopLossPrice := 29970 / 200
  takeProfitPrice := 30045 / 200
  status := .closed
  exitTimeUtc := some (wallSeconds 120)
  exitPrice := some 150
  exitReason := some .manual

/-- The ledger after the first plan of the forecast was quickly started and closed. -/
def ledger : SignalLedger where
  forecasts := ⟨[forecast], by simp⟩
  resolutions := Table.empty
  signalActions := ⟨[⟨"forecast_a", .minutes10, .tradeStarted, wallSeconds 60⟩], by simp⟩
  realtimeTicks := ⟨[⟨wallSeconds 300, wallSeconds 300, 150, 30001 / 200, by norm_num,
    by norm_num⟩], by simp⟩
  plans := ⟨[closedPlan], by simp⟩
  planCounter := 1
  quickStarts := ⟨[⟨1, 150, wallSeconds 60⟩], by simp⟩
  links := ⟨[{ planId := 1, syncState := .waitingForOpen, updatedAtUtc := wallSeconds 60 }],
    by simp⟩
  plans_counted := by simp [closedPlan]
  quickStarts_refer := by simp
  links_refer := by simp

def call : QuickStartCall where
  forecastId := "forecast_a"
  horizon := .minutes10
  direction := .buy
  now := wallSeconds 302

end Sample

/-- The second call for the forecast raises, and leaves an open plan. -/
theorem second_start_leaves_plan : ¬ AllOrNothing Sample.ledger Sample.call := by
  have hraised : (quickStartExitPlan Sample.ledger Sample.call).2 =
      .error ⟨"quick-start audit marker could not be recorded"⟩ := by
    decide +kernel
  have hplans : (quickStartExitPlan Sample.ledger Sample.call).1.plans.rows.length = 2 := by
    decide +kernel
  intro h
  unfold AllOrNothing at h
  rcases hrun : quickStartExitPlan Sample.ledger Sample.call with ⟨after, e | planId⟩
  · rw [hrun] at h hplans
    have hlength := congrArg List.length h.1
    rw [hplans] at hlength
    simp [Sample.ledger] at hlength
  · rw [hrun] at hraised
    cases hraised

end FxStrategyLab.Manual
