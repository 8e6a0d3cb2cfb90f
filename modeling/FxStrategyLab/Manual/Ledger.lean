import FxStrategyLab.Contracts
import FxStrategyLab.Library.Table

/-!
# The ledger of the manual signal screen

The tables of `SignalLedger` that the formal signals and the exit plans use, with the
constraints of their columns as the keys of the tables and the fields of the rows.  A plan
identifier is drawn from a counter that never goes back, so a new plan has none of the rows
that refer to an earlier one.

**Results.** `openManualTradePlan_eq_ok`, `openManualTradePlan_total` and
`recordManualTradeQuickStart_of_new` say what the two transactions of a quick start write.
-/

namespace FxStrategyLab.Manual

open Library (Table)

/-- The three horizons of the screen. -/
inductive Horizon
  | minutes10
  | minutes30
  | hours24
deriving DecidableEq

/-- The candles a horizon is counted in. -/
inductive Interval
  | m1
  | h1

namespace Horizon

def bars : Horizon → Nat
  | minutes10 => 10
  | minutes30 => 30
  | hours24 => 24

def interval : Horizon → Interval
  | hours24 => .h1
  | _ => .m1

end Horizon

def Interval.minutes : Interval → Int
  | .m1 => 1
  | .h1 => 60

def wallMinutes (n : Int) : Int :=
  wallSeconds (60 * n)

/-- A time as `isoformat(timespec="seconds")` writes it. -/
def wholeSeconds (time : Instant) : Instant :=
  wallSeconds (time / wallSeconds 1)

/-- The formal direction of a signal. -/
inductive Direction
  | buy
  | sell
  | noTrade
  | unknown
deriving DecidableEq

/-- Whether a forecast was recorded before its target time. -/
inductive RecordedMode
  | prospective
  | replayedAfterMaturity
deriving DecidableEq

inductive SignalAction
  | tradeStarted
  | noAction

inductive ManualExitReason
  | stopLoss
  | takeProfit
  | timeExit
  | manual
  | abnormal
  | brokerSync

inductive PlanStatus
  | opened
  | closed
deriving DecidableEq

inductive SyncState
  | waitingForOpen
  | ambiguousOpen
  | linked
  | partiallyClosed
  | recheckRequired
  | closed

/-- A `ValueError` of the service with its text. -/
structure ValueError where
  message : String
deriving DecidableEq

/-- Source `SignalView`, without the texts of the screen. -/
structure SignalView where
  horizon : Horizon
  direction : Direction
  pUp : Option ℚ
  originTimeUtc : Option Instant
  modelConfigHash : Option String
  forecastId : Option String
  recordedMode : Option RecordedMode

/-- A row of `forecasts`. -/
structure Forecast where
  forecastId : String
  horizon : Horizon
  originTimeUtc : Instant
  pUp : ℚ
  direction : Direction
  modelConfigHash : String
  recordedMode : RecordedMode
deriving DecidableEq

inductive ForecastKey
  | byId (forecastId : String)
  | byOrigin (horizon : Horizon) (originTimeUtc : Instant) (modelConfigHash : String)
deriving DecidableEq

def Forecast.idKey (forecast : Forecast) : ForecastKey :=
  .byId forecast.forecastId

def Forecast.originKey (forecast : Forecast) : ForecastKey :=
  .byOrigin forecast.horizon forecast.originTimeUtc forecast.modelConfigHash

/-- A row of `resolutions`. -/
structure Resolution where
  forecastId : String
  outcomeUp : Bool
  targetTimeUtc : Instant
  resolvedAtUtc : Instant
deriving DecidableEq

/-- A row of `signal_actions`. -/
structure SignalActionRow where
  forecastId : String
  horizon : Horizon
  action : SignalAction
  recordedAtUtc : Instant

/-- A row of `realtime_tick_samples`. -/
structure RealtimeTick where
  sampleTimeUtc : Instant
  marketTimeUtc : Instant
  bid : ℚ
  ask : ℚ
  bid_pos : 0 < bid
  bid_le_ask : bid ≤ ask

/-- A row of `manual_trade_plans`. -/
structure ManualTradePlan where
  planId : Nat
  forecastId : String
  horizon : Horizon
  direction : Direction
  signalOriginUtc : Instant
  targetTimeUtc : Instant
  entryTimeUtc : Instant
  entryPrice : ℚ
  stopLossPrice : ℚ
  takeProfitPrice : ℚ
  status : PlanStatus
  exitTimeUtc : Option Instant := none
  exitPrice : Option ℚ := none
  exitReason : Option ManualExitReason := none

/-- The keys of a plan: its identifier, and its horizon while it is open. -/
inductive PlanKey
  | byId (planId : Nat)
  | openOn (horizon : Horizon)
deriving DecidableEq

def ManualTradePlan.idKey (plan : ManualTradePlan) : PlanKey :=
  .byId plan.planId

/-- The index `one_open_manual_trade_plan_per_horizon`; a closed plan is not in it. -/
def ManualTradePlan.openKey (plan : ManualTradePlan) : PlanKey :=
  if plan.status = .opened then .openOn plan.horizon else .byId plan.planId

/-- The `CHECK` constraints of a plan. -/
def ManualTradePlan.Checked (plan : ManualTradePlan) : Prop :=
  plan.horizon ≠ .hours24 ∧ (plan.direction = .buy ∨ plan.direction = .sell) ∧
    0 < plan.entryPrice ∧ 0 < plan.stopLossPrice ∧ 0 < plan.takeProfitPrice

instance (plan : ManualTradePlan) : Decidable plan.Checked := by
  unfold ManualTradePlan.Checked
  infer_instance

/-- A row of `manual_trade_plan_quick_starts`. -/
structure QuickStart where
  planId : Nat
  referenceEntryPrice : ℚ
  startedAtUtc : Instant

/-- The execution a plan is linked to; its columns are written together. -/
structure LinkedExecution where
  positionRef : String
  executionRef : String
  entrySize : ℚ
  linkedAtUtc : Instant

/-- A row of `manual_broker_plan_links`. -/
structure PlanLink where
  planId : Nat
  linked : Option LinkedExecution := none
  closedSize : ℚ := 0
  closeValue : ℚ := 0
  remainingSize : Option ℚ := none
  syncState : SyncState
  updatedAtUtc : Instant

/-- The unique columns of a link; an absent reference is no key. -/
inductive LinkKey
  | byId (planId : Nat)
  | byPosition (positionRef : String)
  | byExecution (executionRef : String)
deriving DecidableEq

def PlanLink.idKey (link : PlanLink) : LinkKey :=
  .byId link.planId

def PlanLink.positionKey (link : PlanLink) : LinkKey :=
  match link.linked with
  | some execution => .byPosition execution.positionRef
  | none => .byId link.planId

def PlanLink.executionKey (link : PlanLink) : LinkKey :=
  match link.linked with
  | some execution => .byExecution execution.executionRef
  | none => .byId link.planId

/-- The signal ledger.  `planCounter` is the last plan identifier that was given out. -/
structure SignalLedger where
  forecasts : Table Forecast ForecastKey [Forecast.idKey, Forecast.originKey]
  resolutions : Table Resolution String [Resolution.forecastId]
  signalActions : Table SignalActionRow String [SignalActionRow.forecastId]
  realtimeTicks : Table RealtimeTick Instant [RealtimeTick.sampleTimeUtc]
  plans : Table ManualTradePlan PlanKey [ManualTradePlan.idKey, ManualTradePlan.openKey]
  planCounter : Nat
  quickStarts : Table QuickStart Nat [QuickStart.planId]
  links : Table PlanLink LinkKey [PlanLink.idKey, PlanLink.positionKey, PlanLink.executionKey]
  plans_counted : ∀ plan ∈ plans.rows, plan.planId ≤ planCounter
  quickStarts_refer : ∀ start ∈ quickStarts.rows, start.planId ≤ planCounter
  links_refer : ∀ link ∈ links.rows, link.planId ≤ planCounter

namespace SignalLedger

variable (ledger : SignalLedger)

def recordForecast (signal : SignalView) : SignalLedger :=
  match signal.forecastId, signal.pUp, signal.originTimeUtc, signal.modelConfigHash with
  | some forecastId, some pUp, some originTimeUtc, some modelConfigHash =>
      if 0 ≤ pUp ∧ pUp ≤ 1 then
        { ledger with
          forecasts := ledger.forecasts.insertOrIgnore
            { forecastId := forecastId
              horizon := signal.horizon
              originTimeUtc := originTimeUtc
              pUp := pUp
              direction := signal.direction
              modelConfigHash := modelConfigHash
              recordedMode := signal.recordedMode.getD .prospective } }
      else ledger
  | _, _, _, _ => ledger

def resolve (forecastId : String) (outcomeUp : Bool) (targetTimeUtc resolvedAt : Instant) :
    SignalLedger :=
  { ledger with
    resolutions := ledger.resolutions.insertOrIgnore
      { forecastId := forecastId
        outcomeUp := outcomeUp
        targetTimeUtc := targetTimeUtc
        resolvedAtUtc := wholeSeconds resolvedAt } }

def unresolved : List Forecast :=
  (ledger.forecasts.rows.filter fun forecast =>
      ledger.resolutions.rows.all fun resolution =>
        resolution.forecastId != forecast.forecastId).insertionSort
    fun earlier later => earlier.originTimeUtc ≤ later.originTimeUtc

def forecast (forecastId : String) : Option Forecast :=
  ledger.forecasts.rows.find? fun forecast => forecast.idKey = .byId forecastId

/-- The forecast has a row in `signal_actions`. -/
def HasSignalAction (forecastId : String) : Prop :=
  ∃ action ∈ ledger.signalActions.rows, action.forecastId = forecastId
deriving Decidable

/-- The forecasts that `record_due_no_actions` finds expired without an action. -/
def dueForNoAction (now : Instant) : List Forecast :=
  (ledger.forecasts.rows.filter fun forecast =>
      forecast.recordedMode = .prospective ∧ forecast.horizon ≠ .hours24 ∧
        ¬ ledger.HasSignalAction forecast.forecastId ∧
        forecast.originTimeUtc + wallMinutes forecast.horizon.bars ≤ now).insertionSort
    fun earlier later => earlier.originTimeUtc ≤ later.originTimeUtc

def recordDueNoActions (now : Instant) : SignalLedger :=
  { ledger with
    signalActions := (ledger.dueForNoAction now).foldl
      (fun actions forecast => actions.insertOrIgnore
        { forecastId := forecast.forecastId
          horizon := forecast.horizon
          action := .noAction
          recordedAtUtc := wholeSeconds now })
      ledger.signalActions }

def latestRealtimeTick : Option RealtimeTick :=
  ledger.realtimeTicks.rows.argmax RealtimeTick.sampleTimeUtc

def HasOpenPlan (horizon : Horizon) : Prop :=
  ∃ plan ∈ ledger.plans.rows, plan.status = .opened ∧ plan.horizon = horizon
deriving Decidable

end SignalLedger

/-- A ledger with the identifier of a plan it gave out. -/
structure OpenedPlan where
  ledger : SignalLedger
  planId : Nat
  counted : planId ≤ ledger.planCounter

/-- The values of an `INSERT` into `manual_trade_plans`. -/
structure PlanRequest where
  forecastId : String
  horizon : Horizon
  direction : Direction
  signalOriginUtc : Instant
  targetTimeUtc : Instant
  entryPrice : ℚ
  stopLossPrice : ℚ
  takeProfitPrice : ℚ
  openedAt : Instant

def PlanRequest.plan (request : PlanRequest) (planId : Nat) : ManualTradePlan where
  planId := planId
  forecastId := request.forecastId
  horizon := request.horizon
  direction := request.direction
  signalOriginUtc := request.signalOriginUtc
  targetTimeUtc := request.targetTimeUtc
  entryTimeUtc := wholeSeconds request.openedAt
  entryPrice := request.entryPrice
  stopLossPrice := request.stopLossPrice
  takeProfitPrice := request.takeProfitPrice
  status := .opened

namespace SignalLedger

variable (ledger : SignalLedger)

/-- Source `SignalLedger.open_manual_trade_plan`; every `IntegrityError` has one text. -/
def openManualTradePlan (request : PlanRequest) : Except ValueError OpenedPlan :=
  let plan := request.plan (ledger.planCounter + 1)
  if plan.Checked then
    match h : ledger.plans.insert? plan with
    | some plans =>
        .ok
          { ledger :=
              { ledger with
                plans := plans
                planCounter := plan.planId
                plans_counted := by
                  intro row hrow
                  rw [(Table.insert?_eq_some.mp h).2, List.mem_append] at hrow
                  rcases hrow with hrow | hrow
                  · exact (ledger.plans_counted row hrow).trans (Nat.le_succ _)
                  · rw [List.mem_singleton.mp hrow]
                quickStarts_refer := fun start hstart =>
                  (ledger.quickStarts_refer start hstart).trans (Nat.le_succ _)
                links_refer := fun link hlink =>
                  (ledger.links_refer link hlink).trans (Nat.le_succ _) }
            planId := plan.planId
            counted := le_rfl }
    | none => .error ⟨"an open manual trade plan already exists for this horizon"⟩
  else .error ⟨"an open manual trade plan already exists for this horizon"⟩

end SignalLedger

namespace OpenedPlan

variable (opened : OpenedPlan)

def quickStart (referenceEntryPrice : ℚ) (startedAt : Instant) : QuickStart where
  planId := opened.planId
  referenceEntryPrice := referenceEntryPrice
  startedAtUtc := startedAt

/-- The row that a broker execution may later be linked to. -/
def link (startedAt : Instant) : PlanLink where
  planId := opened.planId
  syncState := .waitingForOpen
  updatedAtUtc := startedAt

/-- Source `SignalLedger.record_manual_trade_quick_start`: the ledger that is committed, and
whether the last insert added a row. -/
def recordManualTradeQuickStart (forecastId : String) (horizon : Horizon)
    (referenceEntryPrice : ℚ) (startedAt : Instant) : SignalLedger × Bool :=
  let ledger := opened.ledger
  let now := wholeSeconds startedAt
  let start := opened.quickStart referenceEntryPrice now
  let action : SignalActionRow :=
    { forecastId := forecastId
      horizon := horizon
      action := .tradeStarted
      recordedAtUtc := now }
  if 0 < referenceEntryPrice ∧ ledger.quickStarts.Fresh start then
    ({ ledger with
        quickStarts := ledger.quickStarts.insertOrIgnore start
        links := ledger.links.insertOrIgnore (opened.link now)
        signalActions :=
          if horizon ≠ .hours24 then ledger.signalActions.insertOrIgnore action
          else ledger.signalActions
        quickStarts_refer := by
          intro row hrow
          rcases Table.mem_insertOrIgnore hrow with hrow | rfl
          · exact ledger.quickStarts_refer row hrow
          · exact opened.counted
        links_refer := by
          intro row hrow
          rcases Table.mem_insertOrIgnore hrow with hrow | rfl
          · exact ledger.links_refer row hrow
          · exact opened.counted },
      decide (horizon ≠ .hours24 ∧ ledger.signalActions.Fresh action))
  else (ledger, false)

end OpenedPlan

namespace SignalLedger

variable {ledger : SignalLedger}

theorem plan_fresh_iff (request : PlanRequest) :
    ledger.plans.Fresh (request.plan (ledger.planCounter + 1)) ↔
      ¬ ledger.HasOpenPlan request.horizon := by
  have hid : ∀ plan ∈ ledger.plans.rows, plan.planId ≠ ledger.planCounter + 1 := by
    intro plan hplan
    have hcounted := ledger.plans_counted plan hplan
    omega
  constructor
  · rintro hfresh ⟨plan, hplan, hopen, hhorizon⟩
    refine hfresh ManualTradePlan.openKey (by simp) (List.mem_map.mpr ⟨plan, hplan, ?_⟩)
    simp [ManualTradePlan.openKey, PlanRequest.plan, hopen, hhorizon]
  · intro hfree key hkey hmem
    obtain ⟨plan, hplan, hsame⟩ := List.mem_map.mp hmem
    rcases List.mem_pair.mp hkey with rfl | rfl
    · exact hid plan hplan (by simpa [ManualTradePlan.idKey, PlanRequest.plan] using hsame)
    · by_cases hopen : plan.status = .opened
      · refine hfree ⟨plan, hplan, hopen, ?_⟩
        simpa [ManualTradePlan.openKey, PlanRequest.plan, hopen] using hsame
      · simp [ManualTradePlan.openKey, PlanRequest.plan, hopen] at hsame

theorem openManualTradePlan_eq_ok {request : PlanRequest} {opened : OpenedPlan}
    (h : ledger.openManualTradePlan request = .ok opened) :
    opened.planId = ledger.planCounter + 1 ∧
      opened.ledger.plans.rows = ledger.plans.rows ++ [request.plan opened.planId] ∧
      opened.ledger.signalActions = ledger.signalActions ∧
      opened.ledger.quickStarts = ledger.quickStarts ∧
      opened.ledger.links = ledger.links ∧
      (request.plan 0).Checked ∧ ¬ ledger.HasOpenPlan request.horizon := by
  unfold openManualTradePlan at h
  dsimp only at h
  split_ifs at h with hchecked
  split at h
  case h_1 plans hinsert =>
    obtain ⟨hfresh, hrows⟩ := Table.insert?_eq_some.mp hinsert
    cases h
    exact ⟨rfl, hrows, rfl, rfl, rfl, hchecked, (plan_fresh_iff request).mp hfresh⟩
  case h_2 hinsert =>
    cases h

theorem openManualTradePlan_total {request : PlanRequest} (hchecked : (request.plan 0).Checked)
    (hfree : ¬ ledger.HasOpenPlan request.horizon) :
    ∃ opened, ledger.openManualTradePlan request = .ok opened := by
  have hchecked' : (request.plan (ledger.planCounter + 1)).Checked := hchecked
  have hfresh : ledger.plans.Fresh (request.plan (ledger.planCounter + 1)) :=
    (plan_fresh_iff request).mpr hfree
  unfold openManualTradePlan
  dsimp only
  rw [if_pos hchecked']
  split
  case h_1 => exact ⟨_, rfl⟩
  case h_2 hinsert =>
    have hsome := Table.insert?_isSome.mpr hfresh
    rw [hinsert] at hsome
    cases hsome

end SignalLedger

namespace OpenedPlan

variable {opened : OpenedPlan}

/-- The rows of a plan that no row refers to yet, in the order of the transaction. -/
theorem recordManualTradeQuickStart_of_new (forecastId : String) {horizon : Horizon}
    {referenceEntryPrice : ℚ} (startedAt : Instant) (hprice : 0 < referenceEntryPrice)
    (hshort : horizon ≠ .hours24)
    (hstarts : ∀ start ∈ opened.ledger.quickStarts.rows, start.planId ≠ opened.planId)
    (hlinks : ∀ link ∈ opened.ledger.links.rows, link.planId ≠ opened.planId) :
    let result := opened.recordManualTradeQuickStart forecastId horizon referenceEntryPrice
      startedAt
    result.1.plans = opened.ledger.plans ∧
      result.1.quickStarts.rows =
        opened.ledger.quickStarts.rows ++
          [opened.quickStart referenceEntryPrice (wholeSeconds startedAt)] ∧
      result.1.links.rows = opened.ledger.links.rows ++ [opened.link (wholeSeconds startedAt)] ∧
      (result.2 = true ↔ ¬ opened.ledger.HasSignalAction forecastId) ∧
      (result.2 = true → result.1.signalActions.rows = opened.ledger.signalActions.rows ++
        [⟨forecastId, horizon, .tradeStarted, wholeSeconds startedAt⟩]) := by
  have hstart : opened.ledger.quickStarts.Fresh
      (opened.quickStart referenceEntryPrice (wholeSeconds startedAt)) := by
    intro key hkey hmem
    obtain rfl := List.mem_singleton.mp hkey
    obtain ⟨start, hstart, hsame⟩ := List.mem_map.mp hmem
    exact hstarts start hstart hsame
  have hlink : opened.ledger.links.Fresh (opened.link (wholeSeconds startedAt)) := by
    intro key hkey hmem
    obtain ⟨link, hlink, hsame⟩ := List.mem_map.mp hmem
    have hne := hlinks link hlink
    fin_cases hkey
    · exact hne (by simpa [PlanLink.idKey, OpenedPlan.link] using hsame)
    · cases hlinked : link.linked <;>
        simp_all [PlanLink.positionKey, OpenedPlan.link]
    · cases hlinked : link.linked <;>
        simp_all [PlanLink.executionKey, OpenedPlan.link]
  have haction : opened.ledger.signalActions.Fresh
        ⟨forecastId, horizon, .tradeStarted, wholeSeconds startedAt⟩ ↔
      ¬ opened.ledger.HasSignalAction forecastId := by
    simp [Table.Fresh, SignalLedger.HasSignalAction]
  dsimp only
  unfold recordManualTradeQuickStart
  dsimp only
  rw [if_pos ⟨hprice, hstart⟩]
  refine ⟨rfl, ?_, ?_, ?_, ?_⟩
  · rw [Table.rows_insertOrIgnore, if_pos hstart]
  · rw [Table.rows_insertOrIgnore, if_pos hlink]
  · simp [hshort, haction]
  · intro hadded
    have hfresh := (of_decide_eq_true hadded).2
    rw [if_pos hshort, Table.rows_insertOrIgnore, if_pos hfresh]

end OpenedPlan

end FxStrategyLab.Manual
