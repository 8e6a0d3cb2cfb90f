import FxStrategyLab.Manual.Ledger
import FxStrategyLab.Library.Ranks

/-!
# Forecasts and their resolution

`ManualSignalService.current` makes one signal for each horizon from the last completed
candle, records the forecasts, and grades every recorded forecast whose later candles it has.
The one-minute candles come from a cache that is read again when the file has another
modification time; the frames, the file and the predictions of a call are its inputs.

**Results.** `gradeFrom_eq_some` for one grade, `resolveAvailable_resolutions` and
`resolveAvailable_graded` for one call.
-/

namespace FxStrategyLab.Manual

open Library (Table)
open Library.Ranks (Increasing)

/-- A row of a normalized frame: its opening time and its closing price. -/
structure CandleRow where
  timeUtc : Instant
  close : ℚ

/-- A normalized frame: one row a time, in order of time. -/
structure Frame where
  rows : List CandleRow
  increasing : Increasing CandleRow.timeUtc rows

namespace Frame

/-- Source `_empty_frame`. -/
def empty : Frame where
  rows := []
  increasing := List.Pairwise.nil

def completed (frame : Frame) (interval : Interval) (now : Instant) : Frame where
  rows := frame.rows.filter fun row => row.timeUtc + wallMinutes interval.minutes ≤ now
  increasing := frame.increasing.filter _

def lastTime (frame : Frame) : Option Instant :=
  frame.rows.getLast?.map CandleRow.timeUtc

end Frame

def mapProbability : Option ℚ → Direction
  | none => .unknown
  | some pUp =>
      if 29 / 50 ≤ pUp then .buy
      else if pUp ≤ 21 / 50 then .sell
      else .noTrade

def Horizon.duration (horizon : Horizon) : Int :=
  wallMinutes (horizon.bars * horizon.interval.minutes)

/-- What a model says about the last row of a frame. -/
structure Prediction where
  pUp : Option ℚ
  modelConfigHash : String

/-- The inputs of a call: the clock, the candle files, and what the models say about the last
completed candles, which is nothing when a model is blocked.  `reload` marks a call that reads
the cache anew, after a refresh or in a new process. -/
structure CurrentCall where
  now : Instant
  record : Bool
  reload : Bool
  m1File : Option (Nat × Frame)
  h1 : Frame
  prediction : Horizon → Option Prediction

/-- The ledger and the cached one-minute frame of a service. -/
structure ManualSignalService where
  ledger : SignalLedger
  m1Cache : Option Frame
  m1CacheMtime : Option Nat

section Signals

variable (forecastId : Horizon → Instant → String → String)

/-- Source `_blocked`. -/
def blockedSignal (horizon : Horizon) : SignalView where
  horizon := horizon
  direction := .unknown
  pUp := none
  originTimeUtc := none
  modelConfigHash := none
  forecastId := none
  recordedMode := none

/-- Source `_signal`. -/
def formalSignal (horizon : Horizon) (prediction : Prediction) (origin now : Instant) :
    SignalView where
  horizon := horizon
  direction := mapProbability prediction.pUp
  pUp := prediction.pUp
  originTimeUtc := some origin
  modelConfigHash := some prediction.modelConfigHash
  forecastId := some (forecastId horizon origin prediction.modelConfigHash)
  recordedMode :=
    some (if now - origin < horizon.duration then .prospective else .replayedAfterMaturity)

def shortSignal (horizon : Horizon) (frame : Frame) (call : CurrentCall) : SignalView :=
  match call.prediction horizon, frame.lastTime with
  | some prediction, some origin => formalSignal forecastId horizon prediction origin call.now
  | _, _ => blockedSignal horizon

def h11Signal (frame : Frame) (call : CurrentCall) : SignalView :=
  if frame.rows.length < 650 then blockedSignal .hours24
  else shortSignal forecastId .hours24 frame call

end Signals

/-- What is recorded of a graded forecast. -/
structure Grade where
  targetTimeUtc : Instant
  outcomeUp : Bool

/-- The loop body of `_resolve_available`: the row so many rows after the origin is the
target. -/
def gradeFrom (frame : Frame) (forecast : Forecast) : Option Grade := do
  let originRow ← frame.rows.findIdx? fun row => row.timeUtc = forecast.originTimeUtc
  let origin ← frame.rows[originRow]?
  let target ← frame.rows[originRow + forecast.horizon.bars]?
  if target.close = origin.close then none
  else some ⟨target.timeUtc, origin.close < target.close⟩

/-- One round of the loop. -/
def resolveForecast (frames : Interval → Frame) (now : Instant) (ledger : SignalLedger)
    (forecast : Forecast) : SignalLedger :=
  match gradeFrom (frames forecast.horizon.interval) forecast with
  | some grade => ledger.resolve forecast.forecastId grade.outcomeUp grade.targetTimeUtc now
  | none => ledger

def resolveAvailable (ledger : SignalLedger) (frames : Interval → Frame) (now : Instant) :
    SignalLedger :=
  ledger.unresolved.foldl (resolveForecast frames now) ledger

namespace ManualSignalService

variable (service : ManualSignalService)

/-- Source `_load_m1_cached`: the service with the frame of the call in its cache. -/
def loadM1Cached (call : CurrentCall) : ManualSignalService :=
  let mtime := call.m1File.map Prod.fst
  if call.reload ∨ service.m1Cache.isNone ∨ service.m1CacheMtime ≠ mtime then
    { service with
      m1Cache := some (((call.m1File.map Prod.snd).getD Frame.empty).completed .m1 call.now)
      m1CacheMtime := mtime }
  else service

def frames (call : CurrentCall) : Interval → Frame
  | .m1 => (service.loadM1Cached call).m1Cache.getD Frame.empty
  | .h1 => call.h1.completed .h1 call.now

variable (forecastId : Horizon → Instant → String → String)

def signals (call : CurrentCall) : List SignalView :=
  [shortSignal forecastId .minutes10 (service.frames call .m1) call,
    shortSignal forecastId .minutes30 (service.frames call .m1) call,
    h11Signal forecastId (service.frames call .h1) call]

/-- The ledger with the forecasts of a call and the actions that have come due. -/
def recorded (call : CurrentCall) : SignalLedger :=
  ((service.signals forecastId call).foldl SignalLedger.recordForecast
    service.ledger).recordDueNoActions call.now

def current (call : CurrentCall) : ManualSignalService :=
  let loaded := service.loadM1Cached call
  if call.record then
    { loaded with
      ledger := resolveAvailable (service.recorded forecastId call) (service.frames call)
        call.now }
  else loaded

/-- A service over an empty data root. -/
def fresh : ManualSignalService where
  ledger :=
    { forecasts := Table.empty
      resolutions := Table.empty
      signalActions := Table.empty
      realtimeTicks := Table.empty
      plans := Table.empty
      planCounter := 0
      quickStarts := Table.empty
      links := Table.empty
      plans_counted := by simp
      quickStarts_refer := by simp
      links_refer := by simp }
  m1Cache := none
  m1CacheMtime := none

end ManualSignalService

theorem gradeFrom_eq_some {frame : Frame} {forecast : Forecast} {grade : Grade} :
    gradeFrom frame forecast = some grade ↔
      ∃ i origin target, frame.rows[i]? = some origin ∧
        origin.timeUtc = forecast.originTimeUtc ∧
        frame.rows[i + forecast.horizon.bars]? = some target ∧ target.close ≠ origin.close ∧
        grade = ⟨target.timeUtc, origin.close < target.close⟩ := by
  unfold gradeFrom
  simp only [Option.bind_eq_bind, Option.bind_eq_some_iff, Option.ite_none_left_eq_some,
    Option.some.injEq]
  constructor
  · rintro ⟨i, hi, origin, horigin, target, htarget, hmoved, rfl⟩
    obtain ⟨hlt, htime, -⟩ := List.findIdx?_eq_some_iff_getElem.mp hi
    have hrow : frame.rows[i] = origin := by
      rw [List.getElem?_eq_getElem hlt] at horigin
      exact Option.some.inj horigin
    rw [hrow] at htime
    exact ⟨i, origin, target, horigin, of_decide_eq_true htime, htarget, hmoved, rfl⟩
  · rintro ⟨i, origin, target, horigin, htime, htarget, hmoved, rfl⟩
    refine ⟨i, ?_, origin, horigin, target, htarget, hmoved, rfl⟩
    obtain ⟨hlt, hrow⟩ := List.getElem?_eq_some_iff.mp horigin
    refine List.findIdx?_eq_some_iff_getElem.mpr ⟨hlt, by simp [hrow, htime], ?_⟩
    -- an earlier row has an earlier time
    intro j hj hsame
    have hbefore : frame.rows[j] ∈ frame.rows.take i :=
      List.mem_iff_getElem.mpr ⟨j, by simp [hj, hj.trans hlt], by simp⟩
    have hless := Library.Ranks.key_before frame.increasing horigin hbefore
    rw [of_decide_eq_true hsame, htime] at hless
    exact lt_irrefl _ hless

section Resolving

variable {frames : Interval → Frame} {now : Instant}

def SignalLedger.Resolved (ledger : SignalLedger) (forecastId : String) : Prop :=
  ∃ resolution ∈ ledger.resolutions.rows, resolution.forecastId = forecastId

variable {resolution : Resolution}

theorem resolve_keeps {ledger : SignalLedger} (forecastId : String) (outcomeUp : Bool)
    (target : Instant) (h : resolution ∈ ledger.resolutions.rows) :
    resolution ∈ (ledger.resolve forecastId outcomeUp target now).resolutions.rows := by
  unfold SignalLedger.resolve
  rw [Table.rows_insertOrIgnore]
  split
  · exact List.mem_append_left _ h
  · exact h

theorem resolve_resolved (ledger : SignalLedger) (forecastId : String) (outcomeUp : Bool)
    (target : Instant) : (ledger.resolve forecastId outcomeUp target now).Resolved forecastId := by
  unfold SignalLedger.Resolved SignalLedger.resolve
  rw [Table.rows_insertOrIgnore]
  split
  case isTrue => exact ⟨_, List.mem_append_right _ (List.mem_singleton.mpr rfl), rfl⟩
  case isFalse hused =>
    simp only [Table.Fresh, List.mem_singleton, forall_eq, not_not] at hused
    obtain ⟨resolution, hmem, hsame⟩ := List.mem_map.mp hused
    exact ⟨resolution, hmem, hsame⟩

@[simp]
theorem resolveForecast_forecasts (ledger : SignalLedger) (forecast : Forecast) :
    (resolveForecast frames now ledger forecast).forecasts = ledger.forecasts := by
  unfold resolveForecast
  split <;> rfl

theorem resolveForecast_keeps {ledger : SignalLedger} (forecast : Forecast)
    (h : resolution ∈ ledger.resolutions.rows) :
    resolution ∈ (resolveForecast frames now ledger forecast).resolutions.rows := by
  unfold resolveForecast
  split
  · exact resolve_keeps _ _ _ h
  · exact h

variable {forecast : Forecast} {grade : Grade}

theorem resolveForecast_resolved {ledger : SignalLedger}
    (h : gradeFrom (frames forecast.horizon.interval) forecast = some grade) :
    (resolveForecast frames now ledger forecast).Resolved forecast.forecastId := by
  unfold resolveForecast
  rw [h]
  exact resolve_resolved _ _ _ _

theorem resolveForecast_new {ledger : SignalLedger}
    (h : resolution ∈ (resolveForecast frames now ledger forecast).resolutions.rows) :
    resolution ∈ ledger.resolutions.rows ∨
      (resolution.forecastId = forecast.forecastId ∧
        gradeFrom (frames forecast.horizon.interval) forecast =
          some ⟨resolution.targetTimeUtc, resolution.outcomeUp⟩) := by
  unfold resolveForecast at h
  split at h
  case h_1 grade hgrade =>
    rcases Table.mem_insertOrIgnore h with h | rfl
    · exact Or.inl h
    · exact Or.inr ⟨rfl, hgrade⟩
  case h_2 => exact Or.inl h

theorem resolving_keeps (forecasts : List Forecast) (ledger : SignalLedger)
    (h : resolution ∈ ledger.resolutions.rows) :
    resolution ∈ (forecasts.foldl (resolveForecast frames now) ledger).resolutions.rows := by
  induction forecasts generalizing ledger with
  | nil => exact h
  | cons forecast forecasts ih => exact ih _ (resolveForecast_keeps forecast h)

@[simp]
theorem resolving_forecasts (forecasts : List Forecast) (ledger : SignalLedger) :
    (forecasts.foldl (resolveForecast frames now) ledger).forecasts = ledger.forecasts := by
  induction forecasts generalizing ledger with
  | nil => rfl
  | cons forecast forecasts ih => rw [List.foldl_cons, ih, resolveForecast_forecasts]

theorem resolving_new (forecasts : List Forecast) (ledger : SignalLedger)
    (h : resolution ∈ (forecasts.foldl (resolveForecast frames now) ledger).resolutions.rows) :
    resolution ∈ ledger.resolutions.rows ∨
      ∃ forecast ∈ forecasts, resolution.forecastId = forecast.forecastId ∧
        gradeFrom (frames forecast.horizon.interval) forecast =
          some ⟨resolution.targetTimeUtc, resolution.outcomeUp⟩ := by
  induction forecasts generalizing ledger with
  | nil => exact Or.inl h
  | cons forecast forecasts ih =>
      rcases ih _ h with hmem | ⟨graded, hgraded, hgrade⟩
      · rcases resolveForecast_new hmem with hold | hnew
        · exact Or.inl hold
        · exact Or.inr ⟨forecast, List.mem_cons_self, hnew⟩
      · exact Or.inr ⟨graded, List.mem_cons_of_mem _ hgraded, hgrade⟩

theorem resolving_graded (forecasts : List Forecast) (ledger : SignalLedger)
    (hmem : forecast ∈ forecasts)
    (hgrade : gradeFrom (frames forecast.horizon.interval) forecast = some grade) :
    (forecasts.foldl (resolveForecast frames now) ledger).Resolved forecast.forecastId := by
  induction forecasts generalizing ledger with
  | nil => cases hmem
  | cons first forecasts ih =>
      rcases List.mem_cons.mp hmem with rfl | hlater
      · have hresolved : (resolveForecast frames now ledger forecast).Resolved
            forecast.forecastId := resolveForecast_resolved hgrade
        obtain ⟨resolution, hr, hid⟩ := hresolved
        exact ⟨resolution, resolving_keeps forecasts _ hr, hid⟩
      · exact ih _ hlater

variable {ledger : SignalLedger}

theorem mem_unresolved :
    forecast ∈ ledger.unresolved ↔
      forecast ∈ ledger.forecasts.rows ∧ ¬ ledger.Resolved forecast.forecastId := by
  unfold SignalLedger.unresolved SignalLedger.Resolved
  rw [(List.perm_insertionSort _ _).mem_iff]
  simp

/-- **A call adds the grades of unresolved forecasts only.** -/
theorem resolveAvailable_resolutions
    (h : resolution ∈ (resolveAvailable ledger frames now).resolutions.rows) :
    resolution ∈ ledger.resolutions.rows ∨
      ∃ forecast ∈ ledger.forecasts.rows, resolution.forecastId = forecast.forecastId ∧
        gradeFrom (frames forecast.horizon.interval) forecast =
          some ⟨resolution.targetTimeUtc, resolution.outcomeUp⟩ := by
  rcases resolving_new _ _ h with hold | ⟨forecast, hmem, hgrade⟩
  · exact Or.inl hold
  · exact Or.inr ⟨forecast, (mem_unresolved.mp hmem).1, hgrade⟩

/-- **After a call, every recorded forecast that it has a grade for is resolved.** -/
theorem resolveAvailable_graded (hmem : forecast ∈ ledger.forecasts.rows)
    (hgrade : gradeFrom (frames forecast.horizon.interval) forecast = some grade) :
    (resolveAvailable ledger frames now).Resolved forecast.forecastId := by
  by_cases hresolved : ledger.Resolved forecast.forecastId
  · obtain ⟨resolution, hr, hid⟩ := hresolved
    exact ⟨resolution, resolving_keeps _ _ hr, hid⟩
  · exact resolving_graded _ _ (mem_unresolved.mpr ⟨hmem, hresolved⟩) hgrade

theorem resolveAvailable_forecasts :
    (resolveAvailable ledger frames now).forecasts = ledger.forecasts :=
  resolving_forecasts _ _

end Resolving

end FxStrategyLab.Manual
