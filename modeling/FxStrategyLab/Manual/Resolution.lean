import FxStrategyLab.Manual.QuickStart
import FxStrategyLab.Manual.Service
import FxStrategyLab.Library.Runs

/-!
# Grading forecasts at their target time

The target of a forecast is found by counting rows from the row of its origin.  That row is
the candle at the target time exactly when as many candles lie between the two times as rows
are counted, so a gap in a frame moves the target to a later candle, and a candle that is
filled in late moves it back.

**Results.** `target_row_iff` for one frame, `resolution_of_visit` and `visit_resolved` for
the resolutions of a run, and `graded_on_time_iff`.
-/

namespace FxStrategyLab.Manual

open Library (Table after)
open Library.Ranks (between row_after_iff)

def Forecast.targetTimeUtc (forecast : Forecast) : Instant :=
  forecast.originTimeUtc + forecast.horizon.duration

/-- A candle opens at the target time, and as many candles as the horizon has bars follow the
origin up to it. -/
def GapFree (frame : Frame) (forecast : Forecast) : Prop :=
  (∃ row ∈ frame.rows, row.timeUtc = forecast.targetTimeUtc) ∧
    between CandleRow.timeUtc frame.rows forecast.originTimeUtc forecast.targetTimeUtc =
      forecast.horizon.bars

theorem duration_nonneg (horizon : Horizon) : 0 ≤ horizon.duration := by
  cases horizon <;> decide

/-- **The row that is counted off is the candle at the target time exactly when the frame has
no gap up to it.** -/
theorem target_row_iff {frame : Frame} {forecast : Forecast} {i : Nat} {origin : CandleRow}
    (horigin : frame.rows[i]? = some origin) (htime : origin.timeUtc = forecast.originTimeUtc) :
    (∃ target, frame.rows[i + forecast.horizon.bars]? = some target ∧
        target.timeUtc = forecast.targetTimeUtc) ↔ GapFree frame forecast := by
  have hle : origin.timeUtc ≤ forecast.targetTimeUtc := by
    have hnonneg := duration_nonneg forecast.horizon
    rw [htime, Forecast.targetTimeUtc]
    exact le_add_of_nonneg_right hnonneg
  unfold GapFree
  rw [row_after_iff frame.increasing horigin hle, htime]

theorem grade_of_gapFree {frame : Frame} {forecast : Forecast} (hgap : GapFree frame forecast)
    {origin target : CandleRow} (horigin : origin ∈ frame.rows)
    (horiginTime : origin.timeUtc = forecast.originTimeUtc) (htarget : target ∈ frame.rows)
    (htargetTime : target.timeUtc = forecast.targetTimeUtc)
    (hmoved : target.close ≠ origin.close) :
    gradeFrom frame forecast = some ⟨forecast.targetTimeUtc, origin.close < target.close⟩ := by
  obtain ⟨i, hi⟩ := List.mem_iff_getElem?.mp horigin
  obtain ⟨row, hrow, hrowTime⟩ := (target_row_iff hi horiginTime).mpr hgap
  obtain rfl : row = target := Library.Ranks.eq_of_key_eq frame.increasing
    (List.mem_of_getElem? hrow) htarget (hrowTime.trans htargetTime.symm)
  exact gradeFrom_eq_some.mpr ⟨i, origin, row, hi, horiginTime, hrow, hmoved,
    by rw [hrowTime]⟩

/-- What the grading of a call sees: the ledger with its forecasts, and the frames. -/
structure Visit where
  ledger : SignalLedger
  frames : Interval → Frame

section Runs

variable (forecastId : Horizon → Instant → String → String)

variable (service : ManualSignalService)

/-- Source `current`, call after call. -/
def runCurrent (calls : List CurrentCall) :
    ManualSignalService :=
  after (fun service call => service.current forecastId call) service calls

/-- The gradings of a run. -/
def visits : ManualSignalService → List CurrentCall → List Visit
  | _, [] => []
  | service, call :: calls =>
      (if call.record then [⟨service.recorded forecastId call, service.frames call⟩] else []) ++
        visits (service.current forecastId call) calls

variable {forecastId}

def Visit.Grades (visit : Visit) (forecast : Forecast) (grade : Grade) : Prop :=
  forecast ∈ visit.ledger.forecasts.rows ∧
    gradeFrom (visit.frames forecast.horizon.interval) forecast = some grade

variable {forecast : Forecast}

theorem recordForecast_forecasts (ledger : SignalLedger) (signal : SignalView)
    (h : forecast ∈ ledger.forecasts.rows) :
    forecast ∈ (ledger.recordForecast signal).forecasts.rows := by
  unfold SignalLedger.recordForecast
  split
  · split
    · dsimp only
      rw [Table.rows_insertOrIgnore]
      split
      · exact List.mem_append_left _ h
      · exact h
    · exact h
  · exact h

theorem recordForecast_resolutions (ledger : SignalLedger) (signal : SignalView) :
    (ledger.recordForecast signal).resolutions = ledger.resolutions := by
  unfold SignalLedger.recordForecast
  split
  · split <;> rfl
  · rfl

theorem recorded_resolutions (call : CurrentCall) :
    (service.recorded forecastId call).resolutions = service.ledger.resolutions := by
  unfold ManualSignalService.recorded SignalLedger.recordDueNoActions
    ManualSignalService.signals
  simp only [List.foldl_cons, List.foldl_nil, recordForecast_resolutions]

theorem recorded_forecasts (call : CurrentCall) (h : forecast ∈ service.ledger.forecasts.rows) :
    forecast ∈ (service.recorded forecastId call).forecasts.rows := by
  unfold ManualSignalService.recorded SignalLedger.recordDueNoActions
    ManualSignalService.signals
  exact recordForecast_forecasts _ _ (recordForecast_forecasts _ _
    (recordForecast_forecasts _ _ h))

theorem loadM1Cached_ledger (call : CurrentCall) :
    (service.loadM1Cached call).ledger = service.ledger := by
  unfold ManualSignalService.loadM1Cached
  dsimp only
  split <;> rfl

variable {call : CurrentCall}

theorem current_quiet
    (h : call.record = false) : (service.current forecastId call).ledger = service.ledger := by
  unfold ManualSignalService.current
  simp [h, loadM1Cached_ledger]

theorem current_recording (h : call.record = true) :
    (service.current forecastId call).ledger =
      resolveAvailable (service.recorded forecastId call) (service.frames call) call.now := by
  unfold ManualSignalService.current
  simp [h]

theorem current_forecasts (call : CurrentCall) (h : forecast ∈ service.ledger.forecasts.rows) :
    forecast ∈ (service.current forecastId call).ledger.forecasts.rows := by
  cases hrecord : call.record
  · rwa [current_quiet service hrecord]
  · rw [current_recording service hrecord, resolveAvailable_forecasts]
    exact recorded_forecasts service call h

variable {resolution : Resolution}

theorem current_resolutions (call : CurrentCall)
    (h : resolution ∈ service.ledger.resolutions.rows) :
    resolution ∈ (service.current forecastId call).ledger.resolutions.rows := by
  cases hrecord : call.record
  · rwa [current_quiet service hrecord]
  · rw [current_recording service hrecord]
    refine resolving_keeps _ _ ?_
    rwa [recorded_resolutions]

theorem run_forecasts (calls : List CurrentCall) (h : forecast ∈ service.ledger.forecasts.rows) :
    forecast ∈ (runCurrent forecastId service calls).ledger.forecasts.rows := by
  induction calls generalizing service with
  | nil => exact h
  | cons call calls ih => exact ih _ (current_forecasts service call h)

theorem run_resolutions (calls : List CurrentCall)
    (h : resolution ∈ service.ledger.resolutions.rows) :
    resolution ∈ (runCurrent forecastId service calls).ledger.resolutions.rows := by
  induction calls generalizing service with
  | nil => exact h
  | cons call calls ih => exact ih _ (current_resolutions service call h)

theorem mem_visits_cons {service : ManualSignalService}
    {calls : List CurrentCall} {visit : Visit} :
    visit ∈ visits forecastId service (call :: calls) ↔
      (call.record = true ∧
          visit = ⟨service.recorded forecastId call, service.frames call⟩) ∨
        visit ∈ visits forecastId (service.current forecastId call) calls := by
  rw [visits, List.mem_append]
  cases call.record <;> simp

/-- **A resolution of a run was there before or is the grade of one of its visits.** -/
theorem resolution_of_visit (calls : List CurrentCall)
    (h : resolution ∈ (runCurrent forecastId service calls).ledger.resolutions.rows) :
    resolution ∈ service.ledger.resolutions.rows ∨
      ∃ visit ∈ visits forecastId service calls, ∃ forecast,
        forecast.forecastId = resolution.forecastId ∧
        visit.Grades forecast ⟨resolution.targetTimeUtc, resolution.outcomeUp⟩ := by
  induction calls generalizing service with
  | nil => exact Or.inl h
  | cons call calls ih =>
      rcases ih _ h with hmem | ⟨visit, hvisit, hgraded⟩
      · cases hrecord : call.record
        · rw [current_quiet service hrecord] at hmem
          exact Or.inl hmem
        · rw [current_recording service hrecord] at hmem
          rcases resolveAvailable_resolutions hmem with hold | ⟨forecast, hf, hid, hgrade⟩
          · rw [recorded_resolutions] at hold
            exact Or.inl hold
          · exact Or.inr ⟨_, mem_visits_cons.mpr (Or.inl ⟨hrecord, rfl⟩), forecast, hid.symm,
              hf, hgrade⟩
      · exact Or.inr ⟨visit, mem_visits_cons.mpr (Or.inr hvisit), hgraded⟩

/-- **A forecast that a visit grades is in the ledger with a resolution at the end.** -/
theorem visit_resolved (calls : List CurrentCall)
    {visit : Visit} (hvisit : visit ∈ visits forecastId service calls)
    (hforecast : forecast ∈ visit.ledger.forecasts.rows) :
    forecast ∈ (runCurrent forecastId service calls).ledger.forecasts.rows ∧
      ∀ grade, visit.Grades forecast grade →
        (runCurrent forecastId service calls).ledger.Resolved forecast.forecastId := by
  induction calls generalizing service with
  | nil => cases hvisit
  | cons call calls ih =>
      rcases mem_visits_cons.mp hvisit with ⟨hrecord, rfl⟩ | hlater
      · have hledger : (service.current forecastId call).ledger =
            resolveAvailable (service.recorded forecastId call) (service.frames call) call.now :=
          current_recording service hrecord
        constructor
        · refine run_forecasts (service.current forecastId call) calls ?_
          rw [hledger, resolveAvailable_forecasts]
          exact hforecast
        · rintro grade ⟨-, hgrade⟩
          have hresolved : (service.current forecastId call).ledger.Resolved
              forecast.forecastId := by
            rw [hledger]
            exact resolveAvailable_graded hforecast hgrade
          obtain ⟨resolution, hmem, hid⟩ := hresolved
          exact ⟨resolution, run_resolutions _ calls hmem, hid⟩
      · exact ih _ hlater

end Runs

section OnTime

variable (forecastId : Horizon → Instant → String → String)

abbrev serviceAfter (calls : List CurrentCall) : ManualSignalService :=
  runCurrent forecastId ManualSignalService.fresh calls

abbrev visitsOf (calls : List CurrentCall) : List Visit :=
  visits forecastId ManualSignalService.fresh calls

/-- The resolution compares the closes of the candles at the origin and at the target time of
the forecast, as a grading of the run saw them. -/
def OnTime (calls : List CurrentCall) (forecast : Forecast) (resolution : Resolution) : Prop :=
  resolution.targetTimeUtc = forecast.targetTimeUtc ∧
    ∃ visit ∈ visitsOf forecastId calls,
      ∃ origin ∈ (visit.frames forecast.horizon.interval).rows,
        ∃ target ∈ (visit.frames forecast.horizon.interval).rows,
          origin.timeUtc = forecast.originTimeUtc ∧
            target.timeUtc = forecast.targetTimeUtc ∧
            resolution.outcomeUp = decide (origin.close < target.close)

/-- Every resolution is on time, and every grading of the run that has a grade for its
forecast has the one that was recorded. -/
def GradedOnTime (calls : List CurrentCall) : Prop :=
  ∀ resolution ∈ (serviceAfter forecastId calls).ledger.resolutions.rows,
    ∀ forecast ∈ (serviceAfter forecastId calls).ledger.forecasts.rows,
      forecast.forecastId = resolution.forecastId →
        OnTime forecastId calls forecast resolution ∧
          ∀ visit ∈ visitsOf forecastId calls, ∀ grade, visit.Grades forecast grade →
            grade = ⟨resolution.targetTimeUtc, resolution.outcomeUp⟩

/-- A frame that holds the origin of a recorded forecast and, as many rows later as the
horizon has bars, another close, has no gap up to the target time. -/
def WithoutGaps (visit : Visit) : Prop :=
  ∀ forecast ∈ visit.ledger.forecasts.rows, ∀ i origin target,
    (visit.frames forecast.horizon.interval).rows[i]? = some origin →
      origin.timeUtc = forecast.originTimeUtc →
      (visit.frames forecast.horizon.interval).rows[i + forecast.horizon.bars]? = some target →
      target.close ≠ origin.close → GapFree (visit.frames forecast.horizon.interval) forecast

/-- No two frames without a gap order the closes at the origin and at the target time of a
forecast in opposite ways. -/
def OrderKept (visit other : Visit) : Prop :=
  ∀ forecast ∈ visit.ledger.forecasts.rows, forecast ∈ other.ledger.forecasts.rows →
    GapFree (visit.frames forecast.horizon.interval) forecast →
    GapFree (other.frames forecast.horizon.interval) forecast →
    ∀ origin ∈ (visit.frames forecast.horizon.interval).rows,
      ∀ target ∈ (visit.frames forecast.horizon.interval).rows,
        ∀ origin' ∈ (other.frames forecast.horizon.interval).rows,
          ∀ target' ∈ (other.frames forecast.horizon.interval).rows,
            origin.timeUtc = forecast.originTimeUtc →
              origin'.timeUtc = forecast.originTimeUtc →
              target.timeUtc = forecast.targetTimeUtc →
              target'.timeUtc = forecast.targetTimeUtc →
              origin.close < target.close → ¬ target'.close < origin'.close

variable {forecastId} {calls : List CurrentCall}

variable {forecast forecast' : Forecast} {grade grade' : Grade} {visit other : Visit}

theorem grades_of_withoutGaps (hgaps : WithoutGaps visit) (h : visit.Grades forecast grade) :
    GapFree (visit.frames forecast.horizon.interval) forecast ∧
      grade.targetTimeUtc = forecast.targetTimeUtc ∧
      ∃ origin ∈ (visit.frames forecast.horizon.interval).rows,
        ∃ target ∈ (visit.frames forecast.horizon.interval).rows,
          origin.timeUtc = forecast.originTimeUtc ∧ target.timeUtc = forecast.targetTimeUtc ∧
            target.close ≠ origin.close ∧
            grade.outcomeUp = decide (origin.close < target.close) := by
  obtain ⟨hforecast, hgrade⟩ := h
  obtain ⟨i, origin, target, hi, htime, htarget, hmoved, rfl⟩ := gradeFrom_eq_some.mp hgrade
  have hgap := hgaps forecast hforecast i origin target hi htime htarget hmoved
  obtain ⟨row, hrow, hrowTime⟩ := (target_row_iff hi htime).mpr hgap
  obtain rfl : target = row := Option.some.inj (htarget.symm.trans hrow)
  exact ⟨hgap, hrowTime, origin, List.mem_of_getElem? hi, target, List.mem_of_getElem? htarget,
    htime, hrowTime, hmoved, rfl⟩

theorem grades_agree (hgaps : WithoutGaps visit)
    (hgaps' : WithoutGaps other) (hkept : OrderKept visit other) (hkept' : OrderKept other visit)
    (h : visit.Grades forecast grade) (h' : other.Grades forecast grade') : grade = grade' := by
  obtain ⟨hgap, htarget, origin, ho, target, ht, hoTime, htTime, hmoved, hup⟩ :=
    grades_of_withoutGaps hgaps h
  obtain ⟨hgap', htarget', origin', ho', target', ht', hoTime', htTime', hmoved', hup'⟩ :=
    grades_of_withoutGaps hgaps' h'
  have hforth := hkept forecast h.1 h'.1 hgap hgap' origin ho target ht origin' ho' target' ht'
    hoTime hoTime' htTime htTime'
  have hback := hkept' forecast h'.1 h.1 hgap' hgap origin' ho' target' ht' origin ho target ht
    hoTime' hoTime htTime' htTime
  have hsame : origin.close < target.close ↔ origin'.close < target'.close := by
    constructor
    · intro hless
      exact lt_of_le_of_ne (not_lt.mp (hforth hless)) hmoved'.symm
    · intro hless
      exact lt_of_le_of_ne (not_lt.mp (hback hless)) hmoved.symm
  obtain ⟨time, up⟩ := grade
  obtain ⟨time', up'⟩ := grade'
  simp only at htarget htarget' hup hup'
  simp [htarget, htarget', hup, hup', hsame]

theorem forecast_unique {ledger : SignalLedger}
    (h : forecast ∈ ledger.forecasts.rows) (h' : forecast' ∈ ledger.forecasts.rows)
    (hid : forecast.forecastId = forecast'.forecastId) : forecast = forecast' :=
  ledger.forecasts.eq_of_key_eq List.mem_cons_self h h' (congrArg ForecastKey.byId hid)

theorem recorded_of_grades (h : GradedOnTime forecastId calls)
    (hvisit : visit ∈ visitsOf forecastId calls) (hgrades : visit.Grades forecast grade) :
    grade.targetTimeUtc = forecast.targetTimeUtc ∧
      ∃ recorded : Grade, ∀ other ∈ visitsOf forecastId calls, ∀ grade',
        other.Grades forecast grade' → grade' = recorded := by
  obtain ⟨hfinal, hresolved⟩ := visit_resolved _ calls hvisit hgrades.1
  obtain ⟨resolution, hmem, hid⟩ := hresolved grade hgrades
  obtain ⟨honTime, hsame⟩ := h resolution hmem forecast hfinal hid.symm
  refine ⟨?_, _, hsame⟩
  rw [hsame visit hvisit grade hgrades]
  exact honTime.1

end OnTime

/-- **Every forecast of a run is graded at its target time, whenever it is graded, exactly when
no frame that is counted through has a gap and no two frames order the closes in opposite
ways.** -/
theorem graded_on_time_iff (forecastId : Horizon → Instant → String → String)
    (calls : List CurrentCall) :
    GradedOnTime forecastId calls ↔
      (∀ visit ∈ visitsOf forecastId calls, WithoutGaps visit) ∧
        ∀ visit ∈ visitsOf forecastId calls, ∀ other ∈ visitsOf forecastId calls,
          OrderKept visit other := by
  constructor
  · intro h
    refine ⟨?_, ?_⟩
    · intro visit hvisit forecast hforecast i origin target hi htime htarget hmoved
      have hgrades : visit.Grades forecast ⟨target.timeUtc, origin.close < target.close⟩ :=
        ⟨hforecast, gradeFrom_eq_some.mpr ⟨i, origin, target, hi, htime, htarget, hmoved, rfl⟩⟩
      exact (target_row_iff hi htime).mp
        ⟨target, htarget, (recorded_of_grades h hvisit hgrades).1⟩
    · intro visit hvisit other hother forecast hforecast hforecast' hgap hgap' origin ho target
        ht origin' ho' target' ht' hoTime hoTime' htTime htTime' hup hdown
      have hgrades : visit.Grades forecast _ :=
        ⟨hforecast, grade_of_gapFree hgap ho hoTime ht htTime hup.ne'⟩
      have hgrades' : other.Grades forecast _ :=
        ⟨hforecast', grade_of_gapFree hgap' ho' hoTime' ht' htTime' hdown.ne⟩
      obtain ⟨recorded, hrecorded⟩ := (recorded_of_grades h hvisit hgrades).2
      have hsame := (hrecorded visit hvisit _ hgrades).trans
        (hrecorded other hother _ hgrades').symm
      have houtcome : decide (origin.close < target.close) =
          decide (origin'.close < target'.close) := congrArg Grade.outcomeUp hsame
      rw [decide_eq_true hup, decide_eq_false (not_lt.mpr hdown.le)] at houtcome
      exact Bool.noConfusion houtcome
  · rintro ⟨hgaps, hkept⟩ resolution hmem forecast hforecast hid
    rcases resolution_of_visit _ calls hmem with hold | ⟨visit, hvisit, graded, hsame, hgrades⟩
    · simp [ManualSignalService.fresh] at hold
    · -- the graded forecast is the one in the ledger
      obtain rfl : graded = forecast := forecast_unique
        (visit_resolved _ calls hvisit hgrades.1).1 hforecast (hsame.trans hid.symm)
      obtain ⟨-, htarget, origin, ho, target, ht, hoTime, htTime, -, hup⟩ :=
        grades_of_withoutGaps (hgaps visit hvisit) hgrades
      refine ⟨⟨htarget, visit, hvisit, origin, ho, target, ht, hoTime, htTime, hup⟩, ?_⟩
      intro other hother grade hgrade
      exact grades_agree (hgaps other hother) (hgaps visit hvisit)
        (hkept other hother visit hvisit) (hkept visit hvisit other hother) hgrade hgrades

namespace Sample

def candle (minute : Int) (close : ℚ) : CandleRow :=
  ⟨wallMinutes minute, close⟩

def firstMinute : Frame where
  rows := [candle 0 150]
  increasing := by decide

/-- Twelve minutes, without the tenth after the first. -/
def missingMinute : Frame where
  rows := [candle 0 150, candle 1 150, candle 2 150, candle 3 150, candle 4 150, candle 5 150,
    candle 6 150, candle 7 150, candle 8 150, candle 9 150, candle 11 151]
  increasing := by decide

def calls : List CurrentCall :=
  [{ now := wallMinutes 1
     record := true
     reload := false
     m1File := some (1, firstMinute)
     h1 := Frame.empty
     prediction := fun horizon =>
       if horizon = .minutes10 then some ⟨some (3 / 5), "hash"⟩ else none },
   { now := wallMinutes 12
     record := true
     reload := false
     m1File := some (2, missingMinute)
     h1 := Frame.empty
     prediction := fun _ => none }]

end Sample

/-- The forecast is graded against the candle of the eleventh minute. -/
theorem missing_minute_moves_target :
    ¬ GradedOnTime (fun _ _ _ => "forecast_30a8441b6a3d850e277b56fe") Sample.calls := by
  have hresolutions :
      (serviceAfter (fun _ _ _ => "forecast_30a8441b6a3d850e277b56fe")
        Sample.calls).ledger.resolutions.rows =
        [⟨"forecast_30a8441b6a3d850e277b56fe", true, wallMinutes 11, wallMinutes 12⟩] := by
    decide +kernel
  have hforecasts :
      (serviceAfter (fun _ _ _ => "forecast_30a8441b6a3d850e277b56fe")
        Sample.calls).ledger.forecasts.rows =
        [⟨"forecast_30a8441b6a3d850e277b56fe", .minutes10, 0, 3 / 5, .buy, "hash",
          .prospective⟩] := by
    decide +kernel
  intro h
  obtain ⟨honTime, -⟩ := h _ (by rw [hresolutions]; exact List.mem_cons_self) _
    (by rw [hforecasts]; exact List.mem_cons_self) rfl
  have hlate := honTime.1
  revert hlate
  decide

end FxStrategyLab.Manual
