import FxStrategyLab.Library.Decide

/-!
# Backtest datasets

This file embeds the records of `gmo_strategy_backtest_dataset.py` and
`validate_backtest_dataset`.  Numeric values stand by their exact value, and the type of a
field takes the place of the check of that type.

**Results.** In a valid dataset the timestamps of the candles increase
(`validate_timestamps_increase`), and there are at least as many spread and session
records as candles (`validate_records_cover`).
-/

namespace FxStrategyLab.Backtest

inductive SpreadCategorySafeLabel
  | spreadCategoryNormal
  | spreadCategoryWide
  | spreadCategoryUnknown
deriving DecidableEq

inductive SessionAllowedSafeLabel
  | sessionAllowed
  | sessionBlocked
  | sessionUnknown
deriving DecidableEq

/-- Source `BacktestCandleRecord`, without the labels and the volume that no check reads. -/
structure BacktestCandleRecord where
  timestamp : Int
  openValue : ℚ
  highValue : ℚ
  lowValue : ℚ
  closeValue : ℚ
  syntheticFixture : Bool := true
deriving DecidableEq

structure BacktestSpreadRecord where
  timestamp : Int
  spreadCategory : SpreadCategorySafeLabel
  spreadValue : Option ℚ := none
deriving DecidableEq

structure BacktestSessionRecord where
  timestamp : Int
  sessionSafeLabel : SessionAllowedSafeLabel
deriving DecidableEq

structure BacktestDataset where
  symbolSafeLabel : String := "USD_JPY"
  timeframeSafeLabel : String := "M1"
  candles : List BacktestCandleRecord
  spreads : List BacktestSpreadRecord
  sessions : List BacktestSessionRecord
  warmupBars : Int := 3
  syntheticFixture : Bool := true
  validatedOperatorLocalCsv : Bool := false

/-- Source `GmoBacktestDatasetStatus`, as far as the validation gives it. -/
inductive GmoBacktestDatasetStatus
  | datasetValidSynthetic
  | datasetValidOperatorLocalCsv
  | datasetInvalidBlocked
deriving DecidableEq

structure BacktestDatasetValidation where
  status : GmoBacktestDatasetStatus
  blockedReasons : List String

def supportedSymbolSafeLabels : List String := ["USD_JPY"]
def supportedTimeframeSafeLabels : List String := ["M1", "M5", "M15", "H1"]

def candleReasons (realDataOk : Bool) : Option Int → List BacktestCandleRecord → List String
  | _, [] => []
  | previousTs, candle :: rest =>
      if candle.syntheticFixture = false ∧ realDataOk = false then
        ["DATASET_CANDLE_NOT_SYNTHETIC"]
      else if candle.highValue < candle.lowValue then ["DATASET_CANDLE_RANGE_INVALID"]
      else if previousTs = some candle.timestamp then ["DATASET_DUPLICATE_TIMESTAMP"]
      else if ∃ previous ∈ previousTs, candle.timestamp < previous then
        ["DATASET_TIMESTAMP_NOT_MONOTONIC"]
      else candleReasons realDataOk (some candle.timestamp) rest

/-- The reasons of `validate_backtest_dataset`, before repeated ones are dropped. -/
def datasetReasons (dataset : BacktestDataset) : List String :=
  let realDataOk := dataset.validatedOperatorLocalCsv
  (if dataset.syntheticFixture = false ∧ realDataOk = false then
    ["DATASET_REAL_DATA_NOT_SUPPORTED_THIS_PHASE"] else []) ++
  (if dataset.symbolSafeLabel ∉ supportedSymbolSafeLabels then
    ["DATASET_SYMBOL_NOT_SUPPORTED"] else []) ++
  (if dataset.timeframeSafeLabel ∉ supportedTimeframeSafeLabels then
    ["DATASET_TIMEFRAME_NOT_SUPPORTED"] else []) ++
  (if dataset.candles = [] then ["DATASET_CANDLES_MISSING"] else []) ++
  (if dataset.warmupBars < 0 ∨
      (dataset.candles ≠ [] ∧ (dataset.candles.length : Int) ≤ dataset.warmupBars) then
    ["DATASET_WARMUP_INVALID"] else []) ++
  candleReasons realDataOk none dataset.candles ++
  (if ∃ candle ∈ dataset.candles,
      candle.timestamp ∉ dataset.spreads.map BacktestSpreadRecord.timestamp then
    ["DATASET_SPREAD_RECORD_MISSING"] else []) ++
  (if ∃ candle ∈ dataset.candles,
      candle.timestamp ∉ dataset.sessions.map BacktestSessionRecord.timestamp then
    ["DATASET_SESSION_RECORD_MISSING"] else []) ++
  (if ∃ record ∈ dataset.spreads,
      record.spreadCategory ≠ .spreadCategoryUnknown ∧ record.spreadValue = none then
    ["DATASET_SPREAD_VALUE_MISSING"] else [])

def validateBacktestDataset (dataset : BacktestDataset) : BacktestDatasetValidation :=
  let uniqueReasons := (datasetReasons dataset).eraseDups
  { status :=
      if uniqueReasons ≠ [] then .datasetInvalidBlocked
      else if dataset.validatedOperatorLocalCsv = true ∧ dataset.syntheticFixture = false then
        .datasetValidOperatorLocalCsv
      else .datasetValidSynthetic
    blockedReasons := uniqueReasons }

def datasetValidStatuses : List GmoBacktestDatasetStatus :=
  [.datasetValidSynthetic, .datasetValidOperatorLocalCsv]

def BacktestDataset.Valid (dataset : BacktestDataset) : Prop :=
  (validateBacktestDataset dataset).status ∈ datasetValidStatuses
deriving Decidable

section Validation

variable {dataset : BacktestDataset}

theorem valid_iff_no_reasons : dataset.Valid ↔ datasetReasons dataset = [] := by
  have hdups : (datasetReasons dataset).eraseDups = [] ↔ datasetReasons dataset = [] := by
    cases hreasons : datasetReasons dataset with
    | nil => simp
    | cons reason reasons => simp [List.eraseDups_cons]
  rw [← hdups]
  unfold BacktestDataset.Valid validateBacktestDataset
  by_cases hempty : (datasetReasons dataset).eraseDups = []
  · simp only [hempty, ne_eq, not_true_eq_false, if_false, iff_true]
    split <;> decide
  · simp only [hempty, ne_eq, not_false_eq_true, if_true, iff_false]
    decide

theorem candleReasons_increase {realDataOk : Bool} {previousTs : Option Int}
    {candles : List BacktestCandleRecord} (h : candleReasons realDataOk previousTs candles = []) :
    (∀ previous ∈ previousTs, ∀ candle ∈ candles, previous < candle.timestamp) ∧
      (candles.map BacktestCandleRecord.timestamp).Pairwise (· < ·) := by
  induction candles generalizing previousTs with
  | nil => simp
  | cons candle rest ih =>
      unfold candleReasons at h
      split_ifs at h with hsynthetic hrange hduplicate hmonotonic
      obtain ⟨hlater, hsorted⟩ := ih h
      have hfirst : ∀ previous ∈ previousTs, previous < candle.timestamp := by
        intro previous hprevious
        have hle : previous ≤ candle.timestamp := by
          by_contra hnot
          exact hmonotonic ⟨previous, hprevious, not_le.mp hnot⟩
        refine lt_of_le_of_ne hle ?_
        rintro rfl
        exact hduplicate hprevious
      constructor
      · intro previous hprevious later hmem
        rcases List.mem_cons.mp hmem with rfl | hmem
        · exact hfirst previous hprevious
        · exact (hfirst previous hprevious).trans (hlater _ rfl later hmem)
      · rw [List.map_cons, List.pairwise_cons]
        refine ⟨?_, hsorted⟩
        intro timestamp hmem
        obtain ⟨later, hlaterMem, rfl⟩ := List.mem_map.mp hmem
        exact hlater _ rfl later hlaterMem

theorem BacktestDataset.Valid.checks (h : dataset.Valid) :
    (0 ≤ dataset.warmupBars ∧ dataset.warmupBars < dataset.candles.length) ∧
      candleReasons dataset.validatedOperatorLocalCsv none dataset.candles = [] ∧
      (∀ candle ∈ dataset.candles,
        candle.timestamp ∈ dataset.spreads.map BacktestSpreadRecord.timestamp) ∧
      ∀ candle ∈ dataset.candles,
        candle.timestamp ∈ dataset.sessions.map BacktestSessionRecord.timestamp := by
  rw [valid_iff_no_reasons] at h
  unfold datasetReasons at h
  simp only [List.append_eq_nil_iff, ite_eq_right_iff, reduceCtorEq, imp_false] at h
  obtain ⟨⟨⟨⟨⟨⟨-, hcandles⟩, hwarmup⟩, hloop⟩, hspreads⟩, hsessions⟩, -⟩ := h
  push Not at hwarmup hspreads hsessions
  exact ⟨⟨hwarmup.1, hwarmup.2 hcandles⟩, hloop, hspreads, hsessions⟩

/-- **The timestamps of a valid dataset increase.** -/
theorem validate_timestamps_increase (h : dataset.Valid) :
    (dataset.candles.map BacktestCandleRecord.timestamp).Pairwise (· < ·) :=
  (candleReasons_increase h.checks.2.1).2

/-- **A valid dataset has a record for every position of a candle**, though not
necessarily its own. -/
theorem validate_records_cover (h : dataset.Valid) :
    dataset.candles.length ≤ dataset.spreads.length ∧
      dataset.candles.length ≤ dataset.sessions.length := by
  have hnodup : (dataset.candles.map BacktestCandleRecord.timestamp).Nodup :=
    (validate_timestamps_increase h).imp fun hlt => hlt.ne
  have hcover {timestamps : List Int}
      (hmem : ∀ candle ∈ dataset.candles, candle.timestamp ∈ timestamps) :
      dataset.candles.length ≤ timestamps.length := by
    have hsubset : dataset.candles.map BacktestCandleRecord.timestamp ⊆ timestamps := by
      intro timestamp htimestamp
      obtain ⟨candle, hcandle, rfl⟩ := List.mem_map.mp htimestamp
      exact hmem candle hcandle
    simpa using (List.subperm_of_subset hnodup hsubset).length_le
  obtain ⟨-, -, hspreads, hsessions⟩ := h.checks
  have hspreadCount := hcover hspreads
  have hsessionCount := hcover hsessions
  rw [List.length_map] at hspreadCount hsessionCount
  exact ⟨hspreadCount, hsessionCount⟩

end Validation

end FxStrategyLab.Backtest
