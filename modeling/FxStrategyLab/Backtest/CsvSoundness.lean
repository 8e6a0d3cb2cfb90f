import FxStrategyLab.Backtest.CsvImport
import FxStrategyLab.Library.Series

/-!
# What the import of CSV files lets through

A row raises where a label cell is missing, where digits are no integer, or where a session has
to be derived from a time that no datetime holds; the reader raises at a cell that is too long.
Numbers that are not finite pass every check of a row.  The other checks are sound: the records
of a dataset are aligned, their timestamps increase, and each carries the values of its row.

**Results.** `parseRow_total_iff`, `readRecords_total_iff`, `rows_of_readRecords` and
`sound_datasetOf_iff`.
-/

namespace FxStrategyLab.CsvImport

open Backtest (BacktestDataset BacktestCandleRecord BacktestSpreadRecord BacktestSessionRecord
  SessionAllowedSafeLabel supportedSymbolSafeLabels supportedTimeframeSafeLabels)
open Library.Doubles (Double)
open Library.Series (bind_eq_ok)

def CsvCandle.ofExact (candle : BacktestCandleRecord) : CsvCandle where
  timestamp := candle.timestamp
  openValue := .finite candle.openValue
  highValue := .finite candle.highValue
  lowValue := .finite candle.lowValue
  closeValue := .finite candle.closeValue
  syntheticFixture := candle.syntheticFixture

def CsvSpread.ofExact (record : BacktestSpreadRecord) : CsvSpread where
  timestamp := record.timestamp
  spreadCategory := record.spreadCategory
  spreadValue := record.spreadValue.map .finite

def CsvDataset.ofExact (dataset : BacktestDataset) : CsvDataset where
  symbolSafeLabel := dataset.symbolSafeLabel
  timeframeSafeLabel := dataset.timeframeSafeLabel
  candles := dataset.candles.map CsvCandle.ofExact
  spreads := dataset.spreads.map CsvSpread.ofExact
  sessions := dataset.sessions
  warmupBars := dataset.warmupBars
  syntheticFixture := dataset.syntheticFixture
  validatedOperatorLocalCsv := dataset.validatedOperatorLocalCsv

/-- A dataset is sound: its records are aligned, its timestamps increase, its numbers are finite
and in order, and the validation accepts it where it has enough rows. -/
structure CsvDataset.Sound (dataset : CsvDataset) : Prop where
  spreads_aligned :
    dataset.spreads.map CsvSpread.timestamp = dataset.candles.map CsvCandle.timestamp
  sessions_aligned :
    dataset.sessions.map BacktestSessionRecord.timestamp =
      dataset.candles.map CsvCandle.timestamp
  increasing : (dataset.candles.map CsvCandle.timestamp).Pairwise (· < ·)
  finite : ∃ exact : BacktestDataset, dataset = .ofExact exact ∧
    (∀ candle ∈ exact.candles, candle.lowValue ≤ candle.highValue) ∧
    (∀ record ∈ exact.spreads, ∀ spread, record.spreadValue = some spread → 0 ≤ spread) ∧
    (dataset.warmupBars < dataset.candles.length → exact.Valid)

section Definitions

variable (text : PyText) (files : String → PathState) (request : HistoricalCsvImportRequest)

def dataRecords (records : List CsvRecord) : List CsvRecord :=
  records.filter (· ≠ [])

/-- A candle and a session carry the values of a record. -/
structure OwnValues (header : List String) (record : CsvRecord) (candle : CsvCandle)
    (session : BacktestSessionRecord) : Prop where
  timestamp : parseTimestamp text (cell text header record "timestamp") =
    .ok (.ok candle.timestamp)
  openValue : parseFloat text (cell text header record "open") = some candle.openValue
  highValue : parseFloat text (cell text header record "high") = some candle.highValue
  lowValue : parseFloat text (cell text header record "low") = some candle.lowValue
  closeValue : parseFloat text (cell text header record "close") = some candle.closeValue
  session : ∃ derivation, readSession text header record candle.timestamp =
    .ok (session.sessionSafeLabel, derivation)

/-- The records of a combined file go into the records of a dataset one by one. -/
def CombinedRows (records : List CsvRecord) (dataset : CsvDataset) : Prop :=
  ∀ header rest, records = header :: rest →
    dataset.candles.length = (dataRecords rest).length ∧
    ∀ (i : Nat) (record : CsvRecord), (dataRecords rest)[i]? = some record →
      ∃ (candle : CsvCandle) (spread : CsvSpread) (session : BacktestSessionRecord),
        dataset.candles[i]? = some candle ∧ dataset.spreads[i]? = some spread ∧
        dataset.sessions[i]? = some session ∧ OwnValues text header record candle session ∧
        readSpread text header record = .ok spread.spreadValue

/-- The records of a pair of files go into the records of a dataset two by two: the candle is
that of the bid, and the spread is the difference of the closes of one timestamp. -/
def PairRows (bidRecords askRecords : List CsvRecord) (dataset : CsvDataset) : Prop :=
  ∀ bidHeader bidRest askHeader askRest, bidRecords = bidHeader :: bidRest →
    askRecords = askHeader :: askRest →
    dataset.candles.length = (dataRecords bidRest).length ∧
    dataset.candles.length = (dataRecords askRest).length ∧
    ∀ (i : Nat) (bid ask : CsvRecord), (dataRecords bidRest)[i]? = some bid →
      (dataRecords askRest)[i]? = some ask →
      ∃ (candle : CsvCandle) (spread : CsvSpread) (session : BacktestSessionRecord),
        dataset.candles[i]? = some candle ∧ dataset.spreads[i]? = some spread ∧
        dataset.sessions[i]? = some session ∧ OwnValues text bidHeader bid candle session ∧
        parseTimestamp text (cell text askHeader ask "timestamp") = .ok (.ok candle.timestamp) ∧
        ∃ askClose, parseFloat text (cell text askHeader ask "close") = some askClose ∧
          spread.spreadValue = some (askClose.sub candle.closeValue)

def CarriesOwnRows (dataset : CsvDataset) : Prop :=
  if given request.combinedCsvPath = true then
    ∀ records, pathCheck text files request.combinedCsvPath = .ready records →
      CombinedRows text records dataset
  else
    ∀ bidRecords askRecords, pathCheck text files request.bidCsvPath = .ready bidRecords →
      pathCheck text files request.askCsvPath = .ready askRecords →
      PairRows text bidRecords askRecords dataset

/-- The import returns, and a dataset that it gives is sound and carries its rows. -/
structure SoundImport : Prop where
  returns : ∃ result, importHistoricalCsv text files request = .ok result
  sound : ∀ result dataset, importHistoricalCsv text files request = .ok result →
    result.dataset = some dataset →
    dataset.Sound ∧ CarriesOwnRows text files request dataset

def Later (previous : Option Int) (timestampMs : Int) : Prop :=
  ∀ earlier ∈ previous, earlier < timestampMs

/-- A record can be read: digits are an integer, no label cell that is looked at is missing, and
a session that has to be derived is one of a datetime. -/
structure ReadableRow (header : List String) (previous : Option Int) (record : CsvRecord) :
    Prop where
  digits : ∀ value, stripped ((cell text header record "timestamp").getD "") = value →
    value ≠ "" → digitText text value = true → text.int value ≠ none
  labels : ∀ timestampMs,
    parseTimestamp text (cell text header record "timestamp") = .ok (.ok timestampMs) →
    Later previous timestampMs →
    ∃ symbol, cell text header record "symbol" = some symbol ∧
      (stripped symbol = request.symbolSafeLabel →
        ∃ timeframe, cell text header record "timeframe" = some timeframe ∧
          (stripped timeframe = request.timeframeSafeLabel →
            cell text header record "source_label" ≠ none))
  dated : ∀ timestampMs numbers,
    parseTimestamp text (cell text header record "timestamp") = .ok (.ok timestampMs) →
    Later previous timestampMs →
    labelReason text request.symbolSafeLabel request.timeframeSafeLabel header record =
      .ok none →
    readNumbers text header record = .ok numbers →
    providedSession text header record = none →
    |timestampMs| < epochSecondsMin ∨ InDates timestampMs

/-- Every record that the loop comes to can be read. -/
def CleanRecords (header : List String) : Option Int → List CsvRecord → Prop
  | _, [] => True
  | previous, record :: rest =>
      Fits record ∧
        if record = [] then CleanRecords header previous rest
        else
          ReadableRow text request header previous record ∧
            ∀ row, parseRow text request.symbolSafeLabel request.timeframeSafeLabel header
                previous record = .ok (.ready row) →
              CleanRecords header (some row.timestampMs) rest

/-- Every record of a file that the loop comes to can be read. -/
def CleanFile (requiredColumns : List String) : List CsvRecord → Prop
  | [] => True
  | header :: rest =>
      Fits header ∧
        (header ≠ [] → forbiddenColumnsPresent text header = false →
          (∀ column ∈ requiredColumns, column ∈ normalizedHeader text header) →
          CleanRecords text request header none rest)

end Definitions

section Reading

variable {text : PyText} {files : String → PathState} {request : HistoricalCsvImportRequest}
  {header : List String} {previous : Option Int} {record : CsvRecord}

theorem parseTimestamp_total_iff (raw : Option String) :
    (∃ out, parseTimestamp text raw = .ok out) ↔
      (stripped (raw.getD "") ≠ "" → digitText text (stripped (raw.getD "")) = true →
        text.int (stripped (raw.getD "")) ≠ none) := by
  unfold parseTimestamp
  generalize stripped (raw.getD "") = value
  dsimp only
  by_cases hempty : value = ""
  · simp [hempty]
  · by_cases hdigits : digitText text value = true
    · cases hint : text.int value with
      | none => simp [hempty, hdigits]
      | some number => simp [hempty, hdigits]
    · cases text.fromisoformat (replaceChar 'Z' "+00:00" value) <;> simp [hempty, hdigits]

variable {symbol timeframe : String}

theorem labelReason_total_iff :
    (∃ out, labelReason text symbol timeframe header record = .ok out) ↔
      ∃ givenSymbol, cell text header record "symbol" = some givenSymbol ∧
        (stripped givenSymbol = symbol →
          ∃ givenTimeframe, cell text header record "timeframe" = some givenTimeframe ∧
            (stripped givenTimeframe = timeframe →
              cell text header record "source_label" ≠ none)) := by
  unfold labelReason strippedCell
  cases hsymbol : cell text header record "symbol" with
  | none => simp [bind, Except.bind]
  | some givenSymbol =>
      by_cases hsame : stripped givenSymbol = symbol
      · cases htimeframe : cell text header record "timeframe" with
        | none => simp [bind, Except.bind, hsame]
        | some givenTimeframe =>
            by_cases hsame' : stripped givenTimeframe = timeframe
            · cases hsource : cell text header record "source_label" with
              | none => simp [bind, Except.bind, hsame, hsame']
              | some source =>
                  by_cases hblank : stripped source = "" <;>
                    simp [bind, Except.bind, hsame, hsame', hblank, pure, Except.pure]
            · simp [bind, Except.bind, hsame, hsame', pure, Except.pure]
      · simp [bind, Except.bind, hsame, pure, Except.pure]

variable {timestampMs : Int}

theorem readSession_total_iff :
    (∃ out, readSession text header record timestampMs = .ok out) ↔
      (providedSession text header record = none →
        |timestampMs| < epochSecondsMin ∨ InDates timestampMs) := by
  unfold readSession
  cases providedSession text header record with
  | some label => simp
  | none =>
      unfold deriveSessionLabel
      by_cases hsmall : |timestampMs| < epochSecondsMin
      · simp [hsmall]
      · by_cases hdate : InDates timestampMs <;> simp [hsmall, hdate]

theorem later_iff :
    Later previous timestampMs ↔
      previous ≠ some timestampMs ∧ ¬ ∃ earlier ∈ previous, timestampMs < earlier := by
  unfold Later
  cases previous with
  | none => simp
  | some earlier =>
      simp only [Option.mem_def, Option.some.injEq, forall_eq', exists_eq_left', ne_eq]
      omega

/-- A row behind the check of its time returns where its labels are there and its session can
be told. -/
theorem parseLabelled_total_iff :
    (∃ out, parseLabelled text request.symbolSafeLabel request.timeframeSafeLabel header record
        timestampMs = .ok out) ↔
      (∃ out, labelReason text request.symbolSafeLabel request.timeframeSafeLabel header
          record = .ok out) ∧
        ∀ numbers, labelReason text request.symbolSafeLabel request.timeframeSafeLabel header
            record = .ok none →
          readNumbers text header record = .ok numbers →
          ∃ out, readSession text header record timestampMs = .ok out := by
  unfold parseLabelled parseValues
  cases hreason : labelReason text request.symbolSafeLabel request.timeframeSafeLabel header
      record with
  | error e => simp [bind, Except.bind]
  | ok reason =>
      cases reason with
      | some reason => simp [bind, Except.bind, pure, Except.pure]
      | none =>
          cases hnumbers : readNumbers text header record with
          | error block => simp [bind, Except.bind]
          | ok numbers =>
              cases readSession text header record timestampMs <;>
                simp [bind, Except.bind, pure, Except.pure]

/-- **The body of the loop returns exactly on rows that can be read.** -/
theorem parseRow_total_iff :
    (∃ out, parseRow text request.symbolSafeLabel request.timeframeSafeLabel header previous
        record = .ok out) ↔ ReadableRow text request header previous record := by
  have htime := @parseTimestamp_total_iff text (cell text header record "timestamp")
  constructor
  · rintro ⟨out, hout⟩
    obtain ⟨timestamp, htimestamp, hout⟩ := bind_eq_ok hout
    have hlabelled : ∀ timestampMs, parseTimestamp text (cell text header record "timestamp") =
        .ok (.ok timestampMs) → Later previous timestampMs →
        ∃ out, parseLabelled text request.symbolSafeLabel request.timeframeSafeLabel header record
          timestampMs = .ok out := by
      intro timestampMs hms hlater
      obtain rfl := Except.ok.inj (htimestamp.symm.trans hms)
      obtain ⟨hnew, hbefore⟩ := later_iff.mp hlater
      simp only [if_neg hnew, if_neg hbefore] at hout
      exact ⟨out, hout⟩
    refine ⟨?digits, ?labels, ?dated⟩
    case digits =>
      rintro value rfl hne hdigits
      exact htime.mp ⟨timestamp, htimestamp⟩ hne hdigits
    case labels =>
      intro timestampMs hms hlater
      exact labelReason_total_iff.mp (parseLabelled_total_iff.mp (hlabelled _ hms hlater)).1
    case dated =>
      intro timestampMs numbers hms hlater hreason hnumbers
      exact readSession_total_iff.mp
        ((parseLabelled_total_iff.mp (hlabelled _ hms hlater)).2 numbers hreason hnumbers)
  · rintro ⟨hdigits, hlabels, hdated⟩
    obtain ⟨timestamp, htimestamp⟩ := htime.mpr (hdigits _ rfl)
    unfold parseRow
    rw [htimestamp]
    cases timestamp with
    | error reason => exact ⟨_, rfl⟩
    | ok timestampMs =>
        simp only [bind, Except.bind]
        by_cases hlater : Later previous timestampMs
        · obtain ⟨hnew, hbefore⟩ := later_iff.mp hlater
          rw [if_neg hnew, if_neg hbefore]
          exact parseLabelled_total_iff.mpr
            ⟨labelReason_total_iff.mpr (hlabels _ htimestamp hlater),
              fun numbers hreason hnumbers => readSession_total_iff.mpr
                (hdated _ numbers htimestamp hlater hreason hnumbers)⟩
        · by_cases hnew : previous = some timestampMs
          · rw [if_pos hnew]
            exact ⟨_, rfl⟩
          · have hbefore : ∃ earlier ∈ previous, timestampMs < earlier := by
              by_contra hnone
              exact hlater (later_iff.mpr ⟨hnew, hnone⟩)
            rw [if_neg hnew, if_pos hbefore]
            exact ⟨_, rfl⟩

/-- **The loop returns exactly when every record that it comes to can be read.** -/
theorem readRecords_total_iff {records : List CsvRecord} :
    (∃ out, readRecords text request.symbolSafeLabel request.timeframeSafeLabel header previous
        records = .ok out) ↔ CleanRecords text request header previous records := by
  induction records generalizing previous with
  | nil => simp [readRecords, CleanRecords]
  | cons record rest ih =>
      unfold readRecords CleanRecords
      by_cases hfits : Fits record
      · by_cases hblank : record = []
        · rw [if_neg (not_not.mpr hfits), if_pos hblank, if_pos hblank]
          simpa [hfits] using ih
        · simp only [hfits, hblank, not_true_eq_false, if_false, true_and]
          rw [← parseRow_total_iff]
          cases hrow : parseRow text request.symbolSafeLabel request.timeframeSafeLabel header
              previous record with
          | error e => simp [bind, Except.bind]
          | ok out =>
              cases out with
              | blocked category reasons => simp [bind, Except.bind, pure, Except.pure]
              | ready row =>
                  have hrest := @ih (some row.timestampMs)
                  simp only [bind, Except.bind, Except.ok.injEq, Intake.ready.injEq,
                    exists_eq', true_and, forall_eq']
                  rw [← hrest]
                  cases readRecords text request.symbolSafeLabel request.timeframeSafeLabel
                      header (some row.timestampMs) rest with
                  | error e => simp
                  | ok out' => cases out' <;> simp [pure, Except.pure]
      · simp [hfits]

/-- A row carries the values of a record, and passed the checks of the loop. -/
structure RowOf (text : PyText) (header : List String) (record : CsvRecord) (row : ParsedRow) :
    Prop where
  timestamp : parseTimestamp text (cell text header record "timestamp") =
    .ok (.ok row.timestampMs)
  openValue : parseFloat text (cell text header record "open") = some row.openValue
  highValue : parseFloat text (cell text header record "high") = some row.highValue
  lowValue : parseFloat text (cell text header record "low") = some row.lowValue
  closeValue : parseFloat text (cell text header record "close") = some row.closeValue
  range : row.highValue.lt row.lowValue = false
  spread : readSpread text header record = .ok row.spreadValue
  session : readSession text header record row.timestampMs =
    .ok (row.sessionLabel, row.sessionDerivation)

theorem readNumbers_eq_ok {numbers : RowNumbers}
    (h : readNumbers text header record = .ok numbers) :
    parseFloat text (cell text header record "open") = some numbers.openValue ∧
      parseFloat text (cell text header record "high") = some numbers.highValue ∧
      parseFloat text (cell text header record "low") = some numbers.lowValue ∧
      parseFloat text (cell text header record "close") = some numbers.closeValue ∧
      numbers.highValue.lt numbers.lowValue = false ∧
      readSpread text header record = .ok numbers.spreadValue := by
  unfold readNumbers at h
  dsimp only at h
  cases hopen : parseFloat text (cell text header record "open") with
  | none => simp [hopen] at h
  | some openValue =>
      cases hhigh : parseFloat text (cell text header record "high") with
      | none => simp [hopen, hhigh] at h
      | some highValue =>
          cases hlow : parseFloat text (cell text header record "low") with
          | none => simp [hopen, hhigh, hlow] at h
          | some lowValue =>
              cases hclose : parseFloat text (cell text header record "close") with
              | none => simp [hopen, hhigh, hlow, hclose] at h
              | some closeValue =>
                  simp only [hopen, hhigh, hlow, hclose] at h
                  split_ifs at h with hrange
                  cases hspread : readSpread text header record with
                  | error reason => simp [hspread] at h
                  | ok spreadValue =>
                      simp only [hspread, Except.ok.injEq] at h
                      subst h
                      exact ⟨rfl, rfl, rfl, rfl, by simpa using hrange, rfl⟩

/-- **A row of the loop carries the values of its record, and is later than the row before.** -/
theorem rowOf_parseRow {row : ParsedRow}
    (h : parseRow text symbol timeframe header previous record = .ok (.ready row)) :
    RowOf text header record row ∧ Later previous row.timestampMs := by
  obtain ⟨timestamp, htimestamp, h⟩ := bind_eq_ok h
  cases timestamp with
  | error reason => simp [pure, Except.pure] at h
  | ok timestampMs =>
      dsimp only at h
      split_ifs at h with hnew hbefore
      · simp [pure, Except.pure] at h
      · simp [pure, Except.pure] at h
      · obtain ⟨reason, -, h⟩ := bind_eq_ok h
        cases reason with
        | some reason => simp [pure, Except.pure] at h
        | none =>
            simp only [parseValues] at h
            cases hnumbers : readNumbers text header record with
            | error block => simp [hnumbers] at h
            | ok numbers =>
                simp only [hnumbers] at h
                obtain ⟨session, hsession, h⟩ := bind_eq_ok h
                obtain ⟨hopen, hhigh, hlow, hclose, hrange, hspread⟩ :=
                  readNumbers_eq_ok hnumbers
                obtain rfl := Intake.ready.inj (Except.ok.inj h)
                exact ⟨⟨htimestamp, hopen, hhigh, hlow, hclose, hrange, hspread, hsession⟩,
                  later_iff.mpr ⟨hnew, hbefore⟩⟩

/-- **The rows of a file carry the values of its records one by one, and their timestamps
increase.** -/
theorem rows_of_readRecords {records : List CsvRecord} {rows : List ParsedRow}
    (h : readRecords text symbol timeframe header previous records = .ok (.ready rows)) :
    List.Forall₂ (RowOf text header) (dataRecords records) rows ∧
      (∀ row ∈ rows, Later previous row.timestampMs) ∧
      (rows.map ParsedRow.timestampMs).Pairwise (· < ·) := by
  induction records generalizing previous rows with
  | nil =>
      obtain rfl := Intake.ready.inj (Except.ok.inj h)
      simp [dataRecords]
  | cons record rest ih =>
      unfold readRecords at h
      split_ifs at h with hfits hblank
      · simpa [dataRecords, hblank] using ih h
      · obtain ⟨out, hout, h⟩ := bind_eq_ok h
        cases out with
        | blocked category reasons => simp [pure, Except.pure] at h
        | ready row =>
            obtain ⟨out', hout', h⟩ := bind_eq_ok h
            cases out' with
            | blocked category reasons => simp [pure, Except.pure] at h
            | ready rows' =>
                obtain rfl := Intake.ready.inj (Except.ok.inj h)
                obtain ⟨hrow, hlater⟩ := rowOf_parseRow hout
                obtain ⟨hrows, hlaters, hsorted⟩ := ih hout'
                have hbehind : ∀ row' ∈ rows', row.timestampMs < row'.timestampMs :=
                  fun row' hrow' => hlaters row' hrow' _ rfl
                refine ⟨?_, ?_, ?_⟩
                · have hkept : dataRecords (record :: rest) = record :: dataRecords rest := by
                    simp [dataRecords, hblank]
                  rw [hkept]
                  exact .cons hrow hrows
                · intro row' hrow' earlier hearlier
                  rcases List.mem_cons.mp hrow' with rfl | hmem
                  · exact hlater earlier hearlier
                  · exact (hlater earlier hearlier).trans (hbehind row' hmem)
                · rw [List.map_cons, List.pairwise_cons]
                  refine ⟨fun timestampMs hmem => ?_, hsorted⟩
                  obtain ⟨row', hrow', rfl⟩ := List.mem_map.mp hmem
                  exact hbehind row' hrow'

end Reading

section Datasets

structure ParsedRow.Finite (row : ParsedRow) : Prop where
  openValue : row.openValue.IsFinite
  highValue : row.highValue.IsFinite
  lowValue : row.lowValue.IsFinite
  closeValue : row.closeValue.IsFinite

variable {request : HistoricalCsvImportRequest} {rows : List ParsedRow}
  {spreadValues : Option (List Double)}

structure FiniteNumbers (rows : List ParsedRow) (spreadValues : Option (List Double)) : Prop where
  rows : ∀ row ∈ rows, row.Finite
  spreads : ∀ values ∈ spreadValues, ∀ spread ∈ values, spread.IsFinite

/-- What the reading of files makes sure of. -/
structure CheckedRows (rows : List ParsedRow) (spreadValues : Option (List Double)) : Prop where
  some_row : rows ≠ []
  increasing : (rows.map ParsedRow.timestampMs).Pairwise (· < ·)
  ranges : ∀ row ∈ rows, row.highValue.lt row.lowValue = false
  spread_count : ∀ values ∈ spreadValues, values.length = rows.length
  spread_nonneg : ∀ values ∈ spreadValues, ∀ x, .finite x ∈ values → 0 ≤ x

def exactDataset (request : HistoricalCsvImportRequest) (rows : List ParsedRow)
    (spreadValues : Option (List Double)) : BacktestDataset where
  symbolSafeLabel := request.symbolSafeLabel
  timeframeSafeLabel := request.timeframeSafeLabel
  candles := rows.map fun row =>
    { timestamp := row.timestampMs
      openValue := row.openValue.valueOrZero
      highValue := row.highValue.valueOrZero
      lowValue := row.lowValue.valueOrZero
      closeValue := row.closeValue.valueOrZero
      syntheticFixture := request.treatAsSyntheticFixture }
  spreads := (datasetOf request rows spreadValues).spreads.map fun record =>
    { timestamp := record.timestamp
      spreadCategory := record.spreadCategory
      spreadValue := record.spreadValue.map Double.valueOrZero }
  sessions := (datasetOf request rows spreadValues).sessions
  syntheticFixture := request.treatAsSyntheticFixture
  validatedOperatorLocalCsv := !request.treatAsSyntheticFixture

theorem mem_of_spread {record : CsvSpread} {spread : Double}
    (hrecord : record ∈ (datasetOf request rows spreadValues).spreads)
    (hspread : record.spreadValue = some spread) : ∃ values ∈ spreadValues, spread ∈ values := by
  obtain ⟨⟨row, index⟩, -, rfl⟩ := List.mem_map.mp hrecord
  obtain ⟨values, hvalues, hget⟩ := Option.bind_eq_some_iff.mp hspread
  exact ⟨values, hvalues, List.mem_of_getElem? hget⟩

theorem datasetOf_eq_ofExact (h : FiniteNumbers rows spreadValues) :
    datasetOf request rows spreadValues =
      .ofExact (exactDataset request rows spreadValues) := by
  have hcandles : (datasetOf request rows spreadValues).candles =
      (exactDataset request rows spreadValues).candles.map CsvCandle.ofExact := by
    simp only [datasetOf, exactDataset, List.map_map]
    refine List.map_congr_left fun row hrow => ?_
    have hfinite := h.rows row hrow
    simp [CsvCandle.ofExact, hfinite.openValue.finite_valueOrZero,
      hfinite.highValue.finite_valueOrZero, hfinite.lowValue.finite_valueOrZero,
      hfinite.closeValue.finite_valueOrZero]
  have hspreads : (datasetOf request rows spreadValues).spreads =
      (exactDataset request rows spreadValues).spreads.map CsvSpread.ofExact := by
    simp only [exactDataset, List.map_map]
    conv_lhs => rw [← List.map_id (datasetOf request rows spreadValues).spreads]
    refine List.map_congr_left fun record hrecord => ?_
    obtain ⟨timestamp, category, spreadValue⟩ := record
    cases spreadValue with
    | none => rfl
    | some spread =>
        obtain ⟨values, hvalues, hmem⟩ := mem_of_spread hrecord rfl
        simp [CsvSpread.ofExact, (h.spreads values hvalues spread hmem).finite_valueOrZero]
  calc datasetOf request rows spreadValues
      = { datasetOf request rows spreadValues with
          candles := (datasetOf request rows spreadValues).candles
          spreads := (datasetOf request rows spreadValues).spreads } := rfl
    _ = _ := by
      rw [hcandles, hspreads]
      rfl

theorem datasetOf_aligned :
    (datasetOf request rows spreadValues).candles.map CsvCandle.timestamp =
        rows.map ParsedRow.timestampMs ∧
      (datasetOf request rows spreadValues).spreads.map CsvSpread.timestamp =
        rows.map ParsedRow.timestampMs ∧
      (datasetOf request rows spreadValues).sessions.map BacktestSessionRecord.timestamp =
        rows.map ParsedRow.timestampMs := by
  refine ⟨by simp [datasetOf, Function.comp_def], ?_, by simp [datasetOf, Function.comp_def]⟩
  simp only [datasetOf, List.map_map]
  refine List.ext_getElem? fun i => ?_
  simp [List.getElem?_zipIdx, Function.comp_def]

theorem finiteNumbers_of_ofExact {exact : BacktestDataset}
    (hcount : ∀ values ∈ spreadValues, values.length = rows.length)
    (h : datasetOf request rows spreadValues = .ofExact exact) :
    FiniteNumbers rows spreadValues := by
  constructor
  · intro row hrow
    have hcandle : _ ∈ (datasetOf request rows spreadValues).candles :=
      List.mem_map_of_mem (f := fun (row : ParsedRow) => CsvCandle.mk row.timestampMs
        row.openValue row.highValue row.lowValue row.closeValue
        request.treatAsSyntheticFixture) hrow
    rw [h] at hcandle
    obtain ⟨candle, -, hsame⟩ := List.mem_map.mp hcandle
    simp only [CsvCandle.ofExact, CsvCandle.mk.injEq] at hsame
    obtain ⟨-, hopen, hhigh, hlow, hclose, -⟩ := hsame
    exact ⟨⟨_, hopen.symm⟩, ⟨_, hhigh.symm⟩, ⟨_, hlow.symm⟩, ⟨_, hclose.symm⟩⟩
  · intro values hvalues spread hspread
    obtain ⟨i, hi⟩ := List.mem_iff_getElem?.mp hspread
    have hlt : i < rows.length := by
      rw [← hcount values hvalues]
      exact (List.getElem?_eq_some_iff.mp hi).1
    have hrecord : (datasetOf request rows spreadValues).spreads[i]? =
        some (CsvSpread.mk rows[i].timestampMs
          (if spreadValues.isSome then .spreadCategoryNormal else .spreadCategoryUnknown)
          (some spread)) := by
      rw [Option.mem_def] at hvalues
      simp [datasetOf, hlt, hvalues, hi]
    have hmem := List.mem_of_getElem? hrecord
    rw [h] at hmem
    obtain ⟨record, -, hsame⟩ := List.mem_map.mp hmem
    simp only [CsvSpread.ofExact, CsvSpread.mk.injEq] at hsame
    obtain ⟨x, -, hx⟩ := Option.map_eq_some_iff.mp hsame.2.2
    exact ⟨x, hx.symm⟩

/-- The loop over the candles finds nothing where their timestamps increase and their ranges are
in order. -/
theorem candleReasons_eq_nil {realDataOk : Bool} {previousTs : Option Int}
    {candles : List BacktestCandleRecord}
    (hreal : ∀ candle ∈ candles, candle.syntheticFixture = false → realDataOk = true)
    (hranges : ∀ candle ∈ candles, candle.lowValue ≤ candle.highValue)
    (hlater : ∀ previous ∈ previousTs, ∀ candle ∈ candles, previous < candle.timestamp)
    (hincreasing : (candles.map BacktestCandleRecord.timestamp).Pairwise (· < ·)) :
    Backtest.candleReasons realDataOk previousTs candles = [] := by
  induction candles generalizing previousTs with
  | nil => rfl
  | cons candle rest ih =>
      rw [List.forall_mem_cons] at hreal hranges
      rw [List.map_cons, List.pairwise_cons] at hincreasing
      have hfirst : ∀ previous ∈ previousTs, previous < candle.timestamp :=
        fun previous hprevious => hlater previous hprevious candle List.mem_cons_self
      have hsynthetic : ¬ (candle.syntheticFixture = false ∧ realDataOk = false) := by
        rintro ⟨hnot, hfalse⟩
        simp [hreal.1 hnot] at hfalse
      have hduplicate : previousTs ≠ some candle.timestamp :=
        fun hsame => lt_irrefl _ (hfirst _ hsame)
      have hmonotonic : ¬ ∃ previous ∈ previousTs, candle.timestamp < previous := by
        rintro ⟨previous, hprevious, hlt⟩
        exact lt_asymm hlt (hfirst previous hprevious)
      unfold Backtest.candleReasons
      rw [if_neg hsynthetic, if_neg (not_lt.mpr hranges.1), if_neg hduplicate,
        if_neg hmonotonic]
      refine ih hreal.2 hranges.2 (fun previous hprevious later hlater => ?_) hincreasing.2
      obtain rfl := Option.some.inj hprevious
      exact hincreasing.1 _ (List.mem_map_of_mem hlater)

theorem exact_timestamps :
    (exactDataset request rows spreadValues).candles.map BacktestCandleRecord.timestamp =
        rows.map ParsedRow.timestampMs ∧
      (exactDataset request rows spreadValues).spreads.map BacktestSpreadRecord.timestamp =
        rows.map ParsedRow.timestampMs ∧
      (exactDataset request rows spreadValues).sessions.map BacktestSessionRecord.timestamp =
        rows.map ParsedRow.timestampMs := by
  obtain ⟨-, hspreads, hsessions⟩ := @datasetOf_aligned request rows spreadValues
  refine ⟨by simp [exactDataset, Function.comp_def], ?_, hsessions⟩
  rw [← hspreads]
  simp [exactDataset, Function.comp_def]

theorem exact_ranges (hchecked : CheckedRows rows spreadValues)
    (hfinite : FiniteNumbers rows spreadValues) :
    ∀ candle ∈ (exactDataset request rows spreadValues).candles,
      candle.lowValue ≤ candle.highValue := by
  intro candle hcandle
  obtain ⟨row, hrow, rfl⟩ := List.mem_map.mp hcandle
  have hrange := hchecked.ranges row hrow
  obtain ⟨high, hhigh⟩ := (hfinite.rows row hrow).highValue
  obtain ⟨low, hlow⟩ := (hfinite.rows row hrow).lowValue
  simpa [hhigh, hlow, Double.valueOrZero] using hrange

theorem exact_spreads_nonneg (hchecked : CheckedRows rows spreadValues)
    (hfinite : FiniteNumbers rows spreadValues) :
    ∀ record ∈ (exactDataset request rows spreadValues).spreads, ∀ spread,
      record.spreadValue = some spread → 0 ≤ spread := by
  intro record hrecord spread hspread
  obtain ⟨source, hsource, rfl⟩ := List.mem_map.mp hrecord
  obtain ⟨d, hd, rfl⟩ := Option.map_eq_some_iff.mp hspread
  obtain ⟨values, hvalues, hmem⟩ := mem_of_spread hsource hd
  obtain ⟨x, rfl⟩ := hfinite.spreads values hvalues d hmem
  exact hchecked.spread_nonneg values hvalues x hmem

theorem spread_given (hchecked : CheckedRows rows spreadValues) :
    ∀ record ∈ (exactDataset request rows spreadValues).spreads,
      record.spreadCategory = .spreadCategoryUnknown ∨ record.spreadValue ≠ none := by
  intro record hrecord
  obtain ⟨source, hsource, rfl⟩ := List.mem_map.mp hrecord
  obtain ⟨⟨row, index⟩, hindex, rfl⟩ := List.mem_map.mp hsource
  cases hspreads : spreadValues with
  | none => exact Or.inl (by simp)
  | some values =>
      right
      have hlt : index < values.length := by
        rw [hchecked.spread_count values (by simp [hspreads])]
        have hget := List.mem_zipIdx hindex
        omega
      simp [hlt]

/-- **The validation accepts finite checked rows exactly when there are enough of them and the
labels of the request are supported.** -/
theorem exactDataset_valid_iff (hchecked : CheckedRows rows spreadValues)
    (hfinite : FiniteNumbers rows spreadValues) :
    (exactDataset request rows spreadValues).Valid ↔
      3 < rows.length ∧ request.symbolSafeLabel ∈ supportedSymbolSafeLabels ∧
        request.timeframeSafeLabel ∈ supportedTimeframeSafeLabels := by
  obtain ⟨hcandles, hspreads, hsessions⟩ := @exact_timestamps request rows spreadValues
  have hrows : (exactDataset request rows spreadValues).candles ≠ [] := by
    simpa [exactDataset] using hchecked.some_row
  have hlength : (exactDataset request rows spreadValues).candles.length = rows.length := by
    simp [exactDataset]
  have hloop : Backtest.candleReasons
      (exactDataset request rows spreadValues).validatedOperatorLocalCsv none
      (exactDataset request rows spreadValues).candles = [] := by
    refine candleReasons_eq_nil (fun candle hcandle => ?_) (exact_ranges hchecked hfinite)
      (by simp) (hcandles ▸ hchecked.increasing)
    obtain ⟨row, -, rfl⟩ := List.mem_map.mp hcandle
    simp [exactDataset]
  have hcover : ∀ {timestamps : List Int}, timestamps = rows.map ParsedRow.timestampMs →
      ¬ ∃ candle ∈ (exactDataset request rows spreadValues).candles,
        candle.timestamp ∉ timestamps := by
    rintro timestamps rfl ⟨candle, hcandle, hnot⟩
    exact hnot (hcandles ▸ List.mem_map_of_mem hcandle)
  have hgiven : ¬ ∃ record ∈ (exactDataset request rows spreadValues).spreads,
      record.spreadCategory ≠ .spreadCategoryUnknown ∧ record.spreadValue = none := by
    rintro ⟨record, hrecord, hknown, hnone⟩
    rcases spread_given hchecked record hrecord with hunknown | hsome
    · exact hknown hunknown
    · exact hsome hnone
  rw [Backtest.valid_iff_no_reasons]
  unfold Backtest.datasetReasons
  dsimp only
  rw [hloop, if_neg (hcover hspreads), if_neg (hcover hsessions), if_neg hgiven, if_neg hrows,
    hlength]
  by_cases hmany : 3 < rows.length
  · by_cases hsymbol : request.symbolSafeLabel ∈ supportedSymbolSafeLabels
    · by_cases htimeframe : request.timeframeSafeLabel ∈ supportedTimeframeSafeLabels
      · simp [exactDataset, hmany, hsymbol, htimeframe]
      · simp [exactDataset, htimeframe]
    · simp [exactDataset, hsymbol]
  · have hshort : (rows.length : Int) ≤ 3 := by omega
    simp [exactDataset, hmany, hshort, hchecked.some_row]

/-- **A dataset of checked rows is sound exactly when its numbers are finite, and it is short or
the labels of the request are supported.** -/
theorem sound_datasetOf_iff (hchecked : CheckedRows rows spreadValues) :
    (datasetOf request rows spreadValues).Sound ↔
      FiniteNumbers rows spreadValues ∧
        (3 < rows.length → request.symbolSafeLabel ∈ supportedSymbolSafeLabels ∧
          request.timeframeSafeLabel ∈ supportedTimeframeSafeLabels) := by
  have hlength : (datasetOf request rows spreadValues).candles.length = rows.length := by
    simp [datasetOf]
  obtain ⟨hcandles, hspreads, hsessions⟩ := @datasetOf_aligned request rows spreadValues
  constructor
  · intro hsound
    obtain ⟨exact, hexact, -, -, hvalid⟩ := hsound.finite
    refine ⟨finiteNumbers_of_ofExact hchecked.spread_count hexact, fun hmany => ?_⟩
    have hwarm : (3 : Int) < rows.length := by exact_mod_cast hmany
    have hreasons := Backtest.valid_iff_no_reasons.mp (hvalid (hlength ▸ hwarm))
    have hsymbol : exact.symbolSafeLabel = request.symbolSafeLabel :=
      (congrArg CsvDataset.symbolSafeLabel hexact).symm
    have htimeframe : exact.timeframeSafeLabel = request.timeframeSafeLabel :=
      (congrArg CsvDataset.timeframeSafeLabel hexact).symm
    unfold Backtest.datasetReasons at hreasons
    simp only [List.append_eq_nil_iff, ite_eq_right_iff, reduceCtorEq, imp_false, not_not,
      hsymbol, htimeframe] at hreasons
    exact ⟨hreasons.1.1.1.1.1.1.1.2, hreasons.1.1.1.1.1.1.2⟩
  · rintro ⟨hfinite, hlabels⟩
    refine ⟨hspreads.trans hcandles.symm, hsessions.trans hcandles.symm,
      hcandles ▸ hchecked.increasing, exactDataset request rows spreadValues,
      datasetOf_eq_ofExact hfinite, exact_ranges hchecked hfinite,
      exact_spreads_nonneg hchecked hfinite, fun hmany => ?_⟩
    have hwarm : (3 : Int) < rows.length := hlength ▸ hmany
    have hrows : 3 < rows.length := by exact_mod_cast hwarm
    exact (exactDataset_valid_iff hchecked hfinite).mpr ⟨hrows, hlabels hrows⟩

end Datasets

end FxStrategyLab.CsvImport
