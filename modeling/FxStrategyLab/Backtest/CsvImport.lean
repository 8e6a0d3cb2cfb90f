import FxStrategyLab.Backtest.Dataset
import FxStrategyLab.Library.Doubles
import FxStrategyLab.Session.Risk

/-!
# The import of local CSV files

This file embeds `gmo_historical_data_import_adapter.py`.  A file is given by the records that
`csv.reader` yields, its numbers are doubles, and what Python reads of single texts is a
parameter.  The labels of a result that no reader uses are left out.
-/

namespace FxStrategyLab.CsvImport

open Backtest (BacktestDataset BacktestCandleRecord BacktestSpreadRecord BacktestSessionRecord
  SessionAllowedSafeLabel SpreadCategorySafeLabel)
open Library.Doubles (Double)

/-- What `datetime.fromisoformat` makes of a text: an aware time by its `int(timestamp() *
1000)`. -/
inductive IsoReading
  | unparseable
  | naive
  | aware (epochMs : Int)

/-- What Python reads of a text: `lower`, `upper`, `isdigit`, `int`, `float` and
`fromisoformat`; `int` and `float` read nothing where they raise. -/
structure PyText where
  lower : String → String
  upper : String → String
  isDigit : String → Bool
  int : String → Option Int
  float : String → Option Double
  fromisoformat : String → IsoReading

/-- Python's `str.strip`. -/
def stripped (text : String) : String :=
  String.ofList (Session.strip text.toList)

/-- Python's `str.replace` of a character. -/
def replaceChar (old : Char) (new : String) (text : String) : String :=
  String.ofList (text.toList.flatMap fun c => if c = old then new.toList else [c])

def epochSecondsMin : Int := 1000000000

def jstBlockedHours : List Int := [5, 6, 7, 8]

def requiredCsvColumns : List String :=
  ["timestamp", "symbol", "timeframe", "open", "high", "low", "close", "source_label"]

def bidAskRequiredColumns : List String :=
  ["timestamp", "symbol", "timeframe", "open", "high", "low", "close", "source_label"]

def forbiddenCsvColumns : List String :=
  ["account_id", "order_id", "position_id", "trade_id", "transaction_id", "api_key",
    "api_secret", "signature", "header", "credential", "raw_response", "broker_response"]

inductive CsvImportIntakeCategory
  | dataAdapterNotConfigured
  | csvIntakeReadyOfficialEvaluation
  | csvIntakeReadyReferenceOnly
  | csvIntakeBlockedMissingSpread
  | csvIntakeBlockedMissingTimestampTz
  | csvIntakeBlockedInvalidColumns
  | csvIntakeBlockedForbiddenColumns
  | csvIntakeBlockedRemotePath
  | csvIntakeBlockedBidAskMismatch
  | csvIntakeBlockedEmptyFile
  | csvIntakeBlockedUnsupportedFormat
  | csvIntakeNotProvided
deriving DecidableEq

/-- What an import can raise: `None` has no `strip`, a text of digits is no number, a number is
no date, and a cell is longer than the reader takes. -/
inductive ImportError
  | attributeError
  | valueError
  | dateError
  | csvError
deriving DecidableEq

/-- A blocked intake, or what it reads. -/
inductive Intake (α : Type)
  | blocked (category : CsvImportIntakeCategory) (reasons : List String)
  | ready (value : α)

abbrev CsvRecord := List String

/-- The `csv.field_size_limit`. -/
def fieldSizeLimit : Nat := 131072

def Fits (record : CsvRecord) : Prop :=
  ∀ cell ∈ record, cell.length ≤ fieldSizeLimit
deriving Decidable

/-- A key of a dict gets a value, and keeps its place. -/
def setKey {β : Type} (entries : List (String × β)) (key : String) (value : β) :
    List (String × β) :=
  if key ∈ entries.map Prod.fst then
    entries.map fun entry => if entry.1 = key then (key, value) else entry
  else entries ++ [(key, value)]

/-- The dict of `csv.DictReader`: cells that are missing are `None`, and cells behind the header
have no key. -/
def dictRow (fieldnames : List String) (record : CsvRecord) :
    List (String × Option String) :=
  let filled := (fieldnames.zip record).foldl (fun d e => setKey d e.1 (some e.2)) []
  (fieldnames.drop record.length).foldl (fun d name => setKey d name none) filled

structure ParsedRow where
  timestampMs : Int
  openValue : Double
  highValue : Double
  lowValue : Double
  closeValue : Double
  spreadValue : Option Double
  sessionLabel : SessionAllowedSafeLabel
  sessionDerivation : String

structure RowNumbers where
  openValue : Double
  highValue : Double
  lowValue : Double
  closeValue : Double
  spreadValue : Option Double

section Rows

variable (text : PyText)

def normalizeColumn (name : String) : String :=
  replaceChar '-' "_" (replaceChar ' ' "_" (text.lower (stripped name)))

def forbiddenNormalized : List String :=
  forbiddenCsvColumns.map (normalizeColumn text) ++
    ["rawrequest", "rawresponse", "brokerresponse", "apikey", "apisecret"]

def forbiddenColumnsPresent (header : List String) : Bool :=
  header.any fun rawName =>
    let normalized := normalizeColumn text rawName
    decide (normalized ∈ forbiddenNormalized text) ||
      decide (replaceChar '_' "" normalized ∈ forbiddenNormalized text)

/-- `text.isdigit()`, also behind a minus sign. -/
def digitText (value : String) : Bool :=
  text.isDigit value ||
    match value.toList with
    | '-' :: rest => text.isDigit (String.ofList rest)
    | _ => false

/-- The milliseconds of an integer: seconds and milliseconds by its size, and small integers are
ticks. -/
def epochMsOf (value : Int) : Int :=
  if epochSecondsMin * 1000 ≤ |value| then value
  else if epochSecondsMin ≤ |value| then value * 1000
  else value

/-- Source `_parse_timestamp`: a time, or the label of an error. -/
def parseTimestamp (raw : Option String) : Except ImportError (Except String Int) :=
  let value := stripped (raw.getD "")
  if value = "" then .ok (.error "TIMESTAMP_MISSING")
  else if digitText text value then
    match text.int value with
    | none => .error .valueError
    | some number => .ok (.ok (epochMsOf number))
  else
    match text.fromisoformat (replaceChar 'Z' "+00:00" value) with
    | .unparseable => .ok (.error "TIMESTAMP_UNPARSEABLE")
    | .naive => .ok (.error "TIMESTAMP_TZ_MISSING")
    | .aware epochMs => .ok (.ok epochMs)

/-- Source `_parse_float`; the text of `None` is a text like others. -/
def parseFloat (raw : Option String) : Option Double :=
  text.float (stripped (raw.getD "None"))

def InDates (timestampMs : Int) : Prop :=
  -62135596800000 ≤ timestampMs ∧ timestampMs < 253402300800000
deriving Decidable

def deriveSessionLabel (timestampMs : Int) :
    Except ImportError (SessionAllowedSafeLabel × String) :=
  if |timestampMs| < epochSecondsMin then
    .ok (.sessionAllowed, "SESSION_DERIVED_SYNTHETIC_TICK_DEFAULT_ALLOWED")
  else if ¬ InDates timestampMs then .error .dateError
  else
    let jstHour := (timestampMs / 3600000 % 24 + 9) % 24
    .ok (if jstHour ∈ jstBlockedHours then .sessionBlocked else .sessionAllowed,
      "SESSION_DERIVED_FROM_UTC_TIMESTAMP_JST_POLICY")

/-- `normalized_row` of a record. -/
def normalizedRow (header : List String) (record : CsvRecord) :
    List (String × Option String) :=
  (dictRow header record).foldl (fun d e => setKey d (normalizeColumn text e.1) e.2) []

/-- `normalized_row.get(column, "")`. -/
def cell (header : List String) (record : CsvRecord) (column : String) : Option String :=
  (((normalizedRow text header record).find? fun e => e.1 = column).map Prod.snd).getD (some "")

/-- A cell without spaces; `None` has no `strip`. -/
def strippedCell (header : List String) (record : CsvRecord) (column : String) :
    Except ImportError String :=
  match cell text header record column with
  | none => .error .attributeError
  | some value => .ok (stripped value)

def labelReason (symbol timeframe : String) (header : List String) (record : CsvRecord) :
    Except ImportError (Option String) := do
  let givenSymbol ← strippedCell text header record "symbol"
  if givenSymbol ≠ symbol then return some "SYMBOL_MISSING_OR_MISMATCH_BLOCKED"
  else do
    let givenTimeframe ← strippedCell text header record "timeframe"
    if givenTimeframe ≠ timeframe then return some "TIMEFRAME_MISSING_OR_MISMATCH_BLOCKED"
    else do
      let sourceLabel ← strippedCell text header record "source_label"
      if sourceLabel = "" then return some "SOURCE_LABEL_MISSING_BLOCKED"
      else return none

def normalizedHeader (header : List String) : List String :=
  header.map (normalizeColumn text)

/-- The spread of a row: of its own column, or of its bid and its ask. -/
def readSpread (header : List String) (record : CsvRecord) :
    Except String (Option Double) :=
  if "spread" ∈ normalizedHeader text header then
    match parseFloat text (cell text header record "spread") with
    | none => .error "SPREAD_VALUE_MISSING_OR_INVALID_BLOCKED"
    | some spread =>
        if spread.lt (.finite 0) then .error "SPREAD_VALUE_MISSING_OR_INVALID_BLOCKED"
        else .ok (some spread)
  else if "bid" ∈ normalizedHeader text header ∧ "ask" ∈ normalizedHeader text header then
    match parseFloat text (cell text header record "bid"),
        parseFloat text (cell text header record "ask") with
    | some bid, some ask =>
        if ask.lt bid then .error "BID_ASK_VALUES_INVALID_BLOCKED" else .ok (some (ask.sub bid))
    | _, _ => .error "BID_ASK_VALUES_INVALID_BLOCKED"
  else .ok none

def readNumbers (header : List String) (record : CsvRecord) :
    Except (CsvImportIntakeCategory × String) RowNumbers :=
  let number column := parseFloat text (cell text header record column)
  match number "open", number "high", number "low", number "close" with
  | some openValue, some highValue, some lowValue, some closeValue =>
      if highValue.lt lowValue then
        .error (.csvIntakeBlockedInvalidColumns, "HIGH_BELOW_LOW_BLOCKED")
      else
        match readSpread text header record with
        | .error reason => .error (.csvIntakeBlockedMissingSpread, reason)
        | .ok spreadValue => .ok { openValue, highValue, lowValue, closeValue, spreadValue }
  | _, _, _, _ =>
      .error (.csvIntakeBlockedInvalidColumns, "OHLC_MISSING_OR_NONNUMERIC_BLOCKED")

def providedSession (header : List String) (record : CsvRecord) :
    Option SessionAllowedSafeLabel :=
  let provided := text.upper (normalizeColumn text
    ((cell text header record "session_label").getD ""))
  if provided = "SESSION_ALLOWED" then some .sessionAllowed
  else if provided = "SESSION_BLOCKED" then some .sessionBlocked
  else none

def readSession (header : List String) (record : CsvRecord) (timestampMs : Int) :
    Except ImportError (SessionAllowedSafeLabel × String) :=
  match providedSession text header record with
  | some label => .ok (label, "SESSION_PROVIDED_IN_CSV")
  | none => deriveSessionLabel timestampMs

def RowNumbers.row (numbers : RowNumbers) (timestampMs : Int)
    (session : SessionAllowedSafeLabel × String) : ParsedRow where
  timestampMs
  openValue := numbers.openValue
  highValue := numbers.highValue
  lowValue := numbers.lowValue
  closeValue := numbers.closeValue
  spreadValue := numbers.spreadValue
  sessionLabel := session.1
  sessionDerivation := session.2

variable (symbol timeframe : String)

/-- A row behind the checks of its time and its labels. -/
def parseValues (header : List String) (record : CsvRecord) (timestampMs : Int) :
    Except ImportError (Intake ParsedRow) :=
  match readNumbers text header record with
  | .error (category, reason) => .ok (.blocked category [reason])
  | .ok numbers => do
      let session ← readSession text header record timestampMs
      return .ready (numbers.row timestampMs session)

/-- A row behind the check of its time. -/
def parseLabelled (header : List String) (record : CsvRecord) (timestampMs : Int) :
    Except ImportError (Intake ParsedRow) := do
  let reason ← labelReason text symbol timeframe header record
  match reason with
  | some reason => return .blocked .csvIntakeBlockedInvalidColumns [reason]
  | none => parseValues text header record timestampMs

/-- The body of the loop of `_read_csv_rows`. -/
def parseRow (header : List String) (previous : Option Int) (record : CsvRecord) :
    Except ImportError (Intake ParsedRow) := do
  let timestamp ← parseTimestamp text (cell text header record "timestamp")
  match timestamp with
  | .error reason => return .blocked .csvIntakeBlockedMissingTimestampTz [reason]
  | .ok timestampMs =>
      if previous = some timestampMs then
        return .blocked .csvIntakeBlockedInvalidColumns ["DUPLICATE_TIMESTAMP_BLOCKED"]
      else if ∃ earlier ∈ previous, timestampMs < earlier then
        return .blocked .csvIntakeBlockedInvalidColumns ["TIMESTAMP_NOT_MONOTONIC_BLOCKED"]
      else parseLabelled text symbol timeframe header record timestampMs

/-- The loop of `_read_csv_rows`; blank lines give no row. -/
def readRecords (header : List String) :
    Option Int → List CsvRecord → Except ImportError (Intake (List ParsedRow))
  | _, [] => .ok (.ready [])
  | previous, record :: rest =>
      if ¬ Fits record then .error .csvError
      else if record = [] then readRecords header previous rest
      else do
        match ← parseRow text symbol timeframe header previous record with
        | .blocked category reasons => return .blocked category reasons
        | .ready row => do
            match ← readRecords header (some row.timestampMs) rest with
            | .blocked category reasons => return .blocked category reasons
            | .ready rows => return .ready (row :: rows)

def readCsvRows (requiredColumns : List String) (records : List CsvRecord) :
    Except ImportError (Intake (List ParsedRow)) :=
  match records with
  | [] => .ok (.blocked .csvIntakeBlockedEmptyFile ["CSV_EMPTY_NO_HEADER"])
  | header :: rest =>
      let missing := requiredColumns.filter fun column =>
        column ∉ normalizedHeader text header
      if ¬ Fits header then .error .csvError
      else if header = [] then
        .ok (.blocked .csvIntakeBlockedEmptyFile ["CSV_EMPTY_NO_HEADER"])
      else if forbiddenColumnsPresent text header then
        .ok (.blocked .csvIntakeBlockedForbiddenColumns
          ["FORBIDDEN_COLUMN_DETECTED_VALUES_NEVER_READ"])
      else if missing ≠ [] then
        .ok (.blocked .csvIntakeBlockedInvalidColumns
          (missing.map fun column => "REQUIRED_COLUMN_MISSING_" ++ text.upper column))
      else do
        match ← readRecords text symbol timeframe header none rest with
        | .blocked category reasons => return .blocked category reasons
        | .ready [] => return .blocked .csvIntakeBlockedEmptyFile ["CSV_EMPTY_NO_ROWS"]
        | .ready rows => return .ready rows

end Rows

/-- Source `BacktestCandleRecord`, of doubles. -/
structure CsvCandle where
  timestamp : Int
  openValue : Double
  highValue : Double
  lowValue : Double
  closeValue : Double
  syntheticFixture : Bool
deriving DecidableEq

/-- Source `BacktestSpreadRecord`, of doubles. -/
structure CsvSpread where
  timestamp : Int
  spreadCategory : SpreadCategorySafeLabel
  spreadValue : Option Double
deriving DecidableEq

/-- Source `BacktestDataset`, of doubles. -/
structure CsvDataset where
  symbolSafeLabel : String
  timeframeSafeLabel : String
  candles : List CsvCandle
  spreads : List CsvSpread
  sessions : List BacktestSessionRecord
  warmupBars : Int := 3
  syntheticFixture : Bool
  validatedOperatorLocalCsv : Bool
deriving DecidableEq

/-- A path that the import is asked for. -/
inductive PathState
  | directory
  | absent
  | file (isCsv : Bool) (records : List CsvRecord)

/-- Source `HistoricalCsvImportRequest`, without its route label. -/
structure HistoricalCsvImportRequest where
  symbolSafeLabel : String := "USD_JPY"
  timeframeSafeLabel : String := "M5"
  combinedCsvPath : Option String := none
  bidCsvPath : Option String := none
  askCsvPath : Option String := none
  officialEvaluationRequested : Bool := true
  treatAsSyntheticFixture : Bool := true

/-- Source `HistoricalCsvImportMetadata`, without its constant fields. -/
structure HistoricalCsvImportMetadata where
  intakeCategory : CsvImportIntakeCategory
  officialEvaluationEligible : Bool
  spreadIncluded : Bool
  spreadDerivationLabels : List String
  sessionDerivationLabel : String
  barCount : Nat
  realDataUsed : Bool
deriving DecidableEq

/-- Source `HistoricalCsvImportResult`, without its constant fields. -/
structure HistoricalCsvImportResult where
  intakeCategory : CsvImportIntakeCategory
  blockedReasons : List String
  dataset : Option CsvDataset
  metadata : Option HistoricalCsvImportMetadata
deriving DecidableEq

def blocked (category : CsvImportIntakeCategory) (reasons : List String) :
    HistoricalCsvImportResult where
  intakeCategory := category
  blockedReasons := reasons
  dataset := none
  metadata := none

section Import

variable (text : PyText) (files : String → PathState) (request : HistoricalCsvImportRequest)

def remotePrefixes : List String :=
  ["http:", "https:", "s3:", "gs:", "ftp:", "sftp:", "file:"]

/-- Source `_path_check`, with the records of the file. -/
def pathCheck (pathValue : Option String) : Intake (List CsvRecord) :=
  let path := stripped (pathValue.getD "")
  let lowered := (text.lower path).toList
  if path = "" then .blocked .csvIntakeNotProvided ["PATH_NOT_PROVIDED"]
  else if "://".toList <:+: lowered ∨ ∃ start ∈ remotePrefixes, start.toList <+: lowered then
    .blocked .csvIntakeBlockedRemotePath ["REMOTE_PATH_OR_URL_BLOCKED"]
  else
    match files path with
    | .directory =>
        .blocked .csvIntakeBlockedUnsupportedFormat ["DIRECTORY_PATH_BLOCKED_NO_AUTO_DISCOVERY"]
    | .absent => .blocked .csvIntakeNotProvided ["PATH_DOES_NOT_EXIST"]
    | .file isCsv records =>
        if isCsv then .ready records
        else .blocked .csvIntakeBlockedUnsupportedFormat ["NON_CSV_FILE_BLOCKED"]

/-- The rows of a file that a request names. -/
def readSide (requiredColumns : List String) (pathValue : Option String) :
    Except ImportError (Intake (List ParsedRow)) :=
  match pathCheck text files pathValue with
  | .blocked category reasons => .ok (.blocked category reasons)
  | .ready records =>
      readCsvRows text request.symbolSafeLabel request.timeframeSafeLabel requiredColumns records

def datasetOf (rows : List ParsedRow) (spreadValues : Option (List Double)) : CsvDataset where
  symbolSafeLabel := request.symbolSafeLabel
  timeframeSafeLabel := request.timeframeSafeLabel
  candles := rows.map fun row =>
    { timestamp := row.timestampMs
      openValue := row.openValue
      highValue := row.highValue
      lowValue := row.lowValue
      closeValue := row.closeValue
      syntheticFixture := request.treatAsSyntheticFixture }
  spreads := rows.zipIdx.map fun (row, index) =>
    { timestamp := row.timestampMs
      spreadCategory :=
        if spreadValues.isSome then .spreadCategoryNormal else .spreadCategoryUnknown
      spreadValue := spreadValues.bind fun values => values[index]? }
  sessions := rows.map fun row =>
    { timestamp := row.timestampMs, sessionSafeLabel := row.sessionLabel }
  syntheticFixture := request.treatAsSyntheticFixture
  validatedOperatorLocalCsv := !request.treatAsSyntheticFixture

def buildDataset (rows : List ParsedRow) (spreadValues : Option (List Double))
    (spreadDerivationLabels : List String) : HistoricalCsvImportResult :=
  if spreadValues = none ∧ request.officialEvaluationRequested = true then
    blocked .csvIntakeBlockedMissingSpread
      ["OFFICIAL_EVALUATION_REQUESTED_BUT_SPREAD_DATA_MISSING"]
  else
    let category : CsvImportIntakeCategory :=
      if spreadValues.isSome then .csvIntakeReadyOfficialEvaluation
      else .csvIntakeReadyReferenceOnly
    { intakeCategory := category
      blockedReasons := []
      dataset := some (datasetOf request rows spreadValues)
      metadata := some
        { intakeCategory := category
          officialEvaluationEligible := spreadValues.isSome
          spreadIncluded := spreadValues.isSome
          spreadDerivationLabels
          sessionDerivationLabel := (rows.head?.map ParsedRow.sessionDerivation).getD ""
          barCount := rows.length
          realDataUsed := !request.treatAsSyntheticFixture } }

def combinedSpreads (rows : List ParsedRow) : Option (List Double) :=
  rows.mapM ParsedRow.spreadValue

def pairSpreads (bidRows askRows : List ParsedRow) : Option (List Double) :=
  (bidRows.zip askRows).mapM fun (bid, ask) =>
    let barSpread := ask.closeValue.sub bid.closeValue
    if barSpread.lt (.finite 0) then none else some barSpread

/-- The intake of one file. -/
def importCombined : Except ImportError HistoricalCsvImportResult := do
  match ← readSide text files request requiredCsvColumns request.combinedCsvPath with
  | .blocked category reasons => return blocked category reasons
  | .ready rows =>
      let spreads := combinedSpreads rows
      return buildDataset request rows spreads
        (if spreads.isSome then ["SPREAD_FROM_CSV_COLUMNS"] else [])

/-- The dataset of two files that were read. -/
def joinPair (bidRows askRows : List ParsedRow) : HistoricalCsvImportResult :=
  if bidRows.length ≠ askRows.length then
    blocked .csvIntakeBlockedBidAskMismatch ["BID_ASK_ROW_COUNT_MISMATCH"]
  else if bidRows.map ParsedRow.timestampMs ≠ askRows.map ParsedRow.timestampMs then
    blocked .csvIntakeBlockedBidAskMismatch ["BID_ASK_TIMESTAMP_MISMATCH"]
  else
    match pairSpreads bidRows askRows with
    | none =>
        blocked .csvIntakeBlockedBidAskMismatch
          ["BID_ASK_SPREAD_DERIVATION_IMPOSSIBLE_NEGATIVE"]
    | some spreads =>
        buildDataset request bidRows (some spreads)
          ["SPREAD_FROM_BID_ASK_BAR_APPROXIMATION", "NOT_TICK_LEVEL_SPREAD"]

/-- The intake of a bid and an ask file. -/
def importPair : Except ImportError HistoricalCsvImportResult := do
  match ← readSide text files request bidAskRequiredColumns request.bidCsvPath with
  | .blocked category reasons => return blocked category reasons
  | .ready bidRows => do
      match ← readSide text files request bidAskRequiredColumns request.askCsvPath with
      | .blocked category reasons => return blocked category reasons
      | .ready askRows => return joinPair request bidRows askRows

def given (pathValue : Option String) : Bool :=
  pathValue.any fun path => path ≠ ""

def importHistoricalCsv : Except ImportError HistoricalCsvImportResult :=
  let hasCombined := given request.combinedCsvPath
  let hasPair := given request.bidCsvPath || given request.askCsvPath
  if hasCombined = false ∧ hasPair = false then
    .ok (blocked .dataAdapterNotConfigured ["NO_CSV_PATH_PROVIDED_FAIL_CLOSED"])
  else if hasCombined = true ∧ hasPair = true then
    .ok (blocked .csvIntakeBlockedUnsupportedFormat
      ["COMBINED_AND_PAIR_MODES_ARE_MUTUALLY_EXCLUSIVE"])
  else if hasCombined = true then importCombined text files request
  else if ¬ (given request.bidCsvPath = true ∧ given request.askCsvPath = true) then
    .ok (blocked .csvIntakeBlockedBidAskMismatch ["BID_AND_ASK_FILES_BOTH_REQUIRED"])
  else importPair text files request

end Import

end FxStrategyLab.CsvImport
