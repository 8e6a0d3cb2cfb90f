import FxStrategyLab.Backtest.CsvSoundness

/-!
# When the import of CSV files is sound

The import returns a sound dataset or a block exactly when the records that it comes to can be
read, the numbers of the records behind a dataset are finite, and a dataset that is long enough
to be validated has supported labels.  In the intake of a pair of files these are the records
of both, and the differences of their closes.

**Results.** `readCsvRows_total_iff`, `soundImport_combined_iff`, `soundImport_pair_iff` and
`sound_import_iff`.
-/

namespace FxStrategyLab.CsvImport

open Backtest (BacktestDataset BacktestSessionRecord supportedSymbolSafeLabels
  supportedTimeframeSafeLabels)
open Library.Doubles (Double)
open Library.Series (bind_eq_ok mapM_eq_some_iff related_entry forall_iff_of_related
  forall₂_iff_of_related)

section Definitions

variable (text : PyText) (files : String → PathState) (request : HistoricalCsvImportRequest)

def SupportedLabels : Prop :=
  request.symbolSafeLabel ∈ supportedSymbolSafeLabels ∧
    request.timeframeSafeLabel ∈ supportedTimeframeSafeLabels

def HasSpread (header : List String) : Prop :=
  "spread" ∈ normalizedHeader text header ∨
    "bid" ∈ normalizedHeader text header ∧ "ask" ∈ normalizedHeader text header

def FinitePrices (header : List String) (record : CsvRecord) : Prop :=
  ∀ column ∈ ["open", "high", "low", "close"],
    ∀ number ∈ parseFloat text (cell text header record column), number.IsFinite

def FiniteSpread (header : List String) (record : CsvRecord) : Prop :=
  ∀ spread, readSpread text header record = .ok (some spread) → spread.IsFinite

/-- The records of a file pass the checks of `_read_csv_rows`. -/
def Passes (requiredColumns : List String) (records : List CsvRecord) : Prop :=
  ∃ rows, readCsvRows text request.symbolSafeLabel request.timeframeSafeLabel requiredColumns
    records = .ok (.ready rows)

def Closes (property : Double → Prop) (bidHeader askHeader : List String)
    (bid ask : CsvRecord) : Prop :=
  ∀ bidClose ∈ parseFloat text (cell text bidHeader bid "close"),
    ∀ askClose ∈ parseFloat text (cell text askHeader ask "close"),
      property (askClose.sub bidClose)

/-- A bid and an ask record make a pair: they have one time, and the ask does not close below
the bid. -/
def MakePair (bidHeader askHeader : List String) (bid ask : CsvRecord) : Prop :=
  parseTimestamp text (cell text bidHeader bid "timestamp") =
      parseTimestamp text (cell text askHeader ask "timestamp") ∧
    Closes text (fun spread => spread.lt (.finite 0) = false) bidHeader askHeader bid ask

/-- The condition on one file. -/
structure CleanCombined : Prop where
  readable : ∀ records, pathCheck text files request.combinedCsvPath = .ready records →
    CleanFile text request requiredCsvColumns records
  numbers : ∀ header rest, pathCheck text files request.combinedCsvPath =
      .ready (header :: rest) →
    Passes text request requiredCsvColumns (header :: rest) →
    HasSpread text header ∨ request.officialEvaluationRequested = false →
    ∀ record ∈ dataRecords rest, FinitePrices text header record ∧
      FiniteSpread text header record
  labels : ∀ header rest, pathCheck text files request.combinedCsvPath =
      .ready (header :: rest) →
    Passes text request requiredCsvColumns (header :: rest) →
    HasSpread text header ∨ request.officialEvaluationRequested = false →
    3 < (dataRecords rest).length → SupportedLabels request

/-- Two files make pairs of all their records. -/
structure PairedFiles (bidHeader askHeader : List String) (bidRest askRest : List CsvRecord) :
    Prop where
  bid_path : pathCheck text files request.bidCsvPath = .ready (bidHeader :: bidRest)
  ask_path : pathCheck text files request.askCsvPath = .ready (askHeader :: askRest)
  bid_passes : Passes text request bidAskRequiredColumns (bidHeader :: bidRest)
  ask_passes : Passes text request bidAskRequiredColumns (askHeader :: askRest)
  pairs : List.Forall₂ (MakePair text bidHeader askHeader) (dataRecords bidRest)
    (dataRecords askRest)

/-- The condition on a pair of files. -/
structure CleanPair : Prop where
  bid_readable : ∀ records, pathCheck text files request.bidCsvPath = .ready records →
    CleanFile text request bidAskRequiredColumns records
  ask_readable : ∀ bidRecords records, pathCheck text files request.bidCsvPath =
      .ready bidRecords →
    Passes text request bidAskRequiredColumns bidRecords →
    pathCheck text files request.askCsvPath = .ready records →
    CleanFile text request bidAskRequiredColumns records
  numbers : ∀ {bidHeader askHeader bidRest askRest},
    PairedFiles text files request bidHeader askHeader bidRest askRest →
    (∀ bid ∈ dataRecords bidRest, FinitePrices text bidHeader bid) ∧
      List.Forall₂ (Closes text Double.IsFinite bidHeader askHeader) (dataRecords bidRest)
        (dataRecords askRest)
  labels : ∀ {bidHeader askHeader bidRest askRest},
    PairedFiles text files request bidHeader askHeader bidRest askRest →
    3 < (dataRecords bidRest).length → SupportedLabels request

/-- The condition on the files of a request. -/
structure CleanImport : Prop where
  combined : given request.combinedCsvPath = true → given request.bidCsvPath = false →
    given request.askCsvPath = false → CleanCombined text files request
  pair : given request.combinedCsvPath = false → given request.bidCsvPath = true →
    given request.askCsvPath = true → CleanPair text files request

end Definitions

section Files

variable {text : PyText} {files : String → PathState} {request : HistoricalCsvImportRequest}
  {header : List String} {rest : List CsvRecord} {requiredColumns : List String}
  {rows : List ParsedRow}

/-- **A file is read without raising exactly when the records that the loop comes to can be
read.** -/
theorem readCsvRows_total_iff {records : List CsvRecord} :
    (∃ out, readCsvRows text request.symbolSafeLabel request.timeframeSafeLabel requiredColumns
        records = .ok out) ↔ CleanFile text request requiredColumns records := by
  cases records with
  | nil => simp [readCsvRows, CleanFile]
  | cons header rest =>
      unfold readCsvRows CleanFile
      dsimp only
      by_cases hfits : Fits header
      · by_cases hblank : header = []
        · subst hblank
          simp [hfits]
        · by_cases hforbidden : forbiddenColumnsPresent text header = true
          · simp [hfits, hblank, hforbidden]
          · by_cases hcolumns : ∀ column ∈ requiredColumns,
                column ∈ normalizedHeader text header
            · have hmissing : requiredColumns.filter
                  (fun column => column ∉ normalizedHeader text header) = [] := by
                simpa using hcolumns
              rw [if_neg (not_not.mpr hfits), if_neg hblank, if_neg hforbidden,
                if_neg (not_not.mpr hmissing)]
              have hclean : (Fits header ∧ (header ≠ [] →
                  forbiddenColumnsPresent text header = false →
                  (∀ column ∈ requiredColumns, column ∈ normalizedHeader text header) →
                  CleanRecords text request header none rest)) ↔
                  CleanRecords text request header none rest := by
                rw [Bool.not_eq_true] at hforbidden
                simp only [hfits, hblank, hforbidden, true_and, ne_eq, not_false_eq_true,
                  forall_const]
                exact ⟨fun hrecords => hrecords hcolumns, fun hrecords _ => hrecords⟩
              rw [hclean, ← readRecords_total_iff]
              cases readRecords text request.symbolSafeLabel request.timeframeSafeLabel header
                  none rest with
              | error e => simp [bind, Except.bind]
              | ok out =>
                  cases out with
                  | blocked category reasons => simp [bind, Except.bind, pure, Except.pure]
                  | ready rows => cases rows <;> simp [bind, Except.bind, pure, Except.pure]
            · have hmissing : requiredColumns.filter
                  (fun column => column ∉ normalizedHeader text header) ≠ [] := by
                simpa using hcolumns
              rw [if_neg (not_not.mpr hfits), if_neg hblank, if_neg hforbidden,
                if_pos hmissing]
              simp [hfits, hcolumns]
      · simp [hfits]

structure FileRows (text : PyText) (header : List String) (rest : List CsvRecord)
    (rows : List ParsedRow) : Prop where
  related : List.Forall₂ (RowOf text header) (dataRecords rest) rows
  increasing : (rows.map ParsedRow.timestampMs).Pairwise (· < ·)
  some_row : rows ≠ []

theorem fileRows_of_readCsvRows {symbol timeframe : String} {records : List CsvRecord}
    (h : readCsvRows text symbol timeframe requiredColumns records = .ok (.ready rows)) :
    ∃ header rest, records = header :: rest ∧ FileRows text header rest rows := by
  cases records with
  | nil => simp [readCsvRows] at h
  | cons header rest =>
      unfold readCsvRows at h
      dsimp only at h
      split_ifs at h
      · simp at h
      · simp at h
      · simp at h
      · obtain ⟨out, hout, h⟩ := bind_eq_ok h
        cases out with
        | blocked category reasons => simp [pure, Except.pure] at h
        | ready rows' =>
            cases rows' with
            | nil => simp [pure, Except.pure] at h
            | cons row rows' =>
                obtain rfl := Intake.ready.inj (Except.ok.inj h)
                obtain ⟨hrelated, -, hincreasing⟩ := rows_of_readRecords hout
                exact ⟨header, rest, rfl, hrelated, hincreasing, by simp⟩

theorem FileRows.length_eq (h : FileRows text header rest rows) :
    (dataRecords rest).length = rows.length :=
  h.related.length_eq

theorem FileRows.ranges (h : FileRows text header rest rows) :
    ∀ row ∈ rows, row.highValue.lt row.lowValue = false := by
  refine (forall_iff_of_related (P := fun _ => True) h.related fun record row hrow => ?_).mp
    fun _ _ => trivial
  simpa using hrow.range

theorem RowOf.finite_iff {record : CsvRecord} {row : ParsedRow}
    (h : RowOf text header record row) : FinitePrices text header record ↔ row.Finite := by
  simp only [FinitePrices, List.forall_mem_cons, h.openValue, h.highValue, h.lowValue,
    h.closeValue, Option.mem_def, Option.some.injEq, forall_eq', List.not_mem_nil,
    false_implies, implies_true, and_true]
  constructor
  · rintro ⟨hopen, hhigh, hlow, hclose⟩
    exact ⟨hopen, hhigh, hlow, hclose⟩
  · rintro ⟨hopen, hhigh, hlow, hclose⟩
    exact ⟨hopen, hhigh, hlow, hclose⟩

theorem RowOf.ownValues {record : CsvRecord} {row : ParsedRow}
    (h : RowOf text header record row) (synthetic : Bool) :
    OwnValues text header record
      { timestamp := row.timestampMs, openValue := row.openValue, highValue := row.highValue
        lowValue := row.lowValue, closeValue := row.closeValue, syntheticFixture := synthetic }
      { timestamp := row.timestampMs, sessionSafeLabel := row.sessionLabel } :=
  ⟨h.timestamp, h.openValue, h.highValue, h.lowValue, h.closeValue, _, h.session⟩

end Files

section Combined

variable {text : PyText} {files : String → PathState} {request : HistoricalCsvImportRequest}
  {header : List String} {rest : List CsvRecord} {rows : List ParsedRow}

theorem readSpread_isSome_iff {record : CsvRecord} {spread : Option Double}
    (h : readSpread text header record = .ok spread) :
    spread.isSome = true ↔ HasSpread text header := by
  unfold readSpread at h
  by_cases hspread : "spread" ∈ normalizedHeader text header
  · rw [if_pos hspread] at h
    cases hfloat : parseFloat text (cell text header record "spread") with
    | none => simp [hfloat] at h
    | some value =>
        simp only [hfloat] at h
        split_ifs at h
        simp [← Except.ok.inj h, HasSpread, hspread]
  · rw [if_neg hspread] at h
    by_cases hquotes : "bid" ∈ normalizedHeader text header ∧
        "ask" ∈ normalizedHeader text header
    · rw [if_pos hquotes] at h
      cases hbid : parseFloat text (cell text header record "bid") with
      | none => simp [hbid] at h
      | some bid =>
          cases hask : parseFloat text (cell text header record "ask") with
          | none => simp [hbid, hask] at h
          | some ask =>
              simp only [hbid, hask] at h
              split_ifs at h
              simp [← Except.ok.inj h, HasSpread, hquotes]
    · rw [if_neg hquotes] at h
      simp [← Except.ok.inj h, HasSpread, hspread, hquotes]

theorem readSpread_nonneg {record : CsvRecord} {x : ℚ}
    (h : readSpread text header record = .ok (some (.finite x))) : 0 ≤ x := by
  unfold readSpread at h
  split_ifs at h with hspread hquotes
  · cases hfloat : parseFloat text (cell text header record "spread") with
    | none => simp [hfloat] at h
    | some value =>
        simp only [hfloat] at h
        split_ifs at h with hlt
        obtain rfl := Option.some.inj (Except.ok.inj h)
        simpa using hlt
  · cases hbid : parseFloat text (cell text header record "bid") with
    | none => simp [hbid] at h
    | some bid =>
        cases hask : parseFloat text (cell text header record "ask") with
        | none => simp [hbid, hask] at h
        | some ask =>
            simp only [hbid, hask] at h
            split_ifs at h with hlt
            exact Library.Doubles.sub_nonneg (by simpa using hlt)
              (Option.some.inj (Except.ok.inj h))
  · cases Except.ok.inj h

/-- The spreads of the rows are there exactly where the header has columns for them. -/
theorem combinedSpreads_isSome_iff (h : FileRows text header rest rows) :
    (combinedSpreads rows).isSome = true ↔ HasSpread text header := by
  have hrows : ∀ row ∈ rows, (row.spreadValue.isSome = true ↔ HasSpread text header) :=
    (forall_iff_of_related (P := fun _ => True) h.related fun record row hrow => by
      simpa using readSpread_isSome_iff hrow.spread).mp fun _ _ => trivial
  by_cases hspread : HasSpread text header
  · have hall : combinedSpreads rows = some (rows.map fun row => row.spreadValue.getD .nan) := by
      refine mapM_eq_some_iff.mpr ?_
      rw [List.map_map]
      refine List.map_congr_left fun row hrow => ?_
      obtain ⟨value, hvalue⟩ := Option.isSome_iff_exists.mp ((hrows row hrow).mpr hspread)
      simp [hvalue]
    simp [hall, hspread]
  · obtain ⟨row, rows', rfl⟩ := List.exists_cons_of_ne_nil h.some_row
    have hfirst := (hrows row List.mem_cons_self).not.mpr hspread
    have hnone : row.spreadValue = none := by simpa using hfirst
    simp [combinedSpreads, hnone, hspread]

theorem combinedSpreads_getElem? (h : FileRows text header rest rows) {i : Nat}
    {row : ParsedRow} (hrow : rows[i]? = some row) :
    ((combinedSpreads rows).bind fun values => values[i]?) = row.spreadValue := by
  cases hspreads : combinedSpreads rows with
  | none =>
      have hno : ¬ HasSpread text header := by simp [← combinedSpreads_isSome_iff h, hspreads]
      have hrel := (forall_iff_of_related (P := fun _ => True) h.related
        fun record row hrow => by
          simpa using readSpread_isSome_iff hrow.spread).mp fun _ _ => trivial
      have hnone := (hrel row (List.mem_of_getElem? hrow)).not.mpr hno
      simpa using (by simpa using hnone : row.spreadValue = none).symm
  | some values =>
      have hmap := congrArg (·[i]?) (mapM_eq_some_iff.mp hspreads)
      simp only [List.getElem?_map, hrow, Option.map_some] at hmap
      cases hvalue : values[i]? with
      | none => simp [hvalue] at hmap
      | some value => simpa [hvalue] using hmap.symm

theorem mem_combinedSpreads {values : List Double} (hspreads : combinedSpreads rows = some values)
    {spread : Double} : spread ∈ values ↔ ∃ row ∈ rows, row.spreadValue = some spread := by
  have hmap := mapM_eq_some_iff.mp hspreads
  calc spread ∈ values
      ↔ some spread ∈ values.map some := by simp
    _ ↔ some spread ∈ rows.map ParsedRow.spreadValue := by rw [hmap]
    _ ↔ _ := by simp

theorem combined_checked (h : FileRows text header rest rows) :
    CheckedRows rows (combinedSpreads rows) := by
  refine ⟨h.some_row, h.increasing, h.ranges, fun values hvalues => ?_,
    fun values hvalues x hx => ?_⟩
  · have hlength := congrArg List.length (mapM_eq_some_iff.mp hvalues)
    simpa using hlength.symm
  · have hnonneg : ∀ row ∈ rows, ∀ x, row.spreadValue = some (.finite x) → 0 ≤ x :=
      (forall_iff_of_related (P := fun _ => True) h.related fun record row hrow => by
        have hspread := hrow.spread
        simp only [true_iff]
        intro x hx
        rw [hx] at hspread
        exact readSpread_nonneg hspread).mp fun _ _ => trivial
    obtain ⟨row, hrow, hspread⟩ := (mem_combinedSpreads hvalues).mp hx
    exact hnonneg row hrow x hspread

theorem combined_finite_iff (h : FileRows text header rest rows) :
    FiniteNumbers rows (combinedSpreads rows) ↔
      ∀ record ∈ dataRecords rest, FinitePrices text header record ∧
        FiniteSpread text header record := by
  have hrelated := forall_iff_of_related (P := fun record => FinitePrices text header record ∧
      FiniteSpread text header record)
    (Q := fun row => row.Finite ∧ ∀ spread, row.spreadValue = some spread → spread.IsFinite)
    h.related fun record row hrow => by
      refine and_congr hrow.finite_iff ?_
      simp [FiniteSpread, hrow.spread]
  rw [hrelated]
  constructor
  · rintro ⟨hrows, hspreads⟩ row hrow
    refine ⟨hrows row hrow, fun spread hspread => ?_⟩
    obtain ⟨i, hi⟩ := List.mem_iff_getElem?.mp hrow
    have hget := combinedSpreads_getElem? h hi
    rw [hspread] at hget
    obtain ⟨values, hvalues, hvalue⟩ := Option.bind_eq_some_iff.mp hget
    exact hspreads values hvalues spread (List.mem_of_getElem? hvalue)
  · intro hall
    refine ⟨fun row hrow => (hall row hrow).1, fun values hvalues spread hspread => ?_⟩
    obtain ⟨row, hrow, hsame⟩ := (mem_combinedSpreads hvalues).mp hspread
    exact (hall row hrow).2 spread hsame

theorem datasetOf_spread {spreadValues : Option (List Double)} {i : Nat} {row : ParsedRow}
    (hrow : rows[i]? = some row) :
    (datasetOf request rows spreadValues).spreads[i]? = some
      { timestamp := row.timestampMs
        spreadCategory :=
          if spreadValues.isSome then .spreadCategoryNormal else .spreadCategoryUnknown
        spreadValue := spreadValues.bind fun values => values[i]? } := by
  simp [datasetOf, hrow]

theorem combined_carries (h : FileRows text header rest rows) :
    CombinedRows text (header :: rest) (datasetOf request rows (combinedSpreads rows)) := by
  rintro header' rest' hsame
  obtain ⟨rfl, rfl⟩ := List.cons_eq_cons.mp hsame
  refine ⟨by simp [datasetOf, h.length_eq], fun i record hrecord => ?_⟩
  obtain ⟨row, hrow, hcarries⟩ := related_entry h.related hrecord
  refine ⟨_, _, _, ?_, datasetOf_spread hrow, ?_,
    hcarries.ownValues request.treatAsSyntheticFixture, ?_⟩
  · simp [datasetOf, hrow]
  · simp [datasetOf, hrow]
  · rw [hcarries.spread]
    exact congrArg Except.ok (combinedSpreads_getElem? h hrow).symm

variable {requiredColumns labels : List String}

theorem readSide_total_iff {path : Option String} :
    (∃ out, readSide text files request requiredColumns path = .ok out) ↔
      ∀ records, pathCheck text files path = .ready records →
        CleanFile text request requiredColumns records := by
  unfold readSide
  cases pathCheck text files path with
  | blocked category reasons => simp
  | ready records => simp [readCsvRows_total_iff]

theorem readSide_eq_ready {path : Option String} :
    readSide text files request requiredColumns path = .ok (.ready rows) ↔
      ∃ records, pathCheck text files path = .ready records ∧
        readCsvRows text request.symbolSafeLabel request.timeframeSafeLabel requiredColumns
          records = .ok (.ready rows) := by
  unfold readSide
  cases pathCheck text files path <;> simp

theorem buildDataset_dataset_iff {spreadValues : Option (List Double)} {dataset : CsvDataset} :
    (buildDataset request rows spreadValues labels).dataset = some dataset ↔
      (spreadValues.isSome = true ∨ request.officialEvaluationRequested = false) ∧
        dataset = datasetOf request rows spreadValues := by
  unfold buildDataset
  cases spreadValues with
  | none =>
      cases request.officialEvaluationRequested with
      | true => simp [blocked]
      | false => simpa using eq_comm
  | some values => simpa using eq_comm

theorem importCombined_total_iff :
    (∃ result, importCombined text files request = .ok result) ↔
      ∀ records, pathCheck text files request.combinedCsvPath = .ready records →
        CleanFile text request requiredCsvColumns records := by
  rw [← readSide_total_iff]
  unfold importCombined
  cases readSide text files request requiredCsvColumns request.combinedCsvPath with
  | error e => simp [bind, Except.bind]
  | ok out => cases out <;> simp [bind, Except.bind, pure, Except.pure]

/-- The intake of one file makes a dataset of its rows, unless an official evaluation has no
spreads. -/
theorem importCombined_dataset_iff {dataset : CsvDataset} :
    (∃ result, importCombined text files request = .ok result ∧
        result.dataset = some dataset) ↔
      ∃ rows, readSide text files request requiredCsvColumns request.combinedCsvPath =
          .ok (.ready rows) ∧
        ((combinedSpreads rows).isSome = true ∨ request.officialEvaluationRequested = false) ∧
        dataset = datasetOf request rows (combinedSpreads rows) := by
  unfold importCombined
  cases readSide text files request requiredCsvColumns request.combinedCsvPath with
  | error e => simp [bind, Except.bind]
  | ok out =>
      cases out with
      | blocked category reasons => simp [bind, Except.bind, pure, Except.pure, blocked]
      | ready rows =>
          simp [bind, Except.bind, pure, Except.pure, buildDataset_dataset_iff]

variable (text files) in
theorem import_combined (hcombined : given request.combinedCsvPath = true)
    (hbid : given request.bidCsvPath = false) (hask : given request.askCsvPath = false) :
    importHistoricalCsv text files request = importCombined text files request := by
  simp [importHistoricalCsv, hcombined, hbid, hask]

/-- **The intake of one file is sound exactly when its condition holds.** -/
theorem soundImport_combined_iff (hcombined : given request.combinedCsvPath = true)
    (hbid : given request.bidCsvPath = false) (hask : given request.askCsvPath = false) :
    SoundImport text files request ↔ CleanCombined text files request := by
  have himport := import_combined text files hcombined hbid hask
  constructor
  · rintro ⟨hreturns, hsound⟩
    rw [himport, importCombined_total_iff] at hreturns
    have hnumbers : ∀ header rest, pathCheck text files request.combinedCsvPath =
          .ready (header :: rest) →
        Passes text request requiredCsvColumns (header :: rest) →
        HasSpread text header ∨ request.officialEvaluationRequested = false →
        (∀ record ∈ dataRecords rest, FinitePrices text header record ∧
          FiniteSpread text header record) ∧
        (3 < (dataRecords rest).length → SupportedLabels request) := by
      rintro header rest hpath ⟨rows, hrows⟩ hspread
      obtain ⟨_, _, hsame, hfile⟩ := fileRows_of_readCsvRows hrows
      obtain ⟨rfl, rfl⟩ := List.cons_eq_cons.mp hsame
      rw [← combinedSpreads_isSome_iff hfile] at hspread
      obtain ⟨result, hresult, hdataset⟩ := importCombined_dataset_iff.mpr
        ⟨rows, readSide_eq_ready.mpr ⟨_, hpath, hrows⟩, hspread, rfl⟩
      obtain ⟨hsound, -⟩ := hsound result _ (himport.trans hresult) hdataset
      obtain ⟨hfinite, hlabels⟩ := (sound_datasetOf_iff (combined_checked hfile)).mp hsound
      exact ⟨(combined_finite_iff hfile).mp hfinite, hfile.length_eq ▸ hlabels⟩
    exact ⟨hreturns, fun header rest hpath hpasses hspread =>
        (hnumbers header rest hpath hpasses hspread).1,
      fun header rest hpath hpasses hspread => (hnumbers header rest hpath hpasses hspread).2⟩
  · rintro ⟨hreadable, hnumbers, hlabels⟩
    refine ⟨himport ▸ importCombined_total_iff.mpr hreadable,
      fun result dataset hresult hdataset => ?_⟩
    obtain ⟨rows, hside, hspread, rfl⟩ := importCombined_dataset_iff.mp
      ⟨result, himport.symm.trans hresult, hdataset⟩
    obtain ⟨records, hpath, hrows⟩ := readSide_eq_ready.mp hside
    obtain ⟨header, rest, rfl, hfile⟩ := fileRows_of_readCsvRows hrows
    rw [combinedSpreads_isSome_iff hfile] at hspread
    constructor
    · refine (sound_datasetOf_iff (combined_checked hfile)).mpr
        ⟨(combined_finite_iff hfile).mpr (hnumbers header rest hpath ⟨rows, hrows⟩ hspread), ?_⟩
      exact hfile.length_eq ▸ hlabels header rest hpath ⟨rows, hrows⟩ hspread
    · unfold CarriesOwnRows
      rw [if_pos hcombined]
      intro records' hpath'
      obtain rfl := Intake.ready.inj (hpath.symm.trans hpath')
      exact combined_carries hfile

end Combined

section Pair

variable {text : PyText} {files : String → PathState} {request : HistoricalCsvImportRequest}
  {bidHeader askHeader : List String} {bidRest askRest : List CsvRecord}
  {bidRows askRows : List ParsedRow}

/-- `bar_spread` of two rows. -/
def barSpread (bid ask : ParsedRow) : Double :=
  ask.closeValue.sub bid.closeValue

def RowsPair (bid ask : ParsedRow) : Prop :=
  bid.timestampMs = ask.timestampMs ∧ (barSpread bid ask).lt (.finite 0) = false

def barSpreads (bidRows askRows : List ParsedRow) : List Double :=
  (bidRows.zip askRows).map fun (bid, ask) => barSpread bid ask

/-- Rows of one count and of the same times have spreads exactly when none is below zero. -/
theorem pairSpreads_eq_some_iff {values : List Double} :
    pairSpreads bidRows askRows = some values ↔
      (∀ pair ∈ bidRows.zip askRows, (barSpread pair.1 pair.2).lt (.finite 0) = false) ∧
        values = barSpreads bidRows askRows := by
  unfold pairSpreads barSpreads
  rw [mapM_eq_some_iff]
  induction bidRows.zip askRows generalizing values with
  | nil => cases values <;> simp
  | cons pair pairs ih =>
      cases values with
      | nil => simp
      | cons value values =>
          by_cases hlt : (barSpread pair.1 pair.2).lt (.finite 0) = true
          · simp [barSpread] at hlt
            simp [barSpread, hlt]
          · simp only [barSpread, Bool.not_eq_true] at hlt
            have hbelow : (pair.2.closeValue.sub pair.1.closeValue).lt (.finite 0) = false := hlt
            simp only [List.map_cons, barSpread, hbelow, Bool.false_eq_true, if_false,
              List.cons.injEq, Option.some.injEq, List.forall_mem_cons, true_and, ih]
            constructor
            · rintro ⟨rfl, hall, rfl⟩
              exact ⟨hall, rfl, rfl⟩
            · rintro ⟨hall, rfl, rfl⟩
              exact ⟨rfl, hall, rfl⟩

/-- **Two files that were read make a dataset exactly when their rows are pairs.** -/
theorem joinPair_dataset_iff {dataset : CsvDataset} :
    (joinPair request bidRows askRows).dataset = some dataset ↔
      List.Forall₂ RowsPair bidRows askRows ∧
        dataset = datasetOf request bidRows (some (barSpreads bidRows askRows)) := by
  have hpairs : List.Forall₂ RowsPair bidRows askRows ↔
      bidRows.length = askRows.length ∧
        bidRows.map ParsedRow.timestampMs = askRows.map ParsedRow.timestampMs ∧
        ∀ pair ∈ bidRows.zip askRows, (barSpread pair.1 pair.2).lt (.finite 0) = false := by
    induction bidRows generalizing askRows with
    | nil => cases askRows <;> simp
    | cons bid bidRows ih =>
        cases askRows with
        | nil => simp
        | cons ask askRows =>
            simp only [List.forall₂_cons, ih, RowsPair, List.length_cons, List.map_cons,
              List.cons.injEq, List.zip_cons_cons, List.forall_mem_cons, Nat.add_right_cancel_iff]
            tauto
  unfold joinPair
  rw [hpairs]
  split_ifs with hlength htimes
  · simp [blocked, hlength]
  · simp [blocked, htimes]
  · rw [not_not] at hlength htimes
    cases hspreads : pairSpreads bidRows askRows with
    | none =>
        have hno : ¬ ∀ pair ∈ bidRows.zip askRows,
            (barSpread pair.1 pair.2).lt (.finite 0) = false := by
          intro hall
          have hsome := pairSpreads_eq_some_iff.mpr ⟨hall, rfl⟩
          simp [hspreads] at hsome
        simp only [blocked, reduceCtorEq, false_iff, not_and]
        exact fun hall => absurd hall.2.2 hno
    | some values =>
        obtain ⟨hall, rfl⟩ := pairSpreads_eq_some_iff.mp hspreads
        simp only [buildDataset_dataset_iff, Option.isSome_some, true_or, true_and]
        exact (and_iff_right ⟨hlength, htimes, hall⟩).symm

theorem rowsPair_iff (hbid : FileRows text bidHeader bidRest bidRows)
    (hask : FileRows text askHeader askRest askRows) :
    List.Forall₂ (MakePair text bidHeader askHeader) (dataRecords bidRest)
        (dataRecords askRest) ↔ List.Forall₂ RowsPair bidRows askRows := by
  refine forall₂_iff_of_related hbid.related hask.related fun bid row ask row' hrow hrow' => ?_
  simp [MakePair, Closes, RowsPair, barSpread, hrow.timestamp, hrow'.timestamp,
    hrow.closeValue, hrow'.closeValue]

theorem closes_iff {property : Double → Prop} (hbid : FileRows text bidHeader bidRest bidRows)
    (hask : FileRows text askHeader askRest askRows)
    (hpairs : List.Forall₂ RowsPair bidRows askRows) :
    List.Forall₂ (Closes text property bidHeader askHeader) (dataRecords bidRest)
        (dataRecords askRest) ↔ ∀ spread ∈ barSpreads bidRows askRows, property spread := by
  have hrows : List.Forall₂ (Closes text property bidHeader askHeader) (dataRecords bidRest)
      (dataRecords askRest) ↔
      List.Forall₂ (fun bid ask => property (barSpread bid ask)) bidRows askRows := by
    refine forall₂_iff_of_related hbid.related hask.related fun bid row ask row' hrow hrow' => ?_
    simp [Closes, barSpread, hrow.closeValue, hrow'.closeValue]
  rw [hrows, List.forall₂_iff_zip]
  constructor
  · rintro ⟨-, hall⟩ spread hspread
    obtain ⟨pair, hpair, rfl⟩ := List.mem_map.mp hspread
    exact hall hpair
  · intro hall
    exact ⟨hpairs.length_eq, fun hpair => hall _ (List.mem_map.mpr ⟨_, hpair, rfl⟩)⟩

theorem pair_checked (hbid : FileRows text bidHeader bidRest bidRows)
    (hpairs : List.Forall₂ RowsPair bidRows askRows) :
    CheckedRows bidRows (some (barSpreads bidRows askRows)) := by
  refine ⟨hbid.some_row, hbid.increasing, hbid.ranges, ?_, ?_⟩
  · rintro values hvalues
    obtain rfl := Option.some.inj hvalues
    simp [barSpreads, hpairs.length_eq]
  · rintro values hvalues x hx
    obtain rfl := Option.some.inj hvalues
    obtain ⟨⟨bid, ask⟩, hmem, hspread⟩ := List.mem_map.mp hx
    have hpair := List.forall₂_zip hpairs hmem
    dsimp only at hspread
    simpa [RowsPair, hspread] using hpair.2

theorem pair_finite_iff (hbid : FileRows text bidHeader bidRest bidRows)
    (hask : FileRows text askHeader askRest askRows)
    (hpairs : List.Forall₂ RowsPair bidRows askRows) :
    FiniteNumbers bidRows (some (barSpreads bidRows askRows)) ↔
      (∀ bid ∈ dataRecords bidRest, FinitePrices text bidHeader bid) ∧
        List.Forall₂ (Closes text Double.IsFinite bidHeader askHeader) (dataRecords bidRest)
          (dataRecords askRest) := by
  rw [closes_iff hbid hask hpairs,
    forall_iff_of_related hbid.related fun record row hrow => hrow.finite_iff]
  constructor
  · rintro ⟨hrows, hspreads⟩
    exact ⟨hrows, hspreads _ rfl⟩
  · rintro ⟨hrows, hspreads⟩
    refine ⟨hrows, fun values hvalues => ?_⟩
    obtain rfl := Option.some.inj hvalues
    exact hspreads

theorem pair_carries (hbid : FileRows text bidHeader bidRest bidRows)
    (hask : FileRows text askHeader askRest askRows)
    (hpairs : List.Forall₂ RowsPair bidRows askRows) :
    PairRows text (bidHeader :: bidRest) (askHeader :: askRest)
      (datasetOf request bidRows (some (barSpreads bidRows askRows))) := by
  rintro _ _ _ _ hsameBid hsameAsk
  obtain ⟨rfl, rfl⟩ := List.cons_eq_cons.mp hsameBid
  obtain ⟨rfl, rfl⟩ := List.cons_eq_cons.mp hsameAsk
  refine ⟨by simp [datasetOf, hbid.length_eq],
    by simp [datasetOf, hask.length_eq, hpairs.length_eq], fun i bid ask hi hi' => ?_⟩
  obtain ⟨row, hrow, hcarries⟩ := related_entry hbid.related hi
  obtain ⟨row', hrow', hcarries'⟩ := related_entry hask.related hi'
  have hsame : row.timestampMs = row'.timestampMs := by
    obtain ⟨paired, hpaired, hpair⟩ := related_entry hpairs hrow
    obtain rfl := Option.some.inj (hrow'.symm.trans hpaired)
    exact hpair.1
  refine ⟨_, _, _, ?_, datasetOf_spread hrow, ?_,
    hcarries.ownValues request.treatAsSyntheticFixture, ?_, row'.closeValue,
    hcarries'.closeValue, ?_⟩
  · simp [datasetOf, hrow]
  · simp [datasetOf, hrow]
  · rw [hcarries'.timestamp, ← hsame]
  · have hzip : (bidRows.zip askRows)[i]? = some (row, row') :=
      List.getElem?_zip_eq_some.mpr ⟨hrow, hrow'⟩
    simp [barSpreads, barSpread, hzip]

theorem importPair_total_iff :
    (∃ result, importPair text files request = .ok result) ↔
      (∀ records, pathCheck text files request.bidCsvPath = .ready records →
        CleanFile text request bidAskRequiredColumns records) ∧
      ∀ bidRecords records, pathCheck text files request.bidCsvPath = .ready bidRecords →
        Passes text request bidAskRequiredColumns bidRecords →
        pathCheck text files request.askCsvPath = .ready records →
        CleanFile text request bidAskRequiredColumns records := by
  have hbids : (∀ bidRecords records, pathCheck text files request.bidCsvPath =
        .ready bidRecords →
      Passes text request bidAskRequiredColumns bidRecords →
      pathCheck text files request.askCsvPath = .ready records →
      CleanFile text request bidAskRequiredColumns records) ↔
      ∀ bidRows, readSide text files request bidAskRequiredColumns request.bidCsvPath =
          .ok (.ready bidRows) →
        ∃ out, readSide text files request bidAskRequiredColumns request.askCsvPath =
          .ok out := by
    constructor
    · intro hask bidRows hside
      obtain ⟨bidRecords, hpath, hrows⟩ := readSide_eq_ready.mp hside
      exact readSide_total_iff.mpr fun records => hask bidRecords records hpath ⟨_, hrows⟩
    · rintro hask bidRecords records hpath ⟨bidRows, hrows⟩
      exact readSide_total_iff.mp (hask bidRows (readSide_eq_ready.mpr ⟨_, hpath, hrows⟩)) records
  rw [← readSide_total_iff, hbids]
  unfold importPair
  cases readSide text files request bidAskRequiredColumns request.bidCsvPath with
  | error e => simp [bind, Except.bind]
  | ok out =>
      cases out with
      | blocked category reasons => simp [bind, Except.bind, pure, Except.pure]
      | ready bidRows =>
          cases readSide text files request bidAskRequiredColumns request.askCsvPath with
          | error e => simp [bind, Except.bind]
          | ok out' => cases out' <;> simp [bind, Except.bind, pure, Except.pure]

theorem importPair_dataset_iff {dataset : CsvDataset} :
    (∃ result, importPair text files request = .ok result ∧ result.dataset = some dataset) ↔
      ∃ bidRows askRows,
        readSide text files request bidAskRequiredColumns request.bidCsvPath =
          .ok (.ready bidRows) ∧
        readSide text files request bidAskRequiredColumns request.askCsvPath =
          .ok (.ready askRows) ∧
        List.Forall₂ RowsPair bidRows askRows ∧
        dataset = datasetOf request bidRows (some (barSpreads bidRows askRows)) := by
  unfold importPair
  cases readSide text files request bidAskRequiredColumns request.bidCsvPath with
  | error e => simp [bind, Except.bind]
  | ok out =>
      cases out with
      | blocked category reasons => simp [bind, Except.bind, pure, Except.pure, blocked]
      | ready bidRows =>
          cases readSide text files request bidAskRequiredColumns request.askCsvPath with
          | error e => simp [bind, Except.bind]
          | ok out' =>
              cases out' with
              | blocked category reasons => simp [bind, Except.bind, pure, Except.pure, blocked]
              | ready askRows =>
                  simp [bind, Except.bind, pure, Except.pure, joinPair_dataset_iff]

variable (text files) in
theorem import_pair (hcombined : given request.combinedCsvPath = false)
    (hbid : given request.bidCsvPath = true) (hask : given request.askCsvPath = true) :
    importHistoricalCsv text files request = importPair text files request := by
  simp [importHistoricalCsv, hcombined, hbid, hask]

/-- **The intake of a pair of files is sound exactly when its condition holds.** -/
theorem soundImport_pair_iff (hcombined : given request.combinedCsvPath = false)
    (hbid : given request.bidCsvPath = true) (hask : given request.askCsvPath = true) :
    SoundImport text files request ↔ CleanPair text files request := by
  have himport := import_pair text files hcombined hbid hask
  constructor
  · rintro ⟨hreturns, hsound⟩
    rw [himport, importPair_total_iff] at hreturns
    have hnumbers : ∀ {bidHeader askHeader bidRest askRest},
        PairedFiles text files request bidHeader askHeader bidRest askRest →
        ((∀ bid ∈ dataRecords bidRest, FinitePrices text bidHeader bid) ∧
          List.Forall₂ (Closes text Double.IsFinite bidHeader askHeader) (dataRecords bidRest)
            (dataRecords askRest)) ∧
        (3 < (dataRecords bidRest).length → SupportedLabels request) := by
      rintro _ _ _ _ ⟨hbidPath, haskPath, ⟨bidRows, hbidRows⟩, ⟨askRows, haskRows⟩, hpairs⟩
      obtain ⟨_, _, hsame, hbidFile⟩ := fileRows_of_readCsvRows hbidRows
      obtain ⟨rfl, rfl⟩ := List.cons_eq_cons.mp hsame
      obtain ⟨_, _, hsame', haskFile⟩ := fileRows_of_readCsvRows haskRows
      obtain ⟨rfl, rfl⟩ := List.cons_eq_cons.mp hsame'
      have hrows := (rowsPair_iff hbidFile haskFile).mp hpairs
      obtain ⟨result, hresult, hdataset⟩ := importPair_dataset_iff.mpr
        ⟨bidRows, askRows, readSide_eq_ready.mpr ⟨_, hbidPath, hbidRows⟩,
          readSide_eq_ready.mpr ⟨_, haskPath, haskRows⟩, hrows, rfl⟩
      obtain ⟨hsound, -⟩ := hsound result _ (himport.trans hresult) hdataset
      obtain ⟨hfinite, hlabels⟩ := (sound_datasetOf_iff (pair_checked hbidFile hrows)).mp hsound
      exact ⟨(pair_finite_iff hbidFile haskFile hrows).mp hfinite, hbidFile.length_eq ▸ hlabels⟩
    exact ⟨hreturns.1, hreturns.2, fun hfiles => (hnumbers hfiles).1,
      fun hfiles => (hnumbers hfiles).2⟩
  · rintro ⟨hbidReadable, haskReadable, hnumbers, hlabels⟩
    refine ⟨himport ▸ importPair_total_iff.mpr ⟨hbidReadable, haskReadable⟩,
      fun result dataset hresult hdataset => ?_⟩
    obtain ⟨bidRows, askRows, hbidSide, haskSide, hrows, rfl⟩ := importPair_dataset_iff.mp
      ⟨result, himport.symm.trans hresult, hdataset⟩
    obtain ⟨bidRecords, hbidPath, hbidRows⟩ := readSide_eq_ready.mp hbidSide
    obtain ⟨askRecords, haskPath, haskRows⟩ := readSide_eq_ready.mp haskSide
    obtain ⟨bidHeader, bidRest, rfl, hbidFile⟩ := fileRows_of_readCsvRows hbidRows
    obtain ⟨askHeader, askRest, rfl, haskFile⟩ := fileRows_of_readCsvRows haskRows
    have hfiles : PairedFiles text files request bidHeader askHeader bidRest askRest :=
      ⟨hbidPath, haskPath, ⟨_, hbidRows⟩, ⟨_, haskRows⟩,
        (rowsPair_iff hbidFile haskFile).mpr hrows⟩
    constructor
    · exact (sound_datasetOf_iff (pair_checked hbidFile hrows)).mpr
        ⟨(pair_finite_iff hbidFile haskFile hrows).mpr (hnumbers hfiles),
          hbidFile.length_eq ▸ hlabels hfiles⟩
    · unfold CarriesOwnRows
      rw [if_neg (by simp [hcombined])]
      intro bidRecords' askRecords' hbidPath' haskPath'
      obtain rfl := Intake.ready.inj (hbidPath.symm.trans hbidPath')
      obtain rfl := Intake.ready.inj (haskPath.symm.trans haskPath')
      exact pair_carries hbidFile haskFile hrows

end Pair

section Import

variable (text : PyText) (files : String → PathState) (request : HistoricalCsvImportRequest)

theorem import_blocked
    (hcombined : ¬ (given request.combinedCsvPath = true ∧ given request.bidCsvPath = false ∧
      given request.askCsvPath = false))
    (hpair : ¬ (given request.combinedCsvPath = false ∧ given request.bidCsvPath = true ∧
      given request.askCsvPath = true)) :
    ∃ category reasons,
      importHistoricalCsv text files request = .ok (blocked category reasons) := by
  unfold importHistoricalCsv
  cases hc : given request.combinedCsvPath <;> cases hb : given request.bidCsvPath <;>
    cases ha : given request.askCsvPath <;> simp_all

/-- **The import returns, with a sound dataset of the records if with one, exactly when the
records that it comes to can be read and the numbers of a dataset are finite.** -/
theorem sound_import_iff : SoundImport text files request ↔ CleanImport text files request := by
  by_cases hcombined : given request.combinedCsvPath = true ∧ given request.bidCsvPath = false ∧
      given request.askCsvPath = false
  · obtain ⟨hc, hb, ha⟩ := hcombined
    rw [soundImport_combined_iff hc hb ha]
    constructor
    · intro hclean
      exact ⟨fun _ _ _ => hclean, fun hno => by simp [hc] at hno⟩
    · intro hclean
      exact hclean.combined hc hb ha
  · by_cases hpair : given request.combinedCsvPath = false ∧ given request.bidCsvPath = true ∧
        given request.askCsvPath = true
    · obtain ⟨hc, hb, ha⟩ := hpair
      rw [soundImport_pair_iff hc hb ha]
      constructor
      · intro hclean
        exact ⟨fun hno => by simp [hc] at hno, fun _ _ _ => hclean⟩
      · intro hclean
        exact hclean.pair hc hb ha
    · obtain ⟨category, reasons, himport⟩ := import_blocked text files request hcombined hpair
      constructor
      · intro _
        exact ⟨fun hc hb ha => absurd ⟨hc, hb, ha⟩ hcombined,
          fun hc hb ha => absurd ⟨hc, hb, ha⟩ hpair⟩
      · intro _
        refine ⟨⟨_, himport⟩, fun result dataset hresult hdataset => ?_⟩
        obtain rfl := Except.ok.inj (himport.symm.trans hresult)
        simp [blocked] at hdataset

end Import

def wholeNumber (value : String) : Option Nat :=
  if value.toList ≠ [] ∧ value.toList.all Char.isDigit then
    some (value.toList.foldl (fun number c => number * 10 + (c.toNat - '0'.toNat)) 0)
  else none

def asciiText : PyText where
  lower value := String.ofList (value.toList.map Char.toLower)
  upper value := String.ofList (value.toList.map Char.toUpper)
  isDigit value := (wholeNumber value).isSome
  int value := (wholeNumber value).map fun number => (number : Int)
  float value :=
    if value = "nan" then some .nan
    else (wholeNumber value).map fun number => .finite number
  fromisoformat _ := .unparseable

def shortRecord : List CsvRecord :=
  [requiredCsvColumns ++ ["spread"], ["1700000000"]]

def shortRequest : HistoricalCsvImportRequest where
  combinedCsvPath := some "prices.csv"

/-- A row without a symbol cell makes the import raise. -/
theorem short_record_raises :
    ¬ SoundImport asciiText (fun _ => .file true shortRecord) shortRequest := by
  rintro ⟨⟨result, hresult⟩, -⟩
  have hraises : importHistoricalCsv asciiText (fun _ => .file true shortRecord) shortRequest =
      .error .attributeError := by
    decide +kernel
  rw [hraises] at hresult
  cases hresult

end FxStrategyLab.CsvImport
