import FxStrategyLab.Library.PyOrder

/-!
# The report index

This file embeds `report_index_entry` and `list_report_index` of `fx_eval_common.py`: one row for
each run directory, read from its manifest, its warnings and its one summary, and the list of
the rows.  A file is given by what reading it ends in.  The rows carry their keys by
construction, so the two calls of `validate_report_index_row` have nothing to find.

**Results.** `confirmed_iff`: when a row confirms that its run was read-only.
-/

namespace FxStrategyLab.Evaluation

open Library.PyOrder

/-- What reading a JSON file ends in: a value, no file, an `OSError` or a `ValueError`, or the
`RecursionError` of a value that is nested too deep. -/
inductive JsonFile
  | missing
  | unreadable (error : String)
  | tooDeep
  | value (v : Value)

/-- The errors that become an error row. -/
inductive ReadError
  | file (error : String)
  | noSummary
  | multipleSummaries (names : List String)

inductive IndexError
  | read (error : ReadError)
  | typeError
  | recursionError
  | exportsRootNotFound

def readJsonIfExists : JsonFile → Except IndexError (List (String × Value))
  | .missing => .ok []
  | .unreadable error => .error (.read (.file error))
  | .tooDeep => .error .recursionError
  | .value (.object fields) => .ok fields
  | .value _ => .ok []

/-- Python's `get` on an object. -/
def get (fields : List (String × Value)) (key : String) : Value :=
  (fields.lookup key).getD .null

/-- Python's `or` of two values. -/
def orElse (v other : Value) : Value :=
  if v.truthy then v else other

/-- A run directory; its summaries are those of the pattern `metrics_*_summary.json`, by name. -/
structure RunDirectory where
  name : String
  manifest : JsonFile
  warnings : JsonFile
  summaries : List (String × JsonFile)

/-- The objects that the files of a run hold. -/
structure RunContents where
  manifest : List (String × Value)
  warnings : List (String × Value)
  summaryFile : String
  summary : List (String × Value)

def RunDirectory.read (run : RunDirectory) : Except IndexError RunContents := do
  let manifest ← readJsonIfExists run.manifest
  let warnings ← readJsonIfExists run.warnings
  match run.summaries with
  | [] => .error (.read .noSummary)
  | [(summaryFile, file)] => do
      let summary ← readJsonIfExists file
      .ok { manifest, warnings, summaryFile, summary }
  | summaries => .error (.read (.multipleSummaries (summaries.map Prod.fst)))

def reportIndexSafetyKeys : List String :=
  ["real_order", "private_api_used", "api_key_used", "gmo_readonly", "gmo_order_enabled",
    "no_order_execution"]

def safeExpected : List (String × Bool) :=
  [("real_order", false), ("private_api_used", false), ("api_key_used", false),
    ("gmo_order_enabled", false), ("gmo_readonly", true), ("no_order_execution", true)]

/-- A row that `report_index_entry` returns. -/
structure ReportIndexEntry where
  runId : Value
  kind : Value
  strategy : Value
  timeframe : Value
  costScenario : Value
  spreadPips : Value
  slippagePips : Value
  stopLossPips : Value
  takeProfitPips : Value
  verdict : Value
  medianExpectancy : Value
  medianPf : Value
  totalPnl : Value
  maxDrawdownMax : Value
  createdAt : Value
  summaryFile : String
  safety : List (String × Value)
  safetyComplete : Bool
  safetyConflicts : List String
  readOnlyConfirmed : Bool
  warningsCount : Nat
  hasWarnings : Bool

variable (contents : RunContents)

def safetyValue (key : String) : Value :=
  if (get contents.manifest key).isNull then get contents.warnings key
  else get contents.manifest key

/-- Manifest and warnings both hold a flag, and not the same. -/
def safetyConflict (key : String) : Bool :=
  !(get contents.manifest key).isNull && !(get contents.warnings key).isNull &&
    !(get contents.manifest key).equal (get contents.warnings key)

def fetchWarnings : Value :=
  orElse (get contents.warnings "fetch_warnings") (.array [])

def runIdOf (name : String) (contents : RunContents) : Value :=
  orElse (get contents.manifest "run_id") (.text name)

/-- The row of a run whose files were read. -/
def entryOf (name : String) (contents : RunContents) : Except IndexError ReportIndexEntry :=
  let safety := reportIndexSafetyKeys.map fun key => (key, safetyValue contents key)
  let conflicts := reportIndexSafetyKeys.filter (safetyConflict contents)
  match (fetchWarnings contents).length? with
  | none => .error .typeError
  | some warningsCount =>
      .ok { runId := runIdOf name contents
            kind := get contents.manifest "kind"
            strategy := get contents.manifest "strategy"
            timeframe := get contents.manifest "timeframe"
            costScenario := get contents.manifest "cost_scenario"
            spreadPips := get contents.manifest "spread_pips"
            slippagePips := get contents.manifest "slippage_pips"
            stopLossPips := get contents.manifest "stop_loss_pips"
            takeProfitPips := get contents.manifest "take_profit_pips"
            verdict := get contents.summary "verdict"
            medianExpectancy := get contents.summary "median_expectancy"
            medianPf := get contents.summary "median_pf"
            totalPnl := get contents.summary "total_pnl"
            maxDrawdownMax := get contents.summary "max_drawdown_max"
            createdAt := get contents.manifest "created_at"
            summaryFile := contents.summaryFile
            safety
            safetyComplete := safety.all fun flag => !flag.2.isNull
            safetyConflicts := conflicts
            readOnlyConfirmed := conflicts.isEmpty &&
              safeExpected.all fun flag => (get safety flag.1).equal (.boolean flag.2)
            warningsCount
            hasWarnings := (fetchWarnings contents).truthy }

def reportIndexEntry (run : RunDirectory) : Except IndexError ReportIndexEntry := do
  let contents ← run.read
  entryOf run.name contents

inductive ReportIndexRow
  | normal (directory : String) (entry : ReportIndexEntry)
  | error (runId : String) (error : ReadError)

namespace ReportIndexRow

def directory : ReportIndexRow → String
  | .normal directory _ => directory
  | .error runId _ => runId

def hasError : ReportIndexRow → Bool
  | .normal _ _ => false
  | .error _ _ => true

def readOnlyConfirmed : ReportIndexRow → Bool
  | .normal _ entry => entry.readOnlyConfirmed
  | .error _ _ => false

def createdAt : ReportIndexRow → Value
  | .normal _ entry => entry.createdAt
  | .error _ _ => .null

def runId : ReportIndexRow → Value
  | .normal _ entry => entry.runId
  | .error runId _ => .text runId

variable (row : ReportIndexRow)

/-- The key of the rows with `created_at`; a tuple compares as an array does. -/
def createdKey : Value :=
  .array [row.createdAt, orElse row.runId (.text "")]

def runKey : Value :=
  orElse row.runId (.text "")

def isCreated : Bool :=
  !row.hasError && row.createdAt.truthy

def isPlain : Bool :=
  !row.hasError && !row.createdAt.truthy

end ReportIndexRow

/-- The row of a run directory: an error row for the errors that the source catches. -/
def rowOf (run : RunDirectory) : Except IndexError ReportIndexRow :=
  match reportIndexEntry run with
  | .ok entry => .ok (.normal run.name entry)
  | .error (.read error) => .ok (.error run.name error)
  | .error error => .error error

/-- What lies in the exports directory. -/
inductive Child
  | file (name : String)
  | directory (run : RunDirectory)

def Child.name : Child → String
  | .file name => name
  | .directory run => run.name

/-- The exports directory, its children by name. -/
structure ExportsRoot where
  children : List Child
  distinct : (children.map Child.name).Nodup

def Child.visible? : Child → Option RunDirectory
  | .file _ => none
  | .directory run => if run.name.toList.head? = some '.' then none else some run

def visibleRuns (root : ExportsRoot) : List RunDirectory :=
  root.children.filterMap Child.visible?

def sortRows (sort : KeySort) (key : ReportIndexRow → Value) (reverse : Bool)
    (rows : List ReportIndexRow) : Except IndexError (List ReportIndexRow) :=
  match sort.run key reverse rows with
  | some sorted => .ok sorted
  | none => .error .typeError

def listReportIndex (sort : KeySort) (exportsRoot : Option ExportsRoot) :
    Except IndexError (List ReportIndexRow) :=
  match exportsRoot with
  | none => .error .exportsRootNotFound
  | some root => do
      let entries ← (visibleRuns root).mapM rowOf
      let withCreated ← sortRows sort ReportIndexRow.createdKey true
        (entries.filter ReportIndexRow.isCreated)
      let withoutCreated ← sortRows sort ReportIndexRow.runKey false
        (entries.filter ReportIndexRow.isPlain)
      let errors ← sortRows sort ReportIndexRow.runKey false
        (entries.filter ReportIndexRow.hasError)
      .ok (withCreated ++ withoutCreated ++ errors)

def Uncontradicted (v : Value) (expected : Bool) : Prop :=
  v.isNull = true ∨ v.equal (.boolean expected) = true

def FlagGiven (key : String) (expected : Bool) : Prop :=
  ((get contents.manifest key).isNull = false ∨ (get contents.warnings key).isNull = false) ∧
    Uncontradicted (get contents.manifest key) expected ∧
    Uncontradicted (get contents.warnings key) expected

/-- A flag is present as the boolean with its read-only value, and never contradicted. -/
def FlagShown (key : String) (expected : Bool) : Prop :=
  (get contents.manifest key = .boolean expected ∨
      get contents.warnings key = .boolean expected) ∧
    Uncontradicted (get contents.manifest key) expected ∧
    Uncontradicted (get contents.warnings key) expected

theorem null_equal {v : Value} (h : v.isNull = true) (expected : Bool) :
    v.equal (.boolean expected) = false := by
  cases v <;> first | rfl | cases h

theorem flag_iff (key : String) (expected : Bool) :
    (safetyConflict contents key = false ∧
        (safetyValue contents key).equal (.boolean expected) = true) ↔
      FlagGiven contents key expected := by
  unfold safetyConflict safetyValue FlagGiven Uncontradicted
  generalize get contents.manifest key = m
  generalize get contents.warnings key = w
  cases hm : m.isNull with
  | true =>
      cases hw : w.isNull with
      | true => simp [null_equal hw]
      | false => simp
  | false =>
      cases hw : w.isNull with
      | true => simp
      | false =>
          simp only [Bool.not_false, Bool.true_and, Bool.not_eq_false', Bool.false_eq_true,
            if_false, true_or, true_and, false_or]
          constructor
          · rintro ⟨hsame, hsafe⟩
            exact ⟨hsafe, (equal_congr hsafe w).mp hsame⟩
          · rintro ⟨hsafe, hother⟩
            exact ⟨(equal_congr hsafe w).mpr hother, hsafe⟩

theorem mem_safetyKeys_iff (key : String) :
    key ∈ reportIndexSafetyKeys ↔ ∃ flag ∈ safeExpected, flag.1 = key := by
  simp only [reportIndexSafetyKeys, safeExpected, List.mem_cons, List.not_mem_nil, or_false,
    exists_eq_or_imp, exists_eq_left]
  tauto

theorem get_safety {flag : String × Bool} (h : flag ∈ safeExpected) :
    get (reportIndexSafetyKeys.map fun key => (key, safetyValue contents key)) flag.1 =
      safetyValue contents flag.1 := by
  simp only [safeExpected, List.mem_cons, List.not_mem_nil, or_false] at h
  rcases h with rfl | rfl | rfl | rfl | rfl | rfl <;>
    simp [reportIndexSafetyKeys, get, List.lookup]

/-- **Confirmation.** A row confirms that its run was read-only exactly when every flag is
given with its read-only value. -/
theorem confirmed_iff {name : String} {contents : RunContents} {entry : ReportIndexEntry}
    (h : entryOf name contents = .ok entry) :
    entry.readOnlyConfirmed = true ↔
      ∀ flag ∈ safeExpected, FlagGiven contents flag.1 flag.2 := by
  unfold entryOf at h
  dsimp only at h
  split at h
  next => cases h
  next warningsCount hcount =>
    cases Except.ok.inj h
    simp only [Bool.and_eq_true, List.isEmpty_iff, List.filter_eq_nil_iff, List.all_eq_true,
      Bool.not_eq_true]
    constructor
    · rintro ⟨hconflicts, hsafe⟩ flag hflag
      have hvalue := hsafe flag hflag
      rw [get_safety contents hflag] at hvalue
      exact (flag_iff contents flag.1 flag.2).mp
        ⟨hconflicts flag.1 ((mem_safetyKeys_iff flag.1).mpr ⟨flag, hflag, rfl⟩), hvalue⟩
    · intro hgiven
      constructor
      · intro key hkey
        obtain ⟨flag, hflag, rfl⟩ := (mem_safetyKeys_iff key).mp hkey
        exact ((flag_iff contents flag.1 flag.2).mpr (hgiven flag hflag)).1
      · intro flag hflag
        rw [get_safety contents hflag]
        exact ((flag_iff contents flag.1 flag.2).mpr (hgiven flag hflag)).2

end FxStrategyLab.Evaluation
