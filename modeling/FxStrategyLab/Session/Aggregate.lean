import FxStrategyLab.Library.FirstRows
import FxStrategyLab.Session.AuditSchema

/-!
# The risk counts of a run's logs

This file embeds `_load_risk_pipeline` of `shadow/aggregate.py`.  A file stands by its lines
and a JSON object by its fields, of which Python keeps the last value of a repeated key.  Of a
valid row the source reads the fields of the records below.  A row whose validation ends in
another exception than `AuditSchemaError` ends the source's call; it counts as invalid here.
-/

namespace FxStrategyLab.Session

open Library (Json FirstRows)
open Library.Json (FloatText)

mutual

def pythonValue : Json → Json
  | .array items => .array (pythonItems items)
  | .object fields => .object (pythonFields fields)
  | v => v

def pythonItems : List Json → List Json
  | [] => []
  | v :: rest => pythonValue v :: pythonItems rest

/-- The fields of a dict: a key that comes again gives its place to the later one. -/
def pythonFields : List (String × Json) → List (String × Json)
  | [] => []
  | (key, v) :: rest =>
      let later := pythonFields rest
      if key ∈ later.map Prod.fst then later else (key, pythonValue v) :: later

end

/-- What is read of a valid row of `candidate_log`. -/
structure CandidateRow where
  candidateId : String
  runId : String
  stepIndex : Option Int
deriving DecidableEq

/-- What is read of a valid row of `risk_decision_log`. -/
structure DecisionRow where
  decisionId : String
  candidateId : String
  runId : String
  stepIndex : Option Int
  status : String
  reasons : List String
deriving DecidableEq

/-- What is read of a valid row of `virtual_result_log`. -/
structure VirtualRow where
  decisionId : String
  candidateId : String
deriving DecidableEq

namespace Row

variable (row : Row)

def text (field : String) : String :=
  (row.textOf field).getD ""

def integer (field : String) : Option Int :=
  match row.get field with
  | .integer n => some n
  | _ => none

def texts (field : String) : List String :=
  match row.get field with
  | .array items => items.filterMap fun item =>
      match item with
      | .text s => some s
      | _ => none
  | _ => []

def flag (field : String) : Bool :=
  match row.get field with
  | .boolean b => b
  | _ => false

def candidate : CandidateRow where
  candidateId := row.text "candidate_id"
  runId := row.text "run_id"
  stepIndex := row.integer "step_index"

def decision : DecisionRow where
  decisionId := row.text "decision_id"
  candidateId := row.text "candidate_id"
  runId := row.text "run_id"
  stepIndex := row.integer "step_index"
  status := row.text "status"
  reasons := row.texts "reasons"

def virtualResult : VirtualRow where
  decisionId := row.text "decision_id"
  candidateId := row.text "candidate_id"

end Row

/-- A log file: there is none, it cannot be read, or it has lines. -/
inductive LogFile
  | missing
  | unreadable
  | lines (texts : List (List Char))
deriving DecidableEq

def LogFile.texts : LogFile → List (List Char)
  | lines texts => texts
  | _ => []

abbrev RunLogs := EventType → LogFile

/-- Source `_risk_log_error` and `_plain_risk_log_error`. -/
structure LogError where
  eventType : EventType
  line : Option Nat := none
  field : String
  value : Option String := none
  expected : Option String := none

section Reading

variable (dt : Datetime) (floats : FloatText) (runId : String)

/-- The reading of a line that is no blank: its row, or the field and the texts of its
error. -/
def readRow (event : EventType) (text : List Char) :
    Except (String × Option String × Option String) Row :=
  match Json.loads floats text with
  | some (.object fields) =>
      let row := pythonFields fields
      match validateAuditRow dt row event runId with
      | .ok _ => .ok row
      | .error error => .error (error.field, none, none)
  | _ => .error ("row", some "invalid_json", some "JSON object")

def isBlankLine (text : List Char) : Bool :=
  text.all isSpace

def validRows (event : EventType) (texts : List (List Char)) : List Row :=
  (texts.filter fun text => !isBlankLine text).filterMap fun text =>
    (readRow dt floats runId event text).toOption

def fileErrors (event : EventType) : LogFile → List LogError
  | .missing => []
  | .unreadable =>
      [{ eventType := event, field := event.value ++ ".jsonl", value := some "OSError",
         expected := some "readable JSONL file" }]
  | .lines texts =>
      (texts.zipIdx 1).filterMap fun (text, number) =>
        if isBlankLine text then none
        else
          match readRow dt floats runId event text with
          | .ok _ => none
          | .error (field, value, expected) =>
              some { eventType := event, line := some number, field, value, expected }

end Reading

def riskLogEventTypes : List EventType :=
  [.candidateLog, .killSwitchLog, .riskDecisionLog, .signalDecisionLog, .virtualResultLog]

/-- The rows of a run directory, read once. -/
structure LoadedLogs where
  candidates : FirstRows CandidateRow String
  decisions : FirstRows DecisionRow String
  virtualResults : FirstRows VirtualRow String

def sortedIds (ids : List String) : List String :=
  ids.mergeSort fun a b => a ≤ b

/-- Source `Counter`, in the order of its keys. -/
def counter (values : List String) : List (String × Nat) :=
  (sortedIds values.dedup).map fun value => (value, values.count value)

namespace LoadedLogs

variable (logs : LoadedLogs)

def candidateIds : List String :=
  logs.candidates.rows.map CandidateRow.candidateId

def decidedIds : List String :=
  (logs.decisions.rows.map DecisionRow.candidateId).dedup

/-- Source `decisions_by_candidate` at a candidate. -/
def decisionsOf (candidateId : String) : List DecisionRow :=
  logs.decisions.rows.filter fun decision => decision.candidateId = candidateId

def orphans : List String :=
  sortedIds (logs.decidedIds.filter fun id => id ∉ logs.candidateIds)

/-- Candidates with several decisions. -/
def multiplyDecided : List String :=
  sortedIds (logs.decidedIds.filter fun id =>
    id ∈ logs.candidateIds ∧ (logs.decisionsOf id).length ≠ 1)

def undecided : List String :=
  sortedIds (logs.candidateIds.filter fun id => id ∉ logs.decidedIds)

def invalidCandidateIds : List String :=
  logs.candidates.repeated ++ logs.multiplyDecided ++ logs.undecided

def invalidDecisionIds : List String :=
  logs.decisions.repeated ++
    (logs.orphans ++ logs.multiplyDecided).flatMap fun id =>
      (logs.decisionsOf id).map DecisionRow.decisionId

def decisionFor (candidate : CandidateRow) : Option DecisionRow :=
  match logs.decisionsOf candidate.candidateId with
  | [decision] =>
      if candidate.candidateId ∈ logs.invalidCandidateIds ∨
          decision.decisionId ∈ logs.invalidDecisionIds then none
      else some decision
  | _ => none

def countedDecisions : List DecisionRow :=
  logs.candidates.rows.filterMap fun candidate =>
    (logs.decisionFor candidate).filter fun decision =>
      decision.runId = candidate.runId ∧ decision.stepIndex = candidate.stepIndex

def countedAllows : List DecisionRow :=
  logs.countedDecisions.filter fun decision => decision.status = "ALLOW_SHADOW"

def countedRejects : List DecisionRow :=
  logs.countedDecisions.filter fun decision => decision.status ≠ "ALLOW_SHADOW"

/-- What the error of a virtual result expects; none for one that is counted. -/
def virtualDefect (virtual : VirtualRow) : Option String :=
  match logs.decisions.rows.find? fun decision => decision.decisionId = virtual.decisionId with
  | none => some "matching risk_decision_log row"
  | some decision =>
      if virtual.decisionId ∈ logs.invalidDecisionIds ∨
          decision.candidateId ∈ logs.invalidCandidateIds ∨
          decision.status ≠ "ALLOW_SHADOW" ∨ virtual.candidateId ≠ decision.candidateId then
        some "matching ALLOW_SHADOW decision and candidate"
      else none

/-- The virtual results whose decision id comes once. -/
def uniqueVirtuals : List VirtualRow :=
  logs.virtualResults.rows.filter fun virtual =>
    virtual.decisionId ∉ logs.virtualResults.repeated

def countedVirtuals : List VirtualRow :=
  logs.uniqueVirtuals.filter fun virtual => logs.virtualDefect virtual = none

def idErrors (event : EventType) (field expected : String) (ids : List String) :
    List LogError :=
  ids.map fun id =>
    { eventType := event, field, value := some id, expected := some expected }

def errors : List LogError :=
  idErrors .candidateLog "candidate_id" "unique candidate_id"
      (sortedIds logs.candidates.repeated) ++
    idErrors .riskDecisionLog "decision_id" "unique decision_id"
      (sortedIds logs.decisions.repeated) ++
    idErrors .virtualResultLog "decision_id" "unique virtual result per decision_id"
      (sortedIds logs.virtualResults.repeated) ++
    idErrors .riskDecisionLog "candidate_id" "matching candidate_log row" logs.orphans ++
    idErrors .riskDecisionLog "candidate_id" "exactly one risk decision"
      logs.multiplyDecided ++
    idErrors .candidateLog "candidate_id" "matching risk_decision_log row" logs.undecided ++
    (logs.candidates.rows.filterMap fun candidate =>
      ((logs.decisionFor candidate).filter fun decision =>
        ¬ (decision.runId = candidate.runId ∧ decision.stepIndex = candidate.stepIndex)).map
        fun decision =>
          { eventType := .riskDecisionLog, field := "candidate_correlation",
            value := some decision.decisionId,
            expected := some "same run_id and step_index as candidate" }) ++
    ((logs.uniqueVirtuals.mergeSort fun a b => a.decisionId ≤ b.decisionId).filterMap
      fun virtual =>
        (logs.virtualDefect virtual).map fun expected =>
          { eventType := .virtualResultLog, field := "decision_id",
            value := some virtual.decisionId, expected := some expected })

end LoadedLogs

structure RiskCounts where
  candidateCount : Nat
  riskAllowCount : Nat
  riskRejectCount : Nat
  virtualResultCount : Nat
  killSwitchCount : Nat
  killSwitchActive : Bool
  shadowRiskSchemaVersions : List String
  rejectReasons : List (String × Nat)
  killSwitchReasons : List (String × Nat)
  invalidRiskRowCount : Nat

/-- The result of `_load_risk_pipeline`. -/
structure RiskPipeline where
  counts : RiskCounts
  logErrors : List LogError

section Loading

variable (dt : Datetime) (floats : FloatText) (runId : String) (files : RunLogs)

def rowsOf (event : EventType) : List Row :=
  validRows dt floats runId event (files event).texts

/-- The first loop of `_load_risk_pipeline`. -/
def loadLogs : LoadedLogs where
  candidates :=
    FirstRows.read CandidateRow.candidateId
      ((rowsOf dt floats runId files .candidateLog).map Row.candidate)
  decisions :=
    FirstRows.read DecisionRow.decisionId
      ((rowsOf dt floats runId files .riskDecisionLog).map Row.decision)
  virtualResults :=
    FirstRows.read VirtualRow.decisionId
      ((rowsOf dt floats runId files .virtualResultLog).map Row.virtualResult)

/-- The result for logs that are there; each error counts as an invalid row. -/
def riskPipeline : RiskPipeline :=
  let logs := loadLogs dt floats runId files
  let killRows := rowsOf dt floats runId files .killSwitchLog
  let errors :=
    (riskLogEventTypes.flatMap fun event => fileErrors dt floats runId event (files event)) ++
      logs.errors
  { counts :=
      { candidateCount := logs.countedDecisions.length
        riskAllowCount := logs.countedAllows.length
        riskRejectCount := logs.countedRejects.length
        virtualResultCount := logs.countedVirtuals.length
        killSwitchCount := killRows.length
        killSwitchActive := killRows.any fun row => row.flag "active"
        shadowRiskSchemaVersions :=
          sortedIds ((riskLogEventTypes.flatMap fun event =>
            (rowsOf dt floats runId files event).map fun row =>
              row.text "schema_version").dedup)
        rejectReasons := counter (logs.countedRejects.flatMap DecisionRow.reasons)
        killSwitchReasons := counter (killRows.flatMap fun row => row.texts "reasons")
        invalidRiskRowCount := errors.length }
    logErrors := errors }

/-- Source `_load_risk_pipeline` of a run directory, which is named after its run. -/
def loadRiskPipeline : Option RiskPipeline :=
  if ∀ event ∈ riskLogEventTypes, files event = .missing then none
  else some (riskPipeline dt floats runId files)

end Loading

end FxStrategyLab.Session
