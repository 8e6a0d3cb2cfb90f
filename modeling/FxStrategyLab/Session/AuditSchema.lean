import FxStrategyLab.Library.Json
import FxStrategyLab.Session.Risk

/-!
# The audit rows of a shadow session

This file embeds `shadow/audit_schema.py` and `shadow/audit.py`: the rows of the five event
logs, their validation and the appending of a row to its file.  A dict is kept in the order
of its keys, as `sort_keys` writes it; the checks of the directories and of symbolic links
belong to the disk.

**Results.** A row is appended only if it is valid, as one line that reads back as the row
(`encodeAuditEvent_loads`).
-/

namespace FxStrategyLab.Session

open Library (Json)
open Library.Json (FloatText)

/-- Source `AUDIT_EVENT_TYPES`. -/
inductive EventType
  | signalDecisionLog
  | candidateLog
  | riskDecisionLog
  | virtualResultLog
  | killSwitchLog
deriving DecidableEq

def EventType.value : EventType → String
  | signalDecisionLog => "signal_decision_log"
  | candidateLog => "candidate_log"
  | riskDecisionLog => "risk_decision_log"
  | virtualResultLog => "virtual_result_log"
  | killSwitchLog => "kill_switch_log"

structure SignalDecisionAuditRecord where
  runId : String
  timestamp : String
  stepIndex : Nat
  signalLabel : SignalLabel
  disposition : Disposition
  reasonCodes : List RejectReason
  marketDataTimestamp : String
  source : String
  symbol : String
  interval : String
  signalName : String

structure VirtualResultAuditRecord where
  runId : String
  timestamp : String
  candidateId : String
  decisionId : String
  status : String
  positionSide : String
  units : Int
  unrealizedPnl : PyFloat

/-- Source `KillSwitchAuditRecord` of an active switch. -/
structure KillSwitchAuditRecord where
  runId : String
  timestamp : String
  reasons : List KillSwitchReason
  activatedAt : Option String
  trigger : String

/-- The payloads of `write_audit_event`. -/
inductive AuditPayload
  | signal (record : SignalDecisionAuditRecord)
  | candidate (candidate : OrderCandidate)
  | decision (decision : RiskDecision)
  | virtualResult (record : VirtualResultAuditRecord)
  | killSwitch (record : KillSwitchAuditRecord)

namespace AuditPayload

def eventType : AuditPayload → EventType
  | signal _ => .signalDecisionLog
  | candidate _ => .candidateLog
  | decision _ => .riskDecisionLog
  | virtualResult _ => .virtualResultLog
  | killSwitch _ => .killSwitchLog

end AuditPayload

abbrev Row := List (String × Json)

def PyFloat.json : PyFloat → Json
  | finite q => .float q
  | notFinite => .nan

/-- Source `SAFETY_EXPECTED`, in the order of the keys. -/
def safetyExpected : List (String × Bool) :=
  [("api_key_used", false), ("gmo_order_enabled", false),
    ("live_trading_environment_enabled", false), ("no_order_execution", true),
    ("private_api_used", false), ("real_order", false)]

def codes (values : List String) : Json :=
  .array (values.map Json.text)

/-- The row of a record, as `build_audit_row` makes it. -/
def AuditPayload.row : AuditPayload → Row
  | .signal r =>
      [("api_key_used", .boolean false), ("disposition", .text r.disposition.value),
        ("event_type", .text "signal_decision_log"), ("gmo_order_enabled", .boolean false),
        ("interval", .text r.interval), ("live_trading_environment_enabled", .boolean false),
        ("market_data_timestamp", .text r.marketDataTimestamp),
        ("no_order_execution", .boolean true), ("private_api_used", .boolean false),
        ("real_order", .boolean false),
        ("reason_codes", codes (r.reasonCodes.map RejectReason.value)),
        ("run_id", .text r.runId), ("schema_version", .text schemaVersion),
        ("signal_label", .text r.signalLabel.value), ("signal_name", .text r.signalName),
        ("source", .text r.source), ("step_index", .integer r.stepIndex),
        ("symbol", .text r.symbol), ("timestamp", .text r.timestamp)]
  | .candidate c =>
      [("api_key_used", .boolean false),
        ("blocked_reason", codes (c.blockedReason.map RejectReason.value)),
        ("candidate_id", .text c.candidateId), ("confidence", .float c.confidence),
        ("created_by", .text c.createdBy),
        ("entry_reference_price", c.entryReferencePrice.json),
        ("event_type", .text "candidate_log"), ("gmo_order_enabled", .boolean false),
        ("interval", .text c.interval), ("live_trading_environment_enabled", .boolean false),
        ("market_data_timestamp", .text c.marketDataTimestamp),
        ("no_order_execution", .boolean true), ("private_api_used", .boolean false),
        ("quantity", .integer c.quantity), ("quantity_mode", .text c.quantityMode),
        ("real_order", .boolean false), ("risk_status", .text c.riskStatus),
        ("run_id", .text c.runId), ("schema_version", .text schemaVersion),
        ("side", .text c.side.value), ("signal_name", .text c.signalName),
        ("signal_reason", .text c.signalReason), ("source", .text c.source),
        ("spread_pips", c.spreadPips.json),
        ("spread_provenance", .text c.spreadProvenance.value),
        ("step_index", .integer c.stepIndex), ("symbol", .text c.symbol),
        ("timestamp", .text c.timestamp)]
  | .decision d =>
      [("api_key_used", .boolean false), ("candidate_id", .text d.candidateId),
        ("checked_policy_id", .text d.checkedPolicyId), ("decision_id", .text d.decisionId),
        ("event_type", .text "risk_decision_log"), ("gmo_order_enabled", .boolean false),
        ("live_trading_environment_enabled", .boolean false),
        ("no_order_execution", .boolean true), ("private_api_used", .boolean false),
        ("real_order", .boolean false),
        ("reasons", codes (d.reasons.map RejectReason.value)), ("run_id", .text d.runId),
        ("schema_version", .text schemaVersion), ("status", .text d.status.value),
        ("step_index", .integer d.stepIndex), ("timestamp", .text d.timestamp)]
  | .virtualResult r =>
      [("api_key_used", .boolean false), ("candidate_id", .text r.candidateId),
        ("decision_id", .text r.decisionId), ("event_type", .text "virtual_result_log"),
        ("gmo_order_enabled", .boolean false),
        ("live_trading_environment_enabled", .boolean false),
        ("no_order_execution", .boolean true), ("position_side", .text r.positionSide),
        ("private_api_used", .boolean false), ("real_order", .boolean false),
        ("run_id", .text r.runId), ("schema_version", .text schemaVersion),
        ("status", .text r.status), ("timestamp", .text r.timestamp),
        ("units", .integer r.units), ("unrealized_pnl", r.unrealizedPnl.json)]
  | .killSwitch r =>
      [("activated_at", (r.activatedAt.map Json.text).getD .null), ("active", .boolean true),
        ("api_key_used", .boolean false), ("event_type", .text "kill_switch_log"),
        ("gmo_order_enabled", .boolean false),
        ("live_trading_environment_enabled", .boolean false),
        ("no_order_execution", .boolean true), ("private_api_used", .boolean false),
        ("real_order", .boolean false),
        ("reasons", codes (r.reasons.map KillSwitchReason.value)), ("run_id", .text r.runId),
        ("safety_snapshot", .object (safetyExpected.map fun flag => (flag.1, .boolean flag.2))),
        ("schema_version", .text schemaVersion), ("timestamp", .text r.timestamp),
        ("trigger", .text r.trigger)]

/-- Source `AuditSchemaError`: its message and its field. -/
structure AuditSchemaError where
  message : String
  field : String := "row"

def forbiddenFieldNames : List String :=
  ["apikey", "secret", "token", "password", "privatekey", "authorization", "accountid",
    "brokerorderid", "rawresponse", "rawrequest", "rawheaders", "responseheaders",
    "requestheaders", "responsebody", "requestbody", "credentials"]

/-- Source `normalize_field_name`, for ASCII names. -/
def normalizeFieldName (name : String) : String :=
  String.ofList ((name.toList.map Char.toLower).filter Char.isAlphanum)

mutual

def findForbiddenField : Json → Option String
  | .object fields => findForbiddenIn fields
  | .array items => findForbiddenAmong items
  | _ => none

/-- The fields of an object. -/
def findForbiddenIn : List (String × Json) → Option String
  | [] => none
  | (key, v) :: rest =>
      if normalizeFieldName key ∈ forbiddenFieldNames then some key
      else (findForbiddenField v).or (findForbiddenIn rest)

/-- The items of an array. -/
def findForbiddenAmong : List Json → Option String
  | [] => none
  | v :: rest => (findForbiddenField v).or (findForbiddenAmong rest)

end

def commonFields : List String :=
  ["schema_version", "event_type", "run_id", "timestamp"] ++ safetyExpected.map Prod.fst

/-- Source `_EVENT_ALLOWED_FIELDS`, which is `_EVENT_REQUIRED_FIELDS` too. -/
def eventFields : EventType → List String
  | .signalDecisionLog =>
      commonFields ++ ["step_index", "signal_label", "disposition", "reason_codes",
        "market_data_timestamp", "source", "symbol", "interval", "signal_name"]
  | .candidateLog =>
      commonFields ++ ["candidate_id", "step_index", "market_data_timestamp", "source",
        "symbol", "interval", "side", "quantity_mode", "quantity", "entry_reference_price",
        "spread_pips", "spread_provenance", "signal_name", "signal_reason", "confidence",
        "risk_status", "blocked_reason", "created_by"]
  | .riskDecisionLog =>
      commonFields ++ ["decision_id", "candidate_id", "step_index", "status", "reasons",
        "checked_policy_id"]
  | .virtualResultLog =>
      commonFields ++ ["candidate_id", "decision_id", "status", "position_side", "units",
        "unrealized_pnl"]
  | .killSwitchLog =>
      commonFields ++ ["active", "reasons", "activated_at", "trigger", "safety_snapshot"]

/-- The value of a field, `null` for a missing one. -/
def Row.get (row : Row) (field : String) : Json :=
  ((row.find? fun entry => entry.1 = field).map Prod.snd).getD .null

def Row.textOf (row : Row) (field : String) : Option String :=
  match row.get field with
  | .text s => some s
  | _ => none

abbrev RowCheck := Except AuditSchemaError Unit

def expect (passed : Bool) (message field : String) : RowCheck :=
  if passed then .ok () else .error { message, field }

def isIdChar (c : Char) : Bool :=
  c.isAlphanum || c == '_' || c == '.' || c == '-'

def hasTwoPoints : List Char → Bool
  | '.' :: '.' :: _ => true
  | _ :: rest => hasTwoPoints rest
  | [] => false

/-- Source `validate_run_id` of a text. -/
def validateRunId (runId : Option String) : Except AuditSchemaError String :=
  match runId with
  | none => .error { message := "invalid run_id", field := "run_id" }
  | some text =>
      match text.toList with
      | [] => .error { message := "invalid run_id", field := "run_id" }
      | c :: rest =>
          if c.isAlphanum && rest.all isIdChar && decide (rest.length ≤ 127) &&
              !hasTwoPoints (c :: rest) then
            .ok text
          else .error { message := "invalid run_id", field := "run_id" }

section Checks

variable (dt : Datetime) (row : Row)

variable (field : String)

def expectTimestamp : RowCheck :=
  match row.textOf field with
  | some text =>
      match asUtc dt text with
      | .ok _ => .ok ()
      | .error _ => .error { message := "invalid timestamp", field }
  | none => .error { message := "invalid timestamp", field }

/-- Source `_expect_bool` with an expected value. -/
def expectFlag (flag : String × Bool) : RowCheck :=
  match row.get flag.1 with
  | .boolean b => expect (b = flag.2) "safety flag violation" flag.1
  | _ => .error { message := "invalid boolean field", field := flag.1 }

def expectInt (minimum : Int) : RowCheck :=
  match row.get field with
  | .integer n => expect (minimum ≤ n) "invalid integer field" field
  | _ => .error { message := "invalid integer field", field }

/-- The number of a field; NaN and the infinities are none. -/
def finiteNumber : Option ℚ :=
  match row.get field with
  | .integer n => some n
  | .float q => some q
  | _ => none

def expectFiniteNumber (minimum : Option ℚ) : RowCheck :=
  match finiteNumber row field with
  | none => .error { message := "invalid numeric field", field }
  | some q =>
      expect (minimum.all fun m => m ≤ q) "numeric field below minimum" field

def expectText : RowCheck :=
  expect ((row.textOf field).any nonBlank) "invalid text field" field

def expectId : Except AuditSchemaError String :=
  match row.textOf field with
  | some text =>
      if text.toList ≠ [] ∧ text.toList.all isIdChar then .ok text
      else .error { message := "invalid id field", field }
  | none => .error { message := "invalid id field", field }

def codesOf : Option (List Json) :=
  match row.get field with
  | .array items => some items
  | _ => none

def isCode (allowed : List String) : Json → Bool
  | .text s => decide (s ∈ allowed)
  | _ => false

def expectReasonCodes (allowed : List String) :
    Except AuditSchemaError (List Json) :=
  match codesOf row field with
  | none => .error { message := "invalid reason code list", field }
  | some items =>
      if items.all (isCode allowed) then .ok items
      else .error { message := "invalid reason code", field }

def validateSafetySnapshot : RowCheck :=
  match row.get "safety_snapshot" with
  | .object snapshot => do
      expect (snapshot.all fun entry => decide (entry.1 ∈ safetyExpected.map Prod.fst))
        "unknown nested safety field" "safety_snapshot"
      safetyExpected.forM fun flag =>
        match Row.get snapshot flag.1 with
        | .boolean b => expect (b = flag.2) "nested safety flag violation" flag.1
        | _ => .error { message := "nested safety flag violation", field := flag.1 }
  | _ => .error { message := "invalid safety_snapshot", field := "safety_snapshot" }

def validateCandidateId : Except AuditSchemaError String := do
  let candidateId ← expectId row "candidate_id"
  let runId := (row.textOf "run_id").getD ""
  if ("cand_" ++ runId ++ "_").toList <+: candidateId.toList then return candidateId
  else throw { message := "candidate_id/run_id mismatch", field := "candidate_id" }

def validateDecisionId (candidateId : String) : Except AuditSchemaError String := do
  let decisionId ← expectId row "decision_id"
  if ("risk_" ++ candidateId ++ "_").toList <+: decisionId.toList then return decisionId
  else throw { message := "decision_id/candidate_id mismatch", field := "decision_id" }

def expectValue (values : List String) (message : String) : RowCheck :=
  expect ((row.textOf field).any fun text => decide (text ∈ values)) message field

/-- The branch of `_validate_event_specific_fields` for signals. -/
def validateSignalFields : RowCheck := do
  expectInt row "step_index" 0
  expectValue row "signal_label" ["BUY", "SELL", "HOLD"] "invalid signal_label"
  expectValue row "disposition"
    ["NO_TRADE", "BLOCKED_BY_RISK", "CANDIDATE_CREATED", "VIRTUAL_RESULT", "HALTED"]
    "invalid disposition"
  let _ ← expectReasonCodes row "reason_codes"
    (supplementalReasonValues ++ RejectReason.all.map RejectReason.value)
  expectTimestamp dt row "market_data_timestamp"
  ["source", "symbol", "interval", "signal_name"].forM (expectText row)

/-- The branch of `_validate_event_specific_fields` for candidates. -/
def validateCandidateFields : RowCheck := do
  let _ ← validateCandidateId row
  expectInt row "step_index" 0
  expectTimestamp dt row "market_data_timestamp"
  ["source", "symbol", "interval", "quantity_mode", "signal_name", "signal_reason",
    "risk_status", "created_by"].forM (expectText row)
  expectValue row "side" ["BUY", "SELL"] "invalid candidate side"
  expectValue row "spread_provenance" (SpreadProvenance.all.map SpreadProvenance.value)
    "invalid spread_provenance"
  expectInt row "quantity" 1
  expectFiniteNumber row "entry_reference_price" (some 0)
  expectFiniteNumber row "spread_pips" (some 0)
  expectFiniteNumber row "confidence" (some 0)
  expect ((finiteNumber row "confidence").all fun q => q ≤ 1) "confidence out of range"
    "confidence"
  let _ ← expectReasonCodes row "blocked_reason" (RejectReason.all.map RejectReason.value)
  expectValue row "risk_status" ["PENDING"] "invalid candidate risk_status"

/-- The branch of `_validate_event_specific_fields` for decisions. -/
def validateDecisionFields : RowCheck := do
  let candidateId ← validateCandidateId row
  let _ ← validateDecisionId row candidateId
  expectInt row "step_index" 0
  expectValue row "checked_policy_id" [shadowPolicyId] "invalid checked_policy_id"
  expectValue row "status" ["ALLOW_SHADOW", "REJECT_SHADOW"] "invalid risk status"
  let reasons ← expectReasonCodes row "reasons" (RejectReason.all.map RejectReason.value)
  expect (!(decide (row.textOf "status" = some "REJECT_SHADOW") && reasons.isEmpty))
    "reject decision requires reasons" "reasons"
  expect (!(decide (row.textOf "status" = some "ALLOW_SHADOW") && !reasons.isEmpty))
    "allow decision cannot have reject reasons" "reasons"

/-- The branch of `_validate_event_specific_fields` for virtual results. -/
def validateVirtualResultFields : RowCheck := do
  let candidateId ← validateCandidateId row
  let _ ← validateDecisionId row candidateId
  expectValue row "status" ["VIRTUAL_RESULT", "HALTED"] "invalid virtual result status"
  expectText row "position_side"
  expectInt row "units" 0
  expectFiniteNumber row "unrealized_pnl" none

/-- The branch of `_validate_event_specific_fields` for the kill switch. -/
def validateKillSwitchFields : RowCheck := do
  let active ← match row.get "active" with
    | .boolean b => .ok b
    | _ => .error { message := "invalid boolean field", field := "active" }
  let reasons ← expectReasonCodes row "reasons"
    (KillSwitchReason.all.map KillSwitchReason.value)
  if active then do
    expect (!reasons.isEmpty) "active kill switch requires reasons" "reasons"
    expectTimestamp dt row "activated_at"
  else
    match row.get "activated_at" with
    | .null =>
        expect reasons.isEmpty "inactive kill switch cannot hold active fields" "active"
    | _ =>
        .error { message := "inactive kill switch cannot hold active fields", field := "active" }
  expectText row "trigger"
  validateSafetySnapshot row

def validateEventSpecificFields : EventType → RowCheck
  | .signalDecisionLog => validateSignalFields dt row
  | .candidateLog => validateCandidateFields dt row
  | .riskDecisionLog => validateDecisionFields row
  | .virtualResultLog => validateVirtualResultFields row
  | .killSwitchLog => validateKillSwitchFields dt row

def validateAuditRow (event : EventType) (expectedRunId : String) : RowCheck := do
  match findForbiddenField (.object row) with
  | some field => throw { message := "forbidden audit field", field }
  | none => pure ()
  let keys := row.map Prod.fst
  match keys.filter (· ∉ eventFields event) with
  | field :: _ => throw { message := "unknown audit field", field }
  | [] => pure ()
  match (eventFields event).filter (· ∉ keys) with
  | field :: _ => throw { message := "missing required audit field", field }
  | [] => pure ()
  expectValue row "schema_version" [schemaVersion] "invalid schema_version"
  expectValue row "event_type" [event.value] "invalid event_type"
  let runId ← validateRunId (row.textOf "run_id")
  expect (decide (runId = expectedRunId)) "run_id mismatch" "run_id"
  expectTimestamp dt row "timestamp"
  safetyExpected.forM (expectFlag row)
  validateEventSpecificFields dt row event

end Checks

/-- The line of a payload for the run, if its row is valid. -/
def encodeAuditEvent (dt : Datetime) (floats : FloatText) (runId : String)
    (payload : AuditPayload) : Except AuditSchemaError (List Char) := do
  let _ ← validateRunId (some runId)
  validateAuditRow dt payload.row payload.eventType runId
  return Json.dumps floats (.object payload.row)

abbrev AuditFiles := EventType → Option (List Char)

/-- What the disk does with an append: it takes the line, or it fails and keeps none or some
of its characters. -/
inductive DiskOutcome
  | durable
  | failed (kept : Option Nat)

/-- A text at the end of an event file. -/
def AuditFiles.append (files : AuditFiles) (event : EventType) (text : List Char) :
    AuditFiles :=
  Function.update files event (some ((files event).getD [] ++ text))

/-- Source `write_audit_event`; the event file grows by one line, or the write fails. -/
def writeAuditEvent (dt : Datetime) (floats : FloatText) (runId : String)
    (payload : AuditPayload) (outcome : DiskOutcome) (files : AuditFiles) :
    Bool × AuditFiles :=
  match encodeAuditEvent dt floats runId payload with
  | .error _ => (false, files)
  | .ok encoded =>
      match outcome with
      | .durable => (true, files.append payload.eventType (encoded ++ ['\n']))
      | .failed none => (false, files)
      | .failed (some kept) =>
          (false, files.append payload.eventType ((encoded ++ ['\n']).take kept))

section Encoding

variable {dt : Datetime} {floats : FloatText} {runId : String} {payload : AuditPayload}
  {encoded : List Char}

theorem encodeAuditEvent_valid (h : encodeAuditEvent dt floats runId payload = .ok encoded) :
    validateAuditRow dt payload.row payload.eventType runId = .ok () ∧
      encoded = Json.dumps floats (.object payload.row) := by
  simp only [encodeAuditEvent, bind, Except.bind, pure, Except.pure] at h
  split at h
  · cases h
  · split at h
    · cases h
    · rename_i hvalid
      exact ⟨hvalid, (Except.ok.inj h).symm⟩

/-- **A line reads back as the row.** -/
theorem encodeAuditEvent_loads (h : encodeAuditEvent dt floats runId payload = .ok encoded) :
    Json.loads floats encoded = some (.object payload.row) := by
  rw [(encodeAuditEvent_valid h).2, Json.loads_dumps]

end Encoding

end FxStrategyLab.Session
