import FxStrategyLab.Digests

/-!
# Shadow candidates and their risk evaluation

This file embeds `shadow/risk.py`: the labels, the frozen policy, market snapshots,
candidates and `evaluate`.  A contract that its constructor checks is a structure with the
check as a field; the safety flags, which every constructor fixes, are left out.  Floats
and decimals stand by their exact value.

**Results.** `evaluate_allows_iff` gives the checks that an allowed candidate has passed,
the one against the last candidate apart from the others.
-/

namespace FxStrategyLab.Session

/-- The exceptions that the handlers of the session tell apart; a `TypeError` is caught
wherever a `ValueError` is. -/
inductive PyError
  | valueError
  | overflowError
  | other
deriving DecidableEq

/-- A float: its value, or none for a NaN or an infinity. -/
inductive PyFloat
  | finite (value : ℚ)
  | notFinite
deriving DecidableEq

/-- Python's `str.isspace` of a character. -/
def isSpace (c : Char) : Bool :=
  let n := c.toNat
  (9 ≤ n && n ≤ 13) || (28 ≤ n && n ≤ 32) || n == 0x85 || n == 0xa0 || n == 0x1680 ||
    (0x2000 ≤ n && n ≤ 0x200a) || n == 0x2028 || n == 0x2029 || n == 0x202f || n == 0x205f ||
    n == 0x3000

/-- Python's `str.strip`. -/
def strip (chars : List Char) : List Char :=
  ((chars.dropWhile isSpace).reverse.dropWhile isSpace).reverse

def nonBlank (text : String) : Bool :=
  text.toList.any fun c => !isSpace c

/-- What the code uses of Python's `datetime`: the reading of an ISO text, with the instant
in microseconds and whether the text named a timezone, and the text of a UTC instant with
microseconds, without its offset. -/
structure Datetime where
  fromisoformat : String → Except PyError (Int × Bool)
  isoformat : Int → String
  fromisoformat_isoformat : ∀ t, fromisoformat (isoformat t ++ "+00:00") = .ok (t, true)
  isoformat_ascii : ∀ t, ∀ c ∈ (isoformat t).toList, 33 ≤ c.toNat ∧ c.toNat < 127

section Time

variable (dt : Datetime)

/-- Source `_as_utc` of a text. -/
def asUtc (value : String) : Except PyError Int :=
  let text := strip value.toList
  if text = [] then .error .valueError
  else
    let iso :=
      if text.getLast? = some 'Z' then String.ofList text.dropLast ++ "+00:00"
      else String.ofList text
    match dt.fromisoformat iso with
    | .ok (instant, true) => .ok instant
    | .ok (_, false) => .error .valueError
    | .error e => .error e

def isoText (instant : Int) : String :=
  dt.isoformat instant ++ "Z"

/-- Source `canonical_timestamp` of a text. -/
def canonicalTimestamp (value : String) : Except PyError String :=
  (asUtc dt value).map (isoText dt)

variable {dt}

theorem isSpace_of_ascii {c : Char} (h : 33 ≤ c.toNat ∧ c.toNat < 127) : isSpace c = false := by
  simp only [isSpace, Bool.or_eq_false_iff, Bool.and_eq_false_iff, decide_eq_false_iff_not,
    beq_eq_false_iff_ne]
  omega

theorem isoText_toList (t : Int) : (isoText dt t).toList = (dt.isoformat t).toList ++ ['Z'] := by
  rw [isoText, String.toList_append]
  rfl

theorem isoText_ascii (t : Int) : ∀ c ∈ (isoText dt t).toList, 33 ≤ c.toNat ∧ c.toNat < 127 := by
  intro c hc
  rw [isoText_toList] at hc
  rcases List.mem_append.mp hc with hc | hc
  · exact dt.isoformat_ascii t c hc
  · rw [List.mem_singleton.mp hc]
    decide

theorem dropWhile_isSpace_of_ascii {chars : List Char}
    (h : ∀ c ∈ chars, 33 ≤ c.toNat ∧ c.toNat < 127) : chars.dropWhile isSpace = chars := by
  cases chars with
  | nil => rfl
  | cons c rest =>
      rw [List.dropWhile_cons_of_neg]
      rw [isSpace_of_ascii (h c List.mem_cons_self)]
      exact Bool.false_ne_true

theorem strip_of_ascii {chars : List Char} (h : ∀ c ∈ chars, 33 ≤ c.toNat ∧ c.toNat < 127) :
    strip chars = chars := by
  unfold strip
  rw [dropWhile_isSpace_of_ascii h, dropWhile_isSpace_of_ascii, List.reverse_reverse]
  intro c hc
  exact h c (List.mem_reverse.mp hc)

/-- **A canonical text reads back as its instant.** -/
@[simp]
theorem asUtc_isoText (t : Int) : asUtc dt (isoText dt t) = .ok t := by
  have hne : (dt.isoformat t).toList ++ ['Z'] ≠ [] := by simp
  unfold asUtc
  rw [strip_of_ascii (isoText_ascii t), isoText_toList]
  simp only [if_neg hne, List.getLast?_append, List.getLast?_singleton, Option.some_or,
    if_true, List.dropLast_concat, String.ofList_toList, dt.fromisoformat_isoformat]

end Time

theorem map_eq_ok {ε α β : Type} {f : α → β} {x : Except ε α} {b : β}
    (h : x.map f = .ok b) : ∃ a, x = .ok a ∧ f a = b := by
  cases x with
  | error e => cases h
  | ok a => exact ⟨a, rfl, Except.ok.inj h⟩

inductive SignalLabel
  | buy
  | sell
  | hold
deriving DecidableEq

def SignalLabel.value : SignalLabel → String
  | buy => "BUY"
  | sell => "SELL"
  | hold => "HOLD"

def SignalLabel.lower : SignalLabel → String
  | buy => "buy"
  | sell => "sell"
  | hold => "hold"

inductive Disposition
  | noTrade
  | blockedByRisk
  | candidateCreated
  | virtualResult
  | halted

def Disposition.value : Disposition → String
  | noTrade => "NO_TRADE"
  | blockedByRisk => "BLOCKED_BY_RISK"
  | candidateCreated => "CANDIDATE_CREATED"
  | virtualResult => "VIRTUAL_RESULT"
  | halted => "HALTED"

/-- The values of source `SupplementalReason`. -/
def supplementalReasonValues : List String :=
  ["INVALID_DATA", "MARKET_CLOSED", "SPREAD_TOO_WIDE", "RATE_LIMITED", "API_ERROR",
    "KILL_SWITCH_ACTIVE"]

inductive RejectReason
  | invalidData
  | marketClosed
  | staleData
  | spreadTooWide
  | syntheticSpreadNotAllowed
  | maxCandidatesPerRunExceeded
  | maxDailyCandidatesExceeded
  | duplicateCandidate
  | cooldownActive
  | killSwitchActive
  | unsupportedSymbol
  | unsupportedInterval
  | quantityOverLimit
  | quantityModeNotAllowed
  | missingRequiredFields
  | safetyFlagViolation
  | logWriteFailed
  | unknownState
deriving DecidableEq

namespace RejectReason

def value : RejectReason → String
  | invalidData => "invalid_data"
  | marketClosed => "market_closed"
  | staleData => "stale_data"
  | spreadTooWide => "spread_too_wide"
  | syntheticSpreadNotAllowed => "synthetic_spread_not_allowed"
  | maxCandidatesPerRunExceeded => "max_candidates_per_run_exceeded"
  | maxDailyCandidatesExceeded => "max_daily_candidates_exceeded"
  | duplicateCandidate => "duplicate_candidate"
  | cooldownActive => "cooldown_active"
  | killSwitchActive => "kill_switch_active"
  | unsupportedSymbol => "unsupported_symbol"
  | unsupportedInterval => "unsupported_interval"
  | quantityOverLimit => "quantity_over_limit"
  | quantityModeNotAllowed => "quantity_mode_not_allowed"
  | missingRequiredFields => "missing_required_fields"
  | safetyFlagViolation => "safety_flag_violation"
  | logWriteFailed => "log_write_failed"
  | unknownState => "unknown_state"

def all : List RejectReason :=
  [invalidData, marketClosed, staleData, spreadTooWide, syntheticSpreadNotAllowed,
    maxCandidatesPerRunExceeded, maxDailyCandidatesExceeded, duplicateCandidate,
    cooldownActive, killSwitchActive, unsupportedSymbol, unsupportedInterval,
    quantityOverLimit, quantityModeNotAllowed, missingRequiredFields, safetyFlagViolation,
    logWriteFailed, unknownState]

end RejectReason

inductive KillSwitchReason
  | safetyViolationDetected
  | privateApiUsedDetected
  | apiKeyUsedDetected
  | realOrderTrueDetected
  | unexpectedBrokerCallDetected
  | tooManyCandidates
  | repeatedApiErrors
  | brokenSummaryDetected
  | manualStopFileExists
  | logWriteFailed
  | policyMismatch
  | unknownException
  | unknownState

namespace KillSwitchReason

def value : KillSwitchReason → String
  | safetyViolationDetected => "safety_violation_detected"
  | privateApiUsedDetected => "private_api_used_detected"
  | apiKeyUsedDetected => "api_key_used_detected"
  | realOrderTrueDetected => "real_order_true_detected"
  | unexpectedBrokerCallDetected => "unexpected_broker_call_detected"
  | tooManyCandidates => "too_many_candidates"
  | repeatedApiErrors => "repeated_api_errors"
  | brokenSummaryDetected => "broken_summary_detected"
  | manualStopFileExists => "manual_stop_file_exists"
  | logWriteFailed => "log_write_failed"
  | policyMismatch => "policy_mismatch"
  | unknownException => "unknown_exception"
  | unknownState => "unknown_state"

def all : List KillSwitchReason :=
  [safetyViolationDetected, privateApiUsedDetected, apiKeyUsedDetected,
    realOrderTrueDetected, unexpectedBrokerCallDetected, tooManyCandidates,
    repeatedApiErrors, brokenSummaryDetected, manualStopFileExists, logWriteFailed,
    policyMismatch, unknownException, unknownState]

end KillSwitchReason

inductive RiskStatus
  | allowShadow
  | rejectShadow
deriving DecidableEq

def RiskStatus.value : RiskStatus → String
  | allowShadow => "ALLOW_SHADOW"
  | rejectShadow => "REJECT_SHADOW"

inductive SpreadProvenance
  | realPublicBidAsk
  | syntheticZero
  | candleDerived
  | unknown
deriving DecidableEq

namespace SpreadProvenance

def value : SpreadProvenance → String
  | realPublicBidAsk => "REAL_PUBLIC_BID_ASK"
  | syntheticZero => "SYNTHETIC_ZERO"
  | candleDerived => "CANDLE_DERIVED"
  | unknown => "UNKNOWN"

def all : List SpreadProvenance :=
  [realPublicBidAsk, syntheticZero, candleDerived, unknown]

end SpreadProvenance

/-- Source `MarketSnapshot`, what the session reads of it. -/
structure MarketSnapshot (dt : Datetime) where
  symbol : String
  tickerTimestamp : String
  bid : ℚ
  ask : ℚ
  symbol_nonBlank : nonBlank symbol = true
  ticker_read : ∃ instant, asUtc dt tickerTimestamp = .ok instant
  bounds : 0 < bid ∧ 0 < ask ∧ bid ≤ ask

def MarketSnapshot.spreadProvenance {dt : Datetime} (_ : MarketSnapshot dt) :
    SpreadProvenance :=
  .realPublicBidAsk

structure MarketSnapshotValidationError where
  reason : RejectReason
  counterName : String := "ticker_invalid_count"

def schemaVersion : String := "shadow-risk-v1"
def shadowPolicyId : String := "shadow-risk-policy-v1"

/-- Source `RiskPolicy`, what `evaluate` reads of it, with the constructor's checks. -/
structure RiskPolicy where
  allowedSymbols : List String := ["USD_JPY"]
  allowedIntervals : List String := ["M1"]
  maxCandidatesPerRun : Nat := 10
  maxDailyCandidates : Nat := 30
  maxQuantity : Int := 100
  quantityMode : String := "fixed"
  maxSpreadPips : ℚ := 1 / 2
  maxDataAgeSeconds : Nat := 180
  maxFutureSkewSeconds : Nat := 5
  cooldownSeconds : Nat := 60
  candidates_pos : 0 < maxCandidatesPerRun ∧ 0 < maxDailyCandidates := by decide
  quantity_pos : 0 < maxQuantity := by decide

/-- Source `KillSwitchState`, what the session reads of it: the reason and the time of its
activation.  There is no way back. -/
structure KillSwitchState where
  activation : Option (KillSwitchReason × String) := none

namespace KillSwitchState

def active (state : KillSwitchState) : Bool :=
  state.activation.isSome

def activate (state : KillSwitchState) (reason : KillSwitchReason) (timestamp : String) :
    KillSwitchState :=
  if state.active then state else { activation := some (reason, timestamp) }

end KillSwitchState

structure OrderCandidate where
  candidateId : String
  runId : String
  stepIndex : Nat
  timestamp : String
  marketDataTimestamp : String
  source : String
  symbol : String
  interval : String
  side : SignalLabel
  quantityMode : String := "fixed"
  quantity : Int
  entryReferencePrice : PyFloat
  spreadPips : PyFloat
  spreadProvenance : SpreadProvenance
  signalName : String
  signalReason : String
  confidence : ℚ
  riskStatus : String := "PENDING"
  blockedReason : List RejectReason := []
  createdBy : String := "shadow_candidate_factory"

section Ids

variable (sha : Sha256)

/-- Source `_short_hash`: the first twelve characters of the digest. -/
def shortHash (payload : CanonicalText) : String :=
  String.ofList ((sha.hexdigest payload).take 12)

structure CandidateKey where
  runId : String
  stepIndex : Nat
  symbol : String
  interval : String
  side : SignalLabel
  signalName : String
  marketDataTimestamp : String
  entryReferencePrice : PyFloat

/-- Source `make_candidate_id`; the price must be finite and the timestamp must read. -/
def makeCandidateId (dt : Datetime) (key : CandidateKey) : Except PyError String := do
  let price ← match key.entryReferencePrice with
    | .finite price => .ok price
    | .notFinite => .error .valueError
  let timestamp ← canonicalTimestamp dt key.marketDataTimestamp
  return s!"cand_{key.runId}_{key.stepIndex}_{key.side.lower}_" ++
    shortHash sha
      [("entry_reference_price", .decimal price), ("interval", .text key.interval),
        ("market_data_timestamp", .text timestamp), ("run_id", .text key.runId),
        ("side", .text key.side.value), ("signal_name", .text key.signalName),
        ("step_index", .integer key.stepIndex), ("symbol", .text key.symbol)]

def makeDecisionId (candidateId policyId : String) : String :=
  s!"risk_{candidateId}_" ++
    shortHash sha [("candidate_id", .text candidateId), ("policy_id", .text policyId)]

end Ids

def OrderCandidate.key (candidate : OrderCandidate) : CandidateKey where
  runId := candidate.runId
  stepIndex := candidate.stepIndex
  symbol := candidate.symbol
  interval := candidate.interval
  side := candidate.side
  signalName := candidate.signalName
  marketDataTimestamp := candidate.marketDataTimestamp
  entryReferencePrice := candidate.entryReferencePrice

def calculateSpreadPips (symbol : String) (bid ask : PyFloat) : Except PyError ℚ :=
  if symbol ≠ "USD_JPY" then .error .valueError
  else
    match bid, ask with
    | .finite bid, .finite ask =>
        if bid ≤ 0 ∨ ask ≤ 0 ∨ ask < bid then .error .valueError
        else .ok ((ask - bid) / (1 / 100))
    | _, _ => .error .valueError

/-- The arguments of `create_order_candidate`. -/
structure CandidateRequest where
  signalLabel : SignalLabel
  runId : String
  stepIndex : Nat
  timestamp : String
  marketDataTimestamp : String
  source : String
  symbol : String
  interval : String
  quantity : Int
  bid : PyFloat
  ask : PyFloat
  spreadProvenance : SpreadProvenance
  signalName : String
  signalReason : String
  confidence : ℚ

def createOrderCandidate (dt : Datetime) (sha : Sha256) (request : CandidateRequest)
    (killSwitch : KillSwitchState) : Except PyError (Option OrderCandidate) :=
  if request.signalLabel = .hold ∨ killSwitch.active = true then .ok none
  else do
    let entryPrice := if request.signalLabel = .buy then request.ask else request.bid
    let candidateId ← makeCandidateId sha dt
      { runId := request.runId
        stepIndex := request.stepIndex
        symbol := request.symbol
        interval := request.interval
        side := request.signalLabel
        signalName := request.signalName
        marketDataTimestamp := request.marketDataTimestamp
        entryReferencePrice := entryPrice }
    let timestamp ← canonicalTimestamp dt request.timestamp
    let marketDataTimestamp ← canonicalTimestamp dt request.marketDataTimestamp
    let spreadPips ← calculateSpreadPips request.symbol request.bid request.ask
    return some {
      candidateId
      runId := request.runId
      stepIndex := request.stepIndex
      timestamp
      marketDataTimestamp
      source := request.source
      symbol := request.symbol
      interval := request.interval
      side := request.signalLabel
      quantity := request.quantity
      entryReferencePrice := entryPrice
      spreadPips := .finite spreadPips
      spreadProvenance := request.spreadProvenance
      signalName := request.signalName
      signalReason := request.signalReason
      confidence := request.confidence }

/-- Source `RiskContext`; the evaluation time in microseconds. -/
structure RiskContext where
  evaluationTime : Int
  spreadProvenance : SpreadProvenance := .unknown
  candidatesInRun : Nat := 0
  candidatesToday : Nat := 0
  existingCandidateIds : List String := []
  lastCandidateTimestamp : Option String := none
  marketClosed : Bool := false
  killSwitch : KillSwitchState := {}

structure RiskDecision where
  decisionId : String
  candidateId : String
  runId : String
  stepIndex : Nat
  timestamp : String
  status : RiskStatus
  reasons : List RejectReason
  checkedPolicyId : String

def reasonIf (failed : Bool) (reason : RejectReason) : List RejectReason :=
  if failed then [reason] else []

def seconds (n : Nat) : Int := 1000000 * n

section Evaluation

variable (dt : Datetime) (sha : Sha256) (candidate : OrderCandidate) (context : RiskContext)
  (policy : RiskPolicy)

/-- The checks in front of the first reading of a timestamp. -/
def textReasons : List RejectReason :=
  reasonIf
      ([candidate.candidateId, candidate.runId, candidate.timestamp,
        candidate.marketDataTimestamp, candidate.source, candidate.symbol, candidate.interval,
        candidate.signalName, candidate.signalReason, candidate.quantityMode,
        candidate.riskStatus, candidate.createdBy].any fun text => !nonBlank text)
      .missingRequiredFields ++
    (match candidate.entryReferencePrice with
    | .finite price =>
        reasonIf (price ≤ 0 || candidate.confidence < 0 || 1 < candidate.confidence)
          .invalidData
    | .notFinite => [.invalidData])

def quantityReasons : List RejectReason :=
  if candidate.quantity ≤ 0 then [.invalidData]
  else reasonIf (policy.maxQuantity < candidate.quantity) .quantityOverLimit

def spreadReasons : List RejectReason :=
  match candidate.spreadPips with
  | .finite pips =>
      if pips < 0 then [.invalidData]
      else reasonIf (policy.maxSpreadPips < pips) .spreadTooWide
  | .notFinite => [.invalidData]

def provenanceReasons : List RejectReason :=
  let provenances := [candidate.spreadProvenance, context.spreadProvenance]
  if .syntheticZero ∈ provenances ∨ .candleDerived ∈ provenances then
    [.syntheticSpreadNotAllowed]
  else reasonIf (.unknown ∈ provenances) .invalidData

/-- The checks between the readings of the two timestamps. -/
def limitReasons : List RejectReason :=
  reasonIf (candidate.symbol ∉ policy.allowedSymbols) .unsupportedSymbol ++
    reasonIf (candidate.interval ∉ policy.allowedIntervals) .unsupportedInterval ++
    reasonIf (candidate.quantityMode ≠ policy.quantityMode) .quantityModeNotAllowed ++
    reasonIf (candidate.riskStatus ≠ "PENDING" || candidate.blockedReason ≠ [])
      .unknownState ++
    quantityReasons candidate policy ++
    spreadReasons candidate policy ++
    provenanceReasons candidate context ++
    reasonIf context.marketClosed .marketClosed ++
    reasonIf context.killSwitch.active .killSwitchActive ++
    reasonIf (policy.maxCandidatesPerRun ≤ context.candidatesInRun)
      .maxCandidatesPerRunExceeded ++
    reasonIf (policy.maxDailyCandidates ≤ context.candidatesToday)
      .maxDailyCandidatesExceeded ++
    reasonIf (candidate.candidateId ∈ context.existingCandidateIds) .duplicateCandidate

def ageReasons (marketTime : Int) : List RejectReason :=
  let age := context.evaluationTime - marketTime
  if seconds policy.maxDataAgeSeconds < age then [.staleData]
  else reasonIf (age < -seconds policy.maxFutureSkewSeconds) .invalidData

/-- The checks of the time since the last candidate. -/
def cooldownReasons (marketTime lastTime : Int) : List RejectReason :=
  let elapsed := marketTime - lastTime
  if elapsed < 0 then [.invalidData]
  else reasonIf (elapsed < seconds policy.cooldownSeconds) .cooldownActive

/-- The check of the candidate id. -/
def identityReasons : Except PyError (List RejectReason) := do
  let expected ← makeCandidateId sha dt candidate.key
  return reasonIf (candidate.candidateId ≠ expected) .safetyFlagViolation

/-- The reasons of a caught exception, behind those that were there before it. -/
def caught (before : List RejectReason) (rest : Except PyError (List RejectReason)) :
    List RejectReason :=
  match rest with
  | .ok reasons => before ++ reasons
  | .error _ => before ++ [.unknownState]

def timeReasons (marketTime : Int) : List RejectReason :=
  let before := ageReasons context policy marketTime
  match context.lastCandidateTimestamp with
  | none => caught before (identityReasons dt sha candidate)
  | some last =>
      match asUtc dt last with
      | .error _ => before ++ [.unknownState]
      | .ok lastTime =>
          caught (before ++ cooldownReasons policy marketTime lastTime)
            (identityReasons dt sha candidate)

/-- The reasons that `evaluate` collects. -/
def evaluateReasons : List RejectReason :=
  textReasons candidate ++
    match asUtc dt candidate.timestamp with
    | .error _ => [.unknownState]
    | .ok _ =>
        limitReasons candidate context policy ++
          match asUtc dt candidate.marketDataTimestamp with
          | .error _ => [.unknownState]
          | .ok marketTime => timeReasons dt sha candidate context policy marketTime

/-- Source `_decision`. -/
def decisionOf (reasons : List RejectReason) : RiskDecision where
  decisionId := makeDecisionId sha candidate.candidateId shadowPolicyId
  candidateId := candidate.candidateId
  runId := candidate.runId
  stepIndex := candidate.stepIndex
  timestamp := isoText dt context.evaluationTime
  status := if reasons.eraseDups ≠ [] then .rejectShadow else .allowShadow
  reasons := reasons.eraseDups
  checkedPolicyId := shadowPolicyId

def evaluate : RiskDecision :=
  decisionOf dt sha candidate context (evaluateReasons dt sha candidate context policy)

end Evaluation

section Allowed

variable {dt : Datetime} {sha : Sha256} {candidate : OrderCandidate} {context : RiskContext}
  {policy : RiskPolicy}

/-- The time since the last candidate is long enough. -/
def CooldownPassed (dt : Datetime) (policy : RiskPolicy) (candidate : OrderCandidate)
    (last : Option String) : Prop :=
  ∀ text ∈ last, ∃ marketTime lastTime,
    asUtc dt candidate.marketDataTimestamp = .ok marketTime ∧ asUtc dt text = .ok lastTime ∧
      lastTime + seconds policy.cooldownSeconds ≤ marketTime

/-- The candidate passes every check but the one against the last candidate. -/
def PassesOtherChecks (dt : Datetime) (sha : Sha256) (candidate : OrderCandidate)
    (context : RiskContext) (policy : RiskPolicy) : Prop :=
  evaluateReasons dt sha candidate { context with lastCandidateTimestamp := none } policy = []
deriving Decidable

theorem reasonIf_eq_nil {failed : Bool} {reason : RejectReason} :
    reasonIf failed reason = [] ↔ failed = false := by
  cases failed <;> simp [reasonIf]

theorem evaluate_allows : (evaluate dt sha candidate context policy).status = .allowShadow ↔
    evaluateReasons dt sha candidate context policy = [] := by
  unfold evaluate decisionOf
  cases evaluateReasons dt sha candidate context policy with
  | nil => simp
  | cons reason rest => simp [List.eraseDups_cons]

theorem cooldownReasons_eq_nil {marketTime lastTime : Int} :
    cooldownReasons policy marketTime lastTime = [] ↔
      lastTime + seconds policy.cooldownSeconds ≤ marketTime := by
  have hnonneg : 0 ≤ seconds policy.cooldownSeconds := by
    unfold seconds
    omega
  unfold cooldownReasons
  by_cases hpast : marketTime - lastTime < 0
  · simp only [if_pos hpast, reduceCtorEq, false_iff]
    omega
  · simp only [if_neg hpast, reasonIf_eq_nil, decide_eq_false_iff_not]
    omega

theorem caught_eq_nil {before : List RejectReason} {rest : Except PyError (List RejectReason)} :
    caught before rest = [] ↔ before = [] ∧ rest = .ok [] := by
  cases rest with
  | ok reasons => simp [caught]
  | error e => simp [caught]

/-- The checks behind the reading of the market time find nothing exactly when they find
nothing without a last candidate, and its time is long enough ago. -/
theorem timeReasons_eq_nil {marketTime : Int} {last : String}
    (hlast : context.lastCandidateTimestamp = some last) :
    timeReasons dt sha candidate context policy marketTime = [] ↔
      timeReasons dt sha candidate { context with lastCandidateTimestamp := none } policy
          marketTime = [] ∧
        ∃ lastTime, asUtc dt last = .ok lastTime ∧
          lastTime + seconds policy.cooldownSeconds ≤ marketTime := by
  have hage : ageReasons { context with lastCandidateTimestamp := none } policy marketTime =
      ageReasons context policy marketTime := rfl
  unfold timeReasons
  rw [hlast]
  dsimp only
  rw [caught_eq_nil, hage]
  cases hread : asUtc dt last with
  | error e => simp
  | ok lastTime =>
      dsimp only
      rw [caught_eq_nil, List.append_eq_nil_iff, cooldownReasons_eq_nil]
      constructor
      · rintro ⟨⟨hage, hcooldown⟩, hidentity⟩
        exact ⟨⟨hage, hidentity⟩, lastTime, rfl, hcooldown⟩
      · rintro ⟨⟨hage, hidentity⟩, time, htime, hcooldown⟩
        cases htime
        exact ⟨⟨hage, hcooldown⟩, hidentity⟩

/-- **An allowed candidate has passed the check against the last candidate and all others,
and only such a candidate is allowed.** -/
theorem evaluate_allows_iff :
    (evaluate dt sha candidate context policy).status = .allowShadow ↔
      PassesOtherChecks dt sha candidate context policy ∧
        CooldownPassed dt policy candidate context.lastCandidateTimestamp := by
  rw [evaluate_allows]
  unfold PassesOtherChecks evaluateReasons CooldownPassed
  cases htext : asUtc dt candidate.timestamp with
  | error e => simp
  | ok stamp =>
      cases hmarket : asUtc dt candidate.marketDataTimestamp with
      | error e => simp
      | ok marketTime =>
          cases hlast : context.lastCandidateTimestamp with
          | none =>
              have hcontext : { context with lastCandidateTimestamp := none } = context := by
                rw [← hlast]
              simp [hcontext]
          | some last =>
              have hlimit : limitReasons candidate
                  { context with lastCandidateTimestamp := none } policy =
                  limitReasons candidate context policy := rfl
              simp only [List.append_eq_nil_iff, hlimit, timeReasons_eq_nil hlast,
                Option.mem_some_iff, forall_eq', Except.ok.injEq, exists_and_left,
                exists_eq_left', and_assoc]

theorem PassesOtherChecks.counted (h : PassesOtherChecks dt sha candidate context policy) :
    context.candidatesInRun < policy.maxCandidatesPerRun := by
  unfold PassesOtherChecks evaluateReasons at h
  cases htext : asUtc dt candidate.timestamp with
  | error e => simp [htext] at h
  | ok stamp =>
      simp only [htext, limitReasons, List.append_eq_nil_iff, reasonIf_eq_nil,
        decide_eq_false_iff_not, not_le] at h
      exact h.2.1.1.1.2

theorem createOrderCandidate_reads {request : CandidateRequest} {killSwitch : KillSwitchState}
    (h : createOrderCandidate dt sha request killSwitch = .ok (some candidate)) :
    ∃ t, asUtc dt candidate.marketDataTimestamp = .ok t := by
  unfold createOrderCandidate at h
  split at h
  · cases h
  · simp only [bind, Except.bind, pure, Except.pure] at h
    split at h
    · cases h
    split at h
    · cases h
    split at h
    · cases h
    · rename_i marketDataTimestamp hmarket
      split at h
      · cases h
      · cases h
        obtain ⟨t, -, rfl⟩ := map_eq_ok hmarket
        exact ⟨t, asUtc_isoText t⟩

end Allowed

end FxStrategyLab.Session
