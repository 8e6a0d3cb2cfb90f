import FxStrategyLab.Digests
import FxStrategyLab.Library.Process

/-!
# Contracts of the E1 shadow engine

This file embeds `contracts.py` of the E1 shadow package: the frozen policy,
market frames, decisions, virtual positions, intents, the single-use token and
the injected faults.  A contract that its constructor checks is a structure
with the check as a field, so that an invalid value cannot be built.

A canonical timestamp is a UTC text with microseconds; it stands here by the
number of microseconds since the epoch.  Decimals stand by their exact value.
-/

namespace FxStrategyLab.E1

/-- The exception classes of the package. -/
inductive E1ExceptionClass
  | engine
  | simulatedCrash
  | persistence
  | contract
deriving DecidableEq

/-- An exception: its class and its fixed message. -/
structure E1Error where
  exceptionClass : E1ExceptionClass
  message : String
deriving DecidableEq

/-- Source `E1EngineError`. -/
def engineError (message : String) : E1Error :=
  { exceptionClass := .engine, message }

/-- Source `E1ContractError`. -/
def contractError (message : String) : E1Error :=
  { exceptionClass := .contract, message }

abbrev Timestamp := Int

def seconds (n : Int) : Int := 1000000 * n

def utcDate (t : Timestamp) : Int := t / 86400000000

/-- The ISO week of a timestamp, in weeks since the Monday before the epoch.  Two
timestamps have one ISO year and week exactly when this number is the same. -/
def isoWeek (t : Timestamp) : Int := (utcDate t + 3) / 7

abbrev HexDigest := { d : Digest // IsHex64 d }

variable (sha : Sha256)

def hashPayload (payload : CanonicalText) : HexDigest :=
  ⟨sha.hexdigest payload, sha.hexdigest_hex payload⟩

abbrev LocalId := List Char

/-- Source `make_local_id`: the prefix and the first 24 characters of the digest. -/
def makeLocalId (idPrefix : String) (payload : CanonicalText) : LocalId :=
  idPrefix.toList ++ ':' :: (hashPayload sha payload).val.take 24

def isLabelChar (c : Char) : Bool :=
  c.isAlphanum || c == '_' || c == '.' || c == ':' || c == '-'

/-- Source `_SAFE_LABEL.fullmatch`. -/
def safeLabel (value : List Char) : Bool :=
  match value with
  | [] => false
  | c :: rest => c.isAlphanum && rest.all isLabelChar && decide (rest.length ≤ 255)

/-- Source `_SAFE_ID.fullmatch`. -/
def safeId (value : List Char) : Bool :=
  safeLabel value && decide (value.length ≤ 128)

/-- A text that a constructor has checked with `_safe_id`. -/
abbrev SafeText := { s : String // safeId s.toList = true }

inductive HypothesisLabel
  | buyCandidate
  | sellCandidate
  | holdCandidate
  | noAction
deriving DecidableEq

def HypothesisLabel.value : HypothesisLabel → String
  | buyCandidate => "HYPOTHESIS_BUY_CANDIDATE"
  | sellCandidate => "HYPOTHESIS_SELL_CANDIDATE"
  | holdCandidate => "HYPOTHESIS_HOLD_CANDIDATE"
  | noAction => "HYPOTHESIS_NO_ACTION"

inductive EngineLabel
  | entryBuyCandidate
  | entrySellCandidate
  | exitCandidate
  | settlementCandidate
  | noAction
deriving DecidableEq

def EngineLabel.value : EngineLabel → String
  | entryBuyCandidate => "ENGINE_ENTRY_BUY_CANDIDATE"
  | entrySellCandidate => "ENGINE_ENTRY_SELL_CANDIDATE"
  | exitCandidate => "ENGINE_EXIT_CANDIDATE"
  | settlementCandidate => "ENGINE_SETTLEMENT_CANDIDATE"
  | noAction => "ENGINE_NO_ACTION"

inductive PositionSide
  | long
  | short
deriving DecidableEq

def PositionSide.value : PositionSide → String
  | long => "LONG"
  | short => "SHORT"

inductive GateAction
  | virtualEntry
  | virtualSettlement
deriving DecidableEq

def GateAction.value : GateAction → String
  | virtualEntry => "VIRTUAL_ENTRY"
  | virtualSettlement => "VIRTUAL_POSITION_SPECIFIC_SETTLEMENT"

inductive EnginePhase
  | bootReconcileRequired
  | restartAckRequired
  | readyFlat
  | positionOpen
  | reconcileRequired
  | halted
deriving DecidableEq

inductive ExecutionOutcome
  | accepted
  | rejected
  | timeout
  | unknown
  | networkError
  | partialFill
deriving DecidableEq

def ExecutionOutcome.value : ExecutionOutcome → String
  | accepted => "VIRTUAL_ACCEPTED"
  | rejected => "VIRTUAL_REJECTED"
  | timeout => "VIRTUAL_TIMEOUT_UNKNOWN"
  | unknown => "VIRTUAL_RESULT_UNKNOWN"
  | networkError => "VIRTUAL_NETWORK_ERROR_UNKNOWN"
  | partialFill => "VIRTUAL_PARTIAL_FILL_UNEXPECTED"

inductive FaultKind
  | none
  | rejected
  | timeout
  | unknownResult
  | networkError
  | crashMidVirtualExecution
  | partialFill
  | restartReconcile
deriving DecidableEq

def FaultKind.value : FaultKind → String
  | none => "NONE"
  | rejected => "REJECTED"
  | timeout => "TIMEOUT"
  | unknownResult => "UNKNOWN_RESULT"
  | networkError => "NETWORK_ERROR"
  | crashMidVirtualExecution => "CRASH_MID_VIRTUAL_EXECUTION"
  | partialFill => "PARTIAL_FILL"
  | restartReconcile => "RESTART_RECONCILE"

inductive PnlCategory
  | notApplicable
  | win
  | loss
  | breakeven
deriving DecidableEq

def PnlCategory.value : PnlCategory → String
  | notApplicable => "NOT_APPLICABLE"
  | win => "VIRTUAL_WIN"
  | loss => "VIRTUAL_LOSS"
  | breakeven => "VIRTUAL_BREAKEVEN"

inductive KillReason
  | manual
  | deadmanHeartbeatExpired
  | reconcileMismatch
  | safetyViolation
  | configHashMismatch
  | persistenceFailure
  | executionRejected
  | executionUncertain

def KillReason.value : KillReason → String
  | manual => "MANUAL_KILL"
  | deadmanHeartbeatExpired => "DEADMAN_HEARTBEAT_EXPIRED"
  | reconcileMismatch => "RECONCILE_MISMATCH"
  | safetyViolation => "SAFETY_VIOLATION"
  | configHashMismatch => "CONFIG_HASH_MISMATCH"
  | persistenceFailure => "PERSISTENCE_FAILURE"
  | executionRejected => "EXECUTION_REJECTED"
  | executionUncertain => "EXECUTION_UNCERTAIN"

inductive ReconcileStatus
  | initialFlatConfirmed
  | matchedStableState
  | recoveredNoEffect
  | recoveredPlannedEffect
  | mismatchHalted
deriving DecidableEq

def ReconcileStatus.value : ReconcileStatus → String
  | initialFlatConfirmed => "INITIAL_FLAT_CONFIRMED"
  | matchedStableState => "MATCHED_STABLE_STATE"
  | recoveredNoEffect => "RECOVERED_NO_EFFECT"
  | recoveredPlannedEffect => "RECOVERED_PLANNED_EFFECT"
  | mismatchHalted => "MISMATCH_HALTED"

/-- Source `FrozenHypothesisSpec`, behind its frozen track. -/
structure FrozenHypothesisSpec where
  hypothesisId : SafeText
  version : SafeText
  ruleDigest : HexDigest

structure FrozenHypothesisRegistry where
  specs : List FrozenHypothesisSpec
  unique : (specs.map fun spec => (spec.hypothesisId, spec.version)).Nodup

namespace FrozenHypothesisRegistry

/-- Source `registry_hash`. -/
def canonicalText (registry : FrozenHypothesisRegistry) : CanonicalText :=
  registry.specs.flatMap fun spec =>
    [("hypothesis_id", .text spec.hypothesisId.val),
      ("rule_digest", .digest spec.ruleDigest.val), ("version", .text spec.version.val)]

def contains (registry : FrozenHypothesisRegistry) (hypothesisId version : SafeText) : Bool :=
  registry.specs.any fun spec =>
    decide (spec.hypothesisId = hypothesisId ∧ spec.version = version)

end FrozenHypothesisRegistry

def usdJpy : String := "USD_JPY"

/-- Source `E1Policy`, up to the fields its constructor freezes. -/
structure E1Policy where
  hypothesisRegistry : FrozenHypothesisRegistry
  fixedVirtualUnits : Nat := 1
  maxEntriesPerDay : Nat := 10
  maxVirtualLossPerTrade : ℚ := 2
  maxDailyVirtualLoss : ℚ := 5
  maxWeeklyVirtualLoss : ℚ := 20
  maxConsecutiveLosses : Nat := 5
  maxSpreadPips : ℚ := 1 / 2
  maxDataAgeSeconds : Nat := 30
  cooldownSeconds : Nat := 60
  tokenTtlSeconds : Nat := 5
  heartbeatTimeoutSeconds : Nat := 10800
  positive : 0 < fixedVirtualUnits ∧ 0 < maxEntriesPerDay ∧ 0 < maxConsecutiveLosses ∧
    0 < tokenTtlSeconds ∧ 0 < heartbeatTimeoutSeconds
  nonNegative : 0 ≤ maxVirtualLossPerTrade ∧ 0 ≤ maxDailyVirtualLoss ∧
    0 ≤ maxWeeklyVirtualLoss ∧ 0 ≤ maxSpreadPips

/-- Source `config_hash`; the frozen fields are part of the contract version. -/
def E1Policy.configHash (policy : E1Policy) : HexDigest :=
  hashPayload sha
    ([("cooldown_seconds", .integer policy.cooldownSeconds),
      ("engine_contract_version", .text "e1-shadow-engine-contract-v1"),
      ("fixed_virtual_units", .integer policy.fixedVirtualUnits),
      ("heartbeat_timeout_seconds", .integer policy.heartbeatTimeoutSeconds),
      ("max_consecutive_losses", .integer policy.maxConsecutiveLosses),
      ("max_daily_virtual_loss", .decimal policy.maxDailyVirtualLoss),
      ("max_data_age_seconds", .integer policy.maxDataAgeSeconds),
      ("max_entries_per_day", .integer policy.maxEntriesPerDay),
      ("max_spread_pips", .decimal policy.maxSpreadPips),
      ("max_virtual_loss_per_trade", .decimal policy.maxVirtualLossPerTrade),
      ("max_weekly_virtual_loss", .decimal policy.maxWeeklyVirtualLoss),
      ("token_ttl_seconds", .integer policy.tokenTtlSeconds)] ++
      policy.hypothesisRegistry.canonicalText)

/-- What an engine is built for: its run and its policy. -/
structure E1Setup where
  runId : String
  policy : E1Policy

theorem E1Setup.units_pos (setup : E1Setup) : 0 < setup.policy.fixedVirtualUnits :=
  setup.policy.positive.1

structure MarketFrame where
  evaluationTime : Timestamp
  marketDataTime : Timestamp
  bid : ℚ
  ask : ℚ
  marketOpen : Bool := true
  eventClear : Bool := true
  tradingWindowOpen : Bool := true
  feedConsistent : Bool := true
  prices : 0 < bid ∧ bid ≤ ask

namespace MarketFrame

def spreadPips (market : MarketFrame) : ℚ := (market.ask - market.bid) / (1 / 100)

/-- Source `age_seconds`, in microseconds. -/
def age (market : MarketFrame) : Int := market.evaluationTime - market.marketDataTime

end MarketFrame

/-- Source `EngineDecision`.  Its constructor admits a hypothesis decision with the
engine label that belongs to its hypothesis label, and a settlement decision with a
position and no hypothesis. -/
inductive EngineDecision
  | hypothesis (hypothesisLabel : HypothesisLabel) (hypothesisId hypothesisVersion : SafeText)
      (configHash : HexDigest) (reasonCode : SafeText)
  | settlement (exitCandidate : Bool) (positionRef : LocalId) (configHash : HexDigest)
      (reasonCode : SafeText)

namespace EngineDecision

def engineLabel : EngineDecision → EngineLabel
  | hypothesis .buyCandidate _ _ _ _ => .entryBuyCandidate
  | hypothesis .sellCandidate _ _ _ _ => .entrySellCandidate
  | hypothesis .holdCandidate _ _ _ _ => .noAction
  | hypothesis .noAction _ _ _ _ => .noAction
  | settlement true _ _ _ => .exitCandidate
  | settlement false _ _ _ => .settlementCandidate

def configHash : EngineDecision → HexDigest
  | hypothesis _ _ _ h _ => h
  | settlement _ _ h _ => h

def reasonCode : EngineDecision → SafeText
  | hypothesis _ _ _ _ reason => reason
  | settlement _ _ _ reason => reason

def registered (registry : FrozenHypothesisRegistry) : EngineDecision → Bool
  | hypothesis _ hypothesisId version _ _ => registry.contains hypothesisId version
  | settlement _ _ _ _ => true

def identity? : EngineDecision → Option (HypothesisLabel × SafeText × SafeText)
  | hypothesis label hypothesisId version _ _ => some (label, hypothesisId, version)
  | settlement _ _ _ _ => none

def positionRef? : EngineDecision → Option LocalId
  | hypothesis _ _ _ _ _ => none
  | settlement _ positionRef _ _ => some positionRef

def decisionDigest (sha : Sha256) (decision : EngineDecision) : HexDigest :=
  hashPayload sha
    [("config_hash", .digest decision.configHash.val),
      ("engine_label", .text decision.engineLabel.value),
      ("hypothesis_id", Scalar.ofOption (fun i => .text i.2.1.val) decision.identity?),
      ("hypothesis_label", Scalar.ofOption (fun i => .text i.1.value) decision.identity?),
      ("hypothesis_version", Scalar.ofOption (fun i => .text i.2.2.val) decision.identity?),
      ("position_ref", Scalar.ofOption .digest decision.positionRef?),
      ("reason_code", .text decision.reasonCode.val)]

end EngineDecision

def stopOnLosingSide (side : PositionSide) (entryPrice protectiveStopPrice : ℚ) : Prop :=
  match side with
  | .long => protectiveStopPrice < entryPrice
  | .short => entryPrice < protectiveStopPrice

instance (side : PositionSide) (entryPrice protectiveStopPrice : ℚ) :
    Decidable (stopOnLosingSide side entryPrice protectiveStopPrice) := by
  unfold stopOnLosingSide
  cases side <;> infer_instance

structure VirtualPosition where
  positionRef : LocalId
  side : PositionSide
  units : Nat
  entryPrice : ℚ
  protectiveStopPrice : ℚ
  sound : 0 < units ∧ 0 < entryPrice ∧ 0 < protectiveStopPrice ∧
    stopOnLosingSide side entryPrice protectiveStopPrice
deriving DecidableEq

/-- Source `VirtualPosition.__post_init__`, for positive units and a positive entry. -/
def buildVirtualPosition (positionRef : LocalId) (side : PositionSide)
    (units : { n : Nat // 0 < n }) (entryPrice : { q : ℚ // 0 < q })
    (protectiveStopPrice : ℚ) : Except E1Error VirtualPosition :=
  if hstop : 0 < protectiveStopPrice then
    if hside : stopOnLosingSide side entryPrice.val protectiveStopPrice then
      .ok { positionRef, side, units := units.val, entryPrice := entryPrice.val,
            protectiveStopPrice, sound := ⟨units.2, entryPrice.2, hstop, hside⟩ }
    else
      .error (contractError
        (match side with
          | .long => "long virtual protective stop must be below entry"
          | .short => "short virtual protective stop must be above entry"))
  else .error (contractError "virtual position prices must be positive")

def VirtualPosition.halved (position : VirtualPosition) : VirtualPosition :=
  { position with
    units := max 1 (position.units / 2)
    sound := ⟨by omega, position.sound.2⟩ }

def positionText : Option VirtualPosition → CanonicalText
  | none => [("position", .text "FLAT"), ("schema_version", .text "e1-shadow-v1")]
  | some position =>
      [("entry_price", .decimal position.entryPrice),
        ("position_ref", .digest position.positionRef),
        ("protective_stop_price", .decimal position.protectiveStopPrice),
        ("schema_version", .text "e1-shadow-v1"),
        ("side", .text position.side.value),
        ("symbol", .text usdJpy),
        ("units", .integer position.units)]

def positionDigest (position : Option VirtualPosition) : HexDigest :=
  hashPayload sha (positionText position)

structure EntryIntent where
  intentId : LocalId
  runId : String
  configHash : HexDigest
  createdAt : Timestamp
  position : VirtualPosition

def EntryIntent.intentDigest (intent : EntryIntent) : HexDigest :=
  hashPayload sha
    [("config_hash", .digest intent.configHash.val),
      ("created_at", .integer intent.createdAt),
      ("intent_id", .digest intent.intentId),
      ("position_digest", .digest (positionDigest sha (some intent.position)).val),
      ("run_id", .text intent.runId)]

structure SettlementIntent where
  intentId : LocalId
  runId : String
  configHash : HexDigest
  createdAt : Timestamp
  positionRef : LocalId
  exitPrice : ℚ
  pnlCategory : PnlCategory
  virtualLoss : ℚ

def SettlementIntent.intentDigest (intent : SettlementIntent) : HexDigest :=
  hashPayload sha
    [("config_hash", .digest intent.configHash.val),
      ("created_at", .integer intent.createdAt),
      ("exit_price", .decimal intent.exitPrice),
      ("intent_id", .digest intent.intentId),
      ("pnl_category", .text intent.pnlCategory.value),
      ("position_ref", .digest intent.positionRef),
      ("run_id", .text intent.runId),
      ("virtual_loss", .decimal intent.virtualLoss)]

/-- The profit and loss at an exit price. -/
def VirtualPosition.pnl (position : VirtualPosition) (exitPrice : ℚ) : ℚ :=
  match position.side with
  | .long => (exitPrice - position.entryPrice) * position.units
  | .short => (position.entryPrice - exitPrice) * position.units

def floatFinite (q : ℚ) : Bool :=
  decide (|q| < 2 ^ 1024 - 2 ^ 970)

def classifyPnl (position : VirtualPosition) (exitPrice : ℚ) :
    Except E1Error (PnlCategory × ℚ) :=
  let pnl := position.pnl exitPrice
  if floatFinite pnl = false then .error (contractError "virtual PnL must be finite")
  else if 0 < pnl then .ok (.win, 0)
  else if pnl < 0 then .ok (.loss, -pnl)
  else .ok (.breakeven, 0)

structure ShadowGateToken where
  tokenId : LocalId
  runId : String
  intentId : LocalId
  intentDigest : HexDigest
  action : GateAction
  configHash : HexDigest
  issuedAt : Timestamp
  expiresAt : Timestamp
deriving DecidableEq

def ShadowGateToken.isExpired (token : ShadowGateToken) (now : Timestamp) : Bool :=
  decide (token.expiresAt ≤ now)

def buildTokenExpiry (now : Timestamp) (ttlSeconds : Nat) : Timestamp :=
  now + seconds ttlSeconds

def FaultKind.supportsEffect : FaultKind → Bool
  | timeout | unknownResult | networkError | crashMidVirtualExecution => true
  | none | rejected | partialFill | restartReconcile => false

theorem FaultKind.supported_without_effect (kind : FaultKind) (h : false = true) :
    kind.supportsEffect = true :=
  absurd h Bool.false_ne_true

structure FaultInjection where
  kind : FaultKind := .none
  applyEffectBeforeFault : Bool := false
  supported : applyEffectBeforeFault = true → kind.supportsEffect = true := by
    first
    | exact FaultKind.supported_without_effect _
    | decide

structure VirtualExecutionResult where
  outcome : ExecutionOutcome
  observedStateDigest : HexDigest
  positionCount : Nat

/-- Source `E1CycleResult`, behind its frozen fields. -/
structure E1CycleResult where
  status : String
  phase : EnginePhase
  reasonCodes : List String
  virtualExecutionAttempted : Bool
  tokenIssued : Bool
deriving DecidableEq

end FxStrategyLab.E1
