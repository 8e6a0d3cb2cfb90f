import FxStrategyLab.Digests
import FxStrategyLab.Library.Process

/-!
# Frozen contracts of the relaxed GMO profile

This file embeds the value types of `v4_gmo_contracts.py` and `contracts.py`:
the actions and statuses, the formal signal, the execution policy, the frozen
generation, the sanitized broker snapshot and the action plan, with the checks
their constructors make.

Instants are microseconds since the epoch in UTC, which is the resolution of
the source's `datetime`; a value without time zone cannot be written down.
Monotonic readings are nanoseconds.  Decimals stand by their exact value.
-/

namespace FxStrategyLab

/-- The exception classes that the source tells apart. -/
inductive ExceptionClass
  | coordinator
  | coordinatedPath
  | persistedAuthorization
  | protection
  | contract
  | runtimeSafety
  | activationPreparation
  | canaryActivation
  | adapter
  | transport
  | publicMarketStatus
  | exitDispatcher
  | runtimeDriver
  | runtimeBinding
  | canary
  | persistence
  | other
deriving DecidableEq

/-- An exception: its class and its fixed message.  `late` marks the refusals
that nothing but a clock reading decided; the program never reads it. -/
structure V4Error where
  exceptionClass : ExceptionClass
  message : String
  late : Bool := false
deriving DecidableEq

def V4Error.lateIf (e : V4Error) (restInOrder : Bool) : V4Error :=
  { e with late := restInOrder }

def ofExcept {σ α : Type} : Except V4Error α → Library.Process σ V4Error α
  | .ok a => pure a
  | .error e => Library.Process.raise e

abbrev Instant := Int

abbrev Monotonic := Nat

abbrev TradingDay := Int

def wallSeconds (n : Int) : Int :=
  n * 1000000

def monotonicMilliseconds (n : Nat) : Nat :=
  n * 1000000

def monotonicSeconds (n : Nat) : Nat :=
  n * 1000000000

def dayLength : Int :=
  wallSeconds 86400

def jstClock (t : Instant) : Int :=
  t + wallSeconds 32400

def v4GmoTradingDayJst (nowUtc : Instant) : TradingDay :=
  jstClock nowUtc / dayLength

def weekday (day : TradingDay) : Int :=
  (day + 3) % 7

def jstHour (t : Instant) : Int :=
  (jstClock t % dayLength) / wallSeconds 3600

def jstInstant (day : TradingDay) (hour minute : Int) : Instant :=
  day * dayLength + wallSeconds (hour * 3600 + minute * 60) - wallSeconds 32400

def v4GmoMaximumHoldSeconds : Int := 1800

def v4GmoFridayWeekday : Int := 4

def v4GmoWeekendFlatWeekdayJst : Int := 5

/-- Source `v4_gmo_scheduled_time_exit_at`: half an hour after the entry, and
for a Friday entry not later than Saturday 03:45 JST. -/
def v4GmoScheduledTimeExitAt (entryTimeUtc : Instant) : Option Instant :=
  let normalDeadline := entryTimeUtc + wallSeconds v4GmoMaximumHoldSeconds
  let entryDay := v4GmoTradingDayJst entryTimeUtc
  if weekday entryDay ≠ v4GmoFridayWeekday then
    some normalDeadline
  else if weekday (entryDay + 1) ≠ v4GmoWeekendFlatWeekdayJst then
    none
  else
    some (min normalDeadline (jstInstant (entryDay + 1) 3 45))

inductive SignalDecision
  | buy
  | sell
  | stay
deriving DecidableEq

inductive FormalHorizon
  | minutes10
  | minutes30
deriving DecidableEq

inductive V4GmoAction
  | marketEntry
  | cancelEntryRemainder
  | exactSizeOcoProtection
  | cancelMismatchedProtection
  | cancelExactProtectionForTimeExit
  | positionSpecificEmergencyExit
  | positionSpecificTimeExit
deriving DecidableEq

inductive V4GmoEntryStatus
  | none
  | pending
  | partially
  | filled
  | rejected
  | unknown
deriving DecidableEq

inductive V4GmoProtectionStatus
  | none
  | exactMatch
  | undersized
  | oversized
  | unknown
deriving DecidableEq

namespace SignalDecision

def value : SignalDecision → String
  | buy => "BUY"
  | sell => "SELL"
  | stay => "STAY"

def Directional (d : SignalDecision) : Prop :=
  d = buy ∨ d = sell
deriving Decidable

theorem buy_directional : Directional buy :=
  Or.inl rfl

theorem directional_of_not_not (d : SignalDecision) (h : ¬¬d.Directional) : d.Directional :=
  not_not.mp h

def settlementSide : SignalDecision → SignalDecision
  | buy => sell
  | _ => buy

end SignalDecision

namespace FormalHorizon

def value : FormalHorizon → String
  | minutes10 => "10m"
  | minutes30 => "30m"

end FormalHorizon

namespace V4GmoAction

def value : V4GmoAction → String
  | marketEntry => "MARKET_ENTRY"
  | cancelEntryRemainder => "CANCEL_ENTRY_REMAINDER"
  | exactSizeOcoProtection => "EXACT_SIZE_OCO_PROTECTION"
  | cancelMismatchedProtection => "CANCEL_MISMATCHED_PROTECTION"
  | cancelExactProtectionForTimeExit => "CANCEL_EXACT_PROTECTION_FOR_TIME_EXIT"
  | positionSpecificEmergencyExit => "POSITION_SPECIFIC_EMERGENCY_EXIT"
  | positionSpecificTimeExit => "POSITION_SPECIFIC_TIME_EXIT"

def riskReducing : List V4GmoAction :=
  [cancelEntryRemainder, cancelMismatchedProtection,
    cancelExactProtectionForTimeExit, positionSpecificEmergencyExit,
    positionSpecificTimeExit]

def timeExit : List V4GmoAction :=
  [cancelExactProtectionForTimeExit, positionSpecificTimeExit]

def positionClose : List V4GmoAction :=
  [positionSpecificEmergencyExit, positionSpecificTimeExit]

end V4GmoAction

namespace V4GmoEntryStatus

def value : V4GmoEntryStatus → String
  | none => "NONE"
  | pending => "PENDING"
  | partially => "PARTIAL"
  | filled => "FILLED"
  | rejected => "REJECTED"
  | unknown => "UNKNOWN"

end V4GmoEntryStatus

namespace V4GmoProtectionStatus

def value : V4GmoProtectionStatus → String
  | none => "NONE"
  | exactMatch => "EXACT_MATCH"
  | undersized => "UNDERSIZED"
  | oversized => "OVERSIZED"
  | unknown => "UNKNOWN"

end V4GmoProtectionStatus

/-- Source `FormalSignal`: one finalized directional estimate. -/
structure FormalSignal where
  strategyVersion : String
  signalConfigHash : String
  horizon : FormalHorizon
  observedAtUtc : Instant
  validUntilUtc : Instant
  decision : SignalDecision
  probabilityUp : ℚ
  validity_after : observedAtUtc < validUntilUtc
  probability_bounds : 0 ≤ probabilityUp ∧ probabilityUp ≤ 1
deriving DecidableEq

def FormalSignal.fingerprint (sha : Sha256) (signal : FormalSignal) : Digest :=
  sha.hexdigest
    [("decision", .text signal.decision.value),
      ("horizon", .text signal.horizon.value),
      ("observed_at_utc", .integer signal.observedAtUtc),
      ("probability_up", .decimal signal.probabilityUp),
      ("signal_config_hash", .text signal.signalConfigHash),
      ("strategy_version", .text signal.strategyVersion),
      ("valid_until_utc", .integer signal.validUntilUtc)]

def h11V4GmoProtectionContractHash : String :=
  "sha256:2b2a5d8669737177050260e46904723d69bd956b9893447efdcced2e6aae1518"

def maximumEntriesPerDayCeiling : Nat := 30

/-- Source `V4GmoExecutionPolicy`, up to the fields its constructor freezes. -/
structure V4GmoExecutionPolicy where
  strategyVersion : String
  signalConfigHash : String
  selectedHorizon : FormalHorizon
  brokerCapabilityEvidenceHash : String
  maxEntriesPerDay : Nat
  entries_bounds :
    1 ≤ maxEntriesPerDay ∧ maxEntriesPerDay ≤ maximumEntriesPerDayCeiling

namespace V4GmoExecutionPolicy

def requestedSize (_ : V4GmoExecutionPolicy) : Nat := 1000

def maxLossPerTradeYen (_ : V4GmoExecutionPolicy) : Int := 5000

def blockedHoursJst : List Int := [5, 6, 7, 8]

def fridayEntryStartHourJst : Int := 9

def fridayEntryCutoffHourJst : Int := 21

def weekendDaysJst : List Int := [5, 6]

/-- Source `config_hash`; the frozen fields are part of the profile version. -/
def configHash (sha : Sha256) (policy : V4GmoExecutionPolicy) : Digest :=
  sha.prefixed
    [("broker_capability_evidence_hash", .text policy.brokerCapabilityEvidenceHash),
      ("max_entries_per_day", .integer policy.maxEntriesPerDay),
      ("profile_version",
        .text "H11_V4_GMO_MARKET_THEN_EXACT_OCO_FRIDAY_LIMITED_NO_POST_V2"),
      ("protection_contract_hash", .text h11V4GmoProtectionContractHash),
      ("selected_horizon", .text policy.selectedHorizon.value),
      ("signal_config_hash", .text policy.signalConfigHash),
      ("strategy_version", .text policy.strategyVersion)]

def accepts (policy : V4GmoExecutionPolicy) (signal : FormalSignal) : Bool :=
  decide (signal.strategyVersion = policy.strategyVersion ∧
    signal.signalConfigHash = policy.signalConfigHash ∧
    signal.horizon = policy.selectedHorizon ∧
    signal.decision.Directional)

/-- Source `entry_time_allowed`: no weekend, a shorter Friday, and no entry
in the blocked hours of the other days. -/
def entryTimeAllowed (_ : V4GmoExecutionPolicy) (nowUtc : Instant) : Bool :=
  let day := v4GmoTradingDayJst nowUtc
  if weekday day ∈ weekendDaysJst then
    false
  else if weekday day = v4GmoFridayWeekday then
    decide (fridayEntryStartHourJst ≤ jstHour nowUtc ∧
      jstHour nowUtc < fridayEntryCutoffHourJst)
  else
    decide (jstHour nowUtc ∉ blockedHoursJst)

end V4GmoExecutionPolicy

/-- Source `V4GmoFrozenGeneration`: the fields that the modelled functions read.
The digest of the manifest is taken as given. -/
structure V4GmoFrozenGeneration where
  digest : Digest
  canonicalJson : String
  implementationDigest : Digest
  operatorSelectionDigest : Digest
  policyConfigHash : Digest
  riskPolicyDigest : Digest
  deadManPolicyDigest : Digest
  riskPolicyLabel : String
  deadManPolicyLabel : String
  strategyVersion : String
  signalConfigHash : String
  selectedHorizon : FormalHorizon
  brokerCapabilityEvidenceHash : String
  protectionContractHash : String
  maximumEntriesPerDay : Nat
  adverseSlippageAllowancePips : ℚ
  entryDisabled : Bool
  entries_bounds :
    1 ≤ maximumEntriesPerDay ∧ maximumEntriesPerDay ≤ maximumEntriesPerDayCeiling
  protection_frozen : protectionContractHash = h11V4GmoProtectionContractHash

/-- Source `V4GmoBrokerSnapshot`: a sanitized observation without identifiers. -/
structure V4GmoBrokerSnapshot where
  fresh : Bool
  resultKnown : Bool
  positionCount : Nat
  positionSide : Option SignalDecision
  filledSize : Nat
  pendingEntrySize : Nat
  protectionSize : Nat
  entryStatus : V4GmoEntryStatus
  protectionStatus : V4GmoProtectionStatus
deriving DecidableEq

def V4GmoBrokerSnapshot.unknown : V4GmoBrokerSnapshot where
  fresh := false
  resultKnown := false
  positionCount := 0
  positionSide := none
  filledSize := 0
  pendingEntrySize := 0
  protectionSize := 0
  entryStatus := .unknown
  protectionStatus := .unknown

/-- Source `V4GmoActionPlan`; the fields carry what its constructor checks. -/
structure V4GmoActionPlan where
  cycleRef : Digest
  action : V4GmoAction
  side : SignalDecision
  requestedSize : Nat
  protectionContractHash : Option String
  routeSafeLabel : String
  cycleRef_hex : IsHex64 cycleRef
  side_directional : side.Directional
  requestedSize_pos : 0 < requestedSize
  protection_only : protectionContractHash.isSome ↔ action = .exactSizeOcoProtection

/-- Source `route_labels`. -/
def V4GmoAction.routeSafeLabel : V4GmoAction → String
  | marketEntry => "GMO_MARKET_ENTRY"
  | cancelEntryRemainder => "GMO_CANCEL_ENTRY_REMAINDER"
  | exactSizeOcoProtection => "GMO_EXACT_SIZE_OCO_PROTECTION"
  | cancelMismatchedProtection => "GMO_CANCEL_MISMATCHED_PROTECTION"
  | cancelExactProtectionForTimeExit => "GMO_CANCEL_PROTECTION_FOR_TIME_EXIT"
  | positionSpecificEmergencyExit => "GMO_POSITION_SPECIFIC_EXIT"
  | positionSpecificTimeExit => "GMO_POSITION_SPECIFIC_TIME_EXIT"

def contractError (message : String) : V4Error :=
  { exceptionClass := .contract, message }

/-- Source `build_v4_action_plan` with the checks of `V4GmoActionPlan`. -/
def buildV4ActionPlan (cycleRef : Digest) (action : V4GmoAction)
    (side : SignalDecision) (requestedSize : Nat)
    (protectionContractHash : String) : Except V4Error V4GmoActionPlan :=
  if hcycle : ¬IsHex64 cycleRef then
    .error (contractError "cycle_ref must be a sanitized SHA-256 value")
  else if hside : ¬side.Directional then
    .error (contractError "v4 action side must be BUY or SELL")
  else if hsize : ¬0 < requestedSize then
    .error (contractError "v4 action size must be positive")
  else if action = .exactSizeOcoProtection ∧ protectionContractHash = "" then
    .error (contractError "protection action requires a frozen contract hash")
  else
    .ok
      { cycleRef
        action
        side
        requestedSize
        protectionContractHash :=
          if action = .exactSizeOcoProtection then some protectionContractHash else none
        routeSafeLabel := action.routeSafeLabel
        cycleRef_hex := not_not.mp hcycle
        side_directional := side.directional_of_not_not hside
        requestedSize_pos := not_not.mp hsize
        protection_only := by
          split <;> simp_all }

theorem buildV4ActionPlan_ok {cycleRef : Digest} {action : V4GmoAction}
    {side : SignalDecision} {requestedSize : Nat} {hash : String} {plan : V4GmoActionPlan}
    (h : buildV4ActionPlan cycleRef action side requestedSize hash = .ok plan) :
    plan.cycleRef = cycleRef ∧ plan.action = action ∧ plan.side = side ∧
      plan.requestedSize = requestedSize ∧
      plan.protectionContractHash =
        (if action = .exactSizeOcoProtection then some hash else none) := by
  unfold buildV4ActionPlan at h
  split at h
  · cases h
  split at h
  · cases h
  split at h
  · cases h
  split at h
  · cases h
  cases h
  exact ⟨rfl, rfl, rfl, rfl, rfl⟩

theorem exists_buildV4ActionPlan {cycleRef : Digest} (action : V4GmoAction)
    {side : SignalDecision} {requestedSize : Nat} (hash : String)
    (hcycle : IsHex64 cycleRef) (hside : side.Directional)
    (hsize : 0 < requestedSize) (hhash : hash ≠ "") :
    ∃ plan, buildV4ActionPlan cycleRef action side requestedSize hash = .ok plan := by
  unfold buildV4ActionPlan
  rw [dif_neg (not_not.mpr hcycle), dif_neg (not_not.mpr hside),
    dif_neg (not_not.mpr hsize), if_neg fun h => hhash h.2]
  exact ⟨_, rfl⟩

def persistedPlanDigest (sha : Sha256) (plan : V4GmoActionPlan) : Digest :=
  sha.prefixed
    [("action", .text plan.action.value),
      ("cycle_ref", .digest plan.cycleRef),
      ("protection_contract_hash", .ofOption .text plan.protectionContractHash),
      ("requested_size", .integer plan.requestedSize),
      ("route_safe_label", .text plan.routeSafeLabel),
      ("side", .text plan.side.value)]

namespace Sample

def monday : Instant :=
  jstInstant 4 10 0

def at_ (seconds : Int) : Instant :=
  monday + wallSeconds seconds

def policy : V4GmoExecutionPolicy where
  strategyVersion := "formal-v1"
  signalConfigHash := "signal-config"
  selectedHorizon := .minutes30
  brokerCapabilityEvidenceHash := "capability"
  maxEntriesPerDay := 3
  entries_bounds := by decide

/-- A signal to buy, observed some seconds into the session and valid for an hour. -/
def signal (seconds : Int) : FormalSignal where
  strategyVersion := "formal-v1"
  signalConfigHash := "signal-config"
  horizon := .minutes30
  observedAtUtc := at_ seconds
  validUntilUtc := at_ seconds + wallSeconds 3600
  decision := .buy
  probabilityUp := 3 / 5
  validity_after := Int.lt_add_of_pos_right _ (by decide)
  probability_bounds := by norm_num

end Sample

end FxStrategyLab
