import FxStrategyLab.Contracts

/-!
# Contracts of the synthetic engine

This file embeds what `v4_gmo_contracts.py` freezes for the engine without
POSTs: the states of a cycle and the transitions between them, the preflight
snapshot, the reference of a cycle and the outcomes of a synthetic action.  The
fixed labels that the engine writes, its event categories and halt reasons, are
enumerations with their texts.
-/

namespace FxStrategyLab

inductive V4GmoCycleState
  | entryIntentPersisted
  | marketEntryAttempted
  | entryReconciling
  | remainderCancelAttempted
  | entryFilledUnprotected
  | protectionIntentPersisted
  | protectionAttempted
  | protectionReconciling
  | positionProtected
  | protectionCancelIntentPersisted
  | protectionCancelAttempted
  | protectionCancelReconciling
  | emergencyExitIntentPersisted
  | emergencyExitAttempted
  | flatReconciled
  | haltedOperatorReviewRequired
  | operatorReloadCleared
deriving DecidableEq

namespace V4GmoCycleState

def value : V4GmoCycleState → String
  | entryIntentPersisted => "ENTRY_INTENT_PERSISTED"
  | marketEntryAttempted => "MARKET_ENTRY_ATTEMPTED"
  | entryReconciling => "ENTRY_RECONCILING"
  | remainderCancelAttempted => "REMAINDER_CANCEL_ATTEMPTED"
  | entryFilledUnprotected => "ENTRY_FILLED_UNPROTECTED"
  | protectionIntentPersisted => "PROTECTION_INTENT_PERSISTED"
  | protectionAttempted => "PROTECTION_ATTEMPTED"
  | protectionReconciling => "PROTECTION_RECONCILING"
  | positionProtected => "POSITION_PROTECTED"
  | protectionCancelIntentPersisted => "PROTECTION_CANCEL_INTENT_PERSISTED"
  | protectionCancelAttempted => "PROTECTION_CANCEL_ATTEMPTED"
  | protectionCancelReconciling => "PROTECTION_CANCEL_RECONCILING"
  | emergencyExitIntentPersisted => "EMERGENCY_EXIT_INTENT_PERSISTED"
  | emergencyExitAttempted => "EMERGENCY_EXIT_ATTEMPTED"
  | flatReconciled => "FLAT_RECONCILED"
  | haltedOperatorReviewRequired => "HALTED_OPERATOR_REVIEW_REQUIRED"
  | operatorReloadCleared => "OPERATOR_RELOAD_CLEARED"

/-- Source `_ACTIVE_STATES`. -/
def active : V4GmoCycleState → Bool
  | flatReconciled | haltedOperatorReviewRequired | operatorReloadCleared => false
  | _ => true

/-- The table of `require_v4_transition`. -/
def allowedTargets : V4GmoCycleState → List V4GmoCycleState
  | entryIntentPersisted => [marketEntryAttempted, haltedOperatorReviewRequired]
  | marketEntryAttempted => [entryReconciling, haltedOperatorReviewRequired]
  | entryReconciling =>
      [remainderCancelAttempted, entryFilledUnprotected, flatReconciled,
        haltedOperatorReviewRequired]
  | remainderCancelAttempted => [entryReconciling, haltedOperatorReviewRequired]
  | entryFilledUnprotected =>
      [protectionIntentPersisted, emergencyExitIntentPersisted,
        haltedOperatorReviewRequired]
  | protectionIntentPersisted => [protectionAttempted, haltedOperatorReviewRequired]
  | protectionAttempted => [protectionReconciling, haltedOperatorReviewRequired]
  | protectionReconciling =>
      [positionProtected, flatReconciled, protectionCancelIntentPersisted,
        emergencyExitIntentPersisted, haltedOperatorReviewRequired]
  | protectionCancelIntentPersisted =>
      [protectionCancelAttempted, haltedOperatorReviewRequired]
  | protectionCancelAttempted =>
      [protectionCancelReconciling, haltedOperatorReviewRequired]
  | protectionCancelReconciling =>
      [emergencyExitIntentPersisted, flatReconciled, haltedOperatorReviewRequired]
  | emergencyExitIntentPersisted =>
      [emergencyExitAttempted, haltedOperatorReviewRequired]
  | emergencyExitAttempted => [flatReconciled, haltedOperatorReviewRequired]
  | positionProtected =>
      [protectionCancelIntentPersisted, emergencyExitIntentPersisted, flatReconciled,
        haltedOperatorReviewRequired]
  | flatReconciled => []
  | haltedOperatorReviewRequired => [operatorReloadCleared]
  | operatorReloadCleared => []

theorem halted_mem_allowedTargets {state : V4GmoCycleState} (h : state.active = true) :
    haltedOperatorReviewRequired ∈ state.allowedTargets := by
  cases state <;> simp_all [active, allowedTargets]

end V4GmoCycleState

def requireV4Transition (current target : V4GmoCycleState) : Except V4Error Unit :=
  if target ∈ current.allowedTargets then .ok ()
  else
    .error (contractError
      ("invalid v4 GMO state transition: " ++ current.value ++ " -> " ++ target.value))

inductive V4GmoSyntheticOutcome
  | accepted
  | rejected
  | unknown
  | timeout
deriving DecidableEq

def V4GmoSyntheticOutcome.value : V4GmoSyntheticOutcome → String
  | accepted => "ACCEPTED"
  | rejected => "REJECTED"
  | unknown => "UNKNOWN"
  | timeout => "TIMEOUT"

/-- The state that an attempt of the action leads to, source `expected_target`; the
two actions of a scheduled exit have none. -/
def V4GmoAction.attemptTarget : V4GmoAction → Option V4GmoCycleState
  | marketEntry => some .marketEntryAttempted
  | cancelEntryRemainder => some .remainderCancelAttempted
  | exactSizeOcoProtection => some .protectionAttempted
  | cancelMismatchedProtection => some .protectionCancelAttempted
  | positionSpecificEmergencyExit => some .emergencyExitAttempted
  | cancelExactProtectionForTimeExit | positionSpecificTimeExit => none

inductive V4GmoEventCategory
  | entryIntentPersisted
  | attemptStarted (action : V4GmoAction)
  | outcomeRecorded (action : V4GmoAction) (outcome : V4GmoSyntheticOutcome)
  | restartEntryReconciling
  | restartCancelReconciling
  | restartProtectionReconciling
  | restartProtectionCancelReconciling
  | protectedPositionFoundFlat
  | restartMismatchedProtectionCancelIntent
  | entryReconciling
  | entryRejectedOrUnfilledFlat
  | entryFilledUnprotected
  | cancelRemainderReconciling
  | protectionIntentPersisted
  | protectionReconciling
  | positionAlreadyFlat
  | orphanProtectionCancelIntentPersisted
  | exactSizeProtectionConfirmed
  | mismatchedProtectionCancelIntentPersisted
  | protectionCancelReconciling
  | protectionCancelFoundFlat
  | restartProtectionMissingExitRequired
  | unprotectedWindowExceeded
  | protectionNotExact
  | mismatchedProtectionRemovedExitRequired
  | emergencyExitFlatConfirmed
  | haltedOperatorReviewRequired
  | operatorReloadClearedNoPost
deriving DecidableEq

def V4GmoEventCategory.value : V4GmoEventCategory → String
  | entryIntentPersisted => "ENTRY_INTENT_PERSISTED"
  | attemptStarted action => action.value ++ "_ATTEMPT_STARTED"
  | outcomeRecorded action outcome => action.value ++ "_" ++ outcome.value
  | restartEntryReconciling => "RESTART_ENTRY_RECONCILING"
  | restartCancelReconciling => "RESTART_CANCEL_RECONCILING"
  | restartProtectionReconciling => "RESTART_PROTECTION_RECONCILING"
  | restartProtectionCancelReconciling => "RESTART_PROTECTION_CANCEL_RECONCILING"
  | protectedPositionFoundFlat => "PROTECTED_POSITION_FOUND_FLAT"
  | restartMismatchedProtectionCancelIntent =>
      "RESTART_MISMATCHED_PROTECTION_CANCEL_INTENT"
  | entryReconciling => "ENTRY_RECONCILING"
  | entryRejectedOrUnfilledFlat => "ENTRY_REJECTED_OR_UNFILLED_FLAT"
  | entryFilledUnprotected => "ENTRY_FILLED_UNPROTECTED"
  | cancelRemainderReconciling => "CANCEL_REMAINDER_RECONCILING"
  | protectionIntentPersisted => "PROTECTION_INTENT_PERSISTED"
  | protectionReconciling => "PROTECTION_RECONCILING"
  | positionAlreadyFlat => "POSITION_ALREADY_FLAT"
  | orphanProtectionCancelIntentPersisted => "ORPHAN_PROTECTION_CANCEL_INTENT_PERSISTED"
  | exactSizeProtectionConfirmed => "EXACT_SIZE_PROTECTION_CONFIRMED"
  | mismatchedProtectionCancelIntentPersisted =>
      "MISMATCHED_PROTECTION_CANCEL_INTENT_PERSISTED"
  | protectionCancelReconciling => "PROTECTION_CANCEL_RECONCILING"
  | protectionCancelFoundFlat => "PROTECTION_CANCEL_FOUND_FLAT"
  | restartProtectionMissingExitRequired => "RESTART_PROTECTION_MISSING_EXIT_REQUIRED"
  | unprotectedWindowExceeded => "UNPROTECTED_WINDOW_EXCEEDED"
  | protectionNotExact => "PROTECTION_NOT_EXACT"
  | mismatchedProtectionRemovedExitRequired =>
      "MISMATCHED_PROTECTION_REMOVED_EXIT_REQUIRED"
  | emergencyExitFlatConfirmed => "EMERGENCY_EXIT_FLAT_CONFIRMED"
  | haltedOperatorReviewRequired => "HALTED_OPERATOR_REVIEW_REQUIRED"
  | operatorReloadClearedNoPost => "OPERATOR_RELOAD_CLEARED_NO_POST"

inductive V4GmoHaltReason
  | policyConfigHashMismatch
  | restartEntryPreflightNotFlatOrUnknown
  | protectedPositionReconciliationUnknown
  | protectedPositionCountMismatch
  | protectedPositionSideMismatch
  | protectedPositionSizeMismatch
  | marketEntryBoundaryRefused
  | entryReconciliationUnknown
  | multiplePositionsDetected
  | unexpectedProtectionDuringEntryReconciliation
  | filledSizeExceedsIntent
  | pendingSizeExceedsIntent
  | entryTotalSizeExceedsIntent
  | positionSideMismatch
  | positionWithoutReconciledFill
  | fillWithoutPosition
  | entryRemainderPersistsAfterCancel
  | cancelRemainderBoundaryRefused
  | unprotectedStartTimeMissing
  | clockMovedBackward
  | protectionBoundaryRefused
  | protectionReconciliationUnknown
  | flatWithUnknownProtectionState
  | multiplePositionsDetectedDuringProtection
  | positionSideMismatchDuringProtection
  | unprotectedStartTimeMissingAtConfirmation
  | clockMovedBackwardAtProtectionConfirmation
  | protectionConfirmedAfterDeadline
  | mismatchedProtectionSizeUnknown
  | protectionCancelBoundaryRefused
  | protectionCancelReconciliationUnknown
  | mismatchedProtectionPersistsAfterCancel
  | emergencyExitSizeUnknown
  | emergencyExitBoundaryRefused
  | emergencyExitResultUnknownOrNotFlat

def V4GmoHaltReason.value : V4GmoHaltReason → String
  | policyConfigHashMismatch => "POLICY_CONFIG_HASH_MISMATCH"
  | restartEntryPreflightNotFlatOrUnknown =>
      "RESTART_ENTRY_PREFLIGHT_NOT_FLAT_OR_UNKNOWN"
  | protectedPositionReconciliationUnknown =>
      "PROTECTED_POSITION_RECONCILIATION_UNKNOWN"
  | protectedPositionCountMismatch => "PROTECTED_POSITION_COUNT_MISMATCH"
  | protectedPositionSideMismatch => "PROTECTED_POSITION_SIDE_MISMATCH"
  | protectedPositionSizeMismatch => "PROTECTED_POSITION_SIZE_MISMATCH"
  | marketEntryBoundaryRefused => "MARKET_ENTRY_BOUNDARY_REFUSED"
  | entryReconciliationUnknown => "ENTRY_RECONCILIATION_UNKNOWN"
  | multiplePositionsDetected => "MULTIPLE_POSITIONS_DETECTED"
  | unexpectedProtectionDuringEntryReconciliation =>
      "UNEXPECTED_PROTECTION_DURING_ENTRY_RECONCILIATION"
  | filledSizeExceedsIntent => "FILLED_SIZE_EXCEEDS_INTENT"
  | pendingSizeExceedsIntent => "PENDING_SIZE_EXCEEDS_INTENT"
  | entryTotalSizeExceedsIntent => "ENTRY_TOTAL_SIZE_EXCEEDS_INTENT"
  | positionSideMismatch => "POSITION_SIDE_MISMATCH"
  | positionWithoutReconciledFill => "POSITION_WITHOUT_RECONCILED_FILL"
  | fillWithoutPosition => "FILL_WITHOUT_POSITION"
  | entryRemainderPersistsAfterCancel => "ENTRY_REMAINDER_PERSISTS_AFTER_CANCEL"
  | cancelRemainderBoundaryRefused => "CANCEL_REMAINDER_BOUNDARY_REFUSED"
  | unprotectedStartTimeMissing => "UNPROTECTED_START_TIME_MISSING"
  | clockMovedBackward => "CLOCK_MOVED_BACKWARD"
  | protectionBoundaryRefused => "PROTECTION_BOUNDARY_REFUSED"
  | protectionReconciliationUnknown => "PROTECTION_RECONCILIATION_UNKNOWN"
  | flatWithUnknownProtectionState => "FLAT_WITH_UNKNOWN_PROTECTION_STATE"
  | multiplePositionsDetectedDuringProtection =>
      "MULTIPLE_POSITIONS_DETECTED_DURING_PROTECTION"
  | positionSideMismatchDuringProtection => "POSITION_SIDE_MISMATCH_DURING_PROTECTION"
  | unprotectedStartTimeMissingAtConfirmation =>
      "UNPROTECTED_START_TIME_MISSING_AT_CONFIRMATION"
  | clockMovedBackwardAtProtectionConfirmation =>
      "CLOCK_MOVED_BACKWARD_AT_PROTECTION_CONFIRMATION"
  | protectionConfirmedAfterDeadline => "PROTECTION_CONFIRMED_AFTER_DEADLINE"
  | mismatchedProtectionSizeUnknown => "MISMATCHED_PROTECTION_SIZE_UNKNOWN"
  | protectionCancelBoundaryRefused => "PROTECTION_CANCEL_BOUNDARY_REFUSED"
  | protectionCancelReconciliationUnknown => "PROTECTION_CANCEL_RECONCILIATION_UNKNOWN"
  | mismatchedProtectionPersistsAfterCancel =>
      "MISMATCHED_PROTECTION_PERSISTS_AFTER_CANCEL"
  | emergencyExitSizeUnknown => "EMERGENCY_EXIT_SIZE_UNKNOWN"
  | emergencyExitBoundaryRefused => "EMERGENCY_EXIT_BOUNDARY_REFUSED"
  | emergencyExitResultUnknownOrNotFlat => "EMERGENCY_EXIT_RESULT_UNKNOWN_OR_NOT_FLAT"

/-- Source `_validate_safe_label`, as a check. -/
def validSafeLabel (value : String) : Bool :=
  !value.toList.isEmpty && decide (value.toList.length ≤ 120) &&
    value.toList.all fun c => c.isUpper || c.isDigit || c == '_'

structure V4GmoPreflightSnapshot where
  bootReconciled : Bool
  processLockHeld : Bool
  dataFresh : Bool
  clockSynchronized : Bool
  notificationPathReady : Bool
  brokerSnapshotFresh : Bool
  positionCount : Nat := 0
  activeOrderCount : Nat := 0
  entriesToday : Nat := 0
  dailyStopClear : Bool := true
  monthlyStopClear : Bool := true
  consecutiveLossStopClear : Bool := true
  operatorHaltClear : Bool := true

def failedChecks (checks : List (Bool × String)) : List String :=
  (checks.filter fun check => !check.1).map Prod.snd

def V4GmoPreflightSnapshot.blockedReasons (p : V4GmoPreflightSnapshot) : List String :=
  failedChecks
    [(p.bootReconciled, "BOOT_RECONCILIATION_REQUIRED"),
      (p.processLockHeld, "PROCESS_LOCK_REQUIRED"),
      (p.dataFresh, "DATA_STALE"),
      (p.clockSynchronized, "CLOCK_NOT_SYNCHRONIZED"),
      (p.notificationPathReady, "NOTIFICATION_PATH_NOT_READY"),
      (p.brokerSnapshotFresh, "BROKER_SNAPSHOT_STALE"),
      (decide (p.positionCount = 0), "POSITION_NOT_FLAT"),
      (decide (p.activeOrderCount = 0), "ACTIVE_ORDER_EXISTS"),
      (decide (p.entriesToday = 0), "DAILY_ENTRY_LIMIT_REACHED"),
      (p.dailyStopClear, "DAILY_STOP_LATCHED"),
      (p.monthlyStopClear, "MONTHLY_STOP_LATCHED"),
      (p.consecutiveLossStopClear, "CONSECUTIVE_LOSS_STOP_LATCHED"),
      (p.operatorHaltClear, "OPERATOR_HALT_LATCHED")]

def V4GmoBrokerSnapshot.flat : V4GmoBrokerSnapshot where
  fresh := true
  resultKnown := true
  positionCount := 0
  positionSide := none
  filledSize := 0
  pendingEntrySize := 0
  protectionSize := 0
  entryStatus := .none
  protectionStatus := .none

def flatSnapshotBlockedReasons (snapshot : V4GmoBrokerSnapshot) : List String :=
  failedChecks
    [(snapshot.fresh, "BROKER_SNAPSHOT_STALE"),
      (snapshot.resultKnown, "BROKER_RESULT_UNKNOWN"),
      (decide (snapshot.positionCount = 0), "POSITION_NOT_FLAT"),
      (decide (snapshot.filledSize = 0), "FILL_STATE_NOT_FLAT"),
      (decide (snapshot.pendingEntrySize = 0), "PENDING_ENTRY_EXISTS"),
      (decide (snapshot.protectionSize = 0), "PROTECTION_ORDER_EXISTS"),
      (decide (snapshot.protectionStatus = .none), "PROTECTION_STATE_NOT_CLEAR")]

theorem failedChecks_eq_nil {checks : List (Bool × String)} :
    failedChecks checks = [] ↔ ∀ check ∈ checks, check.1 = true := by
  simp [failedChecks]

theorem flatSnapshotBlockedReasons_eq_nil {snapshot : V4GmoBrokerSnapshot} :
    flatSnapshotBlockedReasons snapshot = [] ↔
      snapshot.fresh = true ∧ snapshot.resultKnown = true ∧ snapshot.positionCount = 0 ∧
        snapshot.filledSize = 0 ∧ snapshot.pendingEntrySize = 0 ∧
        snapshot.protectionSize = 0 ∧ snapshot.protectionStatus = .none := by
  simp [flatSnapshotBlockedReasons, failedChecks_eq_nil]

def buildV4CycleRef (sha : Sha256) (signal : FormalSignal) (policy : V4GmoExecutionPolicy) :
    Except V4Error Digest :=
  if policy.accepts signal then
    .ok (sha.hexdigest
      [("profile_version",
          .text "H11_V4_GMO_MARKET_THEN_EXACT_OCO_FRIDAY_LIMITED_NO_POST_V2"),
        ("config_hash", .digest (policy.configHash sha)),
        ("fingerprint", .digest (signal.fingerprint sha)),
        ("decision", .text signal.decision.value)])
  else .error (contractError "signal does not match the frozen v4 GMO policy")

def V4GmoExecutionPolicy.maxUnprotectedSeconds (_ : V4GmoExecutionPolicy) : Int := 15

end FxStrategyLab
