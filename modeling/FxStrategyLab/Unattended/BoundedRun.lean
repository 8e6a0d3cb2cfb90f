import FxStrategyLab.Library.Calls

/-!
# The bounded runner

This file embeds `h11_auto_v4_unattended_live_bounded_run.py`: a cycle of a prepared session,
which is evaluated as switch-only for the resident generations and by the orchestration layer
for the others.  An attribute that the class of a frozen generation does not have raises where
it is read.

**Results.** `runOneCycle_raises`.
-/

namespace FxStrategyLab.Launcher

open Library.Calls

/-- The exceptions that the launcher tells apart; `interrupted` is none of `Exception`. -/
inductive PyException
  | v4G038ActivationError
  | v4G064ActivationError
  | v4G065ActivationError
  | v4GmoCanaryActivationError (label : String)
  | v4UnattendedLiveOrchestrationError (label : String)
  | v4GmoG013CanaryError (label : String)
  | v4GmoFormalCanarySourceError (label : String)
  | v4ActualPreparationGuardError
  | v4UnattendedSchedulerLauncherError (label : String)
  | osError
  | keyError
  | typeError
  | valueError
  | unboundLocalError (name : String)
  | attributeError (name : String)
  | otherException
  | interrupted
deriving DecidableEq

/-- What `except Exception` catches. -/
def PyException.isException : PyException → Bool
  | .interrupted => false
  | _ => true

/-- What the launcher leaves behind: the persistent halt file, the printed status lines, and
how far it came. -/
structure Machine where
  haltWritten : Bool := false
  printed : List String := []
  armChecked : Bool := false
  cyclesEvaluated : Nat := 0

abbrev PyCall (α : Type) := EStateM PyException Machine α

/-- Source `print`. -/
def printStatus (status : String) : PyCall Unit :=
  modify fun machine => { machine with printed := machine.printed ++ [status] }

/-- The attributes of `V4GmoFrozenGeneration`: its fields and its properties. -/
def generationAttributes : List String :=
  ["schema", "status", "generation_label", "implementation_digest", "operator_selection_digest",
    "execution_profile", "policy_config_hash", "strategy_version", "signal_config_hash",
    "selected_horizon", "symbol", "quantity_units", "account_ownership",
    "temporary_unprotected_gap_accepted", "maximum_unprotected_seconds",
    "protection_contract_hash", "broker_capability_evidence_hash", "risk_policy_label",
    "risk_policy_digest", "per_trade_loss_bound_jpy", "daily_loss_limit_jpy",
    "monthly_loss_limit_jpy", "maximum_consecutive_losses", "blocked_hours_jst",
    "friday_entry_start_hour_jst", "friday_entry_cutoff_hour_jst", "weekend_days_jst",
    "weekend_flat_weekday_jst", "weekend_flat_hour_jst",
    "weekend_exit_sequence_start_hour_jst", "weekend_exit_sequence_start_minute_jst",
    "maximum_hold_seconds", "exit_profile_label", "dead_man_policy_label",
    "dead_man_policy_digest", "heartbeat_interval_seconds", "maximum_heartbeat_age_seconds",
    "adverse_slippage_allowance_pips", "maximum_entries_per_day", "same_action_retry_allowed",
    "same_action_repost_allowed", "entry_disabled", "reconciliation_contract_digest",
    "actual_post_authorized", "live_ready", "unattended_live_supported",
    "activation_source_generation_digest", "successful_canary_evidence_digest",
    "successor_halt_release_digest", "runtime_commissioning_evidence_digest",
    "daily_authorization_required", "per_trade_confirmation_required",
    "arm_is_operating_intent", "arm_directly_authorizes_post", "entry_gate_separate_from_arm",
    "reconciliation_required_before_entry", "predecessor_authorization_reused",
    "predecessor_state_root_reused", "predecessor_generation_digest",
    "predecessor_initial_activation_unknown", "predecessor_terminal_evidence_reused",
    "frozen_design_digest", "canonical_json", "digest"]

/-- Source `V4GmoFrozenGeneration`, as far as the launcher reads it. -/
structure V4GmoFrozenGeneration where
  generationLabel : String
  digest : String
  implementationDigest : String
  liveReady : Bool
  unattendedLiveSupported : Bool

def readAttribute {α : Type} (name : String) (value : α) : PyCall α :=
  if name ∈ generationAttributes then pure value else throw (.attributeError name)

def g064GenerationLabel : String := "H11_AUTO_30M_20260801_G064"

def g065GenerationLabel : String := "H11_AUTO_30M_20260801_G065"

/-- The label of a generation that is neither `G064` nor `G065` takes the legacy path. -/
def isResidentLabel (label : String) : Bool :=
  label = g064GenerationLabel ∨ label = g065GenerationLabel

/-- The outcome of a cycle: what it prints, and whether it spent its session. -/
structure CycleOutcome where
  status : String
  reasonLabel : Option String := none
  entryGateOpen : Option Bool := none
  entryState : Option String := none
  entryAttempted : Bool := false

def switchOnlyCycle (generationLabel : String) (entryGateBlockedReasons : List String)
    (armIntent : Bool) : CycleOutcome :=
  let entryGateOpen := armIntent && entryGateBlockedReasons.isEmpty
  { status :=
      if entryGateOpen then
        generationLabel ++ "_UNATTENDED_SWITCH_ONLY_ENTRY_GATE_EVALUATED_NO_POST"
      else generationLabel ++ "_UNATTENDED_SWITCH_ONLY_ENTRY_GATE_BLOCKED_NO_POST"
    entryGateOpen := some entryGateOpen
    entryState := some (if entryGateOpen then "WAITING" else "BLOCKED") }

/-- The label of an exception of `_EXPECTED_NOT_YET_ERRORS`. -/
def expectedNotYet : PyException → Option String
  | .v4GmoCanaryActivationError label => some label
  | .v4UnattendedLiveOrchestrationError label => some label
  | .v4GmoG013CanaryError label => some label
  | _ => none

def integrityAbortLabels : List String :=
  ["G013_IMPLEMENTATION_CHANGED_BEFORE_PERMIT", "G013_GENERATION_CHANGED_BEFORE_PERMIT",
    "V4_CANARY_UNATTENDED_DECISION_INVALID", "UNATTENDED_ORCHESTRATION_NOTIFICATION_SEND_FAILED"]

def evaluated : PyCall Unit :=
  modify fun machine => { machine with cyclesEvaluated := machine.cyclesEvaluated + 1 }

/-- The call of `run_unattended_live_entry_cycle_once`, with the errors that stand for a cycle
that is not yet due. -/
def orchestratedCycle (entryCycle : Except PyException CycleOutcome) : PyCall CycleOutcome :=
  attempt (outcome entryCycle)
    (fun e => (expectedNotYet e).any fun label => label ∉ integrityAbortLabels)
    fun e => pure
      { status := "UNATTENDED_LIVE_CYCLE_NOT_YET", reasonLabel := expectedNotYet e }

/-- Source `_run_one_cycle`; the orchestration layer is given by its result. -/
def runOneCycle (generation : V4GmoFrozenGeneration) (entryGateBlockedReasons : List String)
    (armIntent : Bool) (entryCycle : Except PyException CycleOutcome) :
    PyCall CycleOutcome := do
  let label ← readAttribute "label" generation.generationLabel
  if isResidentLabel label then
    let label' ← readAttribute "label" generation.generationLabel
    evaluated
    pure (switchOnlyCycle (if label' = g064GenerationLabel then "G064" else "G065")
      entryGateBlockedReasons armIntent)
  else
    evaluated
    orchestratedCycle entryCycle

/-- What a cycle meets: the blocked reasons of its entry gate and its orchestration. -/
structure CycleInput where
  entryGateReasons : Except PyException (List String)
  entryCycle : Except PyException CycleOutcome

/-- Source `main` of the runner, over what its cycles meet. -/
def boundedRunMain (generation : V4GmoFrozenGeneration) (armIntent : Bool) :
    List CycleInput → PyCall Int
  | [] => pure 0
  | cycle :: cycles => do
      let reasons ← outcome cycle.entryGateReasons
      let result ← runOneCycle generation reasons armIntent cycle.entryCycle
      printStatus result.status
      if result.entryAttempted then pure 0 else boundedRunMain generation armIntent cycles

/-- **No session reaches an evaluation.** Whatever its generation, the cycle of a session reads
an attribute that no generation has. -/
theorem runOneCycle_raises (generation : V4GmoFrozenGeneration) (reasons : List String)
    (armIntent : Bool) (entryCycle : Except PyException CycleOutcome) (machine : Machine) :
    runOneCycle generation reasons armIntent entryCycle machine =
      .error (.attributeError "label") machine := by
  have hmissing : "label" ∉ generationAttributes := by decide
  unfold runOneCycle readAttribute
  rw [if_neg hmissing]
  rfl

theorem boundedRunMain_keeps {P : Machine → Prop} (hprint : ∀ machine status, P machine →
      P { machine with printed := machine.printed ++ [status] })
    (generation : V4GmoFrozenGeneration) (armIntent : Bool) (cycles : List CycleInput) :
    Keeps P (boundedRunMain generation armIntent cycles) := by
  induction cycles with
  | nil => exact keeps_pure 0
  | cons cycle cycles ih =>
      refine keeps_bind (keeps_outcome _) fun reasons => keeps_bind ?_ fun result =>
        keeps_bind (keeps_modify fun machine h => hprint machine _ h) fun _ =>
          keeps_ite (keeps_pure 0) ih
      intro machine h
      unfold stateAfter
      rw [runOneCycle_raises]
      exact h

end FxStrategyLab.Launcher
