import FxStrategyLab.Contracts
import FxStrategyLab.Library.Files

/-!
# The state root of the resident runtime

This file embeds the file helpers of `h11_v4_g075_runtime.py` and what is read
from the state root as a whole: the persistent halt and the capability of the
switch.  A state root is a disk whose names are the files of the runtime.

The marker files are only asked for their presence, so no content is kept for
them; the files whose fields are read keep these fields.
-/

namespace FxStrategyLab.G075

open Library

/-- The exception classes that the handlers of the runtime tell apart. -/
inductive ErrorClass
  /-- `G075Error`, a `ValueError` -/
  | g075
  | typeOrValue
  | coordinatedPath
  | liveRuntime
  | os
  | otherException
  /-- a `BaseException` that is no `Exception` -/
  | base
deriving DecidableEq

/-- An exception: its class and its fixed label. -/
structure G075Exception where
  errorClass : ErrorClass
  label : String
deriving DecidableEq

def g075Error (label : String) : G075Exception :=
  { errorClass := .g075, label }

/-- The `OSError` of a write. -/
def osError : G075Exception :=
  { errorClass := .os, label := "" }

/-- A label of `_exclusive_json`. -/
def alreadyExists : G075Exception :=
  g075Error "G075_ONE_USE_MARKER_ALREADY_EXISTS_NO_RETRY"

/-- Source `G075ReconciliationState`. -/
inductive ReconciliationState
  | required
  | inProgress
  | freshFlat
  | freshProtected
  | unknown
  | stale
deriving DecidableEq

def ReconciliationState.value : ReconciliationState → String
  | required => "REQUIRED"
  | inProgress => "IN_PROGRESS"
  | freshFlat => "FRESH_FLAT"
  | freshProtected => "FRESH_PROTECTED"
  | unknown => "UNKNOWN"
  | stale => "STALE"

/-- Source `G075ReconciliationEvidence`, without the fields that are the same in
every evidence (the generation label, `broker_write`, `broker_post_count`). -/
structure Evidence where
  generationDigest : Digest
  reviewedFilesDigest : Digest
  cycleId : List Char
  observedAtUtc : Instant
  state : ReconciliationState
  latestExecutionCount : Nat
  openPositionCount : Nat
  activeOrderCount : Nat
  positionSide : Option SignalDecision
  positionOpen : Bool
  accountFlat : Bool
  activeOrdersZero : Bool
  ownershipExact : Bool
  quantityMatches : Bool
  protectionConfirmed : Bool
  brokerGetCount : Nat
  privateApiReadCount : Nat
  credentialReadCount : Nat
  pendingTransport : Bool
  artifactDigest : Digest
deriving DecidableEq

/-- The names in a state root. -/
inductive StateFile
  | persistentHalt
  | runtimeStatus
  | heartbeat
  | deadMan
  | heartbeatChain
  | reconciliation
  | operation60Result
  | transactionStarted
  | transactionOutcome
  | switchCapability
  | releaseCapability
  | recoveryScope
  | reconciliationStarted (cycleId : List Char)
  | reconciliationOutcome (cycleId : List Char)
  | actionStarted (scopeDigest : Digest)
  | actionResult (scopeDigest : Digest)
  | recoveryStarted (actionKey : Digest)
deriving DecidableEq

/-- What a file holds, as far as it is read. -/
inductive Content
  /-- a file that is only asked for its presence -/
  | marker
  /-- a file that is no JSON object -/
  | unreadable
  /-- a JSON object, fields in key order -/
  | object (fields : CanonicalText)
  | evidence (e : Evidence)
deriving DecidableEq

abbrev StateRoot := Disk StateFile Content

abbrev RootProcess := Process StateRoot G075Exception

def atomicJson (file : StateFile) (content : Content) : RootProcess Unit :=
  Disk.replace osError file content

def exclusiveJson (file : StateFile) (content : Content) : RootProcess Unit :=
  Disk.createExclusive osError alreadyExists file content

namespace StateRoot

/-- Source `path.exists()`. -/
def present (root : StateRoot) (file : StateFile) : Bool :=
  (root.files file).isSome

/-- Source `_read_json`: the fields of a file that holds an object. -/
def readJson (root : StateRoot) (file : StateFile) : Option CanonicalText :=
  match root.files file with
  | some (.object fields) => some fields
  | _ => none

end StateRoot

/-- Source `_read_json` in a process. -/
def readJson (file : StateFile) (label : String) : RootProcess CanonicalText := do
  match ← Process.gets fun root => StateRoot.readJson root file with
  | some fields => pure fields
  | none => Process.raise (g075Error label)

/-- Source `engage_g075_halt`. -/
def engageHalt : RootProcess Unit := do
  let halted ← Process.gets fun root => StateRoot.present root .persistentHalt
  if halted then pure () else atomicJson .persistentHalt .marker

/-- How injected code answers: it returns, raises, or never comes back. -/
inductive PortAnswer (α : Type)
  | returns (a : α)
  | raises (e : G075Exception)
  | dies

def PortAnswer.run {α : Type} : PortAnswer α → RootProcess α
  | returns a => pure a
  | raises e => Process.raise e
  | dies => Process.kill

/-- Source `G075_GENERATION_LABEL`. -/
def generationLabel : String :=
  "H11_AUTO_30M_20260802_G075"

/-- Source `payload.pop("artifact_digest")`: the popped value and the rest. -/
def popArtifactDigest (fields : CanonicalText) : Option (Scalar × CanonicalText) :=
  (fields.lookup "artifact_digest").map fun value =>
    (value, fields.filter fun entry => entry.1 ≠ "artifact_digest")

def boundToGeneration (generationDigest reviewedFilesDigest : Digest)
    (fields : CanonicalText) : Bool :=
  decide (fields.lookup "generation_label" = some (.text generationLabel) ∧
    fields.lookup "generation_digest" = some (.digest generationDigest) ∧
    fields.lookup "reviewed_files_digest" = some (.digest reviewedFilesDigest))

/-- The conditions of `_capability_valid` on the transaction outcome, apart from its
artifact digest. -/
def outcomePassed (generationDigest reviewedFilesDigest : Digest)
    (outcome : CanonicalText) : Bool :=
  decide (outcome.lookup "status" = some (.text "PASSED")) &&
    boundToGeneration generationDigest reviewedFilesDigest outcome &&
    decide (outcome.lookup "broker_post_count" = some (.integer 0))

/-- The conditions on the result of the no-post operation, which the activation asks
as well. -/
def operationPassed (generationDigest reviewedFilesDigest : Digest)
    (operation : CanonicalText) : Bool :=
  decide (operation.lookup "status" = some (.text "PASSED")) &&
    boundToGeneration generationDigest reviewedFilesDigest operation

/-- The conditions on the switch capability and its twin, the release capability. -/
def capabilityEnabled (generationDigest reviewedFilesDigest : Digest)
    (capability : CanonicalText) : Bool :=
  decide (capability.lookup "status" = some (.text "ENABLED")) &&
    boundToGeneration generationDigest reviewedFilesDigest capability

def capabilityBounded (capability : CanonicalText) : Bool :=
  ["actual_post_authorized", "broker_post_authorized", "daily_authorization_required",
    "per_trade_confirmation_required"].all fun permission =>
    decide (capability.lookup permission = some (.boolean false))

/-- Source `_capability_valid`; `scanClear` is what
`require_g075_no_unresolved_halt` finds in the state roots of all generations. -/
def capabilityValid (sha : Sha256) (generationDigest reviewedFilesDigest : Digest)
    (scanClear : Bool) (root : StateRoot) : Bool :=
  scanClear &&
    match StateRoot.readJson root .switchCapability, StateRoot.readJson root .releaseCapability,
      StateRoot.readJson root .transactionOutcome,
      StateRoot.readJson root .operation60Result with
    | some switch, some release, some outcome, some operation =>
        match popArtifactDigest switch, popArtifactDigest release,
          popArtifactDigest outcome with
        | some (artifact, switch), some (releaseArtifact, release),
            some (outcomeArtifact, outcome) =>
            outcomePassed generationDigest reviewedFilesDigest outcome &&
              decide (outcomeArtifact = .digest (sha.prefixed outcome)) &&
              operationPassed generationDigest reviewedFilesDigest operation &&
              capabilityEnabled generationDigest reviewedFilesDigest switch &&
              capabilityEnabled generationDigest reviewedFilesDigest release &&
              capabilityBounded switch &&
              decide (artifact = .digest (sha.prefixed switch)) &&
              decide (releaseArtifact = .digest (sha.prefixed release)) &&
              decide (switch = release) &&
              !StateRoot.present root .persistentHalt
        | _, _, _ => false
    | _, _, _, _ => false

section Frames

variable {file other : StateFile} {content : Content}

theorem atomicJson_keepsFile (h : other ≠ file) :
    Within (Disk.keepsFile other) (atomicJson file content) :=
  Disk.replace_keepsFile h

theorem exclusiveJson_keepsFile (h : other ≠ file) :
    Within (Disk.keepsFile other) (exclusiveJson file content) :=
  Disk.createExclusive_keepsFile h

theorem atomicJson_keepsPresent : Within (Disk.keepsPresent other) (atomicJson file content) :=
  Disk.replace_keepsPresent

theorem exclusiveJson_keepsPresent :
    Within (Disk.keepsPresent other) (exclusiveJson file content) :=
  Disk.createExclusive_keepsPresent

theorem readJson_within {F : Frame StateRoot} {label : String} :
    Within F (readJson file label) := by
  refine (Within.gets _).bind fun fields => ?_
  cases fields with
  | none => exact Within.raise _
  | some fields => exact Within.pure _

theorem engageHalt_keepsFile (h : other ≠ .persistentHalt) :
    Within (Disk.keepsFile other) engageHalt := by
  refine (Within.gets _).bind fun halted => ?_
  exact Within.ite (Within.pure _) (atomicJson_keepsFile h)

theorem engageHalt_keepsPresent : Within (Disk.keepsPresent other) engageHalt := by
  refine (Within.gets _).bind fun halted => ?_
  exact Within.ite (Within.pure _) atomicJson_keepsPresent

theorem atomicJson_grows : Within Disk.grows (atomicJson file content) :=
  Disk.grows_of_keepsPresent fun _ => atomicJson_keepsPresent

theorem exclusiveJson_grows : Within Disk.grows (exclusiveJson file content) :=
  Disk.grows_of_keepsPresent fun _ => exclusiveJson_keepsPresent

theorem engageHalt_grows : Within Disk.grows engageHalt :=
  Disk.grows_of_keepsPresent fun _ => engageHalt_keepsPresent

theorem engageHalt_of_noFates (root : StateRoot) (hfates : root.fates = []) :
    ∃ root', engageHalt.run root = (.returned (), root') ∧ root'.fates = [] ∧
      StateRoot.present root' .persistentHalt = true ∧
      ∀ file, file ≠ .persistentHalt → root'.files file = root.files file := by
  unfold engageHalt
  rw [Process.run_gets_bind]
  by_cases hpresent : StateRoot.present root .persistentHalt = true
  · simp only [hpresent, if_true, Process.run_pure]
    exact ⟨root, rfl, hfates, hpresent, fun _ _ => rfl⟩
  · simp only [hpresent, if_false, Bool.false_eq_true, atomicJson,
      Disk.replace_of_noFates hfates]
    refine ⟨_, rfl, hfates, by simp [StateRoot.present], fun file hfile => ?_⟩
    rw [Disk.set_other _ _ hfile]

end Frames

theorem outcomePassed_of_capabilityValid {sha : Sha256}
    {generationDigest reviewedFilesDigest : Digest} {scanClear : Bool} {root : StateRoot}
    (h : capabilityValid sha generationDigest reviewedFilesDigest scanClear root = true) :
    ∃ fields artifact outcome, StateRoot.readJson root .transactionOutcome = some fields ∧
      popArtifactDigest fields = some (artifact, outcome) ∧
      outcomePassed generationDigest reviewedFilesDigest outcome = true := by
  simp only [capabilityValid, Bool.and_eq_true] at h
  obtain ⟨_, h⟩ := h
  split at h
  case h_2 => simp at h
  case h_1 switch release fields operation _ _ houtcome _ =>
    split at h
    case h_2 => simp at h
    case h_1 _ _ _ _ artifact outcome _ _ hpop =>
      simp only [Bool.and_eq_true] at h
      exact ⟨fields, artifact, outcome, houtcome, hpop, h.1.1.1.1.1.1.1.1.1⟩

end FxStrategyLab.G075
