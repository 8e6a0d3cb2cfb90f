import FxStrategyLab.G075.StateRoot
import FxStrategyLab.Library.Runs

/-!
# The initial activation

This file embeds `run_g075_initial_atomic_activation` of `h11_v4_g075_runtime.py`:
the one-use transaction that enables the switch.  Its three ports are injected;
each may return any value, raise any exception or never come back, and may do to
the state root whatever leaves the files of the transaction alone.

**Results.**
* `activation_all_or_nothing`: what a valid capability says about the transaction
  that made it, and that a transaction which has started and failed is final.
* `refused_activation_not_final`: a call that is refused before it starts the
  transaction decides nothing.
-/

namespace FxStrategyLab.G075

open Library

def transactionFiles : List StateFile :=
  [.transactionStarted, .transactionOutcome, .releaseCapability, .switchCapability]

/-- What other code does to the state root: anything but to the files of the
transaction. -/
structure OtherEffect where
  apply : (StateFile → Option Content) → StateFile → Option Content
  keeps : ∀ files, ∀ file ∈ transactionFiles, apply files file = files file

/-- A port of the transaction: what it does to the state root and how it answers. -/
structure Port (α : Type) where
  effect : OtherEffect
  answer : PortAnswer α

def Port.call {α : Type} (port : Port α) : RootProcess α := do
  Process.modify fun root => { root with files := port.effect.apply root.files }
  port.answer.run

/-- What the transaction reads of the value of `reconciliation_runner`: its state,
when it has one of the known states, and its artifact digest, when it has one that
can be written. -/
structure RunnerValue where
  state : Option ReconciliationState
  artifactDigest : Option Scalar

/-- The injected ports of the transaction; the verifier answers whether its value
is `True`. -/
structure ActivationPorts where
  reconciliationRunner : Port RunnerValue
  armMutator : Port Unit
  armStateVerifier : Port Bool

def capabilityBase (generationDigest reviewedFilesDigest : Digest)
    (reconciliationArtifactDigest : Scalar) : CanonicalText :=
  [("actual_post_authorized", .boolean false), ("broker_post_authorized", .boolean false),
    ("daily_authorization_required", .boolean false),
    ("generation_digest", .digest generationDigest),
    ("generation_label", .text generationLabel),
    ("per_trade_confirmation_required", .boolean false),
    ("reconciliation_artifact_digest", reconciliationArtifactDigest),
    ("reviewed_files_digest", .digest reviewedFilesDigest),
    ("schema", .text "H11_V4_G075_SWITCH_CONTROL_CAPABILITY_V1"),
    ("status", .text "ENABLED")]

/-- The fields of the outcome `PASSED`. -/
def passedOutcome (generationDigest reviewedFilesDigest : Digest) : CanonicalText :=
  [("broker_post_count", .integer 0), ("credential_read_count", .integer 0),
    ("generation_digest", .digest generationDigest),
    ("generation_label", .text generationLabel), ("private_api_read_count", .integer 0),
    ("reviewed_files_digest", .digest reviewedFilesDigest), ("status", .text "PASSED")]

/-- The fields of the outcome `UNKNOWN`, which has no artifact digest. -/
def unknownOutcome (generationDigest reviewedFilesDigest : Digest) : CanonicalText :=
  [("broker_post_count", .integer 0), ("generation_digest", .digest generationDigest),
    ("generation_label", .text generationLabel),
    ("reviewed_files_digest", .digest reviewedFilesDigest), ("status", .text "UNKNOWN")]

variable (sha : Sha256)

def sealed (fields : CanonicalText) : Content :=
  .object (("artifact_digest", .digest (sha.prefixed fields)) :: fields)

def activationBody (generationDigest reviewedFilesDigest : Digest)
    (ports : ActivationPorts) : RootProcess String := do
  let evidence ← ports.reconciliationRunner.call
  Process.require
    (evidence.state = some .freshFlat ∨ evidence.state = some .freshProtected)
    (g075Error "G075_INITIAL_RECONCILIATION_NOT_CLEAR")
  match evidence.artifactDigest with
  | none => Process.raise { errorClass := .typeOrValue, label := "" }
  | some artifactDigest =>
      let base := capabilityBase generationDigest reviewedFilesDigest artifactDigest
      atomicJson .releaseCapability (sealed sha base)
      atomicJson .switchCapability (sealed sha base)
      ports.armMutator.call
      let armed ← ports.armStateVerifier.call
      Process.require (armed = true) (g075Error "G075_INITIAL_ARM_MUTATION_NOT_CONFIRMED")
      atomicJson .transactionOutcome
        (sealed sha (passedOutcome generationDigest reviewedFilesDigest))
      return "PASSED"

/-- The handler of the transaction: halt, record `UNKNOWN`, raise again. -/
def activationFailed (generationDigest reviewedFilesDigest : Digest) (e : G075Exception) :
    RootProcess String := do
  engageHalt
  atomicJson .transactionOutcome
    (.object (unknownOutcome generationDigest reviewedFilesDigest))
  Process.raise e

/-- Source `run_g075_initial_atomic_activation`. -/
def runInitialAtomicActivation (generationDigest reviewedFilesDigest : Digest)
    (ports : ActivationPorts) : RootProcess String := do
  let operation ← readJson .operation60Result "G075_OPERATION_60_RESULT_INVALID"
  Process.require (operationPassed generationDigest reviewedFilesDigest operation = true)
    (g075Error "G075_OPERATION_60_PASSED_REQUIRED")
  exclusiveJson .transactionStarted .marker
  (activationBody sha generationDigest reviewedFilesDigest ports).attempt
    (activationFailed generationDigest reviewedFilesDigest)

/-- What happens to a state root behind a transaction: another call, with the
fates of its writes, or other code. -/
inductive LaterEvent
  | call (generationDigest reviewedFilesDigest : Digest) (ports : ActivationPorts)
      (fates : List WriteFate)
  | other (effect : OtherEffect)

/-- The state root behind such an event. -/
def laterStep (root : StateRoot) : LaterEvent → StateRoot
  | .call generationDigest reviewedFilesDigest ports fates =>
      ((runInitialAtomicActivation sha generationDigest reviewedFilesDigest ports).run
        { root with fates }).2
  | .other effect => { root with files := effect.apply root.files }

/-- The outcome `PASSED` of this generation is on file. -/
def PassedOnFile (generationDigest reviewedFilesDigest : Digest)
    (root : StateRoot) : Prop :=
  root.files .transactionOutcome =
    some (sealed sha (passedOutcome generationDigest reviewedFilesDigest))
deriving Decidable

/-- The ports of the transaction cleared it: the reconciliation was `FRESH_FLAT` or
`FRESH_PROTECTED` and the verifier answered `True`. -/
def ActivationPorts.Cleared (ports : ActivationPorts) : Prop :=
  (∃ evidence, ports.reconciliationRunner.answer = .returns evidence ∧
    (evidence.state = some .freshFlat ∨ evidence.state = some .freshProtected)) ∧
    ports.armStateVerifier.answer = .returns true

section Outcome

variable {sha : Sha256} {generationDigest reviewedFilesDigest : Digest}
variable {ports : ActivationPorts}

/-- The outcome stays, or becomes `UNKNOWN`, or becomes `PASSED` of cleared ports. -/
def outcomeFrame (sha : Sha256) (generationDigest reviewedFilesDigest : Digest)
    (ports : ActivationPorts) : Frame StateRoot where
  rel s t :=
    t.files .transactionOutcome = s.files .transactionOutcome ∨
      t.files .transactionOutcome =
        some (.object (unknownOutcome generationDigest reviewedFilesDigest)) ∨
      ports.Cleared ∧ PassedOnFile sha generationDigest reviewedFilesDigest t
  refl _ := Or.inl rfl
  trans {s t u} hst htu := by
    rcases htu with hsame | hchanged
    · simpa only [hsame, PassedOnFile] using hst
    · exact Or.inr hchanged

variable {α : Type}

theorem within_outcomeFrame {x : RootProcess α}
    (h : Within (Disk.keepsFile .transactionOutcome) x) :
    Within (outcomeFrame sha generationDigest reviewedFilesDigest ports) x :=
  fun s => Or.inl (h s)

theorem Port.call_keepsFile (port : Port α) {file : StateFile}
    (h : file ∈ transactionFiles) : Within (Disk.keepsFile file) port.call := by
  refine (Within.modify fun root => port.effect.keeps root.files file h).bind fun _ => ?_
  cases port.answer with
  | returns a => exact Within.pure a
  | raises e => exact Within.raise e
  | dies => exact fun s => (Disk.keepsFile file).refl s

theorem Port.call_returned {port : Port α} {root root' : StateRoot} {a : α}
    (h : port.call.run root = (.returned a, root')) : port.answer = .returns a := by
  obtain ⟨_, s, _, hrest⟩ := Process.run_bind_eq_returned.mp h
  cases hanswer : port.answer with
  | returns b =>
      rw [hanswer] at hrest
      cases hrest
      rfl
  | raises e =>
      rw [hanswer] at hrest
      cases hrest
  | dies =>
      rw [hanswer] at hrest
      cases hrest

theorem atomicJson_outcome {content : Content}
    (h : content = .object (unknownOutcome generationDigest reviewedFilesDigest) ∨
      ports.Cleared ∧ content = sealed sha (passedOutcome generationDigest reviewedFilesDigest)) :
    Within (outcomeFrame sha generationDigest reviewedFilesDigest ports)
      (atomicJson .transactionOutcome content) := by
  intro root
  rcases Disk.change_files osError .transactionOutcome (some content) root with hsame | hset
  · exact Or.inl (congrFun hsame _)
  · have hcontent : ((atomicJson .transactionOutcome content).run root).2.files
        .transactionOutcome = some content :=
      (congrFun hset _).trans (Disk.set_same ..)
    rcases h with rfl | ⟨hcleared, rfl⟩
    · exact Or.inr (Or.inl hcontent)
    · exact Or.inr (Or.inr ⟨hcleared, hcontent⟩)

theorem activationBody_within :
    Within (outcomeFrame sha generationDigest reviewedFilesDigest ports)
      (activationBody sha generationDigest reviewedFilesDigest ports) := by
  have hfile : StateFile.transactionOutcome ∈ transactionFiles := by
    simp [transactionFiles]
  refine Within.bind_returned (R := fun evidence =>
    ports.reconciliationRunner.answer = .returns evidence)
    (within_outcomeFrame (ports.reconciliationRunner.call_keepsFile hfile))
    (fun _ _ _ h => Port.call_returned h) fun evidence hrunner => ?_
  refine Within.require_bind fun hfresh => ?_
  cases hdigest : evidence.artifactDigest with
  | none => exact Within.raise _
  | some artifactDigest =>
      refine (within_outcomeFrame (atomicJson_keepsFile (by simp))).bind fun _ => ?_
      refine (within_outcomeFrame (atomicJson_keepsFile (by simp))).bind fun _ => ?_
      refine (within_outcomeFrame (ports.armMutator.call_keepsFile hfile)).bind fun _ => ?_
      refine Within.bind_returned (R := fun armed =>
        ports.armStateVerifier.answer = .returns armed)
        (within_outcomeFrame (ports.armStateVerifier.call_keepsFile hfile))
        (fun _ _ _ h => Port.call_returned h) fun armed hverifier => ?_
      refine Within.require_bind fun harmed => ?_
      subst harmed
      have hcleared : ports.Cleared := ⟨⟨evidence, hrunner, hfresh⟩, hverifier⟩
      exact (atomicJson_outcome (Or.inr ⟨hcleared, rfl⟩)).bind fun _ => Within.pure _

theorem activationFailed_within (e : G075Exception) :
    Within (outcomeFrame sha generationDigest reviewedFilesDigest ports)
      (activationFailed generationDigest reviewedFilesDigest e) := by
  refine (within_outcomeFrame (engageHalt_keepsFile (by simp))).bind fun _ => ?_
  exact (atomicJson_outcome (Or.inl rfl)).bind fun _ => Within.raise e

/-- **Step.** What a call does to the outcome. -/
theorem runInitialAtomicActivation_within :
    Within (outcomeFrame sha generationDigest reviewedFilesDigest ports)
      (runInitialAtomicActivation sha generationDigest reviewedFilesDigest ports) := by
  refine readJson_within.bind fun operation => ?_
  refine Within.require_bind fun _ => ?_
  refine (within_outcomeFrame (exclusiveJson_keepsFile (by simp))).bind fun _ => ?_
  exact activationBody_within.attempt activationFailed_within

end Outcome

section Marker

variable {sha : Sha256} {generationDigest reviewedFilesDigest : Digest}
variable {ports : ActivationPorts}

theorem activationBody_keepsPresent :
    Within (Disk.keepsPresent .transactionStarted)
      (activationBody sha generationDigest reviewedFilesDigest ports) := by
  have hport : ∀ {α : Type} (port : Port α),
      Within (Disk.keepsPresent .transactionStarted) port.call :=
    fun port => Disk.keepsPresent_of_keepsFile (port.call_keepsFile (by simp [transactionFiles]))
  refine (hport _).bind fun evidence => Within.require_bind fun _ => ?_
  cases evidence.artifactDigest with
  | none => exact Within.raise _
  | some artifactDigest =>
      refine atomicJson_keepsPresent.bind fun _ => atomicJson_keepsPresent.bind fun _ => ?_
      refine (hport _).bind fun _ => (hport _).bind fun _ => Within.require_bind fun _ => ?_
      exact atomicJson_keepsPresent.bind fun _ => Within.pure _

theorem activationFailed_keepsPresent (e : G075Exception) :
    Within (Disk.keepsPresent .transactionStarted)
      (activationFailed generationDigest reviewedFilesDigest e) :=
  engageHalt_keepsPresent.bind fun _ => atomicJson_keepsPresent.bind fun _ => Within.raise e

theorem readJson_run (file : StateFile) (label : String) (root : StateRoot) :
    ((readJson file label).run root).2 = root := by
  have h : Within (Frame.fixes id) (readJson file label) := readJson_within
  exact h root

/-- **Refusal.** Behind the marker of a transaction every call is refused and changes
no file. -/
theorem runInitialAtomicActivation_started {root : StateRoot}
    (h : StateRoot.present root .transactionStarted = true) :
    (∃ e, ((runInitialAtomicActivation sha generationDigest reviewedFilesDigest ports).run
      root).1 = .raised e) ∧
    ((runInitialAtomicActivation sha generationDigest reviewedFilesDigest ports).run
      root).2 = root := by
  have hread := readJson_run .operation60Result "G075_OPERATION_60_RESULT_INVALID" root
  unfold runInitialAtomicActivation
  rw [Process.run_bind]
  rcases hr : (readJson .operation60Result "G075_OPERATION_60_RESULT_INVALID").run root
    with ⟨o, root'⟩
  rw [hr] at hread
  cases hread
  cases o with
  | raised e => exact ⟨⟨e, rfl⟩, rfl⟩
  | killed =>
      unfold readJson at hr
      rw [Process.run_gets_bind] at hr
      split at hr <;> cases hr
  | returned operation =>
      dsimp only
      by_cases hpassed :
          operationPassed generationDigest reviewedFilesDigest operation = true
      · rw [Process.run_require_bind hpassed, Process.run_bind]
        have htaken : (exclusiveJson .transactionStarted .marker).run root' =
            (.raised alreadyExists, root') :=
          Disk.createExclusive_taken h
        rw [htaken]
        exact ⟨⟨_, rfl⟩, rfl⟩
      · rw [Process.run_require_bind_not hpassed]
        exact ⟨⟨_, rfl⟩, rfl⟩

theorem runInitialAtomicActivation_unstarted {root : StateRoot} (h : StateRoot.present
      ((runInitialAtomicActivation sha generationDigest reviewedFilesDigest ports).run root).2
      .transactionStarted = false) :
    ((runInitialAtomicActivation sha generationDigest reviewedFilesDigest ports).run
      root).2.files = root.files := by
  have hread := readJson_run .operation60Result "G075_OPERATION_60_RESULT_INVALID" root
  unfold runInitialAtomicActivation at h ⊢
  rw [Process.run_bind] at h ⊢
  rcases hr : (readJson .operation60Result "G075_OPERATION_60_RESULT_INVALID").run root
    with ⟨o, root'⟩
  rw [hr] at h hread
  cases hread
  cases o with
  | raised e => rfl
  | killed => rfl
  | returned operation =>
      dsimp only at h ⊢
      by_cases hpassed :
          operationPassed generationDigest reviewedFilesDigest operation = true
      · rw [Process.run_require_bind hpassed] at h ⊢
        rcases hx : (exclusiveJson .transactionStarted .marker).run root' with ⟨ox, rootx⟩
        rcases Disk.createExclusive_taken_or hx with htaken | ⟨hsame, hnot⟩
        · -- the marker exists and nothing behind it takes it away
          have hkept := Process.run_bind_ends
            (x := exclusiveJson .transactionStarted .marker) (s := root')
            (f := fun _ => (activationBody sha generationDigest reviewedFilesDigest ports).attempt
              (activationFailed generationDigest reviewedFilesDigest))
            (Q := fun root => (root.files .transactionStarted).isSome = true)
            (fun a t ht => ?_) (by rw [hx]; exact htaken)
          · exact absurd (hkept.symm.trans h) (by simp)
          · rw [hx] at ht
            cases ht
            exact activationBody_keepsPresent.attempt activationFailed_keepsPresent _ htaken
        · rw [Process.run_bind, hx]
          cases ox with
          | returned a => exact absurd rfl hnot
          | raised e => exact hsame
          | killed => exact hsame
      · rw [Process.run_require_bind_not hpassed]

end Marker

section AllOrNothing

variable {sha : Sha256} {generationDigest reviewedFilesDigest : Digest}

/-- The transaction of this state root has started and no outcome with an artifact
digest is on file. -/
def Spent (root : StateRoot) : Prop :=
  StateRoot.present root .transactionStarted = true ∧
    ∀ fields, StateRoot.readJson root .transactionOutcome = some fields →
      popArtifactDigest fields = none

theorem Spent.capability_invalid {root : StateRoot} (h : Spent root) (scanClear : Bool) :
    capabilityValid sha generationDigest reviewedFilesDigest scanClear root = false := by
  by_contra hvalid
  obtain ⟨fields, artifact, outcome, hread, hpop, _⟩ :=
    outcomePassed_of_capabilityValid (Bool.eq_true_of_not_eq_false hvalid)
  rw [h.2 fields hread] at hpop
  simp at hpop

/-- **Step.** A spent transaction stays spent. -/
theorem Spent.laterStep {root : StateRoot} (h : Spent root) (event : LaterEvent) :
    Spent (laterStep sha root event) := by
  cases event with
  | call generationDigest reviewedFilesDigest ports fates =>
      have hstarted : StateRoot.present { root with fates } .transactionStarted = true := h.1
      have hrefused :
          ((runInitialAtomicActivation sha generationDigest reviewedFilesDigest ports).run
            { root with fates }).2 = { root with fates } :=
        (runInitialAtomicActivation_started hstarted).2
      show Spent ((runInitialAtomicActivation sha generationDigest reviewedFilesDigest
        ports).run { root with fates }).2
      rw [hrefused]
      exact h
  | other effect =>
      have hkept : ∀ file ∈ transactionFiles, (effect.apply root.files) file = root.files file :=
        effect.keeps root.files
      constructor
      · have hstarted := hkept .transactionStarted (by simp [transactionFiles])
        show ((effect.apply root.files) .transactionStarted).isSome = true
        rw [hstarted]
        exact h.1
      · intro fields hfields
        have houtcome := hkept .transactionOutcome (by simp [transactionFiles])
        refine h.2 fields ?_
        simpa only [StateRoot.readJson, G075.laterStep, houtcome] using hfields

def Unstarted (root : StateRoot) : Prop :=
  root.files .transactionStarted = none ∧ root.files .transactionOutcome = none
deriving Decidable

/-- **All or nothing.** From a state root without earlier transaction files: the
capability is valid behind the call only if its ports cleared it and `PASSED` is on
file; a call that created its marker and ended without `PASSED` on file leaves a state
root in which no capability is ever valid, whatever is called later; and a call that
ended before its marker existed has changed no file. -/
theorem activation_all_or_nothing (sha : Sha256) (generationDigest reviewedFilesDigest : Digest)
    (ports : ActivationPorts) {root : StateRoot} (hroot : Unstarted root) : let ended :=
      ((runInitialAtomicActivation sha generationDigest reviewedFilesDigest ports).run root).2
    (∀ scanClear,
      capabilityValid sha generationDigest reviewedFilesDigest scanClear ended = true →
        ports.Cleared ∧ PassedOnFile sha generationDigest reviewedFilesDigest ended) ∧
      (StateRoot.present ended .transactionStarted = true →
        ¬PassedOnFile sha generationDigest reviewedFilesDigest ended →
        ∀ (later : List LaterEvent) (generationDigest reviewedFilesDigest : Digest)
          (scanClear : Bool),
          capabilityValid sha generationDigest reviewedFilesDigest scanClear
            (after (laterStep sha) ended later) = false) ∧
      (StateRoot.present ended .transactionStarted = false → ended.files = root.files) := by
  intro ended
  have houtcome : ended.files .transactionOutcome = none ∨
      ended.files .transactionOutcome =
        some (.object (unknownOutcome generationDigest reviewedFilesDigest)) ∨
      ports.Cleared ∧ PassedOnFile sha generationDigest reviewedFilesDigest ended := by
    have h : (outcomeFrame sha generationDigest reviewedFilesDigest ports).rel root ended :=
      runInitialAtomicActivation_within root
    rcases h with hsame | hchanged
    · exact Or.inl (hsame.trans hroot.2)
    · exact Or.inr hchanged
  -- without `PASSED` the outcome on file has no artifact digest
  have hunsealed : ¬(ports.Cleared ∧ PassedOnFile sha generationDigest reviewedFilesDigest ended) →
      ∀ fields, StateRoot.readJson ended .transactionOutcome = some fields →
        popArtifactDigest fields = none := by
    intro hnot fields hfields
    rcases houtcome with hnone | hunknown | hpassed
    · simp [StateRoot.readJson, hnone] at hfields
    · simp [StateRoot.readJson, hunknown] at hfields
      subst hfields
      simp [popArtifactDigest, unknownOutcome, List.lookup]
    · exact absurd hpassed hnot
  refine ⟨fun scanClear hvalid => ?_, fun hstarted hnot later gen reviewed scanClear => ?_, ?_⟩
  · by_contra hnot
    obtain ⟨fields, artifact, outcome, hread, hpop, _⟩ :=
      outcomePassed_of_capabilityValid hvalid
    rw [hunsealed hnot fields hread] at hpop
    simp at hpop
  · have hspent : Spent ended := ⟨hstarted, hunsealed fun h => hnot h.2⟩
    have hstays : Spent (after (laterStep sha) ended later) :=
      invariant_after (C := fun _ _ => True) (fun root event h _ => h.laterStep event) hspent
        (meetsAlong_always fun _ _ => trivial)
    exact hstays.capability_invalid scanClear
  · exact runInitialAtomicActivation_unstarted

end AllOrNothing

namespace Sample

def noEffect : OtherEffect where
  apply files := files
  keeps _ _ _ := rfl

/-- The no-post operation passed for the generation `g` with the files `f`. -/
def operationResult : CanonicalText :=
  [("generation_digest", .digest ['g']), ("generation_label", .text generationLabel),
    ("reviewed_files_digest", .digest ['f']), ("status", .text "PASSED")]

def writesOperationResult : OtherEffect where
  apply files := Function.update files .operation60Result (some (.object operationResult))
  keeps files file hfile := by
    refine Function.update_of_ne ?_ ..
    rintro rfl
    simp [transactionFiles] at hfile

def emptyRoot : StateRoot where
  files _ := none

def readyRoot : StateRoot where
  files := writesOperationResult.apply fun _ => none

def clearPorts : ActivationPorts where
  reconciliationRunner :=
    { effect := noEffect, answer := .returns ⟨some .freshFlat, some (.digest ['a'])⟩ }
  armMutator := { effect := noEffect, answer := .returns () }
  armStateVerifier := { effect := noEffect, answer := .returns true }

/-- A transaction that goes through makes the capability valid. -/
theorem activation_passes :
    let ended := ((runInitialAtomicActivation .checksum ['g'] ['f'] clearPorts).run readyRoot).2
    capabilityValid .checksum ['g'] ['f'] true ended = true ∧
      clearPorts.Cleared ∧ PassedOnFile .checksum ['g'] ['f'] ended := by
  have hvalid : capabilityValid .checksum ['g'] ['f'] true
      ((runInitialAtomicActivation .checksum ['g'] ['f'] clearPorts).run readyRoot).2 = true := by
    decide +kernel
  exact ⟨hvalid, (activation_all_or_nothing .checksum ['g'] ['f'] clearPorts
    (by decide : Unstarted readyRoot)).1 true hvalid⟩

/-- A call that is refused because the no-post operation has not passed, and a call that
is killed before it writes, have ended without `PASSED` on file, and a later call makes
the capability valid. -/
theorem refused_activation_not_final :
    let refused := (runInitialAtomicActivation .checksum ['g'] ['f'] clearPorts).run emptyRoot
    let killed := (runInitialAtomicActivation .checksum ['g'] ['f'] clearPorts).run
      { readyRoot with fates := [.crashes] }
    (Unstarted emptyRoot ∧
      refused.1 = .raised (g075Error "G075_OPERATION_60_RESULT_INVALID") ∧
      ¬PassedOnFile .checksum ['g'] ['f'] refused.2 ∧
      capabilityValid .checksum ['g'] ['f'] true
        (after (laterStep .checksum) refused.2
          [.other writesOperationResult, .call ['g'] ['f'] clearPorts []]) = true) ∧
      Unstarted readyRoot ∧ killed.1 = .killed ∧
      ¬PassedOnFile .checksum ['g'] ['f'] killed.2 ∧
      capabilityValid .checksum ['g'] ['f'] true
        (after (laterStep .checksum) killed.2 [.call ['g'] ['f'] clearPorts []]) = true := by
  decide +kernel

end Sample

end FxStrategyLab.G075
