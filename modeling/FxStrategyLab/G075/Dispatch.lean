import FxStrategyLab.G075.Reconciliation

/-!
# One-shot actions and the two lifecycles

This file embeds `G075OneShotActionDispatcher`, `G075EntryDispatcher` and
`G075ExitDispatcher` of `h11_v4_g075_runtime.py`.  The action port is injected: it
answers a scope in any way.  The invocations of the port are kept in the order in
which they were made; nothing reads them.
-/

namespace FxStrategyLab.G075

open Library

/-- Source `G075Action`. -/
inductive Action
  | entry
  | protection
  | cancelProtection
  | takeProfit
  | stopLoss
  | timeExit
  | closePosition
deriving DecidableEq

def Action.value : Action → String
  | entry => "ENTRY"
  | protection => "PROTECTION"
  | cancelProtection => "CANCEL_PROTECTION"
  | takeProfit => "TAKE_PROFIT"
  | stopLoss => "STOP_LOSS"
  | timeExit => "TIME_EXIT"
  | closePosition => "CLOSE_POSITION"

/-- Source `G075ActionOutcome`. -/
inductive ActionOutcome
  | acceptedKnown
  | protectedKnown
  | flatKnown
  | unknown
deriving DecidableEq

/-- The digests that a dispatcher is bound to. -/
structure ActionBinding where
  generationDigest : Digest
  reviewedFilesDigest : Digest
  releaseCapabilityDigest : Digest
  strategyArtifactDigest : Digest
deriving DecidableEq

/-- Source `G075ActionScope`, without its constant symbol. -/
structure ActionScope where
  binding : ActionBinding
  reconciliationArtifactDigest : Digest
  cycleId : List Char
  action : Action
  quantity : Nat
  side : SignalDecision
  expiresAtUtc : Instant
  actionKey : Digest
  scopeDigest : Digest
deriving DecidableEq

/-- The text of `action_key`. -/
def actionKeyText (generationDigest : Digest) (cycleId : List Char) (action : Action)
    (reconciliationArtifactDigest : Digest) : CanonicalText :=
  [("action", .text action.value), ("cycle_id", .digest cycleId),
    ("generation_digest", .digest generationDigest),
    ("reconciliation_artifact_digest", .digest reconciliationArtifactDigest)]

variable (scope : ActionScope)

def ActionScope.canonicalJson : CanonicalText :=
  [("action", .text scope.action.value), ("action_key", .digest scope.actionKey),
    ("cycle_id", .digest scope.cycleId), ("expires_at_utc", .integer scope.expiresAtUtc),
    ("generation_digest", .digest scope.binding.generationDigest),
    ("quantity", .integer scope.quantity),
    ("reconciliation_artifact_digest", .digest scope.reconciliationArtifactDigest),
    ("release_capability_digest", .digest scope.binding.releaseCapabilityDigest),
    ("reviewed_files_digest", .digest scope.binding.reviewedFilesDigest),
    ("side", .text scope.side.value),
    ("strategy_artifact_digest", .digest scope.binding.strategyArtifactDigest),
    ("symbol", .text "USD_JPY")]

variable (sha : Sha256)

def actionScope (binding : ActionBinding) (cycleId : List Char)
    (action : Action) (side : SignalDecision) (quantity : Nat)
    (reconciliationArtifactDigest : Digest) (nowUtc : Instant) : ActionScope :=
  let base : ActionScope :=
    { binding
      reconciliationArtifactDigest
      cycleId
      action
      quantity
      side
      expiresAtUtc := nowUtc + wallSeconds 15
      actionKey :=
        sha.prefixed
          (actionKeyText binding.generationDigest cycleId action reconciliationArtifactDigest)
      scopeDigest := [] }
  { base with scopeDigest := sha.prefixed base.canonicalJson }

/-- How the action port ends. -/
inductive PortReply
  | outcome (o : ActionOutcome)
  /-- a value that is no `G075ActionOutcome` -/
  | otherValue
  /-- `V4_GMO_PRE_DISPATCH_FAILURE_NO_POST_SENT` -/
  | preDispatch
  /-- any other exception -/
  | raises (e : G075Exception)
  /-- the process dies in the call -/
  | dies
deriving DecidableEq

structure PortAttempt where
  scope : ActionScope
  reply : PortReply

/-- The state root and the invocations of the port so far. -/
structure Resident where
  root : StateRoot
  attempts : List PortAttempt := []

abbrev ResidentProcess := Process Resident G075Exception

def onRoot {α : Type} (x : RootProcess α) : ResidentProcess α :=
  x.zoom Resident.root fun root w => { w with root }

def invokePort (reply : PortReply) : ResidentProcess Unit :=
  Process.modify fun w => { w with attempts := w.attempts ++ [{ scope, reply }] }

def actionUnknown : ResidentProcess ActionOutcome := do
  onRoot (exclusiveJson (.actionResult scope.scopeDigest) .marker)
  onRoot engageHalt
  Process.raise (g075Error "G075_ACTION_RESULT_UNKNOWN_NO_RETRY")

/-- What the dispatcher makes of a reply of the port. -/
def actionReplied : PortReply → ResidentProcess ActionOutcome
  | .preDispatch => do
      onRoot (Disk.remove osError (.actionStarted scope.scopeDigest))
      Process.raise (g075Error "G075_ACTION_PRE_DISPATCH_FAILED_RETRYABLE")
  | .raises _ | .otherValue | .outcome .unknown => actionUnknown scope
  | .dies => Process.kill
  | .outcome outcome => do
      onRoot (exclusiveJson (.actionResult scope.scopeDigest) .marker)
      return outcome

/-- The one-use marker, the port and what follows its reply. -/
def dispatchScope (port : ActionScope → PortReply) (scope : ActionScope) :
    ResidentProcess ActionOutcome := do
  onRoot (exclusiveJson (.actionStarted scope.scopeDigest) .marker)
  invokePort scope (port scope)
  actionReplied scope (port scope)

def attemptOnce (binding : ActionBinding) (port : ActionScope → PortReply)
    (cycleId : List Char) (action : Action) (side : SignalDecision) (quantity : Nat)
    (reconciliationArtifactDigest : Digest) (nowUtc : Instant) :
    ResidentProcess ActionOutcome := do
  Process.require (side.Directional ∧ quantity = 1000) (g075Error "G075_ACTION_SCOPE_INVALID")
  Process.require (validDigest reconciliationArtifactDigest = true)
    (g075Error "G075_RECONCILIATION_ARTIFACT_DIGEST_INVALID")
  dispatchScope port
    (actionScope sha binding cycleId action side quantity reconciliationArtifactDigest nowUtc)

/-- Source `G075StrategyDecision`, without the artifact digest that nothing reads. -/
structure StrategyDecision where
  evaluationKnown : Bool
  strategyArtifactBound : Bool
  signalActionable : Bool
  riskClear : Bool
  marketOpen : Bool
  spreadClear : Bool
  freshnessClear : Bool
  limitsClear : Bool
  generationDigest : Digest
  reviewedFilesDigest : Digest
  side : SignalDecision
  actualPostAuthorized : Bool := false
  brokerPostAuthorized : Bool := false

def StrategyDecision.bindingValid (decision : StrategyDecision)
    (generationDigest reviewedFilesDigest : Digest) : Bool :=
  decision.evaluationKnown && decision.strategyArtifactBound &&
    decide (decision.generationDigest = generationDigest) &&
    decide (decision.reviewedFilesDigest = reviewedFilesDigest) &&
    !decision.actualPostAuthorized && !decision.brokerPostAuthorized

def StrategyDecision.gateOpen (decision : StrategyDecision)
    (generationDigest reviewedFilesDigest : Digest) : Bool :=
  decision.bindingValid generationDigest reviewedFilesDigest &&
    (decision.signalActionable && decision.riskClear && decision.marketOpen &&
      decision.spreadClear && decision.freshnessClear && decision.limitsClear)

/-- The two actions of a lifecycle: the second is begun when the first was accepted. -/
def twoActions (binding : ActionBinding) (port : ActionScope → PortReply)
    (evidence : Evidence) (side : SignalDecision) (nowUtc : Instant) (first second : Action)
    (refused : G075Exception) (finish : ActionOutcome → ResidentProcess Unit) :
    ResidentProcess Unit := do
  let opened ← attemptOnce sha binding port evidence.cycleId first side 1000
    evidence.artifactDigest nowUtc
  Process.require (opened = .acceptedKnown) refused
  let closed ← attemptOnce sha binding port evidence.cycleId second side 1000
    evidence.artifactDigest nowUtc
  finish closed

def protectionFinish (protection : ActionOutcome) : ResidentProcess Unit :=
  if protection = .protectedKnown then pure ()
  else do
    onRoot engageHalt
    Process.raise (g075Error "G075_PROTECTION_NOT_CONFIRMED")

def enterAndProtectOnce (binding : ActionBinding)
    (port : ActionScope → PortReply) (decision : StrategyDecision) (evidence : Evidence)
    (nowUtc : Instant) : ResidentProcess Unit := do
  Process.require (evidence.state = .freshFlat ∧
      decision.gateOpen evidence.generationDigest evidence.reviewedFilesDigest = true)
    (g075Error "G075_ENTRY_GATE_NOT_OPEN")
  twoActions sha binding port evidence decision.side nowUtc .entry .protection
    (g075Error "G075_ENTRY_NOT_ACCEPTED") protectionFinish

def exitOnce (binding : ActionBinding) (port : ActionScope → PortReply)
    (evidence : Evidence) (side : SignalDecision) (reason : Action) (nowUtc : Instant) :
    ResidentProcess Unit := do
  Process.require (evidence.state = .freshProtected)
    (g075Error "G075_EXIT_PROTECTION_NOT_CONFIRMED")
  Process.require (reason = .takeProfit ∨ reason = .stopLoss ∨ reason = .timeExit)
    (g075Error "G075_EXIT_REASON_INVALID")
  twoActions sha binding port evidence side nowUtc .cancelProtection .closePosition
    (g075Error "G075_EXIT_CANCEL_NOT_ACCEPTED") fun close =>
      Process.require (close = .flatKnown) (g075Error "G075_EXIT_NOT_FLAT")

section Attempts

variable {sha : Sha256} {binding : ActionBinding} {port : ActionScope → PortReply}
variable {scope : ActionScope} {reply : PortReply}

variable {α : Type}

theorem onRoot_within {F : Frame StateRoot} {x : RootProcess α} (h : Within F x) :
    Within (F.through Resident.root) (onRoot x) :=
  Within.zoom (fun _ _ => rfl) h

def attemptsKept : Frame Resident :=
  Frame.fixes Resident.attempts

theorem onRoot_attempts (x : RootProcess α) : Within attemptsKept (onRoot x) :=
  fun _ => rfl

theorem run_onRoot (x : RootProcess α) (w : Resident) :
    (onRoot x).run w = ((x.run w.root).1, { w with root := (x.run w.root).2 }) :=
  rfl

theorem actionUnknown_grows : Within (Disk.grows.through Resident.root) (actionUnknown scope) :=
  (onRoot_within exclusiveJson_grows).bind fun _ =>
    (onRoot_within engageHalt_grows).bind fun _ => Within.raise _

theorem actionUnknown_attempts : Within attemptsKept (actionUnknown scope) :=
  (onRoot_attempts _).bind fun _ => (onRoot_attempts _).bind fun _ => Within.raise _

theorem actionReplied_grows (hreply : reply ≠ .preDispatch) :
    Within (Disk.grows.through Resident.root) (actionReplied scope reply) := by
  cases reply with
  | preDispatch => exact absurd rfl hreply
  | raises e => exact actionUnknown_grows
  | otherValue => exact actionUnknown_grows
  | dies => exact fun w => Disk.grows.refl w.root
  | outcome o =>
      have hknown : Within (Disk.grows.through Resident.root) (do
          onRoot (exclusiveJson (.actionResult scope.scopeDigest) .marker)
          return o : ResidentProcess ActionOutcome) :=
        (onRoot_within exclusiveJson_grows).bind fun _ => Within.pure _
      cases o with
      | unknown => exact actionUnknown_grows
      | acceptedKnown => exact hknown
      | protectedKnown => exact hknown
      | flatKnown => exact hknown

variable {file : StateFile}

theorem actionReplied_keepsPresent (hfile : file ≠ .actionStarted scope.scopeDigest) :
    Within ((Disk.keepsPresent file).through Resident.root) (actionReplied scope reply) := by
  by_cases hreply : reply = .preDispatch
  · subst hreply
    have hremoved : Within (Disk.keepsPresent file)
        (Disk.remove osError (.actionStarted scope.scopeDigest) : RootProcess Unit) :=
      Disk.keepsPresent_of_keepsFile (Disk.remove_keepsFile hfile)
    exact (onRoot_within hremoved).bind fun _ => Within.raise _
  · exact fun w => actionReplied_grows hreply w file

theorem actionReplied_attempts : Within attemptsKept (actionReplied scope reply) := by
  cases reply with
  | preDispatch => exact (onRoot_attempts _).bind fun _ => Within.raise _
  | raises e => exact actionUnknown_attempts
  | otherValue => exact actionUnknown_attempts
  | dies => exact fun w => rfl
  | outcome o =>
      cases o with
      | unknown => exact actionUnknown_attempts
      | acceptedKnown => exact (onRoot_attempts _).bind fun _ => Within.pure _
      | protectedKnown => exact (onRoot_attempts _).bind fun _ => Within.pure _
      | flatKnown => exact (onRoot_attempts _).bind fun _ => Within.pure _

theorem actionUnknown_keepsFile (hhalt : file ≠ .persistentHalt)
    (hresult : file ≠ .actionResult scope.scopeDigest) :
    Within ((Disk.keepsFile file).through Resident.root) (actionUnknown scope) :=
  (onRoot_within (exclusiveJson_keepsFile hresult)).bind fun _ =>
    (onRoot_within (engageHalt_keepsFile hhalt)).bind fun _ => Within.raise _

theorem actionReplied_keepsFile (hhalt : file ≠ .persistentHalt)
    (hstarted : file ≠ .actionStarted scope.scopeDigest)
    (hresult : file ≠ .actionResult scope.scopeDigest) :
    Within ((Disk.keepsFile file).through Resident.root) (actionReplied scope reply) := by
  have hunknown : Within ((Disk.keepsFile file).through Resident.root) (actionUnknown scope) :=
    actionUnknown_keepsFile hhalt hresult
  cases reply with
  | preDispatch =>
      exact (onRoot_within (Disk.remove_keepsFile hstarted)).bind fun _ => Within.raise _
  | raises e => exact hunknown
  | otherValue => exact hunknown
  | dies => exact fun w => rfl
  | outcome o =>
      cases o with
      | unknown => exact hunknown
      | acceptedKnown | protectedKnown | flatKnown =>
          exact (onRoot_within (exclusiveJson_keepsFile hresult)).bind fun _ => Within.pure _

variable {w w' : Resident}

theorem actionReplied_returned {o : ActionOutcome}
    (h : (actionReplied scope reply).run w = (.returned o, w')) : reply = .outcome o := by
  have hunknown : ∀ w w' o, (actionUnknown scope).run w ≠ (.returned o, w') := by
    intro w w' o h
    obtain ⟨_, _, _, h⟩ := Process.run_bind_eq_returned.mp h
    obtain ⟨_, _, _, h⟩ := Process.run_bind_eq_returned.mp h
    cases h
  cases reply with
  | preDispatch =>
      obtain ⟨_, _, _, h⟩ := Process.run_bind_eq_returned.mp h
      cases h
  | raises e => exact absurd h (hunknown _ _ _)
  | otherValue => exact absurd h (hunknown _ _ _)
  | dies => cases h
  | outcome o' =>
      cases o' with
      | unknown => exact absurd h (hunknown _ _ _)
      | acceptedKnown | protectedKnown | flatKnown =>
          obtain ⟨_, _, _, h⟩ := Process.run_bind_eq_returned.mp h
          cases h
          rfl

/-- An attempt whose marker was free has invoked the port once; the marker stays unless
the failure is retryable. -/
structure Invoked (port : ActionScope → PortReply) (scope : ActionScope) (w w' : Resident) :
    Prop where
  free : w.root.files (.actionStarted scope.scopeDigest) = none
  attempts : w'.attempts = w.attempts ++ [{ scope, reply := port scope }]
  marked : port scope ≠ .preDispatch →
    StateRoot.present w'.root (.actionStarted scope.scopeDigest) = true

/-- How an attempt ends: no file has disappeared, and it was refused or has invoked
the port. -/
structure AttemptEnds (port : ActionScope → PortReply) (scope : ActionScope)
    (w w' : Resident) (o : Outcome G075Exception ActionOutcome) : Prop where
  grows : Disk.grows.rel w.root w'.root
  evidence : w'.root.files .reconciliation = w.root.files .reconciliation
  invoked : (w'.attempts = w.attempts ∧ ∀ x, o ≠ .returned x) ∨
    (Invoked port scope w w' ∧ ∀ x, o = .returned x → port scope = .outcome x)

theorem AttemptEnds.refused (w : Resident) (e : G075Exception) :
    AttemptEnds port scope w w (.raised e) where
  grows := Disk.grows.refl _
  evidence := rfl
  invoked := Or.inl ⟨rfl, fun _ h => by cases h⟩

theorem dispatchScope_ends {o : Outcome G075Exception ActionOutcome}
    (h : (dispatchScope port scope).run w = (o, w')) : AttemptEnds port scope w w' o := by
  unfold dispatchScope at h
  rw [Process.run_bind, run_onRoot] at h
  rcases hcreate : (exclusiveJson (.actionStarted scope.scopeDigest) .marker).run w.root with
    ⟨created, root⟩
  have hgrows : Disk.grows.rel w.root root := exclusiveJson_grows.rel hcreate
  have hevidence : root.files .reconciliation = w.root.files .reconciliation :=
    (exclusiveJson_keepsFile (by simp)).rel hcreate
  rw [hcreate] at h
  cases created with
  | raised e =>
      cases h
      exact ⟨hgrows, hevidence, Or.inl ⟨rfl, fun _ h => by cases h⟩⟩
  | killed =>
      cases h
      exact ⟨hgrows, hevidence, Or.inl ⟨rfl, fun _ h => by cases h⟩⟩
  | returned u =>
      obtain ⟨hfree, hfiles⟩ := Disk.createExclusive_returned hcreate
      have hmarked : StateRoot.present root (.actionStarted scope.scopeDigest) = true := by
        simp [StateRoot.present, hfiles]
      dsimp only at h
      have hreply : (actionReplied scope (port scope)).run
          { root, attempts := w.attempts ++ [{ scope, reply := port scope }] } = (o, w') := h
      have hrest : ∀ file, file ≠ .actionStarted scope.scopeDigest →
          StateRoot.present root file = true → StateRoot.present w'.root file = true :=
        fun file hfile => (actionReplied_keepsPresent hfile).rel hreply
      refine ⟨fun file hpresent => ?_, ?_, Or.inr ⟨⟨hfree, ?_, fun hretry => ?_⟩, fun x hx => ?_⟩⟩
      · refine hrest file (fun hfile => ?_) (hgrows file hpresent)
        subst hfile
        rw [hfree] at hpresent
        cases hpresent
      · have hkept : w'.root.files .reconciliation = root.files .reconciliation :=
          (actionReplied_keepsFile (by simp) (by simp) (by simp)).rel hreply
        exact hkept.trans hevidence
      · exact actionReplied_attempts.rel hreply
      · exact (actionReplied_grows hretry).rel hreply _ hmarked
      · subst hx
        exact actionReplied_returned hreply

def Admitted (side : SignalDecision) (reconciliationArtifactDigest : Digest) : Prop :=
  side.Directional ∧ validDigest reconciliationArtifactDigest = true
deriving Decidable

variable {cycleId : List Char} {action : Action} {side : SignalDecision} {artifact : Digest}
variable {nowUtc : Instant}

theorem attemptOnce_admitted (h : Admitted side artifact) (w : Resident) :
    (attemptOnce sha binding port cycleId action side 1000 artifact nowUtc).run w =
      (dispatchScope port
        (actionScope sha binding cycleId action side 1000 artifact nowUtc)).run w := by
  unfold attemptOnce
  rw [Process.run_require_bind ⟨h.1, rfl⟩, Process.run_require_bind h.2]

theorem attemptOnce_refused (sha : Sha256) (binding : ActionBinding)
    (port : ActionScope → PortReply) (cycleId : List Char) (action : Action)
    (nowUtc : Instant) (h : ¬Admitted side artifact) (w : Resident) :
    ∃ e, (attemptOnce sha binding port cycleId action side 1000 artifact nowUtc).run w =
      (.raised e, w) ∧ e.errorClass = .g075 := by
  unfold attemptOnce
  by_cases hside : side.Directional
  · rw [Process.run_require_bind ⟨hside, rfl⟩,
      Process.run_require_bind_not (fun hdigest => h ⟨hside, hdigest⟩)]
    exact ⟨_, rfl, rfl⟩
  · rw [Process.run_require_bind_not (fun hguard => hside hguard.1)]
    exact ⟨_, rfl, rfl⟩

theorem attemptOnce_ends {o : Outcome G075Exception ActionOutcome}
    (h : (attemptOnce sha binding port cycleId action side 1000 artifact nowUtc).run w =
      (o, w')) :
    AttemptEnds port (actionScope sha binding cycleId action side 1000 artifact nowUtc)
      w w' o := by
  by_cases hadmitted : Admitted side artifact
  · rw [attemptOnce_admitted hadmitted] at h
    exact dispatchScope_ends h
  · obtain ⟨e, hrefused, _⟩ :=
      attemptOnce_refused sha binding port cycleId action nowUtc hadmitted w
    rw [hrefused] at h
    cases h
    exact AttemptEnds.refused _ _

end Attempts

end FxStrategyLab.G075
