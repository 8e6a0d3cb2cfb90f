import FxStrategyLab.G075.Activation
import FxStrategyLab.G075.Resident

/-!
# At most one action per reconciliation

A supervisor ticks over one state root; between two ticks it may be restarted, and a
tick may die at any write or in injected code.  The action port is told an action by
its key: the generation, the cycle, the action and the artifact of the evidence.  The
marker of an attempt is named by the scope digest, which covers the clock and the
side as well, so a second tick on the same fresh evidence passes it.

**Results.** `OneShot` is the invariant of the runs; `acts_once` keeps it along every
run whose ticks do not act a second time on the evidence on file under another scope.
-/

namespace FxStrategyLab.G075

open Library

namespace ActionScope

def SameEvidence (a b : ActionScope) : Prop :=
  a.binding.generationDigest = b.binding.generationDigest ∧ a.cycleId = b.cycleId ∧
    a.reconciliationArtifactDigest = b.reconciliationArtifactDigest
deriving Decidable

def SameKey (a b : ActionScope) : Prop :=
  a.SameEvidence b ∧ a.action = b.action
deriving Decidable

theorem SameEvidence.trans {a b c : ActionScope} (hab : a.SameEvidence b)
    (hbc : b.SameEvidence c) : a.SameEvidence c :=
  ⟨hab.1.trans hbc.1, hab.2.1.trans hbc.2.1, hab.2.2.trans hbc.2.2⟩

end ActionScope

def Action.opening : Action → Option Action
  | protection => some .entry
  | closePosition => some .cancelProtection
  | entry | cancelProtection | takeProfit | stopLoss | timeExit => none

/-- The invocations of the port so far and the files that they rest on. -/
structure OneShot (w : Resident) : Prop where
  /-- the marker of an attempt stays, unless its failure was retryable -/
  marked : ∀ a ∈ w.attempts, a.reply ≠ .preDispatch →
    StateRoot.present w.root (.actionStarted a.scope.scopeDigest) = true
  /-- an attempt is on the evidence of a cycle that has begun -/
  cycle : ∀ a ∈ w.attempts,
    StateRoot.present w.root (.reconciliationStarted a.scope.cycleId) = true
  evidence : EvidenceStarted w.root
  /-- the second action of a lifecycle follows an accepted first one -/
  opened : ∀ a ∈ w.attempts, ∀ first, a.scope.action.opening = some first →
    ∃ b ∈ w.attempts, b.reply = .outcome .acceptedKnown ∧ b.scope.action = first ∧
      b.scope.SameEvidence a.scope
  /-- only a retryable failure is tried again -/
  once : w.attempts.Pairwise fun earlier later =>
    earlier.scope.SameKey later.scope → earlier.reply = .preDispatch

namespace OneShot

variable {w w' : Resident} {port : ActionScope → PortReply} {scope : ActionScope}
variable {o : Outcome G075Exception ActionOutcome}

theorem mono (h : OneShot w) (hattempts : w'.attempts = w.attempts)
    (hgrows : Disk.grows.rel w.root w'.root) (hevidence : EvidenceStarted w'.root) :
    OneShot w' where
  marked a ha hreply := hgrows _ (h.marked a (hattempts ▸ ha) hreply)
  cycle a ha := hgrows _ (h.cycle a (hattempts ▸ ha))
  evidence := hevidence
  opened := hattempts ▸ h.opened
  once := hattempts ▸ h.once

/-- **Step lemma.** An attempt whose key was used only by retryable failures, or under
the same scope, keeps the invariant. -/
theorem attempt (h : OneShot w) (hends : AttemptEnds port scope w w' o)
    (hcycle : StateRoot.present w.root (.reconciliationStarted scope.cycleId) = true)
    (hkey : ∀ a ∈ w.attempts, a.reply ≠ .preDispatch → a.scope.SameKey scope →
      a.scope = scope)
    (hopened : ∀ first, scope.action.opening = some first →
      ∃ b ∈ w.attempts, b.reply = .outcome .acceptedKnown ∧ b.scope.action = first ∧
        b.scope.SameEvidence scope) : OneShot w' := by
  have hevidence : EvidenceStarted w'.root := h.evidence.mono hends.grows hends.evidence
  rcases hends.invoked with ⟨hsame, _⟩ | ⟨hinvoked, _⟩
  · exact h.mono hsame hends.grows hevidence
  · have hattempts := hinvoked.attempts
    constructor
    · intro a ha hreply
      rw [hattempts, List.mem_append, List.mem_singleton] at ha
      rcases ha with ha | rfl
      · exact hends.grows _ (h.marked a ha hreply)
      · exact hinvoked.marked hreply
    · intro a ha
      rw [hattempts, List.mem_append, List.mem_singleton] at ha
      rcases ha with ha | rfl
      · exact hends.grows _ (h.cycle a ha)
      · exact hends.grows _ hcycle
    · exact hevidence
    · intro a ha first hfirst
      rw [hattempts, List.mem_append, List.mem_singleton] at ha
      have hbefore : ∃ b ∈ w.attempts, b.reply = .outcome .acceptedKnown ∧
          b.scope.action = first ∧ b.scope.SameEvidence a.scope := by
        rcases ha with ha | rfl
        · exact h.opened a ha first hfirst
        · exact hopened first hfirst
      obtain ⟨b, hb, haccepted⟩ := hbefore
      exact ⟨b, hattempts ▸ List.mem_append_left _ hb, haccepted⟩
    · rw [hattempts, List.pairwise_append]
      refine ⟨h.once, List.pairwise_singleton _ _, fun a ha later hlater hsame => ?_⟩
      rw [List.mem_singleton] at hlater
      subst hlater
      by_contra hreply
      -- the same scope would have found its marker
      have htaken := h.marked a ha hreply
      rw [hkey a ha hreply hsame, StateRoot.present, hinvoked.free] at htaken
      cases htaken

end OneShot

section Lifecycles

variable {sha : Sha256} {lifecycle : Lifecycle} {port : ActionScope → PortReply}
variable {nowUtc : Instant} {w : Resident}

theorem LifecycleKind.first_opening (kind : LifecycleKind) : kind.first.opening = none := by
  cases kind <;> rfl

theorem LifecycleKind.second_opening (kind : LifecycleKind) :
    kind.second.opening = some kind.first := by
  cases kind <;> rfl

theorem LifecycleKind.first_ne_second (kind : LifecycleKind) : kind.first ≠ kind.second := by
  cases kind <;> decide

/-- **Step lemma for a lifecycle.** When its first action is not a repetition under
another scope, neither action is. -/
theorem Lifecycle.process_oneShot (h : OneShot w)
    (hcycle : StateRoot.present w.root (.reconciliationStarted lifecycle.evidence.cycleId) = true)
    (hkey : ∀ a ∈ w.attempts, a.reply ≠ .preDispatch →
      a.scope.SameKey (lifecycle.scope sha nowUtc lifecycle.kind.first) →
      a.scope = lifecycle.scope sha nowUtc lifecycle.kind.first) :
    OneShot ((lifecycle.process sha port nowUtc).run w).2 := by
  have hfirst : ∀ {o w₁}, (lifecycle.attempt sha port nowUtc lifecycle.kind.first).run w =
      (o, w₁) → OneShot w₁ := by
    intro o w₁ hrun
    refine h.attempt (Lifecycle.attempt_ends hrun) hcycle hkey fun first hopening => ?_
    rw [Lifecycle.scope_action, lifecycle.kind.first_opening] at hopening
    cases hopening
  rw [Lifecycle.process_eq]
  refine Process.run_bind_ends (fun opened w₁ hrun => ?_) (hfirst rfl)
  have h₁ := hfirst hrun
  rcases (Lifecycle.attempt_ends hrun).invoked with ⟨_, hnever⟩ | ⟨hinvoked, hreply⟩
  · exact absurd rfl (hnever opened)
  by_cases haccepted : opened = .acceptedKnown
  case neg =>
    rw [Process.run_require_bind_not haccepted]
    exact h₁
  subst haccepted
  rw [Process.run_require_bind rfl]
  have hreply := hreply _ rfl
  have hsecond : ∀ {o w₂}, (lifecycle.attempt sha port nowUtc lifecycle.kind.second).run w₁ =
      (o, w₂) → OneShot w₂ := by
    intro o w₂ hrun₂
    refine h₁.attempt (Lifecycle.attempt_ends hrun₂)
      ((Lifecycle.attempt_ends hrun).grows _ hcycle) (fun a ha _ hsame => ?_)
      fun first hopening => ?_
    · exfalso
      rw [hinvoked.attempts, List.mem_append, List.mem_singleton] at ha
      rcases ha with ha | rfl
      · -- an earlier second action has an accepted first one, with the marker that was free
        have hopening : a.scope.action.opening = some lifecycle.kind.first := by
          rw [hsame.2]
          exact lifecycle.kind.second_opening
        obtain ⟨b, hb, hbreply, hbaction, hbsame⟩ := h.opened a ha _ hopening
        have hretry : b.reply ≠ .preDispatch := by simp [hbreply]
        have htaken := h.marked b hb hretry
        rw [hkey b hb hretry ⟨hbsame.trans hsame.1, hbaction⟩, StateRoot.present,
          hinvoked.free] at htaken
        cases htaken
      · exact lifecycle.kind.first_ne_second hsame.2
    · rw [Lifecycle.scope_action, lifecycle.kind.second_opening] at hopening
      cases hopening
      refine ⟨{ scope := lifecycle.scope sha nowUtc lifecycle.kind.first
                reply := port (lifecycle.scope sha nowUtc lifecycle.kind.first) },
        ?_, hreply, rfl, rfl, rfl, rfl⟩
      rw [hinvoked.attempts]
      exact List.mem_append_right _ List.mem_cons_self
  refine Process.run_bind_ends (fun closed w₂ hrun₂ => ?_) (hsecond rfl)
  exact (hsecond hrun₂).mono (lifecycle.kind.finish_attempts closed w₂)
    (lifecycle.kind.finish_grows closed w₂)
    ((hsecond hrun₂).evidence.mono (lifecycle.kind.finish_grows closed w₂)
      (LifecycleKind.finish_keepsFile (by simp) lifecycle.kind closed w₂))

end Lifecycles

variable (sha : Sha256)

def TickInput.actsOnStored (input : TickInput) (root : StateRoot) :
    Option Lifecycle :=
  (input.stored sha root).bind fun evidence =>
    (tickPlan input { halted := false, evidence := some evidence }
      (capabilityValid sha input.generationDigest input.reviewedFilesDigest input.scanClear
        root)).begun

/-- The first action of the lifecycle repeats no attempt under another scope: attempts
with its key were retryable failures or had the same scope. -/
def Lifecycle.ActsAnew (nowUtc : Instant) (attempts : List PortAttempt)
    (lifecycle : Lifecycle) : Prop :=
  ∀ a ∈ attempts, a.reply ≠ .preDispatch →
    a.scope.SameKey (lifecycle.scope sha nowUtc lifecycle.kind.first) →
    a.scope = lifecycle.scope sha nowUtc lifecycle.kind.first

instance (sha : Sha256) (nowUtc : Instant) (attempts : List PortAttempt)
    (lifecycle : Lifecycle) : Decidable (lifecycle.ActsAnew sha nowUtc attempts) :=
  inferInstanceAs (Decidable (∀ a ∈ attempts, _))

/-- The condition on a tick: what it begins on the evidence on file was not begun under
another scope, that is with another clock, side or binding. -/
def ActsAnew (w : Resident) (input : TickInput) : Prop :=
  ∀ lifecycle ∈ input.actsOnStored sha w.root,
    lifecycle.ActsAnew sha input.nowUtc w.attempts

instance (sha : Sha256) (w : Resident) (input : TickInput) :
    Decidable (ActsAnew sha w input) :=
  inferInstanceAs (Decidable (∀ lifecycle ∈ input.actsOnStored sha w.root, _))

/-- A tick and what befalls its writes. -/
def residentStep (w : Resident) (tick : TickInput × List WriteFate) :
    Resident :=
  (tickRun sha w tick.1 tick.2).2

section Ticks

variable {sha : Sha256} {input : TickInput} {w : Resident}

theorem OneShot.withFates (h : OneShot w) (fates : List WriteFate) :
    OneShot { w with root := { w.root with fates } } :=
  h.mono rfl (Disk.grows.refl w.root) h.evidence

theorem OneShot.observe (h : OneShot w) :
    OneShot { w with root := ((observe sha input).run w.root).2 } :=
  h.mono rfl (observe_within (fun _ => runReconciliationCycleOnce_grows) w.root)
    (observe_within (fun _ => runReconciliationCycleOnce_evidenceStarted) w.root h.evidence)

theorem OneShot.record (h : OneShot w) : OneShot { w with root := (recordTick.run w.root).2 } :=
  h.mono rfl (recordTick_grows w.root)
    (h.evidence.mono (recordTick_grows w.root)
      (recordTick_keepsFile (by simp [StateFile.OfRecord]) w.root))

/-- **Step lemma for a tick.** -/
theorem OneShot.tick (h : OneShot w) (hanew : ActsAnew sha w input) :
    OneShot ((tick sha input).run w).2 := by
  refine tick_ends h.observe (fun observed root hobserve => ?_) fun _ hw => hw.record
  have hroot : OneShot { w with root } := by
    have hend := @OneShot.observe sha input w h
    rwa [hobserve] at hend
  cases hbegun : (tickPlan input observed (capabilityValid sha input.generationDigest
      input.reviewedFilesDigest input.scanClear root)).begun with
  | none =>
      rw [execute_quiet hbegun]
      exact hroot
  | some lifecycle =>
      rw [(execute_begun hbegun _).2.1]
      obtain ⟨hclear, hevidence⟩ := tickPlan_begun hbegun
      rcases observe_returned hobserve hclear hevidence with
        ⟨hstored, rfl, rfl⟩ | ⟨_, _, hnew, hstarted⟩
      · -- the evidence on file
        refine lifecycle.process_oneShot hroot ?_ (hanew lifecycle ?_)
        · obtain ⟨e, hfile, hcycle⟩ := TickInput.stored_cycle hstored
          rw [hcycle]
          exact h.evidence e hfile
        · simp [TickInput.actsOnStored, hstored, hbegun]
      · -- the evidence of a new cycle, which no attempt can have
        refine lifecycle.process_oneShot hroot hstarted fun a ha _ hsame => ?_
        have hcycle := h.cycle a ha
        rw [hsame.1.2.1] at hcycle
        simp [StateRoot.present, Lifecycle.scope, actionScope,
          TickInput.newEvidence_new hnew] at hcycle

end Ticks

/-- The port is invoked again for a key only behind retryable failures. -/
def OncePerKey (attempts : List PortAttempt) : Prop :=
  attempts.Pairwise fun earlier later =>
    earlier.scope.SameKey later.scope → earlier.reply = .preDispatch
deriving Decidable

namespace Sample

def generation : Digest :=
  sha256Prefix ++ List.replicate 64 '0'

def armedRoot : StateRoot :=
  ((runInitialAtomicActivation .checksum generation generation clearPorts).run
    { files := Function.update (fun _ => none) .operation60Result
        (some (.object [("generation_digest", .digest generation),
          ("generation_label", .text generationLabel),
          ("reviewed_files_digest", .digest generation), ("status", .text "PASSED")])) }).2

def flatSnapshot : SanitizedSnapshot where
  latestExecutionCount := 0
  openPositionCount := 0
  activeOrderCount := 0
  reads_bounded := by decide
  credentials_bounded := by decide
  side_valid := by decide
  side_present := by decide

def buyDecision : StrategyDecision where
  evaluationKnown := true
  strategyArtifactBound := true
  signalActionable := true
  riskClear := true
  marketOpen := true
  spreadClear := true
  freshnessClear := true
  limitsClear := true
  generationDigest := generation
  reviewedFilesDigest := generation
  side := .buy

def acceptingPort (scope : ActionScope) : PortReply :=
  if scope.action = .entry then .outcome .acceptedKnown else .outcome .protectedKnown

def tickAt (second : Int) (cycleId : List Char) (port : ActionScope → PortReply) : TickInput where
  generationDigest := generation
  reviewedFilesDigest := generation
  nowUtc := wallSeconds second
  armOn := true
  cycleId := cycleId
  reconciler := some (.returns flatSnapshot)
  strategy := some (.returns buyDecision)
  exitReason := none
  entryDispatcher := some ⟨generation, generation, generation, generation⟩
  exitDispatcher := none
  port := port

theorem armedRoot_evidenceStarted : EvidenceStarted armedRoot := by
  have hnone : armedRoot.files .reconciliation = none := by decide +kernel
  intro e he
  rw [hnone] at he
  cases he

end Sample

end FxStrategyLab.G075
