import FxStrategyLab.Coordinator.Admission
import FxStrategyLab.Path.PostOrder
import FxStrategyLab.Path.Runs

/-!
# No dispatched POST is forgotten

The three `perform` methods commit their attempt and then run their body under
one handler.  However the body ends, once the transport has counted a POST as
dispatched the ledger either shows its rejection or is latched.
-/

namespace FxStrategyLab

open Library

variable {β : Type}

/-- The ledger shows that the outcome is recorded: a rejection leaves nothing
pending, any other outcome latches the halt. -/
def PathWorld.outcomeRecorded (w : PathWorld β) (outcome : V4GmoPrivateOutcome) : Prop :=
  outcome = .rejectedSanitized ∧ w.store.ledger.pendingTransportAttempt = none ∨
    w.store.ledger.unknownHaltLatched = true

/-- What holds when a method that dispatches has ended: a dispatched POST is
rejected on record or the halt is latched, and a failure before any POST is
reported only when the counter stands still, unless foreign code raised the
report itself. -/
structure DispatchAccounted (w : PathWorld β) (o : Outcome V4Error V4GmoPrivateOutcome)
    (w' : PathWorld β) : Prop where
  dispatched : w.transport.postsDispatched < w'.transport.postsDispatched →
    (o = .returned .rejectedSanitized ∧
      w'.store.ledger.pendingTransportAttempt = none) ∨
      w'.store.ledger.unknownHaltLatched = true
  reported : ∀ e, o = .raised e → e.reportsPreDispatch →
    w'.transport.postsDispatched = w.transport.postsDispatched ∨ .raises e ∈ w.incidents

/-- What a method does before it commits its attempt. -/
def haltsAndBinds : PathEffects where
  allowed w := w = .haltLatched ∨ ∃ generation, w = .bindGeneration generation
  posting := False
  saving := False

/-- What the commit of the attempt does. -/
def recording : PathEffects where
  allowed _ := True
  posting := False
  saving := False

/-- What a method does after that. -/
def dispatching : PathEffects where
  allowed w := w = .haltLatched ∨
    ∃ cycleRef action outcome, w = .transportOutcome cycleRef action outcome
  posting := True
  saving := True

def RecordsOnReturn (x : Path β V4GmoPrivateOutcome) : Prop :=
  ∀ w outcome w', x.run w = (.returned outcome, w') → w'.outcomeRecorded outcome

/-- The process ends early, or commits the attempt of the plan with one of the `record`
methods and dispatches it under the handler. -/
inductive Prepares (path : V4GmoCoordinatedActualPath β) (plan : V4GmoActionPlan) :
    Path β V4GmoPrivateOutcome → Prop
  | early {x : Path β V4GmoPrivateOutcome} (hsilent : Path.Silent x)
      (hwithin : Within (pathChange path.sha haltsAndBinds) x) : Prepares path plan x
  | step {α : Type} {x : Path β α} {f : α → Path β V4GmoPrivateOutcome}
      (hsilent : Path.Silent x) (hwithin : Within (pathChange path.sha haltsAndBinds) x)
      (hf : ∀ a, Prepares path plan (f a)) : Prepares path plan (x >>= f)
  | dispatch {record : Store V4PreparedAttempt}
      {body : V4PreparedAttempt → Path β V4GmoPrivateOutcome}
      (hrecord : RecordsAttempt path.sha plan record) (herrors : StoreErrors record)
      (hstore : Within (storeWrites path.sha fun _ => True) record)
      (hsilent : ∀ attempt, Path.Silent (body attempt))
      (hwithin : ∀ attempt, Within (pathChange path.sha dispatching) (body attempt))
      (hposts : ∀ attempt,
        Within ((postsFor plan).through PathWorld.transport) (body attempt))
      (hrecorded : ∀ attempt, RecordsOnReturn (body attempt)) :
      Prepares path plan
        (Path.onStore record >>= fun attempt =>
          V4GmoCoordinatedActualPath.dispatchPrepared plan attempt (body attempt))

theorem Prepares.ite {path : V4GmoCoordinatedActualPath β} {plan : V4GmoActionPlan}
    {c : Prop} [Decidable c] {x y : Path β V4GmoPrivateOutcome}
    (hx : Prepares path plan x) (hy : Prepares path plan y) :
    Prepares path plan (if c then x else y) := by
  split
  · exact hx
  · exact hy

namespace V4GmoCoordinatedActualPath

open Path

variable (path : V4GmoCoordinatedActualPath β)

variable {α γ : Type}

theorem onStore_query_cases (f : Ledger → α) (w : PathWorld β) :
    ((onStore (query f)).run w).1 = .killed ∨
      ∃ s, (onStore (query f)).run w =
          (.returned (f s.ledger), { w with store := s }) ∧
        s.ledger = w.store.ledgerAtStart := by
  rw [onStore, Process.run_attempt, Process.run_zoom]
  rcases hr : (query f).run w.store with ⟨o, s⟩
  cases o with
  | returned a =>
      right
      obtain ⟨-, l, hok, rfl⟩ := run_transact_eq_returned.mp hr
      cases hok
      exact ⟨{ w.store with
        ledger := w.store.ledgerAtStart
        agenda := w.store.agenda.tail }, rfl, rfl⟩
  | raised e =>
      exfalso
      rw [Process.run] at hr
      unfold query transact at hr
      split at hr <;> cases hr
  | killed => exact Or.inl rfl

theorem onStore_engageUnknownHalt_cases (w : PathWorld β) :
    ((onStore engageUnknownHalt).run w).1 = .killed ∨
      ∃ s, (onStore engageUnknownHalt).run w = (.returned (), { w with store := s }) ∧
        s.ledger.unknownHaltLatched = true := by
  rw [onStore, Process.run_attempt, Process.run_zoom]
  rcases hr : engageUnknownHalt.run w.store with ⟨o, s⟩
  cases o with
  | returned a =>
      right
      obtain ⟨-, l, hok, rfl⟩ := run_transact_eq_returned.mp hr
      cases hok
      exact ⟨_, rfl, rfl⟩
  | raised e =>
      exfalso
      rw [Process.run] at hr
      unfold engageUnknownHalt transact at hr
      split at hr <;> cases hr
  | killed => exact Or.inl rfl

variable {w w' : PathWorld β}

theorem run_bind_killed {x : Path β α} {f : α → Path β γ}
    {o : Outcome V4Error γ} (hx : (x.run w).1 = .killed)
    (hrun : (x >>= f).run w = (o, w')) : o = .killed := by
  rw [Process.run_bind] at hrun
  rcases hr : x.run w with ⟨ox, w₁⟩
  rw [hr] at hrun hx
  dsimp only at hx
  subst hx
  cases hrun
  rfl

theorem dispatchGuarded_accounted {body : Path β V4GmoPrivateOutcome} (hsilent : Silent body)
    (hcounts : ∀ w, w.transport.postsDispatched ≤ (body.run w).2.transport.postsDispatched)
    (hrecorded : ∀ w outcome w', body.run w = (.returned outcome, w') →
      w'.outcomeRecorded outcome)
    {o : Outcome V4Error V4GmoPrivateOutcome}
    (hrun : (dispatchGuarded w.transport.postsDispatched body).run w = (o, w'))
    (hended : o ≠ .killed) : DispatchAccounted w o w' := by
  unfold dispatchGuarded at hrun
  rw [Process.run_attempt] at hrun
  have hcount := hcounts w
  rcases hbody : body.run w with ⟨ob, w₁⟩
  rw [hbody] at hrun hcount
  dsimp only at hcount
  cases ob with
  | returned outcome =>
      cases hrun
      refine ⟨fun _ => ?_, fun e he => nomatch he⟩
      rcases hrecorded _ _ _ hbody with ⟨rfl, hnone⟩ | hhalt
      · exact Or.inl ⟨rfl, hnone⟩
      · exact Or.inr hhalt
  | killed =>
      cases hrun
      exact absurd rfl hended
  | raised e =>
      have hforeign := hsilent.raised _ _ _ hbody
      dsimp only at hrun
      rcases onStore_query_cases Ledger.unknownHaltLatched w₁ with hkilled | ⟨s, hquery, -⟩
      · exact absurd (run_bind_killed hkilled hrun) hended
      rw [Process.run_bind_returned (x := onStore unknownHaltLatched) hquery] at hrun
      by_cases hhalt : s.ledger.unknownHaltLatched = true
      · -- the failure is passed on under the latched halt
        rw [if_pos hhalt] at hrun
        cases hrun
        exact ⟨fun _ => Or.inr hhalt, fun e' he hreports =>
          Or.inr (Outcome.raised.inj he ▸ hforeign (Outcome.raised.inj he ▸ hreports))⟩
      rw [if_neg hhalt, Process.run_gets_bind] at hrun
      dsimp only at hrun
      by_cases hlt : w.transport.postsDispatched < w₁.transport.postsDispatched
      · -- a POST was dispatched and its outcome is unknown
        rw [if_pos hlt] at hrun
        rcases onStore_engageUnknownHalt_cases { w₁ with store := s } with
          hkilled | ⟨s', hengage, hlatched⟩
        · exact absurd (run_bind_killed hkilled hrun) hended
        · rw [Process.run_bind_returned hengage] at hrun
          cases hrun
          exact ⟨fun _ => Or.inr hlatched, fun e' he hreports =>
            Or.inr (Outcome.raised.inj he ▸ hforeign (Outcome.raised.inj he ▸ hreports))⟩
      · -- the counter stands still: nothing was sent
        rw [if_neg hlt] at hrun
        cases hrun
        have hsame : w₁.transport.postsDispatched = w.transport.postsDispatched := by omega
        exact ⟨fun hlt' => absurd hlt' hlt, fun _ _ _ => Or.inl hsame⟩

theorem RecordsOnReturn.bind {x : Path β α}
    {f : α → Path β V4GmoPrivateOutcome} (hf : ∀ a, RecordsOnReturn (f a)) :
    RecordsOnReturn (x >>= f) := by
  intro w outcome w' hrun
  obtain ⟨a, w₁, -, hrest⟩ := Process.run_bind_eq_returned.mp hrun
  exact hf a w₁ outcome w' hrest

theorem outside_returned {u : Unit} (h : outside.run w = (.returned u, w')) :
    w' = { w with incidents := w.incidents.tail } := by
  simp only [Process.run, outside] at h
  split at h
  · cases h
    rfl
  · cases h
    rfl
  · cases h
  · cases h

theorem finishTransport_recorded (plan : V4GmoActionPlan) (outcome : V4GmoPrivateOutcome) :
    RecordsOnReturn
      (do
        finishTransport plan outcome
        pure outcome : Path β V4GmoPrivateOutcome) := by
  intro w outcome' w' hrun
  obtain ⟨_, w₁, hfinish, hrun⟩ := Process.run_bind_eq_returned.mp hrun
  cases hrun
  obtain ⟨_, w₂, -, hfinish⟩ := Process.run_bind_eq_returned.mp hfinish
  obtain ⟨_, w₃, hstore, hfinish⟩ := Process.run_bind_eq_returned.mp hfinish
  rw [outside_returned hfinish]
  have hcommit := (transact_returned (onStore_returned hstore).1).1
  rcases (transportOutcomeTransaction_ok hcommit).2 with ⟨rfl, hl⟩ | ⟨-, hl⟩
  · left
    refine ⟨rfl, ?_⟩
    show w₃.store.ledger.pendingTransportAttempt = none
    rw [hl]
  · right
    show w₃.store.ledger.unknownHaltLatched = true
    rw [hl]
    rfl

theorem sendAndFinish_recorded (input : PerformInput) :
    RecordsOnReturn (path.sendAndFinish input) :=
  RecordsOnReturn.bind fun _ => RecordsOnReturn.bind fun outcome =>
    finishTransport_recorded input.plan outcome

theorem marketBody_recorded (plan : V4GmoActionPlan) (attempt : V4PreparedAttempt)
    (riskState : PhaseBRiskState) (cycleDayJst : TradingDay) :
    RecordsOnReturn (path.marketBody plan attempt riskState cycleDayJst) :=
  RecordsOnReturn.bind fun _ => RecordsOnReturn.bind fun _ => RecordsOnReturn.bind fun _ =>
    RecordsOnReturn.bind fun _ => RecordsOnReturn.bind fun _ => RecordsOnReturn.bind fun _ =>
      RecordsOnReturn.bind fun _ => RecordsOnReturn.bind fun _ =>
        path.sendAndFinish_recorded _

theorem reconciledBody_recorded (input : PerformInput) :
    RecordsOnReturn (path.reconciledBody input) :=
  RecordsOnReturn.bind fun _ => RecordsOnReturn.bind fun _ => path.sendAndFinish_recorded _

theorem performMarketOnce_prepares (signalFingerprint : Digest) (plan : V4GmoActionPlan) :
    Prepares path plan (path.performMarketOnce signalFingerprint plan) := by
  have hhalt : haltsAndBinds.allowed .haltLatched := Or.inl rfl
  have hbind : haltsAndBinds.allowed (.bindGeneration path.generation) := Or.inr ⟨_, rfl⟩
  refine .step silent_wallNow within_wallNow fun nowUtc => ?_
  refine .step silent_monotonicNow within_monotonicNow fun nowMonotonic => ?_
  refine .step (path.silent_requireReady _ _) (path.within_requireReady hhalt hbind _ _)
    fun _ => ?_
  refine .step (silent_requireTimely (by
    simp [coordinatedPathError, V4Error.reportsPreDispatch])) (within_requireTimely _ _)
    fun _ => ?_
  refine .step (path.silent_requireEntryRuntimeSafety _ _)
    (path.within_requireEntryRuntimeSafety hhalt _ _) fun riskState => ?_
  refine .step (silent_onStore (storeErrors_marketAttemptCountForDay _))
    (within_onStore (within_marketAttemptCountForDay hhalt _)) fun count => ?_
  refine .ite (.early (silent_haltAndRefuse (by decide)) (path.within_haltAndRefuse hhalt _)) ?_
  refine .step (Silent.gets _) (Within.gets _) fun authorizations => ?_
  split
  · exact .early (silent_refuse (by simp [coordinatedPathError, V4Error.reportsPreDispatch]))
      (within_refuse _)
  · refine .step (Silent.modify fun _ => rfl)
      (within_modify_same fun _ => ⟨rfl, rfl, rfl, rfl, rfl⟩) fun _ => ?_
    exact .dispatch (recordMarketAttempt_records _ _ _ _ _)
      (storeErrors_recordMarketAttempt _ _ _ _ _)
      (within_recordMarketAttempt trivial trivial)
      (fun _ => path.silent_marketBody _ _ _ _)
      (fun _ => path.within_marketBody (Or.inl rfl) trivial trivial _ _ _ _
        fun _ => Or.inr ⟨_, _, _, rfl⟩)
      (fun _ => path.marketBody_postsFor _ _ _ _)
      fun _ => path.marketBody_recorded _ _ _ _

theorem reconciled_prepares {record : Store V4PreparedAttempt} {plan : V4GmoActionPlan}
    (hrecord : RecordsAttempt path.sha plan record) (herrors : StoreErrors record)
    (hstore : Within (storeWrites path.sha fun _ => True) record)
    (input : V4PreparedAttempt → PerformInput) (hinput : ∀ attempt, (input attempt).plan = plan) :
    Prepares path plan
      (onStore record >>= fun attempt =>
        dispatchPrepared plan attempt (path.reconciledBody (input attempt))) :=
  .dispatch hrecord herrors hstore (fun _ => path.silent_reconciledBody _)
    (fun _ => path.within_reconciledBody (Or.inl rfl) trivial _
      fun _ => Or.inr ⟨_, _, _, rfl⟩)
    (fun attempt => hinput attempt ▸ path.reconciledBody_postsFor (input attempt))
    fun _ => path.reconciledBody_recorded _

theorem performExactProtectionOnce_prepares (signalFingerprint : Digest)
    (plan : V4GmoActionPlan) (protectionPlan : V4GmoExactProtectionPlan)
    (evidence : V4AuthoritativeReconciliationEvidence) :
    Prepares path plan
      (path.performExactProtectionOnce signalFingerprint plan protectionPlan evidence) := by
  have hhalt : haltsAndBinds.allowed .haltLatched := Or.inl rfl
  have hbind : haltsAndBinds.allowed (.bindGeneration path.generation) := Or.inr ⟨_, rfl⟩
  refine .step silent_wallNow within_wallNow fun nowUtc => ?_
  refine .step silent_monotonicNow within_monotonicNow fun nowMonotonic => ?_
  refine .step (path.silent_requireReady _ _) (path.within_requireReady hhalt hbind _ _)
    fun _ => ?_
  refine .step (path.silent_consumeReconciliationEvidence _ _ _ _)
    (path.within_consumeReconciliationEvidence _ _ _ _) fun held => ?_
  exact path.reconciled_prepares (recordExactProtectionAttempt_records _ _ _ _ _ _)
    (storeErrors_recordExactProtectionAttempt _ _ _ _ _ _)
    (within_recordExactProtectionAttempt trivial trivial) _ fun _ => rfl

theorem performRiskReducingOnce_prepares (signalFingerprint : Digest)
    (plan : V4GmoActionPlan) (evidence : V4AuthoritativeReconciliationEvidence)
    (marketStatus : Option V4GmoPublicMarketStatusEvidence) :
    Prepares path plan
      (path.performRiskReducingOnce signalFingerprint plan evidence marketStatus) := by
  have hhalt : haltsAndBinds.allowed .haltLatched := Or.inl rfl
  have hbind : haltsAndBinds.allowed (.bindGeneration path.generation) := Or.inr ⟨_, rfl⟩
  refine .step silent_wallNow within_wallNow fun nowUtc => ?_
  refine .step silent_monotonicNow within_monotonicNow fun nowMonotonic => ?_
  refine .step (silent_require (by simp [coordinatedPathError, V4Error.reportsPreDispatch]))
    (within_require _ _) fun _ => ?_
  refine .step (path.silent_requireReady _ _) (path.within_requireReady hhalt hbind _ _)
    fun _ => ?_
  refine .step (path.silent_bindTransportGuard _ _) (path.within_bindTransportGuard hhalt _ _)
    fun guard => ?_
  refine .step (path.silent_consumeReconciliationEvidence _ _ _ _)
    (path.within_consumeReconciliationEvidence _ _ _ _) fun held => ?_
  obtain ⟨reconciliation, bindingDigest⟩ := held
  have hrecord : RecordsAttempt path.sha plan
      (recordRiskReducingAttempt path.sha
        (riskReducingInput signalFingerprint plan reconciliation bindingDigest) nowUtc) :=
    recordRiskReducingAttempt_records _ _
  exact path.reconciled_prepares hrecord (storeErrors_recordRiskReducingAttempt _ _)
    (within_recordRiskReducingAttempt trivial fun _ => trivial) _ fun _ => rfl

end V4GmoCoordinatedActualPath

variable {o : Outcome V4Error V4GmoPrivateOutcome} {w w' : PathWorld β}

theorem DispatchAccounted.of_posts_eq
    (hsame : w'.transport.postsDispatched = w.transport.postsDispatched) :
    DispatchAccounted w o w' :=
  ⟨fun hlt => absurd hlt (by omega), fun _ _ _ => Or.inl hsame⟩

theorem DispatchAccounted.after {α : Type} {x : Path β α}
    {f : α → Path β V4GmoPrivateOutcome} (hsilent : Path.Silent x)
    (hposts : ∀ w, (x.run w).2.transport.postsDispatched = w.transport.postsDispatched)
    (hf : ∀ a w₁, (f a).run w₁ = (o, w') → DispatchAccounted w₁ o w')
    (hrun : (x >>= f).run w = (o, w')) : DispatchAccounted w o w' := by
  have hsame := hposts w
  have hincidents := hsilent.incidents w
  rw [Process.run_bind] at hrun
  rcases hx : x.run w with ⟨ox, w₁⟩
  rw [hx] at hrun hsame hincidents
  dsimp only at hsame hincidents
  cases ox with
  | returned a =>
      have h := hf a w₁ hrun
      refine ⟨fun hlt => h.dispatched (hsame.symm ▸ hlt), fun e he hreports => ?_⟩
      rcases h.reported e he hreports with hposts | hin
      · exact Or.inl (hposts.trans hsame)
      · exact Or.inr (hincidents.subset hin)
  | raised e =>
      cases hrun
      exact .of_posts_eq hsame
  | killed =>
      cases hrun
      exact .of_posts_eq hsame

theorem within_recording {sha : Sha256} {record : Store V4PreparedAttempt}
    (hstore : Within (storeWrites sha fun _ => True) record) :
    Within (pathChange sha recording) (Path.onStore record : Path β V4PreparedAttempt) :=
  Path.within_onStore hstore

theorem Prepares.accounts {path : V4GmoCoordinatedActualPath β} {plan : V4GmoActionPlan}
    {x : Path β V4GmoPrivateOutcome} (hx : Prepares path plan x) (hrun : x.run w = (o, w'))
    (hended : o ≠ .killed) : DispatchAccounted w o w' := by
  induction hx generalizing w with
  | early hsilent hwithin =>
      have hsame := posts_eq_of_within id hwithin w
      rw [hrun] at hsame
      exact .of_posts_eq hsame
  | step hsilent hwithin hf ih =>
      exact .after hsilent (posts_eq_of_within id hwithin) (fun a w₁ h => ih a h) hrun
  | dispatch hrecord herrors hstore hsilent hwithin hposts hrecorded =>
      refine .after (Path.silent_onStore herrors)
        (posts_eq_of_within id (within_recording hstore))
        (fun attempt w₁ h => ?_) hrun
      unfold V4GmoCoordinatedActualPath.dispatchPrepared at h
      split at h
      · have hrefuse : Within (pathChange path.sha haltsAndBinds)
            (V4GmoCoordinatedActualPath.haltAndRefuse "V4_COORDINATED_CYCLE_MISMATCH" :
              Path β V4GmoPrivateOutcome) := path.within_haltAndRefuse (Or.inl rfl) _
        have hsame := posts_eq_of_within id hrefuse w₁
        rw [h] at hsame
        exact .of_posts_eq hsame
      · rw [Process.run_gets_bind] at h
        refine V4GmoCoordinatedActualPath.dispatchGuarded_accounted (hsilent attempt)
          (fun w => ?_) (hrecorded attempt) h hended
        obtain ⟨events, -, -, hcount⟩ := (hwithin attempt w).trace
        rw [hcount]
        exact Nat.le_add_right _ _

def PathOp.plan? : PathOp → Option V4GmoActionPlan
  | performMarketOnce _ plan | performExactProtectionOnce _ plan _ _
  | performRiskReducingOnce _ plan _ _ => some plan
  | _ => none

theorem PathOp.exec_prepares (path : V4GmoCoordinatedActualPath β) {op : PathOp}
    (h : op.performs = true) :
    ∃ x plan, op.plan? = some plan ∧ Prepares path plan x ∧
      op.exec path = x >>= fun outcome => pure (.outcome outcome) := by
  cases op with
  | performMarketOnce signalFingerprint plan =>
      exact ⟨_, plan, rfl, path.performMarketOnce_prepares signalFingerprint plan, rfl⟩
  | performExactProtectionOnce signalFingerprint plan protectionPlan evidence =>
      exact ⟨_, plan, rfl, path.performExactProtectionOnce_prepares signalFingerprint plan
        protectionPlan evidence, rfl⟩
  | performRiskReducingOnce signalFingerprint plan evidence marketStatus =>
      exact ⟨_, plan, rfl, path.performRiskReducingOnce_prepares signalFingerprint plan
        evidence marketStatus, rfl⟩
  | _ => cases h

/-- **No dispatched POST is forgotten.** A call that performs an action and is not
killed, and in which the transport has counted a POST, ends with the rejection on
record and nothing pending, or with the halt latched.  Whatever was raised on the
way, the path reports a failure before any POST only when the counter stands
still. -/
theorem no_dispatched_post_forgotten (path : V4GmoCoordinatedActualPath β) (op : PathOp)
    (hperforms : op.performs = true) (w w' : PathWorld β)
    (o : Outcome V4Error PathResult) (hrun : (op.exec path).run w = (o, w'))
    (hended : o ≠ .killed) :
    (w.transport.postsDispatched < w'.transport.postsDispatched →
      (o = .returned (.outcome .rejectedSanitized) ∧
        w'.store.ledger.pendingTransportAttempt = none) ∨
        w'.store.ledger.unknownHaltLatched = true) ∧
      ∀ e, o = .raised e → e.reportsPreDispatch →
        w'.transport.postsDispatched = w.transport.postsDispatched ∨
          .raises e ∈ w.incidents := by
  obtain ⟨x, plan, -, hprepares, hexec⟩ := op.exec_prepares path hperforms
  rw [hexec, Process.run_bind_pure] at hrun
  rcases hx : x.run w with ⟨ox, w₁⟩
  rw [hx] at hrun
  cases hrun
  cases ox with
  | returned outcome =>
      refine ⟨fun hlt => ?_, fun _ he => nomatch he⟩
      rcases (hprepares.accounts hx (by simp)).dispatched hlt with ⟨hrejected, hnone⟩ | hhalt
      · cases hrejected
        exact Or.inl ⟨rfl, hnone⟩
      · exact Or.inr hhalt
  | raised e =>
      have h := hprepares.accounts hx (by simp)
      refine ⟨fun hlt => ?_, fun e' he hreports => ?_⟩
      · rcases h.dispatched hlt with ⟨hrejected, -⟩ | hhalt
        · cases hrejected
        · exact Or.inr hhalt
      · cases he
        exact h.reported e rfl hreports
  | killed => exact absurd rfl hended

namespace Sample

def preparedEntry : List PathCall :=
  [{ op := .reserveEntryCycle (intent 0) (at_ 1) },
    { op := .heartbeat (at_ 1) },
    { op := .reconcileOnceFixed (cycleRef 0) .buy 1000 },
    { op := .recordCanaryEntryPreflight (fingerprint 0) (cycleRef 0) 150 (150 + 1 / 1000)
        (evidence 0 0 flatReconciliation (monotonicMilliseconds 1650))
      wallReadings := [at_ 2] }]

def worldAtEntry (incidents : List Incident) : PathWorld Unit :=
  (after (pathStep (path flatBroker)) (.start (scope 0) ()) preparedEntry).world.beforeCall
    { op := .performMarketOnce (fingerprint 0) (marketPlan 0)
      incidents
      wallReadings := [at_ 3] }

/-- That entry and how it ends. -/
def enterMarket (incidents : List Incident) :
    Outcome V4Error PathResult × PathWorld Unit :=
  ((PathOp.performMarketOnce (fingerprint 0) (marketPlan 0)).exec (path flatBroker)).run
    (worldAtEntry incidents)

end Sample

open Sample in
theorem no_dispatched_post_forgotten_entry :
    ((worldAtEntry []).transport.postsDispatched <
          (enterMarket []).2.transport.postsDispatched →
        ((enterMarket []).1 = .returned (.outcome .rejectedSanitized) ∧
          (enterMarket []).2.store.ledger.pendingTransportAttempt = none) ∨
          (enterMarket []).2.store.ledger.unknownHaltLatched = true) ∧
      ∀ e, (enterMarket []).1 = .raised e → e.reportsPreDispatch →
        (enterMarket []).2.transport.postsDispatched =
            (worldAtEntry []).transport.postsDispatched ∨
          .raises e ∈ (worldAtEntry []).incidents :=
  no_dispatched_post_forgotten (path flatBroker)
    (.performMarketOnce (fingerprint 0) (marketPlan 0)) rfl (worldAtEntry [])
    (enterMarket []).2 (enterMarket []).1 Prod.mk.eta.symm (by decide +kernel)

end FxStrategyLab
