import FxStrategyLab.Path.Methods

/-!
# Who reports that no POST was sent

The label `V4_GMO_PRE_DISPATCH_FAILURE_NO_POST_SENT` is raised in one place, the
handler that the three `perform` methods share.  A process is `Silent` when
every such report that it raises was raised by foreign code first, as one of the
incidents of the world.  The steps of the path and all it calls are silent; what
the handler itself does is left to the module after this one.
-/

namespace FxStrategyLab

open Library

variable {β : Type}

def V4Error.reportsPreDispatch (e : V4Error) : Prop :=
  e.exceptionClass = .coordinatedPath ∧
    e.message = "V4_GMO_PRE_DISPATCH_FAILURE_NO_POST_SENT"
deriving Decidable

section Store

variable {sha : Sha256}

def StoreErrors {α : Type} (x : Store α) : Prop :=
  RaisesOnly (fun e => e.exceptionClass ≠ .coordinatedPath) x

theorem storeErrors_transact {α : Type} {t : Transaction α}
    (ht : ∀ l e, t l = .error e → e.exceptionClass ≠ .coordinatedPath) :
    StoreErrors (transact t) := by
  intro s e s' h
  rw [Process.run] at h
  unfold transact at h
  split at h
  · cases h
  · split at h
    · cases h
    · rename_i e' herror
      cases h
      exact ht _ _ herror

theorem storeErrors_query {α : Type} (f : Ledger → α) : StoreErrors (query f) :=
  storeErrors_transact fun _ _ h => nomatch h

theorem storeErrors_bindGeneration (generation : V4GmoFrozenGeneration) :
    StoreErrors (bindGeneration generation) := by
  refine storeErrors_transact fun l e h => ?_
  unfold bindGenerationTransaction at h
  split at h
  · cases h
  · split at h
    · cases h
    · cases h
      simp [coordinatorError]

theorem storeErrors_engageUnknownHalt : StoreErrors engageUnknownHalt :=
  storeErrors_transact fun _ _ h => nomatch h

theorem storeErrors_marketAttemptCountForDay (day : TradingDay) :
    StoreErrors (marketAttemptCountForDay day) := by
  refine storeErrors_transact fun l e h => ?_
  split at h
  · cases h
  · split at h
    · cases h
    · cases h
      simp [coordinatorError]

theorem insertAttempt_error {l : Ledger} {row : AttemptRow} {secondRefused : String}
    {e : V4Error} (h : l.insertAttempt row secondRefused = .error e) :
    e.exceptionClass = .coordinator := by
  unfold Ledger.insertAttempt at h
  split at h
  · cases h
    rfl
  · split at h
    · cases h
      rfl
    · cases h

theorem storeErrors_issuePreparedAttempt (row : AttemptRow)
    (protectionPlanDigest : Option Digest) (deadline : Option Monotonic) :
    StoreErrors (issuePreparedAttempt row protectionPlanDigest deadline) := by
  refine RaisesOnly.bind (RaisesOnly.bind (storeErrors_query _) fun generation => ?_)
    fun verifier => RaisesOnly.bind (fun _ _ _ h => nomatch h) fun _ => RaisesOnly.pure _
  cases generation with
  | none => exact RaisesOnly.raise (by simp [coordinatorError])
  | some digest => exact RaisesOnly.pure _

theorem storeErrors_recordMarketAttempt
    (authorization : V4VerifiedEntryPreflightAuthorization) (signalFingerprint : Digest)
    (plan : V4GmoActionPlan) (nowUtc : Instant) (nowMonotonic : Monotonic) :
    StoreErrors
      (recordMarketAttempt sha authorization signalFingerprint plan nowUtc
        nowMonotonic) := by
  refine (RaisesOnly.gets _).bind fun consumed =>
    (RaisesOnly.require (by simp [coordinatorError])).bind fun _ => ?_
  refine RaisesOnly.bind (storeErrors_query _) fun halted =>
    (RaisesOnly.require (by simp [coordinatorError])).bind fun _ => ?_
  refine RaisesOnly.bind (storeErrors_transact fun l e h => ?_) fun attempt =>
    (RaisesOnly.modify _).bind fun _ => storeErrors_issuePreparedAttempt _ _ _
  unfold marketAttemptTransaction at h
  split at h
  · cases h
    simp [coordinatorError]
  · split at h
    · dsimp only at h
      split at h
      · cases h
        simp [insertAttempt_error ‹_›]
      · cases h
    · cases h
      simp [coordinatorError, V4Error.lateIf]

theorem storeErrors_recordExactProtectionAttempt (signalFingerprint : Digest)
    (plan : V4GmoActionPlan) (protectionPlan : V4GmoExactProtectionPlan)
    (reconciliationDigest : Digest) (nowUtc : Instant) (nowMonotonic : Monotonic) :
    StoreErrors
      (recordExactProtectionAttempt sha signalFingerprint plan protectionPlan
        reconciliationDigest nowUtc nowMonotonic) := by
  refine RaisesOnly.bind (storeErrors_transact fun l e h => ?_) fun attempt =>
    storeErrors_issuePreparedAttempt _ _ _
  unfold protectionAttemptTransaction at h
  split at h
  · cases h
    simp [coordinatorError]
  split at h
  · cases h
    simp [coordinatorError]
  split at h
  · cases h
    simp [coordinatorError]
  split at h
  · cases h
    simp [coordinatorError]
  split at h
  · dsimp only at h
    split at h
    · cases h
      simp [insertAttempt_error ‹_›]
    · cases h
  · cases h
    simp [coordinatorError, V4Error.lateIf]

theorem storeErrors_recordRiskReducingAttempt (input : RiskReducingInput)
    (nowUtc : Instant) : StoreErrors (recordRiskReducingAttempt sha input nowUtc) := by
  refine (RaisesOnly.require (by simp [coordinatorError])).bind fun _ =>
    (RaisesOnly.require (by simp [coordinatorError])).bind fun _ =>
      (RaisesOnly.require (by simp [coordinatorError])).bind fun _ => ?_
  refine RaisesOnly.bind (storeErrors_transact fun l e h => ?_) fun attempt =>
    storeErrors_issuePreparedAttempt _ _ _
  unfold riskReducingTransaction at h
  split at h
  · cases h
    simp [coordinatorError]
  split at h
  · cases h
    simp [coordinatorError]
  split at h
  · cases h
    simp [coordinatorError]
  split at h
  · cases h
    simp [coordinatorError]
  split at h
  · cases h
    simp [coordinatorError, V4Error.lateIf]
  split at h
  · rename_i e' hsettle
    cases h
    unfold Ledger.fixSettlementSize at hsettle
    split at hsettle
    · split at hsettle
      · cases hsettle
      · cases hsettle
        simp [coordinatorError]
    · cases hsettle
  · dsimp only at h
    split at h
    · cases h
      simp [insertAttempt_error ‹_›]
    · cases h

theorem storeErrors_recordTransportOutcome (cycleRef : Digest) (action : V4GmoAction)
    (outcome : V4GmoPrivateOutcome) :
    StoreErrors (recordTransportOutcome cycleRef action outcome) := by
  refine storeErrors_transact fun l e h => ?_
  unfold transportOutcomeTransaction at h
  split at h
  · cases outcome <;> cases h
  · cases h
    simp [coordinatorError]

theorem authorizationMatches_error {authorization : V4PersistedActionAuthorization}
    {plan : V4GmoActionPlan} {protectionPlan : Option V4GmoExactProtectionPlan}
    {reconciliationDigest : Option Digest} {requestBindingDigest : Digest}
    {nowMonotonic : Monotonic} {e : V4Error}
    (h : authorizationMatches sha authorization plan protectionPlan reconciliationDigest
      requestBindingDigest nowMonotonic = .error e) :
    e.exceptionClass = .persistedAuthorization := by
  unfold authorizationMatches at h
  split at h
  · cases h
    rfl
  split at h
  · split at h
    · dsimp only at h
      split at h
      · cases h
      · cases h
        rfl
    · cases h
      rfl
  split at h
  · cases h
    rfl
  · cases h

theorem storeErrors_consumePersistedActionAuthorization
    (authorization : V4PersistedActionAuthorization) (plan : V4GmoActionPlan)
    (protectionPlan : Option V4GmoExactProtectionPlan)
    (reconciliationDigest : Option Digest) (requestBindingDigest : Digest)
    (nowMonotonic : Monotonic) :
    StoreErrors
      (consumePersistedActionAuthorization sha authorization plan protectionPlan
        reconciliationDigest requestBindingDigest nowMonotonic) := by
  refine (RaisesOnly.gets _).bind fun consumed =>
    (RaisesOnly.require (by simp [authorizationError])).bind fun _ => ?_
  refine RaisesOnly.bind ?_ fun _ => ?_
  · cases hmatch : authorizationMatches sha authorization plan protectionPlan
      reconciliationDigest requestBindingDigest nowMonotonic with
    | error e => exact RaisesOnly.raise (by simp [authorizationMatches_error hmatch])
    | ok u => exact RaisesOnly.pure _
  · refine RaisesOnly.bind (storeErrors_query _) fun committed =>
      (RaisesOnly.require (by simp [authorizationError])).bind fun _ => ?_
    exact (RaisesOnly.modify _).bind fun _ =>
      RaisesOnly.bind (fun _ _ _ h => nomatch h) fun _ => RaisesOnly.pure _

end Store

variable {e : V4Error}

theorem validateCommonOrderFields_error {side : SignalDecision} {clientOrderId letters : List Char}
    (h : validateCommonOrderFields side clientOrderId letters = .error e) :
    e.exceptionClass = .transport := by
  unfold validateCommonOrderFields at h
  split at h
  · cases h
    rfl
  split at h
  · cases h
    rfl
  · cases h

theorem validateSettlePositions_error {settlePosition : List PositionPart}
    (h : validateSettlePositions settlePosition = .error e) : e.exceptionClass = .transport := by
  unfold validateSettlePositions at h
  split at h
  · cases h
    rfl
  split at h
  · cases h
    rfl
  split at h
  · cases h
    rfl
  split at h
  · cases h
    rfl
  · cases h

theorem except_bind_error {α γ : Type} {x : Except V4Error α} {f : α → Except V4Error γ}
    (h : (x >>= f) = .error e) : x = .error e ∨ ∃ a, x = .ok a ∧ f a = .error e := by
  cases x with
  | error e' =>
      cases h
      exact Or.inl rfl
  | ok a => exact Or.inr ⟨a, rfl, h⟩

theorem validateRequestContract_error {request : V4GmoPrivateRequest}
    (h : validateRequestContract request = .error e) : e.exceptionClass = .transport := by
  cases request with
  | latestExecutions | openPositions | activeOrders => cases h
  | order side size clientOrderId =>
      rcases except_bind_error h with h | ⟨_, -, h⟩
      · exact validateCommonOrderFields_error h
      · dsimp only at h
        split at h
        · cases h
          rfl
        split at h
        · cases h
          rfl
        · cases h
  | cancelOrders clientOrderId =>
      simp only [validateRequestContract] at h
      split at h
      · cases h
      · cases h
        rfl
  | closeOrderOco side clientOrderId limitPrice stopPrice settlePosition =>
      rcases except_bind_error h with h | ⟨_, -, h⟩
      · exact validateCommonOrderFields_error h
      · dsimp only at h
        split at h
        · cases h
          rfl
        · exact validateSettlePositions_error h
  | closeOrderMarket side clientOrderId settlePosition =>
      rcases except_bind_error h with h | ⟨_, -, h⟩
      · exact validateCommonOrderFields_error h
      · exact validateSettlePositions_error h

theorem postRequest_error {request : V4GmoPrivateRequest}
    (h : postRequest request = .error e) : e.exceptionClass = .transport := by
  rcases except_bind_error h with h | ⟨_, -, h⟩
  · exact validateRequestContract_error h
  · cases h

variable {reconciliation : Option V4GmoActualReconciliation} {plan : V4GmoActionPlan}

theorem buildCancelRequest_error (h : buildCancelRequest plan reconciliation = .error e) :
    e.exceptionClass ≠ .coordinatedPath := by
  unfold buildCancelRequest at h
  split at h
  · cases h
    simp [adapterError]
  split at h
  · cases h
    simp [adapterError]
  split at h
  · cases h
    simp [adapterError]
  split at h
  · cases h
    simp [adapterError]
  · simp [postRequest_error h]

theorem buildSettlementRequest_error {protectionPlan : Option V4GmoExactProtectionPlan}
    (h : buildSettlementRequest plan reconciliation protectionPlan = .error e) :
    e.exceptionClass ≠ .coordinatedPath := by
  unfold buildSettlementRequest at h
  split at h
  · cases h
    simp [adapterError]
  split at h
  · cases h
    simp [adapterError]
  dsimp only at h
  split at h
  · cases h
    simp [adapterError]
  split at h
  · cases h
    simp [adapterError]
  split at h
  · cases h
    simp [adapterError]
  split at h
  · split at h
    · cases h
      simp [adapterError]
    split at h
    · cases h
      simp [adapterError]
    · simp [postRequest_error h]
  split at h
  · cases h
    simp [adapterError]
  · simp [postRequest_error h]

theorem buildActionRequest_error {protectionPlan : Option V4GmoExactProtectionPlan}
    (h : buildActionRequest plan reconciliation protectionPlan = .error e) :
    e.exceptionClass ≠ .coordinatedPath := by
  unfold buildActionRequest at h
  split at h
  · simp [postRequest_error h]
  all_goals first
    | exact buildCancelRequest_error h
    | exact buildSettlementRequest_error h

namespace Path

/-- Foreign code raised every report of a failure before any POST that the
process raises, and the process makes no new incidents. -/
structure Silent {α : Type} (x : Path β α) : Prop where
  incidents : ∀ w, (x.run w).2.incidents <:+ w.incidents
  raised : ∀ w e w', x.run w = (.raised e, w') → e.reportsPreDispatch →
    .raises e ∈ w.incidents

namespace Silent

variable {α γ : Type}

theorem pure (a : α) : Silent (pure a : Path β α) :=
  ⟨fun _ => List.suffix_rfl, fun _ _ _ h => nomatch h⟩

theorem raise {e : V4Error} (he : ¬e.reportsPreDispatch) :
    Silent (Process.raise e : Path β α) := by
  refine ⟨fun _ => List.suffix_rfl, fun w e' w' h hreports => ?_⟩
  cases h
  exact absurd hreports he

theorem gets (f : PathWorld β → α) : Silent (Process.gets f : Path β α) :=
  ⟨fun _ => List.suffix_rfl, fun _ _ _ h => nomatch h⟩

theorem modify {f : PathWorld β → PathWorld β} (hf : ∀ w, (f w).incidents = w.incidents) :
    Silent (Process.modify f : Path β Unit) :=
  ⟨fun w => (hf w).symm ▸ List.suffix_rfl, fun _ _ _ h => nomatch h⟩

variable {x y : Path β α}

theorem bind {f : α → Path β γ} (hx : Silent x) (hf : ∀ a, Silent (f a)) : Silent (x >>= f) := by
  constructor
  · intro w
    have h := hx.incidents w
    rw [Process.run_bind]
    rcases hr : x.run w with ⟨o, w₁⟩
    rw [hr] at h
    cases o with
    | returned a => exact ((hf a).incidents w₁).trans h
    | raised e => exact h
    | killed => exact h
  · intro w e w' hrun hreports
    have h := hx.incidents w
    rw [Process.run_bind] at hrun
    rcases hr : x.run w with ⟨o, w₁⟩
    rw [hr] at h hrun
    cases o with
    | returned a => exact h.subset ((hf a).raised w₁ e w' hrun hreports)
    | raised e' =>
        cases hrun
        exact hx.raised _ _ _ hr hreports
    | killed => cases hrun

theorem ite {c : Prop} [Decidable c] (hx : Silent x) (hy : Silent y) :
    Silent (if c then x else y) := by
  split
  · exact hx
  · exact hy

theorem attempt {handler : V4Error → Path β α} (hx : Silent x)
    (hincidents : ∀ e w, ((handler e).run w).2.incidents <:+ w.incidents)
    (hraised : ∀ e w e' w', (handler e).run w = (.raised e', w') →
      e'.reportsPreDispatch → e' = e ∨ .raises e' ∈ w.incidents) :
    Silent (x.attempt handler) := by
  constructor
  · intro w
    have h := hx.incidents w
    rw [Process.run_attempt]
    rcases hr : x.run w with ⟨o, w₁⟩
    rw [hr] at h
    cases o with
    | returned a => exact h
    | raised e => exact (hincidents e w₁).trans h
    | killed => exact h
  · intro w e' w' hrun hreports
    have h := hx.incidents w
    rw [Process.run_attempt] at hrun
    rcases hr : x.run w with ⟨o, w₁⟩
    rw [hr] at h hrun
    cases o with
    | returned a => cases hrun
    | raised e =>
        rcases hraised e w₁ e' w' hrun hreports with rfl | hin
        · exact hx.raised _ _ _ hr hreports
        · exact h.subset hin
    | killed => cases hrun

theorem attempt_silent {handler : V4Error → Path β α} (hx : Silent x)
    (hh : ∀ e, Silent (handler e)) : Silent (x.attempt handler) :=
  hx.attempt (fun e => (hh e).incidents)
    fun e w e' w' hrun hreports => Or.inr ((hh e).raised w e' w' hrun hreports)

end Silent

section Primitives

variable {α : Type}

variable {e : V4Error}

theorem silent_refuse (he : ¬e.reportsPreDispatch) : Silent (refuse e : Path β α) := by
  refine Silent.bind ?_ fun _ => Silent.raise he
  exact Silent.modify fun _ => rfl

theorem silent_require {c : Prop} [Decidable c]
    (he : ¬e.reportsPreDispatch) : Silent (require c e : Path β Unit) :=
  Silent.ite (Silent.pure ()) (silent_refuse he)

theorem silent_requireTimely {c : Prop} [Decidable c]
    (he : ¬e.reportsPreDispatch) : Silent (requireTimely c e : Path β Unit) :=
  silent_require he

theorem silent_ofResult {x : Except V4Error α}
    (hx : ∀ e, x = .error e → ¬e.reportsPreDispatch) : Silent (ofResult x : Path β α) := by
  cases x with
  | ok a => exact Silent.pure a
  | error e => exact silent_refuse (hx e rfl)

theorem silent_onStore {x : Store α} (hx : StoreErrors x) : Silent (onStore x : Path β α) := by
  constructor
  · intro w
    rw [onStore, Process.run_attempt, Process.run_zoom]
    rcases x.run w.store with ⟨o, s⟩
    cases o <;> exact List.suffix_rfl
  · intro w e w' hrun hreports
    rw [onStore, Process.run_attempt, Process.run_zoom] at hrun
    rcases hr : x.run w.store with ⟨o, s⟩
    rw [hr] at hrun
    cases o with
    | returned a => cases hrun
    | raised e' =>
        cases hrun
        exact absurd hreports.1 (hx _ _ _ hr)
    | killed => cases hrun

theorem silent_outside : Silent (outside : Path β Unit) := by
  constructor
  · intro w
    simp only [Process.run, outside]
    split
    · exact List.tail_suffix _
    · exact List.tail_suffix _
    · rename_i heq
      exact heq ▸ List.suffix_cons _ _
    · rename_i heq
      exact heq ▸ List.suffix_cons _ _
  · intro w e w' hrun _
    simp only [Process.run, outside] at hrun
    split at hrun
    · cases hrun
    · cases hrun
    · rename_i heq
      cases hrun
      rw [heq]
      exact List.mem_cons_self
    · cases hrun

theorem silent_monotonicNow : Silent (monotonicNow : Path β Monotonic) :=
  ⟨fun _ => List.suffix_rfl, fun _ _ _ h => nomatch h⟩

theorem silent_wallNow : Silent (wallNow : Path β Instant) :=
  ⟨fun _ => List.suffix_rfl, fun _ _ _ h => nomatch h⟩

theorem silent_waitFor (duration : Nat) : Silent (waitFor duration : Path β Unit) :=
  silent_outside.bind fun _ => Silent.modify fun _ => rfl

theorem silent_modifyTransport (f : TransportState → TransportState) :
    Silent (modifyTransport f : Path β Unit) :=
  Silent.modify fun _ => rfl

theorem silent_modifyAdapter (f : AdapterState → AdapterState) :
    Silent (modifyAdapter f : Path β Unit) :=
  Silent.modify fun _ => rfl

theorem silent_receive (ask : β → PrivateAnswer α × β) :
    Silent (receive ask : Path β (PrivateAnswer α)) :=
  ⟨fun _ => List.suffix_rfl, fun _ _ _ h => nomatch h⟩

end Primitives

section Transport

variable {sha : Sha256}

theorem silent_admitAtGate (pass : CadenceGate → Option CadenceGate) :
    Silent (admitAtGate pass : Path β Unit) := by
  refine (Silent.gets _).bind fun w => ?_
  split
  · exact silent_refuse (by simp [transportError, V4Error.reportsPreDispatch])
  · exact silent_modifyTransport _

theorem silent_requireBoundPostOnce (key : PostKey) :
    Silent (requireBoundPostOnce key : Path β (List V4GmoAction)) := by
  refine (Silent.gets _).bind fun w => (silent_require (by
    simp [transportError, V4Error.reportsPreDispatch])).bind fun _ => ?_
  split
  · exact silent_refuse (by simp [transportError, V4Error.reportsPreDispatch])
  · exact (silent_modifyTransport _).bind fun _ => Silent.pure _

theorem silent_requireRuntimeScope : Silent (requireRuntimeScope : Path β Unit) := by
  refine (Silent.gets _).bind fun scope => ?_
  cases scope with
  | activated scope => exact Silent.pure _
  | recovered scope =>
      exact silent_wallNow.bind fun _ => silent_requireTimely (by
        simp [transportError, V4Error.reportsPreDispatch])

theorem silent_requireEntryScope (scope : RuntimeScope) (request : V4GmoPrivateRequest)
    (now : Monotonic) : Silent (requireEntryScope scope request now : Path β Unit) := by
  have hlabel : ¬entryScopeMismatch.reportsPreDispatch := by
    simp [entryScopeMismatch, transportError, V4Error.reportsPreDispatch]
  cases scope with
  | activated scope =>
      exact (silent_require hlabel).bind fun _ => silent_requireTimely hlabel
  | recovered scope => exact silent_refuse hlabel

theorem silent_unknownPostCallback : Silent (unknownPostCallback : Path β Unit) :=
  (silent_onStore storeErrors_engageUnknownHalt).attempt_silent fun _ => Silent.pure ()

theorem storeErrors_consumePersistedTransportAuthorization
    (authorization : V4PersistedTransportAuthorization) (cycleRef : Digest)
    (allowedActions : List V4GmoAction) (requestBindingDigest : Digest) :
    StoreErrors
      (consumePersistedTransportAuthorization authorization cycleRef allowedActions
        requestBindingDigest) :=
  (RaisesOnly.gets _).bind fun _ =>
    (RaisesOnly.require (by simp [authorizationError])).bind fun _ => RaisesOnly.modify _

theorem silent_countAndPost (broker : Broker β) (request : V4GmoPrivateRequest) :
    Silent (countAndPost broker request) := by
  refine Silent.bind (Silent.modify fun _ => rfl) fun _ => ?_
  refine (silent_receive _).bind fun answer => ?_
  cases answer with
  | failed failure =>
      refine silent_unknownPostCallback.bind fun _ => silent_refuse ?_
      simp [transportError, V4Error.reportsPreDispatch]
  | envelope status data => exact Silent.pure status

theorem silent_privatePost (broker : Broker β) (request : V4GmoPrivateRequest)
    (path : PostPath) (clientOrderId : List Char)
    (authorization : V4PersistedTransportAuthorization) :
    Silent (privatePost sha broker request path clientOrderId authorization) := by
  have hlabel : ∀ label, ¬(transportError label).reportsPreDispatch := by
    simp [transportError, V4Error.reportsPreDispatch]
  refine silent_requireRuntimeScope.bind fun _ => silent_monotonicNow.bind fun now => ?_
  refine (silent_admitAtGate _).bind fun _ => ?_
  refine (silent_requireBoundPostOnce _).bind fun allowedActions => ?_
  refine (Silent.gets _).bind fun scope => ?_
  refine ((silent_onStore
    (storeErrors_consumePersistedTransportAuthorization _ _ _ _)).attempt_silent fun _ =>
      silent_refuse (hlabel _)).bind fun _ => ?_
  refine (silent_modifyTransport _).bind fun _ => ?_
  have hsend : Silent
      (do
        outside
        countAndPost broker request : Path β Int) :=
    silent_outside.bind fun _ => silent_countAndPost broker request
  exact Silent.ite ((silent_requireEntryScope _ _ _).bind fun _ => hsend) hsend

theorem silent_requireMarketStatus (generationDigest : Digest) (action : V4GmoAction)
    (marketStatus : Option V4GmoPublicMarketStatusEvidence) :
    Silent (requireMarketStatus generationDigest action marketStatus : Path β Unit) := by
  have hlabel : ∀ label, ¬(adapterError label).reportsPreDispatch := by
    simp [adapterError, V4Error.reportsPreDispatch]
  refine Silent.ite ?_ (silent_require (hlabel _))
  cases marketStatus with
  | none => exact silent_refuse (hlabel _)
  | some evidence =>
      refine silent_monotonicNow.bind fun now => (Silent.gets _).bind fun used => ?_
      refine Silent.bind (Silent.modify fun _ => rfl) fun _ => ?_
      exact (silent_require (hlabel _)).bind fun _ =>
        (silent_requireTimely (hlabel _)).bind fun _ => silent_require (hlabel _)

theorem silent_sendOnce (broker : Broker β) (request : V4GmoPrivateRequest)
    (path : PostPath) (clientOrderId : List Char)
    (authorization : V4PersistedTransportAuthorization) :
    Silent (sendOnce sha broker request path clientOrderId authorization) := by
  refine Silent.attempt ?_ (fun e w => ?_) fun e w e' w' hrun hreports => ?_
  · refine (silent_privatePost _ _ _ _ _).bind fun status => ?_
    exact Silent.ite ((silent_modifyAdapter _).bind fun _ => Silent.pure _) (Silent.pure _)
  · split <;> exact List.suffix_rfl
  · split at hrun
    · cases hrun
    · cases hrun
      exact Or.inl rfl

theorem silent_performOnce (broker : Broker β) (generationDigest : Digest)
    (input : PerformInput) (nowMonotonic : Monotonic) :
    Silent (performOnce sha broker generationDigest input nowMonotonic) := by
  have hlabel : ∀ label, ¬(adapterError label).reportsPreDispatch := by
    simp [adapterError, V4Error.reportsPreDispatch]
  refine (silent_modifyAdapter _).bind fun _ => (Silent.gets _).bind fun attempted => ?_
  refine (silent_require (hlabel _)).bind fun _ =>
    (silent_ofResult fun e he => ?_).bind fun request => ?_
  · exact fun hreports => buildActionRequest_error he hreports.1
  · split
    · exact silent_refuse (hlabel _)
    · refine (silent_onStore
        (storeErrors_consumePersistedActionAuthorization _ _ _ _ _ _)).bind
        fun authorization => (silent_modifyAdapter _).bind fun _ => ?_
      exact (silent_requireMarketStatus _ _ _).bind fun _ =>
        (silent_modifyAdapter _).bind fun _ => silent_sendOnce _ _ _ _ _

end Transport

end Path

section Risk

variable {sha : Sha256} {policy : PhaseBRiskPolicy} {e : V4Error}

variable {state : PhaseBRiskState}

theorem validateRiskState_error (h : validateRiskState sha policy state = .error e) :
    e.exceptionClass = .runtimeSafety := by
  unfold validateRiskState at h
  split at h
  · cases h
    rfl
  split at h
  · cases h
    rfl
  split at h
  · cases h
    rfl
  · cases h

theorem loadRiskState_error {file : StateFile PhaseBRiskState}
    (h : loadRiskState sha policy file = .error e) : e.exceptionClass = .runtimeSafety := by
  cases file with
  | absent => cases h
  | malformed message =>
      cases h
      rfl
  | holds state =>
      rcases except_bind_error h with h | ⟨_, -, h⟩
      · exact validateRiskState_error h
      · cases h

theorem evaluateRiskBeforeEntry_error {day : TradingDay}
    (h : evaluateRiskBeforeEntry sha policy state day = .error e) :
    e.exceptionClass = .runtimeSafety := by
  rcases except_bind_error h with h | ⟨_, -, h⟩
  · exact validateRiskState_error h
  · cases h

theorem recordRiskEntryAttempt_error {day : TradingDay}
    (h : recordRiskEntryAttempt sha policy state day = .error e) :
    e.exceptionClass = .runtimeSafety := by
  rcases except_bind_error h with h | ⟨gated, -, h⟩
  · exact evaluateRiskBeforeEntry_error h
  · dsimp only at h
    split at h
    · cases h
    · cases h
      rfl

end Risk

namespace V4GmoCoordinatedActualPath

open Path

variable (path : V4GmoCoordinatedActualPath β)

theorem silent_requireLock : Silent (requireLock : Path β Unit) :=
  (Silent.gets _).bind fun _ => silent_require (by
    simp [coordinatedPathError, V4Error.reportsPreDispatch])

theorem silent_haltAndRefuse {α : Type} {label : String}
    (hlabel : label ≠ "V4_GMO_PRE_DISPATCH_FAILURE_NO_POST_SENT") :
    Silent (haltAndRefuse label : Path β α) :=
  (silent_onStore storeErrors_engageUnknownHalt).bind fun _ => silent_refuse (by
    simp [coordinatedPathError, V4Error.reportsPreDispatch, hlabel])

theorem silent_consumeReconciliationEvidence
    (evidence : V4AuthoritativeReconciliationEvidence) (cycleRef : Digest)
    (nowMonotonic : Monotonic) (maximumAge : Nat) :
    Silent (path.consumeReconciliationEvidence evidence cycleRef nowMonotonic
      maximumAge) := by
  have hlabel : ¬evidenceInvalid.reportsPreDispatch := by
    simp [evidenceInvalid, coordinatedPathError, V4Error.reportsPreDispatch]
  refine (Silent.gets _).bind fun held => (silent_require hlabel).bind fun _ => ?_
  split
  · exact silent_refuse hlabel
  · refine (silent_requireTimely hlabel).bind fun _ =>
      Silent.bind (Silent.modify fun _ => rfl) fun _ => ?_
    exact (silent_require hlabel).bind fun _ => Silent.pure _

theorem silent_requireReady (action : V4GmoAction) (plan : V4GmoActionPlan) :
    Silent (path.requireReady action plan) := by
  refine silent_requireLock.bind fun _ => ?_
  have hrest : Silent
      (do
        require (plan.action = action)
          (coordinatedPathError "V4_COORDINATED_ACTION_MISMATCH")
        onStore (bindGeneration path.generation) : Path β Unit) :=
    (silent_require (by simp [coordinatedPathError, V4Error.reportsPreDispatch])).bind
      fun _ => silent_onStore (storeErrors_bindGeneration _)
  refine Silent.ite ?_ hrest
  exact (silent_onStore (storeErrors_query _)).bind fun _ => (silent_require (by
    simp [coordinatedPathError, V4Error.reportsPreDispatch])).bind fun _ => hrest

theorem silent_requireDeadManAlive (nowUtc : Instant) {label : String}
    (hlabel : label ≠ "V4_GMO_PRE_DISPATCH_FAILURE_NO_POST_SENT") :
    Silent (path.requireDeadManAlive nowUtc label) := by
  refine silent_outside.bind fun _ => (Silent.gets _).bind fun file => ?_
  refine Silent.ite ?_ (Silent.pure _)
  exact (silent_onStore storeErrors_engageUnknownHalt).bind fun _ => silent_refuse (by
    simp [coordinatedPathError, V4Error.reportsPreDispatch, V4Error.lateIf, hlabel])

theorem silent_loadRisk : Silent path.loadRisk :=
  silent_outside.bind fun _ => (Silent.gets _).bind fun file => silent_ofResult fun e he => by
    simp [V4Error.reportsPreDispatch, loadRiskState_error he]

theorem silent_saveRisk (state : PhaseBRiskState) : Silent (path.saveRisk state) := by
  refine (silent_ofResult fun e he => ?_).bind fun _ => silent_outside.bind fun _ => ?_
  · simp [V4Error.reportsPreDispatch, validateRiskState_error he]
  · exact Silent.modify fun _ => rfl

theorem silent_requireEntryRuntimeSafety (nowUtc : Instant) (cycleDayJst : TradingDay) :
    Silent (path.requireEntryRuntimeSafety nowUtc cycleDayJst) := by
  refine (path.silent_requireDeadManAlive nowUtc (by decide)).bind fun _ => ?_
  refine path.silent_loadRisk.bind fun state =>
    (silent_ofResult fun e he => ?_).bind fun gated => ?_
  · simp [V4Error.reportsPreDispatch, evaluateRiskBeforeEntry_error he]
  · exact (silent_require (by
      simp [coordinatedPathError, V4Error.reportsPreDispatch])).bind fun _ => Silent.pure _

theorem silent_paceBeforePrivatePost : Silent (paceBeforePrivatePost : Path β Unit) :=
  silent_monotonicNow.bind fun _ => (Silent.gets _).bind fun _ =>
    Silent.ite (silent_waitFor _) (Silent.pure _)

theorem silent_sendAndFinish (input : PerformInput) : Silent (path.sendAndFinish input) := by
  refine silent_monotonicNow.bind fun now => (silent_performOnce _ _ _ _).bind
    fun outcome => Silent.bind ?_ fun _ => Silent.pure outcome
  exact silent_outside.bind fun _ =>
    (silent_onStore (storeErrors_recordTransportOutcome _ _ _)).bind fun _ => silent_outside

theorem silent_marketBody (plan : V4GmoActionPlan) (attempt : V4PreparedAttempt)
    (riskState : PhaseBRiskState) (cycleDayJst : TradingDay) :
    Silent (path.marketBody plan attempt riskState cycleDayJst) := by
  refine (silent_ofResult fun e he => ?_).bind fun recorded => ?_
  · simp [V4Error.reportsPreDispatch, recordRiskEntryAttempt_error he]
  refine (path.silent_saveRisk _).bind fun _ => ?_
  refine (silent_onStore (storeErrors_marketAttemptCountForDay _)).bind fun count => ?_
  refine (silent_require (by
    simp [coordinatedPathError, V4Error.reportsPreDispatch])).bind fun _ => ?_
  refine silent_outside.bind fun _ => silent_outside.bind fun _ =>
    silent_paceBeforePrivatePost.bind fun _ => Silent.bind ?_ fun _ =>
      path.silent_sendAndFinish _
  exact silent_wallNow.bind fun nowUtc => path.silent_requireDeadManAlive nowUtc (by decide)

theorem silent_reconciledBody (input : PerformInput) : Silent (path.reconciledBody input) :=
  silent_outside.bind fun _ => silent_paceBeforePrivatePost.bind fun _ =>
    path.silent_sendAndFinish input

theorem silent_bindTransportGuard (plan : V4GmoActionPlan)
    (marketStatus : Option V4GmoPublicMarketStatusEvidence) :
    Silent (path.bindTransportGuard plan marketStatus) := by
  refine Silent.ite ((Silent.gets _).bind fun used => ?_) (Silent.pure _)
  exact Silent.ite (Silent.pure _) (silent_haltAndRefuse (by decide))

end V4GmoCoordinatedActualPath

end FxStrategyLab
