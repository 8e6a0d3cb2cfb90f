import FxStrategyLab.Path.Frames

/-!
# The methods of the path within their effects

Each method of `V4GmoCoordinatedActualPath` commits only the writes named in its
lemma, besides latching the unknown halt and binding the generation; only the
three `perform` methods send POSTs, and only the MARKET entry and the recording
of a result replace the risk file.
-/

namespace FxStrategyLab.V4GmoCoordinatedActualPath

open Library Path

variable {β : Type} (path : V4GmoCoordinatedActualPath β) {eff : PathEffects} {α : Type}

section Steps

variable (hhalt : eff.allowed .haltLatched)

theorem within_requireLock : Within (pathChange path.sha eff) (requireLock : Path β Unit) :=
  (Within.gets _).bind fun _ => within_require _ _

include hhalt

theorem within_haltAndRefuse (label : String) :
    Within (pathChange path.sha eff) (haltAndRefuse label : Path β α) :=
  (within_onStore (within_engageUnknownHalt hhalt)).bind fun _ => within_refuse _

theorem within_onStoreHalting {x : Store α} (hx : Within (storeWrites path.sha eff.allowed) x) :
    Within (pathChange path.sha eff) (onStoreHalting x : Path β α) := by
  refine (within_onStore hx).attempt fun e => Within.ite ?_ (Within.raise e)
  exact (within_onStore (within_engageUnknownHalt hhalt)).bind fun _ => Within.raise e

omit hhalt in
theorem within_mintReconciliationEvidence (cycleRef : Digest)
    (reconciliation : V4GmoActualReconciliation) (issuedMonotonic : Monotonic) :
    Within (pathChange path.sha eff)
      (path.mintReconciliationEvidence cycleRef reconciliation issuedMonotonic) := by
  refine (Within.gets _).bind fun objectId => Within.bind ?_ fun _ => Within.pure _
  exact within_modify_same fun _ => ⟨rfl, rfl, rfl, rfl, rfl⟩

omit hhalt in
theorem within_consumeReconciliationEvidence
    (evidence : V4AuthoritativeReconciliationEvidence) (cycleRef : Digest)
    (nowMonotonic : Monotonic) (maximumAge : Nat) :
    Within (pathChange path.sha eff)
      (path.consumeReconciliationEvidence evidence cycleRef nowMonotonic maximumAge) := by
  refine (Within.gets _).bind fun held => (within_require _ _).bind fun _ => ?_
  split
  · exact within_refuse _
  · refine (within_requireTimely _ _).bind fun _ => Within.bind ?_ fun _ =>
      (within_require _ _).bind fun _ => Within.pure _
    exact within_modify_same fun _ => ⟨rfl, rfl, rfl, rfl, rfl⟩

theorem within_requireReady (hbind : eff.allowed (.bindGeneration path.generation))
    (action : V4GmoAction) (plan : V4GmoActionPlan) :
    Within (pathChange path.sha eff) (path.requireReady action plan) := by
  refine path.within_requireLock.bind fun _ => ?_
  have hrest : Within (pathChange path.sha eff)
      (do
        require (plan.action = action)
          (coordinatedPathError "V4_COORDINATED_ACTION_MISMATCH")
        onStore (bindGeneration path.generation) : Path β Unit) :=
    (within_require _ _).bind fun _ => within_onStore (within_bindGeneration hhalt hbind)
  refine Within.ite ?_ hrest
  exact (within_onStore (within_unknownHaltLatched hhalt)).bind fun _ =>
    (within_require _ _).bind fun _ => hrest

theorem within_requireDeadManAlive (nowUtc : Instant) (label : String) :
    Within (pathChange path.sha eff) (path.requireDeadManAlive nowUtc label) := by
  refine within_outside.bind fun _ => (Within.gets _).bind fun file => ?_
  refine Within.ite ?_ (Within.pure _)
  exact (within_onStore (within_engageUnknownHalt hhalt)).bind fun _ => within_refuse _

omit hhalt in
theorem within_loadRisk : Within (pathChange path.sha eff) path.loadRisk :=
  within_outside.bind fun _ => (Within.gets _).bind fun _ => within_ofResult _

omit hhalt in
theorem within_saveRisk (hsaving : eff.saving) (state : PhaseBRiskState) :
    Within (pathChange path.sha eff) (path.saveRisk state) := by
  refine (within_ofResult _).bind fun _ => within_outside.bind fun _ => ?_
  exact Within.modify fun w =>
    { store := (storeWrites path.sha eff.allowed).refl _
      clock := .refl _
      transport := Or.inl rfl
      trace := ⟨[], by simp, by simp, by simp⟩
      risk := Or.inr hsaving }

theorem within_requireEntryRuntimeSafety (nowUtc : Instant) (cycleDayJst : TradingDay) :
    Within (pathChange path.sha eff)
      (path.requireEntryRuntimeSafety nowUtc cycleDayJst) := by
  refine (path.within_requireDeadManAlive hhalt _ _).bind fun _ => ?_
  refine path.within_loadRisk.bind fun state => (within_ofResult _).bind fun gated => ?_
  exact (within_require _ _).bind fun _ => Within.pure _

theorem within_requireTransportBoundaryDeadMan :
    Within (pathChange path.sha eff) path.requireTransportBoundaryDeadMan :=
  within_wallNow.bind fun _ => path.within_requireDeadManAlive hhalt _ _

omit hhalt in
theorem within_paceBeforePrivatePost :
    Within (pathChange path.sha eff) (paceBeforePrivatePost : Path β Unit) :=
  within_monotonicNow.bind fun _ => (Within.gets _).bind fun _ =>
    Within.ite (within_waitFor _) (Within.pure _)

theorem within_sendAndFinish (hposting : eff.posting) (input : PerformInput)
    (houtcome : ∀ outcome,
      eff.allowed (.transportOutcome input.plan.cycleRef input.plan.action outcome)) :
    Within (pathChange path.sha eff) (path.sendAndFinish input) := by
  refine within_monotonicNow.bind fun now => ?_
  refine (within_performOnce _ _ _ _ hhalt hposting).bind fun outcome => ?_
  refine Within.bind ?_ fun _ => Within.pure outcome
  refine within_outside.bind fun _ => Within.bind ?_ fun _ => within_outside
  exact within_onStore (within_recordTransportOutcome hhalt (houtcome outcome))

theorem within_dispatchGuarded (dispatchedBefore : Nat)
    {body : Path β V4GmoPrivateOutcome} (hbody : Within (pathChange path.sha eff) body) :
    Within (pathChange path.sha eff) (dispatchGuarded dispatchedBefore body) := by
  refine hbody.attempt fun e => ?_
  refine (within_onStore (within_unknownHaltLatched hhalt)).bind fun halted => ?_
  refine Within.ite (Within.raise e) ((Within.gets _).bind fun dispatched => ?_)
  refine Within.ite ?_ (Within.raise _)
  exact (within_onStore (within_engageUnknownHalt hhalt)).bind fun _ => Within.raise e

theorem within_dispatchPrepared (plan : V4GmoActionPlan) (attempt : V4PreparedAttempt)
    {body : Path β V4GmoPrivateOutcome} (hbody : Within (pathChange path.sha eff) body) :
    Within (pathChange path.sha eff) (dispatchPrepared plan attempt body) :=
  Within.ite (path.within_haltAndRefuse hhalt _)
    ((Within.gets _).bind fun _ => path.within_dispatchGuarded hhalt _ hbody)

end Steps

section Methods

variable (hhalt : eff.allowed .haltLatched)
  (hbind : eff.allowed (.bindGeneration path.generation))

include hhalt

theorem within_reconcileOnceFixed (cycleRef : Digest) (side : SignalDecision)
    (requestedSize : Nat) :
    Within (pathChange path.sha eff)
      (path.reconcileOnceFixed cycleRef side requestedSize) := by
  refine (Within.gets _).bind fun _ => (within_require _ _).bind fun _ => ?_
  refine (within_note rfl).bind fun _ => ?_
  refine (within_reconcileAtFixedCadence _ _ _ _).bind fun result => Within.ite ?_ ?_
  · exact within_monotonicNow.bind fun _ => path.within_mintReconciliationEvidence _ _ _
  · exact (Within.gets _).bind fun _ => path.within_haltAndRefuse hhalt _

theorem within_lookup {f : CycleRow → α} (signalFingerprint : Digest) :
    Within (pathChange path.sha eff)
      (onStore (lookupSignal signalFingerprint f) : Path β α) :=
  within_onStore (within_lookupSignal hhalt _ _)

theorem within_expectedClosedSize (signalFingerprint : Digest) :
    Within (pathChange path.sha eff)
      (onStore (expectedClosedSizeForSignal signalFingerprint) : Path β Nat) :=
  within_onStore (within_expectedClosedSizeForSignal hhalt _)

theorem within_prepareExactProtectionPlan
    (hplan : ∀ cycleRef plan price, eff.allowed (.protectionPlan cycleRef plan price))
    (signalFingerprint : Digest) (evidence : V4AuthoritativeReconciliationEvidence) :
    Within (pathChange path.sha eff)
      (path.prepareExactProtectionPlan signalFingerprint evidence) := by
  refine (path.within_lookup hhalt _).bind fun cycleRef => within_wallNow.bind fun _ => ?_
  refine within_monotonicNow.bind fun now => ?_
  refine (path.within_consumeReconciliationEvidence _ _ _ _).bind fun held => ?_
  refine (path.within_lookup hhalt _).bind fun side => Within.ite ?_ ?_
  · exact path.within_haltAndRefuse hhalt _
  · refine (within_onStore (within_persistExactProtectionPlan hhalt
      fun _ _ => hplan _ _ _)).bind fun plan => ?_
    exact (path.within_mintReconciliationEvidence _ _ _).bind fun _ => Within.pure _

theorem within_prepareCancelEntryRemainderPlan (signalFingerprint : Digest)
    (evidence : V4AuthoritativeReconciliationEvidence) :
    Within (pathChange path.sha eff)
      (path.prepareCancelEntryRemainderPlan signalFingerprint evidence) := by
  refine (path.within_lookup hhalt _).bind fun cycleRef => within_monotonicNow.bind
    fun now => ?_
  refine (path.within_consumeReconciliationEvidence _ _ _ _).bind fun held => ?_
  refine (path.within_lookup hhalt _).bind fun side => Within.ite ?_ ?_
  · exact path.within_haltAndRefuse hhalt _
  · refine (within_ofResult _).bind fun plan => ?_
    exact (path.within_mintReconciliationEvidence _ _ _).bind fun _ => Within.pure _

theorem within_confirmExactProtectionOnce
    (hconfirm : ∀ signalFingerprint size nowUtc nowMonotonic,
      eff.allowed (.confirmProtection signalFingerprint size nowUtc nowMonotonic))
    (signalFingerprint : Digest) (evidence : V4AuthoritativeReconciliationEvidence) :
    Within (pathChange path.sha eff)
      (path.confirmExactProtectionOnce signalFingerprint evidence) := by
  refine within_wallNow.bind fun _ => within_monotonicNow.bind fun now => ?_
  refine path.within_requireLock.bind fun _ => ?_
  refine (path.within_lookup hhalt _).bind fun cycleRef => ?_
  refine (path.within_consumeReconciliationEvidence _ _ _ _).bind fun held => ?_
  refine Within.ite (path.within_haltAndRefuse hhalt _) ?_
  exact path.within_onStoreHalting hhalt
    (within_confirmExactProtection hhalt (hconfirm _ _ _ _))

theorem within_recordFlatClosedResultOnce (hsaving : eff.saving)
    (hclosed : ∀ cycleRef pnl, eff.allowed (.closedMetrics cycleRef pnl))
    (signalFingerprint : Digest) (evidence : V4AuthoritativeReconciliationEvidence) :
    Within (pathChange path.sha eff)
      (path.recordFlatClosedResultOnce signalFingerprint evidence) := by
  refine path.within_requireLock.bind fun _ => ?_
  refine (path.within_lookup hhalt _).bind fun cycleRef => within_wallNow.bind fun _ => ?_
  refine within_monotonicNow.bind fun now => ?_
  refine (path.within_consumeReconciliationEvidence _ _ _ _).bind fun held => ?_
  refine (path.within_expectedClosedSize hhalt _).bind fun size => ?_
  refine Within.ite (path.within_haltAndRefuse hhalt _) ?_
  refine (path.within_onStoreHalting hhalt
    (within_recordClosedMetricsOnce hhalt (hclosed _ _))).bind fun _ => ?_
  refine path.within_loadRisk.bind fun state => (within_ofResult _).bind fun closed => ?_
  exact (path.within_saveRisk hsaving _).bind fun _ => Within.pure _

theorem within_classifyProtectedLifecycleOnce (signalFingerprint : Digest)
    (evidence : V4AuthoritativeReconciliationEvidence) :
    Within (pathChange path.sha eff)
      (path.classifyProtectedLifecycleOnce signalFingerprint evidence) := by
  refine path.within_requireLock.bind fun _ => ?_
  refine (path.within_lookup hhalt _).bind fun cycleRef => within_monotonicNow.bind
    fun now => ?_
  refine (path.within_consumeReconciliationEvidence _ _ _ _).bind fun held => ?_
  refine (path.within_expectedClosedSize hhalt _).bind fun size => ?_
  refine (path.within_lookup hhalt _).bind fun side => ?_
  refine Within.ite (Within.pure _) (Within.ite ?_ (path.within_haltAndRefuse hhalt _))
  exact (path.within_mintReconciliationEvidence _ _ _).bind fun _ => Within.pure _

theorem within_bindTransportGuard (plan : V4GmoActionPlan)
    (marketStatus : Option V4GmoPublicMarketStatusEvidence) :
    Within (pathChange path.sha eff) (path.bindTransportGuard plan marketStatus) := by
  refine Within.ite ((Within.gets _).bind fun used => ?_) (Within.pure _)
  exact Within.ite (Within.pure _) (path.within_haltAndRefuse hhalt _)

omit hhalt in
omit hhalt in
theorem within_heartbeat (heartbeatUtc : Instant) :
    Within (pathChange path.sha eff) (path.heartbeat heartbeatUtc) := by
  refine within_outside.bind fun _ => (Within.gets _).bind fun file => ?_
  refine (within_ofResult _).bind fun written => within_outside.bind fun _ => ?_
  exact within_modify_same fun _ => ⟨rfl, rfl, rfl, rfl, rfl⟩

include hbind

theorem within_resolveWithEvidence
    (hresolve : ∀ input nowUtc, eff.allowed (.resolve input nowUtc)) (cycleRef : Digest)
    (evidence : V4AuthoritativeReconciliationEvidence) :
    Within (pathChange path.sha eff) (path.resolveWithEvidence cycleRef evidence) := by
  refine path.within_requireLock.bind fun _ => ?_
  refine (within_onStore (within_bindGeneration hhalt hbind)).bind fun _ => ?_
  refine within_monotonicNow.bind fun now => ?_
  refine (path.within_consumeReconciliationEvidence _ _ _ _).bind fun held => ?_
  refine within_wallNow.bind fun nowUtc => Within.bind ?_ fun _ => Within.pure _
  exact path.within_onStoreHalting hhalt
    (within_resolvePendingTransport hhalt (hresolve _ _))

theorem within_recoverPendingTransportOnce
    (hresolve : ∀ input nowUtc, eff.allowed (.resolve input nowUtc)) (cycleRef : Digest)
    (evidence : V4AuthoritativeReconciliationEvidence) :
    Within (pathChange path.sha eff)
      (path.recoverPendingTransportOnce cycleRef evidence) :=
  (path.within_resolveWithEvidence hhalt hbind hresolve _ _).bind fun _ => Within.pure _

theorem within_recoverPendingTransportAndCarryOnce
    (hresolve : ∀ input nowUtc, eff.allowed (.resolve input nowUtc)) (cycleRef : Digest)
    (evidence : V4AuthoritativeReconciliationEvidence) :
    Within (pathChange path.sha eff)
      (path.recoverPendingTransportAndCarryOnce cycleRef evidence) := by
  refine (path.within_resolveWithEvidence hhalt hbind hresolve _ _).bind fun resolved => ?_
  exact (path.within_mintReconciliationEvidence _ _ _).bind fun _ => Within.pure _

theorem within_recordCanaryEntryPreflight (hpreflight : ∀ input nowUtc nowMonotonic,
      eff.allowed (.entryPreflight input nowUtc nowMonotonic))
    (signalFingerprint cycleRef : Digest) (instructionBid instructionAsk : ℚ)
    (evidence : V4AuthoritativeReconciliationEvidence) :
    Within (pathChange path.sha eff)
      (path.recordCanaryEntryPreflight signalFingerprint cycleRef instructionBid
        instructionAsk evidence) := by
  refine path.within_requireLock.bind fun _ => ?_
  refine (within_onStore (within_bindGeneration hhalt hbind)).bind fun _ => ?_
  refine within_outside.bind fun _ => within_wallNow.bind fun nowUtc => ?_
  refine within_monotonicNow.bind fun now => ?_
  refine (path.within_consumeReconciliationEvidence _ _ _ _).bind fun held => ?_
  refine (within_onStore (within_recordEntryPreflight hhalt (hpreflight _ _ _))).bind
    fun authorization => (Within.gets _).bind fun authorizations => ?_
  refine Within.ite (path.within_haltAndRefuse hhalt _) ?_
  refine Within.bind ?_ fun _ => Within.pure _
  exact within_modify_same fun _ => ⟨rfl, rfl, rfl, rfl, rfl⟩

omit hbind in
theorem within_marketBody (hposting : eff.posting) (hsaving : eff.saving)
    (plan : V4GmoActionPlan) (attempt : V4PreparedAttempt) (riskState : PhaseBRiskState)
    (cycleDayJst : TradingDay) (houtcome : ∀ outcome,
      eff.allowed (.transportOutcome plan.cycleRef plan.action outcome)) :
    Within (pathChange path.sha eff)
      (path.marketBody plan attempt riskState cycleDayJst) := by
  refine (within_ofResult _).bind fun recorded => ?_
  refine (path.within_saveRisk hsaving _).bind fun _ => ?_
  refine (within_onStore (within_marketAttemptCountForDay hhalt _)).bind fun count => ?_
  refine (within_require _ _).bind fun _ => within_outside.bind fun _ => ?_
  refine within_outside.bind fun _ => path.within_paceBeforePrivatePost.bind fun _ => ?_
  refine (path.within_requireTransportBoundaryDeadMan hhalt).bind fun _ => ?_
  exact path.within_sendAndFinish hhalt hposting _ houtcome

theorem within_performMarketOnce (hposting : eff.posting) (hsaving : eff.saving)
    (signalFingerprint : Digest) (plan : V4GmoActionPlan)
    (hmarket : ∀ authorization nowUtc nowMonotonic,
      eff.allowed
        (.marketAttempt authorization signalFingerprint plan nowUtc nowMonotonic))
    (houtcome : ∀ outcome,
      eff.allowed (.transportOutcome plan.cycleRef plan.action outcome)) :
    Within (pathChange path.sha eff) (path.performMarketOnce signalFingerprint plan) := by
  refine within_wallNow.bind fun nowUtc => within_monotonicNow.bind fun nowMonotonic => ?_
  refine (path.within_requireReady hhalt hbind _ _).bind fun _ => ?_
  refine (within_requireTimely _ _).bind fun _ => ?_
  refine (path.within_requireEntryRuntimeSafety hhalt _ _).bind fun riskState => ?_
  refine (within_onStore (within_marketAttemptCountForDay hhalt _)).bind fun count => ?_
  refine Within.ite (path.within_haltAndRefuse hhalt _) ((Within.gets _).bind
    fun authorizations => ?_)
  split
  · exact within_refuse _
  · refine Within.bind (within_modify_same fun _ => ⟨rfl, rfl, rfl, rfl, rfl⟩) fun _ => ?_
    refine (within_onStore (within_recordMarketAttempt hhalt (hmarket _ _ _))).bind
      fun attempt => ?_
    exact path.within_dispatchPrepared hhalt _ _
      (path.within_marketBody hhalt hposting hsaving _ _ _ _ houtcome)

omit hbind in
theorem within_reconciledBody (hposting : eff.posting) (input : PerformInput)
    (houtcome : ∀ outcome,
      eff.allowed (.transportOutcome input.plan.cycleRef input.plan.action outcome)) :
    Within (pathChange path.sha eff) (path.reconciledBody input) :=
  within_outside.bind fun _ => path.within_paceBeforePrivatePost.bind fun _ =>
    path.within_sendAndFinish hhalt hposting input houtcome

theorem within_performExactProtectionOnce (hposting : eff.posting)
    (signalFingerprint : Digest) (plan : V4GmoActionPlan)
    (protectionPlan : V4GmoExactProtectionPlan) (evidence : V4AuthoritativeReconciliationEvidence)
    (hprotection : ∀ digest nowUtc nowMonotonic,
      eff.allowed (.protectionAttempt signalFingerprint plan protectionPlan digest nowUtc
        nowMonotonic))
    (houtcome : ∀ outcome,
      eff.allowed (.transportOutcome plan.cycleRef plan.action outcome)) :
    Within (pathChange path.sha eff)
      (path.performExactProtectionOnce signalFingerprint plan protectionPlan
        evidence) := by
  refine within_wallNow.bind fun nowUtc => within_monotonicNow.bind fun nowMonotonic => ?_
  refine (path.within_requireReady hhalt hbind _ _).bind fun _ => ?_
  refine (path.within_consumeReconciliationEvidence _ _ _ _).bind fun held => ?_
  refine (within_onStore (within_recordExactProtectionAttempt hhalt
    (hprotection _ _ _))).bind fun attempt => ?_
  exact path.within_dispatchPrepared hhalt _ _
    (path.within_reconciledBody hhalt hposting _ houtcome)

theorem within_performRiskReducingOnce (hposting : eff.posting)
    (signalFingerprint : Digest) (plan : V4GmoActionPlan)
    (evidence : V4AuthoritativeReconciliationEvidence)
    (marketStatus : Option V4GmoPublicMarketStatusEvidence)
    (hrisk : ∀ reconciliation digest nowUtc,
      eff.allowed (.riskReducing
        (riskReducingInput signalFingerprint plan reconciliation digest) nowUtc))
    (houtcome : ∀ outcome,
      eff.allowed (.transportOutcome plan.cycleRef plan.action outcome)) :
    Within (pathChange path.sha eff)
      (path.performRiskReducingOnce signalFingerprint plan evidence marketStatus) := by
  refine within_wallNow.bind fun nowUtc => within_monotonicNow.bind fun nowMonotonic => ?_
  refine (within_require _ _).bind fun _ => ?_
  refine (path.within_requireReady hhalt hbind _ _).bind fun _ => ?_
  refine (path.within_bindTransportGuard hhalt _ _).bind fun guard => ?_
  refine (path.within_consumeReconciliationEvidence _ _ _ _).bind fun held => ?_
  refine (within_onStore (within_recordRiskReducingAttempt hhalt (fun _ => hrisk _ _ _))).bind
    fun attempt => ?_
  exact path.within_dispatchPrepared hhalt _ _
    (path.within_reconciledBody hhalt hposting _ houtcome)

end Methods

end FxStrategyLab.V4GmoCoordinatedActualPath
