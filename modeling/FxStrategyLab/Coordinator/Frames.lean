import FxStrategyLab.Coordinator.Writes

/-!
# The store methods within their writes

Each store method commits only the writes named in its lemma, and any number
of halts that a monitor latches meanwhile, whether it returns, raises or is
killed on the way.
-/

namespace FxStrategyLab

open Library

section Frames

variable {sha : Sha256} {allowed : LedgerWrite → Prop}

variable {α : Type}

theorem commitsOne_of_ok {t : Transaction α} (w : LedgerWrite)
    (hw : allowed w) (hcommit : ∀ l, w.commit sha l = (t l).map Prod.snd) :
    ∀ l a l', t l = .ok (a, l') → l' = l ∨ CommitsOne sha allowed l l' := by
  intro l a l' h
  exact Or.inr ⟨w, hw, (hcommit l).trans (map_snd_eq_ok.mpr ⟨a, h⟩)⟩

theorem within_bindGeneration {generation : V4GmoFrozenGeneration}
    (hhalt : allowed .haltLatched) (hbind : allowed (.bindGeneration generation)) :
    Within (storeWrites sha allowed) (bindGeneration generation) :=
  within_transact hhalt (commitsOne_of_ok (.bindGeneration generation) hbind fun _ => rfl)

theorem within_unknownHaltLatched (hhalt : allowed .haltLatched) :
    Within (storeWrites sha allowed) unknownHaltLatched :=
  within_query hhalt _

theorem within_engageUnknownHalt (hhalt : allowed .haltLatched) :
    Within (storeWrites sha allowed) engageUnknownHalt :=
  within_transact hhalt (commitsOne_of_ok .haltLatched hhalt fun _ => rfl)

theorem within_openStore (hhalt : allowed .haltLatched) (latch : Bool) :
    Within (storeWrites sha allowed) (openStore latch) := by
  refine within_transact hhalt fun l a l' h => ?_
  simp only [Except.ok.injEq, Prod.mk.injEq] at h
  obtain ⟨-, rfl⟩ := h
  split
  · exact Or.inr ⟨.haltLatched, hhalt, rfl⟩
  · exact Or.inl rfl

variable {nowUtc : Instant}

theorem within_validateAndPriceEntry {intent : EntryIntent} (hhalt : allowed .haltLatched)
    (hbind : allowed (.bindGeneration intent.generation)) :
    Within (storeWrites sha allowed) (validateAndPriceEntry sha intent nowUtc) := by
  refine (within_bindGeneration hhalt hbind).bind fun _ => ?_
  refine (within_unknownHaltLatched hhalt).bind fun halted => ?_
  exact (Within.require _ _).bind fun _ => within_ofExcept _

theorem within_reserveEntryCycle {intent : EntryIntent} (hhalt : allowed .haltLatched)
    (hbind : allowed (.bindGeneration intent.generation))
    (hreserve : ∀ risk, allowed (.reserve intent risk nowUtc)) :
    Within (storeWrites sha allowed) (reserveEntryCycle sha intent nowUtc) := by
  refine (Within.require _ _).bind fun _ => ?_
  refine (within_validateAndPriceEntry hhalt hbind).bind fun risk => ?_
  refine Within.bind ?_ fun _ => Within.pure risk
  exact within_transact hhalt
    (commitsOne_of_ok (.reserve intent risk nowUtc) (hreserve risk) fun _ => rfl)

variable {cycleRef signalFingerprint reconciliationDigest requestBindingDigest : Digest}

theorem within_release (hhalt : allowed .haltLatched) (hrelease : allowed (.release cycleRef)) :
    Within (storeWrites sha allowed) (releaseUnattemptedReservation cycleRef) :=
  within_transact hhalt (commitsOne_of_ok (.release cycleRef) hrelease fun _ => rfl)

variable {nowMonotonic : Monotonic}

theorem within_recordEntryPreflight {input : EntryPreflightInput} (hhalt : allowed .haltLatched)
    (hpreflight : allowed (.entryPreflight input nowUtc nowMonotonic)) :
    Within (storeWrites sha allowed)
      (recordEntryPreflight sha input nowUtc nowMonotonic) := by
  refine (Within.require _ _).bind fun _ => ?_
  refine Within.bind ?_ fun digest =>
    within_issueObject.bind fun objectId => Within.pure _
  exact within_transact hhalt
    (commitsOne_of_ok (.entryPreflight input nowUtc nowMonotonic) hpreflight fun _ => rfl)

theorem within_issuePreparedAttempt (hhalt : allowed .haltLatched) (row : AttemptRow)
    (protectionPlanDigest : Option Digest) (deadline : Option Monotonic) :
    Within (storeWrites sha allowed)
      (issuePreparedAttempt row protectionPlanDigest deadline) := by
  refine Within.bind ?_ fun verifier =>
    within_issueObject.bind fun objectId => Within.pure _
  refine (within_query hhalt _).bind fun generation => ?_
  cases generation with
  | none => exact Within.raise _
  | some generationDigest => exact Within.pure _

variable {plan : V4GmoActionPlan}

theorem within_recordMarketAttempt {authorization : V4VerifiedEntryPreflightAuthorization}
    (hhalt : allowed .haltLatched) (hmarket : allowed
      (.marketAttempt authorization signalFingerprint plan nowUtc nowMonotonic)) :
    Within (storeWrites sha allowed)
      (recordMarketAttempt sha authorization signalFingerprint plan nowUtc
        nowMonotonic) := by
  refine (Within.gets _).bind fun consumed => (Within.require _ _).bind fun _ => ?_
  refine (within_unknownHaltLatched hhalt).bind fun halted =>
    (Within.require _ _).bind fun _ => ?_
  refine Within.bind ?_ fun attempt =>
    (within_consumeObject _).bind fun _ => within_issuePreparedAttempt hhalt _ _ _
  exact within_transact hhalt (commitsOne_of_ok _ hmarket fun _ => rfl)

theorem within_persistExactProtectionPlan {averageFillPrice : ℚ} {filledSize : Nat}
    (hhalt : allowed .haltLatched)
    (hplan : ∀ cycleRef plan, allowed (.protectionPlan cycleRef plan averageFillPrice)) :
    Within (storeWrites sha allowed)
      (persistExactProtectionPlan sha signalFingerprint averageFillPrice filledSize
        nowMonotonic) := by
  refine (within_query hhalt _).bind fun found => ?_
  cases found with
  | none => exact Within.raise _
  | some row =>
      refine (within_ofExcept _).bind fun plan => ?_
      refine Within.bind ?_ fun _ => Within.pure plan
      exact within_transact hhalt
        (commitsOne_of_ok (.protectionPlan row.cycleRef plan averageFillPrice)
          (hplan _ _) fun _ => rfl)

theorem within_recordExactProtectionAttempt {protectionPlan : V4GmoExactProtectionPlan}
    (hhalt : allowed .haltLatched) (hprotection : allowed
      (.protectionAttempt signalFingerprint plan protectionPlan reconciliationDigest
        nowUtc nowMonotonic)) :
    Within (storeWrites sha allowed)
      (recordExactProtectionAttempt sha signalFingerprint plan protectionPlan
        reconciliationDigest nowUtc nowMonotonic) := by
  refine Within.bind ?_ fun attempt => within_issuePreparedAttempt hhalt _ _ _
  exact within_transact hhalt (commitsOne_of_ok _ hprotection fun _ => rfl)

theorem within_recordRiskReducingAttempt {input : RiskReducingInput}
    (hhalt : allowed .haltLatched) (hrisk : input.plan.action ∈ V4GmoAction.riskReducing →
      allowed (.riskReducing input nowUtc)) :
    Within (storeWrites sha allowed) (recordRiskReducingAttempt sha input nowUtc) := by
  refine Within.require_bind fun haction => (Within.require _ _).bind fun _ =>
    (Within.require _ _).bind fun _ => ?_
  refine Within.bind ?_ fun attempt => within_issuePreparedAttempt hhalt _ _ _
  exact within_transact hhalt
    (commitsOne_of_ok (.riskReducing input nowUtc) (hrisk haction) fun _ => rfl)

theorem within_consumePersistedActionAuthorization
    {authorization : V4PersistedActionAuthorization}
    {protectionPlan : Option V4GmoExactProtectionPlan} {reconciliationDigest : Option Digest}
    (hhalt : allowed .haltLatched) :
    Within (storeWrites sha allowed)
      (consumePersistedActionAuthorization sha authorization plan protectionPlan
        reconciliationDigest requestBindingDigest nowMonotonic) := by
  refine (Within.gets _).bind fun consumed => (Within.require _ _).bind fun _ => ?_
  refine (within_ofExcept _).bind fun _ => (within_query hhalt _).bind fun committed => ?_
  refine (Within.require _ _).bind fun _ => (within_consumeObject _).bind fun _ => ?_
  exact within_issueObject.bind fun objectId => Within.pure _

theorem within_consumePersistedTransportAuthorization
    {authorization : V4PersistedTransportAuthorization} {allowedActions : List V4GmoAction} :
    Within (storeWrites sha allowed)
      (consumePersistedTransportAuthorization authorization cycleRef allowedActions
        requestBindingDigest) :=
  (Within.gets _).bind fun _ => (Within.require _ _).bind fun _ => within_consumeObject _

theorem within_recordTransportOutcome {action : V4GmoAction}
    {outcome : V4GmoPrivateOutcome} (hhalt : allowed .haltLatched)
    (houtcome : allowed (.transportOutcome cycleRef action outcome)) :
    Within (storeWrites sha allowed) (recordTransportOutcome cycleRef action outcome) :=
  within_transact hhalt (commitsOne_of_ok _ houtcome fun _ => rfl)

theorem within_resolvePendingTransport {input : RecoveryInput}
    (hhalt : allowed .haltLatched) (hresolve : allowed (.resolve input nowUtc)) :
    Within (storeWrites sha allowed) (resolvePendingTransport input nowUtc) :=
  (Within.require _ _).bind fun _ =>
    within_transact hhalt (commitsOne_of_ok (.resolve input nowUtc) hresolve fun _ => rfl)

theorem within_confirmExactProtection {size : Nat} (hhalt : allowed .haltLatched)
    (hconfirm : allowed (.confirmProtection signalFingerprint size nowUtc nowMonotonic)) :
    Within (storeWrites sha allowed)
      (confirmExactProtectionWithinDeadline signalFingerprint size nowUtc nowMonotonic) :=
  within_transact hhalt (commitsOne_of_ok _ hconfirm fun _ => rfl)

theorem within_recordClosedMetricsOnce {realizedPnlJpy : Int} (hhalt : allowed .haltLatched)
    (hclosed : allowed (.closedMetrics cycleRef realizedPnlJpy)) :
    Within (storeWrites sha allowed) (recordClosedMetricsOnce cycleRef realizedPnlJpy) :=
  within_transact hhalt (commitsOne_of_ok _ hclosed fun _ => rfl)

theorem within_reconcileExternalFlatNoPost {input : ExternalFlatInput}
    (hhalt : allowed .haltLatched) (hflat : allowed (.externalFlat input)) :
    Within (storeWrites sha allowed) (reconcileExternalFlatNoPost input nowUtc) := by
  unfold reconcileExternalFlatNoPost
  split
  · exact within_transact hhalt (commitsOne_of_ok _ hflat fun _ => rfl)
  · exact Within.pure false

theorem within_recordKillRehearsal (hhalt : allowed .haltLatched)
    (hkill : allowed (.killRehearsal cycleRef)) :
    Within (storeWrites sha allowed) (recordKillRehearsalPendingNoTransport cycleRef) :=
  within_transact hhalt (commitsOne_of_ok _ hkill fun _ => rfl)

theorem within_initializeInheritedBaseline {baseline : InheritedAttemptBaseline}
    (hhalt : allowed .haltLatched) (hbaseline : allowed (.inheritedBaseline baseline)) :
    Within (storeWrites sha allowed)
      (initializeInheritedMarketAttemptBaselineOnce baseline) :=
  within_transact hhalt (commitsOne_of_ok _ hbaseline fun _ => rfl)

theorem within_reading {t : Transaction α} (hhalt : allowed .haltLatched)
    (ht : ∀ l a l', t l = .ok (a, l') → l' = l) : Within (storeWrites sha allowed) (transact t) :=
  within_transact hhalt fun l a l' h => Or.inl (ht l a l' h)

theorem within_lookupSignal (hhalt : allowed .haltLatched)
    (signalFingerprint : Digest) (f : CycleRow → α) :
    Within (storeWrites sha allowed) (lookupSignal signalFingerprint f) := by
  refine within_reading hhalt fun l a l' h => ?_
  split at h
  · cases h
  · cases h
    rfl

theorem within_expectedClosedSizeForSignal (hhalt : allowed .haltLatched)
    (signalFingerprint : Digest) :
    Within (storeWrites sha allowed) (expectedClosedSizeForSignal signalFingerprint) :=
  (within_lookupSignal hhalt _ _).bind fun _ => within_ofExcept _

theorem within_marketAttemptCountForDay (hhalt : allowed .haltLatched)
    (tradingDayJst : TradingDay) :
    Within (storeWrites sha allowed) (marketAttemptCountForDay tradingDayJst) := by
  refine within_reading hhalt fun l a l' h => ?_
  split at h
  · cases h
    rfl
  · split at h
    · cases h
      rfl
    · cases h

end Frames

end FxStrategyLab
