import FxStrategyLab.Coordinator.Monitor

/-!
# What the store can write

Every change of the ledger is one of the transactions listed in `LedgerWrite`.
For each of them an inversion lemma says under which guards it commits and
what the ledger is afterwards; the invariants of the later modules are derived
from these lemmas and not from the transactions.

`writes allowed` is the frame of the processes that commit nothing but allowed
transactions.  Every store method is placed in such a frame once, so that a
fact about all writes is a fact about all methods, however they end.
-/

namespace FxStrategyLab

open Library

section Writes

variable (sha : Sha256)

variable {l l' : Ledger} {row attempt : AttemptRow}

theorem insertAttempt_ok {secondRefused : String}
    (h : l.insertAttempt row secondRefused = .ok l') :
    l.pendingTransportAttempt = none ∧ l.attempts.Fresh row ∧
      l'.attempts.rows = l.attempts.rows ++ [row] ∧
      l' = { l with
        attempts := l'.attempts
        pendingTransportAttempt := some ⟨row.action, row.cycleRef⟩ } := by
  unfold Ledger.insertAttempt at h
  split at h
  · cases h
  · rename_i attempts hinsert
    split at h
    · cases h
    · rename_i hpending
      cases h
      have hrows := Table.insert?_eq_some.mp hinsert
      exact ⟨hpending, hrows.1, hrows.2, rfl⟩

variable {u : Unit}

theorem bindGenerationTransaction_ok {generation : V4GmoFrozenGeneration}
    (h : bindGenerationTransaction generation l = .ok (u, l')) :
    (l.generation = none ∨ l.generation = some generation.binding) ∧
      l' = { l with generation := some generation.binding } := by
  unfold bindGenerationTransaction at h
  split at h
  · rename_i hnone
    cases h
    exact ⟨Or.inl hnone, rfl⟩
  · rename_i existing hsome
    split at h
    · rename_i heq
      cases h
      rw [heq] at hsome
      refine ⟨Or.inr hsome, ?_⟩
      rw [← hsome]
    · cases h

variable {nowUtc : Instant}

theorem reserveTransaction_ok {intent : EntryIntent} {risk : V4FrozenSignalRisk}
    (h : reserveTransaction sha intent risk nowUtc l = .ok (u, l')) :
    (∀ row ∈ l.unresolved,
        externalFlatReconciliationMatches l.externalFlatReconciliation row.cycleRef
          intent.generation.digest nowUtc = true) ∧
      l.cycles.Fresh (reservedRow sha intent risk nowUtc) ∧
      l'.cycles.rows = l.cycles.rows ++ [reservedRow sha intent risk nowUtc] ∧
      l' = { l with cycles := l'.cycles } := by
  unfold reserveTransaction at h
  split at h
  · cases h
  · rename_i hcovered
    split at h
    · cases h
    · rename_i cycles hinsert
      cases h
      have hrows := Table.insert?_eq_some.mp hinsert
      refine ⟨?_, hrows.1, hrows.2, rfl⟩
      intro row hrow
      by_contra hmatch
      refine hcovered (List.any_eq_true.mpr ⟨row, hrow, ?_⟩)
      simpa using hmatch

variable {cycleRef digest signalFingerprint reconciliationDigest : Digest}

theorem releaseTransaction_ok {released : Bool}
    (h : releaseTransaction cycleRef l = .ok (released, l')) :
    (l.unknownHaltLatched = true ∧ released = false ∧ l' = l) ∨
      (l.unknownHaltLatched = false ∧
        l' = { l with
          cycles := l.cycles.deleteWhere fun row =>
            row.cycleRef = cycleRef && row.unattempted }) := by
  unfold releaseTransaction at h
  split at h
  · rename_i hhalt
    cases h
    exact Or.inl ⟨hhalt, rfl, rfl⟩
  · rename_i hhalt
    cases h
    exact Or.inr ⟨by simpa using hhalt, rfl⟩

variable {nowMonotonic attempted : Monotonic}

theorem entryPreflightTransaction_ok {input : EntryPreflightInput}
    (h : entryPreflightTransaction sha input nowUtc nowMonotonic l = .ok (digest, l')) :
    ∃ row, l.cycle? input.evidence.cycleRef = some row ∧
      l.generationDigest? = some input.evidence.generationDigest ∧
      row.signalFingerprint = input.evidence.signalFingerprint ∧ input.accountClear ∧
      row.signalValid nowUtc = true ∧
      row.awaitsPreflight = true ∧ digest = sha.prefixed input.canonicalJson ∧
      l' = l.updateCycles (fun r => r.cycleRef = row.cycleRef)
        (fun r => r.withPreflight input digest nowUtc nowMonotonic)
        (fun _ => ⟨rfl, rfl⟩) := by
  unfold entryPreflightTransaction at h
  split at h
  · cases h
  · rename_i row hrow
    dsimp only at h
    split at h
    · rename_i hvalid
      split at h
      · rename_i hawaits
        cases h
        rw [Bool.and_eq_true, decide_eq_true_eq] at hvalid
        exact ⟨row, hrow, hvalid.1.1, hvalid.1.2.1, hvalid.1.2.2, hvalid.2, hawaits, rfl,
          rfl⟩
      · cases h
    · cases h

variable {plan : V4GmoActionPlan}

theorem marketAttemptTransaction_ok {authorization : V4VerifiedEntryPreflightAuthorization}
    (h : marketAttemptTransaction sha authorization signalFingerprint plan nowUtc
      nowMonotonic l = .ok (attempt, l')) :
    ∃ row inserted, l.cycleOfSignal? signalFingerprint = some row ∧
      row.admitsMarket plan authorization = true ∧
      row.marketTimely nowUtc nowMonotonic = true ∧
      attempt = marketAttemptRow sha plan row.cycleRef nowUtc ∧
      l.insertAttempt attempt "second v4 MARKET attempt refused" = .ok inserted ∧
      l' = inserted.updateCycles (fun r => r.cycleRef = row.cycleRef)
        (fun r => r.withMarketAttempt nowUtc nowMonotonic) (fun _ => ⟨rfl, rfl⟩) := by
  unfold marketAttemptTransaction at h
  split at h
  · cases h
  · rename_i row hrow
    split at h
    · rename_i hadmits
      rw [Bool.and_eq_true] at hadmits
      dsimp only at h
      split at h
      · cases h
      · rename_i inserted hinsert
        cases h
        exact ⟨row, inserted, hrow, hadmits.1, hadmits.2, rfl, hinsert, rfl⟩
    · cases h

theorem protectionPlanTransaction_ok {plan : V4GmoExactProtectionPlan} {averageFillPrice : ℚ}
    (h : protectionPlanTransaction sha cycleRef plan averageFillPrice l = .ok (u, l')) :
    ∃ row, l.cycle? cycleRef = some row ∧ row.protectionPlanDigest = none ∧
      l' = l.updateCycles (fun r => r.cycleRef = cycleRef)
        (fun r => r.withProtectionPlan sha plan averageFillPrice)
        (fun _ => ⟨rfl, rfl⟩) := by
  unfold protectionPlanTransaction at h
  split at h
  · cases h
  · rename_i row hrow
    split at h
    · rename_i hnone
      cases h
      exact ⟨row, hrow, Option.isNone_iff_eq_none.mp hnone, rfl⟩
    · cases h

theorem protectionAttemptTransaction_ok {protectionPlan : V4GmoExactProtectionPlan}
    (h : protectionAttemptTransaction sha signalFingerprint plan protectionPlan
      reconciliationDigest nowUtc nowMonotonic l = .ok ((attempt, attempted), l')) :
    ∃ row, l.cycleOfSignal? signalFingerprint = some row ∧
      l.haltAllowsAction plan.cycleRef .exactSizeOcoProtection = true ∧
      row.admitsProtection sha plan protectionPlan reconciliationDigest = true ∧
      row.marketAttemptedMonotonic = some attempted ∧
      monotonicWithin attempted nowMonotonic v4ProtectionDeadline = true ∧
      attempt = reconciledAttemptRow sha plan row.cycleRef reconciliationDigest nowUtc ∧
      l.insertAttempt attempt "second v4 protection attempt refused" = .ok l' := by
  unfold protectionAttemptTransaction at h
  split at h
  · cases h
  · rename_i hhalt
    split at h
    · cases h
    · rename_i row hrow
      split at h
      · cases h
      · rename_i hadmits
        split at h
        · cases h
        · rename_i attemptedMonotonic hattempted
          split at h
          · rename_i hwithin
            dsimp only at h
            split at h
            · cases h
            · rename_i inserted hinsert
              cases h
              exact ⟨row, hrow, by simpa using hhalt, by simpa using hadmits,
                hattempted, hwithin, rfl, hinsert⟩
          · cases h

theorem fixSettlementSize_ok {row : CycleRow} (h : l.fixSettlementSize row plan = .ok l') :
    (plan.action ∉ V4GmoAction.positionClose ∧ l' = l) ∨
      (plan.action ∈ V4GmoAction.positionClose ∧
        row.admitsSettlementSize plan.requestedSize = true ∧
        l' = l.updateCycles (fun r => r.cycleRef = row.cycleRef)
          (fun r => r.withSettlementSize plan.requestedSize) (fun _ => ⟨rfl, rfl⟩)) := by
  unfold Ledger.fixSettlementSize at h
  split at h
  · rename_i hclose
    split at h
    · rename_i hadmits
      cases h
      exact Or.inr ⟨hclose, hadmits, rfl⟩
    · cases h
  · rename_i hclose
    cases h
    exact Or.inl ⟨hclose, rfl⟩

theorem riskReducingTransaction_ok {input : RiskReducingInput}
    (h : riskReducingTransaction sha input nowUtc l = .ok (attempt, l')) :
    ∃ row attemptedAt settled, l.cycleOfSignal? input.signalFingerprint = some row ∧
      row.marketAttemptedAtUtc = some attemptedAt ∧
      input.plan.cycleRef = row.cycleRef ∧ input.plan.side = row.side ∧
      l.haltAllowsAction row.cycleRef input.plan.action = true ∧
      riskReducingStateValid input.plan.action row.side input.plan.requestedSize
        input.snapshot input.positionBundleTotal = true ∧
      (input.plan.action ∈ V4GmoAction.timeExit →
        timeExitDue attemptedAt nowUtc = true) ∧
      l.fixSettlementSize row input.plan = .ok settled ∧
      attempt = reconciledAttemptRow sha input.plan row.cycleRef
        input.authoritativeReconciliationDigest nowUtc ∧
      settled.insertAttempt attempt "second v4 risk-reducing attempt refused" =
        .ok l' := by
  unfold riskReducingTransaction at h
  split at h
  · cases h
  rename_i row hrow
  split at h
  · cases h
  rename_i attemptedAt hattempted
  split at h
  · cases h
  rename_i hplan
  split at h
  · cases h
  rename_i hhalt
  split at h
  · cases h
  rename_i hstate
  split at h
  · cases h
  rename_i settled hsettled
  dsimp only at h
  split at h
  · cases h
  rename_i inserted hinsert
  cases h
  rw [not_or, not_not, not_not] at hplan
  rw [not_or, not_and] at hstate
  exact ⟨row, attemptedAt, settled, hrow, hattempted, hplan.1, hplan.2,
    by simpa using hhalt, by simpa using hstate.1,
    fun hexit => by simpa using hstate.2 hexit, hsettled, rfl, hinsert⟩

theorem transportOutcomeTransaction_ok {action : V4GmoAction} {outcome : V4GmoPrivateOutcome}
    (h : transportOutcomeTransaction cycleRef action outcome l = .ok (u, l')) :
    l.pendingTransportAttempt = some ⟨action, cycleRef⟩ ∧
      ((outcome = .rejectedSanitized ∧ l' = { l with pendingTransportAttempt := none }) ∨
        (outcome ≠ .rejectedSanitized ∧ l' = l.haltLatched)) := by
  unfold transportOutcomeTransaction at h
  split at h
  · rename_i hpending
    refine ⟨hpending, ?_⟩
    cases outcome with
    | rejectedSanitized =>
        cases h
        exact Or.inl ⟨rfl, rfl⟩
    | acceptedSanitized =>
        cases h
        exact Or.inr ⟨by decide, rfl⟩
    | unknownSanitized =>
        cases h
        exact Or.inr ⟨by decide, rfl⟩
  · cases h

theorem resolveTransaction_ok {input : RecoveryInput} {resolution : PendingTransportResolution}
    (h : resolveTransaction input nowUtc l = .ok (resolution, l')) :
    ∃ pending cycle generationDigest, l.pendingTransportAttempt = some pending ∧
      l.cycle? input.cycleRef = some cycle ∧ l.unknownHaltLatched = true ∧
      pending.cycleRef = input.cycleRef ∧
      l.generationDigest? = some generationDigest ∧
      classifyPendingTransportRecovery pending.action cycle.side input.snapshot
        input.positionBundleTotal = some resolution.classification ∧
      resolution =
        { classification := resolution.classification
          cycleRef := input.cycleRef
          generationDigest
          previousAction := pending.action
          reconciliationDigest := input.authoritativeReconciliationDigest
          resolvedAtUtc := nowUtc } ∧
      l' = { l with
        pendingTransportResolution := some resolution
        pendingTransportAttempt := none } := by
  unfold resolveTransaction at h
  split at h
  · rename_i pending cycle hpending hcycle
    split at h
    · cases h
    · rename_i hstate
      split at h
      · cases h
      · rename_i classification hclass
        split at h
        · cases h
        · rename_i generationDigest hgeneration
          cases h
          rw [not_or, not_not] at hstate
          exact ⟨pending, cycle, generationDigest, hpending, hcycle,
            by simpa using hstate.1, hstate.2, hgeneration, hclass, rfl, rfl⟩
  · cases h

theorem confirmProtectionTransaction_ok {size : Nat}
    (h : confirmProtectionTransaction signalFingerprint size nowUtc nowMonotonic l =
      .ok (u, l')) :
    ∃ row plan attempted, l.cycleOfSignal? signalFingerprint = some row ∧
      row.protectionPlanJson = some plan ∧
      row.marketAttemptedMonotonic = some attempted ∧
      monotonicWithin attempted nowMonotonic v4ProtectionDeadline = true ∧
      plan.exactFilledSize = size ∧
      l' = l.updateCycles (fun r => r.signalFingerprint = signalFingerprint)
        (fun r => r.withProtectionConfirmed nowUtc) (fun _ => ⟨rfl, rfl⟩) := by
  unfold confirmProtectionTransaction at h
  split at h
  · cases h
  rename_i row hrow
  split at h
  · cases h
  rename_i plan hplan
  split at h
  · cases h
  rename_i attempted hattempted
  dsimp only at h
  split at h
  · rename_i hvalid
    cases h
    rw [Bool.and_eq_true, decide_eq_true_eq] at hvalid
    exact ⟨row, plan, attempted, hrow, hplan, hattempted, hvalid.2, hvalid.1, rfl⟩
  · cases h

theorem closedMetricsTransaction_ok {realizedPnlJpy : Int} {recorded : Bool}
    (h : closedMetricsTransaction cycleRef realizedPnlJpy l = .ok (recorded, l')) :
    ∃ row, l.cycle? cycleRef = some row ∧
      ((recorded = false ∧ l' = l ∧ row.realizedPnlJpy = some realizedPnlJpy) ∨
        (recorded = true ∧ row.realizedPnlJpy = none ∧
          l' = l.updateCycles (fun r => r.cycleRef = cycleRef)
            (fun r => r.withClosedMetrics realizedPnlJpy) (fun _ => ⟨rfl, rfl⟩))) := by
  unfold closedMetricsTransaction at h
  split at h
  · cases h
  rename_i row hrow
  refine ⟨row, hrow, ?_⟩
  split at h
  · rename_i hsame
    cases h
    exact Or.inl ⟨rfl, rfl, congrArg Prod.fst hsame⟩
  split at h
  · rename_i hnone
    cases h
    exact Or.inr ⟨rfl, hnone.1, rfl⟩
  · cases h

theorem externalFlatTransaction_ok {input : ExternalFlatInput} {released : Bool}
    (h : externalFlatTransaction input l = .ok (released, l')) :
    (released = false ∧ l' = l) ∨
      (released = true ∧ ∃ row, l.latestCycle? = some row ∧
        row.realizedPnlJpy = none ∧ l.unresolved.length = 1 ∧
        l.pendingTransportAttempt = none ∧
        l.generationDigest? = some input.generationDigest ∧
        l' = { l with
          externalFlatReconciliation :=
            some
              { generationDigest := input.generationDigest
                reviewedFilesDigest := input.reviewedFilesDigest
                evidenceDigest := input.evidenceDigest
                cycleRef := row.cycleRef
                observedAtUtc := input.observedAtUtc
                validUntilUtc := input.validUntilUtc }
          unknownHaltLatched := false }) := by
  unfold externalFlatTransaction at h
  split at h
  · cases h
    exact Or.inl ⟨rfl, rfl⟩
  · rename_i row hrow
    split at h
    · rename_i hvalid
      cases h
      exact Or.inr ⟨rfl, row, hrow, hvalid.2.2.2.2.1, hvalid.2.2.2.2.2, hvalid.2.1,
        hvalid.1, rfl⟩
    · cases h
      exact Or.inl ⟨rfl, rfl⟩

theorem killRehearsalTransaction_ok (h : killRehearsalTransaction cycleRef l = .ok (u, l')) :
    l.pendingTransportAttempt = none ∧
      l' = { l with pendingTransportAttempt := some ⟨.marketEntry, cycleRef⟩ } := by
  unfold killRehearsalTransaction at h
  split at h
  · cases h
  split at h
  · cases h
  · rename_i hpending
    cases h
    exact ⟨hpending, rfl⟩

theorem inheritedBaselineTransaction_ok {baseline : InheritedAttemptBaseline}
    (h : inheritedBaselineTransaction baseline l = .ok (u, l')) :
    l' = { l with inheritedBaselines := l'.inheritedBaselines } := by
  unfold inheritedBaselineTransaction at h
  split at h
  · cases h
  split at h
  · split at h
    · cases h
      rfl
    · cases h
  · split at h
    · cases h
      rfl
    · cases h

/-- The writing transactions of the store. -/
inductive LedgerWrite
  | haltLatched
  | bindGeneration (generation : V4GmoFrozenGeneration)
  | reserve (intent : EntryIntent) (risk : V4FrozenSignalRisk) (nowUtc : Instant)
  | release (cycleRef : Digest)
  | entryPreflight (input : EntryPreflightInput) (nowUtc : Instant)
      (nowMonotonic : Monotonic)
  | marketAttempt (authorization : V4VerifiedEntryPreflightAuthorization)
      (signalFingerprint : Digest) (plan : V4GmoActionPlan) (nowUtc : Instant)
      (nowMonotonic : Monotonic)
  | protectionPlan (cycleRef : Digest) (plan : V4GmoExactProtectionPlan)
      (averageFillPrice : ℚ)
  | protectionAttempt (signalFingerprint : Digest) (plan : V4GmoActionPlan)
      (protectionPlan : V4GmoExactProtectionPlan) (reconciliationDigest : Digest)
      (nowUtc : Instant) (nowMonotonic : Monotonic)
  | riskReducing (input : RiskReducingInput) (nowUtc : Instant)
  | transportOutcome (cycleRef : Digest) (action : V4GmoAction)
      (outcome : V4GmoPrivateOutcome)
  | resolve (input : RecoveryInput) (nowUtc : Instant)
  | confirmProtection (signalFingerprint : Digest) (size : Nat) (nowUtc : Instant)
      (nowMonotonic : Monotonic)
  | closedMetrics (cycleRef : Digest) (realizedPnlJpy : Int)
  | externalFlat (input : ExternalFlatInput)
  | killRehearsal (cycleRef : Digest)
  | inheritedBaseline (baseline : InheritedAttemptBaseline)

def LedgerWrite.commit : LedgerWrite → Ledger → Except V4Error Ledger
  | .haltLatched, l => .ok l.haltLatched
  | .bindGeneration generation, l =>
      (bindGenerationTransaction generation l).map Prod.snd
  | .reserve intent risk nowUtc, l =>
      (reserveTransaction sha intent risk nowUtc l).map Prod.snd
  | .release cycleRef, l => (releaseTransaction cycleRef l).map Prod.snd
  | .entryPreflight input nowUtc nowMonotonic, l =>
      (entryPreflightTransaction sha input nowUtc nowMonotonic l).map Prod.snd
  | .marketAttempt authorization signalFingerprint plan nowUtc nowMonotonic, l =>
      (marketAttemptTransaction sha authorization signalFingerprint plan nowUtc
        nowMonotonic l).map Prod.snd
  | .protectionPlan cycleRef plan averageFillPrice, l =>
      (protectionPlanTransaction sha cycleRef plan averageFillPrice l).map Prod.snd
  | .protectionAttempt signalFingerprint plan exactPlan reconciliationDigest nowUtc
      nowMonotonic, l =>
      (protectionAttemptTransaction sha signalFingerprint plan exactPlan
        reconciliationDigest nowUtc nowMonotonic l).map Prod.snd
  | .riskReducing input nowUtc, l =>
      (riskReducingTransaction sha input nowUtc l).map Prod.snd
  | .transportOutcome cycleRef action outcome, l =>
      (transportOutcomeTransaction cycleRef action outcome l).map Prod.snd
  | .resolve input nowUtc, l => (resolveTransaction input nowUtc l).map Prod.snd
  | .confirmProtection signalFingerprint size nowUtc nowMonotonic, l =>
      (confirmProtectionTransaction signalFingerprint size nowUtc nowMonotonic l).map
        Prod.snd
  | .closedMetrics cycleRef realizedPnlJpy, l =>
      (closedMetricsTransaction cycleRef realizedPnlJpy l).map Prod.snd
  | .externalFlat input, l => (externalFlatTransaction input l).map Prod.snd
  | .killRehearsal cycleRef, l => (killRehearsalTransaction cycleRef l).map Prod.snd
  | .inheritedBaseline baseline, l =>
      (inheritedBaselineTransaction baseline l).map Prod.snd

variable {α β σ : Type}

theorem map_snd_eq_ok {x : Except V4Error (α × β)} {b : β} :
    x.map Prod.snd = .ok b ↔ ∃ a, x = .ok (a, b) := by
  cases x with
  | error e => simp [Except.map]
  | ok p =>
      obtain ⟨a, b'⟩ := p
      simp [Except.map]

def CommitsOne (allowed : LedgerWrite → Prop) (l l' : Ledger) : Prop :=
  ∃ w, allowed w ∧ w.commit sha l = .ok l'

/-- The frame of the processes that commit nothing but allowed writes. -/
def writes (allowed : LedgerWrite → Prop) : Frame Ledger where
  rel := Relation.ReflTransGen (CommitsOne sha allowed)
  refl _ := .refl
  trans h₁ h₂ := h₁.trans h₂

/-- The frame of the processes that never give a used object back. -/
def usedStayUsed : Frame StoreWorld where
  rel s t := s.consumedObjects ⊆ t.consumedObjects
  refl _ := List.Subset.refl _
  trans h₁ h₂ := List.Subset.trans h₁ h₂

abbrev storeWrites (allowed : LedgerWrite → Prop) : Frame StoreWorld :=
  ((writes sha allowed).through StoreWorld.ledger).both usedStayUsed

variable {sha}

variable {allowed allowed' : LedgerWrite → Prop}

theorem writes_keeps {I : Ledger → Prop}
    (hstep : ∀ w l l', allowed w → w.commit sha l = .ok l' → I l → I l')
    (h : (writes sha allowed).rel l l') (hl : I l) : I l' := by
  induction h with
  | refl => exact hl
  | tail _ hone ih =>
      obtain ⟨w, hallowed, hcommit⟩ := hone
      exact hstep w _ _ hallowed hcommit ih

theorem writes_mono (himp : ∀ w, allowed w → allowed' w)
    (h : (writes sha allowed).rel l l') : (writes sha allowed').rel l l' := by
  refine Relation.ReflTransGen.mono ?_ _ _ h
  rintro l l' ⟨w, hallowed, hcommit⟩
  exact ⟨w, himp w hallowed, hcommit⟩

theorem writes_ledgerAtStart (sha : Sha256) (hhalt : allowed .haltLatched) (s : StoreWorld) :
    (writes sha allowed).rel s.ledger s.ledgerAtStart := by
  unfold StoreWorld.ledgerAtStart
  split
  · exact .single ⟨.haltLatched, hhalt, rfl⟩
  · exact .refl

theorem within_transact {t : Transaction α} (hhalt : allowed .haltLatched)
    (ht : ∀ l a l', t l = .ok (a, l') → l' = l ∨ CommitsOne sha allowed l l') :
    Within (storeWrites sha allowed) (transact t) := by
  refine Within.both (fun s => ?_) (fun s => ?_)
  · show (writes sha allowed).rel s.ledger (transact t s).2.ledger
    have hstart := writes_ledgerAtStart sha hhalt s
    unfold transact
    split
    · exact .refl
    · split
      · rename_i a ledger hok
        rcases ht _ _ _ hok with heq | hone
        · subst heq
          exact hstart
        · exact hstart.tail hone
      · exact hstart
  · show s.consumedObjects ⊆ (transact t s).2.consumedObjects
    unfold transact
    split
    · exact List.Subset.refl _
    · split <;> exact List.Subset.refl _

theorem within_query (hhalt : allowed .haltLatched) (f : Ledger → α) :
    Within (storeWrites sha allowed) (query f) := by
  refine within_transact hhalt fun l a l' h => ?_
  cases h
  exact Or.inl rfl

theorem within_ofExcept {F : Frame σ} (x : Except V4Error α) : Within F (ofExcept x) := by
  cases x with
  | error e => exact Within.raise e
  | ok a => exact Within.pure a

theorem within_issueObject : Within (storeWrites sha allowed) issueObject :=
  fun _ => ⟨.refl, List.Subset.refl _⟩

theorem within_consumeObject (objectId : Nat) :
    Within (storeWrites sha allowed) (consumeObject objectId) :=
  fun _ => ⟨.refl, List.subset_cons_self _ _⟩

end Writes

end FxStrategyLab
