import FxStrategyLab.Coordinator.Cycles

/-!
# At most one use of an authorization per action

The one-use flags of the authorizations live in memory.  What makes an action
of a cycle single over all restarts is the primary key of `attempts`: an
authorization is handed out only for a row that this call inserted, so no two
authorizations of a run are for the same cycle and action.  The verifier of an
authorization reads the database again at its use, so a use finds the committed
row and the pending marker.

A plan is tied to its authorization by its digest; the results are stated for
runs whose plans have no SHA-256 collision.
-/

namespace FxStrategyLab

open Library

section SinglePost

variable {sha : Sha256}

/-- The cycle and the action that a use was for. -/
def V4PersistedTransportAuthorization.key (t : V4PersistedTransportAuthorization) :
    Digest × V4GmoAction :=
  (t.cycleRef, t.action)

def V4PersistedActionAuthorization.key (a : V4PersistedActionAuthorization) :
    Digest × V4GmoAction :=
  (a.verifyCommitted.cycleRef, a.verifyCommitted.action)

def StoreOp.plan? : StoreOp → Option V4GmoActionPlan
  | .recordMarketAttempt _ _ plan _ _ | .recordExactProtectionAttempt _ plan _ _ _ _
  | .consumeActionAuthorization _ plan _ _ _ _ => some plan
  | .recordRiskReducingAttempt input _ => some input.plan
  | _ => none

def plansOf (calls : List StoreCall) : List V4GmoActionPlan :=
  calls.filterMap fun call => call.op.plan?

def NoPlanCollision (sha : Sha256) (plans : List V4GmoActionPlan) : Prop :=
  ∀ plan ∈ plans, ∀ plan' ∈ plans,
    persistedPlanDigest sha plan = persistedPlanDigest sha plan' → plan = plan'
deriving Decidable

/-- The ledger holds the attempt of the use with the same plan digest, and its
pending marker names that cycle and action. -/
def Ledger.commits (l : Ledger) (t : V4PersistedTransportAuthorization) : Prop :=
  (∃ row, l.attempt? t.cycleRef t.action = some row ∧ row.planDigest = t.planDigest) ∧
    l.pendingTransportAttempt = some ⟨t.action, t.cycleRef⟩

def usesCommitted (sha : Sha256) (r : StoreRun) (call : StoreCall) : Prop :=
  ∀ t, r.holds call.op → (r.execute sha call).1 = .returned (.transport t) →
    (r.execute sha call).2.ledger.commits t

/-- The attempt of a plan was inserted, under a key that was free before. -/
structure InsertsAttempt (sha : Sha256) (plan : V4GmoActionPlan) (l : Ledger)
    (row : AttemptRow) (l' : Ledger) : Prop where
  fresh : l.attempts.Fresh row
  inserted : row ∈ l'.attempts.rows
  key : row.primaryKey = (plan.cycleRef, plan.action)
  digest : row.planDigest = persistedPlanDigest sha plan

variable {plan : V4GmoActionPlan} {row : AttemptRow} {l l' : Ledger}

theorem insertsAttempt_of_ok
    {secondRefused : String} (h : l.insertAttempt row secondRefused = .ok l')
    (hkey : row.primaryKey = (plan.cycleRef, plan.action))
    (hdigest : row.planDigest = persistedPlanDigest sha plan) :
    InsertsAttempt sha plan l row l' where
  fresh := (insertAttempt_ok h).2.1
  inserted := by
    rw [(insertAttempt_ok h).2.2.1]
    exact List.mem_append_right _ List.mem_cons_self
  key := hkey
  digest := hdigest

variable {nowMonotonic attempted : Monotonic} {nowUtc : Instant}

theorem marketAttempt_inserts {authorization : V4VerifiedEntryPreflightAuthorization}
    {signalFingerprint : Digest}
    (h : marketAttemptTransaction sha authorization signalFingerprint plan nowUtc
      nowMonotonic l = .ok (row, l')) : InsertsAttempt sha plan l row l' := by
  obtain ⟨cycle, inserted, -, hadmits, -, rfl, hinsert, rfl⟩ :=
    marketAttemptTransaction_ok sha h
  simp only [CycleRow.admitsMarket, decide_eq_true_eq] at hadmits
  have hkey : (marketAttemptRow sha plan cycle.cycleRef nowUtc).primaryKey =
      (plan.cycleRef, plan.action) := by
    rw [hadmits.1, hadmits.2.1]
    rfl
  have hinserts : InsertsAttempt sha plan _ _ _ := insertsAttempt_of_ok hinsert hkey rfl
  exact ⟨hinserts.fresh, hinserts.inserted, hkey, rfl⟩

theorem protectionAttempt_inserts {signalFingerprint : Digest}
    {protectionPlan : V4GmoExactProtectionPlan} {reconciliationDigest : Digest}
    (h : protectionAttemptTransaction sha signalFingerprint plan protectionPlan
      reconciliationDigest nowUtc nowMonotonic l = .ok ((row, attempted), l')) :
    InsertsAttempt sha plan l row l' := by
  obtain ⟨cycle, -, -, hadmits, -, -, rfl, hinsert⟩ := protectionAttemptTransaction_ok sha h
  simp only [CycleRow.admitsProtection, decide_eq_true_eq] at hadmits
  refine insertsAttempt_of_ok hinsert ?_ rfl
  rw [hadmits.2.2.2.1]
  rfl

theorem riskReducing_inserts {input : RiskReducingInput}
    (h : riskReducingTransaction sha input nowUtc l = .ok (row, l')) :
    InsertsAttempt sha input.plan l row l' := by
  obtain ⟨cycle, attemptedAt, settled, -, -, hcycle, -, -, -, -, hsettled, rfl, hinsert⟩ :=
    riskReducingTransaction_ok sha h
  have hkey : (reconciledAttemptRow sha input.plan cycle.cycleRef
      input.authoritativeReconciliationDigest nowUtc).primaryKey =
      (input.plan.cycleRef, input.plan.action) := by
    rw [hcycle]
    rfl
  have hinserts : InsertsAttempt sha input.plan _ _ _ :=
    insertsAttempt_of_ok hinsert hkey rfl
  rcases fixSettlementSize_ok hsettled with ⟨-, rfl⟩ | ⟨-, -, rfl⟩
  · exact hinserts
  · exact ⟨hinserts.fresh, hinserts.inserted, hkey, rfl⟩

variable {s s' s₁ : StoreWorld}

theorem keepResult_returned {α : Type} {x : Store α} {f : α → StoreResult} {result : StoreResult}
    (h : (keepResult x f).run s = (.returned result, s')) :
    ∃ a, x.run s = (.returned a, s') ∧ result = f a := by
  obtain ⟨a, s₁, hx, h⟩ := Process.run_bind_eq_returned.mp h
  cases h
  exact ⟨a, hx, rfl⟩

theorem query_returned {α : Type} {f : Ledger → α} {a : α}
    (h : (query f).run s = (.returned a, s')) :
    a = f s'.ledger ∧ s'.ledger = s.ledgerAtStart ∧
      s'.consumedObjects = s.consumedObjects := by
  obtain ⟨hok, hused⟩ := transact_returned h
  simp only [Except.ok.injEq, Prod.mk.injEq] at hok
  exact ⟨hok.2 ▸ hok.1.symm, hok.2.symm, hused⟩

variable {prepared : V4PreparedAttempt}

theorem issuePreparedAttempt_returned
    {protectionPlanDigest : Option Digest} {deadline : Option Monotonic}
    (h : (issuePreparedAttempt row protectionPlanDigest deadline).run s =
      (.returned prepared, s')) :
    prepared.authorization.key = row.primaryKey ∧
      prepared.authorization.planDigest = row.planDigest ∧
      prepared.authorization.verifyCommitted.planDigest = row.planDigest ∧
      s'.ledger.attempts = s.ledger.attempts := by
  obtain ⟨verifier, s₁, hverifier, hrun⟩ := Process.run_bind_eq_returned.mp h
  obtain ⟨generation, s₂, hgeneration, hverifier⟩ :=
    Process.run_bind_eq_returned.mp hverifier
  have hledger := (query_returned hgeneration).2.1
  cases generation with
  | none => cases hverifier
  | some generationDigest =>
      cases hverifier
      cases hrun
      refine ⟨rfl, rfl, rfl, ?_⟩
      rw [hledger, StoreWorld.attempts_ledgerAtStart]

/-- What a recording call leaves behind: an authorization for a row that it
inserted under a free key. -/
structure HandsOut (sha : Sha256) (plan : V4GmoActionPlan) (s s' : StoreWorld)
    (a : V4PersistedActionAuthorization) : Prop where
  free : a.key ∉ s.ledger.attempts.rows.map AttemptRow.primaryKey
  taken : a.key ∈ s'.ledger.attempts.rows.map AttemptRow.primaryKey
  key : a.key = (plan.cycleRef, plan.action)
  digest : a.planDigest = persistedPlanDigest sha plan
  verifies : a.verifyCommitted.planDigest = a.planDigest

theorem handsOut_of_inserts {protectionPlanDigest : Option Digest} {deadline : Option Monotonic}
    (hinserts : InsertsAttempt sha plan s.ledgerAtStart row s₁.ledger)
    (h : (issuePreparedAttempt row protectionPlanDigest deadline).run s₁ =
      (.returned prepared, s')) : HandsOut sha plan s s' prepared.authorization := by
  obtain ⟨hkey, hdigest, hverifies, hattempts⟩ := issuePreparedAttempt_returned h
  refine ⟨?_, ?_, hkey.trans hinserts.key, hdigest.trans hinserts.digest,
    hverifies.trans hdigest.symm⟩
  · rw [hkey, ← StoreWorld.attempts_ledgerAtStart]
    exact hinserts.fresh _ List.mem_cons_self
  · rw [hkey, hattempts]
    exact List.mem_map_of_mem hinserts.inserted

/-- **Handing out.** Each call that returns an authorization inserted the row it
is for. -/
theorem exec_attempt_handsOut (sha : Sha256) {op : StoreOp}
    (h : (op.exec sha).run s = (.returned (.attempt prepared), s')) :
    ∃ plan, op.plan? = some plan ∧ HandsOut sha plan s s' prepared.authorization := by
  cases op with
  | recordMarketAttempt authorization signalFingerprint plan nowUtc nowMonotonic =>
      obtain ⟨prepared', hrun, heq⟩ := keepResult_returned h
      cases heq
      obtain ⟨-, hrun⟩ := Process.run_require_bind_eq_returned.mp hrun
      obtain ⟨halted, s₁, hhalted, hrun⟩ := Process.run_bind_eq_returned.mp hrun
      obtain ⟨-, hrun⟩ := Process.run_require_bind_eq_returned.mp hrun
      obtain ⟨row, s₂, htransact, hrun⟩ := Process.run_bind_eq_returned.mp hrun
      -- using the preflight authorization leaves the ledger alone
      let s₃ : StoreWorld :=
        { s₂ with consumedObjects := authorization.objectId :: s₂.consumedObjects }
      have hinserts : InsertsAttempt sha plan s₁.ledgerAtStart row s₃.ledger :=
        marketAttempt_inserts (transact_returned htransact).1
      have hout := handsOut_of_inserts hinserts hrun
      refine ⟨plan, rfl, ?_, hout.taken, hout.key, hout.digest, hout.verifies⟩
      have hfree := hout.free
      rw [(query_returned hhalted).2.1, StoreWorld.attempts_ledgerAtStart] at hfree
      exact hfree
  | recordExactProtectionAttempt signalFingerprint plan protectionPlan digest nowUtc
      nowMonotonic =>
      obtain ⟨prepared', hrun, heq⟩ := keepResult_returned h
      cases heq
      obtain ⟨⟨row, attempted⟩, s₁, htransact, hrun⟩ :=
        Process.run_bind_eq_returned.mp hrun
      exact ⟨plan, rfl, handsOut_of_inserts
        (protectionAttempt_inserts (transact_returned htransact).1) hrun⟩
  | recordRiskReducingAttempt input nowUtc =>
      obtain ⟨prepared', hrun, heq⟩ := keepResult_returned h
      cases heq
      obtain ⟨-, hrun⟩ := Process.run_require_bind_eq_returned.mp hrun
      obtain ⟨-, hrun⟩ := Process.run_require_bind_eq_returned.mp hrun
      obtain ⟨-, hrun⟩ := Process.run_require_bind_eq_returned.mp hrun
      obtain ⟨row, s₁, htransact, hrun⟩ := Process.run_bind_eq_returned.mp hrun
      exact ⟨input.plan, rfl, handsOut_of_inserts
        (riskReducing_inserts (transact_returned htransact).1) hrun⟩
  | _ =>
      obtain ⟨a, -, heq⟩ := keepResult_returned h
      cases heq

/-- **Use.** A use that succeeds took an authorization that was not used before
and whose plan digest is that of the plan, found its row and the marker, and
marked it as used. -/
theorem exec_transport_returned (sha : Sha256) {op : StoreOp}
    {t : V4PersistedTransportAuthorization}
    (h : (op.exec sha).run s = (.returned (.transport t), s')) :
    ∃ a plan protectionPlan digest binding nowMonotonic,
      op = .consumeActionAuthorization a plan protectionPlan digest binding nowMonotonic ∧
        a.objectId ∉ s.consumedObjects ∧ a.objectId ∈ s'.consumedObjects ∧
        t.key = (plan.cycleRef, plan.action) ∧
        t.planDigest = persistedPlanDigest sha plan ∧
        a.planDigest = persistedPlanDigest sha plan ∧
        a.verifyCommitted.verify s'.ledger = true := by
  cases op with
  | consumeActionAuthorization a plan protectionPlan digest binding nowMonotonic =>
      obtain ⟨t', hrun, heq⟩ := keepResult_returned h
      cases heq
      obtain ⟨hunused, hrun⟩ := Process.run_require_bind_eq_returned.mp hrun
      obtain ⟨u, s₁, hmatches, hrun⟩ := Process.run_bind_eq_returned.mp hrun
      obtain ⟨committed, s₂, hquery, hrun⟩ := Process.run_bind_eq_returned.mp hrun
      obtain ⟨hverified, hrun⟩ := Process.run_require_bind_eq_returned.mp hrun
      obtain ⟨hcommitted, -, -⟩ := query_returned hquery
      cases hrun
      have hok : authorizationMatches sha a plan protectionPlan digest binding
          nowMonotonic = .ok () := by
        cases hresult : authorizationMatches sha a plan protectionPlan digest binding
          nowMonotonic with
        | error e =>
            rw [hresult] at hmatches
            cases hmatches
        | ok u => rfl
      have hdigest : a.planDigest = persistedPlanDigest sha plan := by
        by_contra hne
        simp [authorizationMatches, hne] at hok
      refine ⟨a, plan, protectionPlan, digest, binding, nowMonotonic, rfl, hunused,
        List.mem_cons_self, rfl, rfl, hdigest, ?_⟩
      rw [← hverified, hcommitted]
  | _ =>
      obtain ⟨a, -, heq⟩ := keepResult_returned h
      cases heq

theorem verify_spec {v : CommittedAttemptVerifier} (h : v.verify l = true) :
    (∃ row, l.attempt? v.cycleRef v.action = some row ∧ row.planDigest = v.planDigest) ∧
      l.pendingTransportAttempt = some ⟨v.action, v.cycleRef⟩ := by
  unfold CommittedAttemptVerifier.verify at h
  split at h
  · cases h
  · rename_i row hrow
    simp only [Bool.and_eq_true, decide_eq_true_eq] at h
    exact ⟨⟨row, hrow, h.1.1⟩, h.1.2.2.2.1⟩

/-- What holds of the authorizations and the uses of a run. -/
structure SinglePostInvariant (sha : Sha256) (plans : List V4GmoActionPlan)
    (r : StoreRun) : Prop where
  committed : ∀ a ∈ r.authorizations,
    a.key ∈ r.world.ledger.attempts.rows.map AttemptRow.primaryKey
  planned : ∀ a ∈ r.authorizations, ∃ plan ∈ plans,
    a.key = (plan.cycleRef, plan.action) ∧ a.planDigest = persistedPlanDigest sha plan ∧
      a.verifyCommitted.planDigest = a.planDigest
  distinct : (r.authorizations.map V4PersistedActionAuthorization.key).Nodup
  used : ∀ t ∈ r.consumptions, ∃ a ∈ r.authorizations, a.key = t.key ∧
    a.objectId ∈ r.world.consumedObjects
  once : (r.consumptions.map V4PersistedTransportAuthorization.key).Nodup

variable {plans : List V4GmoActionPlan} {r : StoreRun}

theorem SinglePostInvariant.world {world : StoreWorld} (h : SinglePostInvariant sha plans r)
    (hattempts : r.world.ledger.attempts.rows <+: world.ledger.attempts.rows)
    (hused : r.world.consumedObjects ⊆ world.consumedObjects) :
    SinglePostInvariant sha plans { r with world := world } where
  committed a ha := List.map_subset _ hattempts.subset (h.committed a ha)
  planned := h.planned
  distinct := h.distinct
  used t ht := by
    obtain ⟨a, ha, hkey, hobject⟩ := h.used t ht
    exact ⟨a, ha, hkey, hused hobject⟩
  once := h.once

/-- The plan of a held authorization whose digest is that of another plan of the
run is that plan. -/
theorem SinglePostInvariant.key_eq
    (h : SinglePostInvariant sha plans r) (hcollision : NoPlanCollision sha plans)
    {a : V4PersistedActionAuthorization} (ha : a ∈ r.authorizations) (hplan : plan ∈ plans)
    (hdigest : a.planDigest = persistedPlanDigest sha plan) :
    a.key = (plan.cycleRef, plan.action) := by
  obtain ⟨plan', hplan', hkey, hdigest', -⟩ := h.planned a ha
  rw [hkey, hcollision plan' hplan' plan hplan (hdigest' ▸ hdigest)]

theorem execute_attempts (sha : Sha256) (r : StoreRun) (call : StoreCall) :
    r.world.ledger.attempts.rows <+: (r.execute sha call).2.ledger.attempts.rows := by
  have hwrites := (StoreOp.within_exec sha call.op
    { r.world with agenda := call.agenda }).1
  exact writes_keeps (I := fun l => r.world.ledger.attempts.rows <+: l.attempts.rows)
    (fun w l l' _ hcommit hl => hl.trans (commit_attempts hcommit)) hwrites
    List.prefix_rfl

theorem execute_used (r : StoreRun) (call : StoreCall) :
    r.world.consumedObjects ⊆ (r.execute sha call).2.consumedObjects :=
  (StoreOp.within_exec sha call.op { r.world with agenda := call.agenda }).2

theorem singlePostInvariant_step (hcollision : NoPlanCollision sha plans) {call : StoreCall}
    (hplans : ∀ plan, call.op.plan? = some plan → plan ∈ plans)
    (hr : SinglePostInvariant sha plans r) :
    SinglePostInvariant sha plans (storeStep sha r call) := by
  unfold storeStep
  split
  case isFalse => exact hr
  case isTrue hholds =>
  have hworld := hr.world (execute_attempts sha r call) (execute_used r call)
  rcases hexec : r.execute sha call with ⟨outcome, world⟩
  rw [hexec] at hworld
  dsimp only at hworld ⊢
  unfold StoreRun.keep
  split
  · exact ⟨hworld.committed, hworld.planned, hworld.distinct, hworld.used, hworld.once⟩
  · -- an authorization is handed out, for a key that no attempt had
    rename_i prepared
    obtain ⟨plan, hplan, hout⟩ := exec_attempt_handsOut sha hexec
    have hnew : prepared.authorization.key ∉
        r.authorizations.map V4PersistedActionAuthorization.key := by
      intro hmem
      obtain ⟨a, ha, hkey⟩ := List.mem_map.mp hmem
      exact hout.free (hkey ▸ hr.committed a ha)
    refine ⟨?_, ?_, ?_, ?_, hworld.once⟩
    · intro a ha
      rcases List.mem_cons.mp ha with rfl | ha
      · exact hout.taken
      · exact hworld.committed a ha
    · intro a ha
      rcases List.mem_cons.mp ha with rfl | ha
      · exact ⟨plan, hplans plan hplan, hout.key, hout.digest, hout.verifies⟩
      · exact hworld.planned a ha
    · rw [List.map_cons, List.nodup_cons]
      exact ⟨hnew, hr.distinct⟩
    · intro t ht
      obtain ⟨a, ha, hkey, hobject⟩ := hworld.used t ht
      exact ⟨a, List.mem_cons_of_mem _ ha, hkey, hobject⟩
  · -- an authorization is used that was not used before
    rename_i t
    obtain ⟨a, plan, protectionPlan, digest, binding, now, hop, hunused, hobject, hkey, -,
      hdigest, -⟩ := exec_transport_returned sha hexec
    have ha : a ∈ r.authorizations := by
      rw [hop] at hholds
      exact hholds
    have hplan : plan ∈ plans := hplans plan (by rw [hop]; rfl)
    have hkeya := hr.key_eq hcollision ha hplan hdigest
    refine ⟨hworld.committed, hworld.planned, hworld.distinct, ?_, ?_⟩
    · intro t' ht'
      rcases List.mem_cons.mp ht' with rfl | ht'
      · exact ⟨a, ha, hkeya.trans hkey.symm, hobject⟩
      · exact hworld.used t' ht'
    · rw [List.map_cons, List.nodup_cons]
      refine ⟨fun hmem => ?_, hr.once⟩
      -- an earlier use for this key used the same authorization
      obtain ⟨t', ht', hkey'⟩ := List.mem_map.mp hmem
      obtain ⟨a', ha', hkeya', hobject'⟩ := hr.used t' ht'
      have heq : a' = a :=
        List.inj_on_of_nodup_map hr.distinct ha' ha
          (hkeya'.trans (hkey'.trans (hkey.trans hkeya.symm)))
      exact hunused (heq ▸ hobject')
  · exact ⟨hworld.committed, hworld.planned, hworld.distinct, hworld.used, hworld.once⟩

theorem usesCommitted_of_invariant (hcollision : NoPlanCollision sha plans) {call : StoreCall}
    (hplans : ∀ plan, call.op.plan? = some plan → plan ∈ plans)
    (hr : SinglePostInvariant sha plans r) : usesCommitted sha r call := by
  intro t hholds hreturned
  obtain ⟨a, plan, protectionPlan, digest, binding, now, hop, -, -, hkey, htdigest,
    hdigest, hverify⟩ := exec_transport_returned sha
      (show (call.op.exec sha).run _ = (_, (r.execute sha call).2) from
        Prod.ext hreturned rfl)
  have ha : a ∈ r.authorizations := by
    rw [hop] at hholds
    exact hholds
  have hkeya := hr.key_eq hcollision ha (hplans plan (by rw [hop]; rfl)) hdigest
  obtain ⟨-, -, -, -, hverifies⟩ := hr.planned a ha
  have hsame : (a.verifyCommitted.cycleRef, a.verifyCommitted.action) =
      (t.cycleRef, t.action) := hkeya.trans hkey.symm
  obtain ⟨hcycle, haction⟩ := Prod.mk.inj hsame
  obtain ⟨⟨row, hrow, hrowdigest⟩, hpending⟩ := verify_spec hverify
  rw [hcycle, haction] at hrow hpending
  refine ⟨⟨row, hrow, ?_⟩, hpending⟩
  rw [hrowdigest, hverifies, hdigest, htdigest]

/-- **At most one use per action.** In every run of the store with kills and
restarts between and within its calls, the uses that succeed are for distinct
pairs of cycle and action, and each of them finds the attempt with the same plan
digest committed and the pending marker naming it. -/
theorem action_authorization_used_once (sha : Sha256) (calls : List StoreCall)
    (hcollision : NoPlanCollision sha (plansOf calls)) :
    ((after (storeStep sha) {} calls).consumptions.map
        V4PersistedTransportAuthorization.key).Nodup ∧
      MeetsAlong (storeStep sha) (usesCommitted sha) {} calls := by
  have hplans : MeetsAlong (storeStep sha)
      (fun _ call => ∀ plan, call.op.plan? = some plan → plan ∈ plansOf calls) {}
      calls := by
    refine meetsAlong_of_mem fun call hcall plan hplan => ?_
    exact List.mem_filterMap.mpr ⟨call, hcall, hplan⟩
  have hstart : SinglePostInvariant sha (plansOf calls) ({} : StoreRun) :=
    ⟨by simp, by simp, by simp, by simp, by simp⟩
  constructor
  · exact (invariant_after
      (fun r call hr hcall => singlePostInvariant_step hcollision hcall hr) hstart
      hplans).once
  · exact meetsAlong_of_invariant
      (fun r call hr hcall => singlePostInvariant_step hcollision hcall hr)
      (fun r call hr hcall => usesCommitted_of_invariant hcollision hcall hr) hstart hplans

namespace Sample

/-- The object that the entry preflight hands out first. -/
def preflightAuthorization : V4VerifiedEntryPreflightAuthorization where
  objectId := 0
  cycleRef := cycleRef 0
  signalFingerprint := (signal 0).fingerprint Sha256.checksum
  preflightDigest := Sha256.checksum.prefixed (preflight 0).canonicalJson

/-- The object that the MARKET attempt hands out next. -/
def marketAuthorization : V4PersistedActionAuthorization where
  objectId := 1
  planDigest := persistedPlanDigest Sha256.checksum (marketPlan 0)
  protectionPlanDigest := none
  reconciliationDigest := none
  deadlineMonotonic := none
  verifyCommitted :=
    { cycleRef := cycleRef 0
      action := .marketEntry
      planDigest := persistedPlanDigest Sha256.checksum (marketPlan 0)
      protectionPlanDigest := none
      reconciliationDigest := none
      expectedGenerationDigest := generation.digest }

def marketUse (nowMonotonic : Monotonic) : StoreOp :=
  .consumeActionAuthorization marketAuthorization (marketPlan 0) none none
    (Sha256.checksum.prefixed (plainText ['b'])) nowMonotonic

/-- A MARKET attempt whose authorization is used, and used again after the
store was opened anew and the attempt was tried a second time. -/
def usedTwice : List StoreCall :=
  [⟨.reserveEntryCycle (intent 0) (at_ 1), []⟩,
    ⟨.recordEntryPreflight (preflight 0) (at_ 2) (monotonicSeconds 2), []⟩,
    ⟨.recordMarketAttempt preflightAuthorization ((signal 0).fingerprint Sha256.checksum)
      (marketPlan 0) (at_ 3) (monotonicSeconds 3), []⟩,
    ⟨marketUse (monotonicSeconds 3), []⟩,
    ⟨.reopen false, []⟩,
    ⟨.recordMarketAttempt preflightAuthorization ((signal 0).fingerprint Sha256.checksum)
      (marketPlan 0) (at_ 4) (monotonicSeconds 4), [.quiet, .kill]⟩,
    ⟨marketUse (monotonicSeconds 4), []⟩]

end Sample

theorem action_authorization_used_once_restart :
    (after (storeStep Sha256.checksum) {} Sample.usedTwice).consumptions.length = 1 ∧
      ((after (storeStep Sha256.checksum) {} Sample.usedTwice).consumptions.map
        V4PersistedTransportAuthorization.key).Nodup ∧
      MeetsAlong (storeStep Sha256.checksum) (usesCommitted Sha256.checksum) {}
        Sample.usedTwice :=
  ⟨by decide +kernel,
    action_authorization_used_once Sha256.checksum Sample.usedTwice (by decide +kernel)⟩

end SinglePost

end FxStrategyLab
