import FxStrategyLab.Coordinator.SinglePost
import FxStrategyLab.Coordinator.HaltRace

/-!
# Which attempts the ledger admits

The ledger admits an attempt when its transaction commits.  An attempt that was
committed is not admitted again, whatever is written later, since no write
removes a row of `attempts`.  Whether an attempt is admitted does not depend on
the bound generation.
-/

namespace FxStrategyLab

open Library

section Admission

variable {sha : Sha256}

def LedgerWrite.attemptPlan? : LedgerWrite → Option V4GmoActionPlan
  | .marketAttempt _ _ plan _ _ | .protectionAttempt _ plan _ _ _ _ => some plan
  | .riskReducing input _ => some input.plan
  | _ => none

/-- The ledger admits the attempt of the write: the transaction commits, and no halt
stands in the way of a MARKET attempt. -/
def Ledger.admits (sha : Sha256) (l : Ledger) (w : LedgerWrite) : Prop :=
  (w.attemptAction? = some .marketEntry → l.unknownHaltLatched = false) ∧
    ∃ l', w.commit sha l = .ok l'

instance (sha : Sha256) (l : Ledger) (w : LedgerWrite) :
    Decidable (∃ l', w.commit sha l = .ok l') :=
  match w.commit sha l with
  | .ok l' => isTrue ⟨l', rfl⟩
  | .error _ => isFalse (by simp)

instance (sha : Sha256) (l : Ledger) (w : LedgerWrite) : Decidable (l.admits sha w) :=
  inferInstanceAs (Decidable (_ ∧ _))

def Ledger.stillAdmits (sha : Sha256) (l l' : Ledger) : Prop :=
  ∀ w : LedgerWrite, w.attemptPlan?.isSome → l.admits sha w → l'.admits sha w

def V4GmoActionPlan.attemptKey (plan : V4GmoActionPlan) : Digest × V4GmoAction :=
  (plan.cycleRef, plan.action)

def Ledger.attemptKeys (l : Ledger) : List (Digest × V4GmoAction) :=
  l.attempts.rows.map AttemptRow.primaryKey

variable {l l' l₁ l₂ : Ledger} {plan : V4GmoActionPlan} {w : LedgerWrite}

theorem commit_inserts (hplan : w.attemptPlan? = some plan) (h : w.commit sha l = .ok l') :
    ∃ row, InsertsAttempt sha plan l row l' := by
  cases w with
  | marketAttempt authorization signalFingerprint plan nowUtc nowMonotonic =>
      cases hplan
      obtain ⟨row, h⟩ := map_snd_eq_ok.mp h
      exact ⟨row, marketAttempt_inserts h⟩
  | protectionAttempt signalFingerprint plan exactPlan digest nowUtc nowMonotonic =>
      cases hplan
      obtain ⟨⟨row, attempted⟩, h⟩ := map_snd_eq_ok.mp h
      exact ⟨row, protectionAttempt_inserts h⟩
  | riskReducing input nowUtc =>
      cases hplan
      obtain ⟨row, h⟩ := map_snd_eq_ok.mp h
      exact ⟨row, riskReducing_inserts h⟩
  | _ => cases hplan

variable {row : AttemptRow}

theorem InsertsAttempt.free
    (h : InsertsAttempt sha plan l row l') : plan.attemptKey ∉ l.attemptKeys := by
  have hfresh := h.fresh _ List.mem_cons_self
  rwa [h.key] at hfresh

theorem InsertsAttempt.taken
    (h : InsertsAttempt sha plan l row l') : plan.attemptKey ∈ l'.attemptKeys :=
  List.mem_map.mpr ⟨row, h.inserted, h.key⟩

theorem not_admits_of_taken
    (hplan : w.attemptPlan? = some plan) (htaken : plan.attemptKey ∈ l.attemptKeys) :
    ¬l.admits sha w := by
  rintro ⟨-, l', hcommit⟩
  obtain ⟨row, hinserts⟩ := commit_inserts hplan hcommit
  exact hinserts.free htaken

variable {allowed : LedgerWrite → Prop}

theorem attemptKeys_subset
    (h : (writes sha allowed).rel l l') : l.attemptKeys ⊆ l'.attemptKeys := by
  refine writes_keeps (I := fun m => l.attemptKeys ⊆ m.attemptKeys) ?_ h
    (List.Subset.refl _)
  intro w m m' _ hcommit hm
  exact List.Subset.trans hm (List.map_subset _ (commit_attempts hcommit).subset)

theorem insertAttempt_eq_ok (secondRefused : String)
    (hpending : l.pendingTransportAttempt = none) (hfresh : l.attempts.Fresh row) :
    ∃ l', l.insertAttempt row secondRefused = .ok l' := by
  unfold Ledger.insertAttempt Table.insert?
  simp [hpending, hfresh]

variable {nowUtc attemptedAt : Instant} {nowMonotonic attempted : Monotonic}

theorem protectionAttemptTransaction_eq_ok {signalFingerprint : Digest}
    {protectionPlan : V4GmoExactProtectionPlan} {reconciliationDigest : Digest} {row : CycleRow}
    (hhalt : l.haltAllowsAction plan.cycleRef .exactSizeOcoProtection = true)
    (hrow : l.cycleOfSignal? signalFingerprint = some row)
    (hadmits : row.admitsProtection sha plan protectionPlan reconciliationDigest = true)
    (hattempted : row.marketAttemptedMonotonic = some attempted)
    (hwithin : monotonicWithin attempted nowMonotonic v4ProtectionDeadline = true)
    (hpending : l.pendingTransportAttempt = none) (hfresh : l.attempts.Fresh
      (reconciledAttemptRow sha plan row.cycleRef reconciliationDigest nowUtc)) :
    ∃ committed l', protectionAttemptTransaction sha signalFingerprint plan protectionPlan
      reconciliationDigest nowUtc nowMonotonic l = .ok (committed, l') := by
  obtain ⟨l', hinsert⟩ := insertAttempt_eq_ok "second v4 protection attempt refused"
    hpending hfresh
  unfold protectionAttemptTransaction
  simp [hhalt, hrow, hadmits, hattempted, hwithin, hinsert]

theorem fixSettlementSize_eq_ok {row : CycleRow} (h : plan.action ∈ V4GmoAction.positionClose →
      row.admitsSettlementSize plan.requestedSize = true) :
    ∃ settled, l.fixSettlementSize row plan = .ok settled ∧
      settled.attempts = l.attempts ∧
      settled.pendingTransportAttempt = l.pendingTransportAttempt := by
  unfold Ledger.fixSettlementSize
  by_cases hclose : plan.action ∈ V4GmoAction.positionClose
  · rw [if_pos hclose, if_pos (h hclose)]
    exact ⟨_, rfl, rfl, rfl⟩
  · rw [if_neg hclose]
    exact ⟨_, rfl, rfl, rfl⟩

theorem riskReducingTransaction_eq_ok {input : RiskReducingInput} {row : CycleRow}
    (hrow : l.cycleOfSignal? input.signalFingerprint = some row)
    (hattempted : row.marketAttemptedAtUtc = some attemptedAt)
    (hcycle : input.plan.cycleRef = row.cycleRef) (hside : input.plan.side = row.side)
    (hhalt : l.haltAllowsAction row.cycleRef input.plan.action = true)
    (hstate : riskReducingStateValid input.plan.action row.side input.plan.requestedSize
      input.snapshot input.positionBundleTotal = true)
    (hdue : input.plan.action ∈ V4GmoAction.timeExit →
      timeExitDue attemptedAt nowUtc = true)
    (hsize : input.plan.action ∈ V4GmoAction.positionClose →
      row.admitsSettlementSize input.plan.requestedSize = true)
    (hpending : l.pendingTransportAttempt = none)
    (hfresh : l.attempts.Fresh
      (reconciledAttemptRow sha input.plan row.cycleRef
        input.authoritativeReconciliationDigest nowUtc)) :
    ∃ attempt l', riskReducingTransaction sha input nowUtc l = .ok (attempt, l') := by
  obtain ⟨settled, hsettled, hattempts, hmarker⟩ :=
    fixSettlementSize_eq_ok (l := l) hsize
  rw [← hattempts] at hfresh
  obtain ⟨l', hinsert⟩ := insertAttempt_eq_ok "second v4 risk-reducing attempt refused"
    (hmarker.trans hpending) hfresh
  refine ⟨reconciledAttemptRow sha input.plan row.cycleRef
    input.authoritativeReconciliationDigest nowUtc, l', ?_⟩
  have hstate' : ¬(riskReducingStateValid input.plan.action row.side
      input.plan.requestedSize input.snapshot input.positionBundleTotal = false ∨
      (input.plan.action ∈ V4GmoAction.timeExit ∧
        timeExitDue attemptedAt nowUtc = false)) := by
    rintro (h | ⟨hexit, hlate⟩)
    · rw [hstate] at h
      cases h
    · rw [hdue hexit] at hlate
      cases hlate
  unfold riskReducingTransaction
  simp only [hrow, hattempted]
  rw [if_neg (by simp [hcycle, hside]), if_neg (by simp [hhalt]), if_neg hstate', hsettled]
  dsimp only
  rw [hinsert]

theorem commit_of_generation
    {generation : Option GenerationBinding} (hplan : w.attemptPlan?.isSome)
    (h : w.commit sha { l with generation } = .ok l') : ∃ l'', w.commit sha l = .ok l'' := by
  cases w with
  | marketAttempt authorization signalFingerprint plan nowUtc nowMonotonic =>
      obtain ⟨attempt, h⟩ := map_snd_eq_ok.mp h
      obtain ⟨row, inserted, hrow, hadmits, htimely, rfl, hinsert, -⟩ :=
        marketAttemptTransaction_ok sha h
      obtain ⟨hpending, hfresh, -⟩ := insertAttempt_ok hinsert
      obtain ⟨attempt, l'', hok⟩ := marketAttemptTransaction_eq_ok (l := l) hrow hadmits
        htimely hpending hfresh
      exact ⟨l'', map_snd_eq_ok.mpr ⟨attempt, hok⟩⟩
  | protectionAttempt signalFingerprint plan exactPlan digest nowUtc nowMonotonic =>
      obtain ⟨⟨attempt, attempted⟩, h⟩ := map_snd_eq_ok.mp h
      obtain ⟨row, hrow, hhalt, hadmits, hattempted, hwithin, rfl, hinsert⟩ :=
        protectionAttemptTransaction_ok sha h
      obtain ⟨hpending, hfresh, -⟩ := insertAttempt_ok hinsert
      obtain ⟨committed, l'', hok⟩ := protectionAttemptTransaction_eq_ok (l := l) hhalt hrow
        hadmits hattempted hwithin hpending hfresh
      exact ⟨l'', map_snd_eq_ok.mpr ⟨committed, hok⟩⟩
  | riskReducing input nowUtc =>
      obtain ⟨attempt, h⟩ := map_snd_eq_ok.mp h
      obtain ⟨row, attemptedAt, settled, hrow, hattempted, hcycle, hside, hhalt, hstate,
        hdue, hsettled, rfl, hinsert⟩ := riskReducingTransaction_ok sha h
      obtain ⟨hpending, hfresh, -⟩ := insertAttempt_ok hinsert
      have hsize : input.plan.action ∈ V4GmoAction.positionClose →
          row.admitsSettlementSize input.plan.requestedSize = true := by
        intro hclose
        rcases fixSettlementSize_ok hsettled with ⟨hnot, -⟩ | ⟨-, hsize, -⟩
        · exact absurd hclose hnot
        · exact hsize
      obtain ⟨hattempts, hmarker⟩ : settled.attempts = l.attempts ∧
          settled.pendingTransportAttempt = l.pendingTransportAttempt := by
        rcases fixSettlementSize_ok hsettled with ⟨-, rfl⟩ | ⟨-, -, rfl⟩ <;>
          exact ⟨rfl, rfl⟩
      obtain ⟨attempt, l'', hok⟩ := riskReducingTransaction_eq_ok (l := l) hrow hattempted
        hcycle hside hhalt hstate hdue hsize (hmarker ▸ hpending) (hattempts ▸ hfresh)
      exact ⟨l'', map_snd_eq_ok.mpr ⟨attempt, hok⟩⟩
  | _ => cases hplan

/-- The ledgers before and after a recording method that returned: the attempt of the
plan was committed in between, besides halts of an observer. -/
structure RecordedAttempt (sha : Sha256) (plan : V4GmoActionPlan) (l l' : Ledger) :
    Prop where
  committed : ∃ (w : LedgerWrite) (l₁ l₂ : Ledger), w.attemptPlan? = some plan ∧
    (writes sha fun w => w = .haltLatched).rel l l₁ ∧ w.commit sha l₁ = .ok l₂ ∧
    (writes sha fun w => w = .haltLatched).rel l₂ l' ∧
    (w.attemptAction? = some .marketEntry → l.unknownHaltLatched = false)

def RecordsAttempt (sha : Sha256) (plan : V4GmoActionPlan)
    (x : Store V4PreparedAttempt) : Prop :=
  ∀ s a s', x.run s = (.returned a, s') → RecordedAttempt sha plan s.ledger s'.ledger

theorem committed_of_transact {α : Type} {t : Transaction α}
    (hcommit : ∀ l, w.commit sha l = (t l).map Prod.snd) {s s' : StoreWorld} {a : α}
    (h : (transact t).run s = (.returned a, s')) :
    (writes sha fun w => w = .haltLatched).rel s.ledger s.ledgerAtStart ∧
      w.commit sha s.ledgerAtStart = .ok s'.ledger := by
  refine ⟨writes_ledgerAtStart sha (by rfl) s, ?_⟩
  rw [hcommit, (transact_returned h).1]
  rfl

theorem issuePreparedAttempt_halts {protectionPlanDigest : Option Digest}
    {deadline : Option Monotonic} {s s' : StoreWorld} {prepared : V4PreparedAttempt}
    (h : (issuePreparedAttempt row protectionPlanDigest deadline).run s =
      (.returned prepared, s')) :
    (writes sha fun w => w = .haltLatched).rel s.ledger s'.ledger := by
  have hissue : Within (storeWrites sha fun w => w = .haltLatched)
      (issuePreparedAttempt row protectionPlanDigest deadline) :=
    within_issuePreparedAttempt (by rfl) _ _ _
  have hwithin := hissue s
  rw [h] at hwithin
  exact hwithin.1

theorem recordMarketAttempt_records
    (authorization : V4VerifiedEntryPreflightAuthorization) (signalFingerprint : Digest)
    (plan : V4GmoActionPlan) (nowUtc : Instant) (nowMonotonic : Monotonic) :
    RecordsAttempt sha plan
      (recordMarketAttempt sha authorization signalFingerprint plan nowUtc
        nowMonotonic) := by
  intro s prepared s' hrun
  unfold recordMarketAttempt at hrun
  rw [Process.run_gets_bind] at hrun
  obtain ⟨-, hrun⟩ := Process.run_require_bind_eq_returned.mp hrun
  obtain ⟨halted, s₁, hhalted, hrun⟩ := Process.run_bind_eq_returned.mp hrun
  obtain ⟨hhalt, hrun⟩ := Process.run_require_bind_eq_returned.mp hrun
  rw [hhalt] at hhalted
  obtain ⟨-, hunlatched, rfl⟩ := unknownHaltLatched_returned_false.mp hhalted
  obtain ⟨row, s₂, htransact, hrun⟩ := Process.run_bind_eq_returned.mp hrun
  obtain ⟨hbefore, hcommit⟩ := committed_of_transact
    (w := .marketAttempt authorization signalFingerprint plan nowUtc nowMonotonic)
    (fun _ => rfl) htransact
  refine ⟨_, _, _, rfl, hbefore, hcommit, ?_, fun _ => hunlatched⟩
  exact issuePreparedAttempt_halts (s := { s₂ with
    consumedObjects := authorization.objectId :: s₂.consumedObjects }) hrun

theorem recordExactProtectionAttempt_records (signalFingerprint : Digest)
    (plan : V4GmoActionPlan) (protectionPlan : V4GmoExactProtectionPlan)
    (reconciliationDigest : Digest) (nowUtc : Instant) (nowMonotonic : Monotonic) :
    RecordsAttempt sha plan
      (recordExactProtectionAttempt sha signalFingerprint plan protectionPlan
        reconciliationDigest nowUtc nowMonotonic) := by
  intro s prepared s' hrun
  obtain ⟨⟨row, attempted⟩, s₁, htransact, hrun⟩ := Process.run_bind_eq_returned.mp hrun
  obtain ⟨hbefore, hcommit⟩ := committed_of_transact
    (w := .protectionAttempt signalFingerprint plan protectionPlan reconciliationDigest
      nowUtc nowMonotonic) (fun _ => rfl) htransact
  exact ⟨_, _, _, rfl, hbefore, hcommit, issuePreparedAttempt_halts hrun, fun h => nomatch h⟩

theorem recordRiskReducingAttempt_records (input : RiskReducingInput) (nowUtc : Instant) :
    RecordsAttempt sha input.plan (recordRiskReducingAttempt sha input nowUtc) := by
  intro s prepared s' hrun
  obtain ⟨haction, hrun⟩ := Process.run_require_bind_eq_returned.mp hrun
  obtain ⟨-, hrun⟩ := Process.run_require_bind_eq_returned.mp hrun
  obtain ⟨-, hrun⟩ := Process.run_require_bind_eq_returned.mp hrun
  obtain ⟨row, s₁, htransact, hrun⟩ := Process.run_bind_eq_returned.mp hrun
  obtain ⟨hbefore, hcommit⟩ := committed_of_transact (w := .riskReducing input nowUtc)
    (fun _ => rfl) htransact
  refine ⟨_, _, _, rfl, hbefore, hcommit, issuePreparedAttempt_halts hrun, fun h => ?_⟩
  -- a risk-reducing action is no MARKET entry
  rw [LedgerWrite.attemptAction?, Option.some.injEq] at h
  rw [h] at haction
  exact absurd haction (by decide)

theorem RecordedAttempt.free
    (h : RecordedAttempt sha plan l l') : plan.attemptKey ∉ l.attemptKeys := by
  obtain ⟨w, l₁, l₂, hplan, hbefore, hcommit, -, -⟩ := h.committed
  obtain ⟨row, hinserts⟩ := commit_inserts hplan hcommit
  exact fun hin => hinserts.free (attemptKeys_subset hbefore hin)

def Ledger.stampedAttempted (l : Ledger) : Prop :=
  ∀ row ∈ l.cycles.rows, row.marketAttemptedAtUtc ≠ none →
    (row.cycleRef, V4GmoAction.marketEntry) ∈ l.attemptKeys

theorem commit_attemptKeys (h : w.commit sha l = .ok l') : l.attemptKeys ⊆ l'.attemptKeys :=
  List.map_subset _ (commit_attempts h).subset

theorem marketAttempt_action {authorization : V4VerifiedEntryPreflightAuthorization}
    {signalFingerprint : Digest}
    (h : (LedgerWrite.marketAttempt authorization signalFingerprint plan nowUtc
      nowMonotonic).commit sha l = .ok l') : plan.action = .marketEntry := by
  obtain ⟨attempt, h⟩ := map_snd_eq_ok.mp h
  obtain ⟨row, inserted, -, hadmits, -⟩ := marketAttemptTransaction_ok sha h
  rw [CycleRow.admitsMarket, decide_eq_true_eq] at hadmits
  exact hadmits.1

/-- **Step.** Every write keeps the stamped cycles attempted. -/
theorem commit_stampedAttempted
    (h : w.commit sha l = .ok l') (hl : l.stampedAttempted) : l'.stampedAttempted := by
  have hkeys := commit_attemptKeys h
  intro row' hrow' hstamped
  cases commit_cycles h with
  | appended intent risk nowUtc hw hrows =>
      rw [hrows, List.mem_append, List.mem_singleton] at hrow'
      rcases hrow' with hrow' | rfl
      · exact hkeys (hl row' hrow' hstamped)
      · exact absurd rfl hstamped
  | filtered cycleRef hw p hrows hremoved =>
      rw [hrows] at hrow'
      exact hkeys (hl row' (List.mem_of_mem_filter hrow') hstamped)
  | mapped g hrows hfollows =>
      rw [hrows] at hrow'
      obtain ⟨row, hrow, rfl⟩ := List.mem_map.mp hrow'
      rw [(hfollows row hrow).cycleRef]
      rcases (hfollows row hrow).stamped with hsame | hstamps
      · rw [hsame] at hstamped
        exact hkeys (hl row hrow hstamped)
      · -- the write that stamps the cycle inserts the attempt
        cases w with
        | marketAttempt authorization signalFingerprint plan nowUtc nowMonotonic =>
            obtain ⟨inserted, hinserts⟩ := commit_inserts rfl h
            rw [hstamps.1, ← marketAttempt_action h]
            exact hinserts.taken
        | _ => exact hstamps.elim

theorem stampedAttempted_of_writes
    (h : (writes sha allowed).rel l l') (hl : l.stampedAttempted) : l'.stampedAttempted :=
  writes_keeps (fun _ _ _ _ hcommit hm => commit_stampedAttempted hcommit hm) h hl

theorem commit_close_stamped
    (hplan : w.attemptPlan? = some plan) (hclose : plan.action ∈ V4GmoAction.positionClose)
    (h : w.commit sha l = .ok l') :
    ∃ row ∈ l.cycles.rows, row.cycleRef = plan.cycleRef ∧
      row.marketAttemptedAtUtc ≠ none := by
  cases w with
  | marketAttempt authorization signalFingerprint plan nowUtc nowMonotonic =>
      cases hplan
      rw [marketAttempt_action h] at hclose
      exact absurd hclose (by decide)
  | protectionAttempt signalFingerprint plan exactPlan digest nowUtc nowMonotonic =>
      cases hplan
      obtain ⟨⟨attempt, attempted⟩, h⟩ := map_snd_eq_ok.mp h
      obtain ⟨row, -, -, hadmits, -⟩ := protectionAttemptTransaction_ok sha h
      simp only [CycleRow.admitsProtection, decide_eq_true_eq] at hadmits
      have haction : plan.action = .exactSizeOcoProtection := by simp [hadmits]
      rw [haction] at hclose
      exact absurd hclose (by decide)
  | riskReducing input nowUtc =>
      cases hplan
      obtain ⟨attempt, h⟩ := map_snd_eq_ok.mp h
      obtain ⟨row, attemptedAt, settled, hrow, hattempted, hcycle, -⟩ :=
        riskReducingTransaction_ok sha h
      exact ⟨row, (Ledger.cycleOfSignal?_eq_some.mp hrow).1, hcycle.symm, by
        simp [hattempted]⟩
  | _ => cases hplan

theorem RecordedAttempt.entered
    (h : RecordedAttempt sha plan l l') (hclose : plan.action ∈ V4GmoAction.positionClose)
    (hl : l.stampedAttempted) : (plan.cycleRef, V4GmoAction.marketEntry) ∈ l'.attemptKeys := by
  obtain ⟨w, l₁, l₂, hplan, hbefore, hcommit, hafter, -⟩ := h.committed
  obtain ⟨row, hrow, hcycle, hstamped⟩ := commit_close_stamped hplan hclose hcommit
  have hentered := stampedAttempted_of_writes hbefore hl row hrow hstamped
  rw [hcycle] at hentered
  exact attemptKeys_subset hafter (commit_attemptKeys hcommit hentered)

theorem unlatched_of_commit (hw : ∀ input, w ≠ .externalFlat input) (h : w.commit sha l = .ok l')
    (hunlatched : l'.unknownHaltLatched = false) : l.unknownHaltLatched = false := by
  rw [← hunlatched]
  cases w with
  | haltLatched =>
      cases h
      cases hunlatched
  | bindGeneration generation =>
      obtain ⟨u, h⟩ := map_snd_eq_ok.mp h
      rw [(bindGenerationTransaction_ok h).2]
  | reserve intent risk nowUtc =>
      obtain ⟨u, h⟩ := map_snd_eq_ok.mp h
      rw [(reserveTransaction_ok sha h).2.2.2]
  | release cycleRef =>
      obtain ⟨released, h⟩ := map_snd_eq_ok.mp h
      rcases releaseTransaction_ok h with ⟨-, -, rfl⟩ | ⟨-, rfl⟩ <;> rfl
  | entryPreflight input nowUtc nowMonotonic =>
      obtain ⟨digest, h⟩ := map_snd_eq_ok.mp h
      obtain ⟨row, -, -, -, -, -, -, -, rfl⟩ := entryPreflightTransaction_ok sha h
      rfl
  | marketAttempt authorization signalFingerprint plan nowUtc nowMonotonic =>
      obtain ⟨attempt, h⟩ := map_snd_eq_ok.mp h
      obtain ⟨row, inserted, -, -, -, rfl, hinsert, rfl⟩ := marketAttemptTransaction_ok sha h
      show _ = inserted.unknownHaltLatched
      rw [(insertAttempt_ok hinsert).2.2.2]
  | protectionPlan cycleRef plan averageFillPrice =>
      obtain ⟨u, h⟩ := map_snd_eq_ok.mp h
      obtain ⟨row, -, -, rfl⟩ := protectionPlanTransaction_ok sha h
      rfl
  | protectionAttempt signalFingerprint plan exactPlan digest nowUtc nowMonotonic =>
      obtain ⟨⟨attempt, attempted⟩, h⟩ := map_snd_eq_ok.mp h
      obtain ⟨row, -, -, -, -, -, rfl, hinsert⟩ := protectionAttemptTransaction_ok sha h
      rw [(insertAttempt_ok hinsert).2.2.2]
  | riskReducing input nowUtc =>
      obtain ⟨attempt, h⟩ := map_snd_eq_ok.mp h
      obtain ⟨row, at', settled, -, -, -, -, -, -, -, hsettled, rfl, hinsert⟩ :=
        riskReducingTransaction_ok sha h
      rw [(insertAttempt_ok hinsert).2.2.2]
      rcases fixSettlementSize_ok hsettled with ⟨-, rfl⟩ | ⟨-, -, rfl⟩ <;> rfl
  | transportOutcome cycleRef action outcome =>
      obtain ⟨u, h⟩ := map_snd_eq_ok.mp h
      rcases (transportOutcomeTransaction_ok h).2 with ⟨-, rfl⟩ | ⟨-, rfl⟩
      · rfl
      · cases hunlatched
  | resolve input nowUtc =>
      obtain ⟨resolution, h⟩ := map_snd_eq_ok.mp h
      obtain ⟨_, _, _, -, -, -, -, -, -, -, rfl⟩ := resolveTransaction_ok h
      rfl
  | confirmProtection signalFingerprint size nowUtc nowMonotonic =>
      obtain ⟨u, h⟩ := map_snd_eq_ok.mp h
      obtain ⟨row, plan, attempted, -, -, -, -, -, rfl⟩ :=
        confirmProtectionTransaction_ok h
      rfl
  | closedMetrics cycleRef realizedPnlJpy =>
      obtain ⟨recorded, h⟩ := map_snd_eq_ok.mp h
      obtain ⟨row, -, ⟨-, rfl, -⟩ | ⟨-, -, rfl⟩⟩ := closedMetricsTransaction_ok h <;> rfl
  | externalFlat input => exact absurd rfl (hw input)
  | killRehearsal cycleRef =>
      obtain ⟨u, h⟩ := map_snd_eq_ok.mp h
      rw [(killRehearsalTransaction_ok h).2]
  | inheritedBaseline baseline =>
      obtain ⟨u, h⟩ := map_snd_eq_ok.mp h
      rw [inheritedBaselineTransaction_ok h]

theorem unlatched_of_writes (hallowed : ∀ w, allowed w → ∀ input, w ≠ .externalFlat input)
    (h : (writes sha allowed).rel l l') (hunlatched : l'.unknownHaltLatched = false) :
    l.unknownHaltLatched = false := by
  have hkept : l'.unknownHaltLatched = false → l.unknownHaltLatched = false := by
    refine writes_keeps
      (I := fun m => m.unknownHaltLatched = false → l.unknownHaltLatched = false) ?_ h id
    intro w m m' hw hcommit hm hm'
    exact hm (unlatched_of_commit (hallowed w hw) hcommit hm')
  exact hkept hunlatched

theorem attemptPlan_externalFlat (h : w.attemptPlan?.isSome) :
    ∀ input, w ≠ .externalFlat input := by
  rintro input rfl
  cases h

theorem generation_of_haltsAndBinds
    (hallowed : ∀ w, allowed w → w = .haltLatched ∨ ∃ g, w = .bindGeneration g)
    (h : (writes sha allowed).rel l l') (hunlatched : l'.unknownHaltLatched = false) :
    ∃ generation, l' = { l with generation } := by
  have hkept : l'.unknownHaltLatched = true ∨ ∃ generation, l' = { l with generation } := by
    refine writes_keeps (I := fun m => m.unknownHaltLatched = true ∨
      ∃ generation, m = { l with generation }) ?_ h (Or.inr ⟨l.generation, rfl⟩)
    intro w m m' hw hcommit hm
    rcases hallowed w hw with rfl | ⟨g, rfl⟩
    · cases hcommit
      exact Or.inl rfl
    · obtain ⟨u, hcommit⟩ := map_snd_eq_ok.mp hcommit
      rw [(bindGenerationTransaction_ok hcommit).2]
      rcases hm with hm | ⟨generation, rfl⟩
      · exact Or.inl hm
      · exact Or.inr ⟨_, rfl⟩
  rcases hkept with hhalt | hsame
  · rw [hhalt] at hunlatched
    cases hunlatched
  · exact hsame

theorem RecordedAttempt.spends
    {generation : Option GenerationBinding} (hbound : l₁ = { l with generation })
    (hrecorded : RecordedAttempt sha plan l₁ l₂) (hunlatched : l₂.unknownHaltLatched = false)
    (hafter : (writes sha allowed).rel l₂ l') : ¬l.stillAdmits sha l' := by
  obtain ⟨w, m₁, m₂, hplan, hm₁, hcommit, hm₂, hmarket⟩ := hrecorded.committed
  have hsome : w.attemptPlan?.isSome := hplan ▸ rfl
  -- no halt was latched, so the attempt was committed on the ledger of the start
  have hunlatched₂ : m₂.unknownHaltLatched = false :=
    unlatched_of_writes (fun w hw input => by simp [hw]) hm₂ hunlatched
  have hunlatched₁ : m₁.unknownHaltLatched = false :=
    unlatched_of_commit (attemptPlan_externalFlat hsome) hcommit hunlatched₂
  obtain ⟨generation', rfl⟩ := generation_of_haltsAndBinds (fun _ => Or.inl) hm₁ hunlatched₁
  subst hbound
  obtain ⟨m, hadmitted⟩ := commit_of_generation (l := l) hsome hcommit
  obtain ⟨row, hinserts⟩ := commit_inserts hplan hcommit
  -- its row stays to the end
  have htaken : plan.attemptKey ∈ l'.attemptKeys :=
    attemptKeys_subset hafter (attemptKeys_subset hm₂ hinserts.taken)
  intro hstill
  exact not_admits_of_taken hplan htaken (hstill w hsome ⟨hmarket, m, hadmitted⟩)

end Admission

end FxStrategyLab
