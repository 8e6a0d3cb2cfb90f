import FxStrategyLab.Path.Runs

/-!
# The facts behind a decision

A method that resolves a pending transport or records an attempt uses up one
evidence, and checks that the evidence was issued at most 15 seconds ago.  A
carried evidence is issued anew at each carry, and nothing ties an evidence to
the POST after which it was gathered.  So the facts behind a decision are fresh
exactly when no carry has stretched their age and the transport has dispatched
nothing since their reconciliation began.
-/

namespace FxStrategyLab

open Library

section FreshEvidence

variable {β : Type}

/-- The monotonic time at which a call checks its evidence, which is the first
reading of its clock and the only one before it commits. -/
def PathRun.checkTime (r : PathRun β) (call : PathCall) : Monotonic :=
  ((r.world.beforeCall call).clock.elapse 0).monotonic

def PathRun.source? (r : PathRun β) (call : PathCall) : Option HeldEvidence :=
  call.op.evidence?.bind r.heldOf

/-- The call resolves the pending transport or records an attempt. -/
def PathRun.decides (r : PathRun β) (path : V4GmoCoordinatedActualPath β)
    (call : PathCall) : Prop :=
  (r.execute path call).2.store.ledger.attempts.rows ≠ r.world.store.ledger.attempts.rows ∨
    (r.world.store.ledger.pendingTransportAttempt ≠ none ∧
      (r.execute path call).2.store.ledger.pendingTransportAttempt = none)
deriving Decidable

/-- The reconciliation behind the evidence was completed at most 15 seconds ago,
and no POST has been dispatched since its reads began. -/
def PathRun.restsOnFreshFacts (r : PathRun β) (call : PathCall) (source : HeldEvidence) :
    Prop :=
  r.checkTime call ≤ source.origin.completedMonotonic + evidenceMaximumAge ∧
    ∀ event ∈ r.world.trace.drop source.origin.traceLength, event.isDispatch = false

instance (r : PathRun β) (call : PathCall) (source : HeldEvidence) :
    Decidable (r.restsOnFreshFacts call source) :=
  inferInstanceAs (Decidable (_ ∧ _))

/-- No carry has stretched the age of the evidence, and the counter of the
transport stands where it stood when its reconciliation began. -/
def PathRun.usedInOrder (r : PathRun β) (call : PathCall) (source : HeldEvidence) :
    Prop :=
  (source.carried = true →
      r.checkTime call ≤ source.origin.completedMonotonic + evidenceMaximumAge) ∧
    r.world.transport.postsDispatched = source.origin.postsDispatched

/-- The write neither records an attempt nor touches the pending transport. -/
def LedgerWrite.quiet : LedgerWrite → Prop
  | .marketAttempt _ _ _ _ _ | .protectionAttempt _ _ _ _ _ _ | .riskReducing _ _
  | .transportOutcome _ _ _ | .resolve _ _ | .killRehearsal _ => False
  | _ => True

def Ledger.decisions (l : Ledger) : AttemptTable × Option PendingTransportAttempt :=
  (l.attempts, l.pendingTransportAttempt)

variable {sha : Sha256}

theorem commit_quiet {w : LedgerWrite} {l l' : Ledger} (hquiet : w.quiet)
    (h : w.commit sha l = .ok l') : l'.decisions = l.decisions := by
  cases w with
  | haltLatched =>
      cases h
      rfl
  | bindGeneration generation =>
      obtain ⟨u, h⟩ := map_snd_eq_ok.mp h
      rw [(bindGenerationTransaction_ok h).2]
      rfl
  | reserve intent risk nowUtc =>
      obtain ⟨u, h⟩ := map_snd_eq_ok.mp h
      rw [(reserveTransaction_ok sha h).2.2.2]
      rfl
  | release cycleRef =>
      obtain ⟨released, h⟩ := map_snd_eq_ok.mp h
      rcases releaseTransaction_ok h with ⟨-, -, rfl⟩ | ⟨-, rfl⟩ <;> rfl
  | entryPreflight input nowUtc nowMonotonic =>
      obtain ⟨digest, h⟩ := map_snd_eq_ok.mp h
      obtain ⟨row, -, -, -, -, -, -, -, rfl⟩ := entryPreflightTransaction_ok sha h
      rfl
  | protectionPlan cycleRef plan averageFillPrice =>
      obtain ⟨u, h⟩ := map_snd_eq_ok.mp h
      obtain ⟨row, -, -, rfl⟩ := protectionPlanTransaction_ok sha h
      rfl
  | confirmProtection signalFingerprint size nowUtc nowMonotonic =>
      obtain ⟨u, h⟩ := map_snd_eq_ok.mp h
      obtain ⟨row, plan, attempted, -, -, -, -, -, rfl⟩ := confirmProtectionTransaction_ok h
      rfl
  | closedMetrics cycleRef realizedPnlJpy =>
      obtain ⟨recorded, h⟩ := map_snd_eq_ok.mp h
      obtain ⟨row, -, ⟨-, rfl, -⟩ | ⟨-, -, rfl⟩⟩ := closedMetricsTransaction_ok h <;> rfl
  | externalFlat input =>
      obtain ⟨released, h⟩ := map_snd_eq_ok.mp h
      rcases externalFlatTransaction_ok h with ⟨-, rfl⟩ | ⟨-, row, -, -, -, -, -, rfl⟩ <;>
        rfl
  | inheritedBaseline baseline =>
      obtain ⟨u, h⟩ := map_snd_eq_ok.mp h
      rw [inheritedBaselineTransaction_ok h]
      rfl
  | marketAttempt _ _ _ _ _ | protectionAttempt _ _ _ _ _ _ | riskReducing _ _
  | transportOutcome _ _ _ | resolve _ _ | killRehearsal _ => exact hquiet.elim

theorem PathChange.sameDecisions {eff : PathEffects} {w w' : PathWorld β}
    (h : PathChange sha eff w w') (hquiet : ∀ write, eff.allowed write → write.quiet) :
    w'.store.ledger.decisions = w.store.ledger.decisions :=
  writes_keeps (I := fun l => l.decisions = w.store.ledger.decisions)
    (fun _ _ _ hallowed hcommit hl => (commit_quiet (hquiet _ hallowed) hcommit).trans hl)
    h.store.1 rfl

/-- What a method may do before it decides: latch the halt and bind the generation. -/
def undecided : PathEffects where
  allowed
    | .haltLatched | .bindGeneration _ => True
    | _ => False
  posting := False
  saving := False

theorem undecided_quiet (write : LedgerWrite) (h : undecided.allowed write) : write.quiet := by
  cases write <;> trivial

def V4AuthoritativeReconciliationEvidence.youngAt
    (evidence : V4AuthoritativeReconciliationEvidence) (now : Monotonic) : Prop :=
  now ≤ evidence.issuedMonotonic + evidenceMaximumAge

namespace V4GmoCoordinatedActualPath

open Path

variable (path : V4GmoCoordinatedActualPath β)

theorem requireLock_returned {w w' : PathWorld β} {u : Unit}
    (h : (requireLock : Path β Unit).run w = (.returned u, w')) : w' = w := by
  rw [requireLock, Process.run_gets_bind] at h
  exact (require_returned h).2

variable {evidence : V4AuthoritativeReconciliationEvidence} {cycleRef signalFingerprint : Digest}

theorem consumeReconciliationEvidence_returned
    {now : Monotonic} {maximumAge : Nat} {w w' : PathWorld β}
    {result : V4GmoActualReconciliation × Digest}
    (h : (path.consumeReconciliationEvidence evidence cycleRef now maximumAge).run w =
      (.returned result, w')) :
    evidence.issuedMonotonic ≤ now ∧ now ≤ evidence.issuedMonotonic + maximumAge := by
  rw [consumeReconciliationEvidence, Process.run_gets_bind] at h
  obtain ⟨u, w₁, hbound, h⟩ := Process.run_bind_eq_returned.mp h
  split at h
  · exact absurd h refuse_not_returned
  · obtain ⟨u', w₂, hage, h⟩ := Process.run_bind_eq_returned.mp h
    obtain ⟨hissued, hage⟩ := (require_returned hage).1
    exact ⟨hissued, Nat.sub_le_iff_le_add'.mp hage⟩

theorem young_or_undecided {now : Monotonic} {α : Type}
    {f : V4GmoActualReconciliation × Digest → Path β α} (w : PathWorld β) :
    evidence.youngAt now ∨
      (pathChange path.sha undecided).rel w
        ((path.consumeReconciliationEvidence evidence cycleRef now evidenceMaximumAge >>=
          f).run w).2 := by
  refine Within.unless_bind (path.within_consumeReconciliationEvidence _ _ _ _) ?_
  intro result w' hconsumed
  exact Or.inl (path.consumeReconciliationEvidence_returned hconsumed).2

theorem resolveWithEvidence_young (w : PathWorld β) :
    evidence.youngAt (w.clock.elapse 0).monotonic ∨
      (pathChange path.sha undecided).rel w
        ((path.resolveWithEvidence cycleRef evidence).run w).2 := by
  refine Within.unless_bind path.within_requireLock fun _ w₁ hlock => ?_
  obtain rfl := requireLock_returned hlock
  refine Within.unless_bind
    (within_onStore (within_bindGeneration trivial trivial)) fun _ w₂ hbound => ?_
  have hclock : w₂.clock = w₁.clock := by rw [(onStore_returned hbound).2]
  rw [← hclock]
  refine Within.unless_bind within_monotonicNow fun now w₃ hnow => ?_
  cases hnow
  exact path.young_or_undecided _

theorem recoverPendingTransportOnce_young (w : PathWorld β) :
    evidence.youngAt (w.clock.elapse 0).monotonic ∨
      (pathChange path.sha undecided).rel w
        ((path.recoverPendingTransportOnce cycleRef evidence).run w).2 :=
  Within.unless_then (path.resolveWithEvidence_young w) fun _ => Within.pure _

theorem recoverPendingTransportAndCarryOnce_young (w : PathWorld β) :
    evidence.youngAt (w.clock.elapse 0).monotonic ∨
      (pathChange path.sha undecided).rel w
        ((path.recoverPendingTransportAndCarryOnce cycleRef evidence).run w).2 := by
  refine Within.unless_then (path.resolveWithEvidence_young w) fun resolved => ?_
  exact (path.within_mintReconciliationEvidence _ _ _).bind fun _ => Within.pure _

theorem performExactProtectionOnce_young
    {plan : V4GmoActionPlan} {protectionPlan : V4GmoExactProtectionPlan} (w : PathWorld β) :
    evidence.youngAt (w.clock.elapse 0).monotonic ∨
      (pathChange path.sha undecided).rel w
        ((path.performExactProtectionOnce signalFingerprint plan protectionPlan
          evidence).run w).2 := by
  refine Within.unless_bind within_wallNow fun nowUtc w₁ hwall => ?_
  cases hwall
  refine Within.unless_bind within_monotonicNow fun now w₂ hnow => ?_
  cases hnow
  refine Within.unless_bind (path.within_requireReady trivial trivial _ _)
    fun _ w₃ _ => ?_
  exact path.young_or_undecided _

theorem performRiskReducingOnce_young {plan : V4GmoActionPlan}
    {marketStatus : Option V4GmoPublicMarketStatusEvidence} (w : PathWorld β) :
    evidence.youngAt (w.clock.elapse 0).monotonic ∨
      (pathChange path.sha undecided).rel w
        ((path.performRiskReducingOnce signalFingerprint plan evidence
          marketStatus).run w).2 := by
  refine Within.unless_bind within_wallNow fun nowUtc w₁ hwall => ?_
  cases hwall
  refine Within.unless_bind within_monotonicNow fun now w₂ hnow => ?_
  cases hnow
  refine Within.unless_bind (within_require _ _) fun _ w₃ _ => ?_
  refine Within.unless_bind (path.within_requireReady trivial trivial _ _)
    fun _ w₄ _ => ?_
  refine Within.unless_bind (path.within_bindTransportGuard trivial _ _)
    fun _ w₅ _ => ?_
  exact path.young_or_undecided _

end V4GmoCoordinatedActualPath

variable {op : PathOp}

/-- A call that takes an evidence decides nothing unless the evidence is young
enough at the first reading of its clock. -/
theorem PathOp.young_or_sameDecisions (path : V4GmoCoordinatedActualPath β)
    {evidence : V4AuthoritativeReconciliationEvidence} (hop : op.evidence? = some evidence)
    (w : PathWorld β) :
    evidence.youngAt (w.clock.elapse 0).monotonic ∨
      ((op.exec path).run w).2.store.ledger.decisions = w.store.ledger.decisions := by
  have hquiet : op.restarts = false → (∀ write, op.writes write → write.quiet) →
      ((op.exec path).run w).2.store.ledger.decisions = w.store.ledger.decisions :=
    fun hrestart hwrites => PathChange.sameDecisions (op.within_exec path hrestart w) hwrites
  have hundecided : ∀ {w' : PathWorld β}, (pathChange path.sha undecided).rel w w' →
      w'.store.ledger.decisions = w.store.ledger.decisions :=
    fun h => PathChange.sameDecisions h undecided_quiet
  cases op with
  | restart | restartRecovered | reserveEntryCycle | releaseUnattemptedReservation
  | reconcileExternalFlatNoPost | engageUnknownHalt | reconcileOnceFixed
  | performMarketOnce | heartbeat => cases hop
  | recordCanaryEntryPreflight | prepareExactProtectionPlan
  | prepareCancelEntryRemainderPlan | confirmExactProtectionOnce
  | recordFlatClosedResultOnce | classifyProtectedLifecycleOnce =>
      refine Or.inr (hquiet rfl fun write hwrite => ?_)
      cases write <;> first | trivial | simp [writes] at hwrite
  | recoverPendingTransportOnce cycleRef taken =>
      cases hop
      exact (Within.unless_then (path.recoverPendingTransportOnce_young w) fun _ =>
        Within.pure _).imp_right hundecided
  | recoverPendingTransportAndCarryOnce cycleRef taken =>
      cases hop
      exact (Within.unless_then (path.recoverPendingTransportAndCarryOnce_young w) fun _ =>
        Within.pure _).imp_right hundecided
  | performExactProtectionOnce signalFingerprint plan protectionPlan taken =>
      cases hop
      exact (Within.unless_then (path.performExactProtectionOnce_young w) fun _ =>
        Within.pure _).imp_right hundecided
  | performRiskReducingOnce signalFingerprint plan taken marketStatus =>
      cases hop
      exact (Within.unless_then (path.performRiskReducingOnce_young w) fun _ =>
        Within.pure _).imp_right hundecided

/-- The origin of a held evidence agrees with the trace and the POST counter, and
an evidence that was never carried was issued when its reconciliation ended. -/
structure HeldEvidence.Traced (source : HeldEvidence) (w : PathWorld β) : Prop where
  issued : source.carried = false →
    source.evidence.issuedMonotonic = source.origin.completedMonotonic
  within : source.origin.traceLength ≤ w.trace.length
  counted : w.transport.postsDispatched =
    source.origin.postsDispatched +
      (w.trace.drop source.origin.traceLength).countP PathEvent.isDispatch

variable {source : HeldEvidence}

theorem HeldEvidence.Traced.later {w w' : PathWorld β}
    {eff : PathEffects} (h : source.Traced w) (hchange : PathChange sha eff w w') :
    source.Traced w' := by
  obtain ⟨events, htrace, -, hposts⟩ := hchange.trace
  have hdrop : w'.trace.drop source.origin.traceLength =
      w.trace.drop source.origin.traceLength ++ events := by
    rw [htrace, List.drop_append_of_le_length h.within]
  refine ⟨h.issued, ?_, ?_⟩
  · rw [htrace, List.length_append]
    exact h.within.trans (Nat.le_add_right _ _)
  · rw [hposts, hdrop, List.countP_append, h.counted, Nat.add_assoc]

def PathRun.HeldTraced (r : PathRun β) : Prop :=
  ∀ source ∈ r.held, source.Traced r.world

theorem PathRun.heldOf_mem {r : PathRun β} {evidence : V4AuthoritativeReconciliationEvidence}
    (h : r.heldOf evidence = some source) : source ∈ r.held ∧ source.evidence = evidence := by
  have hfound := List.find?_some h
  exact ⟨List.mem_of_find?_eq_some h, by simpa using hfound⟩

theorem restart_heldAfter (path : V4GmoCoordinatedActualPath β) (r : PathRun β)
    (hop : op.restarts = true) (w : PathWorld β) :
    r.heldAfter op ((op.exec path).run w).1 = [] := by
  cases op with
  | restart scope =>
      rcases h : ((PathOp.restart scope).exec path).run w with ⟨o, w'⟩
      cases o with
      | returned result =>
          obtain ⟨_, w₁, -, h⟩ := Process.run_bind_eq_returned.mp h
          obtain ⟨_, w₂, -, h⟩ := Process.run_bind_eq_returned.mp h
          cases h
          rfl
      | raised e => rfl
      | killed => rfl
  | restartRecovered scope =>
      rcases h : ((PathOp.restartRecovered scope).exec path).run w with ⟨o, w'⟩
      cases o with
      | returned result =>
          obtain ⟨_, w₁, -, h⟩ := Process.run_bind_eq_returned.mp h
          cases h
          rfl
      | raised e => rfl
      | killed => rfl
  | _ => cases hop

/-- What is held after a call was held before or is the new evidence, whose
origin is that of its source or the state before the call. -/
theorem PathRun.mem_heldAfter {r : PathRun β} {o : Outcome V4Error PathResult}
    (h : source ∈ r.heldAfter op o) :
    source ∈ r.held ∨
      (∃ earlier ∈ r.held, source.origin = earlier.origin ∧ source.carried = true) ∨
      (source.carried = false ∧
        source.evidence.issuedMonotonic = source.origin.completedMonotonic ∧
        source.origin.postsDispatched = r.world.transport.postsDispatched ∧
        source.origin.traceLength = r.world.trace.length) := by
  unfold heldAfter at h
  split at h
  · split at h
    · rename_i e earlier hsource
      obtain ⟨taken, -, hsource⟩ := Option.bind_eq_some_iff.mp hsource
      rcases List.mem_cons.mp h with rfl | h
      · exact Or.inr (Or.inl ⟨earlier, (heldOf_mem hsource).1, rfl, rfl⟩)
      · exact Or.inl h
    · rcases List.mem_cons.mp h with rfl | h
      · exact Or.inr (Or.inr ⟨rfl, rfl, rfl, rfl⟩)
      · exact Or.inl h
  · cases h
  · split at h
    · cases h
    · exact Or.inl h

/-- **Step.** A call keeps the held evidence traced. -/
theorem heldTraced_step (path : V4GmoCoordinatedActualPath β) (r : PathRun β)
    (call : PathCall) (h : r.HeldTraced) : (pathStep path r call).HeldTraced := by
  unfold pathStep
  split
  swap
  · exact h
  intro source hsource
  by_cases hrestart : call.op.restarts = true
  · -- a new process holds nothing
    have hmem : source ∈ r.heldAfter call.op (r.execute path call).1 := hsource
    rw [PathRun.execute, restart_heldAfter path r hrestart] at hmem
    cases hmem
  have hchange := call.op.within_exec path (by simpa using hrestart)
    (r.world.beforeCall call)
  by_cases hkilled : (r.execute path call).1 = .killed
  · have hmem : source ∈ r.heldAfter call.op (r.execute path call).1 := hsource
    rw [hkilled] at hmem
    cases hmem
  have hworld : (r.next call.op (r.execute path call).1 (r.execute path call).2).world =
      (r.execute path call).2 := if_neg hkilled
  rw [hworld]
  rcases PathRun.mem_heldAfter hsource with hheld | ⟨earlier, hheld, horigin, hcarried⟩ |
    ⟨-, hissued, hposts, hlength⟩
  · exact HeldEvidence.Traced.later (w := r.world.beforeCall call)
      ⟨(h source hheld).issued, (h source hheld).within, (h source hheld).counted⟩ hchange
  · have hearlier : earlier.Traced (r.execute path call).2 :=
      HeldEvidence.Traced.later (w := r.world.beforeCall call)
        ⟨(h earlier hheld).issued, (h earlier hheld).within, (h earlier hheld).counted⟩
        hchange
    refine ⟨fun hnot => ?_, ?_, ?_⟩
    · rw [hcarried] at hnot
      cases hnot
    · rw [horigin]
      exact hearlier.within
    · rw [horigin]
      exact hearlier.counted
  · refine HeldEvidence.Traced.later (w := r.world.beforeCall call)
      ⟨fun _ => hissued, ?_, ?_⟩ hchange
    · exact hlength.le
    · show r.world.transport.postsDispatched = _ + List.countP _ (r.world.trace.drop _)
      rw [hposts, hlength, List.drop_length]
      rfl

/-- **Run.** Every evidence that a process holds after a run is traced. -/
theorem heldTraced_after (path : V4GmoCoordinatedActualPath β)
    (scope : V4ActivatedRuntimeScope) (broker : β) (calls : List PathCall) :
    (after (pathStep path) (.start scope broker) calls).HeldTraced :=
  invariant_after (C := fun _ _ => True) (fun r call h _ => heldTraced_step path r call h)
    (by
      intro source h
      cases h)
    (meetsAlong_of_mem (Q := fun _ => True) fun _ _ => trivial)

namespace Sample

/-- Two reconciliations, then the MARKET entry: the first evidence is left over. -/
def leftOver : List PathCall :=
  [{ op := .reserveEntryCycle (intent 0) (at_ 1) },
    { op := .heartbeat (at_ 1) },
    { op := .reconcileOnceFixed (cycleRef 0) .buy 1000 },
    { op := .reconcileOnceFixed (cycleRef 0) .buy 1000 },
    { op := .recordCanaryEntryPreflight (fingerprint 0) (cycleRef 0) 150 (150 + 1 / 1000)
        (evidence 0 1 flatReconciliation (monotonicMilliseconds 3300))
      wallReadings := [at_ 2] },
    { op := .performMarketOnce (fingerprint 0) (marketPlan 0), wallReadings := [at_ 3] }]

def recoverWith (objectId : Nat) (issuedMonotonic : Monotonic) : PathCall where
  op := .recoverPendingTransportOnce (cycleRef 0)
    (evidence 0 objectId flatReconciliation issuedMonotonic)
  wallReadings := [at_ 5]

def inOrder : List PathCall :=
  leftOver ++ [{ op := .reconcileOnceFixed (cycleRef 0) .buy 1000 }]

def thirdEvidence : HeldEvidence where
  evidence := evidence 0 2 flatReconciliation (monotonicMilliseconds 6600)
  origin := ⟨monotonicMilliseconds 6600, 1, 3⟩
  carried := false

def firstEvidence : HeldEvidence where
  evidence := evidence 0 0 flatReconciliation (monotonicMilliseconds 1650)
  origin := ⟨monotonicMilliseconds 1650, 0, 0⟩
  carried := false

end Sample

end FreshEvidence

end FxStrategyLab
