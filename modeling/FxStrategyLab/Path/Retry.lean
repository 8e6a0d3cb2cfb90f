import FxStrategyLab.Path.Dispatch

/-!
# After a failure before any POST

The path reports `V4_GMO_PRE_DISPATCH_FAILURE_NO_POST_SENT` when the body of a
`perform` method failed, no halt is latched and no POST was counted.  By then the
attempt of the call has been committed, and nothing on this way takes it back: the
ledger refuses the action it had admitted before the call.
-/

namespace FxStrategyLab

open Library

variable {β : Type}

namespace V4GmoCoordinatedActualPath

open Path

/-- A report that the handler makes itself: the body raised, and no halt is latched. -/
theorem dispatchGuarded_reported {body : Path β V4GmoPrivateOutcome} (hsilent : Silent body)
    {dispatchedBefore : Nat} {w w' : PathWorld β} {e : V4Error}
    (hrun : (dispatchGuarded dispatchedBefore body).run w = (.raised e, w'))
    (hreports : e.reportsPreDispatch) (hforeign : .raises e ∉ w.incidents) :
    w'.store.ledger.unknownHaltLatched = false ∧
      w'.store.ledger = (body.run w).2.store.ledgerAtStart := by
  unfold dispatchGuarded at hrun
  rw [Process.run_attempt] at hrun
  rcases hbody : body.run w with ⟨ob, w₁⟩
  rw [hbody] at hrun
  cases ob with
  | returned outcome => cases hrun
  | killed => cases hrun
  | raised e₀ =>
      -- the body did not raise this report
      have hother : e₀ ≠ e := by
        rintro rfl
        exact hforeign (hsilent.raised _ _ _ hbody hreports)
      dsimp only at hrun
      rcases onStore_query_cases Ledger.unknownHaltLatched w₁ with
        hkilled | ⟨s, hquery, hstart⟩
      · cases run_bind_killed hkilled hrun
      rw [Process.run_bind_returned (x := onStore unknownHaltLatched) hquery] at hrun
      by_cases hhalt : s.ledger.unknownHaltLatched = true
      · rw [if_pos hhalt] at hrun
        cases hrun
        exact absurd rfl hother
      rw [if_neg hhalt, Process.run_gets_bind] at hrun
      dsimp only at hrun
      split at hrun
      · rcases onStore_engageUnknownHalt_cases { w₁ with store := s } with
          hkilled | ⟨s', hengage, -⟩
        · cases run_bind_killed hkilled hrun
        · rw [Process.run_bind_returned hengage] at hrun
          cases hrun
          exact absurd rfl hother
      · cases hrun
        exact ⟨by simpa using hhalt, hstart⟩

end V4GmoCoordinatedActualPath

theorem RecordedAttempt.unlatched {sha : Sha256} {plan : V4GmoActionPlan} {l l' : Ledger}
    (h : RecordedAttempt sha plan l l') (hunlatched : l'.unknownHaltLatched = false) :
    l.unknownHaltLatched = false := by
  obtain ⟨w, l₁, l₂, hplan, hbefore, hcommit, hafter, -⟩ := h.committed
  have hhalts : ∀ w : LedgerWrite, w = .haltLatched → ∀ input, w ≠ .externalFlat input :=
    fun w hw input => by simp [hw]
  have hsome : w.attemptPlan?.isSome := hplan ▸ rfl
  exact unlatched_of_writes hhalts hbefore
    (unlatched_of_commit (attemptPlan_externalFlat hsome) hcommit
      (unlatched_of_writes hhalts hafter hunlatched))

/-- **Step.** When a process that comes to its dispatch in this way ends with the
report, the ledger refuses an attempt that it admitted before. -/
theorem Prepares.spends {path : V4GmoCoordinatedActualPath β} {plan : V4GmoActionPlan}
    {x : Path β V4GmoPrivateOutcome} (hx : Prepares path plan x) {w w' : PathWorld β}
    {e : V4Error} (hrun : x.run w = (.raised e, w')) (hreports : e.reportsPreDispatch)
    (hforeign : .raises e ∉ w.incidents) {l : Ledger}
    (hbefore : (writes path.sha haltsAndBinds.allowed).rel l w.store.ledger) :
    ¬l.stillAdmits path.sha w'.store.ledger := by
  induction hx generalizing w with
  | early hsilent hwithin => exact absurd (hsilent.raised _ _ _ hrun hreports) hforeign
  | step hsilent hwithin hf ih =>
      rename_i α x f
      have hincidents := hsilent.incidents w
      have hwrites := (hwithin w).store.1
      rw [Process.run_bind] at hrun
      rcases hx : x.run w with ⟨ox, w₁⟩
      rw [hx] at hrun hincidents hwrites
      cases ox with
      | returned a =>
          exact ih a hrun (fun hin => hforeign (hincidents.subset hin))
            ((writes path.sha haltsAndBinds.allowed).trans hbefore hwrites)
      | raised e' =>
          cases hrun
          exact absurd (hsilent.raised _ _ _ hx hreports) hforeign
      | killed => cases hrun
  | dispatch hrecord herrors hstore hsilent hwithin hposts hrecorded =>
      rename_i record body
      have hsilentRecord : Path.Silent (Path.onStore record : Path β V4PreparedAttempt) :=
        Path.silent_onStore herrors
      have hincidents := hsilentRecord.incidents w
      rw [Process.run_bind] at hrun
      rcases hr : (Path.onStore record : Path β V4PreparedAttempt).run w with ⟨ox, w₁⟩
      rw [hr] at hrun hincidents
      cases ox with
      | raised e' =>
          cases hrun
          exact absurd (hsilentRecord.raised _ _ _ hr hreports) hforeign
      | killed => cases hrun
      | returned attempt =>
          have hattempt := hrecord _ _ _ (Path.onStore_returned hr).1
          have hforeign₁ : .raises e ∉ w₁.incidents :=
            fun hin => hforeign (hincidents.subset hin)
          dsimp only [V4GmoCoordinatedActualPath.dispatchPrepared] at hrun
          split at hrun
          · have hrefuse : Path.Silent
                (V4GmoCoordinatedActualPath.haltAndRefuse "V4_COORDINATED_CYCLE_MISMATCH" :
                  Path β V4GmoPrivateOutcome) :=
              V4GmoCoordinatedActualPath.silent_haltAndRefuse (by decide)
            exact absurd (hrefuse.raised _ _ _ hrun hreports) hforeign₁
          rw [Process.run_gets_bind] at hrun
          obtain ⟨hunlatched, hledger⟩ :=
            V4GmoCoordinatedActualPath.dispatchGuarded_reported (hsilent attempt) hrun
              hreports hforeign₁
          -- from the commit to the end the body writes what `dispatching` allows
          have hafter : (writes path.sha dispatching.allowed).rel w₁.store.ledger
              w'.store.ledger := by
            rw [hledger]
            exact (writes path.sha dispatching.allowed).trans (hwithin attempt w₁).store.1
              (writes_ledgerAtStart path.sha (Or.inl rfl) _)
          have hunlatched₁ : w₁.store.ledger.unknownHaltLatched = false := by
            refine unlatched_of_writes ?_ hafter hunlatched
            rintro w (rfl | ⟨cycleRef, action, outcome, rfl⟩) input <;> simp
          obtain ⟨generation, hbound⟩ := generation_of_haltsAndBinds (fun _ => id) hbefore
            (hattempt.unlatched hunlatched₁)
          exact hattempt.spends hbound hunlatched₁ hafter

/-- **A failure before any POST is not retryable.** Whenever a call that performs an
action ends with this report, and no foreign code raised the report itself, the ledger
refuses an attempt that it admitted before the call. -/
theorem pre_dispatch_failure_not_retryable (path : V4GmoCoordinatedActualPath β)
    (op : PathOp) (hperforms : op.performs = true) (w w' : PathWorld β) (e : V4Error)
    (hrun : (op.exec path).run w = (.raised e, w')) (hreports : e.reportsPreDispatch)
    (hforeign : .raises e ∉ w.incidents) :
    ¬w.store.ledger.stillAdmits path.sha w'.store.ledger := by
  obtain ⟨x, plan, -, hprepares, hexec⟩ := op.exec_prepares path hperforms
  rw [hexec, Process.run_bind_pure] at hrun
  rcases hx : x.run w with ⟨ox, w₁⟩
  rw [hx] at hrun
  cases ox with
  | returned outcome => cases hrun
  | killed => cases hrun
  | raised e' =>
      cases hrun
      exact hprepares.spends (l := w.store.ledger) hx hreports hforeign
        ((writes path.sha haltsAndBinds.allowed).refl _)

namespace Sample

def failingCallback : List Incident :=
  [.quiet, .quiet, .quiet,
    .raises { exceptionClass := .other, message := "callback failed" }]

def preDispatchFailure : V4Error :=
  coordinatedPathError "V4_GMO_PRE_DISPATCH_FAILURE_NO_POST_SENT"

end Sample

open Sample in
theorem pre_dispatch_failure_not_retryable_callback :
    ¬(worldAtEntry failingCallback).store.ledger.stillAdmits Sha256.checksum
      (enterMarket failingCallback).2.store.ledger :=
  pre_dispatch_failure_not_retryable (path flatBroker)
    (.performMarketOnce (fingerprint 0) (marketPlan 0)) rfl (worldAtEntry failingCallback)
    (enterMarket failingCallback).2 preDispatchFailure (by decide +kernel) (by decide)
    (by decide +kernel)

namespace Sample

def marketWrite : LedgerWrite :=
  .marketAttempt
    { objectId := 0
      cycleRef := cycleRef 0
      signalFingerprint := fingerprint 0
      preflightDigest :=
        (((worldAtEntry []).store.ledger.cycle? (cycleRef 0)).bind
          CycleRow.entryPreflightDigest).getD [] }
    (fingerprint 0) (marketPlan 0) (at_ 3) (monotonicMilliseconds 1650)

end Sample

open Sample in
/-- The callback raises, no POST was sent, and the entry is refused from then on. -/
theorem pre_dispatch_failure_spends_entry :
    (enterMarket failingCallback).1 = .raised preDispatchFailure ∧
      ¬(worldAtEntry failingCallback).store.ledger.stillAdmits Sha256.checksum
        (enterMarket failingCallback).2.store.ledger := by
  refine ⟨by decide +kernel, fun hstill => ?_⟩
  have hrefused : ¬(enterMarket failingCallback).2.store.ledger.admits Sha256.checksum
      marketWrite := by decide +kernel
  exact hrefused (hstill marketWrite rfl (by decide +kernel))

end FxStrategyLab
