import FxStrategyLab.Coordinator.Cycles

/-!
# The halt and the entries, transaction by transaction

Both operations of the owner that commit an entry read the halt in one
transaction and insert in a later one, which does not read it again.  An
observer that latches the halt between the two is overtaken by the insert.

The transactions of a call are told apart by killing the owner before the next
one: `ledgerAfter n` is what the first `n` transactions leave.
-/

namespace FxStrategyLab

open Library

section HaltRace

variable {sha : Sha256}

def StoreCall.interference (call : StoreCall) (n : Nat) : Interference :=
  call.agenda.getD n .quiet

def StoreCall.agendaUpTo (call : StoreCall) (n : Nat) : List Interference :=
  (List.range n).map call.interference ++ [.kill]

def StoreRun.ledgerAfter (sha : Sha256) (r : StoreRun) (call : StoreCall) (n : Nat) : Ledger :=
  ((call.op.exec sha).run { r.world with agenda := call.agendaUpTo n }).2.ledger

def StoreRun.startsLatched (sha : Sha256) (r : StoreRun) (call : StoreCall) (n : Nat) : Prop :=
  call.interference n = .observerHalts ∨
    (r.ledgerAfter sha call n).unknownHaltLatched = true

/-- The second ledger has a cycle or a MARKET attempt that the first has not. -/
def Ledger.addsEntry (l l' : Ledger) : Prop :=
  (∃ cycleRef ∈ l'.cycleRefs, cycleRef ∉ l.cycleRefs) ∨
    ∃ row ∈ l'.marketAttempts, row ∉ l.marketAttempts

/-- No transaction of the call that starts with the halt latched commits a new
cycle or a new MARKET attempt. -/
def haltStopsEntries (sha : Sha256) (r : StoreRun) (call : StoreCall) : Prop :=
  r.holds call.op → ∀ n, r.startsLatched sha call n →
    ¬(r.ledgerAfter sha call n).addsEntry (r.ledgerAfter sha call (n + 1))

def Ledger.admitsReservation (sha : Sha256) (l : Ledger) (intent : EntryIntent)
    (nowUtc : Instant) : Prop :=
  intent.generation.entryDisabled = false ∧
    (l.generation = none ∨ l.generation = some intent.generation.binding) ∧
    l.unknownHaltLatched = false ∧
    (∀ row ∈ l.unresolved,
      externalFlatReconciliationMatches l.externalFlatReconciliation row.cycleRef
        intent.generation.digest nowUtc = true) ∧
    ∃ risk, priceEntry sha intent nowUtc = .ok risk ∧
      l.cycles.Fresh (reservedRow sha intent risk nowUtc)

def StoreWorld.admitsMarketAttempt (sha : Sha256) (s : StoreWorld)
    (authorization : V4VerifiedEntryPreflightAuthorization) (signalFingerprint : Digest)
    (plan : V4GmoActionPlan) (nowUtc : Instant) (nowMonotonic : Monotonic) : Prop :=
  authorization.objectId ∉ s.consumedObjects ∧
    authorization.signalFingerprint = signalFingerprint ∧
    s.ledger.unknownHaltLatched = false ∧ s.ledger.pendingTransportAttempt = none ∧
    ∃ row, s.ledger.cycleOfSignal? signalFingerprint = some row ∧
      row.admitsMarket plan authorization = true ∧
      row.marketTimely nowUtc nowMonotonic = true ∧
      s.ledger.attempts.Fresh (marketAttemptRow sha plan row.cycleRef nowUtc)

/-- The observer latches the halt just before the inserting transaction of an
entry that is admitted. -/
def haltOvertaken (sha : Sha256) (r : StoreRun) (call : StoreCall) : Prop :=
  r.holds call.op ∧
  match call.op with
  | .reserveEntryCycle intent nowUtc =>
      call.agenda.take 3 = [.quiet, .quiet, .observerHalts] ∧
        r.world.ledger.admitsReservation sha intent nowUtc
  | .recordMarketAttempt authorization signalFingerprint plan nowUtc nowMonotonic =>
      call.agenda.take 2 = [.quiet, .observerHalts] ∧
        r.world.admitsMarketAttempt sha authorization signalFingerprint plan nowUtc
          nowMonotonic
  | _ => False

variable {s s' : StoreWorld}

theorem ledgerAtStart_of_quiet (h : s.agenda.getD 0 .quiet = .quiet) :
    s.agenda.head? ≠ some .kill ∧ s.ledgerAtStart = s.ledger := by
  unfold StoreWorld.ledgerAtStart
  rcases hagenda : s.agenda with _ | ⟨i, rest⟩
  · simp
  · rw [hagenda] at h
    cases i <;> simp at h ⊢

theorem quiet_of_unlatched (hkill : s.agenda.head? ≠ some .kill)
    (h : s.ledgerAtStart.unknownHaltLatched = false) : s.agenda.getD 0 .quiet = .quiet := by
  unfold StoreWorld.ledgerAtStart at h
  rcases hagenda : s.agenda with _ | ⟨i, rest⟩
  · rfl
  · rw [hagenda] at h hkill
    cases i with
    | quiet => rfl
    | observerHalts => exact absurd h (by simp [Ledger.haltLatched])
    | kill => exact absurd rfl hkill

theorem unknownHaltLatched_returned_false :
    unknownHaltLatched.run s = (.returned false, s') ↔
      s.agenda.getD 0 .quiet = .quiet ∧ s.ledger.unknownHaltLatched = false ∧
        s' = { s with agenda := s.agenda.tail } := by
  rw [unknownHaltLatched, query, run_transact_eq_returned]
  constructor
  · rintro ⟨hkill, l, hok, rfl⟩
    simp only [Except.ok.injEq, Prod.mk.injEq] at hok
    have hquiet := quiet_of_unlatched hkill hok.1
    rw [(ledgerAtStart_of_quiet hquiet).2] at hok
    exact ⟨hquiet, hok.1, by rw [← hok.2]⟩
  · rintro ⟨hquiet, hhalt, rfl⟩
    obtain ⟨hkill, hstart⟩ := ledgerAtStart_of_quiet hquiet
    refine ⟨hkill, s.ledger, ?_, rfl⟩
    rw [hstart, hhalt]

variable {l l' : Ledger}

theorem bindGenerationTransaction_eq_ok {generation : V4GmoFrozenGeneration}
    (h : l.generation = none ∨ l.generation = some generation.binding) :
    bindGenerationTransaction generation l =
      .ok ((), { l with generation := some generation.binding }) := by
  unfold bindGenerationTransaction
  rcases h with h | h
  · simp [h]
  · have hsame : { l with generation := some generation.binding } = l := by rw [← h]
    rw [hsame, h]
    exact if_pos rfl

variable {nowUtc : Instant} {intent : EntryIntent} {risk : V4FrozenSignalRisk}

theorem reserveTransaction_eq_ok (hcovered : ∀ row ∈ l.unresolved,
      externalFlatReconciliationMatches l.externalFlatReconciliation row.cycleRef
        intent.generation.digest nowUtc = true)
    (hfresh : l.cycles.Fresh (reservedRow sha intent risk nowUtc)) :
    ∃ l', reserveTransaction sha intent risk nowUtc l = .ok ((), l') := by
  unfold reserveTransaction
  rw [if_neg (by simpa using hcovered)]
  unfold Table.insert?
  rw [dif_pos hfresh]
  exact ⟨_, rfl⟩

/-- The entry is validated and priced exactly when nothing disturbs its two
transactions and the ledger and the intent are in order. -/
theorem validateAndPriceEntry_returned
    :
    (validateAndPriceEntry sha intent nowUtc).run s = (.returned risk, s') ↔
      s.agenda.getD 0 .quiet = .quiet ∧ s.agenda.getD 1 .quiet = .quiet ∧
        s.ledger.unknownHaltLatched = false ∧
        (s.ledger.generation = none ∨
          s.ledger.generation = some intent.generation.binding) ∧
        priceEntry sha intent nowUtc = .ok risk ∧
        s' = { s with
          ledger := { s.ledger with generation := some intent.generation.binding }
          agenda := s.agenda.tail.tail } := by
  have htail : s.agenda.tail.getD 0 .quiet = s.agenda.getD 1 .quiet := by
    cases s.agenda <;> simp
  unfold validateAndPriceEntry
  constructor
  · intro h
    obtain ⟨u, s₁, hbind, h⟩ := Process.run_bind_eq_returned.mp h
    obtain ⟨halted, s₂, hhalt, h⟩ := Process.run_bind_eq_returned.mp h
    obtain ⟨rfl, h⟩ := Process.run_require_bind_eq_returned.mp h
    obtain ⟨hquiet, hunlatched, rfl⟩ := unknownHaltLatched_returned_false.mp hhalt
    obtain ⟨hkill, l, hok, rfl⟩ := run_transact_eq_returned.mp hbind
    obtain ⟨hgeneration, rfl⟩ := bindGenerationTransaction_ok hok
    have hquiet₀ := quiet_of_unlatched hkill hunlatched
    have hstart := (ledgerAtStart_of_quiet hquiet₀).2
    simp only [hstart] at hunlatched hgeneration h ⊢
    cases hprice : priceEntry sha intent nowUtc with
    | error e =>
        rw [hprice] at h
        cases h
    | ok risk' =>
        rw [hprice] at h
        cases h
        exact ⟨hquiet₀, htail ▸ hquiet, hunlatched, hgeneration, rfl, rfl⟩
  · rintro ⟨hquiet₀, hquiet₁, hunlatched, hgeneration, hprice, rfl⟩
    obtain ⟨hkill, hstart⟩ := ledgerAtStart_of_quiet hquiet₀
    refine Process.run_bind_eq_returned.mpr
      ⟨(), { s with
        ledger := { s.ledger with generation := some intent.generation.binding }
        agenda := s.agenda.tail }, ?_, ?_⟩
    · refine run_transact_eq_returned.mpr ⟨hkill, _, ?_, rfl⟩
      rw [hstart, bindGenerationTransaction_eq_ok hgeneration]
    · refine Process.run_bind_eq_returned.mpr ⟨false, _,
        unknownHaltLatched_returned_false.mpr ⟨htail.trans hquiet₁, hunlatched, rfl⟩, ?_⟩
      refine Process.run_require_bind_eq_returned.mpr ⟨rfl, ?_⟩
      rw [hprice]
      rfl

/-- The cycles and the halt after a validation, however it ends: only the halt
may have been latched. -/
theorem validateAndPriceEntry_cycleRefs (sha : Sha256) (intent : EntryIntent) (nowUtc : Instant)
    (s : StoreWorld) :
    ((validateAndPriceEntry sha intent nowUtc).run s).2.ledger.cycleRefs =
      s.ledger.cycleRefs := by
  have hwithin : Within
      (storeWrites sha fun w => w = .haltLatched ∨ w = .bindGeneration intent.generation)
      (validateAndPriceEntry sha intent nowUtc) :=
    within_validateAndPriceEntry (Or.inl rfl) (Or.inr rfl)
  refine writes_keeps (I := fun l => l.cycleRefs = s.ledger.cycleRefs) ?_ (hwithin s).1 rfl
  intro w l l' hw hcommit hl
  refine (commit_cycleRefs hcommit ?_).trans hl
  rcases hw with rfl | rfl <;> simp [LedgerWrite.movesCycle]

/-- What a reservation needs to commit: an admitted intent, a quiet validation
and no kill before the insert. -/
def StoreWorld.reserves (sha : Sha256) (s : StoreWorld) (intent : EntryIntent)
    (nowUtc : Instant) : Prop :=
  s.ledger.admitsReservation sha intent nowUtc ∧ s.agenda.getD 0 .quiet = .quiet ∧
    s.agenda.getD 1 .quiet = .quiet ∧ s.agenda.getD 2 .quiet ≠ .kill

theorem head?_tail_tail_eq_kill {agenda : List Interference} :
    agenda.tail.tail.head? ≠ some .kill ↔ agenda.getD 2 .quiet ≠ .kill := by
  rcases agenda with _ | ⟨i, _ | ⟨j, _ | ⟨k, rest⟩⟩⟩ <;> simp

theorem run_reserveTransaction_cycleRefs (hkill : s.agenda.head? ≠ some .kill)
    (hcovered : ∀ row ∈ s.ledger.unresolved,
      externalFlatReconciliationMatches s.ledger.externalFlatReconciliation row.cycleRef
        intent.generation.digest nowUtc = true)
    (hfresh : s.ledger.cycles.Fresh (reservedRow sha intent risk nowUtc)) :
    ∃ l, (transact (reserveTransaction sha intent risk nowUtc)).run s =
        (.returned (), { s with ledger := l, agenda := s.agenda.tail }) ∧
      l.cycleRefs = s.ledger.cycleRefs ++
        [cycleRefOf sha intent.generation.digest (intent.signal.fingerprint sha)] := by
  have hstart : s.ledgerAtStart.unresolved = s.ledger.unresolved ∧
      s.ledgerAtStart.externalFlatReconciliation = s.ledger.externalFlatReconciliation ∧
      s.ledgerAtStart.cycles = s.ledger.cycles := by
    rcases s.ledgerAtStart_eq with h | h <;> rw [h] <;> exact ⟨rfl, rfl, rfl⟩
  obtain ⟨l, hok⟩ : ∃ l, reserveTransaction sha intent risk nowUtc s.ledgerAtStart =
      .ok ((), l) := by
    refine reserveTransaction_eq_ok ?_ (hstart.2.2 ▸ hfresh)
    rw [hstart.1, hstart.2.1]
    exact hcovered
  refine ⟨l, run_transact_eq_returned.mpr ⟨hkill, l, hok, rfl⟩, ?_⟩
  rw [Ledger.cycleRefs, (reserveTransaction_ok sha hok).2.2.1, hstart.2.2, List.map_append]
  rfl

theorem reserveEntryCycle_cycleRefs (sha : Sha256) (intent : EntryIntent) (nowUtc : Instant)
    (s : StoreWorld) :
    (s.reserves sha intent nowUtc ∧
      ((reserveEntryCycle sha intent nowUtc).run s).2.ledger.cycleRefs =
        s.ledger.cycleRefs ++
          [cycleRefOf sha intent.generation.digest (intent.signal.fingerprint sha)]) ∨
    (¬s.reserves sha intent nowUtc ∧
      ((reserveEntryCycle sha intent nowUtc).run s).2.ledger.cycleRefs =
        s.ledger.cycleRefs) := by
  have hvalidated := validateAndPriceEntry_cycleRefs sha intent nowUtc s
  by_cases hreserves : s.reserves sha intent nowUtc
  · left
    refine ⟨hreserves, ?_⟩
    obtain ⟨⟨henabled, hgeneration, hunlatched, hcovered, risk, hprice, hfresh⟩, hquiet₀,
      hquiet₁, hkill⟩ := hreserves
    have hrun := validateAndPriceEntry_returned.mpr
      ⟨hquiet₀, hquiet₁, hunlatched, hgeneration, hprice, rfl⟩
    unfold reserveEntryCycle
    rw [Process.run_require_bind henabled, Process.run_bind_returned hrun]
    obtain ⟨l, hinsert, hrefs⟩ := run_reserveTransaction_cycleRefs
      (s := { s with
        ledger := { s.ledger with generation := some intent.generation.binding }
        agenda := s.agenda.tail.tail })
      (head?_tail_tail_eq_kill.mpr hkill) hcovered hfresh
    rw [Process.run_bind_returned hinsert]
    exact hrefs
  · right
    refine ⟨hreserves, ?_⟩
    unfold reserveEntryCycle
    by_cases henabled : intent.generation.entryDisabled = false
    · rw [Process.run_require_bind henabled]
      rcases hrun : (validateAndPriceEntry sha intent nowUtc).run s with ⟨outcome, s₁⟩
      rw [hrun] at hvalidated
      cases outcome with
      | raised e =>
          rw [Process.run_bind, hrun]
          exact hvalidated
      | killed =>
          rw [Process.run_bind, hrun]
          exact hvalidated
      | returned risk =>
          rw [Process.run_bind_returned hrun]
          obtain ⟨hquiet₀, hquiet₁, hunlatched, hgeneration, hprice, rfl⟩ :=
            validateAndPriceEntry_returned.mp hrun
          have hrefused : ∀ u t,
              (transact (reserveTransaction sha intent risk nowUtc)).run
                { s with
                  ledger := { s.ledger with generation := some intent.generation.binding }
                  agenda := s.agenda.tail.tail } ≠ (.returned u, t) := by
            intro u t hreturned
            obtain ⟨hkill, l, hok, -⟩ := run_transact_eq_returned.mp hreturned
            obtain ⟨hcovered, hfresh, -⟩ := reserveTransaction_ok sha hok
            refine hreserves ⟨⟨henabled, hgeneration, hunlatched, ?_, risk, hprice, ?_⟩,
              hquiet₀, hquiet₁, head?_tail_tail_eq_kill.mp hkill⟩
            · rcases StoreWorld.ledgerAtStart_eq _ with h | h <;> rw [h] at hcovered <;>
                exact hcovered
            · rcases StoreWorld.ledgerAtStart_eq _ with h | h <;> rw [h] at hfresh <;>
                exact hfresh
          rw [Process.run_bind_not_returned hrefused]
          rcases run_transact_not_returned hrefused with h | h <;> rw [h]
          · exact hvalidated
          · rcases StoreWorld.ledgerAtStart_eq _ with h | h <;> rw [h] <;> exact hvalidated
    · rw [Process.run_require_bind_not henabled]

variable {signalFingerprint cycleRef : Digest}

theorem marketAttemptTransaction_eq_ok {authorization : V4VerifiedEntryPreflightAuthorization}
    {plan : V4GmoActionPlan} {nowMonotonic : Monotonic}
    {row : CycleRow} (hrow : l.cycleOfSignal? signalFingerprint = some row)
    (hadmits : row.admitsMarket plan authorization = true)
    (htimely : row.marketTimely nowUtc nowMonotonic = true)
    (hpending : l.pendingTransportAttempt = none)
    (hfresh : l.attempts.Fresh (marketAttemptRow sha plan row.cycleRef nowUtc)) :
    ∃ attempt l', marketAttemptTransaction sha authorization signalFingerprint plan nowUtc
      nowMonotonic l = .ok (attempt, l') := by
  unfold marketAttemptTransaction Ledger.insertAttempt Table.insert?
  simp [hrow, hadmits, htimely, hpending, hfresh]

theorem marketAttemptTransaction_marketAttempts
    {authorization : V4VerifiedEntryPreflightAuthorization}
    {plan : V4GmoActionPlan} {nowMonotonic : Monotonic} {attempt : AttemptRow}
    (h : marketAttemptTransaction sha authorization signalFingerprint plan nowUtc
      nowMonotonic l = .ok (attempt, l')) :
    l'.marketAttempts = l.marketAttempts ++ [marketAttemptRow sha plan plan.cycleRef nowUtc] := by
  obtain ⟨row, inserted, -, hadmits, -, rfl, hinsert, rfl⟩ := marketAttemptTransaction_ok sha h
  have hrows := (insertAttempt_ok hinsert).2.2.1
  simp only [CycleRow.admitsMarket, decide_eq_true_eq] at hadmits
  rw [← hadmits.2.1] at hrows
  show inserted.attempts.rows.filter _ = _
  rw [hrows, List.filter_append]
  rfl

theorem marketAttempts_of_haltOnly {α : Type} {x : Store α}
    (hx : Within (storeWrites sha fun w => w = .haltLatched) x) (s : StoreWorld) :
    (x.run s).2.ledger.marketAttempts = s.ledger.marketAttempts := by
  refine writes_keeps (I := fun l => l.marketAttempts = s.ledger.marketAttempts) ?_
    (hx s).1 rfl
  rintro w l l' rfl hcommit hl
  exact (commit_marketAttempts hcommit (by simp [LedgerWrite.attemptAction?])).trans hl

/-- What a MARKET attempt needs to commit: an admitted attempt, a quiet reading of
the halt and no kill before the insert. -/
def StoreWorld.attemptsMarket (sha : Sha256) (s : StoreWorld)
    (authorization : V4VerifiedEntryPreflightAuthorization) (signalFingerprint : Digest)
    (plan : V4GmoActionPlan) (nowUtc : Instant) (nowMonotonic : Monotonic) : Prop :=
  s.admitsMarketAttempt sha authorization signalFingerprint plan nowUtc nowMonotonic ∧
    s.agenda.getD 0 .quiet = .quiet ∧ s.agenda.getD 1 .quiet ≠ .kill

theorem head?_tail_eq_kill {agenda : List Interference} :
    agenda.tail.head? ≠ some .kill ↔ agenda.getD 1 .quiet ≠ .kill := by
  rcases agenda with _ | ⟨i, _ | ⟨j, rest⟩⟩ <;> simp

theorem recordMarketAttempt_marketAttempts (sha : Sha256)
    (authorization : V4VerifiedEntryPreflightAuthorization) (signalFingerprint : Digest)
    (plan : V4GmoActionPlan) (nowUtc : Instant) (nowMonotonic : Monotonic) (s : StoreWorld) :
    (s.attemptsMarket sha authorization signalFingerprint plan nowUtc nowMonotonic ∧
      ((recordMarketAttempt sha authorization signalFingerprint plan nowUtc
          nowMonotonic).run s).2.ledger.marketAttempts =
        s.ledger.marketAttempts ++ [marketAttemptRow sha plan plan.cycleRef nowUtc]) ∨
    (¬s.attemptsMarket sha authorization signalFingerprint plan nowUtc nowMonotonic ∧
      ((recordMarketAttempt sha authorization signalFingerprint plan nowUtc
          nowMonotonic).run s).2.ledger.marketAttempts = s.ledger.marketAttempts) := by
  unfold recordMarketAttempt
  rw [Process.run_gets_bind]
  by_cases hattempts : s.attemptsMarket sha authorization signalFingerprint plan nowUtc
    nowMonotonic
  · left
    refine ⟨hattempts, ?_⟩
    obtain ⟨⟨hobject, hsignal, hunlatched, hpending, row, hrow, hadmits, htimely, hfresh⟩,
      hquiet, hkill⟩ := hattempts
    have hhalt := unknownHaltLatched_returned_false.mpr ⟨hquiet, hunlatched, rfl⟩
    obtain ⟨attempt, l, hok⟩ : ∃ attempt l, marketAttemptTransaction sha authorization
        signalFingerprint plan nowUtc nowMonotonic
        ({ s with agenda := s.agenda.tail } : StoreWorld).ledgerAtStart = .ok (attempt, l) := by
      rcases StoreWorld.ledgerAtStart_eq { s with agenda := s.agenda.tail } with h | h <;>
        rw [h] <;> exact marketAttemptTransaction_eq_ok hrow hadmits htimely hpending hfresh
    have hinsert := run_transact_eq_returned.mpr
      ⟨head?_tail_eq_kill.mpr hkill, l, hok, rfl⟩
    rw [Process.run_require_bind ⟨hobject, hsignal⟩, Process.run_bind_returned hhalt,
      Process.run_require_bind rfl, Process.run_bind_returned hinsert, Process.run_bind]
    have hissue : Within (storeWrites sha fun w => w = .haltLatched)
        (issuePreparedAttempt attempt none none) := within_issuePreparedAttempt (by rfl) _ _ _
    refine (marketAttempts_of_haltOnly hissue _).trans ?_
    refine (marketAttemptTransaction_marketAttempts hok).trans ?_
    rcases StoreWorld.ledgerAtStart_eq { s with agenda := s.agenda.tail } with h | h <;>
      rw [h]
    rfl
  · right
    refine ⟨hattempts, ?_⟩
    by_cases hissuer : authorization.objectId ∉ s.consumedObjects ∧
        authorization.signalFingerprint = signalFingerprint
    · rw [Process.run_require_bind hissuer]
      have hquery : Within (storeWrites sha fun w => w = .haltLatched) unknownHaltLatched :=
        within_unknownHaltLatched (by rfl)
      have hhalted := marketAttempts_of_haltOnly hquery s
      rcases hrun : unknownHaltLatched.run s with ⟨outcome, s₁⟩
      rw [hrun] at hhalted
      cases outcome with
      | raised e =>
          rw [Process.run_bind, hrun]
          exact hhalted
      | killed =>
          rw [Process.run_bind, hrun]
          exact hhalted
      | returned halted =>
          rw [Process.run_bind_returned hrun]
          cases halted with
          | true =>
              rw [Process.run_require_bind_not (by decide)]
              exact hhalted
          | false =>
              rw [Process.run_require_bind rfl]
              obtain ⟨hquiet, hunlatched, rfl⟩ := unknownHaltLatched_returned_false.mp hrun
              have hrefused : ∀ attempt t,
                  (transact (marketAttemptTransaction sha authorization signalFingerprint plan
                    nowUtc nowMonotonic)).run { s with agenda := s.agenda.tail } ≠
                    (.returned attempt, t) := by
                intro attempt t hreturned
                obtain ⟨hkill, l, hok, -⟩ := run_transact_eq_returned.mp hreturned
                obtain ⟨row, inserted, hrow, hadmits, htimely, rfl, hinsert, -⟩ :=
                  marketAttemptTransaction_ok sha hok
                obtain ⟨hpending, hfresh, -⟩ := insertAttempt_ok hinsert
                refine hattempts ⟨⟨hissuer.1, hissuer.2, hunlatched, ?_, row, ?_, hadmits,
                  htimely, ?_⟩, hquiet, head?_tail_eq_kill.mp hkill⟩
                · rcases StoreWorld.ledgerAtStart_eq _ with h | h <;> rw [h] at hpending <;>
                    exact hpending
                · rcases StoreWorld.ledgerAtStart_eq _ with h | h <;> rw [h] at hrow <;>
                    exact hrow
                · rcases StoreWorld.ledgerAtStart_eq _ with h | h <;> rw [h] at hfresh <;>
                    exact hfresh
              rw [Process.run_bind_not_returned hrefused]
              rcases run_transact_not_returned hrefused with h | h <;> rw [h]
              rcases StoreWorld.ledgerAtStart_eq { s with agenda := s.agenda.tail } with h | h <;>
                rw [h]
              rfl
    · rw [Process.run_require_bind_not hissuer]

@[simp]
theorem run_keepResult_snd {α : Type} (x : Store α) (f : α → StoreResult) (s : StoreWorld) :
    ((keepResult x f).run s).2 = (x.run s).2 := by
  unfold keepResult
  rw [Process.run_bind]
  rcases x.run s with ⟨outcome, s'⟩
  cases outcome <;> rfl

theorem getD_agendaUpTo_lt (call : StoreCall) {i n : Nat} (h : i < n) :
    (call.agendaUpTo n).getD i .quiet = call.interference i := by
  unfold StoreCall.agendaUpTo
  simp [List.getD_eq_getElem?_getD, List.getElem?_append, h]

theorem getD_agendaUpTo_self (call : StoreCall) (n : Nat) :
    (call.agendaUpTo n).getD n .quiet = .kill := by
  unfold StoreCall.agendaUpTo
  simp [List.getD_eq_getElem?_getD]

theorem ledgerAfter_cycleRefs (r : StoreRun) (call : StoreCall) (n : Nat)
    (h : ∀ w, call.op.writes w → ¬w.movesCycle) :
    (r.ledgerAfter sha call n).cycleRefs = r.world.ledger.cycleRefs := by
  have hwithin := (StoreOp.within_exec sha call.op
    { r.world with agenda := call.agendaUpTo n }).1
  refine writes_keeps (I := fun l => l.cycleRefs = r.world.ledger.cycleRefs) ?_ hwithin rfl
  intro w l l' hw hcommit hl
  exact (commit_cycleRefs hcommit (h w hw)).trans hl

theorem StoreOp.writes_attemptAction {op : StoreOp} {w : LedgerWrite} (hw : op.writes w)
    (haction : w.attemptAction? = some .marketEntry) :
    (∃ authorization signalFingerprint plan nowUtc nowMonotonic,
      op = .recordMarketAttempt authorization signalFingerprint plan nowUtc nowMonotonic) ∨
      ∃ input nowUtc, op = .recordRiskReducingAttempt input nowUtc := by
  cases w with
  | marketAttempt authorization signalFingerprint plan nowUtc nowMonotonic =>
      cases op <;> simp_all [StoreOp.writes]
  | riskReducing input nowUtc => cases op <;> simp_all [StoreOp.writes]
  | _ => simp [LedgerWrite.attemptAction?] at haction

theorem StoreOp.within_noMarket (sha : Sha256) (op : StoreOp)
    (h : ∀ authorization signalFingerprint plan nowUtc nowMonotonic,
      op ≠ .recordMarketAttempt authorization signalFingerprint plan nowUtc nowMonotonic) :
    Within (storeWrites sha fun w => w.attemptAction? ≠ some .marketEntry)
      (op.exec sha) := by
  by_cases hrisk : ∃ input nowUtc, op = .recordRiskReducingAttempt input nowUtc
  · obtain ⟨input, nowUtc, rfl⟩ := hrisk
    refine within_keepResult (within_recordRiskReducingAttempt (by
      simp [LedgerWrite.attemptAction?]) fun haction hmarket => ?_)
    rw [LedgerWrite.attemptAction?, Option.some.injEq] at hmarket
    exact absurd (hmarket ▸ haction) (by decide)
  · intro s
    refine ⟨writes_mono ?_ (op.within_exec sha s).1, (op.within_exec sha s).2⟩
    intro w hw haction
    rcases StoreOp.writes_attemptAction hw haction with ⟨a, f, p, u, m, heq⟩ | hinput
    · exact h a f p u m heq
    · exact hrisk hinput

theorem ledgerAfter_marketAttempts (r : StoreRun) (call : StoreCall) (n : Nat)
    (h : ∀ authorization signalFingerprint plan nowUtc nowMonotonic,
      call.op ≠ .recordMarketAttempt authorization signalFingerprint plan nowUtc
        nowMonotonic) :
    (r.ledgerAfter sha call n).marketAttempts = r.world.ledger.marketAttempts := by
  refine writes_keeps (I := fun l => l.marketAttempts = r.world.ledger.marketAttempts) ?_
    (call.op.within_noMarket sha h _).1 rfl
  intro w l l' hw hcommit hl
  exact (commit_marketAttempts hcommit hw).trans hl

variable {call : StoreCall}

theorem take_three_eq :
    call.agenda.take 3 = [.quiet, .quiet, .observerHalts] ↔
      call.interference 0 = .quiet ∧ call.interference 1 = .quiet ∧
        call.interference 2 = .observerHalts := by
  unfold StoreCall.interference
  rcases call.agenda with _ | ⟨i, _ | ⟨j, _ | ⟨k, rest⟩⟩⟩ <;> simp

def StoreRun.commitsReservation (sha : Sha256) (r : StoreRun) (call : StoreCall)
    (intent : EntryIntent) (nowUtc : Instant) : Prop :=
  r.world.ledger.admitsReservation sha intent nowUtc ∧ call.interference 0 = .quiet ∧
    call.interference 1 = .quiet ∧ call.interference 2 ≠ .kill

variable {r : StoreRun}

theorem reserves_agendaUpTo {n : Nat} :
    ({ r.world with agenda := call.agendaUpTo n } : StoreWorld).reserves sha intent nowUtc ↔
      3 ≤ n ∧ r.commitsReservation sha call intent nowUtc := by
  unfold StoreWorld.reserves StoreRun.commitsReservation
  dsimp only
  constructor
  · rintro ⟨hadmits, h₀, h₁, h₂⟩
    have hn : 3 ≤ n := by
      rcases n with _ | _ | _ | n
      · exact absurd ((getD_agendaUpTo_self call 0).symm.trans h₀) (by decide)
      · exact absurd ((getD_agendaUpTo_self call 1).symm.trans h₁) (by decide)
      · exact absurd (getD_agendaUpTo_self call 2) h₂
      · omega
    rw [getD_agendaUpTo_lt call (by omega)] at h₀ h₁ h₂
    exact ⟨hn, hadmits, h₀, h₁, h₂⟩
  · rintro ⟨hn, hadmits, h₀, h₁, h₂⟩
    refine ⟨hadmits, ?_, ?_, ?_⟩
    · rwa [getD_agendaUpTo_lt call (by omega)]
    · rwa [getD_agendaUpTo_lt call (by omega)]
    · rwa [getD_agendaUpTo_lt call (by omega)]

theorem reserveEntryCycle_unlatched (hadmits : s.ledger.admitsReservation sha intent nowUtc)
    (hquiet₀ : s.agenda.getD 0 .quiet = .quiet) (hquiet₁ : s.agenda.getD 1 .quiet = .quiet)
    (hkill : s.agenda.getD 2 .quiet = .kill) :
    ((reserveEntryCycle sha intent nowUtc).run s).2.ledger.unknownHaltLatched = false := by
  obtain ⟨henabled, hgeneration, hunlatched, -, risk, hprice, -⟩ := hadmits
  have hrun := validateAndPriceEntry_returned.mpr
    ⟨hquiet₀, hquiet₁, hunlatched, hgeneration, hprice, rfl⟩
  have hhead : s.agenda.tail.tail.head? = some .kill := by
    by_contra h
    exact head?_tail_tail_eq_kill.mp h hkill
  unfold reserveEntryCycle
  rw [Process.run_require_bind henabled, Process.run_bind_returned hrun, Process.run_bind,
    run_transact_killed hhead]
  exact hunlatched

theorem ledgerAfter_reserve (sha : Sha256) (r : StoreRun)
    (hop : call.op = .reserveEntryCycle intent nowUtc) (n : Nat) :
    ((3 ≤ n ∧ r.commitsReservation sha call intent nowUtc) ∧
      (r.ledgerAfter sha call n).cycleRefs = r.world.ledger.cycleRefs ++
        [cycleRefOf sha intent.generation.digest (intent.signal.fingerprint sha)]) ∨
    (¬(3 ≤ n ∧ r.commitsReservation sha call intent nowUtc) ∧
      (r.ledgerAfter sha call n).cycleRefs = r.world.ledger.cycleRefs) := by
  have hrefs := reserveEntryCycle_cycleRefs sha intent nowUtc
    { r.world with agenda := call.agendaUpTo n }
  rw [reserves_agendaUpTo] at hrefs
  unfold StoreRun.ledgerAfter
  rw [hop, StoreOp.exec, run_keepResult_snd]
  exact hrefs

theorem haltStopsEntries_reserve (hop : call.op = .reserveEntryCycle intent nowUtc) :
    haltStopsEntries sha r call ↔ ¬haltOvertaken sha r call := by
  have hmarket : ∀ n, (r.ledgerAfter sha call n).marketAttempts =
      r.world.ledger.marketAttempts := fun n =>
    ledgerAfter_marketAttempts r call n (by simp [hop])
  constructor
  · rintro hstops ⟨hholds, hcase⟩
    rw [hop] at hcase
    obtain ⟨htake, hadmits⟩ := hcase
    obtain ⟨h₀, h₁, h₂⟩ := take_three_eq.mp htake
    have hcommits : r.commitsReservation sha call intent nowUtc :=
      ⟨hadmits, h₀, h₁, by simp [h₂]⟩
    obtain ⟨-, -, -, -, risk, -, hfresh⟩ := hadmits
    refine hstops hholds 2 (Or.inl h₂) (Or.inl
      ⟨cycleRefOf sha intent.generation.digest (intent.signal.fingerprint sha), ?_, ?_⟩)
    · rcases ledgerAfter_reserve sha r hop 3 with ⟨-, h⟩ | ⟨h, -⟩
      · simp [h]
      · exact absurd ⟨le_rfl, hcommits⟩ h
    · rcases ledgerAfter_reserve sha r hop 2 with ⟨⟨h, -⟩, -⟩ | ⟨-, h⟩
      · omega
      · rw [h]
        exact hfresh CycleRow.cycleRef (by simp [cycleKeys])
  · intro hnot hholds n hlatched hadds
    rcases hadds with ⟨cycleRef, hin, hout⟩ | ⟨row, hin, hout⟩
    · rcases ledgerAfter_reserve sha r hop (n + 1) with ⟨⟨hn, hcommits⟩, h⟩ | ⟨-, h⟩
      · rcases ledgerAfter_reserve sha r hop n with ⟨-, h'⟩ | ⟨hbefore, h'⟩
        · exact hout (h' ▸ h ▸ hin)
        · -- the insert is the third transaction
          have htwo : n = 2 := by
            by_contra hne
            exact hbefore ⟨by omega, hcommits⟩
          subst htwo
          obtain ⟨hadmits, h₀, h₁, h₂⟩ := hcommits
          rcases hlatched with hhalts | hlatched
          · refine hnot ⟨hholds, ?_⟩
            rw [hop]
            exact ⟨take_three_eq.mpr ⟨h₀, h₁, hhalts⟩, hadmits⟩
          · have hunlatched : (r.ledgerAfter sha call 2).unknownHaltLatched = false := by
              unfold StoreRun.ledgerAfter
              rw [hop, StoreOp.exec, run_keepResult_snd]
              exact reserveEntryCycle_unlatched hadmits
                ((getD_agendaUpTo_lt call (by omega)).trans h₀)
                ((getD_agendaUpTo_lt call (by omega)).trans h₁)
                (getD_agendaUpTo_self call 2)
            rw [hunlatched] at hlatched
            cases hlatched
      · refine hout ?_
        rcases ledgerAfter_reserve sha r hop n with ⟨-, h'⟩ | ⟨-, h'⟩
        · rw [h', ← h]
          exact List.mem_append_left _ hin
        · rwa [h', ← h]
    · exact hout (hmarket n ▸ hmarket (n + 1) ▸ hin)

theorem take_two_eq :
    call.agenda.take 2 = [.quiet, .observerHalts] ↔
      call.interference 0 = .quiet ∧ call.interference 1 = .observerHalts := by
  unfold StoreCall.interference
  rcases call.agenda with _ | ⟨i, _ | ⟨j, rest⟩⟩ <;> simp

def StoreRun.commitsMarketAttempt (sha : Sha256) (r : StoreRun) (call : StoreCall)
    (authorization : V4VerifiedEntryPreflightAuthorization) (signalFingerprint : Digest)
    (plan : V4GmoActionPlan) (nowUtc : Instant) (nowMonotonic : Monotonic) : Prop :=
  r.world.admitsMarketAttempt sha authorization signalFingerprint plan nowUtc
      nowMonotonic ∧
    call.interference 0 = .quiet ∧ call.interference 1 ≠ .kill

section MarketAttempt

variable {r : StoreRun} {call : StoreCall}
  {authorization : V4VerifiedEntryPreflightAuthorization} {signalFingerprint : Digest}
  {plan : V4GmoActionPlan} {nowUtc : Instant} {nowMonotonic : Monotonic}

theorem attemptsMarket_agendaUpTo {n : Nat} :
    ({ r.world with agenda := call.agendaUpTo n } : StoreWorld).attemptsMarket sha
        authorization signalFingerprint plan nowUtc nowMonotonic ↔
      2 ≤ n ∧ r.commitsMarketAttempt sha call authorization signalFingerprint plan nowUtc
        nowMonotonic := by
  unfold StoreWorld.attemptsMarket StoreRun.commitsMarketAttempt
  dsimp only
  constructor
  · rintro ⟨hadmits, h₀, h₁⟩
    have hn : 2 ≤ n := by
      rcases n with _ | _ | n
      · exact absurd ((getD_agendaUpTo_self call 0).symm.trans h₀) (by decide)
      · exact absurd (getD_agendaUpTo_self call 1) h₁
      · omega
    rw [getD_agendaUpTo_lt call (by omega)] at h₀ h₁
    exact ⟨hn, hadmits, h₀, h₁⟩
  · rintro ⟨hn, hadmits, h₀, h₁⟩
    refine ⟨hadmits, ?_, ?_⟩
    · rwa [getD_agendaUpTo_lt call (by omega)]
    · rwa [getD_agendaUpTo_lt call (by omega)]

theorem recordMarketAttempt_unlatched {s : StoreWorld}
    (hadmits : s.admitsMarketAttempt sha authorization signalFingerprint plan nowUtc
      nowMonotonic)
    (hquiet : s.agenda.getD 0 .quiet = .quiet) (hkill : s.agenda.getD 1 .quiet = .kill) :
    ((recordMarketAttempt sha authorization signalFingerprint plan nowUtc
      nowMonotonic).run s).2.ledger.unknownHaltLatched = false := by
  obtain ⟨hobject, hsignal, hunlatched, -⟩ := hadmits
  have hhalt := unknownHaltLatched_returned_false.mpr ⟨hquiet, hunlatched, rfl⟩
  have hhead : s.agenda.tail.head? = some .kill := by
    by_contra h
    exact head?_tail_eq_kill.mp h hkill
  unfold recordMarketAttempt
  rw [Process.run_gets_bind, Process.run_require_bind ⟨hobject, hsignal⟩,
    Process.run_bind_returned hhalt, Process.run_require_bind rfl, Process.run_bind,
    run_transact_killed hhead]
  exact hunlatched

theorem ledgerAfter_market (sha : Sha256) (r : StoreRun)
    (hop : call.op = .recordMarketAttempt authorization signalFingerprint plan nowUtc
      nowMonotonic) (n : Nat) :
    ((2 ≤ n ∧ r.commitsMarketAttempt sha call authorization signalFingerprint plan nowUtc
        nowMonotonic) ∧
      (r.ledgerAfter sha call n).marketAttempts = r.world.ledger.marketAttempts ++
        [marketAttemptRow sha plan plan.cycleRef nowUtc]) ∨
    (¬(2 ≤ n ∧ r.commitsMarketAttempt sha call authorization signalFingerprint plan nowUtc
        nowMonotonic) ∧
      (r.ledgerAfter sha call n).marketAttempts = r.world.ledger.marketAttempts) := by
  have hrows := recordMarketAttempt_marketAttempts sha authorization signalFingerprint plan
    nowUtc nowMonotonic { r.world with agenda := call.agendaUpTo n }
  rw [attemptsMarket_agendaUpTo] at hrows
  unfold StoreRun.ledgerAfter
  rw [hop, StoreOp.exec, run_keepResult_snd]
  exact hrows

theorem haltStopsEntries_market
    (hop : call.op = .recordMarketAttempt authorization signalFingerprint plan nowUtc
      nowMonotonic) : haltStopsEntries sha r call ↔ ¬haltOvertaken sha r call := by
  have hrefs : ∀ n, (r.ledgerAfter sha call n).cycleRefs = r.world.ledger.cycleRefs := by
    refine fun n => ledgerAfter_cycleRefs r call n fun w hw => ?_
    rw [hop] at hw
    cases w <;> simp_all [StoreOp.writes, LedgerWrite.movesCycle]
  constructor
  · rintro hstops ⟨hholds, hcase⟩
    rw [hop] at hcase
    obtain ⟨htake, hadmits⟩ := hcase
    obtain ⟨h₀, h₁⟩ := take_two_eq.mp htake
    have hcommits : r.commitsMarketAttempt sha call authorization signalFingerprint plan nowUtc
        nowMonotonic := ⟨hadmits, h₀, by simp [h₁]⟩
    obtain ⟨-, -, -, -, row, -, hplan, -, hfresh⟩ := hadmits
    simp only [CycleRow.admitsMarket, decide_eq_true_eq] at hplan
    rw [← hplan.2.1] at hfresh
    refine hstops hholds 1 (Or.inl h₁) (Or.inr
      ⟨marketAttemptRow sha plan plan.cycleRef nowUtc, ?_, ?_⟩)
    · rcases ledgerAfter_market sha r hop 2 with ⟨-, h⟩ | ⟨h, -⟩
      · simp [h]
      · exact absurd ⟨le_rfl, hcommits⟩ h
    · rcases ledgerAfter_market sha r hop 1 with ⟨⟨h, -⟩, -⟩ | ⟨-, h⟩
      · omega
      · rw [h]
        intro hmem
        exact hfresh AttemptRow.primaryKey (by simp)
          (List.mem_map_of_mem (List.mem_of_mem_filter hmem))
  · intro hnot hholds n hlatched hadds
    rcases hadds with ⟨cycleRef, hin, hout⟩ | ⟨row, hin, hout⟩
    · exact hout (hrefs n ▸ hrefs (n + 1) ▸ hin)
    · rcases ledgerAfter_market sha r hop (n + 1) with ⟨⟨hn, hcommits⟩, h⟩ | ⟨-, h⟩
      · rcases ledgerAfter_market sha r hop n with ⟨-, h'⟩ | ⟨hbefore, h'⟩
        · exact hout (h' ▸ h ▸ hin)
        · -- the insert is the second transaction
          have hone : n = 1 := by
            by_contra hne
            exact hbefore ⟨by omega, hcommits⟩
          subst hone
          obtain ⟨hadmits, h₀, h₁⟩ := hcommits
          rcases hlatched with hhalts | hlatched
          · refine hnot ⟨hholds, ?_⟩
            rw [hop]
            exact ⟨take_two_eq.mpr ⟨h₀, hhalts⟩, hadmits⟩
          · have hunlatched : (r.ledgerAfter sha call 1).unknownHaltLatched = false := by
              unfold StoreRun.ledgerAfter
              rw [hop, StoreOp.exec, run_keepResult_snd]
              exact recordMarketAttempt_unlatched hadmits
                ((getD_agendaUpTo_lt call (by omega)).trans h₀)
                (getD_agendaUpTo_self call 1)
            rw [hunlatched] at hlatched
            cases hlatched
      · refine hout ?_
        rcases ledgerAfter_market sha r hop n with ⟨-, h'⟩ | ⟨-, h'⟩
        · rw [h', ← h]
          exact List.mem_append_left _ hin
        · rwa [h', ← h]

end MarketAttempt

theorem release_addsNoCycle (hop : call.op = .releaseUnattemptedReservation cycleRef) (n : Nat) :
    (r.ledgerAfter sha call (n + 1)).cycleRefs ⊆ (r.ledgerAfter sha call n).cycleRefs := by
  cases n with
  | zero =>
      have hzero : r.ledgerAfter sha call 0 = r.world.ledger := by
        unfold StoreRun.ledgerAfter
        rw [hop]
        rfl
      have hwithin := (StoreOp.within_exec sha call.op
        { r.world with agenda := call.agendaUpTo 1 }).1
      rw [hzero]
      refine writes_keeps (I := fun l => l.cycleRefs ⊆ r.world.ledger.cycleRefs) ?_ hwithin
        (List.Subset.refl _)
      intro w l l' hw hcommit hl
      refine List.Subset.trans ?_ hl
      cases commit_cycles hcommit with
      | appended intent risk nowUtc hreserve hrows =>
          rw [hop, hreserve] at hw
          simp [StoreOp.writes] at hw
      | filtered ref hrelease p hrows hremoved =>
          rw [Ledger.cycleRefs, Ledger.cycleRefs, hrows]
          exact (List.filter_sublist.map _).subset
      | mapped g hrows hfollows =>
          rw [Ledger.cycleRefs, Ledger.cycleRefs, hrows, List.map_map]
          have hsame : l.cycles.rows.map (CycleRow.cycleRef ∘ g) =
              l.cycles.rows.map CycleRow.cycleRef :=
            List.map_congr_left fun row hrow => (hfollows row hrow).cycleRef
          rw [hsame]
          exact List.Subset.refl _
  | succ n =>
      have hsame : r.ledgerAfter sha call (n + 1 + 1) = r.ledgerAfter sha call (n + 1) := by
        unfold StoreRun.ledgerAfter StoreCall.agendaUpTo
        rw [hop, StoreOp.exec, run_keepResult_snd, run_keepResult_snd,
          List.range_succ_eq_map, List.range_succ_eq_map]
        simp only [releaseUnattemptedReservation, List.map_cons, List.cons_append,
          Process.run]
        unfold transact StoreWorld.ledgerAtStart
        cases call.interference 0 <;>
          cases releaseTransaction cycleRef r.world.ledger <;>
          cases releaseTransaction cycleRef r.world.ledger.haltLatched <;> rfl
      rw [hsame]
      exact List.Subset.refl _

theorem haltStopsEntries_other
    (hreserve : ∀ intent nowUtc, call.op ≠ .reserveEntryCycle intent nowUtc)
    (hmarket : ∀ authorization signalFingerprint plan nowUtc nowMonotonic,
      call.op ≠ .recordMarketAttempt authorization signalFingerprint plan nowUtc
        nowMonotonic) : haltStopsEntries sha r call := by
  intro hholds n hlatched hadds
  rcases hadds with ⟨cycleRef, hin, hout⟩ | ⟨row, hin, hout⟩
  · by_cases hrelease : ∃ cycleRef, call.op = .releaseUnattemptedReservation cycleRef
    · obtain ⟨ref, hop⟩ := hrelease
      exact hout (release_addsNoCycle hop n hin)
    · have hrefs : ∀ n, (r.ledgerAfter sha call n).cycleRefs = r.world.ledger.cycleRefs := by
        refine fun n => ledgerAfter_cycleRefs r call n fun w hw hmoves => ?_
        cases w with
        | reserve intent risk nowUtc => cases hop : call.op <;> simp_all [StoreOp.writes]
        | release ref => cases hop : call.op <;> simp_all [StoreOp.writes]
        | _ => exact hmoves
      exact hout (hrefs n ▸ hrefs (n + 1) ▸ hin)
  · rw [ledgerAfter_marketAttempts r call (n + 1) hmarket] at hin
    rw [ledgerAfter_marketAttempts r call n hmarket] at hout
    exact hout hin

theorem haltStopsEntries_step (sha : Sha256) (r : StoreRun) (call : StoreCall) :
    haltStopsEntries sha r call ↔ ¬haltOvertaken sha r call := by
  by_cases hreserve : ∃ intent nowUtc, call.op = .reserveEntryCycle intent nowUtc
  · obtain ⟨intent, nowUtc, hop⟩ := hreserve
    exact haltStopsEntries_reserve hop
  by_cases hmarket : ∃ authorization signalFingerprint plan nowUtc nowMonotonic,
      call.op = .recordMarketAttempt authorization signalFingerprint plan nowUtc nowMonotonic
  · obtain ⟨authorization, signalFingerprint, plan, nowUtc, nowMonotonic, hop⟩ := hmarket
    exact haltStopsEntries_market hop
  push Not at hreserve hmarket
  refine iff_of_true (haltStopsEntries_other hreserve hmarket) ?_
  rintro ⟨-, hcase⟩
  split at hcase
  · exact hreserve _ _ ‹_›
  · exact hmarket _ _ _ _ _ ‹_›
  · exact hcase

/-- **The halt stops entries unless it is overtaken.** In every run, the halt stops
every entry exactly when no call inserts in the transaction just after the observer
latched the halt. -/
theorem halt_stops_entries_iff_not_overtaken (sha : Sha256) (calls : List StoreCall) :
    MeetsAlong (storeStep sha) (haltStopsEntries sha) {} calls ↔
      MeetsAlong (storeStep sha) (fun r call => ¬haltOvertaken sha r call) {} calls :=
  meetsAlong_congr fun r call => haltStopsEntries_step sha r call

/-- The observer latches the halt between the check and the insert. -/
def overtakenReservation : StoreCall where
  op := .reserveEntryCycle (Sample.intent 0) (Sample.at_ 1)
  agenda := [.quiet, .quiet, .observerHalts]

/-- The reservation commits its cycle in a transaction that starts latched. -/
theorem halt_overtaken_by_reservation :
    ¬MeetsAlong (storeStep Sha256.checksum) (haltStopsEntries Sha256.checksum) {}
      [overtakenReservation] := by
  rintro ⟨hstops, -⟩
  refine hstops trivial 2 (Or.inl rfl) (Or.inl ⟨Sample.cycleRef 0, ?_, ?_⟩)
  · decide +kernel
  · decide +kernel

end HaltRace

end FxStrategyLab
