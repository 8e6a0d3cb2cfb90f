import FxStrategyLab.Coordinator.Cycles

/-!
# The monitor and the open cycle

`monitor_snapshot_safe` reads the latest cycle and refuses a ledger with two
unresolved ones.  As long as no reservation is made over a cycle that an
external-flat marker covers, at most one cycle is unresolved in every run, it
is the latest, and the monitor describes it.  A reservation over a covered
cycle leaves two unresolved rows, and the monitor raises.
-/

namespace FxStrategyLab

open Library

section MonitorCycle

variable {sha : Sha256}

/-- The cycle is unresolved and no matching external-flat marker covers it. -/
def Ledger.openCycle (l : Ledger) (nowUtc : Instant) (row : CycleRow) : Prop :=
  row ∈ l.unresolved ∧
    externalFlatReconciliationMatches l.externalFlatReconciliation row.cycleRef
      (l.generationDigest?.getD []) nowUtc = false

/-- The snapshot says of the latest cycle what the ledger says of this one. -/
def V4CoordinatorMonitorSnapshot.describes (snapshot : V4CoordinatorMonitorSnapshot)
    (l : Ledger) (row : CycleRow) : Prop :=
  snapshot.cyclePresent = true ∧ snapshot.flatReconciled = false ∧
    snapshot.externalFlatReconciled = false ∧
    snapshot.entryAttemptedAtUtc = row.marketAttemptedAtUtc ∧
    snapshot.protectionConfirmed = row.protectionConfirmedAtUtc.isSome ∧
    snapshot.timeExitCancelAttempted =
      (l.attempt? row.cycleRef .cancelExactProtectionForTimeExit).isSome ∧
    snapshot.timeExitCloseAttempted =
      (l.attempt? row.cycleRef .positionSpecificTimeExit).isSome

def Ledger.monitorFindsOpenCycle (l : Ledger) (nowUtc : Instant) : Prop :=
  (∀ row row', l.openCycle nowUtc row → l.openCycle nowUtc row' → row = row') ∧
    ∃ snapshot s,
      (monitorSnapshotSafe nowUtc).run { ledger := l } = (.returned snapshot, s) ∧
        ∀ row, l.openCycle nowUtc row → snapshot.describes l row

/-- The wall time a call is made at, for the calls that read the clock. -/
def StoreOp.nowUtc? : StoreOp → Option Instant
  | .reserveEntryCycle _ nowUtc | .recordEntryPreflight _ nowUtc _
  | .recordMarketAttempt _ _ _ nowUtc _
  | .recordExactProtectionAttempt _ _ _ _ nowUtc _
  | .recordRiskReducingAttempt _ nowUtc | .resolvePendingTransport _ nowUtc
  | .confirmExactProtection _ _ nowUtc _ | .reconcileExternalFlatNoPost _ nowUtc =>
      some nowUtc
  | _ => none

def wallTimes (calls : List StoreCall) : List Instant :=
  calls.filterMap fun call => call.op.nowUtc?

def StoreOp.reservation? : StoreOp → Option (EntryIntent × Instant)
  | .reserveEntryCycle intent nowUtc => some (intent, nowUtc)
  | _ => none

/-- A reservation is not made over a cycle that a marker covers. -/
def reservesUncovered (r : StoreRun) (call : StoreCall) : Prop :=
  ∀ reservation ∈ call.op.reservation?, ∀ row ∈ r.world.ledger.unresolved,
    externalFlatReconciliationMatches r.world.ledger.externalFlatReconciliation
      row.cycleRef reservation.1.generation.digest reservation.2 = false
deriving Decidable

/-- At most one row is unresolved, and it is the latest. -/
structure SingleOpen (rows : List CycleRow) : Prop where
  length_le : (rows.filter fun row => row.realizedPnlJpy.isNone).length ≤ 1
  latest : ∀ row ∈ rows, row.realizedPnlJpy = none →
    ∀ row' ∈ rows, row' ≠ row → row'.createdAtUtc < row.createdAtUtc

variable {rows : List CycleRow}

theorem SingleOpen.filter (h : SingleOpen rows)
    (p : CycleRow → Bool) : SingleOpen (rows.filter p) where
  length_le := by
    refine le_trans (List.Sublist.length_le ?_) h.length_le
    exact List.filter_sublist.filter _
  latest row hrow hnone row' hrow' hne :=
    h.latest row (List.mem_of_mem_filter hrow) hnone row' (List.mem_of_mem_filter hrow')
      hne

variable {w : LedgerWrite}

theorem SingleOpen.map (h : SingleOpen rows) {g : CycleRow → CycleRow}
    (hg : ∀ row ∈ rows, row.Follows w (g row)) :
    SingleOpen (rows.map g) where
  length_le := by
    -- a row that is unresolved after the update was unresolved before it
    have himp : ∀ row ∈ rows,
        ((fun row : CycleRow => row.realizedPnlJpy.isNone) ∘ g) row = true →
          (fun row : CycleRow => row.realizedPnlJpy.isNone) row = true := by
      intro row hrow hnone
      by_contra hsome
      have hne : row.realizedPnlJpy ≠ none := by
        simpa [Option.isNone_iff_eq_none] using hsome
      have hkept := (hg row hrow).realized hne
      simp only [Function.comp_apply, Option.isNone_iff_eq_none] at hnone
      exact hne (hkept ▸ hnone)
    have hcount := List.countP_mono_left himp
    rw [List.countP_eq_length_filter, List.countP_eq_length_filter] at hcount
    rw [List.filter_map, List.length_map]
    exact hcount.trans h.length_le
  latest := by
    intro row' hrow' hnone other' hother' hne
    obtain ⟨row, hrow, rfl⟩ := List.mem_map.mp hrow'
    obtain ⟨other, hother, rfl⟩ := List.mem_map.mp hother'
    have hrownone : row.realizedPnlJpy = none := by
      by_contra hsome
      exact hsome ((hg row hrow).realized hsome ▸ hnone)
    rw [(hg row hrow).createdAtUtc, (hg other hother).createdAtUtc]
    refine h.latest row hrow hrownone other hother ?_
    rintro rfl
    exact hne rfl

theorem SingleOpen.append {row : CycleRow} (hresolved : ∀ old ∈ rows, old.realizedPnlJpy ≠ none)
    (hlater : ∀ old ∈ rows, old.createdAtUtc < row.createdAtUtc) :
    SingleOpen (rows ++ [row]) where
  length_le := by
    have hnone : (rows.filter fun old => old.realizedPnlJpy.isNone) = [] := by
      rw [List.filter_eq_nil_iff]
      intro old hold
      simpa [Option.isNone_iff_eq_none] using hresolved old hold
    rw [List.filter_append, hnone, List.nil_append]
    exact List.length_filter_le _ _
  latest := by
    intro open' hopen hnone other hother hne
    have hopen' : open' = row := by
      rcases List.mem_append.mp hopen with hold | hnew
      · exact absurd hnone (hresolved open' hold)
      · simpa using hnew
    subst hopen'
    rcases List.mem_append.mp hother with hold | hnew
    · exact hlater other hold
    · exact absurd (by simpa using hnew) hne

/-- The rows of a run so far: at most one is open, and all are older than the
times to come. -/
structure OpenCycleInvariant (later : List Instant) (l : Ledger) : Prop where
  single : SingleOpen l.cycles.rows
  older : ∀ row ∈ l.cycles.rows, ∀ t ∈ later, row.createdAtUtc < t

variable {later : List Instant} {l l' : Ledger}

theorem openCycleInvariant_commit (h : w.commit sha l = .ok l')
    (hw : ∀ intent risk nowUtc, w ≠ .reserve intent risk nowUtc)
    (hl : OpenCycleInvariant later l) : OpenCycleInvariant later l' := by
  rcases commit_cycles h with ⟨intent, risk, nowUtc, heq, -⟩ | ⟨_, -, p, hrows, -⟩ |
    ⟨g, hrows, hg⟩
  · exact absurd heq (hw intent risk nowUtc)
  · refine ⟨hrows ▸ hl.single.filter p, ?_⟩
    intro row hrow
    rw [hrows] at hrow
    exact hl.older row (List.mem_of_mem_filter hrow)
  · refine ⟨hrows ▸ hl.single.map hg, ?_⟩
    intro row hrow
    rw [hrows] at hrow
    obtain ⟨old, hold, rfl⟩ := List.mem_map.mp hrow
    rw [(hg old hold).createdAtUtc]
    exact hl.older old hold

/-- While a reservation runs, either its row is not there yet and nothing is
covered, or its key is taken and it cannot commit again. -/
structure ReservationInvariant (sha : Sha256) (intent : EntryIntent) (nowUtc : Instant)
    (later : List Instant) (l : Ledger) : Prop where
  open_ : OpenCycleInvariant later l
  progress :
    ((∀ row ∈ l.unresolved,
        externalFlatReconciliationMatches l.externalFlatReconciliation row.cycleRef
          intent.generation.digest nowUtc = false) ∧
      ∀ row ∈ l.cycles.rows, row.createdAtUtc < nowUtc) ∨
    ∃ row ∈ l.cycles.rows,
      row.cycleRef = cycleRefOf sha intent.generation.digest (intent.signal.fingerprint sha)

theorem reservationInvariant_commit {intent : EntryIntent} {nowUtc : Instant}
    (hlater : ∀ t ∈ later, nowUtc < t) (hw : (StoreOp.reserveEntryCycle intent nowUtc).writes w)
    (h : w.commit sha l = .ok l') (hl : ReservationInvariant sha intent nowUtc later l) :
    ReservationInvariant sha intent nowUtc later l' := by
  cases w with
  | haltLatched =>
      cases h
      exact ⟨⟨hl.open_.single, hl.open_.older⟩, hl.progress⟩
  | bindGeneration generation =>
      obtain ⟨u, h⟩ := map_snd_eq_ok.mp h
      rw [(bindGenerationTransaction_ok h).2]
      exact ⟨⟨hl.open_.single, hl.open_.older⟩, hl.progress⟩
  | reserve intent' risk now' =>
      simp only [StoreOp.writes, reduceCtorEq, LedgerWrite.reserve.injEq, false_or] at hw
      obtain ⟨risk', rfl, rfl, rfl⟩ := hw
      obtain ⟨u, h⟩ := map_snd_eq_ok.mp h
      obtain ⟨hcovered, hfresh, hrows, hl'⟩ := reserveTransaction_ok sha h
      rcases hl.progress with ⟨huncovered, holder⟩ | ⟨row, hrow, htaken⟩
      · -- nothing is covered, so nothing is unresolved
        have hresolved : ∀ old ∈ l.cycles.rows, old.realizedPnlJpy ≠ none := by
          intro old hold hnone
          have hmem := Ledger.mem_unresolved.mpr ⟨hold, hnone⟩
          have hcov := hcovered old hmem
          rw [huncovered old hmem] at hcov
          exact Bool.noConfusion hcov
        refine ⟨⟨?_, ?_⟩, Or.inr ⟨reservedRow sha intent' risk now', ?_, rfl⟩⟩
        · rw [hrows]
          exact SingleOpen.append hresolved holder
        · rw [hrows]
          intro old hold
          rcases List.mem_append.mp hold with hold | hnew
          · exact hl.open_.older old hold
          · rw [List.mem_singleton.mp hnew]
            exact hlater
        · rw [hrows]
          exact List.mem_append_right _ List.mem_cons_self
      · refine absurd ?_ (hfresh CycleRow.cycleRef (by simp [cycleKeys]))
        exact List.mem_map.mpr ⟨row, hrow, htaken⟩
  | _ => simp [StoreOp.writes] at hw

theorem openCycleInvariant_step {r : StoreRun} {call : StoreCall}
    (hnow : ∀ nowUtc ∈ call.op.nowUtc?, (∀ t ∈ later, nowUtc < t) ∧
      ∀ row ∈ r.world.ledger.cycles.rows, row.createdAtUtc < nowUtc)
    (hcondition : reservesUncovered r call)
    (hr : OpenCycleInvariant later r.world.ledger) :
    OpenCycleInvariant later (storeStep sha r call).world.ledger := by
  have hstep := storeStep_writes sha r call
  rcases hop : call.op.reservation? with _ | ⟨intent, nowUtc⟩
  · refine writes_keeps (fun w l l' hw hcommit hl => ?_) hstep hr
    refine openCycleInvariant_commit hcommit ?_ hl
    rintro intent risk nowUtc rfl
    revert hw hop
    cases call.op <;> simp [StoreOp.writes, StoreOp.reservation?]
  · have hcall : call.op = .reserveEntryCycle intent nowUtc := by
      revert hop
      cases call.op <;> simp [StoreOp.reservation?]
    have hnow' := hnow nowUtc (by simp [hcall, StoreOp.nowUtc?])
    have huncovered := hcondition (intent, nowUtc) (by simp [hop])
    have hres : ReservationInvariant sha intent nowUtc later
        (storeStep sha r call).world.ledger := by
      rw [hcall] at hstep
      refine writes_keeps (fun w l l' hw hcommit hl => ?_) hstep
        ⟨hr, Or.inl ⟨huncovered, hnow'.2⟩⟩
      exact reservationInvariant_commit hnow'.1 hw hcommit hl
    exact hres.open_

theorem openCycleInvariant_after {r : StoreRun} {calls : List StoreCall}
    (hr : OpenCycleInvariant (wallTimes calls) r.world.ledger)
    (hincreasing : (wallTimes calls).Pairwise (· < ·))
    (hcondition : MeetsAlong (storeStep sha) reservesUncovered r calls) :
    SingleOpen (after (storeStep sha) r calls).world.ledger.cycles.rows := by
  induction calls generalizing r with
  | nil => exact hr.single
  | cons call calls ih =>
      rw [meetsAlong_cons] at hcondition
      have hsplit : wallTimes (call :: calls) =
          call.op.nowUtc?.toList ++ wallTimes calls := by
        rw [wallTimes, List.filterMap_cons]
        cases call.op.nowUtc? <;> rfl
      rw [hsplit, List.pairwise_append] at hincreasing
      rw [hsplit] at hr
      refine ih ?_ hincreasing.2.1 hcondition.2
      refine openCycleInvariant_step ?_ hcondition.1 ⟨hr.single, fun row hrow t ht =>
        hr.older row hrow t (List.mem_append_right _ ht)⟩
      intro nowUtc hnow
      have hmem : nowUtc ∈ call.op.nowUtc?.toList := by simpa using hnow
      exact ⟨hincreasing.2.2 nowUtc hmem, fun row hrow =>
        hr.older row hrow nowUtc (List.mem_append_left _ hmem)⟩

theorem monitorFindsOpenCycle_of_single (h : SingleOpen l.cycles.rows)
    (nowUtc : Instant) : l.monitorFindsOpenCycle nowUtc := by
  constructor
  · intro row row' hrow hrow'
    obtain ⟨hmem, hnone⟩ := Ledger.mem_unresolved.mp hrow.1
    obtain ⟨hmem', hnone'⟩ := Ledger.mem_unresolved.mp hrow'.1
    by_contra hne
    have hlt := h.latest row hmem hnone row' hmem' (Ne.symm hne)
    have hgt := h.latest row' hmem' hnone' row hmem hne
    exact lt_asymm hlt hgt
  · have hcount : ¬1 < l.unresolved.length := not_lt.mpr h.length_le
    refine ⟨l.monitorSnapshot nowUtc, { ledger := l }, ?_, ?_⟩
    · simp [monitorSnapshotSafe, transact, Process.run, StoreWorld.ledgerAtStart, hcount]
    · intro row hrow
      obtain ⟨hmem, hnone⟩ := Ledger.mem_unresolved.mp hrow.1
      have hlatest : l.latestCycle? = some row := by
        rw [Ledger.latestCycle?, List.argmax_eq_some_iff]
        refine ⟨hmem, fun other hother => ?_, fun other hother hle => ?_⟩
        · by_cases heq : other = row
          · exact heq ▸ le_rfl
          · exact (h.latest row hmem hnone other hother heq).le
        · by_cases heq : other = row
          · rw [heq]
          · exact absurd (h.latest row hmem hnone other hother heq) (not_lt.mpr hle)
      simp [V4CoordinatorMonitorSnapshot.describes, Ledger.monitorSnapshot, hlatest, hnone,
        hrow.2]

/-- **Monitoring finds the open cycle.** In every run with strictly increasing
times in which no reservation is made over a covered cycle, at most one cycle is
open in the state reached, and the monitor returns and describes it. -/
theorem monitor_finds_open_cycle (sha : Sha256) (calls : List StoreCall)
    (hincreasing : (wallTimes calls).Pairwise (· < ·))
    (hcondition : MeetsAlong (storeStep sha) reservesUncovered {} calls) (nowUtc : Instant) :
    (after (storeStep sha) {} calls).world.ledger.monitorFindsOpenCycle nowUtc := by
  refine monitorFindsOpenCycle_of_single ?_ nowUtc
  refine openCycleInvariant_after ⟨⟨by simp, by simp⟩, by simp⟩ hincreasing hcondition

/-- Two cycles of one session: the first is closed and its result recorded. -/
def closedThenReserved : List StoreCall :=
  [⟨.reserveEntryCycle (Sample.intent 0) (Sample.at_ 1), []⟩,
    ⟨.recordClosedMetricsOnce (Sample.cycleRef 0) (-40), []⟩,
    ⟨.reserveEntryCycle (Sample.intent 60) (Sample.at_ 61), [.quiet, .observerHalts]⟩]

theorem monitor_finds_open_cycle_second :
    (after (storeStep Sha256.checksum) {} closedThenReserved).world.ledger.monitorFindsOpenCycle
      (Sample.at_ 9) :=
  monitor_finds_open_cycle Sha256.checksum closedThenReserved (by decide) (by decide +kernel)
    (Sample.at_ 9)

def flatEvidence (seconds : Int) : ExternalFlatInput where
  generationDigest := Sample.generation.digest
  reviewedFilesDigest := Sha256.checksum.prefixed (plainText ['f'])
  evidenceDigest := Sha256.checksum.prefixed (plainText ['e'])
  observedAtUtc := Sample.at_ seconds
  validUntilUtc := Sample.at_ seconds + wallSeconds 60
  accountFlat := true
  activeOrdersZero := true
  brokerWrite := false
  brokerPostCount := 0

/-- A cycle is reserved, reconciled as flat by the operator, and within the
minute a second cycle is reserved. -/
def coveredThenReserved : List StoreCall :=
  [⟨.reserveEntryCycle (Sample.intent 0) (Sample.at_ 1), []⟩,
    ⟨.reconcileExternalFlatNoPost (flatEvidence 5) (Sample.at_ 6), []⟩,
    ⟨.reserveEntryCycle (Sample.intent 7) (Sample.at_ 8), []⟩]

/-- After that run the monitor raises, although the second cycle is open. -/
theorem monitor_loses_open_cycle :
    (wallTimes coveredThenReserved).Pairwise (· < ·) ∧
      ¬(after (storeStep Sha256.checksum) {} coveredThenReserved).world.ledger.monitorFindsOpenCycle
        (Sample.at_ 9) := by
  refine ⟨by decide, ?_⟩
  rintro ⟨-, snapshot, s, hrun, -⟩
  have hraised :
      ((monitorSnapshotSafe (Sample.at_ 9)).run
        { ledger := (after (storeStep Sha256.checksum) {} coveredThenReserved).world.ledger }).1 =
          .raised (coordinatorError "v4 canary cycle count invalid") := by
    decide +kernel
  rw [hrun] at hraised
  cases hraised

end MonitorCycle

end FxStrategyLab
