import FxStrategyLab.Coordinator.Runs

/-!
# How the writes change the cycles and the attempts

A reservation appends a row, a release removes rows that nothing has touched,
and every other write leaves each row its identity and its realized result.
Attempts are only ever appended and the bound generation never changes.
-/

namespace FxStrategyLab

open Library

section Cycles

variable {sha : Sha256}

def LedgerWrite.stamps : LedgerWrite → CycleRow → CycleRow → Prop
  | .marketAttempt _ _ plan nowUtc _, row, row' =>
      row.cycleRef = plan.cycleRef ∧ row'.marketAttemptedAtUtc = some nowUtc
  | _, _, _ => False

/-- What the update of a row by a write keeps. -/
structure CycleRow.Follows (w : LedgerWrite) (row row' : CycleRow) : Prop where
  cycleRef : row'.cycleRef = row.cycleRef
  signalFingerprint : row'.signalFingerprint = row.signalFingerprint
  tradingDayJst : row'.tradingDayJst = row.tradingDayJst
  side : row'.side = row.side
  requestedSize : row'.requestedSize = row.requestedSize
  createdAtUtc : row'.createdAtUtc = row.createdAtUtc
  realized : row.realizedPnlJpy ≠ none → row'.realizedPnlJpy = row.realizedPnlJpy
  stamped : row'.marketAttemptedAtUtc = row.marketAttemptedAtUtc ∨ w.stamps row row'

theorem CycleRow.Follows.refl (w : LedgerWrite) (row : CycleRow) : row.Follows w row :=
  ⟨rfl, rfl, rfl, rfl, rfl, rfl, fun _ => rfl, Or.inl rfl⟩

/-- How a write changes the rows of `cycles`; only a reservation appends one. -/
inductive CyclesChange (sha : Sha256) (w : LedgerWrite)
    (rows rows' : List CycleRow) : Prop
  | appended (intent : EntryIntent) (risk : V4FrozenSignalRisk) (nowUtc : Instant)
      (hw : w = .reserve intent risk nowUtc)
      (hrows : rows' = rows ++ [reservedRow sha intent risk nowUtc])
  | filtered (cycleRef : Digest) (hw : w = .release cycleRef) (p : CycleRow → Bool)
      (hrows : rows' = rows.filter p)
      (hremoved : ∀ row ∈ rows, p row = false → row.unattempted = true)
  | mapped (g : CycleRow → CycleRow) (hrows : rows' = rows.map g)
      (hfollows : ∀ row ∈ rows, row.Follows w (g row))

variable {w : LedgerWrite}

theorem CyclesChange.same (rows : List CycleRow) : CyclesChange sha w rows rows :=
  .mapped id (by simp) fun row _ => CycleRow.Follows.refl w row

variable {l l' : Ledger}

theorem CyclesChange.updated {p : CycleRow → Bool} {f : CycleRow → CycleRow}
    {hf : ∀ row, (f row).cycleRef = row.cycleRef ∧
      (f row).signalFingerprint = row.signalFingerprint}
    (hfollows : ∀ row ∈ l.cycles.rows, p row = true → row.Follows w (f row)) :
    CyclesChange sha w l.cycles.rows (l.updateCycles p f hf).cycles.rows := by
  refine .mapped (fun row => if p row then f row else row) rfl fun row hrow => ?_
  by_cases hp : p row = true
  · simpa [hp] using hfollows row hrow hp
  · simpa [hp] using CycleRow.Follows.refl w row

theorem insertAttempt_cycles {row : AttemptRow} {secondRefused : String}
    (h : l.insertAttempt row secondRefused = .ok l') : l'.cycles = l.cycles := by
  rw [(insertAttempt_ok h).2.2.2]

theorem commit_cycles (h : w.commit sha l = .ok l') :
    CyclesChange sha w l.cycles.rows l'.cycles.rows := by
  cases w with
  | haltLatched =>
      cases h
      exact .same _
  | bindGeneration generation =>
      obtain ⟨u, h⟩ := map_snd_eq_ok.mp h
      rw [(bindGenerationTransaction_ok h).2]
      exact .same _
  | reserve intent risk nowUtc =>
      obtain ⟨u, h⟩ := map_snd_eq_ok.mp h
      exact .appended intent risk nowUtc rfl (reserveTransaction_ok sha h).2.2.1
  | release cycleRef =>
      obtain ⟨released, h⟩ := map_snd_eq_ok.mp h
      rcases releaseTransaction_ok h with ⟨-, -, rfl⟩ | ⟨-, rfl⟩
      · exact .same _
      · refine .filtered _ rfl _ rfl fun row _ hrow => ?_
        simp only [Bool.not_eq_false', Bool.and_eq_true] at hrow
        exact hrow.2
  | entryPreflight input nowUtc nowMonotonic =>
      obtain ⟨digest, h⟩ := map_snd_eq_ok.mp h
      obtain ⟨row, -, -, -, -, -, -, -, rfl⟩ := entryPreflightTransaction_ok sha h
      exact .updated fun row _ _ => ⟨rfl, rfl, rfl, rfl, rfl, rfl, fun _ => rfl,
        Or.inl rfl⟩
  | marketAttempt authorization signalFingerprint plan nowUtc nowMonotonic =>
      obtain ⟨attempt, h⟩ := map_snd_eq_ok.mp h
      obtain ⟨cycle, inserted, -, hadmits, -, -, hinsert, rfl⟩ :=
        marketAttemptTransaction_ok sha h
      simp only [CycleRow.admitsMarket, decide_eq_true_eq] at hadmits
      rw [← insertAttempt_cycles hinsert]
      refine .updated fun row _ hkey => ⟨rfl, rfl, rfl, rfl, rfl, rfl, fun _ => rfl, ?_⟩
      exact Or.inr ⟨(of_decide_eq_true hkey).trans hadmits.2.1.symm, rfl⟩
  | protectionPlan cycleRef plan averageFillPrice =>
      obtain ⟨u, h⟩ := map_snd_eq_ok.mp h
      obtain ⟨row, -, -, rfl⟩ := protectionPlanTransaction_ok sha h
      exact .updated fun row _ _ => ⟨rfl, rfl, rfl, rfl, rfl, rfl, fun _ => rfl,
        Or.inl rfl⟩
  | protectionAttempt signalFingerprint plan exactPlan digest nowUtc nowMonotonic =>
      obtain ⟨⟨attempt, attempted⟩, h⟩ := map_snd_eq_ok.mp h
      obtain ⟨row, -, -, -, -, -, -, hinsert⟩ := protectionAttemptTransaction_ok sha h
      rw [insertAttempt_cycles hinsert]
      exact .same _
  | riskReducing input nowUtc =>
      obtain ⟨attempt, h⟩ := map_snd_eq_ok.mp h
      obtain ⟨row, at', settled, -, -, -, -, -, -, -, hsettled, -, hinsert⟩ :=
        riskReducingTransaction_ok sha h
      rw [insertAttempt_cycles hinsert]
      rcases fixSettlementSize_ok hsettled with ⟨-, rfl⟩ | ⟨-, -, rfl⟩
      · exact .same _
      · exact .updated fun row _ _ => ⟨rfl, rfl, rfl, rfl, rfl, rfl, fun _ => rfl,
        Or.inl rfl⟩
  | transportOutcome cycleRef action outcome =>
      obtain ⟨u, h⟩ := map_snd_eq_ok.mp h
      rcases (transportOutcomeTransaction_ok h).2 with ⟨-, rfl⟩ | ⟨-, rfl⟩
      · exact .same _
      · exact .same _
  | resolve input nowUtc =>
      obtain ⟨resolution, h⟩ := map_snd_eq_ok.mp h
      obtain ⟨_, _, _, -, -, -, -, -, -, -, rfl⟩ := resolveTransaction_ok h
      exact .same _
  | confirmProtection signalFingerprint size nowUtc nowMonotonic =>
      obtain ⟨u, h⟩ := map_snd_eq_ok.mp h
      obtain ⟨row, plan, attempted, -, -, -, -, -, rfl⟩ :=
        confirmProtectionTransaction_ok h
      exact .updated fun row _ _ => ⟨rfl, rfl, rfl, rfl, rfl, rfl, fun _ => rfl,
        Or.inl rfl⟩
  | closedMetrics cycleRef realizedPnlJpy =>
      obtain ⟨recorded, h⟩ := map_snd_eq_ok.mp h
      obtain ⟨row, hrow, ⟨-, rfl, -⟩ | ⟨-, hnone, rfl⟩⟩ := closedMetricsTransaction_ok h
      · exact .same _
      · refine .updated fun row' hrow' hkey => ⟨rfl, rfl, rfl, rfl, rfl, rfl, ?_,
          Or.inl rfl⟩
        -- the key belongs to the row that was checked, which has no result yet
        have hsame : row' = row :=
          l.cycles.eq_of_key_eq (show CycleRow.cycleRef ∈ cycleKeys by simp [cycleKeys]) hrow'
            (Ledger.cycle?_eq_some.mp hrow).1
            ((of_decide_eq_true hkey).trans (Ledger.cycle?_eq_some.mp hrow).2.symm)
        intro hrealized
        rw [hsame] at hrealized
        exact absurd hnone hrealized
  | externalFlat input =>
      obtain ⟨released, h⟩ := map_snd_eq_ok.mp h
      rcases externalFlatTransaction_ok h with ⟨-, rfl⟩ | ⟨-, row, -, -, -, -, -, rfl⟩
      · exact .same _
      · exact .same _
  | killRehearsal cycleRef =>
      obtain ⟨u, h⟩ := map_snd_eq_ok.mp h
      rw [(killRehearsalTransaction_ok h).2]
      exact .same _
  | inheritedBaseline baseline =>
      obtain ⟨u, h⟩ := map_snd_eq_ok.mp h
      rw [inheritedBaselineTransaction_ok h]
      exact .same _

def Ledger.cycleRefs (l : Ledger) : List Digest :=
  l.cycles.rows.map CycleRow.cycleRef

def LedgerWrite.movesCycle : LedgerWrite → Prop
  | .reserve _ _ _ | .release _ => True
  | _ => False

theorem commit_cycleRefs
    (h : w.commit sha l = .ok l') (hw : ¬w.movesCycle) : l'.cycleRefs = l.cycleRefs := by
  cases commit_cycles h with
  | appended intent risk nowUtc hreserve hrows =>
      exact absurd (by simp [hreserve, LedgerWrite.movesCycle]) hw
  | filtered cycleRef hrelease p hrows hremoved =>
      exact absurd (by simp [hrelease, LedgerWrite.movesCycle]) hw
  | mapped g hrows hfollows =>
      rw [Ledger.cycleRefs, hrows, List.map_map]
      exact List.map_congr_left fun row hrow => (hfollows row hrow).cycleRef

def LedgerWrite.attemptAction? : LedgerWrite → Option V4GmoAction
  | .marketAttempt _ _ _ _ _ => some .marketEntry
  | .protectionAttempt _ _ _ _ _ _ => some .exactSizeOcoProtection
  | .riskReducing input _ => some input.plan.action
  | _ => none

/-- How a write changes the rows of `attempts`: it keeps them or appends one. -/
inductive AttemptsChange (w : LedgerWrite) (rows rows' : List AttemptRow) : Prop
  | same (hrows : rows' = rows)
  | appended (row : AttemptRow) (hw : w.attemptAction? = some row.action)
      (hrows : rows' = rows ++ [row])

theorem commit_attemptsChange (h : w.commit sha l = .ok l') :
    AttemptsChange w l.attempts.rows l'.attempts.rows := by
  cases w with
  | haltLatched =>
      cases h
      exact .same rfl
  | bindGeneration generation =>
      obtain ⟨u, h⟩ := map_snd_eq_ok.mp h
      rw [(bindGenerationTransaction_ok h).2]
      exact .same rfl
  | reserve intent risk nowUtc =>
      obtain ⟨u, h⟩ := map_snd_eq_ok.mp h
      rw [(reserveTransaction_ok sha h).2.2.2]
      exact .same rfl
  | release cycleRef =>
      obtain ⟨released, h⟩ := map_snd_eq_ok.mp h
      rcases releaseTransaction_ok h with ⟨-, -, rfl⟩ | ⟨-, rfl⟩ <;> exact .same rfl
  | entryPreflight input nowUtc nowMonotonic =>
      obtain ⟨digest, h⟩ := map_snd_eq_ok.mp h
      obtain ⟨row, -, -, -, -, -, -, -, rfl⟩ := entryPreflightTransaction_ok sha h
      exact .same rfl
  | marketAttempt authorization signalFingerprint plan nowUtc nowMonotonic =>
      obtain ⟨attempt, h⟩ := map_snd_eq_ok.mp h
      obtain ⟨row, inserted, -, -, -, rfl, hinsert, rfl⟩ := marketAttemptTransaction_ok sha h
      exact .appended _ rfl (insertAttempt_ok hinsert).2.2.1
  | protectionPlan cycleRef plan averageFillPrice =>
      obtain ⟨u, h⟩ := map_snd_eq_ok.mp h
      obtain ⟨row, -, -, rfl⟩ := protectionPlanTransaction_ok sha h
      exact .same rfl
  | protectionAttempt signalFingerprint plan exactPlan digest nowUtc nowMonotonic =>
      obtain ⟨⟨attempt, attempted⟩, h⟩ := map_snd_eq_ok.mp h
      obtain ⟨row, -, -, hadmits, -, -, rfl, hinsert⟩ := protectionAttemptTransaction_ok sha h
      simp only [CycleRow.admitsProtection, decide_eq_true_eq] at hadmits
      refine .appended _ ?_ (insertAttempt_ok hinsert).2.2.1
      simp [LedgerWrite.attemptAction?, reconciledAttemptRow, hadmits]
  | riskReducing input nowUtc =>
      obtain ⟨attempt, h⟩ := map_snd_eq_ok.mp h
      obtain ⟨row, at', settled, -, -, -, -, -, -, -, hsettled, rfl, hinsert⟩ :=
        riskReducingTransaction_ok sha h
      have hrows := (insertAttempt_ok hinsert).2.2.1
      refine .appended
        (reconciledAttemptRow sha input.plan row.cycleRef
          input.authoritativeReconciliationDigest nowUtc) rfl ?_
      rcases fixSettlementSize_ok hsettled with ⟨-, rfl⟩ | ⟨-, -, rfl⟩ <;> exact hrows
  | transportOutcome cycleRef action outcome =>
      obtain ⟨u, h⟩ := map_snd_eq_ok.mp h
      rcases (transportOutcomeTransaction_ok h).2 with ⟨-, rfl⟩ | ⟨-, rfl⟩ <;>
        exact .same rfl
  | resolve input nowUtc =>
      obtain ⟨resolution, h⟩ := map_snd_eq_ok.mp h
      obtain ⟨_, _, _, -, -, -, -, -, -, -, rfl⟩ := resolveTransaction_ok h
      exact .same rfl
  | confirmProtection signalFingerprint size nowUtc nowMonotonic =>
      obtain ⟨u, h⟩ := map_snd_eq_ok.mp h
      obtain ⟨row, plan, attempted, -, -, -, -, -, rfl⟩ :=
        confirmProtectionTransaction_ok h
      exact .same rfl
  | closedMetrics cycleRef realizedPnlJpy =>
      obtain ⟨recorded, h⟩ := map_snd_eq_ok.mp h
      obtain ⟨row, -, ⟨-, rfl, -⟩ | ⟨-, -, rfl⟩⟩ := closedMetricsTransaction_ok h <;>
        exact .same rfl
  | externalFlat input =>
      obtain ⟨released, h⟩ := map_snd_eq_ok.mp h
      rcases externalFlatTransaction_ok h with ⟨-, rfl⟩ | ⟨-, row, -, -, -, -, -, rfl⟩ <;>
        exact .same rfl
  | killRehearsal cycleRef =>
      obtain ⟨u, h⟩ := map_snd_eq_ok.mp h
      rw [(killRehearsalTransaction_ok h).2]
      exact .same rfl
  | inheritedBaseline baseline =>
      obtain ⟨u, h⟩ := map_snd_eq_ok.mp h
      rw [inheritedBaselineTransaction_ok h]
      exact .same rfl

theorem commit_attempts (h : w.commit sha l = .ok l') : l.attempts.rows <+: l'.attempts.rows := by
  cases commit_attemptsChange h with
  | same hrows => exact hrows ▸ List.prefix_rfl
  | appended row hw hrows => exact hrows ▸ List.prefix_append _ _

def Ledger.marketAttempts (l : Ledger) : List AttemptRow :=
  l.attempts.rows.filter fun row => row.action = .marketEntry

theorem commit_marketAttempts
    (h : w.commit sha l = .ok l') (hw : w.attemptAction? ≠ some .marketEntry) :
    l'.marketAttempts = l.marketAttempts := by
  cases commit_attemptsChange h with
  | same hrows => rw [Ledger.marketAttempts, hrows, Ledger.marketAttempts]
  | appended row hrow hrows =>
      have haction : row.action ≠ .marketEntry := fun heq => hw (heq ▸ hrow)
      simp [Ledger.marketAttempts, hrows, haction]

end Cycles

end FxStrategyLab
