import FxStrategyLab.Coordinator.Admission

/-!
# The history of a ledger

Of what the coordinator store has recorded, a later ledger keeps the attempts in their order
and the cycles that were entered, with their identity and their realized result.  A release
removes reservations alone.

**Results.** `commit_extends` for one write, and `ledger_history_kept` for the runs.
-/

namespace FxStrategyLab

open Library

section History

variable {sha : Sha256}

def CycleRow.identity (row : CycleRow) :
    Digest × Digest × TradingDay × SignalDecision × Nat × Instant :=
  (row.cycleRef, row.signalFingerprint, row.tradingDayJst, row.side, row.requestedSize,
    row.createdAtUtc)

/-- A later row of the same cycle. -/
structure CycleRow.Continued (row row' : CycleRow) : Prop where
  identity : row'.identity = row.identity
  realized : row.realizedPnlJpy ≠ none → row'.realizedPnlJpy = row.realizedPnlJpy
  entered : row.marketAttemptedAtUtc ≠ none → row'.marketAttemptedAtUtc ≠ none

namespace CycleRow.Continued

variable {row row' row'' : CycleRow}

theorem refl (row : CycleRow) : row.Continued row :=
  ⟨rfl, fun _ => rfl, id⟩

theorem trans (h : row.Continued row') (h' : row'.Continued row'') :
    row.Continued row'' where
  identity := h'.identity.trans h.identity
  realized hrow := by
    have hsame := h.realized hrow
    exact (h'.realized (hsame ▸ hrow)).trans hsame
  entered hrow := h'.entered (h.entered hrow)

theorem of_follows {w : LedgerWrite} (h : row.Follows w row') : row.Continued row' := by
  refine ⟨?_, h.realized, fun hentered => ?_⟩
  · simp only [CycleRow.identity, h.cycleRef, h.signalFingerprint, h.tradingDayJst, h.side,
      h.requestedSize, h.createdAtUtc]
  · rcases h.stamped with hsame | hstamps
    · rwa [hsame]
    · cases w with
      | marketAttempt authorization signalFingerprint plan nowUtc nowMonotonic =>
          rw [hstamps.2]
          exact Option.some_ne_none _
      | _ => exact hstamps.elim

end CycleRow.Continued

/-- What a later ledger keeps of an earlier one. -/
structure Ledger.Extends (l l' : Ledger) : Prop where
  attempts : l.attempts.rows <+: l'.attempts.rows
  entered : ∀ row ∈ l.cycles.rows, row.marketAttemptedAtUtc ≠ none →
    ∃ row' ∈ l'.cycles.rows, row.Continued row'

variable {l l' l'' : Ledger}

theorem Ledger.Extends.refl (l : Ledger) : l.Extends l :=
  ⟨List.prefix_rfl, fun row hrow _ => ⟨row, hrow, .refl row⟩⟩

theorem Ledger.Extends.trans (h : l.Extends l') (h' : l'.Extends l'') : l.Extends l'' where
  attempts := h.attempts.trans h'.attempts
  entered row hrow hentered := by
    obtain ⟨row', hrow', hcontinued⟩ := h.entered row hrow hentered
    obtain ⟨row'', hrow'', hcontinued'⟩ :=
      h'.entered row' hrow' (hcontinued.entered hentered)
    exact ⟨row'', hrow'', hcontinued.trans hcontinued'⟩

/-- **Step lemma.** A write extends the ledger. -/
theorem commit_extends {w : LedgerWrite} (h : w.commit sha l = .ok l') : l.Extends l' := by
  refine ⟨commit_attempts h, fun row hrow hentered => ?_⟩
  cases commit_cycles h with
  | appended intent risk nowUtc _ hrows =>
      exact ⟨row, by simp [hrows, hrow], .refl row⟩
  | filtered cycleRef _ p hrows hremoved =>
      -- an entered cycle is none of those that a release removes
      have hkept : p row = true := by
        by_contra hp
        have hunattempted := hremoved row hrow (Bool.eq_false_iff.mpr hp)
        simp [CycleRow.unattempted, hentered] at hunattempted
      exact ⟨row, by simp [hrows, hrow, hkept], .refl row⟩
  | mapped g hrows hfollows =>
      exact ⟨g row, by simpa only [hrows] using List.mem_map_of_mem hrow,
        .of_follows (hfollows row hrow)⟩

theorem storeStep_extends (sha : Sha256) (r : StoreRun) (call : StoreCall) :
    r.world.ledger.Extends (storeStep sha r call).world.ledger :=
  writes_keeps (I := fun l => r.world.ledger.Extends l)
    (fun _ _ _ _ hcommit h => h.trans (commit_extends hcommit))
    (storeStep_writes sha r call) (.refl _)

/-- **A ledger keeps its history.** Whatever calls a store has seen, with other processes
between their transactions, the attempts before them lead its ledger, and every cycle entered
before them is still there. -/
theorem ledger_history_kept (sha : Sha256) (r : StoreRun) (calls : List StoreCall) :
    r.world.ledger.Extends (after (storeStep sha) r calls).world.ledger := by
  induction calls generalizing r with
  | nil => exact .refl _
  | cons call calls ih => exact (storeStep_extends sha r call).trans (ih _)

end History

end FxStrategyLab
