import FxStrategyLab.Library.Spacing
import FxStrategyLab.Manual.Ledger

/-!
# The independent samples of a validation summary

A validation summary counts as independent the rows that `_non_overlapping_rows` keeps: those
whose origin is a horizon behind the origin of the row kept before.

**Results.** `independent_rows_maximal`.
-/

namespace FxStrategyLab.Manual

open Library.Spacing (Apart Chronological taken)

structure ResolvedRow where
  originTimeUtc : Instant
  pUp : ℚ
  outcomeUp : Bool

def Horizon.spacing (horizon : Horizon) : Int :=
  wallMinutes (horizon.interval.minutes * horizon.bars)

variable (spacing : Int)

/-- One turn of the loop: the rows selected so far and the time of the last one. -/
def selectRow (state : List ResolvedRow × Option Instant) (row : ResolvedRow) :
    List ResolvedRow × Option Instant :=
  if state.2 = none ∨ ∃ lastTime ∈ state.2, spacing ≤ row.originTimeUtc - lastTime then
    (state.1 ++ [row], some row.originTimeUtc)
  else state

/-- The loop of `_non_overlapping_rows` with its spacing. -/
def spacedRows (rows : List ResolvedRow) : List ResolvedRow :=
  (rows.foldl (selectRow spacing) ([], none)).1

def nonOverlappingRows (rows : List ResolvedRow) (horizon : Horizon) : List ResolvedRow :=
  spacedRows horizon.spacing rows

/-- `non_overlapping_n` of a horizon. -/
def nonOverlappingN (rows : List ResolvedRow) (horizon : Horizon) : Nat :=
  (nonOverlappingRows rows horizon).length

def SpacedChoice (rows kept : List ResolvedRow) : Prop :=
  kept.Sublist rows ∧ kept.Pairwise (Apart ResolvedRow.originTimeUtc spacing)

theorem selectRow_foldl (rows selected : List ResolvedRow) (last : Option Instant) :
    (rows.foldl (selectRow spacing) (selected, last)).1 =
      selected ++ taken ResolvedRow.originTimeUtc spacing last rows := by
  induction rows generalizing selected last with
  | nil => simp [taken]
  | cons row rows ih =>
      have hfree : (last = none ∨ ∃ lastTime ∈ last, spacing ≤ row.originTimeUtc - lastTime) ↔
          Library.Spacing.Free spacing last row.originTimeUtc := by
        cases last <;> simp [Library.Spacing.Free]
      simp only [List.foldl_cons, selectRow, taken, hfree]
      split_ifs
      · rw [ih]
        simp
      · exact ih selected last

theorem spacedRows_eq_taken (rows : List ResolvedRow) :
    spacedRows spacing rows = taken ResolvedRow.originTimeUtc spacing none rows := by
  simp [spacedRows, selectRow_foldl]

/-- **The rows that are kept are spaced, and no spaced choice of rows is larger: the count of
independent samples is the maximum.** -/
theorem independent_rows_maximal (rows : List ResolvedRow)
    (hrows : Chronological ResolvedRow.originTimeUtc rows) :
    (∀ spacing, SpacedChoice spacing rows (spacedRows spacing rows) ∧
      ∀ kept, SpacedChoice spacing rows kept →
        kept.length ≤ (spacedRows spacing rows).length) ∧
    ∀ horizon : Horizon,
      IsGreatest { n | ∃ kept, SpacedChoice horizon.spacing rows kept ∧ kept.length = n }
        (nonOverlappingN rows horizon) := by
  have hspaced : ∀ spacing, SpacedChoice spacing rows (spacedRows spacing rows) ∧
      ∀ kept, SpacedChoice spacing rows kept →
        kept.length ≤ (spacedRows spacing rows).length := by
    intro spacing
    rw [spacedRows_eq_taken]
    refine ⟨⟨Library.Spacing.taken_sublist _ _ _ _, Library.Spacing.taken_spaced hrows⟩, ?_⟩
    rintro kept ⟨hsub, hapart⟩
    exact (Library.Spacing.isGreatest_taken hrows).2 ⟨kept, hsub, hapart, rfl⟩
  refine ⟨hspaced, fun horizon => ⟨?_, ?_⟩⟩
  · exact ⟨_, (hspaced horizon.spacing).1, rfl⟩
  · rintro n ⟨kept, hkept, rfl⟩
    exact (hspaced horizon.spacing).2 kept hkept

/-- Two rows half an hour apart are both independent at that horizon. -/
theorem independent_rows_maximal_two :
    IsGreatest { n | ∃ kept, SpacedChoice (Horizon.spacing .minutes30)
        [⟨0, 1 / 2, true⟩, ⟨wallMinutes 30, 1 / 2, false⟩] kept ∧ kept.length = n }
      (nonOverlappingN [⟨0, 1 / 2, true⟩, ⟨wallMinutes 30, 1 / 2, false⟩] .minutes30) :=
  (independent_rows_maximal [⟨0, 1 / 2, true⟩, ⟨wallMinutes 30, 1 / 2, false⟩]
    (by simp [Chronological, wallMinutes, wallSeconds])).2 .minutes30

end FxStrategyLab.Manual
