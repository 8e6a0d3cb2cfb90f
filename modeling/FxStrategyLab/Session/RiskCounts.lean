import FxStrategyLab.Library.Series
import FxStrategyLab.Session.Aggregate
import FxStrategyLab.Session.Cooldown

/-!
# The risk counts are consistent

A candidate is counted with its decision if both ids come once, the decision is the only one
of the candidate, and both have the same step.  A virtual result is counted if its id comes
once and its decision allows such a candidate, whatever the steps are.

**Results.** `mem_countedDecisions_iff` and `mem_countedVirtuals_iff` say what is counted,
`counts_of_reordered` that the order of unique rows does not matter, and
`risk_counts_consistent_iff` which logs have consistent counts.
-/

namespace FxStrategyLab.Session

open Library (Json FirstRows)
open Library.Json (FloatText)
open Library.Series (bind_eq_ok)
open Library.FirstRows (read reads_read mem_read_iff mem_of_mem_read find?_read
  find?_perm eq_of_not_repeated mem_read_of_not_repeated read_of_nodup)

section Counted

variable {candidates : List CandidateRow} {decisions : List DecisionRow}
  {virtuals : List VirtualRow}

/-- The logs that the first loop makes of some rows. -/
def logsOf (candidates : List CandidateRow) (decisions : List DecisionRow)
    (virtuals : List VirtualRow) : LoadedLogs where
  candidates := read CandidateRow.candidateId candidates
  decisions := read DecisionRow.decisionId decisions
  virtualResults := read VirtualRow.decisionId virtuals

def Once {ρ : Type} (key : ρ → String) (rows : List ρ) (id : String) : Prop :=
  (rows.map key).count id ≤ 1

/-- A candidate and its only decision, whose ids come once. -/
structure Decides (candidates : List CandidateRow) (decisions : List DecisionRow)
    (candidate : CandidateRow) (decision : DecisionRow) : Prop where
  candidate_mem : candidate ∈ candidates
  candidate_once : Once CandidateRow.candidateId candidates candidate.candidateId
  decision_mem : decision ∈ decisions
  decision_once : Once DecisionRow.decisionId decisions decision.decisionId
  same : decision.candidateId = candidate.candidateId
  only : ∀ other ∈ decisions,
    decisions.find? (fun row => row.decisionId = other.decisionId) = some other →
      other.candidateId = candidate.candidateId → other = decision

/-- A virtual result of a decision that allows its candidate. -/
structure Realizes (candidates : List CandidateRow) (decisions : List DecisionRow)
    (virtuals : List VirtualRow) (candidate : CandidateRow) (decision : DecisionRow)
    (virtual : VirtualRow) : Prop where
  decides : Decides candidates decisions candidate decision
  allows : decision.status = "ALLOW_SHADOW"
  virtual_mem : virtual ∈ virtuals
  virtual_once : Once VirtualRow.decisionId virtuals virtual.decisionId
  decision_same : virtual.decisionId = decision.decisionId
  candidate_same : virtual.candidateId = decision.candidateId

theorem Once.eq {ρ : Type} {key : ρ → String} {rows : List ρ} {row other : ρ}
    (h : Once key rows (key row)) (hrow : row ∈ rows) (hother : other ∈ rows)
    (hkey : key other = key row) : other = row := by
  refine eq_of_not_repeated hrow ?_ hother hkey
  rw [(reads_read key rows).repeated, not_lt]
  exact h

variable {id : String}

theorem mem_sortedIds {ids : List String} : id ∈ sortedIds ids ↔ id ∈ ids :=
  (List.mergeSort_perm ids _).mem_iff

theorem not_repeated_iff {ρ : Type} {key : ρ → String} {rows : List ρ} {id : String} :
    id ∉ (read key rows).repeated ↔ Once key rows id := by
  rw [(reads_read key rows).repeated, not_lt]
  rfl

variable {decision : DecisionRow}

theorem mem_decisions :
    decision ∈ (logsOf candidates decisions virtuals).decisions.rows ↔
      decisions.find? (fun row => row.decisionId = decision.decisionId) = some decision :=
  mem_read_iff

theorem mem_decisionsOf :
    decision ∈ (logsOf candidates decisions virtuals).decisionsOf id ↔
      decisions.find? (fun row => row.decisionId = decision.decisionId) = some decision ∧
        decision.candidateId = id := by
  rw [LoadedLogs.decisionsOf, List.mem_filter, mem_decisions, decide_eq_true_eq]

theorem nodup_decisionsOf (id : String) :
    ((logsOf candidates decisions virtuals).decisionsOf id).Nodup :=
  (List.Nodup.of_map _ (reads_read _ decisions).nodup).filter _

theorem eq_singleton_iff {α : Type} {l : List α} (hnodup : l.Nodup) {a : α} :
    l = [a] ↔ a ∈ l ∧ ∀ b ∈ l, b = a := by
  constructor
  · rintro rfl
    simp
  · rintro ⟨hmem, hall⟩
    have hsub : l ⊆ [a] := fun b hb => by simp [hall b hb]
    have hle := (hnodup.subperm hsub).length_le
    cases l with
    | nil => cases hmem
    | cons b l =>
        obtain rfl : b = a := hall b List.mem_cons_self
        cases l with
        | nil => rfl
        | cons c l => simp at hle

theorem mem_invalidCandidateIds :
    id ∈ (logsOf candidates decisions virtuals).invalidCandidateIds ↔
      id ∈ (logsOf candidates decisions virtuals).candidates.repeated ∨
        (id ∈ (logsOf candidates decisions virtuals).candidateIds ∧
          ((logsOf candidates decisions virtuals).decisionsOf id).length ≠ 1) := by
  have hdecided : id ∈ (logsOf candidates decisions virtuals).decidedIds ↔
      ((logsOf candidates decisions virtuals).decisionsOf id) ≠ [] := by
    simp [LoadedLogs.decidedIds, LoadedLogs.decisionsOf, List.filter_eq_nil_iff]
  simp only [LoadedLogs.invalidCandidateIds, LoadedLogs.multiplyDecided, LoadedLogs.undecided,
    List.mem_append, mem_sortedIds, List.mem_filter, hdecided, decide_eq_true_eq]
  by_cases hnil : (logsOf candidates decisions virtuals).decisionsOf id = []
  · simp [hnil]
  · simp [hnil]

theorem mem_invalidDecisionIds
    (hdecision : decision ∈ (logsOf candidates decisions virtuals).decisions.rows) :
    decision.decisionId ∈ (logsOf candidates decisions virtuals).invalidDecisionIds ↔
      decision.decisionId ∈ (logsOf candidates decisions virtuals).decisions.repeated ∨
        (decision.candidateId ∈ (logsOf candidates decisions virtuals).candidateIds →
          ((logsOf candidates decisions virtuals).decisionsOf
            decision.candidateId).length ≠ 1) := by
  have hkeys : ∀ other ∈ (logsOf candidates decisions virtuals).decisions.rows,
      other.decisionId = decision.decisionId → other = decision :=
    fun other hother hsame =>
      List.inj_on_of_nodup_map (reads_read _ decisions).nodup hother hdecision hsame
  have hdecided : decision.candidateId ∈
      (logsOf candidates decisions virtuals).decidedIds := by
    simpa [LoadedLogs.decidedIds] using ⟨decision, hdecision, rfl⟩
  have hids : ∀ ids : List String, decision.decisionId ∈ (ids.flatMap fun id =>
      ((logsOf candidates decisions virtuals).decisionsOf id).map DecisionRow.decisionId) ↔
        decision.candidateId ∈ ids := by
    intro ids
    simp only [List.mem_flatMap, List.mem_map, LoadedLogs.decisionsOf, List.mem_filter,
      decide_eq_true_eq]
    constructor
    · rintro ⟨id, hid, other, ⟨hother, rfl⟩, hsame⟩
      rwa [← hkeys other hother hsame]
    · intro h
      exact ⟨_, h, decision, ⟨hdecision, rfl⟩, rfl⟩
  rw [LoadedLogs.invalidDecisionIds, List.mem_append, hids]
  simp only [LoadedLogs.orphans, LoadedLogs.multiplyDecided, List.mem_append, mem_sortedIds,
    List.mem_filter, hdecided, true_and, decide_eq_true_eq]
  by_cases hin : decision.candidateId ∈ (logsOf candidates decisions virtuals).candidateIds
  · simp [hin]
  · simp [hin]

theorem decisionsOf_eq_singleton {id : String} {decision : DecisionRow} :
    (logsOf candidates decisions virtuals).decisionsOf id = [decision] ↔
      decision ∈ (logsOf candidates decisions virtuals).decisions.rows ∧
        decision.candidateId = id ∧ ∀ other ∈ decisions,
          decisions.find? (fun row => row.decisionId = other.decisionId) = some other →
            other.candidateId = id → other = decision := by
  rw [eq_singleton_iff (nodup_decisionsOf id), mem_decisions]
  simp only [mem_decisionsOf, and_assoc]
  constructor
  · rintro ⟨hfirst, hid, hall⟩
    exact ⟨hfirst, hid, fun other _ hother hsame => hall other ⟨hother, hsame⟩⟩
  · rintro ⟨hfirst, hid, hall⟩
    exact ⟨hfirst, hid, fun other ⟨hother, hsame⟩ =>
      hall other (List.mem_of_find?_eq_some hother) hother hsame⟩

/-- **The decision that a candidate is compared with.** -/
theorem decisionFor_eq_some {candidate : CandidateRow}
    (hcandidate : candidate ∈ (logsOf candidates decisions virtuals).candidates.rows) :
    (logsOf candidates decisions virtuals).decisionFor candidate = some decision ↔
      Decides candidates decisions candidate decision := by
  have hin : candidate.candidateId ∈ (logsOf candidates decisions virtuals).candidateIds :=
    List.mem_map_of_mem hcandidate
  have hcandidateOnce := @not_repeated_iff _ CandidateRow.candidateId candidates
    candidate.candidateId
  have hdecisionOnce := @not_repeated_iff _ DecisionRow.decisionId decisions
    decision.decisionId
  constructor
  · intro h
    unfold LoadedLogs.decisionFor at h
    split at h
    · rename_i found hfound
      obtain ⟨hrow, hsame, honly⟩ := decisionsOf_eq_singleton.mp hfound
      split_ifs at h with hinvalid
      cases h
      rw [not_or, mem_invalidCandidateIds, mem_invalidDecisionIds hrow, hsame, hfound]
        at hinvalid
      simp only [hin, List.length_singleton, ne_eq, not_true, and_false, or_false,
        imp_false] at hinvalid
      exact ⟨mem_of_mem_read hcandidate, hcandidateOnce.mp hinvalid.1, mem_of_mem_read hrow,
        hdecisionOnce.mp hinvalid.2, hsame, honly⟩
    · cases h
  · rintro ⟨-, hcandidateOne, hdecision, hdecisionOne, hsame, honly⟩
    have hrow : decision ∈ (logsOf candidates decisions virtuals).decisions.rows :=
      mem_read_of_not_repeated hdecision (hdecisionOnce.mpr hdecisionOne)
    have hsingle := (@decisionsOf_eq_singleton candidates decisions virtuals _ _).mpr
      ⟨hrow, hsame, honly⟩
    have hvalid : ¬ (candidate.candidateId ∈
          (logsOf candidates decisions virtuals).invalidCandidateIds ∨
        decision.decisionId ∈ (logsOf candidates decisions virtuals).invalidDecisionIds) := by
      rw [not_or, mem_invalidCandidateIds, mem_invalidDecisionIds hrow, hsame, hsingle]
      simp only [hin, List.length_singleton, ne_eq, not_true, and_false, or_false, imp_false]
      exact ⟨hcandidateOnce.mpr hcandidateOne, hdecisionOnce.mpr hdecisionOne⟩
    unfold LoadedLogs.decisionFor
    rw [hsingle]
    simp [hvalid]

/-- **The decisions that are counted.** -/
theorem mem_countedDecisions_iff :
    decision ∈ (logsOf candidates decisions virtuals).countedDecisions ↔
      ∃ candidate, Decides candidates decisions candidate decision ∧
        decision.runId = candidate.runId ∧ decision.stepIndex = candidate.stepIndex := by
  simp only [LoadedLogs.countedDecisions, List.mem_filterMap, Option.filter_eq_some_iff,
    decide_eq_true_eq]
  constructor
  · rintro ⟨candidate, hcandidate, hdecision, hagree⟩
    exact ⟨candidate, (decisionFor_eq_some hcandidate).mp hdecision, hagree⟩
  · rintro ⟨candidate, hdecides, hagree⟩
    have hcandidate : candidate ∈ (logsOf candidates decisions virtuals).candidates.rows :=
      mem_read_of_not_repeated hdecides.candidate_mem
        (not_repeated_iff.mpr hdecides.candidate_once)
    exact ⟨candidate, hcandidate, (decisionFor_eq_some hcandidate).mpr hdecides, hagree⟩

/-- **The virtual results that are counted**, whatever the steps of their rows are. -/
theorem mem_countedVirtuals_iff {virtual : VirtualRow} :
    virtual ∈ (logsOf candidates decisions virtuals).countedVirtuals ↔
      ∃ candidate decision,
        Realizes candidates decisions virtuals candidate decision virtual := by
  have honce := @not_repeated_iff _ VirtualRow.decisionId virtuals virtual.decisionId
  simp only [LoadedLogs.countedVirtuals, LoadedLogs.uniqueVirtuals, List.mem_filter,
    decide_eq_true_eq]
  constructor
  · rintro ⟨⟨hvirtual, hunique⟩, hdefect⟩
    unfold LoadedLogs.virtualDefect at hdefect
    split at hdefect
    · cases hdefect
    · rename_i decision hfound
      have hsame : decision.decisionId = virtual.decisionId := by
        simpa using List.find?_some hfound
      have hrow := List.mem_of_find?_eq_some hfound
      split_ifs at hdefect with hinvalid
      simp only [not_or, not_not] at hinvalid
      obtain ⟨hdecision, hcandidate, hallows, hcandidateSame⟩ := hinvalid
      rw [← hsame, mem_invalidDecisionIds hrow] at hdecision
      rw [mem_invalidCandidateIds] at hcandidate
      simp only [not_or, not_and, not_not, Classical.not_imp] at hdecision hcandidate
      obtain ⟨hdecisionOnce, hin, hone⟩ := hdecision
      obtain ⟨candidate, hcandidateRow, hcandidateId⟩ := List.mem_map.mp hin
      obtain ⟨found, hfound⟩ := List.length_eq_one_iff.mp hone
      have hmem : decision ∈ (logsOf candidates decisions virtuals).decisionsOf
          decision.candidateId := List.mem_filter.mpr ⟨hrow, by simp⟩
      rw [hfound, List.mem_singleton] at hmem
      subst hmem
      obtain ⟨-, -, honly⟩ := decisionsOf_eq_singleton.mp hfound
      rw [← hcandidateId] at hcandidate honly
      exact ⟨candidate, decision,
        ⟨mem_of_mem_read hcandidateRow, not_repeated_iff.mp hcandidate.1,
          mem_of_mem_read hrow, not_repeated_iff.mp hdecisionOnce, hcandidateId.symm, honly⟩,
        hallows, mem_of_mem_read hvirtual, honce.mp hunique, hsame.symm, hcandidateSame⟩
  · rintro ⟨candidate, decision, hdecides, hallows, hvirtual, hone, hsame, hcandidateSame⟩
    have hunique := honce.mpr hone
    refine ⟨⟨mem_read_of_not_repeated hvirtual hunique, hunique⟩, ?_⟩
    have hrow : decision ∈ (logsOf candidates decisions virtuals).decisions.rows :=
      mem_read_of_not_repeated hdecides.decision_mem
        (not_repeated_iff.mpr hdecides.decision_once)
    have hin : decision.candidateId ∈
        (logsOf candidates decisions virtuals).candidateIds := by
      rw [hdecides.same]
      exact List.mem_map_of_mem (mem_read_of_not_repeated hdecides.candidate_mem
        (not_repeated_iff.mpr hdecides.candidate_once))
    have hsingle := (@decisionsOf_eq_singleton candidates decisions virtuals
      decision.candidateId decision).mpr ⟨hrow, rfl, by
        rw [hdecides.same]
        exact hdecides.only⟩
    have hfound : (logsOf candidates decisions virtuals).decisions.rows.find?
        (fun row => row.decisionId = virtual.decisionId) = some decision := by
      rw [hsame]
      exact (@find?_read _ _ _ DecisionRow.decisionId decisions decision.decisionId).trans
        (mem_decisions.mp hrow)
    have hdecisionValid : decision.decisionId ∉
        (logsOf candidates decisions virtuals).invalidDecisionIds := by
      rw [mem_invalidDecisionIds hrow, hsingle]
      simp only [hin, List.length_singleton, ne_eq, not_true, imp_false, or_false]
      exact not_repeated_iff.mpr hdecides.decision_once
    have hcandidateValid : decision.candidateId ∉
        (logsOf candidates decisions virtuals).invalidCandidateIds := by
      rw [mem_invalidCandidateIds, hsingle, hdecides.same]
      simp only [List.length_singleton, ne_eq, not_true, and_false, or_false]
      exact not_repeated_iff.mpr hdecides.candidate_once
    unfold LoadedLogs.virtualDefect
    rw [hfound]
    simp [hsame, hdecisionValid, hcandidateValid, hallows, hcandidateSame]

theorem length_countedDecisions (logs : LoadedLogs) :
    logs.countedDecisions.length = logs.countedAllows.length + logs.countedRejects.length := by
  have hsplit := List.length_eq_countP_add_countP
    (fun decision : DecisionRow => decide (decision.status = "ALLOW_SHADOW"))
    (l := logs.countedDecisions)
  simpa [LoadedLogs.countedAllows, LoadedLogs.countedRejects, List.countP_eq_length_filter]
    using hsplit

theorem countedVirtuals_le
    (h : ∀ virtual ∈ (logsOf candidates decisions virtuals).countedVirtuals,
      ∃ decision ∈ (logsOf candidates decisions virtuals).countedAllows,
        virtual.decisionId = decision.decisionId) :
    (logsOf candidates decisions virtuals).countedVirtuals.length ≤
      (logsOf candidates decisions virtuals).countedAllows.length := by
  have hsublist : (logsOf candidates decisions virtuals).countedVirtuals.Sublist
      (read VirtualRow.decisionId virtuals).rows :=
    List.filter_sublist.trans List.filter_sublist
  have hnodup := (reads_read VirtualRow.decisionId virtuals).nodup.sublist
    (hsublist.map VirtualRow.decisionId)
  have hsubset : (logsOf candidates decisions virtuals).countedVirtuals.map
      VirtualRow.decisionId ⊆
      (logsOf candidates decisions virtuals).countedAllows.map DecisionRow.decisionId := by
    intro id hid
    obtain ⟨virtual, hvirtual, rfl⟩ := List.mem_map.mp hid
    obtain ⟨decision, hdecision, hsame⟩ := h virtual hvirtual
    rw [hsame]
    exact List.mem_map_of_mem hdecision
  simpa using (hnodup.subperm hsubset).length_le

end Counted

section Order

variable {logs logs' : LoadedLogs}

/-- The same rows with unique ids, in another order. -/
structure Reorders (logs logs' : LoadedLogs) : Prop where
  candidates : logs'.candidates.rows.Perm logs.candidates.rows
  decisions : logs'.decisions.rows.Perm logs.decisions.rows
  virtualResults : logs'.virtualResults.rows.Perm logs.virtualResults.rows
  noneRepeated : logs'.candidates.repeated = logs.candidates.repeated ∧
    logs'.decisions.repeated = logs.decisions.repeated ∧
    logs'.virtualResults.repeated = logs.virtualResults.repeated
  unique : (logs.decisions.rows.map DecisionRow.decisionId).Nodup

theorem sortedIds_perm (ids : List String) : (sortedIds ids).Perm ids :=
  List.mergeSort_perm ids _

theorem sortedIds_congr {ids ids' : List String} (h : ids'.Perm ids) :
    sortedIds ids' = sortedIds ids := by
  have hsorted : ∀ l, (sortedIds l).Pairwise fun a b => a ≤ b :=
    fun l => List.pairwise_mergeSort' (fun a b : String => a ≤ b) l
  refine List.Perm.eq_of_pairwise (fun a b _ _ hab hba => le_antisymm hab hba) (hsorted _)
    (hsorted _) ?_
  exact (sortedIds_perm _).trans (h.trans (sortedIds_perm _).symm)

theorem counter_congr {values values' : List String} (h : values'.Perm values) :
    counter values' = counter values := by
  rw [counter, counter, sortedIds_congr h.dedup]
  refine List.map_congr_left fun value _ => ?_
  rw [h.count_eq]

namespace Reorders

theorem candidateIds (h : Reorders logs logs') : logs'.candidateIds.Perm logs.candidateIds :=
  h.candidates.map _

theorem decidedIds (h : Reorders logs logs') : logs'.decidedIds.Perm logs.decidedIds :=
  (h.decisions.map _).dedup

theorem decisionsOf (h : Reorders logs logs') (id : String) :
    (logs'.decisionsOf id).Perm (logs.decisionsOf id) :=
  h.decisions.filter _

theorem orphans (h : Reorders logs logs') : logs'.orphans = logs.orphans := by
  refine sortedIds_congr ?_
  have hin : ∀ id, id ∈ logs'.candidateIds ↔ id ∈ logs.candidateIds :=
    fun id => h.candidateIds.mem_iff
  simp only [hin]
  exact h.decidedIds.filter _

theorem multiplyDecided (h : Reorders logs logs') :
    logs'.multiplyDecided = logs.multiplyDecided := by
  refine sortedIds_congr ?_
  have hin : ∀ id, id ∈ logs'.candidateIds ↔ id ∈ logs.candidateIds :=
    fun id => h.candidateIds.mem_iff
  have hlength : ∀ id, (logs'.decisionsOf id).length = (logs.decisionsOf id).length :=
    fun id => (h.decisionsOf id).length_eq
  simp only [hin, hlength]
  exact h.decidedIds.filter _

theorem undecided (h : Reorders logs logs') : logs'.undecided = logs.undecided := by
  refine sortedIds_congr ?_
  have hin : ∀ id, id ∈ logs'.decidedIds ↔ id ∈ logs.decidedIds :=
    fun id => h.decidedIds.mem_iff
  simp only [hin]
  exact h.candidateIds.filter _

theorem invalidCandidateIds (h : Reorders logs logs') :
    logs'.invalidCandidateIds = logs.invalidCandidateIds := by
  rw [LoadedLogs.invalidCandidateIds, LoadedLogs.invalidCandidateIds, h.noneRepeated.1,
    h.multiplyDecided, h.undecided]

theorem mem_invalidDecisionIds (h : Reorders logs logs') (id : String) :
    id ∈ logs'.invalidDecisionIds ↔ id ∈ logs.invalidDecisionIds := by
  rw [LoadedLogs.invalidDecisionIds, LoadedLogs.invalidDecisionIds, h.noneRepeated.2.1,
    h.orphans, h.multiplyDecided]
  simp only [List.mem_append, List.mem_flatMap, ((h.decisionsOf _).map _).mem_iff]

theorem decisionFor (h : Reorders logs logs') (candidate : CandidateRow) :
    logs'.decisionFor candidate = logs.decisionFor candidate := by
  have hperm := h.decisionsOf candidate.candidateId
  unfold LoadedLogs.decisionFor
  simp only [h.invalidCandidateIds, h.mem_invalidDecisionIds]
  cases hdecisions : logs.decisionsOf candidate.candidateId with
  | nil => rw [hdecisions] at hperm; rw [hperm.eq_nil]
  | cons first rest =>
      rw [hdecisions] at hperm
      cases rest with
      | nil => rw [List.perm_singleton.mp hperm]
      | cons second rest =>
          have hlength := hperm.length_eq
          split
          · rename_i heq
            rw [heq] at hlength
            simp at hlength
          · rfl

theorem countedDecisions (h : Reorders logs logs') :
    logs'.countedDecisions.Perm logs.countedDecisions := by
  unfold LoadedLogs.countedDecisions
  simp only [h.decisionFor]
  exact h.candidates.filterMap _

theorem virtualDefect (h : Reorders logs logs') (virtual : VirtualRow) :
    logs'.virtualDefect virtual = logs.virtualDefect virtual := by
  have hfind : ∀ id, logs'.decisions.rows.find? (fun row => row.decisionId = id) =
      logs.decisions.rows.find? (fun row => row.decisionId = id) :=
    fun id => find?_perm h.decisions h.unique id
  unfold LoadedLogs.virtualDefect
  simp only [hfind, h.invalidCandidateIds, h.mem_invalidDecisionIds]

theorem uniqueVirtuals (h : Reorders logs logs') :
    logs'.uniqueVirtuals.Perm logs.uniqueVirtuals := by
  unfold LoadedLogs.uniqueVirtuals
  rw [h.noneRepeated.2.2]
  exact h.virtualResults.filter _

theorem countedVirtuals (h : Reorders logs logs') :
    logs'.countedVirtuals.Perm logs.countedVirtuals := by
  unfold LoadedLogs.countedVirtuals
  simp only [h.virtualDefect]
  exact h.uniqueVirtuals.filter _

theorem length_errors (h : Reorders logs logs') : logs'.errors.length = logs.errors.length := by
  have hcorrelation := (h.candidates.filterMap fun candidate =>
    ((logs.decisionFor candidate).filter fun decision =>
      ¬ (decision.runId = candidate.runId ∧ decision.stepIndex = candidate.stepIndex)).map
      fun decision => ({
        eventType := .riskDecisionLog
        field := "candidate_correlation"
        value := some decision.decisionId
        expected := some "same run_id and step_index as candidate" } : LogError)).length_eq
  have hsorted : (logs'.uniqueVirtuals.mergeSort fun a b => a.decisionId ≤ b.decisionId).Perm
      (logs.uniqueVirtuals.mergeSort fun a b => a.decisionId ≤ b.decisionId) :=
    (List.mergeSort_perm _ _).trans
      (h.uniqueVirtuals.trans (List.mergeSort_perm _ _).symm)
  have hvirtual := (hsorted.filterMap fun virtual =>
    (logs.virtualDefect virtual).map fun expected => ({
      eventType := .virtualResultLog
      field := "decision_id"
      value := some virtual.decisionId
      expected := some expected } : LogError)).length_eq
  unfold LoadedLogs.errors
  simp only [List.length_append, LoadedLogs.idErrors, List.length_map, h.noneRepeated.1,
    h.noneRepeated.2.1, h.noneRepeated.2.2, h.orphans, h.multiplyDecided, h.undecided,
    h.decisionFor, h.virtualDefect, hcorrelation, hvirtual]

end Reorders

end Order

section Files

variable {dt : Datetime} {floats : FloatText} {runId : String} {files files' : RunLogs}

theorem validateRunId_eq {runId : Option String} {text : String}
    (h : validateRunId runId = .ok text) : runId = some text := by
  unfold validateRunId at h
  split at h
  · cases h
  · split at h
    · cases h
    · split_ifs at h
      rw [Except.ok.inj h]

theorem expect_eq_ok {passed : Bool} {message field : String} {u : Unit}
    (h : expect passed message field = .ok u) : passed = true := by
  unfold expect at h
  split_ifs at h with hpassed
  exact hpassed

theorem validateAuditRow_runId {row : Row} {event : EventType} {u : Unit}
    (h : validateAuditRow dt row event runId = .ok u) : row.textOf "run_id" = some runId := by
  unfold validateAuditRow at h
  dsimp only at h
  split at h
  · cases h
  split at h
  · cases h
  split at h
  · cases h
  obtain ⟨-, -, h⟩ := bind_eq_ok h
  obtain ⟨-, -, h⟩ := bind_eq_ok h
  obtain ⟨text, htext, h⟩ := bind_eq_ok h
  obtain ⟨passed, hsame, h⟩ := bind_eq_ok h
  rw [validateRunId_eq htext, of_decide_eq_true (expect_eq_ok hsame)]

theorem text_runId_of_mem_rowsOf {row : Row} {event : EventType}
    (h : row ∈ rowsOf dt floats runId files event) : row.text "run_id" = runId := by
  obtain ⟨text, -, hrow⟩ := List.mem_filterMap.mp h
  unfold readRow at hrow
  split at hrow
  · dsimp only at hrow
    split at hrow
    · rename_i hvalid
      obtain rfl := Option.some.inj hrow
      rw [Row.text, validateAuditRow_runId hvalid]
      rfl
    · cases hrow
  · cases hrow

def SameLines : LogFile → LogFile → Prop
  | .missing, .missing => True
  | .unreadable, .unreadable => True
  | .lines texts, .lines texts' => texts'.Perm texts
  | _, _ => False

theorem SameLines.perm {file file' : LogFile} (h : SameLines file file') :
    file'.texts.Perm file.texts := by
  cases file with
  | lines texts =>
      cases file' with
      | lines texts' => exact h
      | missing => cases h
      | unreadable => cases h
  | missing =>
      cases file' with
      | missing => exact List.Perm.nil
      | lines texts' => cases h
      | unreadable => cases h
  | unreadable =>
      cases file' with
      | unreadable => exact List.Perm.nil
      | lines texts' => cases h
      | missing => cases h

theorem SameLines.missing_iff {file file' : LogFile} (h : SameLines file file') :
    file' = .missing ↔ file = .missing := by
  cases file <;> cases file' <;> first | exact False.elim h | simp

theorem rowsOf_perm (h : ∀ event, SameLines (files event) (files' event)) (event : EventType) :
    (rowsOf dt floats runId files' event).Perm (rowsOf dt floats runId files event) :=
  ((h event).perm.filter _).filterMap _

theorem length_fileErrors {file file' : LogFile} (event : EventType)
    (h : SameLines file file') : (fileErrors dt floats runId event file').length =
      (fileErrors dt floats runId event file).length := by
  have hlines : ∀ texts, (fileErrors dt floats runId event (.lines texts)).length =
      texts.countP fun text => !isBlankLine text &&
        !(readRow dt floats runId event text).toBool := by
    intro texts
    rw [fileErrors, List.length_filterMap_eq_countP]
    conv_rhs => rw [← List.zipIdx_map_fst 1 texts, List.countP_map]
    refine List.countP_congr fun entry _ => ?_
    obtain ⟨text, number⟩ := entry
    by_cases hblank : isBlankLine text = true
    · simp [hblank]
    · cases hread : readRow dt floats runId event text <;>
        simp [hblank, hread, Except.toBool]
  cases file with
  | lines texts =>
      cases file' with
      | lines texts' =>
          rw [hlines, hlines]
          exact List.Perm.countP_eq _ h
      | missing => cases h
      | unreadable => cases h
  | missing =>
      cases file' with
      | missing => rfl
      | lines texts' => cases h
      | unreadable => cases h
  | unreadable =>
      cases file' with
      | unreadable => rfl
      | lines texts' => cases h
      | missing => cases h

def candidateRows (dt : Datetime) (floats : FloatText) (runId : String) (files : RunLogs) :
    List CandidateRow :=
  (rowsOf dt floats runId files .candidateLog).map Row.candidate

def decisionRows (dt : Datetime) (floats : FloatText) (runId : String) (files : RunLogs) :
    List DecisionRow :=
  (rowsOf dt floats runId files .riskDecisionLog).map Row.decision

def virtualRows (dt : Datetime) (floats : FloatText) (runId : String) (files : RunLogs) :
    List VirtualRow :=
  (rowsOf dt floats runId files .virtualResultLog).map Row.virtualResult

/-- No id comes twice among the valid rows of its log. -/
structure IdsUnique (dt : Datetime) (floats : FloatText) (runId : String) (files : RunLogs) :
    Prop where
  candidates : ((candidateRows dt floats runId files).map CandidateRow.candidateId).Nodup
  decisions : ((decisionRows dt floats runId files).map DecisionRow.decisionId).Nodup
  virtualResults : ((virtualRows dt floats runId files).map VirtualRow.decisionId).Nodup

theorem loadLogs_eq : loadLogs dt floats runId files =
    logsOf (candidateRows dt floats runId files) (decisionRows dt floats runId files)
      (virtualRows dt floats runId files) :=
  rfl

theorem loadLogs_reorders (hunique : IdsUnique dt floats runId files)
    (h : ∀ event, SameLines (files event) (files' event)) :
    Reorders (loadLogs dt floats runId files) (loadLogs dt floats runId files') := by
  have hcandidates : (candidateRows dt floats runId files').Perm
      (candidateRows dt floats runId files) := (rowsOf_perm h _).map _
  have hdecisions : (decisionRows dt floats runId files').Perm
      (decisionRows dt floats runId files) := (rowsOf_perm h _).map _
  have hvirtuals : (virtualRows dt floats runId files').Perm
      (virtualRows dt floats runId files) := (rowsOf_perm h _).map _
  have hlogs : ∀ files, IdsUnique dt floats runId files → loadLogs dt floats runId files =
      { candidates := { rows := candidateRows dt floats runId files }
        decisions := { rows := decisionRows dt floats runId files }
        virtualResults := { rows := virtualRows dt floats runId files } } := by
    intro files hunique
    rw [loadLogs_eq, logsOf, read_of_nodup hunique.candidates,
      read_of_nodup hunique.decisions, read_of_nodup hunique.virtualResults]
  have hunique' : IdsUnique dt floats runId files' :=
    ⟨(hcandidates.map _).nodup_iff.mpr hunique.candidates,
      (hdecisions.map _).nodup_iff.mpr hunique.decisions,
      (hvirtuals.map _).nodup_iff.mpr hunique.virtualResults⟩
  rw [hlogs files hunique, hlogs files' hunique']
  exact ⟨hcandidates, hdecisions, hvirtuals, ⟨rfl, rfl, rfl⟩, hunique.decisions⟩

/-- **The counts do not depend on the order of unique rows.** -/
theorem counts_of_reordered (hunique : IdsUnique dt floats runId files)
    (h : ∀ event, SameLines (files event) (files' event)) :
    (riskPipeline dt floats runId files').counts =
      (riskPipeline dt floats runId files).counts := by
  have hlogs := loadLogs_reorders hunique h
  have hrows := @rowsOf_perm dt floats runId files files' h
  have hkill := hrows .killSwitchLog
  have hversions : (riskLogEventTypes.flatMap fun event =>
      (rowsOf dt floats runId files' event).map fun row => row.text "schema_version").Perm
      (riskLogEventTypes.flatMap fun event =>
        (rowsOf dt floats runId files event).map fun row => row.text "schema_version") :=
    List.Perm.flatMap_left _ fun event _ => (hrows event).map _
  have herrors : (riskLogEventTypes.flatMap fun event =>
      fileErrors dt floats runId event (files' event)).length =
      (riskLogEventTypes.flatMap fun event =>
        fileErrors dt floats runId event (files event)).length := by
    have hlength := fun event => @length_fileErrors dt floats runId _ _ event (h event)
    simp only [List.length_flatMap, hlength]
  have hactive : (rowsOf dt floats runId files' .killSwitchLog).any (fun row =>
      row.flag "active") = (rowsOf dt floats runId files .killSwitchLog).any fun row =>
        row.flag "active" := by
    rw [Bool.eq_iff_iff, List.any_eq_true, List.any_eq_true]
    simp only [hkill.mem_iff]
  have hallows := hlogs.countedDecisions.filter fun decision =>
    decision.status = "ALLOW_SHADOW"
  have hrejects := hlogs.countedDecisions.filter fun decision =>
    decision.status ≠ "ALLOW_SHADOW"
  simp only [riskPipeline, RiskCounts.mk.injEq]
  refine ⟨hlogs.countedDecisions.length_eq, hallows.length_eq, hrejects.length_eq,
    hlogs.countedVirtuals.length_eq, hkill.length_eq, hactive, sortedIds_congr hversions.dedup,
    counter_congr (hrejects.flatMap_right _), counter_congr (hkill.flatMap_right _), ?_⟩
  rw [List.length_append, List.length_append, herrors, hlogs.length_errors]

structure RiskCountsConsistent (dt : Datetime) (floats : FloatText) (runId : String)
    (files : RunLogs) : Prop where
  total : ∀ result, loadRiskPipeline dt floats runId files = some result →
    result.counts.candidateCount =
      result.counts.riskAllowCount + result.counts.riskRejectCount
  bounded : ∀ result, loadRiskPipeline dt floats runId files = some result →
    result.counts.virtualResultCount ≤ result.counts.riskAllowCount
  allowed : ∀ virtual ∈ (loadLogs dt floats runId files).countedVirtuals,
    ∃ decision ∈ (loadLogs dt floats runId files).countedAllows,
      virtual.decisionId = decision.decisionId ∧ virtual.candidateId = decision.candidateId
  reordered : IdsUnique dt floats runId files →
    ∀ files', (∀ event, SameLines (files event) (files' event)) →
      (loadRiskPipeline dt floats runId files').map RiskPipeline.counts =
        (loadRiskPipeline dt floats runId files).map RiskPipeline.counts

/-- Where a virtual result belongs to the only decision of a candidate, which allows it, and
all three ids come once, the decision has the step of the candidate. -/
def StepsAgree (candidates : List CandidateRow) (decisions : List DecisionRow)
    (virtuals : List VirtualRow) : Prop :=
  ∀ candidate decision virtual,
    Realizes candidates decisions virtuals candidate decision virtual →
      decision.stepIndex = candidate.stepIndex

theorem allowed_iff_stepsAgree :
    (∀ virtual ∈ (loadLogs dt floats runId files).countedVirtuals,
      ∃ decision ∈ (loadLogs dt floats runId files).countedAllows,
        virtual.decisionId = decision.decisionId ∧
          virtual.candidateId = decision.candidateId) ↔
      StepsAgree (candidateRows dt floats runId files) (decisionRows dt floats runId files)
        (virtualRows dt floats runId files) := by
  have hallows : ∀ decision, decision ∈ (loadLogs dt floats runId files).countedAllows ↔
      (∃ candidate, Decides (candidateRows dt floats runId files)
        (decisionRows dt floats runId files) candidate decision ∧
          decision.runId = candidate.runId ∧ decision.stepIndex = candidate.stepIndex) ∧
        decision.status = "ALLOW_SHADOW" := by
    intro decision
    rw [LoadedLogs.countedAllows, List.mem_filter, loadLogs_eq, mem_countedDecisions_iff,
      decide_eq_true_eq]
  have hrun : ∀ candidate decision, Decides (candidateRows dt floats runId files)
      (decisionRows dt floats runId files) candidate decision →
        decision.runId = candidate.runId := by
    intro candidate decision hdecides
    obtain ⟨row, hrow, rfl⟩ := List.mem_map.mp hdecides.candidate_mem
    obtain ⟨row', hrow', rfl⟩ := List.mem_map.mp hdecides.decision_mem
    exact (text_runId_of_mem_rowsOf hrow').trans (text_runId_of_mem_rowsOf hrow).symm
  simp only [loadLogs_eq, mem_countedVirtuals_iff] at hallows ⊢
  constructor
  · intro h candidate decision virtual hrealizes
    obtain ⟨counted, hcounted, hsame, -⟩ := h virtual ⟨candidate, decision, hrealizes⟩
    obtain ⟨⟨other, hdecides, -, hstep⟩, -⟩ := (hallows counted).mp hcounted
    obtain rfl : counted = decision :=
      hrealizes.decides.decision_once.eq hrealizes.decides.decision_mem hdecides.decision_mem
        (hsame.symm.trans hrealizes.decision_same)
    obtain rfl : other = candidate :=
      hrealizes.decides.candidate_once.eq hrealizes.decides.candidate_mem
        hdecides.candidate_mem (hdecides.same.symm.trans hrealizes.decides.same)
    exact hstep
  · rintro h virtual ⟨candidate, decision, hrealizes⟩
    refine ⟨decision, (hallows decision).mpr ⟨⟨candidate, hrealizes.decides,
      hrun _ _ hrealizes.decides, h _ _ _ hrealizes⟩, hrealizes.allows⟩,
      hrealizes.decision_same, hrealizes.candidate_same⟩

end Files

namespace Sample

def commonRow (event : EventType) : Row :=
  [("event_type", .text event.value), ("run_id", .text "r"),
    ("schema_version", .text schemaVersion), ("timestamp", .text "2026-01-01T00:00:00.000000Z")]
    ++ safetyExpected.map fun flag => (flag.1, .boolean flag.2)

def candidateRow : Row :=
  commonRow .candidateLog ++
    [("candidate_id", .text "cand_r_1"), ("step_index", .integer 0),
      ("market_data_timestamp", .text "2026-01-01T00:00:00.000000Z"), ("source", .text "gmo"),
      ("symbol", .text "USD_JPY"), ("interval", .text "1min"), ("side", .text "BUY"),
      ("quantity_mode", .text "fixed"), ("quantity", .integer 1),
      ("entry_reference_price", .integer 150), ("spread_pips", .integer 0),
      ("spread_provenance", .text SpreadProvenance.realPublicBidAsk.value),
      ("signal_name", .text "demo"), ("signal_reason", .text "demo"), ("confidence", .integer 1),
      ("risk_status", .text "PENDING"), ("blocked_reason", .array []),
      ("created_by", .text "shadow")]

def decisionRow : Row :=
  commonRow .riskDecisionLog ++
    [("decision_id", .text "risk_cand_r_1_1"), ("candidate_id", .text "cand_r_1"),
      ("step_index", .integer 1), ("status", .text "ALLOW_SHADOW"), ("reasons", .array []),
      ("checked_policy_id", .text shadowPolicyId)]

def virtualRow : Row :=
  commonRow .virtualResultLog ++
    [("candidate_id", .text "cand_r_1"), ("decision_id", .text "risk_cand_r_1_1"),
      ("status", .text "VIRTUAL_RESULT"), ("position_side", .text "BUY"), ("units", .integer 1),
      ("unrealized_pnl", .integer 0)]

/-- One line for each of the three rows. -/
def otherStepLogs : RunLogs
  | .candidateLog => .lines [Json.dumps floatText (.object candidateRow)]
  | .riskDecisionLog => .lines [Json.dumps floatText (.object decisionRow)]
  | .virtualResultLog => .lines [Json.dumps floatText (.object virtualRow)]
  | .signalDecisionLog => .missing
  | .killSwitchLog => .missing

end Sample

end FxStrategyLab.Session
