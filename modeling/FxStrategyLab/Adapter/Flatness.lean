import FxStrategyLab.Adapter.Reconciled

/-!
# When a known reconciliation is flat

A known reconciliation owns its positions: each is of the pair, on the cycle's side and
opened by an execution of the cycle's entry.  Its sizes count the positions, the active
entry and the active protection.  An active order that settles positions is permitted and
counted in no size, so an account with nothing else looks flat.

**Results.**

* `reconcileRows_resultKnown`: a known reconciliation has passed every check.
* `reconciliation_truthful_iff`: the reconciliation tells the truth about ownership and
  flatness unless only orders without a size are left.
-/

namespace FxStrategyLab

section Flatness

variable {cycleRef : Digest} {side : SignalDecision} {requestedSize : Nat}
variable {executions : List ExecutionRow} {positions : List PositionRow}
variable {activeOrders : List ActiveOrderRow} {r : V4GmoActualReconciliation}

/-- The rows pass every check of `_reconcile_rows`. -/
def RowsPass (cycleRef : Digest) (side : SignalDecision) (requestedSize : Nat)
    (executions : List ExecutionRow) (positions : List PositionRow)
    (activeOrders : List ActiveOrderRow) : Prop :=
  openRowsValid side requestedSize (ownedOpenRows cycleRef executions) = true ∧
    ¬ForeignRows cycleRef executions positions activeOrders ∧
    RowsConsistent cycleRef side requestedSize executions positions activeOrders
deriving Decidable

/-- An active order that no size counts: one that settles positions, and a protection or an
entry without a size. -/
def CountedInNoSize (cycleRef : Digest) (requestedSize : Nat) (row : ActiveOrderRow) : Prop :=
  row.clientOrderId = v4GmoClientOrderId cycleRef .positionSpecificEmergencyExit ∨
    row.clientOrderId = v4GmoClientOrderId cycleRef .positionSpecificTimeExit ∨
    (row.clientOrderId = v4GmoClientOrderId cycleRef .exactSizeOcoProtection ∧ row.size = 0) ∨
    (row.clientOrderId = v4GmoClientOrderId cycleRef .marketEntry ∧ requestedSize = 0)

instance : DecidablePred (CountedInNoSize cycleRef requestedSize) :=
  fun _ => inferInstanceAs (Decidable (_ ∨ _ ∨ (_ ∧ _) ∨ (_ ∧ _)))

/-- Nothing is left but active orders that no size counts, in rows that pass. -/
def OnlyUncounted (cycleRef : Digest) (side : SignalDecision) (requestedSize : Nat)
    (executions : List ExecutionRow) (positions : List PositionRow)
    (activeOrders : List ActiveOrderRow) : Prop :=
  RowsPass cycleRef side requestedSize executions positions activeOrders ∧
    positions = [] ∧ activeOrders ≠ [] ∧
    ∀ row ∈ activeOrders, CountedInNoSize cycleRef requestedSize row
deriving Decidable

/-- What a known reconciliation says about the positions: they are the cycle's, and their
sizes make up its filled size. -/
structure OwnsPositions (cycleRef : Digest) (side : SignalDecision) (requestedSize : Nat)
    (executions : List ExecutionRow) (positions : List PositionRow)
    (r : V4GmoActualReconciliation) : Prop where
  rows : ∀ row ∈ positions, row.symbol = .usdJpy ∧ row.side = side ∧
    ∃ execution ∈ executions,
      execution.clientOrderId = v4GmoClientOrderId cycleRef .marketEntry ∧
        execution.settleType = .opening ∧ execution.positionId = row.positionId
  filled : r.snapshot.filledSize = (positions.map PositionRow.size).sum
  bundle : r.positionBundleTotal.getD 0 = r.snapshot.filledSize
  bounded : r.snapshot.filledSize ≤ requestedSize

/-- A known reconciliation owns its positions, and one whose sizes are zero stands for an
account without positions and active orders. -/
def TruthfulReconciliation (cycleRef : Digest) (side : SignalDecision) (requestedSize : Nat)
    (executions : List ExecutionRow) (positions : List PositionRow)
    (activeOrders : List ActiveOrderRow) : Prop :=
  ∀ r, reconcileRows cycleRef side requestedSize executions positions activeOrders = .ok r →
    r.snapshot.resultKnown = true →
      OwnsPositions cycleRef side requestedSize executions positions r ∧
        (r.snapshot.positionCount = 0 → r.snapshot.pendingEntrySize = 0 →
          r.snapshot.protectionSize = 0 → positions = [] ∧ activeOrders = [])

theorem reconcileRows_resultKnown
    (h : reconcileRows cycleRef side requestedSize executions positions activeOrders = .ok r)
    (hknown : r.snapshot.resultKnown = true) :
    RowsPass cycleRef side requestedSize executions positions activeOrders := by
  by_cases hopen :
      openRowsValid side requestedSize (ownedOpenRows cycleRef executions) = true
  · by_cases hforeign : ForeignRows cycleRef executions positions activeOrders
    · rw [reconcileRows_foreign hopen hforeign] at h
      obtain rfl := Except.ok.inj h
      cases hknown
    by_cases hrows :
        RowsConsistent cycleRef side requestedSize executions positions activeOrders
    · exact ⟨hopen, hforeign, hrows⟩
    · rw [reconcileRows_inconsistent hopen hforeign hrows] at h
      obtain rfl := Except.ok.inj h
      cases hknown
  · rw [reconcileRows_openInvalid (by simpa using hopen)] at h
    obtain rfl := Except.ok.inj h
    cases hknown

theorem ofParts_ok {parts : List PositionPart} {bundle : V4GmoPositionBundle}
    (h : V4GmoPositionBundle.ofParts parts = .ok bundle) : bundle.parts = parts := by
  unfold V4GmoPositionBundle.ofParts at h
  split_ifs at h
  obtain rfl := Except.ok.inj h
  rfl

theorem reconcileRows_sizes
    (hpass : RowsPass cycleRef side requestedSize executions positions activeOrders)
    (h : reconcileRows cycleRef side requestedSize executions positions activeOrders = .ok r) :
    r.snapshot.resultKnown = true ∧
      r.snapshot.filledSize = (positions.map PositionRow.size).sum ∧
      r.positionBundleTotal.getD 0 = (positions.map PositionRow.size).sum ∧
      r.snapshot.positionCount = (if positions = [] then 0 else 1) ∧
      r.snapshot.pendingEntrySize =
        (if activeOrdersOf cycleRef .marketEntry activeOrders = [] then 0
          else requestedSize - (positions.map PositionRow.size).sum) ∧
      r.snapshot.protectionSize = protectedSize cycleRef activeOrders := by
  obtain ⟨hopen, hforeign, hpositions, hclose, horders⟩ := hpass
  unfold reconcileRows at h
  rw [if_neg (by simp [hopen]), if_neg (show ¬(_ ∨ _) from hforeign),
    if_neg (by simp [hpositions, hclose, horders])] at h
  by_cases hempty : positions = []
  · subst hempty
    simp only [if_true] at h
    obtain rfl := Except.ok.inj h
    exact ⟨rfl, rfl, rfl, rfl, rfl, rfl⟩
  · simp only [hempty, if_false] at h
    cases hbundle : V4GmoPositionBundle.ofParts
        (positions.map fun row => ⟨row.positionId, row.size⟩) with
    | error e =>
        rw [hbundle] at h
        cases h
    | ok bundle =>
        rw [hbundle] at h
        obtain rfl := Except.ok.inj h
        refine ⟨rfl, rfl, ?_, by simp only [hempty, if_false], rfl, rfl⟩
        simp [V4GmoActualReconciliation.positionBundleTotal, V4GmoPositionBundle.totalSize,
          ofParts_ok hbundle, Function.comp_def]

theorem ownsPositions_of_pass
    (hpass : RowsPass cycleRef side requestedSize executions positions activeOrders)
    (h : reconcileRows cycleRef side requestedSize executions positions activeOrders = .ok r) :
    OwnsPositions cycleRef side requestedSize executions positions r := by
  obtain ⟨-, hfilled, hbundle, -⟩ := reconcileRows_sizes hpass h
  obtain ⟨-, hforeign, hpositions, -⟩ := hpass
  simp only [positionsValid, Bool.and_eq_true, List.all_eq_true, decide_eq_true_eq] at hpositions
  refine ⟨fun row hrow => ?_, hfilled, hbundle.trans hfilled.symm, ?_⟩
  · have howned : row ∉ unownedPositions (ownedOpenRows cycleRef executions) positions := by
      intro hmem
      exact hforeign (Or.inl (List.ne_nil_of_mem hmem))
    simp only [unownedPositions, List.mem_filter, hrow, true_and, Bool.not_eq_true',
      Bool.not_eq_false, Bool.and_eq_true, decide_eq_true_eq, List.any_eq_true] at howned
    obtain ⟨hsymbol, execution, hexecution, hid⟩ := howned
    obtain ⟨hmem, hentry⟩ := List.mem_filter.mp hexecution
    simp only [Bool.and_eq_true, decide_eq_true_eq] at hentry
    exact ⟨hsymbol, hpositions.1.1 row hrow, execution, hmem, hentry.1, hentry.2, hid⟩
  · rw [hfilled]
    exact hpositions.2

theorem permitted_of_pass
    (hpass : RowsPass cycleRef side requestedSize executions positions activeOrders)
    {row : ActiveOrderRow} (hrow : row ∈ activeOrders) :
    row.clientOrderId ∈ permittedClientIds cycleRef := by
  have howned : row ∉ unownedActiveOrders cycleRef activeOrders := by
    intro hmem
    exact hpass.2.1 (Or.inr (List.ne_nil_of_mem hmem))
  simp only [unownedActiveOrders, List.mem_filter, hrow, true_and, Bool.not_eq_true',
    Bool.not_eq_false, Bool.and_eq_true, decide_eq_true_eq] at howned
  exact howned.2

theorem clientOrderId_ne {action other : V4GmoAction}
    (h : clientOrderPrefix action ≠ clientOrderPrefix other) :
    v4GmoClientOrderId cycleRef action ≠ v4GmoClientOrderId cycleRef other := by
  intro heq
  refine h (List.append_inj_left heq ?_)
  cases action <;> cases other <;> rfl

theorem protectedSize_of_mem
    (hpass : RowsPass cycleRef side requestedSize executions positions activeOrders)
    {row : ActiveOrderRow}
    (hrow : row ∈ activeOrdersOf cycleRef .exactSizeOcoProtection activeOrders) :
    protectedSize cycleRef activeOrders = row.size := by
  obtain ⟨-, -, -, -, horders⟩ := hpass
  simp only [activeOrdersValid, Bool.and_eq_true, List.all_eq_true, decide_eq_true_eq] at horders
  unfold protectedSize
  cases hprotection : activeOrdersOf cycleRef .exactSizeOcoProtection activeOrders with
  | nil =>
      rw [hprotection] at hrow
      cases hrow
  | cons first rest =>
      rw [hprotection] at hrow horders
      exact horders.2 first List.mem_cons_self row hrow

theorem sizes_zero_iff (hpass : RowsPass cycleRef side requestedSize executions [] activeOrders)
    (h : reconcileRows cycleRef side requestedSize executions [] activeOrders = .ok r) :
    (r.snapshot.pendingEntrySize = 0 ∧ r.snapshot.protectionSize = 0) ↔
      ∀ row ∈ activeOrders, CountedInNoSize cycleRef requestedSize row := by
  obtain ⟨-, -, -, -, hpending, hprotection⟩ := reconcileRows_sizes hpass h
  rw [hpending, hprotection]
  constructor
  · rintro ⟨hentry, hprotected⟩ row hrow
    have hpermitted := permitted_of_pass hpass hrow
    simp only [permittedClientIds, closingClientIds, List.mem_cons, List.not_mem_nil,
      or_false] at hpermitted
    rcases hpermitted with hid | hid | hid | hid
    · refine Or.inr (Or.inr (Or.inr ⟨hid, ?_⟩))
      have hmem : row ∈ activeOrdersOf cycleRef .marketEntry activeOrders :=
        List.mem_filter.mpr ⟨hrow, by simpa using hid⟩
      rw [if_neg (List.ne_nil_of_mem hmem)] at hentry
      simpa using hentry
    · refine Or.inr (Or.inr (Or.inl ⟨hid, ?_⟩))
      have hmem : row ∈ activeOrdersOf cycleRef .exactSizeOcoProtection activeOrders :=
        List.mem_filter.mpr ⟨hrow, by simpa using hid⟩
      rw [← protectedSize_of_mem hpass hmem]
      exact hprotected
    · exact Or.inl hid
    · exact Or.inr (Or.inl hid)
  · intro hall
    constructor
    · split_ifs with hentry
      · rfl
      · obtain ⟨row, hrow⟩ := List.exists_mem_of_ne_nil _ hentry
        obtain ⟨hmem, hid⟩ := List.mem_filter.mp hrow
        have hid : row.clientOrderId = v4GmoClientOrderId cycleRef .marketEntry := by
          simpa using hid
        rcases hall row hmem with hother | hother | ⟨hother, -⟩ | ⟨-, hzero⟩
        · exact absurd (hid.symm.trans hother) (clientOrderId_ne (by decide))
        · exact absurd (hid.symm.trans hother) (clientOrderId_ne (by decide))
        · exact absurd (hid.symm.trans hother) (clientOrderId_ne (by decide))
        · simp [hzero]
    · cases hprotected : activeOrdersOf cycleRef .exactSizeOcoProtection activeOrders with
      | nil =>
          unfold protectedSize
          rw [hprotected]
          rfl
      | cons row rest =>
          have hrow : row ∈ activeOrdersOf cycleRef .exactSizeOcoProtection activeOrders := by
            rw [hprotected]
            exact List.mem_cons_self
          rw [protectedSize_of_mem hpass hrow]
          obtain ⟨hmem, hid⟩ := List.mem_filter.mp hrow
          have hid : row.clientOrderId =
              v4GmoClientOrderId cycleRef .exactSizeOcoProtection := by
            simpa using hid
          rcases hall row hmem with hother | hother | ⟨-, hzero⟩ | ⟨hother, -⟩
          · exact absurd (hid.symm.trans hother) (clientOrderId_ne (by decide))
          · exact absurd (hid.symm.trans hother) (clientOrderId_ne (by decide))
          · exact hzero
          · exact absurd (hid.symm.trans hother) (clientOrderId_ne (by decide))

theorem reconcileRows_of_no_position
    (hpass : RowsPass cycleRef side requestedSize executions [] activeOrders) :
    ∃ r, reconcileRows cycleRef side requestedSize executions [] activeOrders = .ok r := by
  obtain ⟨hopen, hforeign, hrows⟩ := hpass
  obtain ⟨r, hr, -⟩ := reconcileRows_known hopen hforeign hrows (by simp)
  exact ⟨r, hr⟩

/-- **Exactly when a reconciliation tells the truth.** For any rows: a known reconciliation
owns its positions, and one without a position, a pending entry and a protection stands for
an account without positions and active orders, unless nothing is left but active orders
that no size counts. -/
theorem reconciliation_truthful_iff (cycleRef : Digest) (side : SignalDecision)
    (requestedSize : Nat) (executions : List ExecutionRow) (positions : List PositionRow)
    (activeOrders : List ActiveOrderRow) :
    TruthfulReconciliation cycleRef side requestedSize executions positions activeOrders ↔
      ¬ OnlyUncounted cycleRef side requestedSize executions positions activeOrders := by
  constructor
  · rintro htruthful ⟨hpass, rfl, hnonempty, hall⟩
    obtain ⟨r, hr⟩ := reconcileRows_of_no_position hpass
    obtain ⟨hknown, -, -, hcount, -⟩ := reconcileRows_sizes hpass hr
    obtain ⟨hpending, hprotection⟩ := (sizes_zero_iff hpass hr).mpr hall
    exact hnonempty (((htruthful r hr hknown).2 hcount hpending hprotection).2)
  · intro hnot r hr hknown
    have hpass := reconcileRows_resultKnown hr hknown
    refine ⟨ownsPositions_of_pass hpass hr, fun hcount hpending hprotection => ?_⟩
    have hempty : positions = [] := by
      by_contra hne
      obtain ⟨-, -, -, hone, -⟩ := reconcileRows_sizes hpass hr
      rw [if_neg hne] at hone
      omega
    subst hempty
    refine ⟨rfl, ?_⟩
    by_contra hne
    exact hnot ⟨hpass, rfl, hne, (sizes_zero_iff hpass hr).mp ⟨hpending, hprotection⟩⟩

end Flatness

def Sample.exitOrder (cycleRef : Digest) : ActiveOrderRow where
  symbol := .usdJpy
  clientOrderId := v4GmoClientOrderId cycleRef .positionSpecificEmergencyExit
  settleType := .closing
  size := 1000

/-- A live emergency exit and nothing else looks flat. -/
theorem exit_order_looks_flat :
    ¬ TruthfulReconciliation (Sha256.checksum.hexdigest []) .buy 1000 [] []
      [Sample.exitOrder (Sha256.checksum.hexdigest [])] := by
  intro h
  have hresult := h _ rfl rfl
  exact absurd (hresult.2 (by decide +kernel) (by decide +kernel) (by decide +kernel)).2
    (List.cons_ne_nil _ _)

end FxStrategyLab
