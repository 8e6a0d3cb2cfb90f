import FxStrategyLab.Adapter.Rows

/-!
# What a reconciliation answers

The ends of `_reconcile_rows` one by one: rows that are not the cycle's alone are
counted, rows that contradict the cycle give the unknown reconciliation without a
count, and rows that pass every check give the account as it is.
-/

namespace FxStrategyLab

variable {α β : Type}

theorem except_bind_eq_ok {x : Except V4Error α} {f : α → Except V4Error β}
    {b : β} : (x >>= f) = .ok b ↔ ∃ a, x = .ok a ∧ f a = .ok b := by
  cases x with
  | error e => exact ⟨nofun, fun ⟨_, h, _⟩ => nomatch h⟩
  | ok a =>
      constructor
      · intro h
        exact ⟨a, rfl, h⟩
      · rintro ⟨_, ha, h⟩
        cases ha
        exact h

theorem mem_of_mapM_ok {f : α → Except V4Error β} {rows : List α}
    {parsed : List β} (h : rows.mapM f = .ok parsed) {b : β} (hb : b ∈ parsed) :
    ∃ a ∈ rows, f a = .ok b := by
  induction rows generalizing parsed with
  | nil =>
      cases h
      simp at hb
  | cons a rows ih =>
      rw [List.mapM_cons] at h
      obtain ⟨b', ha, h⟩ := except_bind_eq_ok.mp h
      obtain ⟨parsed', hrows, h⟩ := except_bind_eq_ok.mp h
      cases h
      rcases List.mem_cons.mp hb with rfl | hb
      · exact ⟨a, by simp, ha⟩
      · obtain ⟨x, hx, hfx⟩ := ih hrows hb
        exact ⟨x, List.mem_cons_of_mem _ hx, hfx⟩

theorem requiredString_ok {value parsed : List Char} (h : requiredString value = .ok parsed) :
    parsed ≠ [] := by
  unfold requiredString at h
  split_ifs at h with hvalue
  cases h
  exact hvalue

theorem positiveInt_pos {value : Option ℚ} {n : Nat} (h : positiveInt value = .ok n) : 0 < n := by
  unfold positiveInt at h
  obtain ⟨q, _, h⟩ := except_bind_eq_ok.mp h
  split_ifs at h with hq
  cases h
  have hpos : 0 < q := by
    by_contra hnot
    exact hq (Or.inl (not_lt.mp hnot))
  have hnum : 0 < q.num := Rat.num_pos.mpr hpos
  omega

theorem parsePosition_ok {row : PositionPayload} {parsed : PositionRow}
    (h : parsePosition row = .ok parsed) : parsed.positionId ≠ [] ∧ 0 < parsed.size := by
  unfold parsePosition at h
  obtain ⟨price, _, h⟩ := except_bind_eq_ok.mp h
  split_ifs at h
  · cases h
  · obtain ⟨symbol, _, h⟩ := except_bind_eq_ok.mp h
    obtain ⟨positionId, hid, h⟩ := except_bind_eq_ok.mp h
    obtain ⟨side, _, h⟩ := except_bind_eq_ok.mp h
    obtain ⟨size, hsize, h⟩ := except_bind_eq_ok.mp h
    cases h
    exact ⟨requiredString_ok hid, positiveInt_pos hsize⟩

theorem parsePositions_ok {data : List PositionPayload} {positions : List PositionRow}
    (h : parsePositions data = .ok positions) :
    ∀ row ∈ positions, row.positionId ≠ [] ∧ 0 < row.size := by
  intro row hrow
  obtain ⟨payload, _, hparsed⟩ := mem_of_mapM_ok h hrow
  exact parsePosition_ok hparsed

section Ends

variable {cycleRef : Digest} {side : SignalDecision} {requestedSize : Nat}
variable {executions : List ExecutionRow} {positions : List PositionRow}
variable {activeOrders : List ActiveOrderRow}

/-- Some position or active order of the account is not the cycle's. -/
def ForeignRows (cycleRef : Digest) (executions : List ExecutionRow)
    (positions : List PositionRow) (activeOrders : List ActiveOrderRow) : Prop :=
  unownedPositions (ownedOpenRows cycleRef executions) positions ≠ [] ∨
    unownedActiveOrders cycleRef activeOrders ≠ []
deriving Decidable

/-- The checks that follow the ownership of the account. -/
def RowsConsistent (cycleRef : Digest) (side : SignalDecision) (requestedSize : Nat)
    (executions : List ExecutionRow) (positions : List PositionRow)
    (activeOrders : List ActiveOrderRow) : Prop :=
  positionsValid side requestedSize positions = true ∧
    closeRowsValid side requestedSize (ownedOpenRows cycleRef executions)
      (ownedCloseRows cycleRef executions) = true ∧
    activeOrdersValid (activeOrdersOf cycleRef .marketEntry activeOrders)
      (activeOrdersOf cycleRef .exactSizeOcoProtection activeOrders) = true
deriving Decidable

theorem reconcileRows_openInvalid
    (hopen : openRowsValid side requestedSize (ownedOpenRows cycleRef executions) = false) :
    reconcileRows cycleRef side requestedSize executions positions activeOrders =
      .ok .unknown := by
  simp [reconcileRows, hopen]

theorem reconcileRows_foreign
    (hopen : openRowsValid side requestedSize (ownedOpenRows cycleRef executions) = true)
    (hforeign : ForeignRows cycleRef executions positions activeOrders) :
    reconcileRows cycleRef side requestedSize executions positions activeOrders =
      .ok
        { snapshot := .unknown
          accountPositionCount := positions.length
          accountActiveOrderCount := activeOrders.length
          unownedPositionCount :=
            (unownedPositions (ownedOpenRows cycleRef executions) positions).length
          unownedActiveOrderCount := (unownedActiveOrders cycleRef activeOrders).length } := by
  unfold reconcileRows
  rw [if_neg (by simp [hopen]), if_pos (show _ ∨ _ from hforeign)]

theorem reconcileRows_inconsistent
    (hopen : openRowsValid side requestedSize (ownedOpenRows cycleRef executions) = true)
    (hforeign : ¬ForeignRows cycleRef executions positions activeOrders)
    (hrows : ¬RowsConsistent cycleRef side requestedSize executions positions activeOrders) :
    reconcileRows cycleRef side requestedSize executions positions activeOrders =
      .ok .unknown := by
  have hinvalid : positionsValid side requestedSize positions = false ∨
      closeRowsValid side requestedSize (ownedOpenRows cycleRef executions)
        (ownedCloseRows cycleRef executions) = false ∨
      activeOrdersValid (activeOrdersOf cycleRef .marketEntry activeOrders)
        (activeOrdersOf cycleRef .exactSizeOcoProtection activeOrders) = false := by
    by_contra hvalid
    push Not at hvalid
    exact hrows (by simpa [RowsConsistent] using hvalid)
  unfold reconcileRows
  rw [if_neg (by simp [hopen]), if_neg (show ¬(_ ∨ _) from hforeign), if_pos hinvalid]

def protectedSize (cycleRef : Digest) (activeOrders : List ActiveOrderRow) : Nat :=
  ((activeOrdersOf cycleRef .exactSizeOcoProtection activeOrders).head?.map
    ActiveOrderRow.size).getD 0

def openSize (positions : List PositionRow) : Nat :=
  (positions.map PositionRow.size).sum

/-- **Rows that pass.** The reconciliation is known and shows the account. -/
theorem reconcileRows_known
    (hopen : openRowsValid side requestedSize (ownedOpenRows cycleRef executions) = true)
    (hforeign : ¬ForeignRows cycleRef executions positions activeOrders)
    (hrows : RowsConsistent cycleRef side requestedSize executions positions activeOrders)
    (hparsed : ∀ row ∈ positions, row.positionId ≠ [] ∧ 0 < row.size) :
    ∃ r, reconcileRows cycleRef side requestedSize executions positions activeOrders = .ok r ∧
      r.accountPositionCount = positions.length ∧
      r.accountActiveOrderCount = activeOrders.length ∧
      r.unownedPositionCount = 0 ∧
      r.positionBundleTotal = (if positions = [] then none else some (openSize positions)) ∧
      r.snapshot.positionCount = (if positions = [] then 0 else 1) ∧
      r.snapshot.positionSide = (if positions = [] then none else some side) ∧
      r.snapshot.filledSize = openSize positions ∧
      r.snapshot.protectionSize = protectedSize cycleRef activeOrders ∧
      r.snapshot.protectionStatus =
        (if activeOrdersOf cycleRef .exactSizeOcoProtection activeOrders = [] then .none
          else protectionStatusOf (protectedSize cycleRef activeOrders)
            (openSize positions)) := by
  obtain ⟨hpositions, hclose, horders⟩ := hrows
  unfold reconcileRows
  rw [if_neg (by simp [hopen]), if_neg (show ¬(_ ∨ _) from hforeign),
    if_neg (by simp [hpositions, hclose, horders])]
  by_cases hempty : positions = []
  · subst hempty
    simp only [if_true]
    exact ⟨_, rfl, rfl, rfl, rfl, rfl, rfl, rfl, rfl, rfl, rfl⟩
  · simp only [hempty, if_false]
    have hcount : (positions.map fun row => (⟨row.positionId, row.size⟩ : PositionPart)) ≠ [] ∧
        (positions.map fun row => (⟨row.positionId, row.size⟩ : PositionPart)).length ≤ 10 := by
      simp only [positionsValid, Bool.and_eq_true, decide_eq_true_eq] at hpositions
      simp [hempty, hpositions.1.2]
    have hvalid : ∀ part ∈ positions.map fun row =>
        (⟨row.positionId, row.size⟩ : PositionPart), part.positionId ≠ [] ∧ 0 < part.size := by
      intro part hpart
      obtain ⟨row, hrow, rfl⟩ := List.mem_map.mp hpart
      exact hparsed row hrow
    have hbundle : V4GmoPositionBundle.ofParts
        (positions.map fun row => (⟨row.positionId, row.size⟩ : PositionPart)) =
        .ok ⟨_, hcount, hvalid⟩ := by
      rw [V4GmoPositionBundle.ofParts, dif_pos hcount, dif_pos hvalid]
    rw [hbundle]
    refine ⟨_, rfl, rfl, rfl, rfl, ?_, rfl, rfl, rfl, rfl, rfl⟩
    simp [V4GmoActualReconciliation.positionBundleTotal, V4GmoPositionBundle.totalSize,
      openSize, Function.comp_def]

end Ends

def AdapterErrors {α : Type} (x : Except V4Error α) : Prop :=
  ∀ e, x = .error e → e.exceptionClass = .adapter

namespace AdapterErrors

variable {α γ : Type}

theorem ok (a : α) : AdapterErrors (.ok a) :=
  fun _ h => nomatch h

theorem raised (label : String) : AdapterErrors (.error (adapterError label) : Except _ α) := by
  intro e h
  cases h
  rfl

theorem bind {x : Except V4Error α} {f : α → Except V4Error γ} (hx : AdapterErrors x)
    (hf : ∀ a, AdapterErrors (f a)) : AdapterErrors (x >>= f) := by
  intro e h
  cases x with
  | error e' =>
      cases h
      exact hx _ rfl
  | ok a => exact hf a e h

theorem mapM {f : α → Except V4Error γ} (hf : ∀ a, AdapterErrors (f a)) (rows : List α) :
    AdapterErrors (rows.mapM f) := by
  induction rows with
  | nil => exact ok []
  | cons a rows ih =>
      rw [List.mapM_cons]
      exact (hf a).bind fun _ => ih.bind fun _ => ok _

theorem ite {c : Prop} [Decidable c] {x y : Except V4Error α} (hx : AdapterErrors x)
    (hy : AdapterErrors y) : AdapterErrors (if c then x else y) := by
  split
  · exact hx
  · exact hy

end AdapterErrors

theorem requiredString_errors (value : List Char) : AdapterErrors (requiredString value) :=
  .ite (.raised _) (.ok _)

theorem requiredField_errors (value : Option α) : AdapterErrors (requiredField value) := by
  cases value with
  | none => exact .raised _
  | some a => exact .ok a

theorem requiredSide_errors (value : Option SignalDecision) :
    AdapterErrors (requiredSide value) :=
  (requiredField_errors value).bind fun _ => .ite (.ok _) (.raised _)

theorem requiredSettleType_errors (value : SettleType) :
    AdapterErrors (requiredSettleType value) := by
  cases value with
  | unstated => exact .raised _
  | other => exact .raised _
  | opening => exact .ok _
  | closing => exact .ok _

theorem positiveInt_errors (value : Option ℚ) : AdapterErrors (positiveInt value) :=
  (requiredField_errors value).bind fun _ => .ite (.raised _) (.ok _)

theorem parseExecutions_errors (data : List ExecutionPayload) :
    AdapterErrors (parseExecutions data) := by
  refine (AdapterErrors.mapM (fun row => ?_) data).bind fun _ => .ok _
  refine .ite (.ok _) (.ite (.ok _) ?_)
  refine (requiredString_errors _).bind fun _ => (requiredSettleType_errors _).bind fun _ =>
    (requiredSide_errors _).bind fun _ => (positiveInt_errors _).bind fun _ => ?_
  refine .ite ?_ (.ok _)
  exact (requiredField_errors _).bind fun _ => (requiredField_errors _).bind fun _ =>
    (requiredField_errors _).bind fun _ => .ok _

theorem parsePositions_errors (data : List PositionPayload) :
    AdapterErrors (parsePositions data) := by
  refine .mapM (fun row => (requiredField_errors _).bind fun _ => ?_) data
  refine .ite (.raised _) ?_
  exact (requiredField_errors _).bind fun _ => (requiredString_errors _).bind fun _ =>
    (requiredSide_errors _).bind fun _ => (positiveInt_errors _).bind fun _ => .ok _

theorem parseActiveOrders_errors (data : List ActiveOrderPayload) :
    AdapterErrors (parseActiveOrders data) :=
  .mapM (fun _ => (requiredField_errors _).bind fun _ => (requiredString_errors _).bind fun _ =>
    (positiveInt_errors _).bind fun _ => .ok _) data

theorem ofParts_errors (parts : List PositionPart) :
    AdapterErrors (V4GmoPositionBundle.ofParts parts) := by
  unfold V4GmoPositionBundle.ofParts
  split_ifs
  · exact .ok _
  · exact .raised _
  · exact .raised _

theorem reconcileRows_errors (cycleRef : Digest) (side : SignalDecision) (requestedSize : Nat)
    (executions : List ExecutionRow) (positions : List PositionRow)
    (activeOrders : List ActiveOrderRow) :
    AdapterErrors
      (reconcileRows cycleRef side requestedSize executions positions activeOrders) := by
  refine .ite (.ok _) (.ite (.ok _) (.ite (.ok _) ?_))
  refine .ite (.ok _) ?_
  exact (ofParts_errors _).bind fun _ => .ok _

end FxStrategyLab
