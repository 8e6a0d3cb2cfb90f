import FxStrategyLab.Path.Dispatch

/-!
# One market close for each cycle

The emergency exit and the time exit of a cycle are different actions, so the
primary key of `attempts` does not keep one from following the other.  The
transport does, in its memory: once a close was tried it lets no other pass.  A
transport of an activation that starts anew lets no close pass either, as it has
no entry key and the entry cannot be attempted twice; a transport of a recovered
exit starts with the entry key and without that memory.
-/

namespace FxStrategyLab

open Library

variable {β : Type}

/-- The cycle whose position a call is to close at the market. -/
def PathOp.closes? : PathOp → Option Digest
  | performRiskReducingOnce _ plan _ _ =>
      if plan.action ∈ V4GmoAction.positionClose then some plan.cycleRef else none
  | _ => none

/-- The cycle whose market close a call dispatches. -/
def PathRun.closed? (r : PathRun β) (path : V4GmoCoordinatedActualPath β)
    (call : PathCall) : Option Digest :=
  if r.holds call.op ∧ r.world.transport.postsDispatched <
      (r.execute path call).2.transport.postsDispatched then
    call.op.closes?
  else none

/-- A run together with the cycles for which a close was dispatched that is not
rejected on record. -/
structure CloseRun (β : Type) where
  run : PathRun β
  standing : List Digest := []

/-- One call of a run: a dispatched close stands while its attempt is pending. -/
def closeStep (path : V4GmoCoordinatedActualPath β) (s : CloseRun β) (call : PathCall) :
    CloseRun β where
  run := pathStep path s.run call
  standing :=
    match s.run.closed? path call with
    | none => s.standing
    | some cycleRef =>
        if (s.run.execute path call).2.store.ledger.pendingTransportAttempt = none then
          s.standing
        else cycleRef :: s.standing

/-- The call dispatches no close of a cycle that has one standing. -/
def closesOnce (path : V4GmoCoordinatedActualPath β) (s : CloseRun β)
    (call : PathCall) : Prop :=
  ∀ cycleRef ∈ s.run.closed? path call, cycleRef ∉ s.standing

def recoversUnclosed (s : CloseRun β) (call : PathCall) : Prop :=
  ∀ scope, call.op = .restartRecovered scope → scope.cycleId ∉ s.standing

/-- What a call that performs the action of a plan does to the transport and to the
attempts. -/
structure PostOrdered (plan : V4GmoActionPlan) (w w' : PathWorld β) : Prop where
  posts : PostsFor plan w.transport w'.transport
  quiet : w'.transport.memory = w.transport.memory ∧
      w'.transport.postsDispatched = w.transport.postsDispatched ∨
    plan.attemptKey ∉ w.store.ledger.attemptKeys
  entered : w.transport.postsDispatched < w'.transport.postsDispatched →
    plan.action ∈ V4GmoAction.positionClose → w.store.ledger.stampedAttempted →
    (plan.cycleRef, V4GmoAction.marketEntry) ∈ w'.store.ledger.attemptKeys

theorem memory_of_within {sha : Sha256} {eff : PathEffects} {α : Type} {x : Path β α}
    (hposting : ¬eff.posting) (hx : Within (pathChange sha eff) x) (w : PathWorld β) :
    (x.run w).2.transport.memory = w.transport.memory :=
  (hx w).transport.resolve_right hposting

theorem PostOrdered.of_quiet {plan : V4GmoActionPlan} {w w' : PathWorld β}
    (hmemory : w'.transport.memory = w.transport.memory)
    (hposts : w'.transport.postsDispatched = w.transport.postsDispatched) :
    PostOrdered plan w w' where
  posts := by
    simp only [TransportState.memory, Prod.mk.injEq] at hmemory
    exact .of_marks hmemory.1 hmemory.2.1 (fun h => hmemory.2.2.trans h) hposts
  quiet := Or.inl ⟨hmemory, hposts⟩
  entered hlt := absurd hlt (by omega)

theorem PostOrdered.after {sha : Sha256} {plan : V4GmoActionPlan} {w w₁ w' : PathWorld β}
    (hwithin : (pathChange sha haltsAndBinds).rel w w₁)
    (hposts : w₁.transport.postsDispatched = w.transport.postsDispatched)
    (h : PostOrdered plan w₁ w') : PostOrdered plan w w' := by
  have hmemory : w₁.transport.memory = w.transport.memory :=
    hwithin.transport.resolve_right id
  have hbefore : PostOrdered plan w w₁ := .of_quiet hmemory hposts
  refine ⟨(postsFor plan).trans hbefore.posts h.posts, ?_, ?_⟩
  · rcases h.quiet with ⟨hmemory', hposts'⟩ | hfree
    · exact Or.inl ⟨hmemory'.trans hmemory, hposts'.trans hposts⟩
    · exact Or.inr fun hin => hfree (attemptKeys_subset hwithin.store.1 hin)
  · intro hlt hclose hstamped
    exact h.entered (hposts.trans_lt hlt) hclose
      (stampedAttempted_of_writes hwithin.store.1 hstamped)

namespace V4GmoCoordinatedActualPath

open Path

theorem dispatchGuarded_postsFor (sha : Sha256) {plan : V4GmoActionPlan} {dispatchedBefore : Nat}
    {body : Path β V4GmoPrivateOutcome}
    (hbody : Within ((postsFor plan).through PathWorld.transport) body) :
    Within ((postsFor plan).through PathWorld.transport)
      (dispatchGuarded dispatchedBefore body) := by
  have hquiet : ∀ {x : Path β V4GmoPrivateOutcome}, Within (pathChange sha notPosting) x →
      Within ((postsFor plan).through PathWorld.transport) x := postsFor_of_notPosting
  refine hbody.attempt fun e => hquiet ?_
  refine (within_onStore (within_unknownHaltLatched trivial)).bind fun halted => ?_
  refine Within.ite (Within.raise e) ((Within.gets _).bind fun dispatched => ?_)
  refine Within.ite ?_ (Within.raise _)
  exact (within_onStore (within_engageUnknownHalt trivial)).bind fun _ => Within.raise e

end V4GmoCoordinatedActualPath

/-- **Step.** A process that comes to its dispatch in this way keeps the order. -/
theorem Prepares.ordered {path : V4GmoCoordinatedActualPath β} {plan : V4GmoActionPlan}
    {x : Path β V4GmoPrivateOutcome} (hx : Prepares path plan x) (w : PathWorld β) :
    PostOrdered plan w (x.run w).2 := by
  induction hx generalizing w with
  | early hsilent hwithin =>
      exact .of_quiet (memory_of_within id hwithin w) (posts_eq_of_within id hwithin w)
  | step hsilent hwithin hf ih =>
      rename_i α x f
      refine Process.run_bind_ends (fun a w₁ hreturned => ?_) ?_
      · have hbefore := hwithin w
        have hposts := posts_eq_of_within id hwithin w
        rw [hreturned] at hbefore hposts
        exact .after hbefore hposts (ih a w₁)
      · exact .of_quiet (memory_of_within id hwithin w) (posts_eq_of_within id hwithin w)
  | dispatch hrecord herrors hstore hsilent hwithin hposts hrecorded =>
      rename_i record body
      have hcommit := within_recording (β := β) hstore
      have hmemory := memory_of_within id hcommit w
      have hcount := posts_eq_of_within id hcommit w
      refine Process.run_bind_ends (fun attempt w₁ hreturned => ?_)
        (.of_quiet hmemory hcount)
      have hattempt := hrecord _ _ _ (Path.onStore_returned hreturned).1
      rw [hreturned] at hmemory hcount
      have hdispatch : Within ((postsFor plan).through PathWorld.transport)
          (V4GmoCoordinatedActualPath.dispatchPrepared plan attempt (body attempt)) := by
        refine Within.ite (postsFor_of_notPosting
          (path.within_haltAndRefuse trivial _)) ((Within.gets _).bind fun _ => ?_)
        exact V4GmoCoordinatedActualPath.dispatchGuarded_postsFor path.sha (hposts attempt)
      have hafter := path.within_dispatchPrepared (Or.inl rfl) plan attempt
        (hwithin attempt) w₁
      have hbefore : PostOrdered plan w w₁ := .of_quiet hmemory hcount
      refine ⟨(postsFor plan).trans hbefore.posts (hdispatch w₁), Or.inr hattempt.free, ?_⟩
      intro _ hclose hstamped
      exact attemptKeys_subset hafter.store.1 (hattempt.entered hclose hstamped)

def PathOp.newScope? : PathOp → Option RuntimeScope
  | restart scope => some (.activated scope)
  | restartRecovered scope => some (.recovered scope)
  | _ => none

/-- The memory of the transport stays, or is that of a new process of the scope. -/
def renews (scope? : Option RuntimeScope) : Frame TransportState where
  rel t t' := t'.memory = t.memory ∨
    ∃ scope, scope? = some scope ∧ t'.memory = (scope, scope.initialPostKeys, false)
  refl _ := Or.inl rfl
  trans {t t' t''} h₁ h₂ := by
    rcases h₂ with h₂ | h₂
    · rw [h₂]
      exact h₁
    · exact Or.inr h₂

/-- A restart writes to the ledger and leaves the memory of the transport alone or
builds a new one for its scope. -/
theorem restart_renews (path : V4GmoCoordinatedActualPath β) {op : PathOp}
    (hop : op.restarts = true) :
    Within (((storeWrites path.sha fun _ => True).through PathWorld.store).both
      ((renews op.newScope?).through PathWorld.transport)) (op.exec path) := by
  have hquiet : ∀ {α : Type} {x : Path β α}, Within (pathChange path.sha notPosting) x →
      Within (((storeWrites path.sha fun _ => True).through PathWorld.store).both
        ((renews op.newScope?).through PathWorld.transport)) x :=
    fun hx w => ⟨(hx w).store, Or.inl (memory_of_within id hx w)⟩
  have hopen : Within (pathChange path.sha notPosting)
      (Path.onStore (openStore true) : Path β Unit) :=
    Path.within_onStore (within_openStore trivial _)
  have hfresh : ∀ scope, op.newScope? = some scope →
      Within (((storeWrites path.sha fun _ => True).through PathWorld.store).both
        ((renews op.newScope?).through PathWorld.transport))
        (V4GmoCoordinatedActualPath.freshProcess scope : Path β Unit) :=
    fun scope hscope => Within.modify fun w =>
      ⟨(storeWrites path.sha fun _ => True).refl _, Or.inr ⟨scope, hscope, rfl⟩⟩
  cases op with
  | restart scope =>
      exact (hquiet hopen).bind fun _ => (hfresh _ rfl).bind fun _ => Within.pure _
  | restartRecovered scope =>
      refine Within.bind ?_ fun _ => Within.pure _
      refine (hquiet hopen).bind fun _ => (hquiet Path.within_wallNow).bind fun nowUtc => ?_
      refine (hquiet (Path.within_require _ _)).bind fun _ => ?_
      refine (hquiet (Path.within_requireTimely _ _)).bind fun _ => ?_
      exact (hquiet Path.within_outside).bind fun _ => hfresh _ rfl
  | _ => cases hop

/-- No close stands that the transport could follow up: the cycles of the standing
closes were entered, and the transport of such a cycle has marked its close or never
learns of its entry. -/
structure CloseRun.Ordered (s : CloseRun β) : Prop where
  stamped : s.run.world.store.ledger.stampedAttempted
  entered : ∀ cycleRef ∈ s.standing,
    (cycleRef, V4GmoAction.marketEntry) ∈ s.run.world.store.ledger.attemptKeys
  closed : s.run.world.transport.scope.cycleRef ∈ s.standing →
    s.run.world.transport.marketCloseAttempted = true ∨
      entryPostKey s.run.world.transport.scope.cycleRef ∉ s.run.world.transport.postKeys

theorem pathStep_world {path : V4GmoCoordinatedActualPath β} {r : PathRun β}
    {call : PathCall} (hholds : r.holds call.op) :
    (pathStep path r call).world.store = (r.execute path call).2.store ∧
      (pathStep path r call).world.transport = (r.execute path call).2.transport := by
  rw [pathStep, if_pos hholds]
  unfold PathRun.next
  dsimp only
  split <;> exact ⟨rfl, rfl⟩

theorem closed?_eq_some {path : V4GmoCoordinatedActualPath β} {r : PathRun β}
    {call : PathCall} {cycleRef : Digest} (h : r.closed? path call = some cycleRef) :
    r.holds call.op ∧
      r.world.transport.postsDispatched <
        (r.execute path call).2.transport.postsDispatched ∧
      call.op.closes? = some cycleRef := by
  unfold PathRun.closed? at h
  split at h
  · rename_i hcond
    exact ⟨hcond.1, hcond.2, h⟩
  · cases h

theorem PathOp.closes?_eq_some {op : PathOp} {cycleRef : Digest}
    (h : op.closes? = some cycleRef) :
    op.performs = true ∧ ∃ plan, op.plan? = some plan ∧ plan.cycleRef = cycleRef ∧
      plan.action ∈ V4GmoAction.positionClose := by
  cases op with
  | performRiskReducingOnce signalFingerprint plan evidence marketStatus =>
      simp only [PathOp.closes?] at h
      split at h
      · rename_i hclose
        cases h
        exact ⟨rfl, plan, rfl, rfl, hclose⟩
      · cases h
  | _ => cases h

theorem PathRun.execute_ordered (path : V4GmoCoordinatedActualPath β) (r : PathRun β)
    {call : PathCall} (hperforms : call.op.performs = true) :
    ∃ plan, call.op.plan? = some plan ∧
      PostOrdered plan (r.world.beforeCall call) (r.execute path call).2 := by
  obtain ⟨x, plan, hplan, hprepares, hexec⟩ := call.op.exec_prepares path hperforms
  refine ⟨plan, hplan, ?_⟩
  rw [PathRun.execute, hexec, Process.run_bind_pure]
  exact hprepares.ordered _

/-- A dispatched close leaves its mark in the transport of its cycle, which has none
before. -/
theorem closed?_posts {path : V4GmoCoordinatedActualPath β} {r : PathRun β}
    {call : PathCall} {cycleRef : Digest} (h : r.closed? path call = some cycleRef) :
    r.world.transport.scope.cycleRef = cycleRef ∧
      r.world.transport.marketCloseAttempted = false ∧
      entryPostKey cycleRef ∈ r.world.transport.postKeys ∧
      (r.execute path call).2.transport.marketCloseAttempted = true ∧
      (r.world.store.ledger.stampedAttempted →
        (cycleRef, V4GmoAction.marketEntry) ∈
          (r.execute path call).2.store.ledger.attemptKeys) := by
  obtain ⟨-, hlt, hcloses⟩ := closed?_eq_some h
  obtain ⟨hperforms, plan, hplan, rfl, hclose⟩ := PathOp.closes?_eq_some hcloses
  obtain ⟨plan', hplan', hordered⟩ := r.execute_ordered path hperforms
  cases hplan.symm.trans hplan'
  obtain ⟨hcycle, hopen, hentered, hmarked⟩ := hordered.posts.closes hlt hclose
  have hcycle : plan.cycleRef = r.world.transport.scope.cycleRef := hcycle
  exact ⟨hcycle.symm, hopen, hcycle ▸ hentered, hmarked, hordered.entered hlt hclose⟩

theorem mem_standing_closeStep {path : V4GmoCoordinatedActualPath β} {s : CloseRun β}
    {call : PathCall} {cycleRef : Digest}
    (h : cycleRef ∈ (closeStep path s call).standing) :
    cycleRef ∈ s.standing ∨ s.run.closed? path call = some cycleRef := by
  unfold closeStep at h
  dsimp only at h
  split at h
  · exact Or.inl h
  · rename_i closed hclosed
    split at h
    · exact Or.inl h
    · rcases List.mem_cons.mp h with rfl | h
      · exact Or.inr hclosed
      · exact Or.inl h

theorem PathRun.execute_memory (path : V4GmoCoordinatedActualPath β) (r : PathRun β)
    (call : PathCall) :
    (writes path.sha fun _ => True).rel r.world.store.ledger
        (r.execute path call).2.store.ledger ∧
      (call.op.performs = true ∨
        (renews call.op.newScope?).rel r.world.transport
          (r.execute path call).2.transport) := by
  by_cases hrestart : call.op.restarts = true
  · obtain ⟨hstore, hrenews⟩ := restart_renews path hrestart (r.world.beforeCall call)
    exact ⟨hstore.1, Or.inr hrenews⟩
  · have hchange := call.op.within_exec path (by simpa using hrestart)
      (r.world.beforeCall call)
    refine ⟨writes_mono (fun _ _ => trivial) hchange.store.1, ?_⟩
    rcases hchange.transport with hmemory | hperforms
    · exact Or.inr (Or.inl hmemory)
    · exact Or.inl hperforms

/-- **Step.** A call that starts no recovered exit of a closed cycle keeps the
invariant. -/
theorem closeStep_ordered (path : V4GmoCoordinatedActualPath β) (s : CloseRun β)
    (call : PathCall) (h : s.Ordered) (hrecovers : recoversUnclosed s call) :
    (closeStep path s call).Ordered := by
  by_cases hholds : s.run.holds call.op
  swap
  · -- nothing is called
    have hrun : pathStep path s.run call = s.run := if_neg hholds
    have hclosed : s.run.closed? path call = none := if_neg fun hcond => hholds hcond.1
    have hsame : closeStep path s call = s := by
      simp only [closeStep, hrun, hclosed]
    rw [hsame]
    exact h
  obtain ⟨hstore, htransport⟩ := @pathStep_world _ path _ _ hholds
  obtain ⟨hwrites, hmemory⟩ := s.run.execute_memory path call
  have hkeys := attemptKeys_subset hwrites
  have hstep : (closeStep path s call).run = pathStep path s.run call := rfl
  refine ⟨?_, fun cycleRef hstands => ?_, fun hstands => ?_⟩
  · rw [hstep, hstore]
    exact stampedAttempted_of_writes hwrites h.stamped
  · rw [hstep, hstore]
    rcases mem_standing_closeStep hstands with hstands | hclosed
    · exact hkeys (h.entered cycleRef hstands)
    · exact (closed?_posts hclosed).2.2.2.2 h.stamped
  · rw [hstep, htransport] at hstands ⊢
    rcases mem_standing_closeStep hstands with hstands | hclosed
    swap
    · exact Or.inl (closed?_posts hclosed).2.2.2.1
    rcases hmemory with hperforms | hsame | ⟨scope, hscope, hnew⟩
    · -- the call performs an action
      obtain ⟨plan, -, hordered⟩ := s.run.execute_ordered path hperforms
      have hposts : PostsFor plan s.run.world.transport
          (s.run.execute path call).2.transport := hordered.posts
      rw [hposts.scope] at hstands ⊢
      rcases h.closed hstands with hmarked | hnot
      · exact Or.inl (hposts.closed hmarked)
      · refine Or.inr fun hin => ?_
        rcases hposts.entered hin with hin | ⟨hentry, hcycle⟩
        · exact hnot hin
        · -- the entry of a closed cycle was attempted before
          rcases hordered.quiet with ⟨hsame, -⟩ | hfree
          · simp only [TransportState.memory, Prod.mk.injEq] at hsame
            rw [hsame.2.1] at hin
            exact hnot hin
          · apply hfree
            rw [V4GmoActionPlan.attemptKey, hentry, hcycle]
            exact h.entered _ hstands
    · simp only [TransportState.memory, Prod.mk.injEq] at hsame
      obtain ⟨hscope, hpostKeys, hmarked⟩ := hsame
      rw [hscope] at hstands ⊢
      rw [hpostKeys, hmarked]
      exact h.closed hstands
    · -- a new process
      simp only [TransportState.memory, Prod.mk.injEq] at hnew
      obtain ⟨hnewScope, hpostKeys, -⟩ := hnew
      rw [hnewScope] at hstands ⊢
      rw [hpostKeys]
      right
      cases hop : call.op with
      | restart activated =>
          rw [hop] at hscope
          cases hscope
          simp [RuntimeScope.initialPostKeys]
      | restartRecovered recovered =>
          rw [hop] at hscope
          cases hscope
          exact absurd hstands (hrecovers recovered hop)
      | _ =>
          rw [hop] at hscope
          cases hscope

theorem CloseRun.Ordered.closesOnce {path : V4GmoCoordinatedActualPath β} {s : CloseRun β}
    {call : PathCall} (h : s.Ordered) : closesOnce path s call := by
  intro cycleRef hclosed hstands
  obtain ⟨hcycle, hopen, hentered, -⟩ := closed?_posts hclosed
  rw [← hcycle] at hstands hentered
  rcases h.closed hstands with hmarked | hnot
  · rw [hmarked] at hopen
    cases hopen
  · exact hnot hentered

/-- **At most one market close for each cycle.** In a run in which no recovered exit is
started for a cycle with a close standing, no call dispatches a second close of a cycle
whose earlier one is not rejected on record. -/
theorem market_close_once (path : V4GmoCoordinatedActualPath β)
    (scope : V4ActivatedRuntimeScope) (broker : β) (calls : List PathCall)
    (hrecovers : MeetsAlong (closeStep path) recoversUnclosed
      { run := .start scope broker } calls) :
    MeetsAlong (closeStep path) (closesOnce path) { run := .start scope broker } calls :=
  meetsAlong_of_invariant (closeStep_ordered path) (fun _ _ h _ => h.closesOnce)
    { stamped := fun _ hrow => absurd hrow List.not_mem_nil
      entered := fun _ hstands => absurd hstands List.not_mem_nil
      closed := fun hstands => absurd hstands List.not_mem_nil } hrecovers

namespace Sample

def entryExecution : ExecutionPayload where
  symbol := .usdJpy
  clientOrderId := v4GmoClientOrderId (cycleRef 0) .marketEntry
  positionId := ['1']
  settleType := .opening
  side := some .buy
  size := some 1000
  lossGain := none
  fee := none
  settledSwap := none

def openPosition : PositionPayload where
  symbol := some .usdJpy
  positionId := ['1']
  side := some .buy
  size := some 1000
  price := some 150

def protectionOrder : ActiveOrderPayload where
  symbol := some .usdJpy
  clientOrderId := v4GmoClientOrderId (cycleRef 0) .exactSizeOcoProtection
  settleType := .closing
  size := some 1000

/-- A broker that accepts every POST, whose state counts them.  It fills the entry at
once and cancels the protection at once, but goes on to show the position after its
close. -/
def laggingBroker : Broker Nat where
  latestExecutions posts := (.envelope 0 (if posts = 0 then [] else [entryExecution]), posts)
  openPositions posts := (.envelope 0 (if posts = 0 then [] else [openPosition]), posts)
  activeOrders posts := (.envelope 0 (if posts = 2 then [protectionOrder] else []), posts)
  post _ posts := (.envelope 0 (), posts + 1)
  publicStatus posts := (.open_, posts)
  publicTicker posts := (⟨150, 150 + 1 / 1000, monday, true⟩, posts)

/-- What the reads of that account say after the entry, with the protection or
without. -/
def openReconciliation (activeOrders : List ActiveOrderPayload) :
    V4GmoActualReconciliation :=
  let rows : Except V4Error V4GmoActualReconciliation := do
    let executions ← parseExecutions [entryExecution]
    let positions ← parsePositions [openPosition]
    let orders ← parseActiveOrders activeOrders
    reconcileRows (cycleRef 0) .buy 1000 executions positions orders
  match rows with
  | .ok reconciliation => reconciliation
  | .error _ => .unknown

def openEvidence (objectId : Nat) (activeOrders : List ActiveOrderPayload)
    (milliseconds : Nat) : V4AuthoritativeReconciliationEvidence :=
  evidence 0 objectId (openReconciliation activeOrders) (monotonicMilliseconds milliseconds)

def exitPlan (action : V4GmoAction) (haction : action ≠ .exactSizeOcoProtection) :
    V4GmoActionPlan where
  cycleRef := cycleRef 0
  action
  side := .buy
  requestedSize := 1000
  protectionContractHash := none
  routeSafeLabel := action.routeSafeLabel
  cycleRef_hex := Sha256.checksum.hexdigest_hex _
  side_directional := SignalDecision.buy_directional
  requestedSize_pos := size_pos
  protection_only := by simp [haction]

def protectionPlan : V4GmoExactProtectionPlan where
  positionSide := .buy
  settlementSide := .sell
  exactFilledSize := 1000
  takeProfitPrice := 6009 / 40
  stopLossPrice := 2997 / 20
  contractHash := h11V4GmoProtectionContractHash
  side_directional := SignalDecision.buy_directional
  settlement_opposite := rfl
  size_bounds := by decide
  prices_pos := by norm_num
  contract_frozen := rfl

def protectionActionPlan : V4GmoActionPlan where
  cycleRef := cycleRef 0
  action := .exactSizeOcoProtection
  side := .buy
  requestedSize := 1000
  protectionContractHash := some h11V4GmoProtectionContractHash
  routeSafeLabel := V4GmoAction.exactSizeOcoProtection.routeSafeLabel
  cycleRef_hex := Sha256.checksum.hexdigest_hex _
  side_directional := SignalDecision.buy_directional
  requestedSize_pos := size_pos
  protection_only := by decide

def recoveryBase : G075RecoveryScope where
  generationDigest := generation.digest
  reviewedFilesDigest := generation.implementationDigest
  releaseCapabilityDigest := generation.operatorSelectionDigest
  reconciliationArtifactDigest := generation.digest
  cycleId := cycleRef 0
  symbol := "USD_JPY"
  quantity := 1000
  side := .buy
  expiresAtUtc := at_ 1830
  ownershipExact := true
  quantityMatches := true
  protectionConfirmed := true
  actionKey := generation.operatorSelectionDigest
  scopeDigest := []

def recoveryScope : G075RecoveryScope :=
  { recoveryBase with scopeDigest := Sha256.checksum.prefixed recoveryBase.canonicalBase }

def marketOpen (objectId milliseconds : Nat) : Path.V4GmoPublicMarketStatusEvidence where
  objectId
  generationDigest := generation.digest
  status := .open_
  issuedMonotonic := monotonicMilliseconds milliseconds

def reconcile (delays : List Nat) : PathCall where
  op := .reconcileOnceFixed (cycleRef 0) .buy 1000
  delays

def recoverCarry (evidence : V4AuthoritativeReconciliationEvidence) : PathCall where
  op := .recoverPendingTransportAndCarryOnce (cycleRef 0) evidence

def enterAndProtect : List PathCall :=
  [{ op := .reserveEntryCycle (intent 0) (at_ 1) },
    { op := .heartbeat (at_ 1) },
    reconcile [],
    { op := .recordCanaryEntryPreflight (fingerprint 0) (cycleRef 0) 150 (150 + 1 / 1000)
        (evidence 0 0 flatReconciliation (monotonicMilliseconds 1650))
      wallReadings := [at_ 2] },
    { op := .performMarketOnce (fingerprint 0) (marketPlan 0), wallReadings := [at_ 3] },
    reconcile [],
    recoverCarry (openEvidence 1 [] 4950),
    { op := .prepareExactProtectionPlan (fingerprint 0) (openEvidence 2 [] 4950) },
    { op := .performExactProtectionOnce (fingerprint 0) protectionActionPlan protectionPlan
        (openEvidence 3 [] 4950) },
    reconcile [],
    recoverCarry (openEvidence 4 [protectionOrder] 8250),
    { op := .confirmExactProtectionOnce (fingerprint 0)
        (openEvidence 5 [protectionOrder] 8250) }]

/-- Half an hour later the protection is cancelled and the position closed; the account
still shows the position. -/
def closeFirst : List PathCall :=
  [reconcile [monotonicSeconds 1800],
    { op := .performRiskReducingOnce (fingerprint 0)
        (exitPlan .cancelExactProtectionForTimeExit (by decide))
        (openEvidence 6 [protectionOrder] 1809900) (some (marketOpen 0 1809900))
      wallReadings := [at_ 1810] },
    reconcile [],
    recoverCarry (openEvidence 7 [] 1813200),
    { op := .performRiskReducingOnce (fingerprint 0)
        (exitPlan .positionSpecificEmergencyExit (by decide))
        (openEvidence 8 [] 1813200) none
      wallReadings := [at_ 1815] }]

def recoverExit : List PathCall :=
  [{ op := .restartRecovered recoveryScope, wallReadings := [at_ 1816] },
    { reconcile [] with wallReadings := [at_ 1816] },
    recoverCarry (openEvidence 9 [] 1815950)]

def closeAgain : PathCall where
  op := .performRiskReducingOnce (fingerprint 0)
    (exitPlan .positionSpecificTimeExit (by decide)) (openEvidence 10 [] 1815950)
    (some (marketOpen 1 1815950))
  wallReadings := [at_ 1819]

/-- The run up to that close. -/
def closedOnce : CloseRun Nat :=
  after (closeStep (path laggingBroker)) { run := .start (scope 0) 0 }
    (enterAndProtect ++ closeFirst ++ recoverExit)

end Sample

open Sample in
theorem market_close_once_recovered :
    MeetsAlong (closeStep (path laggingBroker)) (closesOnce (path laggingBroker))
      { run := .start (scope 0) 0 }
      (enterAndProtect ++
        [{ op := .restartRecovered recoveryScope, wallReadings := [at_ 1780] }]) := by
  refine market_close_once (path laggingBroker) (scope 0) 0 _ ?_
  rw [meetsAlong_append]
  refine ⟨by simp [enterAndProtect, reconcile, recoverCarry, recoversUnclosed], ?_, trivial⟩
  rintro scope ⟨⟩
  decide +kernel

open Sample in
/-- After an emergency exit that the broker has accepted, a recovered exit sends the time
exit of the same cycle. -/
theorem market_close_twice :
    ¬MeetsAlong (closeStep (path laggingBroker)) (closesOnce (path laggingBroker))
      { run := .start (scope 0) 0 }
      (enterAndProtect ++ closeFirst ++ recoverExit ++ [closeAgain]) := by
  rw [meetsAlong_append]
  rintro ⟨-, hlast, -⟩
  have hclosed : closedOnce.run.closed? (path laggingBroker) closeAgain =
      some (cycleRef 0) := by decide +kernel
  have hstands : cycleRef 0 ∈ closedOnce.standing := by decide +kernel
  exact hlast _ hclosed hstands

end FxStrategyLab
