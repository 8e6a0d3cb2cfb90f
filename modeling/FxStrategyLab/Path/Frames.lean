import FxStrategyLab.Path.Coordinated
import FxStrategyLab.Coordinator.Frames

/-!
# What the path can change

`PathEffects` says what a process of the path may do: the writes it may commit
to the ledger, whether it may send a POST, and whether it may replace the risk
file.  `pathChange` is the frame of the processes that do nothing else; their
clock does not go back, their trace grows, and the transport counts the POSTs
that the trace shows.  Each method of the path is placed in this frame once,
however it ends.
-/

namespace FxStrategyLab

open Library

variable {β : Type}

/-- What a process of the path may do. -/
structure PathEffects where
  allowed : LedgerWrite → Prop
  posting : Prop
  saving : Prop

def PathEvent.isDispatch : PathEvent → Bool
  | .dispatched _ => true
  | _ => false

def Clock.instants (clock : Clock) : List Instant :=
  clock.wall :: clock.wallReadings

/-- How a clock goes on: it does not go back, and it shows what it was to show. -/
structure Clock.Precedes (clock clock' : Clock) : Prop where
  monotonic : clock.monotonic ≤ clock'.monotonic
  instants : clock'.instants <:+ clock.instants

namespace Clock.Precedes

theorem refl (clock : Clock) : clock.Precedes clock :=
  ⟨le_rfl, List.suffix_rfl⟩

theorem trans {c c' c'' : Clock} (h₁ : c.Precedes c') (h₂ : c'.Precedes c'') : c.Precedes c'' :=
  ⟨h₁.monotonic.trans h₂.monotonic, h₂.instants.trans h₁.instants⟩

theorem elapse (clock : Clock) (duration : Nat) : clock.Precedes (clock.elapse duration) :=
  ⟨clock.le_elapse duration, List.suffix_rfl⟩

theorem read (clock : Clock) :
    clock.Precedes
      { clock with
        wall := clock.wallReadings.headD clock.wall
        wallReadings := clock.wallReadings.tail } := by
  refine ⟨le_rfl, ?_⟩
  unfold Clock.instants
  cases h : clock.wallReadings with
  | nil => exact List.suffix_rfl
  | cons instant later => exact List.suffix_cons _ _

end Clock.Precedes

def TransportState.withoutGate (t : TransportState) : TransportState :=
  { t with gate := {} }

def TransportState.memory (t : TransportState) : RuntimeScope × List PostKey × Bool :=
  (t.scope, t.postKeys, t.marketCloseAttempted)

/-- A change of the world within the given effects. -/
structure PathChange (sha : Sha256) (eff : PathEffects) (w w' : PathWorld β) : Prop where
  store : (storeWrites sha eff.allowed).rel w.store w'.store
  clock : w.clock.Precedes w'.clock
  transport : w'.transport.memory = w.transport.memory ∨ eff.posting
  trace : ∃ events, w'.trace = w.trace ++ events ∧
    (∀ event ∈ events, event.isDispatch = true → eff.posting) ∧
    w'.transport.postsDispatched =
      w.transport.postsDispatched + events.countP PathEvent.isDispatch
  risk : w'.riskFile = w.riskFile ∨ eff.saving

/-- `PathChange` as a frame. -/
def pathChange (sha : Sha256) (eff : PathEffects) : Frame (PathWorld β) where
  rel := PathChange sha eff
  refl w :=
    { store := (storeWrites sha eff.allowed).refl _
      clock := .refl _
      transport := Or.inl rfl
      trace := ⟨[], by simp, by simp, by simp⟩
      risk := Or.inl rfl }
  trans h₁ h₂ :=
    { store := (storeWrites sha eff.allowed).trans h₁.store h₂.store
      clock := h₁.clock.trans h₂.clock
      transport := by
        rcases h₁.transport with h | h
        · exact h₂.transport.imp_left fun h' => h'.trans h
        · exact Or.inr h
      trace := by
        obtain ⟨events₁, heq₁, hpost₁, hcount₁⟩ := h₁.trace
        obtain ⟨events₂, heq₂, hpost₂, hcount₂⟩ := h₂.trace
        refine ⟨events₁ ++ events₂, by rw [heq₂, heq₁, List.append_assoc], ?_,
          by rw [hcount₂, hcount₁, List.countP_append, Nat.add_assoc]⟩
        intro event hevent
        rcases List.mem_append.mp hevent with hevent | hevent
        · exact hpost₁ event hevent
        · exact hpost₂ event hevent
      risk := by
        rcases h₁.risk with h | h
        · exact h₂.risk.imp_left fun h' => h'.trans h
        · exact Or.inr h }

theorem pathChange_of_same {sha : Sha256} {eff : PathEffects} {w w' : PathWorld β}
    (hstore : w'.store = w.store) (htrace : w'.trace = w.trace)
    (htransport : w'.transport.withoutGate = w.transport.withoutGate)
    (hrisk : w'.riskFile = w.riskFile) (hclock : w.clock.Precedes w'.clock) :
    (pathChange sha eff).rel w w' where
  store := hstore ▸ (storeWrites sha eff.allowed).refl _
  clock := hclock
  transport := Or.inl (by
    show w'.transport.withoutGate.memory = w.transport.withoutGate.memory
    rw [htransport])
  trace := by
    have hposts : w'.transport.postsDispatched = w.transport.postsDispatched := by
      show w'.transport.withoutGate.postsDispatched = w.transport.withoutGate.postsDispatched
      rw [htransport]
    exact ⟨[], by simp [htrace], by simp, by simp [hposts]⟩
  risk := Or.inl hrisk

theorem posts_eq_of_within {sha : Sha256} {eff : PathEffects} {α : Type} {x : Path β α}
    (hposting : ¬eff.posting) (hx : Within (pathChange sha eff) x) (w : PathWorld β) :
    (x.run w).2.transport.postsDispatched = w.transport.postsDispatched := by
  obtain ⟨events, -, hpost, hcount⟩ := (hx w).trace
  have hnone : events.countP PathEvent.isDispatch = 0 := by
    rw [List.countP_eq_zero]
    intro event hevent hdispatch
    exact hposting (hpost event hevent hdispatch)
  rw [hcount, hnone, Nat.add_zero]

namespace Path

section Primitives

variable {sha : Sha256} {eff : PathEffects} {α : Type}

theorem within_refuse (e : V4Error) : Within (pathChange sha eff) (refuse e : Path β α) := by
  refine Within.bind ?_ fun _ => Within.raise e
  exact Within.modify fun _ => pathChange_of_same rfl rfl rfl rfl (.refl _)

theorem within_require (c : Prop) [Decidable c] (e : V4Error) :
    Within (pathChange sha eff) (require c e : Path β Unit) :=
  Within.ite (Within.pure ()) (within_refuse e)

theorem within_requireTimely (c : Prop) [Decidable c] (e : V4Error) :
    Within (pathChange sha eff) (requireTimely c e : Path β Unit) :=
  within_require c _

theorem within_ofResult (x : Except V4Error α) :
    Within (pathChange sha eff) (ofResult x : Path β α) := by
  cases x with
  | ok a => exact Within.pure a
  | error e => exact within_refuse e

theorem within_onStore {x : Store α} (hx : Within (storeWrites sha eff.allowed) x) :
    Within (pathChange sha eff) (onStore x : Path β α) := by
  refine Within.attempt (fun w => ?_) fun e => within_refuse e
  rw [Process.run_zoom]
  exact
    { store := hx w.store
      clock := .refl _
      transport := Or.inl rfl
      trace := ⟨[], by simp, by simp, by simp⟩
      risk := Or.inl rfl }

theorem within_outside : Within (pathChange sha eff) (outside : Path β Unit) := by
  intro w
  simp only [Process.run, outside]
  split <;> exact pathChange_of_same rfl rfl rfl rfl (.refl _)

theorem within_note {event : PathEvent} (hevent : event.isDispatch = false) :
    Within (pathChange sha eff) (note event : Path β Unit) := by
  refine Within.modify fun w => ?_
  exact
    { store := (storeWrites sha eff.allowed).refl _
      clock := .refl _
      transport := Or.inl rfl
      trace := ⟨[event], rfl, by simp [hevent], by simp [hevent]⟩
      risk := Or.inl rfl }

theorem within_monotonicNow : Within (pathChange sha eff) (monotonicNow : Path β Monotonic) :=
  fun w => pathChange_of_same rfl rfl rfl rfl (.elapse w.clock 0)

theorem within_wallNow : Within (pathChange sha eff) (wallNow : Path β Instant) :=
  fun w => pathChange_of_same rfl rfl rfl rfl (.read w.clock)

theorem within_waitFor (duration : Nat) :
    Within (pathChange sha eff) (waitFor duration : Path β Unit) := by
  refine within_outside.bind fun _ => Within.modify fun w => ?_
  exact pathChange_of_same rfl rfl rfl rfl (.elapse w.clock duration)

theorem within_modify_same {f : PathWorld β → PathWorld β}
    (hf : ∀ w, (f w).store = w.store ∧ (f w).trace = w.trace ∧
      (f w).transport.withoutGate = w.transport.withoutGate ∧
      (f w).riskFile = w.riskFile ∧ (f w).clock = w.clock) :
    Within (pathChange sha eff) (Process.modify f : Path β Unit) :=
  Within.modify fun w => pathChange_of_same (hf w).1 (hf w).2.1 (hf w).2.2.1
    (hf w).2.2.2.1 (by rw [(hf w).2.2.2.2]; exact .refl _)

theorem within_modifyGate {f : TransportState → TransportState}
    (hf : ∀ t, (f t).withoutGate = t.withoutGate) :
    Within (pathChange sha eff) (modifyTransport f : Path β Unit) :=
  within_modify_same fun w => ⟨rfl, rfl, hf w.transport, rfl, rfl⟩

theorem within_modifyTransport {f : TransportState → TransportState}
    (hposting : eff.posting) (hf : ∀ t, (f t).postsDispatched = t.postsDispatched) :
    Within (pathChange sha eff) (modifyTransport f : Path β Unit) :=
  Within.modify fun w =>
    { store := (storeWrites sha eff.allowed).refl _
      clock := .refl _
      transport := Or.inr hposting
      trace := ⟨[], by simp, by simp, by simp [hf]⟩
      risk := Or.inl rfl }

theorem within_modifyAdapter (f : AdapterState → AdapterState) :
    Within (pathChange sha eff) (modifyAdapter f : Path β Unit) :=
  within_modify_same fun _ => ⟨rfl, rfl, rfl, rfl, rfl⟩

theorem within_countDispatch (request : V4GmoPrivateRequest) (hposting : eff.posting) :
    Within (pathChange sha eff) (countDispatch request : Path β Unit) :=
  Within.modify fun _ =>
    { store := (storeWrites sha eff.allowed).refl _
      clock := .refl _
      transport := Or.inr hposting
      trace := ⟨[.dispatched request], rfl, fun _ _ _ => hposting, rfl⟩
      risk := Or.inl rfl }

theorem within_receive (ask : β → PrivateAnswer α × β) :
    Within (pathChange sha eff) (receive ask : Path β (PrivateAnswer α)) :=
  fun _ => pathChange_of_same rfl rfl rfl rfl (.refl _)

end Primitives

section Transport

variable {sha : Sha256} {eff : PathEffects} {α : Type}

theorem within_admitAtGate (pass : CadenceGate → Option CadenceGate) :
    Within (pathChange sha eff) (admitAtGate pass : Path β Unit) := by
  refine (Within.gets _).bind fun w => ?_
  split
  · exact within_refuse _
  · exact within_modifyGate fun _ => rfl

theorem within_requireRuntimeScope :
    Within (pathChange sha eff) (requireRuntimeScope : Path β Unit) := by
  refine (Within.gets _).bind fun scope => ?_
  cases scope with
  | activated scope => exact Within.pure _
  | recovered scope => exact within_wallNow.bind fun _ => within_requireTimely _ _

theorem within_privateGet (ask : β → PrivateAnswer α × β) :
    Within (pathChange sha eff) (privateGet ask : Path β α) := by
  refine within_requireRuntimeScope.bind fun _ => within_monotonicNow.bind fun now => ?_
  refine (within_admitAtGate _).bind fun _ => within_outside.bind fun _ => ?_
  refine (within_receive _).bind fun answer => ?_
  cases answer with
  | failed failure => exact within_refuse _
  | envelope status data => exact (within_require _ _).bind fun _ => Within.pure data

theorem within_requestAt (start offset : Nat) (ask : β → PrivateAnswer α × β) :
    Within (pathChange sha eff) (requestAt start offset ask : Path β α) := by
  refine (Within.gets _).bind fun adapter => within_monotonicNow.bind fun current => ?_
  refine (within_requireTimely _ _).bind fun _ => ?_
  have hread : Within (pathChange sha eff)
      (do
        let actualStart ← monotonicNow
        requireTimely (getTarget start offset adapter ≤ actualStart)
          (adapterError "V4_GMO_RECONCILIATION_CADENCE_NOT_REACHED")
        modifyAdapter fun a => { a with lastPrivateGetStart := some actualStart }
        privateGet ask : Path β α) := by
    refine within_monotonicNow.bind fun actualStart => ?_
    refine (within_requireTimely _ _).bind fun _ => ?_
    exact (within_modifyAdapter _).bind fun _ => within_privateGet ask
  exact Within.ite ((within_waitFor _).bind fun _ => hread) hread

variable (broker : Broker β)

theorem within_readAndReconcile (cycleRef : Digest)
    (side : SignalDecision) (requestedSize : Nat) (start : Monotonic) :
    Within (pathChange sha eff)
      (readAndReconcile broker cycleRef side requestedSize start) := by
  refine (within_requestAt _ _ _).bind fun executionData => ?_
  refine (within_ofResult _).bind fun executions => ?_
  refine (within_requestAt _ _ _).bind fun positionData => ?_
  refine (within_ofResult _).bind fun positions => ?_
  refine (within_requestAt _ _ _).bind fun activeOrderData => ?_
  exact (within_ofResult _).bind fun activeOrders => within_ofResult _

theorem within_reconcileAtFixedCadence (cycleRef : Digest)
    (side : SignalDecision) (requestedSize : Nat) :
    Within (pathChange sha eff)
      (reconcileAtFixedCadence broker cycleRef side requestedSize) := by
  refine (within_require _ _).bind fun _ => (within_require _ _).bind fun _ =>
    (within_require _ _).bind fun _ => within_monotonicNow.bind fun start => ?_
  refine (within_readAndReconcile _ _ _ _ _).attempt fun e => ?_
  exact Within.ite ((within_modifyAdapter _).bind fun _ => Within.pure _) (Within.raise e)

theorem within_requireBoundPostOnce (key : PostKey) (hposting : eff.posting) :
    Within (pathChange sha eff)
      (requireBoundPostOnce key : Path β (List V4GmoAction)) := by
  refine (Within.gets _).bind fun w => (within_require _ _).bind fun _ => ?_
  split
  · exact within_refuse _
  · exact Within.bind (within_modifyTransport hposting fun _ => rfl) fun _ => Within.pure _

theorem within_requireEntryScope (scope : RuntimeScope) (request : V4GmoPrivateRequest)
    (now : Monotonic) :
    Within (pathChange sha eff) (requireEntryScope scope request now : Path β Unit) := by
  cases scope with
  | activated scope => exact (within_require _ _).bind fun _ => within_requireTimely _ _
  | recovered scope => exact within_refuse _

theorem within_unknownPostCallback (hhalt : eff.allowed .haltLatched) :
    Within (pathChange sha eff) (unknownPostCallback : Path β Unit) :=
  (within_onStore (within_engageUnknownHalt hhalt)).attempt fun _ => Within.pure ()

theorem within_countAndPost (request : V4GmoPrivateRequest)
    (hhalt : eff.allowed .haltLatched) (hposting : eff.posting) :
    Within (pathChange sha eff) (countAndPost broker request) := by
  refine (within_countDispatch _ hposting).bind fun _ => ?_
  refine (within_receive _).bind fun answer => ?_
  cases answer with
  | failed failure =>
      exact (within_unknownPostCallback hhalt).bind fun _ => within_refuse _
  | envelope status data => exact Within.pure status

theorem within_privatePost (request : V4GmoPrivateRequest)
    (path : PostPath) (clientOrderId : List Char)
    (authorization : V4PersistedTransportAuthorization) (hhalt : eff.allowed .haltLatched)
    (hposting : eff.posting) :
    Within (pathChange sha eff)
      (privatePost sha broker request path clientOrderId authorization) := by
  refine within_requireRuntimeScope.bind fun _ => within_monotonicNow.bind fun now => ?_
  refine (within_admitAtGate _).bind fun _ => ?_
  refine (within_requireBoundPostOnce _ hposting).bind fun allowedActions => ?_
  refine (Within.gets _).bind fun scope => ?_
  refine ((within_onStore within_consumePersistedTransportAuthorization).attempt
    fun _ => within_refuse _).bind fun _ => ?_
  refine Within.bind (within_modifyTransport hposting fun _ => rfl) fun _ => ?_
  have hsend : Within (pathChange sha eff)
      (do
        outside
        countAndPost broker request : Path β Int) :=
    within_outside.bind fun _ => within_countAndPost broker request hhalt hposting
  exact Within.ite ((within_requireEntryScope _ _ _).bind fun _ => hsend) hsend

theorem within_requireFreshOpen (generationDigest : Digest)
    (evidence : V4GmoPublicMarketStatusEvidence) :
    Within (pathChange sha eff)
      (requireFreshOpen generationDigest evidence : Path β Unit) := by
  refine within_monotonicNow.bind fun now => (Within.gets _).bind fun used => ?_
  refine Within.bind ?_ fun _ => (within_require _ _).bind fun _ =>
    (within_requireTimely _ _).bind fun _ => within_require _ _
  exact within_modify_same fun _ => ⟨rfl, rfl, rfl, rfl, rfl⟩

theorem within_requireMarketStatus (generationDigest : Digest) (action : V4GmoAction)
    (marketStatus : Option V4GmoPublicMarketStatusEvidence) :
    Within (pathChange sha eff)
      (requireMarketStatus generationDigest action marketStatus : Path β Unit) := by
  refine Within.ite ?_ (within_require _ _)
  cases marketStatus with
  | none => exact within_refuse _
  | some evidence => exact within_requireFreshOpen _ _

theorem within_sendOnce (request : V4GmoPrivateRequest)
    (path : PostPath) (clientOrderId : List Char)
    (authorization : V4PersistedTransportAuthorization) (hhalt : eff.allowed .haltLatched)
    (hposting : eff.posting) :
    Within (pathChange sha eff)
      (sendOnce sha broker request path clientOrderId authorization) := by
  refine Within.attempt ?_ fun e => ?_
  · refine (within_privatePost _ _ _ _ _ hhalt hposting).bind fun status => ?_
    exact Within.ite ((within_modifyAdapter _).bind fun _ => Within.pure _) (Within.pure _)
  · exact Within.ite ((within_modifyAdapter _).bind fun _ => Within.pure _)
      (Within.raise e)

theorem within_performOnce (generationDigest : Digest)
    (input : PerformInput) (nowMonotonic : Monotonic) (hhalt : eff.allowed .haltLatched)
    (hposting : eff.posting) :
    Within (pathChange sha eff)
      (performOnce sha broker generationDigest input nowMonotonic) := by
  refine (within_modifyAdapter _).bind fun _ => (Within.gets _).bind fun attempted => ?_
  refine (within_require _ _).bind fun _ => (within_ofResult _).bind fun request => ?_
  split
  · exact within_refuse _
  · refine (within_onStore (within_consumePersistedActionAuthorization hhalt)).bind
      fun authorization => ?_
    refine (within_modifyAdapter _).bind fun _ => ?_
    refine (within_requireMarketStatus _ _ _).bind fun _ => ?_
    exact (within_modifyAdapter _).bind fun _ => within_sendOnce _ _ _ _ _ hhalt hposting

end Transport

end Path

end FxStrategyLab
