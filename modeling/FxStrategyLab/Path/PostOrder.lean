import FxStrategyLab.Path.Raises

/-!
# The order of the POSTs

The transport lets the POSTs of a cycle pass in an order that it keeps in its
memory: nothing before the entry, and after a close no other close.  What a POST
does to this memory, and which closes it dispatches, is the frame `postsFor`.
-/

namespace FxStrategyLab

open Library

variable {β : Type}

/-- What the POST of a plan does to the transport: no close passes after another, and
only the entry of its cycle leaves the entry key. -/
structure PostsFor (plan : V4GmoActionPlan) (t t' : TransportState) : Prop where
  scope : t'.scope = t.scope
  closed : t.marketCloseAttempted = true → t'.marketCloseAttempted = true
  entered : entryPostKey t.scope.cycleRef ∈ t'.postKeys →
    entryPostKey t.scope.cycleRef ∈ t.postKeys ∨
      plan.action = .marketEntry ∧ plan.cycleRef = t.scope.cycleRef
  counted : t.postsDispatched ≤ t'.postsDispatched
  closes : t.postsDispatched < t'.postsDispatched →
    plan.action ∈ V4GmoAction.positionClose →
    plan.cycleRef = t.scope.cycleRef ∧ t.marketCloseAttempted = false ∧
      entryPostKey t.scope.cycleRef ∈ t.postKeys ∧ t'.marketCloseAttempted = true

/-- `PostsFor` as a frame. -/
def postsFor (plan : V4GmoActionPlan) : Frame TransportState where
  rel := PostsFor plan
  refl t :=
    { scope := rfl
      closed := id
      entered := Or.inl
      counted := le_rfl
      closes := fun h => absurd h (lt_irrefl _) }
  trans {t t' t''} h₁ h₂ :=
    { scope := h₂.scope.trans h₁.scope
      closed := fun h => h₂.closed (h₁.closed h)
      entered := by
        intro h
        rw [← h₁.scope] at h
        rcases h₂.entered h with h | h
        · rw [h₁.scope] at h
          exact h₁.entered h
        · rw [h₁.scope] at h
          exact Or.inr h
      counted := h₁.counted.trans h₂.counted
      closes := by
        intro hlt haction
        by_cases hfirst : t.postsDispatched < t'.postsDispatched
        · obtain ⟨hcycle, hopen, hentered, hclosed⟩ := h₁.closes hfirst haction
          exact ⟨hcycle, hopen, hentered, h₂.closed hclosed⟩
        · have hsecond : t'.postsDispatched < t''.postsDispatched := by omega
          obtain ⟨hcycle, hopen, hentered, hclosed⟩ := h₂.closes hsecond haction
          rw [h₁.scope] at hcycle hentered
          refine ⟨hcycle, ?_, ?_, hclosed⟩
          · rw [Bool.eq_false_iff]
            intro h
            rw [h₁.closed h] at hopen
            cases hopen
          · rcases h₁.entered hentered with h | ⟨hentry, -⟩
            · exact h
            · -- a close is no entry
              rw [hentry] at haction
              exact absurd haction (by decide) }

theorem PostsFor.of_marks {plan : V4GmoActionPlan} {t t' : TransportState}
    (hscope : t'.scope = t.scope) (hkeys : t'.postKeys = t.postKeys)
    (hclosed : t.marketCloseAttempted = true → t'.marketCloseAttempted = true)
    (hposts : t'.postsDispatched = t.postsDispatched) : PostsFor plan t t' where
  scope := hscope
  closed := hclosed
  entered h := Or.inl (hkeys ▸ h)
  counted := hposts.ge
  closes h := absurd h (by omega)

/-- What may be written, read and saved, but not posted. -/
def notPosting : PathEffects where
  allowed _ := True
  posting := False
  saving := True

theorem postsFor_of_notPosting {sha : Sha256} {plan : V4GmoActionPlan} {α : Type}
    {x : Path β α} (hx : Within (pathChange sha notPosting) x) :
    Within ((postsFor plan).through PathWorld.transport) x := by
  intro w
  have hposts := posts_eq_of_within id hx w
  rcases (hx w).transport with hmemory | hposting
  · simp only [TransportState.memory, Prod.mk.injEq] at hmemory
    exact .of_marks hmemory.1 hmemory.2.1 (fun h => hmemory.2.2.trans h) hposts
  · exact hposting.elim

namespace Path

/-- The order of the POSTs lets a close pass after the entry and before any other
close. -/
theorem postSequence_close {cycleRef : Digest} {postKeys : List PostKey}
    {closeAttempted : Bool} {key : PostKey} {allowedActions : List V4GmoAction}
    {action : V4GmoAction}
    (h : postSequence cycleRef postKeys closeAttempted key = some allowedActions)
    (haction : action ∈ allowedActions) (hclose : action ∈ V4GmoAction.positionClose) :
    entryPostKey cycleRef ∈ postKeys ∧ closeAttempted = false ∧
      (key.2.head? = some 'X' ∨ key.2.head? = some 'T') := by
  -- the actions of the other branches are no closes
  have hother : ∀ (c : Prop) [Decidable c] (actions : List V4GmoAction),
      (if c then some actions else none) = some allowedActions →
      (∀ a ∈ actions, a ∉ V4GmoAction.positionClose) → False := by
    intro c _ actions hif hactions
    split at hif
    · cases hif
      exact hactions action haction hclose
    · cases hif
  have hexit : ∀ actions, (if (decide (entryPostKey cycleRef ∈ postKeys) &&
      !closeAttempted) = true then some actions else none) = some allowedActions →
      entryPostKey cycleRef ∈ postKeys ∧ closeAttempted = false := by
    intro actions hif
    split at hif
    · rename_i hentered
      simpa using hentered
    · cases hif
  unfold postSequence at h
  dsimp only at h
  split at h
  · exact (hother _ _ h (by decide)).elim
  · exact (hother _ _ h (by decide)).elim
  · exact (hother _ _ h (by decide)).elim
  · exact (hother _ _ h (by decide)).elim
  · exact (hother _ _ h (by decide)).elim
  · rename_i hx
    exact ⟨(hexit _ h).1, (hexit _ h).2, Or.inl hx⟩
  · rename_i ht
    exact ⟨(hexit _ h).1, (hexit _ h).2, Or.inr ht⟩
  · cases h

theorem postSequence_entry {cycleRef : Digest} {postKeys : List PostKey}
    {closeAttempted : Bool} {allowedActions : List V4GmoAction}
    (h : postSequence cycleRef postKeys closeAttempted (entryPostKey cycleRef) =
      some allowedActions) : allowedActions = [.marketEntry] := by
  simp only [postSequence, entryPostKey, List.head?_cons] at h
  split at h
  · cases h
    rfl
  · cases h

section Transport

variable {sha : Sha256} {plan : V4GmoActionPlan}

theorem requireBoundPostOnce_ends (key : PostKey) (w : PathWorld β) :
    (∃ closed allowedActions,
      (requireBoundPostOnce key : Path β (List V4GmoAction)).run w =
        (.returned allowedActions,
          { w with
            transport := { w.transport with marketCloseAttempted := closed } }) ∧
      postSequence w.transport.scope.cycleRef w.transport.postKeys
        w.transport.marketCloseAttempted key = some allowedActions ∧
      (w.transport.marketCloseAttempted = true → closed = true) ∧
      (key.2.head? = some 'X' ∨ key.2.head? = some 'T' → closed = true)) ∨
    ((∀ allowedActions w', (requireBoundPostOnce key : Path β (List V4GmoAction)).run w ≠
        (.returned allowedActions, w')) ∧
      ((requireBoundPostOnce key : Path β (List V4GmoAction)).run w).2.transport =
        w.transport) := by
  unfold requireBoundPostOnce
  rw [Process.run_gets_bind]
  dsimp only [id]
  by_cases hbound : key ∉ w.transport.postKeys ∧
      requestMatchesCycle key w.transport.scope.cycleRef = true
  · rw [Process.run_bind_returned (run_require_of hbound _ _)]
    split
    · exact Or.inr ⟨fun _ _ => refuse_not_returned, rfl⟩
    · rename_i allowedActions hsequence
      refine Or.inl ⟨_, allowedActions, rfl, hsequence, ?_, ?_⟩
      · intro h
        simp [h]
      · intro h
        simp [h]
  · rw [require, if_neg hbound]
    refine Or.inr ⟨?_, rfl⟩
    intro allowedActions w' h
    cases h

variable {authorization transport : V4PersistedTransportAuthorization}
  {cycleRef requestBindingDigest : Digest}

/-- An authorization that the transport has used up names the cycle of its scope and
one of the actions that the POST may stand for. -/
theorem consumePersistedTransportAuthorization_returned {allowedActions : List V4GmoAction}
    {s s' : StoreWorld} {u : Unit}
    (h : (consumePersistedTransportAuthorization authorization cycleRef allowedActions
      requestBindingDigest).run s = (.returned u, s')) :
    authorization.cycleRef = cycleRef ∧ authorization.action ∈ allowedActions := by
  unfold consumePersistedTransportAuthorization at h
  rw [Process.run_gets_bind] at h
  obtain ⟨hvalid, -⟩ := Process.run_require_bind_eq_returned.mp h
  exact ⟨hvalid.2.1, hvalid.2.2.1⟩

theorem consumePersistedActionAuthorization_returned
    {authorization : V4PersistedActionAuthorization}
    {protectionPlan : Option V4GmoExactProtectionPlan} {reconciliationDigest : Option Digest}
    {nowMonotonic : Monotonic} {s s' : StoreWorld}
    (h : (consumePersistedActionAuthorization sha authorization plan protectionPlan
      reconciliationDigest requestBindingDigest nowMonotonic).run s =
        (.returned transport, s')) :
    transport.cycleRef = plan.cycleRef ∧ transport.action = plan.action := by
  unfold consumePersistedActionAuthorization at h
  rw [Process.run_gets_bind] at h
  obtain ⟨-, h⟩ := Process.run_require_bind_eq_returned.mp h
  obtain ⟨_, _, -, h⟩ := Process.run_bind_eq_returned.mp h
  obtain ⟨_, _, -, h⟩ := Process.run_bind_eq_returned.mp h
  obtain ⟨-, h⟩ := Process.run_require_bind_eq_returned.mp h
  obtain ⟨_, _, -, h⟩ := Process.run_bind_eq_returned.mp h
  obtain ⟨_, _, -, h⟩ := Process.run_bind_eq_returned.mp h
  cases h
  exact ⟨rfl, rfl⟩

/-- The part of a POST that leaves the memory of the transport alone. -/
def sending : Frame TransportState where
  rel t t' := t'.memory = t.memory ∧ t.postsDispatched ≤ t'.postsDispatched
  refl _ := ⟨rfl, le_rfl⟩
  trans h₁ h₂ := ⟨h₂.1.trans h₁.1, h₁.2.trans h₂.2⟩

theorem sending_of_notPosting {α : Type} {x : Path β α}
    (hx : Within (pathChange sha notPosting) x) :
    Within (sending.through PathWorld.transport) x := by
  intro w
  rcases (hx w).transport with hmemory | hposting
  · exact ⟨hmemory, (posts_eq_of_within id hx w).ge⟩
  · exact hposting.elim

theorem attempt_refused_returned {α : Type} {x : Path β α} {e : V4Error}
    {w w' : PathWorld β} {a : α} (h : (x.attempt fun _ => refuse e).run w = (.returned a, w')) :
    x.run w = (.returned a, w') := by
  rw [Process.run_attempt] at h
  rcases hx : x.run w with ⟨o, w₁⟩
  rw [hx] at h
  cases o with
  | returned b => exact h
  | raised e' => exact absurd h refuse_not_returned
  | killed => cases h

theorem postsFor_of_sending {t t' : TransportState} {key : PostKey} {closed : Bool}
    {allowedActions : List V4GmoAction}
    (hsequence : postSequence t.scope.cycleRef t.postKeys t.marketCloseAttempted key =
      some allowedActions)
    (hcycle : plan.cycleRef = t.scope.cycleRef) (hallowed : plan.action ∈ allowedActions)
    (hkept : t.marketCloseAttempted = true → closed = true)
    (hmarked : key.2.head? = some 'X' ∨ key.2.head? = some 'T' → closed = true)
    (hsend : sending.rel
      { t with marketCloseAttempted := closed, postKeys := key :: t.postKeys } t') :
    PostsFor plan t t' := by
  obtain ⟨hmemory, hposts⟩ := hsend
  simp only [TransportState.memory, Prod.mk.injEq] at hmemory
  obtain ⟨hscope, hkeys, hclosed⟩ := hmemory
  refine ⟨hscope, fun h => hclosed.trans (hkept h), fun h => ?_, hposts, fun _ hclose => ?_⟩
  · rw [hkeys] at h
    rcases List.mem_cons.mp h with hkey | hold
    · right
      rw [← hkey] at hsequence
      rw [postSequence_entry hsequence, List.mem_singleton] at hallowed
      exact ⟨hallowed, hcycle⟩
    · exact Or.inl hold
  · obtain ⟨hentered, hopen, hletter⟩ := postSequence_close hsequence hallowed hclose
    exact ⟨hcycle, hopen, hentered, hclosed.trans (hmarked hletter)⟩

theorem send_sending (sha : Sha256) (broker : Broker β) (request : V4GmoPrivateRequest)
    (scope : RuntimeScope) (now : Monotonic) (allowedActions : List V4GmoAction) :
    Within (sending.through PathWorld.transport)
      (do
        if .marketEntry ∈ allowedActions then
          requireEntryScope scope request now
        outside
        countDispatch request
        let answer ← receive (broker.post request)
        match answer with
        | .failed failure => do
            unknownPostCallback
            refuse (transportError failure.label)
        | .envelope status _ => pure status : Path β Int) := by
  have hquiet : ∀ {α : Type} {x : Path β α}, Within (pathChange sha notPosting) x →
      Within (sending.through PathWorld.transport) x := sending_of_notPosting
  have hcount : Within (sending.through PathWorld.transport)
      (countDispatch request : Path β Unit) :=
    Within.modify fun _ => ⟨rfl, Nat.le_succ _⟩
  have hsend : Within (sending.through PathWorld.transport)
      (do
        outside
        countDispatch request
        let answer ← receive (broker.post request)
        match answer with
        | .failed failure => do
            unknownPostCallback
            refuse (transportError failure.label)
        | .envelope status _ => pure status : Path β Int) := by
    refine (hquiet within_outside).bind fun _ => hcount.bind fun _ => ?_
    refine (hquiet (within_receive _)).bind fun answer => ?_
    cases answer with
    | failed failure =>
        exact hquiet ((within_unknownPostCallback trivial).bind fun _ => within_refuse _)
    | envelope status data => exact Within.pure status
  exact Within.ite ((hquiet (within_requireEntryScope _ _ _)).bind fun _ => hsend) hsend

theorem privatePost_postsFor (broker : Broker β) (request : V4GmoPrivateRequest)
    (path : PostPath) (clientOrderId : List Char)
    (hcycle : authorization.cycleRef = plan.cycleRef)
    (haction : authorization.action = plan.action) :
    Within ((postsFor plan).through PathWorld.transport)
      (privatePost sha broker request path clientOrderId authorization) := by
  have hquiet : ∀ {α : Type} {x : Path β α}, Within (pathChange sha notPosting) x →
      Within ((postsFor plan).through PathWorld.transport) x := postsFor_of_notPosting
  refine (hquiet within_requireRuntimeScope).bind fun _ =>
    (hquiet within_monotonicNow).bind fun now => (hquiet (within_admitAtGate _)).bind
      fun _ => ?_
  intro w
  rcases requireBoundPostOnce_ends (postKeyOf path clientOrderId) w with
    ⟨closed, allowedActions, hbound, hsequence, hkept, hmarked⟩ | ⟨hrefused, hsame⟩
  · rw [Process.run_bind_returned hbound, Process.run_gets_bind]
    generalize hw₁ : ({ w with
      transport := { w.transport with marketCloseAttempted := closed } } : PathWorld β) = w₁
    have hmarks : PostsFor plan w.transport w₁.transport := by
      subst hw₁
      exact .of_marks rfl rfl hkept rfl
    refine Process.run_bind_ends
      (Q := fun t : PathWorld β => PostsFor plan w.transport t.transport) ?_ ?_
    · intro u w₂ hconsumed
      obtain ⟨hstore, hw₂⟩ := onStore_returned (attempt_refused_returned hconsumed)
      obtain ⟨hbound₁, hallowed⟩ :=
        consumePersistedTransportAuthorization_returned hstore
      have hsame : w₂.transport = w₁.transport := by
        rw [hw₂]
      have hsend := send_sending sha broker request w₁.transport.scope now allowedActions
        { w₂ with
          transport :=
            { w₂.transport with
              postKeys := postKeyOf path clientOrderId :: w₂.transport.postKeys } }
      subst hw₁
      refine postsFor_of_sending hsequence (hcycle.symm.trans hbound₁)
        (haction ▸ hallowed) hkept hmarked ?_
      have hstart : ({ w₂.transport with
          postKeys := postKeyOf path clientOrderId :: w₂.transport.postKeys } :
            TransportState) =
          { w.transport with
            marketCloseAttempted := closed,
            postKeys := postKeyOf path clientOrderId :: w.transport.postKeys } := by
        rw [hsame]
      rw [← hstart]
      exact hsend
    · have hconsume : Within ((postsFor plan).through PathWorld.transport)
          ((onStore (consumePersistedTransportAuthorization authorization
            w₁.transport.scope.cycleRef allowedActions (request.bindingDigest sha))).attempt
            fun _ => refuse
              (transportError "V4_GMO_PERSISTED_TRANSPORT_AUTHORIZATION_REQUIRED") :
            Path β Unit) :=
        hquiet ((within_onStore within_consumePersistedTransportAuthorization).attempt
          fun _ => within_refuse _)
      exact (postsFor plan).trans hmarks (hconsume w₁)
  · rw [Process.run_bind_not_returned hrefused]
    show PostsFor plan w.transport _
    rw [hsame]
    exact (postsFor plan).refl _

theorem performOnce_postsFor (broker : Broker β) (generationDigest : Digest)
    (input : PerformInput) (nowMonotonic : Monotonic) :
    Within ((postsFor input.plan).through PathWorld.transport)
      (performOnce sha broker generationDigest input nowMonotonic) := by
  have hquiet : ∀ {α : Type} {x : Path β α}, Within (pathChange sha notPosting) x →
      Within ((postsFor input.plan).through PathWorld.transport) x := postsFor_of_notPosting
  refine (hquiet (within_modifyAdapter _)).bind fun _ => (Within.gets _).bind
    fun attempted => ?_
  refine (hquiet (within_require _ _)).bind fun _ => (hquiet (within_ofResult _)).bind
    fun request => ?_
  split
  · exact hquiet (within_refuse _)
  · refine Within.bind_returned
      (hquiet (within_onStore (within_consumePersistedActionAuthorization trivial)))
      (R := fun authorization : V4PersistedTransportAuthorization =>
        authorization.cycleRef = input.plan.cycleRef ∧
          authorization.action = input.plan.action)
      (fun w authorization w' h =>
        consumePersistedActionAuthorization_returned (onStore_returned h).1)
      fun authorization hauthorized => ?_
    refine (hquiet (within_modifyAdapter _)).bind fun _ => ?_
    refine (hquiet (within_requireMarketStatus _ _ _)).bind fun _ => ?_
    refine (hquiet (within_modifyAdapter _)).bind fun _ => Within.attempt ?_ fun e => ?_
    · refine (privatePost_postsFor broker _ _ _ hauthorized.1 hauthorized.2).bind
        fun status => ?_
      exact hquiet (Within.ite ((within_modifyAdapter _).bind fun _ => Within.pure _)
        (Within.pure _))
    · exact hquiet (Within.ite ((within_modifyAdapter _).bind fun _ => Within.pure _)
        (Within.raise e))

end Transport

end Path

namespace V4GmoCoordinatedActualPath

open Path

variable (path : V4GmoCoordinatedActualPath β)

theorem sendAndFinish_postsFor (input : PerformInput) :
    Within ((postsFor input.plan).through PathWorld.transport)
      (path.sendAndFinish input) := by
  have hquiet : ∀ {α : Type} {x : Path β α}, Within (pathChange path.sha notPosting) x →
      Within ((postsFor input.plan).through PathWorld.transport) x := postsFor_of_notPosting
  refine (hquiet within_monotonicNow).bind fun now => ?_
  refine (performOnce_postsFor path.broker _ input now).bind fun outcome => ?_
  refine hquiet (Within.bind ?_ fun _ => Within.pure outcome)
  exact within_outside.bind fun _ => (within_onStore
    (within_recordTransportOutcome trivial trivial)).bind fun _ => within_outside

theorem marketBody_postsFor (plan : V4GmoActionPlan) (attempt : V4PreparedAttempt)
    (riskState : PhaseBRiskState) (cycleDayJst : TradingDay) :
    Within ((postsFor plan).through PathWorld.transport)
      (path.marketBody plan attempt riskState cycleDayJst) := by
  have hquiet : ∀ {α : Type} {x : Path β α}, Within (pathChange path.sha notPosting) x →
      Within ((postsFor plan).through PathWorld.transport) x := postsFor_of_notPosting
  refine (hquiet (within_ofResult _)).bind fun recorded => ?_
  refine (hquiet (path.within_saveRisk trivial _)).bind fun _ => ?_
  refine (hquiet (within_onStore (within_marketAttemptCountForDay trivial _))).bind
    fun count => ?_
  refine (hquiet (within_require _ _)).bind fun _ => (hquiet within_outside).bind fun _ => ?_
  refine (hquiet within_outside).bind fun _ => ?_
  refine (hquiet path.within_paceBeforePrivatePost).bind fun _ => ?_
  refine (hquiet (path.within_requireTransportBoundaryDeadMan trivial)).bind fun _ => ?_
  exact path.sendAndFinish_postsFor { plan, authorization := attempt.authorization }

theorem reconciledBody_postsFor (input : PerformInput) :
    Within ((postsFor input.plan).through PathWorld.transport)
      (path.reconciledBody input) := by
  have hquiet : ∀ {α : Type} {x : Path β α}, Within (pathChange path.sha notPosting) x →
      Within ((postsFor input.plan).through PathWorld.transport) x := postsFor_of_notPosting
  exact (hquiet within_outside).bind fun _ =>
    (hquiet path.within_paceBeforePrivatePost).bind fun _ => path.sendAndFinish_postsFor input

end V4GmoCoordinatedActualPath

end FxStrategyLab
