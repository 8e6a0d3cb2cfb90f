import FxStrategyLab.Shadow.Survival

/-!
# Phase, journal and venue of the E1 engine agree

Between two calls a stable engine has no unresolved intent, no kill and no halt
on record, a journal that expects the stored position, and the phase of that
position.  Four ends of a call break this and no others: behind a durable start
the token may be dead, or the fault may be the simulated crash or one that no
executor knows; and behind a durable kill the settlement may have no finite
profit and loss, or end in the crash.  The exception then leaves the call, and
the engine keeps the phase it was in.
-/

namespace FxStrategyLab.E1

open Library ShadowIntentJournal

section Agreement

variable {setup : E1Setup} {sha : Sha256}

def heartbeatWithin (setup : E1Setup) (w : E1World) (now : Timestamp) : Bool :=
  (lastHeartbeat w.records).any fun beat =>
    decide (0 ≤ now - beat ∧ now - beat ≤ seconds setup.policy.heartbeatTimeoutSeconds)

/-- A decision is left by an exception behind a durable start or a durable kill. -/
def decisionOpen (setup : E1Setup) (sha : Sha256) (w : E1World) (decision : EngineDecision)
    (market : MarketFrame) (stop : Option ℚ) (fault : FaultInjection) : Bool :=
  if decision.configHash ≠ setup.configHash sha ∨
      decision.registered setup.policy.hypothesisRegistry = false then
    killOpen setup w (some market) {}
  else
    match decision.engineLabel with
    | .noAction => false
    | .entryBuyCandidate | .entrySellCandidate =>
        entryGranted setup sha w decision market stop && leftOpen setup w.clockReadings fault
    | .exitCandidate | .settlementCandidate =>
        settlementGranted setup sha w decision market false &&
          leftOpen setup w.clockReadings fault

def callOpen (setup : E1Setup) (sha : Sha256) (w : E1World) (op : E1Op) : Bool :=
  !w.phase.unreconciled && (ShadowIntentJournal.unresolvedIntents w.records).isOk &&
    match op with
    | .processDecision decision market stop fault =>
        decisionOpen setup sha w decision market stop fault
    | .activateKill _ _ market fault _ => killOpen setup w market fault
    | .checkDeadman now market fault =>
        !heartbeatWithin setup w now && killOpen setup w market fault
    | _ => false

/-- No call of a living engine is left open. -/
def Concludes (setup : E1Setup) (sha : Sha256) (r : E1Run) : E1Input → Prop
  | .call c => r.live = true → callOpen setup sha (r.world.given c) c.op = false
  | .restart => True

instance (r : E1Run) (input : E1Input) : Decidable (Concludes setup sha r input) :=
  match input with
  | .call _ => inferInstanceAs (Decidable (_ → _))
  | .restart => isTrue trivial

def E1Input.AppendsOrDies : E1Input → Prop
  | .call c => ∀ i ∈ c.appendIncidents, i.raising = false
  | .restart => True

instance (input : E1Input) : Decidable input.AppendsOrDies :=
  match input with
  | .call c => inferInstanceAs (Decidable (∀ i ∈ c.appendIncidents, i.raising = false))
  | .restart => isTrue trivial

/-- In a stable phase nothing is unresolved, killed or halted, the journal expects the
stored position, and the phase is that of the position. -/
def Agrees (sha : Sha256) (w : E1World) : Prop :=
  w.phase.unreconciled = false →
    pendingOf w.journalFile.records = [] ∧ killActive w.journalFile.records = false ∧
      halted w.journalFile.records = false ∧
        expectedStateDigest sha w.journalFile.records = positionDigest sha w.venueFile ∧
          (w.phase = .readyFlat ↔ w.venueFile = none)
deriving Decidable

/-- A stable engine, as its memory has it. -/
structure E1World.Settled (setup : E1Setup) (sha : Sha256) (w : E1World) : Prop where
  ready : w.Ready setup
  pending : pendingOf w.records = []
  alive : w.killActive = false
  running : w.halted = false
  expected : w.expectedDigest sha = w.stateDigest sha
  phase : w.phase = stablePhase w.position

/-- A journal behind which an engine may become stable. -/
structure E1World.Clear (w : E1World) : Prop where
  pending : pendingOf w.records = []
  alive : w.killActive = false
  running : w.halted = false
  tail : w.journalFile.tail ≠ .unterminated

/-- What holds of a living engine between its calls, by its phase. -/
structure E1World.Steady (setup : E1Setup) (sha : Sha256) (w : E1World) : Prop where
  settled : w.phase.unreconciled = false → w.Settled setup sha
  clear : w.phase = .restartAckRequired ∨
    (w.phase = .bootReconcileRequired ∧ w.journalPreexisting = false) → w.Clear

def Steadies {α : Type} (setup : E1Setup) (sha : Sha256) (x : E1Process α) (w : E1World) : Prop :=
  Survives x w (fun _ t => t.Steady setup sha) fun _ t => t.Steady setup sha

namespace E1World.Steady

variable {w t : E1World}

theorem of_blocked (h : t.Blocked) : t.Steady setup sha := by
  constructor
  · intro hstable
    rcases h with h | h <;> rw [h] at hstable <;> cases hstable
  · rintro (hphase | ⟨hphase, -⟩) <;> rcases h with h | h <;> exact nomatch h.symm.trans hphase

theorem of_settled (h : t.Settled setup sha) : t.Steady setup sha := by
  refine ⟨fun _ => h, ?_⟩
  have hphase := h.phase
  unfold stablePhase at hphase
  split at hphase <;> rintro (hother | ⟨hother, -⟩) <;>
    exact nomatch hphase.symm.trans hother

end E1World.Steady

variable {p s c r : JournalRecord} {l start : List JournalRecord}

theorem pendingOf_executed {x : Execution}
    (hpending : pendingOf l = []) (hp : x.Recorded .intentPrepared p)
    (hs : x.Recorded .virtualExecutionStarted s)
    (hc : x.Recorded .virtualExecutionConfirmed c) : pendingOf (l ++ [p, s] ++ [c]) = [] := by
  have hprepared : prepared (l ++ [p, s] ++ [c]) = prepared l ++ [p] := by
    rw [prepared_append, prepared_append]
    simp [prepared, hp.eventType, hp.intentId, hs.eventType, hc.eventType]
  have hresolved : resolvedIds (l ++ [p, s] ++ [c]) = resolvedIds l ++ [x.token.intentId] := by
    rw [resolvedIds_append, resolvedIds_append]
    simp [resolvedIds, hp.eventType, hs.eventType, hc.eventType, hc.intentId,
      JournalEventType.resolving]
  refine List.eq_nil_iff_forall_not_mem.mpr fun q hq => ?_
  obtain ⟨hmem, intentId, hid, hnot⟩ := mem_pendingOf_iff.mp hq
  rw [hresolved, List.mem_append, not_or] at hnot
  rw [hprepared, List.mem_append, List.mem_singleton] at hmem
  rcases hmem with hold | rfl
  · have hmem : q ∈ pendingOf l := mem_pendingOf_iff.mpr ⟨hold, intentId, hid, hnot.1⟩
    rw [hpending] at hmem
    cases hmem
  · exact hnot.2 (by simpa using Option.some.inj (hid.symm.trans hp.intentId))

theorem pendingOf_noted (h : r.eventType.noted = true) : pendingOf (l ++ [r]) = pendingOf l := by
  refine pendingOf_append_other ?_ (Or.inl ?_)
  · intro htype
    rw [htype] at h
    cases h
  · cases htype : r.eventType <;> rw [htype] at h <;> first | rfl | cases h

theorem sticky_noted (h : r.eventType.noted = true) :
    killActive (l ++ [r]) = killActive l ∧
      ShadowIntentJournal.halted (l ++ [r]) = ShadowIntentJournal.halted l := by
  have htypes : r.eventType.killing = false ∧ r.eventType ≠ .halted := by
    cases htype : r.eventType <;> rw [htype] at h <;>
      first | (cases h; done) | exact ⟨rfl, nofun⟩
  rw [killActive_append, halted_append]
  simp [killActive, ShadowIntentJournal.halted, htypes.1, htypes.2]

namespace E1World.Settled

variable {w t : E1World}

theorem of_noted (h : w.Settled setup sha) (hready : t.Ready setup) (ht : w.Noted sha t) :
    t.Settled setup sha := by
  obtain ⟨⟨r, hrecords, hnoted, hexpected⟩, hposition, hphase⟩ := ht
  obtain ⟨hkill, hhalt⟩ := sticky_noted (l := w.records) hnoted
  refine ⟨hready, ?_, ?_, ?_, ?_, by rw [hphase, hposition]; exact h.phase⟩
  · rw [hrecords, pendingOf_noted hnoted]
    exact h.pending
  · unfold E1World.killActive
    rw [hrecords, hkill]
    exact h.alive
  · unfold E1World.halted
    rw [hrecords, hhalt]
    exact h.running
  · unfold E1World.expectedDigest expectedStateDigest
    rw [hrecords, List.getLast?_concat, stateDigest_eq hposition]
    exact hexpected

theorem of_unmoved (h : w.Settled setup sha) (hready : t.Ready setup) (ht : w.Unmoved t) :
    t.Settled setup sha := by
  obtain ⟨hrecords, hposition, hphase⟩ := ht
  refine ⟨hready, by rw [hrecords]; exact h.pending, ?_, ?_, ?_, ?_⟩
  · unfold E1World.killActive
    rw [hrecords]
    exact h.alive
  · unfold E1World.halted
    rw [hrecords]
    exact h.running
  · unfold E1World.expectedDigest
    rw [hrecords, stateDigest_eq hposition]
    exact h.expected
  · rw [hphase, hposition]
    exact h.phase

theorem of_executed (h : w.Settled setup sha) (hready : t.Ready setup) (ht : Executed sha w t) :
    t.Settled setup sha := by
  obtain ⟨x, p, s, hp, hs, ⟨⟨c, hrecords, hc⟩, hexpected, hphase⟩⟩ := ht
  refine ⟨hready, by rw [hrecords]; exact pendingOf_executed h.pending hp hs hc, ?_, ?_,
    hexpected, hphase⟩
  · unfold E1World.killActive
    rw [hrecords, killActive_append, killActive_append,
      show ShadowIntentJournal.killActive w.records = false from h.alive]
    simp [ShadowIntentJournal.killActive, hp.eventType, hs.eventType, hc.eventType, JournalEventType.killing]
  · unfold E1World.halted
    rw [hrecords, halted_append, halted_append,
      show ShadowIntentJournal.halted w.records = false from h.running]
    simp [ShadowIntentJournal.halted, hp.eventType, hs.eventType, hc.eventType]

theorem of_harmless (h : w.Settled setup sha) (hready : t.Ready setup)
    (ht : Harmless sha w t) : t.Steady setup sha := by
  rcases ht with hblocked | hexecuted | hnoted | hunmoved
  · exact .of_blocked hblocked
  · exact .of_settled (h.of_executed hready hexecuted)
  · exact .of_settled (h.of_noted hready hnoted)
  · exact .of_settled (h.of_unmoved hready hunmoved)

theorem steady (h : w.Settled setup sha) : w.Steady setup sha :=
  .of_settled h

theorem stable (h : w.Settled setup sha) : w.phase = .readyFlat ∨ w.phase = .positionOpen := by
  rw [h.phase]
  unfold stablePhase
  split
  · exact Or.inr rfl
  · exact Or.inl rfl

theorem unreconciled (h : w.Settled setup sha) : w.phase.unreconciled = false := by
  rcases h.stable with hphase | hphase <;> rw [hphase] <;> rfl

end E1World.Settled

variable {w t u w' : E1World}

theorem unresolvedIntents_survives (h : pendingOf w.records = []) :
    Survives unresolvedIntents w
      (fun pending t => pending = [] ∧ t = w ∧
        (ShadowIntentJournal.unresolvedIntents w.records).isOk = true)
      fun _ t => t = w := by
  unfold Survives Process.run unresolvedIntents
  cases hread : ShadowIntentJournal.unresolvedIntents w.records with
  | error e => rfl
  | ok pending => exact ⟨(unresolvedIntents_eq_ok.mp hread).2.symm.trans h, rfl, rfl⟩

variable {entry : JournalEntry}

theorem note_steadies {α : Type} {f : Unit → E1Process α}
    (h : w.Settled setup sha) (hnoted : entry.eventType.noted = true)
    (hexpected : entry.expectedStateDigest = w.stateDigest sha)
    (hf : ∀ u t, t.Steady setup sha → Steadies setup sha (f u) t) :
    Steadies setup sha (append setup sha entry >>= f) w :=
  ((appendNote_survives h.ready hnoted hexpected).mono (fun _ _ ht => ht)
    fun _ _ ht => (h.of_unmoved ht.1 ht.2).steady).bind fun u t ht =>
      hf u t (h.of_noted ht.1 ht.2).steady

variable {now : Timestamp} {fault : FaultInjection} {deadman isRestart acknowledged : Bool}
  {reason : KillReason}

theorem activateKill_steadies {market : Option MarketFrame} (h : w.Settled setup sha)
    (hopen : (ShadowIntentJournal.unresolvedIntents w.records).isOk = true →
      killOpen setup w market fault = false) :
    Steadies setup sha (activateKill setup sha now reason market fault deadman) w := by
  refine Survives.gets_bind ?_
  rw [if_neg (by show ¬w.killActive = true; rw [h.alive]; nofun),
    if_neg (by show ¬w.halted = true; rw [h.running]; nofun)]
  refine ((unresolvedIntents_survives h.pending).mono (fun _ _ ht => ht)
    fun _ _ ht => by rw [ht]; exact h.steady).bind ?_
  rintro _ _ ⟨rfl, rfl, hok⟩
  refine Survives.ite (fun hunstable => ?_) fun _ => ?_
  · rcases hunstable with hpending | hphase
    · exact absurd rfl hpending
    · exact absurd (h.unreconciled.symm.trans hphase) nofun
  · exact (killStable_survives h.ready (hopen hok)).mono
      (fun _ _ ht => .of_blocked (Or.inl ht.2)) fun _ _ => False.elim

variable {market : MarketFrame}

theorem assertProcessableState_settled (h : w.Settled setup sha) :
    Survives (assertProcessableState setup sha market) w
      (fun _ t => t = w ∧ (ShadowIntentJournal.unresolvedIntents w.records).isOk = true)
      fun _ t => t = w := by
  unfold assertProcessableState
  refine Survives.gets_bind (Survives.ite (fun hsticky => ?_) fun _ => ?_)
  · rcases hsticky with hkill | hhalt
    · exact absurd (h.alive.symm.trans hkill) nofun
    · exact absurd (h.running.symm.trans hhalt) nofun
  refine Survives.require_bind (fun _ => ?_) fun hnot => absurd h.stable hnot
  refine ((unresolvedIntents_survives h.pending).mono (fun _ _ ht => ht)
    fun _ _ ht => ht).bind ?_
  rintro _ _ ⟨rfl, rfl, hok⟩
  refine Survives.ite (fun hpending => absurd rfl hpending) fun _ => ?_
  exact Survives.ite (fun hdigest => absurd h.expected hdigest) fun _ => Survives.pure ⟨rfl, hok⟩

variable {decision : EngineDecision}

theorem recordNoAction_steadies
    (h : w.Settled setup sha) : Steadies setup sha (recordNoAction setup sha decision market) w :=
  Survives.gets_bind (note_steadies h rfl rfl fun _ _ ht => ht)

/-- **A decision of a settled engine** leaves it settled or blocked, unless it is left open. -/
theorem processDecision_steadies {stop : Option ℚ} (h : w.Settled setup sha)
    (hopen : (ShadowIntentJournal.unresolvedIntents w.records).isOk = true →
      decisionOpen setup sha w decision market stop fault = false) :
    Steadies setup sha (processDecision setup sha decision market stop fault) w := by
  unfold processDecision
  refine ((assertProcessableState_settled h).mono (fun _ _ ht => ht)
    fun _ _ ht => by rw [ht]; exact h.steady).bind ?_
  rintro _ t ⟨ht, hok⟩
  rw [ht]
  replace hopen := hopen hok
  unfold decisionOpen at hopen
  have hends : ∀ {t : E1World}, t.Ready setup ∧ Harmless sha w t → t.Steady setup sha :=
    fun ht => h.of_harmless ht.1 ht.2
  refine Survives.ite (fun hconfig => ?_) fun hconfig => Survives.ite (fun hregistered => ?_)
    fun hregistered => ?_
  · rw [if_pos (Or.inl hconfig)] at hopen
    exact activateKill_steadies h fun _ => hopen
  · rw [if_pos (Or.inr hregistered)] at hopen
    exact activateKill_steadies h fun _ => hopen
  rw [if_neg (not_or.mpr ⟨hconfig, hregistered⟩)] at hopen
  have hentry : (entryGranted setup sha w decision market stop &&
      leftOpen setup w.clockReadings fault) = false →
      Steadies setup sha (processEntry setup sha decision market stop fault) w := fun hclosed =>
    (processEntry_survives h.ready fun hgranted => by simpa [hgranted] using hclosed).mono
      (fun _ _ ht => hends ht) fun _ _ ht => hends ht
  have hsettle : (settlementGranted setup sha w decision market false &&
      leftOpen setup w.clockReadings fault) = false →
      Steadies setup sha (processSettlement setup sha decision market fault false) w := by
    intro hclosed
    refine (processSettlement_survives h.ready).mono (fun _ _ ht => hends ht) fun _ _ ht => ?_
    rcases ht.2.1 with hharmless | ⟨hgranted, hleft⟩
    · exact hends ⟨ht.1, hharmless⟩
    · simp [hgranted, hleft] at hclosed
  cases hlabel : decision.engineLabel with
  | noAction => exact recordNoAction_steadies h
  | entryBuyCandidate => exact hentry (by simpa only [hlabel] using hopen)
  | entrySellCandidate => exact hentry (by simpa only [hlabel] using hopen)
  | exitCandidate => exact hsettle (by simpa only [hlabel] using hopen)
  | settlementCandidate => exact hsettle (by simpa only [hlabel] using hopen)

/-- What a report of a reconciliation leaves: the phase or the halt, and no other intents. -/
structure E1World.Reports (w t : E1World) : Prop where
  orderly : t.Orderly
  preexisting : t.journalPreexisting = w.journalPreexisting
  phase : t.phase = w.phase ∨ t.phase = .halted
  pending : pendingOf t.records = pendingOf w.records
  tail : w.journalFile.tail ≠ .unterminated → t.journalFile.tail ≠ .unterminated

def Reporting {α : Type} (x : E1Process α) : Prop :=
  ∀ w : E1World, w.Orderly → Survives x w (fun _ t => w.Reports t) fun _ t => w.Reports t

theorem E1World.Reports.refl (h : w.Orderly) : w.Reports w :=
  ⟨h, rfl, Or.inl rfl, rfl, id⟩

theorem E1World.Reports.trans (h₁ : w.Reports t) (h₂ : t.Reports u) : w.Reports u := by
  refine ⟨h₂.orderly, h₂.preexisting.trans h₁.preexisting, ?_, h₂.pending.trans h₁.pending,
    fun h => h₂.tail (h₁.tail h)⟩
  rcases h₂.phase with hphase | hphase
  · rw [hphase]
    exact h₁.phase
  · exact Or.inr hphase

namespace Reporting

variable {α β : Type}

theorem pure (a : α) : Reporting (pure a : E1Process α) :=
  fun _ h => .refl h

theorem bind {x : E1Process α} {f : α → E1Process β} (hx : Reporting x)
    (hf : ∀ a, Reporting (f a)) : Reporting (x >>= f) := fun w h =>
  (hx w h).bind fun a t ht => (hf a t ht.orderly).mono (fun _ _ hu => ht.trans hu)
    fun _ _ hu => ht.trans hu

theorem gets_bind {g : E1World → α} {f : α → E1Process β} (hf : ∀ a, Reporting (f a)) :
    Reporting (Process.gets g >>= f) :=
  fun w h => hf (g w) w h

theorem onlyIf {c : Prop} [Decidable c] {x : E1Process Unit} (hx : Reporting x) :
    Reporting (onlyIf c x) := fun w h =>
  Survives.ite (fun _ => hx w h) fun _ => Survives.pure (.refl h)

theorem halt : Reporting (setPhase .halted) :=
  fun _ h => ⟨h, rfl, Or.inr rfl, rfl, id⟩

end Reporting

theorem tail_append (hload : w.journalFile.load = .ok w.records) :
    (w.appended r).journalFile.tail ≠ .unterminated ∧
      (w.journalFile.tail ≠ .unterminated →
        (w.appended r).journalFile = { records := (w.appended r).records }) := by
  obtain ⟨htail, hrecords⟩ := load_ok hload
  have hfile : (w.appended r).journalFile =
      { records := w.journalFile.records ++ [r]
        tail := if w.journalFile.tail = .terminated then .terminated else .unreadable } := rfl
  rw [hfile]
  refine ⟨by dsimp only; split <;> nofun, fun hnot => ?_⟩
  have hterminated : w.journalFile.tail = .terminated := by
    cases hcase : w.journalFile.tail <;> simp_all
  rw [if_pos hterminated, hrecords]
  rfl

theorem appendPlain_reporting (h : entry.eventType.plain = true) :
    Reporting (append setup sha entry) := by
  intro w horderly
  refine (append_survives horderly).mono ?_ ?_
  · rintro _ _ ⟨rfl, hload, -⟩
    refine ⟨horderly.appended _, rfl, Or.inl rfl, pendingOf_append_other ?_ (Or.inl ?_),
      fun _ => (tail_append hload).1⟩
    · intro htype
      have hplain : entry.eventType = .intentPrepared := htype
      rw [hplain] at h
      cases h
    · show entry.eventType.resolving = false
      cases htype : entry.eventType <;> rw [htype] at h <;> first | rfl | cases h
  · rintro _ _ ⟨rfl, -⟩
    exact ⟨horderly.spendAppend, rfl, Or.inl rfl, rfl, id⟩

theorem appendFakeAlert_reporting (now : Timestamp) (reason : String) :
    Reporting (appendFakeAlert setup sha now reason) :=
  .gets_bind fun _ => appendPlain_reporting rfl

theorem appendHalt_reporting (now : Timestamp) (reason : String) :
    Reporting (appendHalt setup sha now reason) :=
  .gets_bind fun _ => .bind (appendPlain_reporting rfl) fun _ => .halt

theorem reportFaults_reporting (now : Timestamp) (isRestart : Bool)
    (source : Option JournalRecord) : Reporting (reportFaults setup sha now isRestart source) := by
  cases source with
  | none => exact .pure ()
  | some source =>
      have hfault : ∀ kind, Reporting (recordFaultHandled setup sha now kind source) :=
        fun _ => .gets_bind fun _ => appendPlain_reporting rfl
      exact .bind (.onlyIf (hfault _)) fun _ => .onlyIf (hfault _)

theorem haltRejected_reporting (now : Timestamp) (source : Option JournalRecord) :
    Reporting (haltRejected setup sha now source) :=
  .gets_bind fun _ => .onlyIf (.bind (appendFakeAlert_reporting _ _) fun _ =>
    appendHalt_reporting _ _)

theorem haltKilled_reporting (now : Timestamp) : Reporting (haltKilled setup sha now) := by
  refine .gets_bind fun w => ?_
  split
  · exact .bind (.onlyIf (appendFakeAlert_reporting _ _)) fun _ => appendHalt_reporting _ _
  · exact .pure ()

def E1World.Lingers (w t : E1World) : Prop :=
  t.journalPreexisting = w.journalPreexisting ∧ (t.phase = w.phase ∨ t.phase = .halted)

def E1World.Reconciling (w : E1World) : Prop :=
  (w.phase = .bootReconcileRequired ∧ w.journalPreexisting = true) ∨
    w.phase = .reconcileRequired

theorem E1World.Reconciling.steady (h : w.Reconciling) (ht : w.Lingers t) :
    t.Steady setup sha := by
  obtain ⟨hpre, hphase | hphase⟩ := ht
  swap
  · exact .of_blocked (Or.inl hphase)
  rcases h with ⟨hboot, htrue⟩ | hreconcile
  · constructor
    · intro hstable
      rw [hphase, hboot] at hstable
      cases hstable
    · rintro (hack | ⟨-, hfalse⟩)
      · exact nomatch (hphase.trans hboot).symm.trans hack
      · exact nomatch (hpre.trans htrue).symm.trans hfalse
  · exact .of_blocked (Or.inr (hphase.trans hreconcile))

theorem E1World.Reports.lingers (h : w.Reports t) : w.Lingers t :=
  ⟨h.preexisting, h.phase⟩

theorem recordReconcileMismatch_lingers {reason : String}
    {expected observed : HexDigest} {source : Option JournalRecord} (h : w.Orderly) :
    Survives (recordReconcileMismatch setup sha now reason expected observed source) w
      (fun _ t => w.Lingers t) fun _ t => w.Lingers t := by
  have hrest : Reporting (appendFakeAlert setup sha now reason >>= fun _ =>
      appendHalt setup sha now KillReason.reconcileMismatch.value) :=
    .bind (appendFakeAlert_reporting _ _) fun _ => appendHalt_reporting _ _
  refine Survives.gets_bind (Survives.bind ((append_survives h).mono (fun _ _ ht => ht) ?_) ?_)
  · rintro _ _ ⟨rfl, -⟩
    exact ⟨rfl, Or.inl rfl⟩
  · rintro _ _ ⟨rfl, -, -⟩
    exact (hrest _ (h.appended _)).mono (fun _ _ ht => ht.lingers) fun _ _ ht => ht.lingers

/-- **A matched reconciliation** ends halted, or on a journal that is clear. -/
theorem recordReconcileMatched_steadies {now : Timestamp} {isRestart : Bool}
    {status : ReconcileStatus} {observed : HexDigest} {source : Option JournalRecord}
    {w : E1World} (h : w.Orderly) (hreconciling : w.Reconciling)
    (hpending : pendingOf w.records = source.toList) :
    Steadies setup sha
      (recordReconcileMatched setup sha now isRestart status observed source) w := by
  refine Survives.gets_bind (Survives.bind ((append_survives h).mono (fun _ _ ht => ht) ?_) ?_)
  · rintro _ _ ⟨rfl, -⟩
    exact hreconciling.steady ⟨rfl, Or.inl rfl⟩
  rintro _ _ ⟨rfl, hload, -⟩
  generalize hrecord : w.recordOf setup sha _ = r
  have htype : r.eventType = .reconcileMatched := by rw [← hrecord]; rfl
  have hintent : r.intentId = source.bind fun s => s.intentId := by rw [← hrecord]; rfl
  -- the one unresolved intent is resolved by this record
  have hresolved : pendingOf (w.appended r).records = [] := by
    cases source with
    | none =>
        exact (pendingOf_append_other (by rw [htype]; nofun) (Or.inr hintent)).trans hpending
    | some s =>
        exact pendingOf_append_resolving hpending (by rw [htype]; nofun) (by rw [htype]; rfl)
          hintent
  have hlingers : ∀ {t}, (w.appended r).Reports t → t.Steady setup sha :=
    fun ht => hreconciling.steady ht.lingers
  refine Survives.bind ((reportFaults_reporting now isRestart source _ (h.appended r)).mono
    (fun _ _ ht => ht) fun _ _ ht => hlingers ht) fun _ t₁ h₁ => ?_
  refine Survives.bind ((haltRejected_reporting now source t₁ h₁.orderly).mono
    (fun _ _ ht => h₁.trans ht) fun _ _ ht => hlingers (h₁.trans ht)) fun _ t₂ h₂ => ?_
  refine Survives.bind ((haltKilled_reporting now t₂ h₂.orderly).mono
    (fun _ _ ht => h₂.trans ht) fun _ _ ht => hlingers (h₂.trans ht)) fun _ t₃ h₃ => ?_
  show E1World.Steady setup sha { t₃ with phase := _ }
  by_cases hsticky : t₃.killActive = true ∨ t₃.halted = true
  · rw [id_eq, if_pos hsticky]
    exact .of_blocked (Or.inl rfl)
  · rw [id_eq, if_neg hsticky]
    rw [not_or, Bool.not_eq_true, Bool.not_eq_true] at hsticky
    refine ⟨nofun, fun _ => ⟨h₃.pending.trans hresolved, hsticky.1, hsticky.2, ?_⟩⟩
    exact h₃.tail (tail_append hload).1

theorem reconcile_steadies (h : w.Orderly)
    (hreconciling : w.Reconciling) : Steadies setup sha (reconcile setup sha now isRestart) w := by
  have hmismatch : ∀ reason expected observed source, Steadies setup sha
      (recordReconcileMismatch setup sha now reason expected observed source >>= fun _ =>
        (pure .mismatchHalted : E1Process ReconcileStatus)) w := fun _ _ _ _ =>
    ((recordReconcileMismatch_lingers h).mono (fun _ _ ht => ht)
      fun _ _ ht => hreconciling.steady ht).bind fun _ _ ht => hreconciling.steady ht
  have hread : Survives unresolvedIntents w
      (fun pending t => t = w ∧ pendingOf w.records = pending) fun _ t => t = w := by
    unfold Survives Process.run unresolvedIntents
    cases hread : ShadowIntentJournal.unresolvedIntents w.records with
    | error e => rfl
    | ok pending => exact ⟨rfl, (unresolvedIntents_eq_ok.mp hread).2⟩
  refine Survives.gets_bind ((hread.mono (fun _ _ ht => ht)
    fun _ _ ht => by rw [ht]; exact hreconciling.steady ⟨rfl, Or.inl rfl⟩).bind ?_)
  rintro pending t ⟨ht, hpending⟩
  rw [ht]
  split
  · exact Survives.ite (fun _ => hmismatch _ _ _ _) fun _ =>
      @recordReconcileMatched_steadies _ _ _ _ _ _ none _ h hreconciling hpending
  case h_2 source =>
    exact Survives.ite
      (fun _ =>
        @recordReconcileMatched_steadies _ _ _ _ _ _ (some source) _ h hreconciling hpending)
      fun _ => Survives.ite
        (fun _ =>
        @recordReconcileMatched_steadies _ _ _ _ _ _ (some source) _ h hreconciling hpending)
        fun _ => hmismatch _ _ _ _
  · exact hmismatch _ _ _ _

theorem E1World.Clear.noted (h : w.Clear)
    (hload : w.journalFile.load = .ok w.records) (hnoted : r.eventType.noted = true) :
    (w.appended r).Clear := by
  obtain ⟨hkill, hhalt⟩ := sticky_noted (l := w.records) hnoted
  exact ⟨(pendingOf_noted hnoted).trans h.pending, hkill.trans h.alive, hhalt.trans h.running,
    (tail_append hload).1⟩

theorem E1World.Clear.spendAppend (h : w.Clear) : w.spendAppend.Clear :=
  ⟨h.pending, h.alive, h.running, h.tail⟩

theorem E1World.Clear.ready (h : w.Clear)
    (horderly : w.Orderly) (hload : w.journalFile.load = .ok w.records)
    (hcheck : (w.recordOf setup sha entry).check = .ok ()) :
    (w.appended (w.recordOf setup sha entry)).Ready setup :=
  ⟨(JournalRecord.check_eq_ok.mp hcheck).run, (tail_append hload).2 h.tail, horderly.appended _⟩

/-- An engine that is not stable is as steady behind what keeps its phase and journal. -/
theorem E1World.Steady.unstable (h : w.Steady setup sha)
    (hunstable : w.phase.unreconciled = true) (hphase : t.phase = w.phase)
    (hpre : t.journalPreexisting = w.journalPreexisting) (hclear : w.Clear → t.Clear) :
    t.Steady setup sha := by
  constructor
  · intro hstable
    rw [hphase, hunstable] at hstable
    cases hstable
  · intro hcase
    rw [hphase, hpre] at hcase
    exact hclear (h.clear hcase)

theorem appendNote_steadies (h : w.Steady setup sha)
    (horderly : w.Orderly) (hnoted : entry.eventType.noted = true)
    (hexpected : entry.expectedStateDigest = w.expectedDigest sha) :
    Steadies setup sha (append setup sha entry) w := by
  cases hphase : w.phase.unreconciled with
  | false =>
      have hsettled := h.settled hphase
      refine (appendNote_survives hsettled.ready hnoted
        (hexpected.trans hsettled.expected)).mono (fun _ _ ht => ?_) fun _ _ ht => ?_
      · exact (hsettled.of_noted ht.1 ht.2).steady
      · exact (hsettled.of_unmoved ht.1 ht.2).steady
  | true =>
      refine (append_survives horderly).mono ?_ ?_
      · rintro _ _ ⟨rfl, hload, -⟩
        exact h.unstable hphase rfl rfl fun hclear => hclear.noted hload hnoted
      · rintro _ _ ⟨rfl, -⟩
        exact h.unstable hphase rfl rfl fun hclear => hclear.spendAppend

theorem append_phase (entry : JournalEntry) :
    Within (Frame.fixes E1World.phase) (append setup sha entry) := by
  intro w
  rcases @append_run setup sha entry w with
    ⟨e, hrun⟩ | ⟨-, hrun | ⟨o, written, -, hrun⟩⟩ <;> rw [hrun] <;> rfl

def stayHalted : Frame E1World :=
  Frame.keeps fun w => w.phase = .halted

theorem append_stayHalted (entry : JournalEntry) : Within stayHalted (append setup sha entry) :=
  fun w h => (append_phase entry w).trans h

theorem killUnreconciled_steadies
    : Steadies setup sha (killUnreconciled setup sha now reason deadman) w := by
  unfold killUnreconciled
  refine Survives.modify_bind ?_
  have hrest : Within stayHalted (onPersistenceError
      (do
        let w ← Process.gets id
        append setup sha
          (killEntry sha w deadman now reason
            ["NEW_ENTRY_BLOCKED_IMMEDIATELY", "UNRECONCILED_STATE_NO_EXECUTION_ATTEMPT"])
        appendFakeAlert setup sha now "UNRECONCILED_STATE_KILL_REQUIRES_RESTART_RECONCILE"
        appendHalt setup sha now reason.value)
      (Process.raise (engineError "blocked-state kill could not be durably completed"))) := by
    refine Within.attempt (Within.bind (Within.gets _) fun _ =>
      Within.bind (append_stayHalted _) fun _ => Within.bind ?_ fun _ => ?_)
      fun _ => Within.ite (Within.raise _) (Within.raise _)
    · exact Within.bind (Within.gets _) fun _ => append_stayHalted _
    · exact Within.bind (Within.gets _) fun _ => Within.bind (append_stayHalted _)
        fun _ => Within.modify fun _ _ => rfl
  have hall := hrest.bind (f := fun _ => cycleResult "RECONCILE_REQUIRED_DURABLE_KILL_NO_ATTEMPT"
    ["NO_RETRY", "UNRESOLVED_OR_UNRECONCILED_STATE"] false false) fun _ => Within.gets _
  exact (Survives.of_withinAt (hall { w with phase := .halted })).mono
    (fun _ _ ht => .of_blocked (Or.inl (ht rfl))) fun _ _ ht => .of_blocked (Or.inl (ht rfl))

theorem activateKill_unstable {market : Option MarketFrame}
    (h : w.Steady setup sha) (hunstable : w.phase.unreconciled = true) :
    Steadies setup sha (activateKill setup sha now reason market fault deadman) w := by
  refine Survives.gets_bind (Survives.ite (fun _ => .of_blocked (Or.inl rfl)) fun _ =>
    Survives.ite (fun _ => .of_blocked (Or.inl rfl)) fun _ => ?_)
  have hread : Survives unresolvedIntents w (fun _ t => t = w) fun _ t => t = w := by
    unfold Survives Process.run unresolvedIntents
    cases ShadowIntentJournal.unresolvedIntents w.records <;> rfl
  refine (hread.mono (fun _ _ ht => ht) fun _ _ ht => by rw [ht]; exact h).bind ?_
  rintro pending t ht
  rw [ht]
  exact Survives.ite (fun _ => killUnreconciled_steadies) fun hnot =>
    absurd (Or.inr hunstable) hnot

theorem processDecision_unstable {stop : Option ℚ} (h : w.Steady setup sha)
    (hunstable : w.phase.unreconciled = true) :
    Steadies setup sha (processDecision setup sha decision market stop fault) w := by
  unfold processDecision assertProcessableState
  refine Survives.bind (P := fun _ _ => False) ?_ fun _ _ => False.elim
  refine Survives.gets_bind (Survives.ite (fun _ => .of_blocked (Or.inl rfl)) fun _ => ?_)
  refine Survives.require_bind (fun hphase => ?_) fun _ => h
  rcases hphase with hphase | hphase <;> rw [id_eq] at hphase <;> rw [hphase] at hunstable <;>
    cases hunstable

theorem acknowledgeRestart_steadies (h : w.Steady setup sha) (horderly : w.Orderly) :
    Steadies setup sha (acknowledgeRestart setup sha now acknowledged) w := by
  refine Survives.gets_bind (Survives.require_bind (fun hphase => ?_) fun _ => h)
  refine Survives.ite (fun _ => h) fun _ => ?_
  have hclear := h.clear (Or.inl hphase)
  refine Survives.bind ((append_survives horderly).mono (fun _ _ ht => ht) ?_) ?_
  · rintro _ _ ⟨rfl, -⟩
    refine h.unstable ?_ rfl rfl fun hclear => hclear.spendAppend
    rw [show w.phase = .restartAckRequired from hphase]
    rfl
  · rintro _ _ ⟨rfl, hload, hcheck⟩
    have hnoted := hclear.noted hload
      (r := w.recordOf setup sha (stableEntry sha w .restartAckRecorded now
        "OPERATOR_RESTART_ACK_RECORDED" [])) rfl
    refine .of_settled ⟨(hclear.ready horderly hload hcheck).of_same rfl rfl rfl, hnoted.pending,
      hnoted.alive, hnoted.running, ?_, rfl⟩
    show expectedStateDigest sha (w.records ++ [_]) = _
    unfold expectedStateDigest
    rw [List.getLast?_concat]
    rfl

theorem bootReconcile_steadies (h : w.Steady setup sha)
    (horderly : w.Orderly) : Steadies setup sha (bootReconcile setup sha now) w := by
  refine Survives.gets_bind (Survives.require_bind (fun hphase => ?_) fun _ => h)
  refine Survives.ite (fun hpre => reconcile_steadies horderly (Or.inl ⟨hphase, hpre⟩))
    fun hpre => ?_
  have hclear := h.clear (Or.inr ⟨hphase, by simpa using hpre⟩)
  refine Survives.bind ((append_survives horderly).mono (fun _ _ ht => ht) ?_) ?_
  · rintro _ _ ⟨rfl, -⟩
    refine h.unstable ?_ rfl rfl fun hclear => hclear.spendAppend
    rw [show w.phase = .bootReconcileRequired from hphase]
    rfl
  rintro _ _ ⟨rfl, hload, hcheck⟩
  have hready := hclear.ready horderly hload hcheck
  refine Survives.ite (fun _ => ?_) fun hflat => ?_
  · exact ((recordReconcileMismatch_ready hready
      (namedLabel_safe (by simp [namedLabels]))).mono (fun _ _ ht => ht)
      fun _ _ => False.elim).bind fun _ _ ht => .of_blocked (Or.inl ht.2)
  · have hnone : w.position = none := by simpa using hflat
    have hnoted := hclear.noted hload
      (r := w.recordOf setup sha { stableEntry sha w .runStarted now "E1_RUN_STARTED" [] with
        expectedStateDigest := positionDigest sha none }) rfl
    refine .of_settled ⟨hready.of_same rfl rfl rfl, hnoted.pending, hnoted.alive,
      hnoted.running, ?_, ?_⟩
    · show expectedStateDigest sha (w.records ++ [_]) = positionDigest sha w.position
      unfold expectedStateDigest
      rw [List.getLast?_concat, hnone]
      rfl
    · show EnginePhase.readyFlat = stablePhase w.position
      rw [hnone]
      rfl

theorem checkDeadman_eq {market : Option MarketFrame}
    :
    (checkDeadman setup sha now market fault).run w =
      if heartbeatWithin setup w now = true then
        (cycleResult "DEADMAN_HEARTBEAT_WITHIN_SLA" [] false false).run w
      else (activateKill setup sha now .deadmanHeartbeatExpired market fault true).run w := by
  unfold checkDeadman heartbeatWithin
  rw [Process.run_gets_bind]
  split <;> rfl

/-- **Every call keeps a living engine steady** that it does not leave open. -/
theorem exec_steadies {op : E1Op} (h : w.Steady setup sha) (horderly : w.Orderly)
    (hopen : callOpen setup sha w op = false) : Steadies setup sha (op.exec setup sha) w := by
  have hstable : ∀ {x : Bool}, w.phase.unreconciled = false →
      (!w.phase.unreconciled && (ShadowIntentJournal.unresolvedIntents w.records).isOk && x) =
        false →
      (ShadowIntentJournal.unresolvedIntents w.records).isOk = true → x = false := by
    intro x hphase hall hok
    simpa [hphase, hok] using hall
  unfold callOpen at hopen
  cases op with
  | bootReconcile now => exact Survives.map (bootReconcile_steadies h horderly)
  | reconcileAfterUncertain now =>
      exact Survives.map (Survives.gets_bind (Survives.require_bind
        (fun hphase => reconcile_steadies horderly (Or.inr hphase)) fun _ => h))
  | acknowledgeRestart now acknowledged =>
      exact Survives.map (acknowledgeRestart_steadies h horderly)
  | recordHeartbeat now =>
      refine Survives.map (Survives.gets_bind (Survives.require_bind (fun hphase => ?_)
        fun _ => h))
      have hsettled := h.settled (by
        rcases hphase with hphase | hphase <;> rw [id_eq] at hphase <;> rw [hphase] <;> rfl)
      exact (appendNote_steadies h horderly rfl hsettled.expected.symm).bind fun _ _ ht => ht
  | recordIncident now incidentRef severity reasonCode =>
      refine Survives.map (Survives.gets_bind
        ((appendNote_steadies h horderly rfl rfl).bind fun _ t ht => ?_))
      exact Survives.require_bind (fun _ => ht) fun _ => ht
  | recordPostmortem now incidentRef =>
      exact Survives.map (Survives.gets_bind
        ((appendNote_steadies h horderly rfl rfl).bind fun _ _ ht => ht))
  | processDecision decision market stop fault =>
      refine Survives.map ?_
      cases hphase : w.phase.unreconciled with
      | false => exact processDecision_steadies (h.settled hphase) (hstable hphase hopen)
      | true => exact processDecision_unstable h hphase
  | activateKill now reason market fault deadman =>
      refine Survives.map ?_
      cases hphase : w.phase.unreconciled with
      | false => exact activateKill_steadies (h.settled hphase) (hstable hphase hopen)
      | true => exact activateKill_unstable h hphase
  | checkDeadman now market fault =>
      refine Survives.map ?_
      unfold Survives
      rw [checkDeadman_eq]
      by_cases hbeat : heartbeatWithin setup w now = true
      · rw [if_pos hbeat]
        exact h
      · rw [if_neg hbeat]
        cases hphase : w.phase.unreconciled with
        | false =>
            refine activateKill_steadies (h.settled hphase) fun hok => ?_
            have hkill := hstable hphase hopen hok
            simpa [hbeat] using hkill
        | true => exact activateKill_unstable h hphase

def JournalFile.Ended (file : JournalFile) : Prop :=
  file.tail = .unterminated → file.records ≠ []

theorem ended_write {file : JournalFile} {written : Written}
    (h : file.Ended) : (file.write written r).Ended := by
  unfold JournalFile.Ended at h ⊢
  cases written with
  | nothing => exact h
  | torn => exact nofun
  | unterminated => exact fun _ hnil => by simp [JournalFile.write] at hnil
  | line => exact fun _ hnil => by simp [JournalFile.write] at hnil

/-- What the agreement needs of the two files in every state of a run. -/
structure E1World.Stored (setup : E1Setup) (sha : Sha256) (w : E1World) : Prop where
  sound : w.Sound setup sha
  synced : w.Synced
  ended : w.journalFile.Ended

theorem E1World.Stored.step
    (hstep : E1Step setup sha start w w') (h : w.Stored setup sha) : w'.Stored setup sha := by
  refine ⟨h.sound.step hstep, h.synced.step hstep, ?_⟩
  cases hstep with
  | quiet hsame =>
      rw [hsame.journalFile]
      exact h.ended
  | enter phase _ hresult =>
      subst hresult
      exact h.ended
  | append r _ _ _ hresult =>
      rcases hresult with rfl | ⟨written, rfl⟩ <;> exact ended_write h.ended
  | change x position _ hresult =>
      rcases hresult with rfl | ⟨-, rfl⟩ <;> exact h.ended

theorem stored_kept (r : E1Run) (input : E1Input) (h : r.world.Stored setup sha)
    (hinput : input.FailsBeforeRename) : (e1Step setup sha r input).world.Stored setup sha :=
  e1_kept (I := fun w => w.Stored setup sha) (C := fun _ i => i.FailsBeforeRename)
    (fun _ h => h.sound.changesBehind) (fun _ _ _ hstep h => h.step hstep)
    (fun _ _ h hcall => ⟨h.sound.of_same rfl rfl rfl List.prefix_rfl,
      ⟨h.synced.position, hcall⟩, h.ended⟩)
    (fun w _ h => ⟨h.sound.reloaded, .reloaded w, h.ended⟩) r input h hinput

theorem E1World.Steady.given {c : E1Call} (h : w.Steady setup sha)
    (horderly : (w.given c).Orderly) : (w.given c).Steady setup sha := by
  refine ⟨fun hstable => ?_, fun hcase => ?_⟩
  · obtain ⟨hready, hpending, halive, hrunning, hexpected, hphase⟩ := h.settled hstable
    exact ⟨⟨hready.named, hready.file, horderly⟩, hpending, halive, hrunning, hexpected, hphase⟩
  · obtain ⟨hpending, halive, hrunning, htail⟩ := h.clear hcase
    exact ⟨hpending, halive, hrunning, htail⟩

theorem E1World.Stored.steady_reloaded (h : w.Stored setup sha) :
    w.reloaded.Steady setup sha := by
  refine ⟨nofun, ?_⟩
  rintro (hack | ⟨-, hnew⟩)
  · cases hack
  · have hempty : w.journalFile.records = [] := by
      have hisEmpty : (!w.journalFile.records.isEmpty) = false := hnew
      simpa using hisEmpty
    exact ⟨by show pendingOf w.journalFile.records = []; rw [hempty]; rfl,
      by show ShadowIntentJournal.killActive w.journalFile.records = false; rw [hempty]; rfl,
      by show ShadowIntentJournal.halted w.journalFile.records = false; rw [hempty]; rfl,
      fun htail => h.ended htail hempty⟩

/-- **One input keeps the living engine steady** that no call leaves open. -/
theorem steady_kept (r : E1Run) (input : E1Input)
    (h : r.world.Stored setup sha ∧ (r.live = true → r.world.Steady setup sha))
    (hinput : (input.FailsBeforeRename ∧ input.AppendsOrDies) ∧ Concludes setup sha r input) :
    (e1Step setup sha r input).world.Stored setup sha ∧
      ((e1Step setup sha r input).live = true →
        (e1Step setup sha r input).world.Steady setup sha) := by
  refine ⟨stored_kept r input h.1 hinput.1.1, ?_⟩
  cases input with
  | restart =>
      rw [e1Step]
      split
      · exact fun hlive => absurd hlive Bool.false_ne_true
      · exact fun _ => h.1.steady_reloaded
  | call c =>
      by_cases hlive : r.live = true
      swap
      · rw [e1Step, if_neg hlive]
        exact fun hnot => absurd hnot hlive
      rw [e1Step, if_pos hlive]
      have horderly : (r.world.given c).Orderly := hinput.1.2
      have hexec := exec_steadies ((h.2 hlive).given horderly) horderly (hinput.2 hlive)
      intro halive
      unfold E1Run.execute at halive ⊢
      unfold Steadies Survives at hexec
      rcases hend : (c.op.exec setup sha).run (r.world.given c) with ⟨o, t⟩
      rw [hend] at halive hexec
      cases o with
      | returned a => exact hexec
      | raised e => exact hexec
      | killed => simp at halive

theorem E1World.Steady.agrees (h : w.Steady setup sha) (hsynced : w.Synced) : Agrees sha w := by
  intro hstable
  obtain ⟨hready, hpending, halive, hrunning, hexpected, hphase⟩ := h.settled hstable
  rw [hready.file, ← hsynced.position]
  refine ⟨hpending, halive, hrunning, hexpected, ?_⟩
  rw [hphase]
  unfold stablePhase
  cases w.position <;> simp

/-- **Phase, journal and venue agree** in every state of a run that leaves no call open. -/
theorem phase_journal_venue_agree (setup : E1Setup) (sha : Sha256)
    (venueFile : Option VirtualPosition) (inputs : List E1Input)
    (hscope : ∀ i ∈ inputs, i.FailsBeforeRename ∧ i.AppendsOrDies)
    (hopen : MeetsAlong (e1Step setup sha) (Concludes setup sha) (newRun venueFile) inputs) :
    let r := after (e1Step setup sha) (newRun venueFile) inputs
    r.live = true → Agrees sha r.world := by
  intro r hlive
  have hall := invariant_after
    (I := fun r => r.world.Stored setup sha ∧ (r.live = true → r.world.Steady setup sha))
    (C := fun r i => (i.FailsBeforeRename ∧ i.AppendsOrDies) ∧ Concludes setup sha r i)
    steady_kept (s := newRun venueFile)
    ⟨⟨sound_new venueFile, synced_new venueFile, nofun⟩, nofun⟩
    (MeetsAlong.and (meetsAlong_of_mem hscope) hopen)
  exact (hall.2 hlive).agrees hall.1.synced

end Agreement

open Sample in
/-- An entry and its settlement. -/
theorem sample_agrees :
    Agrees .checksum (after (e1Step setup .checksum) (newRun none)
      (started ++ [call (buy 10 {}), call (settle 10 100 {})])).world :=
  phase_journal_venue_agree setup .checksum none _ (by decide) (by decide +kernel)
    (by decide +kernel)

namespace Sample

/-- An entry whose token is alive when its intent is committed, and dead when its execution
begins. -/
def lateToken : List E1Input :=
  started ++ [.call { op := buy 10 {}, clockReadings := [0, 0, seconds 5] }]

end Sample

/-- The engine is ready and flat, and its intent is unresolved. -/
theorem intent_left_behind_late_token :
    let r := after (e1Step Sample.setup .checksum) (newRun none) Sample.lateToken
    (∀ i ∈ Sample.lateToken, i.FailsBeforeRename ∧ i.AppendsOrDies) ∧ r.live = true ∧
      r.world.phase = .readyFlat ∧ ¬Agrees .checksum r.world := by
  intro r
  exact ⟨by decide, by decide +kernel⟩

end FxStrategyLab.E1
