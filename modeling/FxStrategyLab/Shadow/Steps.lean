import FxStrategyLab.Shadow.Runs

/-!
# Every call of the E1 shadow engine is a sequence of its steps

The steps say once what the engine does to its two files; this file shows that
each method stays within them, however it ends.  A record that needs more than
its own kind, such as the start of an execution, is followed from the state in
which the method is called.
-/

namespace FxStrategyLab.E1

open Library

/-- The bound of processes that leave files, memory and phase alone. -/
def quietFrame : Frame E1World where
  rel := E1World.QuietTo
  refl _ := ⟨rfl, rfl, rfl, rfl, rfl, rfl, rfl, List.prefix_rfl, List.suffix_rfl, List.suffix_rfl⟩
  trans h₁ h₂ :=
    ⟨h₂.journalFile.trans h₁.journalFile, h₂.venueFile.trans h₁.venueFile,
      h₂.records.trans h₁.records, h₂.position.trans h₁.position, h₂.phase.trans h₁.phase,
      h₂.journalPreexisting.trans h₁.journalPreexisting, h₂.mutations.trans h₁.mutations,
      h₁.mintedTexts.trans h₂.mintedTexts, h₂.venueIncidents.trans h₁.venueIncidents,
      h₂.appendIncidents.trans h₁.appendIncidents⟩

theorem readClock_quiet : Within quietFrame readClock :=
  fun _ => ⟨rfl, rfl, rfl, rfl, rfl, rfl, rfl, List.prefix_rfl, List.suffix_rfl, List.suffix_rfl⟩

theorem unresolvedIntents_quiet : Within quietFrame unresolvedIntents := by
  intro w
  show quietFrame.rel w (unresolvedIntents w).2
  unfold unresolvedIntents
  split <;> exact quietFrame.refl w

theorem cycleResult_quiet (status : String) (reasons : List String) (attempted issued : Bool) :
    Within quietFrame (cycleResult status reasons attempted issued) :=
  Within.gets _

section Engine

variable {setup : E1Setup} {sha : Sha256} {start : List JournalRecord}

theorem validateToken_quiet (token : ShadowGateToken) :
    Within quietFrame (validateToken setup sha token) :=
  Within.bind (Within.gets _) fun _ =>
    Within.bind (Within.require _ _) fun _ =>
      Within.bind (Within.require _ _) fun _ =>
        Within.bind readClock_quiet fun _ => Within.require _ _

theorem issue_quiet (action : GateAction) (intentId : LocalId) (intentDigest : HexDigest) :
    Within quietFrame (issue setup sha action intentId intentDigest) :=
  Within.bind
    (Within.modify fun _ =>
      ⟨rfl, rfl, rfl, rfl, rfl, rfl, rfl, List.prefix_rfl, List.suffix_rfl, List.suffix_rfl⟩)
    fun _ => Within.bind readClock_quiet fun _ =>
      Within.bind (Within.gets _) fun _ =>
        Within.bind
          (Within.modify fun _ =>
            ⟨rfl, rfl, rfl, rfl, rfl, rfl, rfl, List.prefix_rfl, List.suffix_rfl, List.suffix_rfl⟩)
          fun _ => Within.pure _

theorem beginExecution_quiet (token : ShadowGateToken) :
    Within quietFrame (beginExecution setup sha token) :=
  Within.bind (validateToken_quiet token) fun _ =>
    Within.bind (Within.gets _) fun _ =>
      Within.bind (Within.require _ _) fun _ =>
        Within.bind (Within.require _ _) fun _ =>
          Within.bind (Within.require _ _) fun _ =>
            Within.modify fun _ =>
              ⟨rfl, rfl, rfl, rfl, rfl, rfl, rfl, List.prefix_rfl, List.suffix_rfl, List.suffix_rfl⟩

theorem mintIntentId_quiet (payload : CanonicalText) :
    Within quietFrame (mintIntentId sha payload) :=
  Within.bind
    (Within.modify fun _ =>
      ⟨rfl, rfl, rfl, rfl, rfl, rfl, rfl, List.prefix_append _ _, List.suffix_rfl, List.suffix_rfl⟩)
    fun _ => Within.pure _

variable {α : Type}

theorem steps_of_quiet {x : E1Process α} (h : Within quietFrame x) :
    Within (e1Frame setup sha start) x :=
  fun w => .single (.quiet (h w))

theorem append_run (entry : JournalEntry) (w : E1World) :
    (∃ e, (append setup sha entry).run w = (.raised e, w.spendAppend)) ∨
      (w.journalFile.load = .ok w.records ∧
        ((append setup sha entry).run w =
            (.returned (), w.appended (w.recordOf setup sha entry)) ∨
          ∃ o written, (o = .raised (persistenceError "journal append/fsync failed") ∨ o = .killed) ∧
            (append setup sha entry).run w =
              (o, w.writtenTo written (w.recordOf setup sha entry)))) := by
  show (∃ e, append setup sha entry w = _) ∨ _ ∧ (append setup sha entry w = _ ∨
    ∃ o written, _ ∧ append setup sha entry w = _)
  unfold append
  cases hload : w.journalFile.load with
  | error e => exact Or.inl ⟨e, rfl⟩
  | ok disk =>
      by_cases hdisk : disk = w.records
      swap
      · exact Or.inl ⟨_, if_pos hdisk⟩
      subst hdisk
      cases hcheck : (w.recordOf setup sha entry).check with
      | error e => exact Or.inl ⟨e, by simp [hcheck]⟩
      | ok u =>
          refine Or.inr ⟨rfl, ?_⟩
          cases hincident : w.appendIncidents.headD .quiet with
          | quiet => exact Or.inl (by simp [hcheck])
          | raises written =>
              exact Or.inr ⟨_, written, Or.inl rfl, by simp [hcheck]⟩
          | crashes written =>
              exact Or.inr ⟨_, written, Or.inr rfl, by simp [hcheck]⟩

variable {w t u v : E1World} {entry : JournalEntry} {a : Unit}

theorem append_returned (h : (append setup sha entry).run w = (.returned a, t)) :
    w.journalFile.load = .ok w.records ∧ t = w.appended (w.recordOf setup sha entry) := by
  rcases @append_run setup sha entry w with
    ⟨e, hrun⟩ | ⟨hload, hrun | ⟨o, written, ho, hrun⟩⟩
  · rw [hrun] at h
    cases h
  · rw [hrun] at h
    cases h
    exact ⟨hload, rfl⟩
  · rw [hrun] at h
    rcases ho with rfl | rfl <;> cases h

theorem spendAppend_quiet (w : E1World) : w.QuietTo w.spendAppend :=
  ⟨rfl, rfl, rfl, rfl, rfl, rfl, rfl, List.prefix_rfl, List.suffix_rfl, List.tail_suffix _⟩

theorem append_withinAt
    (hadmitted : Admitted setup sha start w.mintedTexts w.records (w.recordOf setup sha entry))
    (hobserved : Observed sha w (w.recordOf setup sha entry)) :
    WithinAt (e1Frame setup sha start) (append setup sha entry) w := by
  unfold WithinAt
  rcases @append_run setup sha entry w with
    ⟨e, hrun⟩ | ⟨hload, hrun | ⟨o, written, -, hrun⟩⟩
  · rw [hrun]
    exact .single (.quiet (spendAppend_quiet w))
  · rw [hrun]
    exact .single (.append _ hload hadmitted hobserved (Or.inl rfl))
  · rw [hrun]
    exact .single (.append _ hload hadmitted hobserved (Or.inr ⟨written, rfl⟩))

theorem observed_of_plain {r : JournalRecord} (h : r.eventType.plain = true) :
    Observed sha w r := by
  constructor <;> intro htype
  · simp [htype, JournalEventType.plain] at h
  · simp [htype, JournalEventType.plain] at h
  · simp [htype, JournalEventType.plain] at h
  · simp [htype, JournalEventType.plain] at h
  · cases hr : r.eventType <;> simp_all [JournalEventType.plain, JournalEventType.killing]

theorem appendPlain_within (h : entry.eventType.plain = true) :
    Within (e1Frame setup sha start) (append setup sha entry) :=
  fun _ => append_withinAt (.plain h) (observed_of_plain h)

variable {phase : EnginePhase}

theorem setPhase_within (h : ∀ w, Enters w phase) :
    Within (e1Frame setup sha start) (setPhase phase) :=
  fun w => .single (.enter phase (h w) rfl)

theorem enters_halted (w : E1World) : Enters w .halted := trivial

theorem setPhase_reconcileRequired_within :
    Within (e1Frame setup sha start) (setPhase .reconcileRequired) :=
  setPhase_within fun _ => trivial

theorem enters_stable (w : E1World) (position : Option VirtualPosition) :
    Enters w (stablePhase position) := by
  unfold stablePhase
  split <;> trivial

theorem onlyIf_within {c : Prop} [Decidable c] {x : E1Process Unit}
    (h : Within (e1Frame setup sha start) x) : Within (e1Frame setup sha start) (onlyIf c x) :=
  Within.ite h (Within.pure ())

theorem appendFakeAlert_within (now : Timestamp) (reason : String) :
    Within (e1Frame setup sha start) (appendFakeAlert setup sha now reason) :=
  Within.bind (Within.gets _) fun _ => appendPlain_within rfl

theorem appendHalt_within (now : Timestamp) (reason : String) :
    Within (e1Frame setup sha start) (appendHalt setup sha now reason) :=
  Within.bind (Within.gets _) fun _ =>
    Within.bind (appendPlain_within rfl) fun _ => setPhase_within enters_halted

theorem recordFaultHandled_within (now : Timestamp) (faultKind : FaultKind)
    (source : JournalRecord) :
    Within (e1Frame setup sha start) (recordFaultHandled setup sha now faultKind source) :=
  Within.bind (Within.gets _) fun _ => appendPlain_within rfl

theorem cycleResult_within (status : String) (reasons : List String) (attempted issued : Bool) :
    Within (e1Frame setup sha start) (cycleResult status reasons attempted issued) :=
  steps_of_quiet (cycleResult_quiet status reasons attempted issued)

theorem riskBlocked_within (market : MarketFrame) (reasons : List String) :
    Within (e1Frame setup sha start) (riskBlocked setup sha market reasons) :=
  Within.bind (Within.gets _) fun _ =>
    Within.bind (appendPlain_within rfl) fun _ => cycleResult_within _ _ _ _

variable {now : Timestamp} {reason status crash unsupported message : String}
  {expected observed intentDigest : HexDigest}

theorem recordReconcileMismatch_withinAt {source : Option JournalRecord}
    (hpending : ∀ s, source = some s →
      ShadowIntentJournal.unresolvedIntents w.records = .ok [s]) :
    WithinAt (e1Frame setup sha start)
      (recordReconcileMismatch setup sha now reason expected observed source) w := by
  refine WithinAt.gets_bind (WithinAt.bind (append_withinAt ?_ ?_) fun _ t _ => ?_)
  · exact .mismatch now reason expected observed _ source rfl hpending
  · constructor <;> intro htype <;> cases htype
  · exact Within.bind (appendFakeAlert_within _ _) (fun _ => appendHalt_within _ _) t

theorem recordStableMismatch_within (now : Timestamp) (reason : String)
    (expected observed : HexDigest) :
    Within (e1Frame setup sha start)
      (recordReconcileMismatch setup sha now reason expected observed none) :=
  fun _ => recordReconcileMismatch_withinAt fun _ h => nomatch h

theorem Execution.recorded (x : Execution) (eventType : JournalEventType)
    (status : String) (reasons : List String) (expected observed : HexDigest) (count : Nat)
    (outcome : Option ExecutionOutcome) (w : E1World) :
    x.Recorded eventType
      (w.recordOf setup sha
        (x.entry eventType status reasons expected observed count outcome)) :=
  ⟨rfl, rfl, rfl, rfl, rfl, rfl, rfl, rfl, rfl, rfl, rfl⟩

variable {durableAppend effect partialEffect : E1Process Unit} {token : ShadowGateToken}

theorem commitIntent_withinAt
    (h : ∀ v, w.QuietTo v → WithinAt (e1Frame setup sha start) durableAppend v) :
    WithinAt (e1Frame setup sha start) (commitIntent setup sha token durableAppend) w := by
  refine WithinAt.bind (steps_of_quiet (validateToken_quiet token) w) fun _ v hv => ?_
  refine WithinAt.gets_bind (WithinAt.require_bind fun _ => WithinAt.require_bind fun _ => ?_)
  refine WithinAt.bind (h v ((validateToken_quiet token).rel hv)) fun _ t _ => ?_
  refine WithinAt.gets_bind (WithinAt.require_bind fun _ => WithinAt.require_bind fun _ => ?_)
  exact .single (.quiet ⟨rfl, rfl, rfl, rfl, rfl, rfl, rfl, List.prefix_rfl, List.suffix_rfl,
                         List.suffix_rfl⟩)

theorem commitIntent_returned
    (h : (commitIntent setup sha token durableAppend).run w = (.returned a, t)) :
    ∃ v u, w.QuietTo v ∧ durableAppend.run v = (.returned (), u) ∧ u.QuietTo t := by
  obtain ⟨_, v, hv, h⟩ := Process.run_bind_eq_returned.mp h
  rw [Process.run_gets_bind] at h
  obtain ⟨-, h⟩ := Process.run_require_bind_eq_returned.mp h
  obtain ⟨-, h⟩ := Process.run_require_bind_eq_returned.mp h
  obtain ⟨_, u, hu, h⟩ := Process.run_bind_eq_returned.mp h
  rw [Process.run_gets_bind] at h
  obtain ⟨-, h⟩ := Process.run_require_bind_eq_returned.mp h
  obtain ⟨-, h⟩ := Process.run_require_bind_eq_returned.mp h
  cases h
  exact ⟨v, u, (validateToken_quiet token).rel hv, hu,
    ⟨rfl, rfl, rfl, rfl, rfl, rfl, rfl, List.prefix_rfl, List.suffix_rfl, List.suffix_rfl⟩⟩

/-- The state in which the records `later` stand behind those of `w`, durably, and nothing
else has changed. -/
structure E1World.Recorded (w t : E1World) (later : List JournalRecord) : Prop where
  records : t.records = w.records ++ later
  durable : t.journalFile.records = t.records
  venueFile : t.venueFile = w.venueFile
  position : t.position = w.position
  phase : t.phase = w.phase
  mutations : t.mutations = w.mutations
  mintedTexts : w.mintedTexts <+: t.mintedTexts
  venueIncidents : t.venueIncidents <:+ w.venueIncidents

variable {records later more pending : List JournalRecord}

theorem load_ok {file : JournalFile}
    (h : file.load = .ok records) : file.tail ≠ .unreadable ∧ file.records = records := by
  unfold JournalFile.load at h
  split at h
  · cases h
  case isFalse htail =>
    cases h
    exact ⟨htail, rfl⟩

theorem recorded_of_append (h : (append setup sha entry).run w = (.returned a, t)) :
    w.Recorded t [w.recordOf setup sha entry] := by
  obtain ⟨hload, rfl⟩ := append_returned h
  refine ⟨rfl, ?_, rfl, rfl, rfl, rfl, List.prefix_rfl, List.suffix_rfl⟩
  show w.journalFile.records ++ _ = w.records ++ _
  rw [(load_ok hload).2]

theorem E1World.Recorded.trans
    (h₁ : w.Recorded t later) (h₂ : t.Recorded u more) : w.Recorded u (later ++ more) :=
  ⟨by rw [h₂.records, h₁.records, List.append_assoc], h₂.durable,
    h₂.venueFile.trans h₁.venueFile, h₂.position.trans h₁.position, h₂.phase.trans h₁.phase,
    h₂.mutations.trans h₁.mutations, h₁.mintedTexts.trans h₂.mintedTexts,
    h₂.venueIncidents.trans h₁.venueIncidents⟩

theorem E1World.Recorded.quiet
    (h₁ : w.Recorded t later) (h₂ : t.QuietTo u) : w.Recorded u later :=
  ⟨h₂.records.trans h₁.records, by rw [h₂.journalFile, h₂.records, h₁.durable],
    h₂.venueFile.trans h₁.venueFile, h₂.position.trans h₁.position, h₂.phase.trans h₁.phase,
    h₂.mutations.trans h₁.mutations, h₁.mintedTexts.trans h₂.mintedTexts,
    h₂.venueIncidents.trans h₁.venueIncidents⟩

theorem E1World.QuietTo.recorded
    (h₁ : w.QuietTo t) (h₂ : t.Recorded u later) : w.Recorded u later :=
  ⟨h₁.records ▸ h₂.records, h₂.durable, h₂.venueFile.trans h₁.venueFile,
    h₂.position.trans h₁.position, h₂.phase.trans h₁.phase,
    h₂.mutations.trans h₁.mutations, h₁.mintedTexts.trans h₂.mintedTexts,
    h₂.venueIncidents.trans h₁.venueIncidents⟩

theorem onPersistenceError_withinAt {x handler : E1Process α}
    (hx : WithinAt (e1Frame setup sha start) x w)
    (hhandler : Within (e1Frame setup sha start) handler) :
    WithinAt (e1Frame setup sha start) (onPersistenceError x handler) w := by
  refine WithinAt.attempt hx fun e t _ => ?_
  split
  · exact hhandler t
  · exact Within.raise e t

/-- A handled process that returns has returned itself, if its handler never does. -/
theorem onPersistenceError_returned {x handler : E1Process α} {a : α}
    (hhandler : ∀ s b u, handler.run s ≠ (.returned b, u))
    (h : (onPersistenceError x handler).run w = (.returned a, t)) :
    x.run w = (.returned a, t) := by
  unfold onPersistenceError at h
  rw [Process.run_attempt] at h
  rcases hx : x.run w with ⟨o, s⟩
  rw [hx] at h
  cases o with
  | returned b => exact h
  | raised e =>
      dsimp only at h
      split at h
      · exact absurd h (hhandler s a t)
      · cases h
  | killed => cases h

theorem phaseAndRaise_not_returned {e : E1Error} (s : E1World) (b : α) (u : E1World) :
    (setPhase phase >>= fun _ => Process.raise e : E1Process α).run s ≠ (.returned b, u) := by
  intro h
  cases h

variable {x : Execution} {text payload : CanonicalText}

theorem Prepares.quiet
    (h : Prepares setup sha start w.mintedTexts w.records x text) (hv : w.QuietTo v) :
    Prepares setup sha start v.mintedTexts v.records x text := by
  rw [hv.records]
  exact { h with minted := hv.mintedTexts.subset h.minted }

/-- The state behind the two records of an execution that has not changed the venue. -/
structure Started (sha : Sha256) (w : E1World) (x : Execution) : Prop where
  started : ∃ s, w.records.getLast? = some s ∧ x.Recorded .virtualExecutionStarted s
  durable : w.journalFile.records = w.records
  phase : w.phase = .readyFlat ∨ w.phase = .positionOpen
  before : x.before = w.stateDigest sha
  fresh : ∀ m ∈ w.mutations, m.journal.length < w.records.length

theorem stateDigest_eq (h : v.position = w.position) : v.stateDigest sha = w.stateDigest sha := by
  unfold E1World.stateDigest
  rw [h]

theorem Started.quiet (h : Started sha w x) (hv : w.QuietTo v) : Started sha v x := by
  refine ⟨?_, ?_, ?_, ?_, ?_⟩
  · rw [hv.records]
    exact h.started
  · rw [hv.records, hv.journalFile]
    exact h.durable
  · rw [hv.phase]
    exact h.phase
  · rw [stateDigest_eq hv.position]
    exact h.before
  · rw [hv.records, hv.mutations]
    exact h.fresh

theorem commitPrepared_returned {reasons : List String}
    {count : Nat} {outcome : Option ExecutionOutcome} (h : (commitIntent setup sha x.token
      (append setup sha
        (x.entry .intentPrepared status reasons expected observed count outcome))).run w =
        (.returned a, t)) : ∃ p, x.Recorded .intentPrepared p ∧ w.Recorded t [p] := by
  obtain ⟨v, u, hv, happend, hquiet⟩ := commitIntent_returned h
  exact ⟨_, x.recorded .intentPrepared status reasons expected observed count outcome v,
    hv.recorded ((recorded_of_append happend).quiet hquiet)⟩

/-- **An intent is prepared and its execution started in two records.** -/
theorem prepareAndStart_withinAt
    (hprepares : Prepares setup sha start w.mintedTexts w.records x text)
    (hbefore : x.before = w.stateDigest sha) :
    WithinAt (e1Frame setup sha start) (prepareAndStart setup sha x) w := by
  refine onPersistenceError_withinAt (WithinAt.gets_bind (WithinAt.bind
    (commitIntent_withinAt fun v hv => append_withinAt ?_ ?_) fun _ t ht => append_withinAt ?_ ?_))
    (Within.bind (setPhase_within enters_halted) fun _ => Within.raise _)
  · exact .prepare x text (x.recorded _ _ _ _ _ _ _ v) (hprepares.quiet hv)
  · constructor <;> intro htype
    · show some x.before = some (v.stateDigest sha)
      rw [hbefore, stateDigest_eq hv.position]
    all_goals cases htype
  · obtain ⟨p, hp, hrecorded⟩ := commitPrepared_returned ht
    refine .start x p ?_ hp (x.recorded _ _ _ _ _ _ _ t)
    rw [hrecorded.records]
    exact List.getLast?_concat
  · constructor <;> intro htype <;> cases htype

theorem prepareAndStart_returned (h : (prepareAndStart setup sha x).run w = (.returned a, t)) :
    ∃ p s, x.Recorded .intentPrepared p ∧ x.Recorded .virtualExecutionStarted s ∧
      w.Recorded t [p, s] := by
  have h := onPersistenceError_returned phaseAndRaise_not_returned h
  rw [Process.run_gets_bind] at h
  obtain ⟨_, m, hm, h⟩ := Process.run_bind_eq_returned.mp h
  obtain ⟨p, hp, hrecorded⟩ := commitPrepared_returned hm
  exact ⟨p, _, hp, x.recorded .virtualExecutionStarted _ _ _ _ _ _ m,
    hrecorded.trans (recorded_of_append h)⟩

theorem replaceVenue_withinAt {position : Option VirtualPosition}
    (hchanges : Changes sha w x position) :
    WithinAt (e1Frame setup sha start) (replaceVenue x.token position) w := by
  have hspent : (e1Frame setup sha start).rel w w.spendVenue :=
    .single (.quiet
      ⟨rfl, rfl, rfl, rfl, rfl, rfl, rfl, List.prefix_rfl, List.tail_suffix _, List.suffix_rfl⟩)
  show (e1Frame setup sha start).rel w (replaceVenue x.token position w).2
  unfold replaceVenue
  cases hincident : w.venueIncidents.headD .quiet with
  | quiet => exact .single (.change x position hchanges (Or.inl rfl))
  | raises step =>
      cases step with
      | temporaryWrite => exact hspent
      | fsync => exact hspent
      | rename => exact hspent
      | directoryFsync =>
          refine .single (.change x position hchanges (Or.inr ⟨?_, rfl⟩))
          cases hlist : w.venueIncidents with
          | nil => simp [hlist] at hincident
          | cons i rest => simpa [hlist] using hincident
  | crashes renamed =>
      cases renamed with
      | true => exact .single (.change x position hchanges (Or.inl rfl))
      | false => exact hspent

theorem replaceVenue_returned {position : Option VirtualPosition}
    (h : (replaceVenue token position).run w = (.returned a, t)) :
    t = { w.replaced token position with position } := by
  change replaceVenue token position w = _ at h
  unfold replaceVenue at h
  split at h
  · cases h
    rfl
  · split at h <;> cases h
  · cases h
  · cases h

theorem openPosition_withinAt {position : VirtualPosition}
    (hstarted : Started sha w x) (haction : x.token.action = .virtualEntry) :
    WithinAt (e1Frame setup sha start) (openPosition x.token position) w := by
  refine WithinAt.gets_bind (WithinAt.gets_bind (WithinAt.require_bind fun hcurrent =>
    WithinAt.require_bind fun hflat => replaceVenue_withinAt ?_))
  exact ⟨hstarted.started, hstarted.durable, hstarted.phase, hcurrent, hstarted.before,
    hstarted.fresh, Or.inl ⟨haction, hflat, rfl⟩⟩

theorem settlePositionSpecific_withinAt {positionRef : LocalId}
    (hstarted : Started sha w x) (haction : x.token.action = .virtualSettlement) :
    WithinAt (e1Frame setup sha start) (settlePositionSpecific x.token positionRef) w := by
  refine WithinAt.gets_bind (WithinAt.gets_bind (WithinAt.require_bind fun hcurrent =>
    WithinAt.require_bind fun hheld => replaceVenue_withinAt ?_))
  refine ⟨hstarted.started, hstarted.durable, hstarted.phase, hcurrent, hstarted.before,
    hstarted.fresh, Or.inr ⟨haction, ?_, rfl⟩⟩
  cases hfile : w.venueFile with
  | none =>
      rw [hfile] at hheld
      cases hheld
  | some held => rfl

/-- An effect that returns has changed the venue behind the records of its start. -/
def Applies (effect : E1Process Unit) : Prop :=
  ∀ w a t, effect.run w = (.returned a, t) →
    ∃ (token : ShadowGateToken) (position : Option VirtualPosition),
      t = { w.replaced token position with position }

theorem openPosition_applies (token : ShadowGateToken) (position : VirtualPosition) :
    Applies (openPosition token position) := by
  intro w a t h
  unfold openPosition at h
  rw [Process.run_gets_bind, Process.run_gets_bind] at h
  obtain ⟨-, h⟩ := Process.run_require_bind_eq_returned.mp h
  obtain ⟨-, h⟩ := Process.run_require_bind_eq_returned.mp h
  exact ⟨token, some position, replaceVenue_returned h⟩

theorem settlePositionSpecific_applies (token : ShadowGateToken) (positionRef : LocalId) :
    Applies (settlePositionSpecific token positionRef) := by
  intro w a t h
  unfold settlePositionSpecific at h
  rw [Process.run_gets_bind, Process.run_gets_bind] at h
  obtain ⟨-, h⟩ := Process.run_require_bind_eq_returned.mp h
  obtain ⟨-, h⟩ := Process.run_require_bind_eq_returned.mp h
  exact ⟨token, none, replaceVenue_returned h⟩

theorem executionResult_quiet (outcome : ExecutionOutcome) :
    Within quietFrame (executionResult sha outcome) :=
  Within.gets _

variable {fault : FaultInjection}

/-- The body of an executor method, for effects that are steps where the execution has
been started. -/
theorem executeUnder_withinAt (hstarted : Started sha w x)
    (heffect : ∀ v, Started sha v x → WithinAt (e1Frame setup sha start) effect v)
    ( hpartial : ∀ v, Started sha v x → WithinAt (e1Frame setup sha start) partialEffect v) :
    WithinAt (e1Frame setup sha start)
      (executeUnder setup sha x.token fault effect partialEffect crash unsupported) w := by
  refine WithinAt.bind (steps_of_quiet (beginExecution_quiet x.token) w) fun _ v hv => ?_
  have hv : Started sha v x := hstarted.quiet ((beginExecution_quiet x.token).rel hv)
  have hresult : ∀ outcome, Within (e1Frame setup sha start) (executionResult sha outcome) :=
    fun outcome => steps_of_quiet (executionResult_quiet outcome)
  have hbefore : WithinAt (e1Frame setup sha start)
      (onlyIf (fault.applyEffectBeforeFault = true) effect) v :=
    WithinAt.ite (fun _ => heffect v hv) fun _ => Within.pure () v
  cases fault.kind with
  | rejected => exact hresult .rejected v
  | none => exact WithinAt.bind (heffect v hv) fun _ t _ => hresult .accepted t
  | partialFill => exact WithinAt.bind ( hpartial v hv) fun _ t _ => hresult .partialFill t
  | timeout => exact WithinAt.bind hbefore fun _ t _ => hresult .timeout t
  | unknownResult => exact WithinAt.bind hbefore fun _ t _ => hresult .unknown t
  | networkError => exact WithinAt.bind hbefore fun _ t _ => hresult .networkError t
  | crashMidVirtualExecution => exact WithinAt.bind hbefore fun _ t _ => Within.raise _ t
  | restartReconcile => exact WithinAt.bind hbefore fun _ t _ => Within.raise _ t

/-- An accepted result: the venue was changed behind the records of the start. -/
def Applied (w : E1World) (x : Execution) : Prop :=
  (∃ s, w.records.getLast? = some s ∧ x.Recorded .virtualExecutionStarted s) ∧
    ∃ m, w.mutations.getLast? = some m ∧ m.journal = w.records

variable {result : VirtualExecutionResult}

theorem executeUnder_returned (hstarted : Started sha w x) (happlies : Applies effect)
    (h : (executeUnder setup sha x.token x.fault effect partialEffect crash unsupported).run w =
      (.returned result, t)) :
    (result.outcome = .accepted → Applied t x) ∧
      (result.outcome = .rejected → Started sha t x ∧ x.fault.kind = .rejected) := by
  obtain ⟨_, v, hv, h⟩ := Process.run_bind_eq_returned.mp h
  have hv : Started sha v x := hstarted.quiet ((beginExecution_quiet x.token).rel hv)
  cases hkind : x.fault.kind with
  | rejected =>
      rw [hkind] at h
      cases h
      exact ⟨nofun, fun _ => ⟨hv, rfl⟩⟩
  | none =>
      rw [hkind] at h
      obtain ⟨_, u, hu, h⟩ := Process.run_bind_eq_returned.mp h
      cases h
      obtain ⟨token, position, rfl⟩ := happlies _ _ _ hu
      refine ⟨fun _ => ⟨hv.started, _, List.getLast?_concat, ?_⟩, nofun⟩
      exact hv.durable
  | partialFill =>
      rw [hkind] at h
      obtain ⟨_, u, -, h⟩ := Process.run_bind_eq_returned.mp h
      cases h
      exact ⟨nofun, nofun⟩
  | timeout =>
      rw [hkind] at h
      obtain ⟨_, u, -, h⟩ := Process.run_bind_eq_returned.mp h
      cases h
      exact ⟨nofun, nofun⟩
  | unknownResult =>
      rw [hkind] at h
      obtain ⟨_, u, -, h⟩ := Process.run_bind_eq_returned.mp h
      cases h
      exact ⟨nofun, nofun⟩
  | networkError =>
      rw [hkind] at h
      obtain ⟨_, u, -, h⟩ := Process.run_bind_eq_returned.mp h
      cases h
      exact ⟨nofun, nofun⟩
  | crashMidVirtualExecution =>
      rw [hkind] at h
      obtain ⟨_, u, -, h⟩ := Process.run_bind_eq_returned.mp h
      cases h
  | restartReconcile =>
      rw [hkind] at h
      obtain ⟨_, u, -, h⟩ := Process.run_bind_eq_returned.mp h
      cases h

theorem recordOutcome_withinAt
    (h : WithinAt (e1Frame setup sha start) (append setup sha entry) w) :
    WithinAt (e1Frame setup sha start) (recordOutcome setup sha entry message) w :=
  onPersistenceError_withinAt h
    (Within.bind setPhase_reconcileRequired_within fun _ => Within.raise _)

theorem finishAccepted_withinAt (happlied : Applied w x) :
    WithinAt (e1Frame setup sha start) (finishAccepted setup sha x result) w := by
  obtain ⟨⟨s, hlast, hs⟩, hm⟩ := happlied
  refine WithinAt.ite (fun _ => ?_) fun _ => ?_
  · exact Within.bind (recordStableMismatch_within _ _ _ _)
      (fun _ => cycleResult_within _ _ _ _) w
  · refine WithinAt.bind (recordOutcome_withinAt (append_withinAt ?_ ?_))
      fun _ t _ => Within.bind (Within.gets _)
        (fun position => Within.bind (setPhase_within fun v => enters_stable v position)
          fun _ => cycleResult_within _ _ _ _) t
    · exact .outcome x s hlast hs (Or.inl rfl) (x.recorded _ _ _ _ _ _ _ w)
    · constructor <;> intro htype
      · cases htype
      · exact hm
      all_goals cases htype

theorem finishRejected_withinAt (hstarted : Started sha w x) :
    WithinAt (e1Frame setup sha start) (finishRejected setup sha x result) w := by
  obtain ⟨s, hlast, hs⟩ := hstarted.started
  refine WithinAt.bind (recordOutcome_withinAt (append_withinAt ?_ ?_))
    fun _ t _ => Within.bind (appendHalt_within _ _) (fun _ => cycleResult_within _ _ _ _) t
  · exact .outcome x s hlast hs (Or.inr rfl) (x.recorded _ _ _ _ _ _ _ w)
  · constructor <;> intro htype
    · cases htype
    · cases htype
    · exact hstarted.fresh
    all_goals cases htype

theorem finishUncertain_within (x : Execution) (result : VirtualExecutionResult) :
    Within (e1Frame setup sha start) (finishUncertain setup sha x result) :=
  Within.bind (fun w => recordOutcome_withinAt (appendPlain_within rfl w)) fun _ =>
    Within.bind (appendPlain_within rfl) fun _ =>
      Within.bind setPhase_reconcileRequired_within fun _ => cycleResult_within _ _ _ _

theorem finishExecution_withinAt (haccepted : result.outcome = .accepted → Applied w x)
    (hrejected : result.outcome = .rejected → Started sha w x) :
    WithinAt (e1Frame setup sha start) (finishExecution setup sha x result) w := by
  unfold finishExecution
  split
  case h_1 houtcome => exact finishAccepted_withinAt (haccepted houtcome)
  case h_2 houtcome => exact finishRejected_withinAt (hrejected houtcome)
  case h_3 => exact finishUncertain_within x result w

theorem recordVenuePersistenceUnknown_within (x : Execution) :
    Within (e1Frame setup sha start) (recordVenuePersistenceUnknown setup sha x) :=
  fun w => onPersistenceError_withinAt
    (Within.bind (Within.gets _)
      (fun _ => Within.bind (appendPlain_within rfl) fun _ =>
        Within.bind (appendFakeAlert_within _ _) fun _ => setPhase_reconcileRequired_within) w)
    (setPhase_within enters_halted)

/-- What the engine needs of a method of the executor, once the execution is started. -/
structure Executes (setup : E1Setup) (sha : Sha256) (start : List JournalRecord)
    (x : Execution) (executor : E1Process VirtualExecutionResult) : Prop where
  within : ∀ v, Started sha v x → WithinAt (e1Frame setup sha start) executor v
  returned : ∀ v result t, Started sha v x → executor.run v = (.returned result, t) →
    (result.outcome = .accepted → Applied t x) ∧
      (result.outcome = .rejected → Started sha t x ∧ x.fault.kind = .rejected)

theorem executeEntry_executes (intent : EntryIntent) (haction : x.token.action = .virtualEntry) :
    Executes setup sha start x (executeEntry setup sha x.token intent x.fault) where
  within _ hv := executeUnder_withinAt hv (fun _ hv => openPosition_withinAt hv haction)
    fun _ hv => openPosition_withinAt hv haction
  returned _ _ _ hv h := executeUnder_returned hv (openPosition_applies _ _) h

theorem executeSettlement_executes (intent : SettlementIntent)
    (haction : x.token.action = .virtualSettlement) :
    Executes setup sha start x (executeSettlement setup sha x.token intent x.fault) where
  within _ hv := executeUnder_withinAt hv (fun _ hv => settlePositionSpecific_withinAt hv haction)
    fun v _ => Within.pure () v
  returned _ _ _ hv h := executeUnder_returned hv (settlePositionSpecific_applies _ _) h

theorem started_of_prepareAndStart (hbefore : x.before = w.stateDigest sha)
    (hphase : w.phase = .readyFlat ∨ w.phase = .positionOpen)
    (hfresh : ∀ m ∈ w.mutations, m.journal.length ≤ w.records.length)
    (h : (prepareAndStart setup sha x).run w = (.returned a, t)) : Started sha t x := by
  obtain ⟨p, s, hp, hs, hrecorded⟩ := prepareAndStart_returned h
  refine ⟨⟨s, ?_, hs⟩, hrecorded.durable, ?_, ?_, ?_⟩
  · rw [hrecorded.records]
    simp
  · rw [hrecorded.phase]
    exact hphase
  · rw [stateDigest_eq hrecorded.position]
    exact hbefore
  · intro m hm
    rw [hrecorded.mutations] at hm
    have hlength := hfresh m hm
    rw [hrecorded.records, List.length_append, List.length_cons]
    omega

/-- **One execution**, from the preparation of its intent to the record of its outcome. -/
theorem executeIntent_withinAt {executor : E1Process VirtualExecutionResult}
    (hprepares : Prepares setup sha start w.mintedTexts w.records x text)
    (hbefore : x.before = w.stateDigest sha)
    (hphase : w.phase = .readyFlat ∨ w.phase = .positionOpen)
    (hfresh : ∀ m ∈ w.mutations, m.journal.length ≤ w.records.length)
    (hexecutes : Executes setup sha start x executor) :
    WithinAt (e1Frame setup sha start) (executeIntent setup sha x executor) w := by
  refine WithinAt.bind (prepareAndStart_withinAt hprepares hbefore) fun _ v hv => ?_
  have hv : Started sha v x := started_of_prepareAndStart hbefore hphase hfresh hv
  refine WithinAt.bind (onPersistenceError_withinAt (hexecutes.within v hv)
    (Within.bind (recordVenuePersistenceUnknown_within x) fun _ => Within.raise _))
    fun result t ht => ?_
  have hrun := onPersistenceError_returned
    (fun s b u h => by
      obtain ⟨_, _, -, h⟩ := Process.run_bind_eq_returned.mp h
      cases h) ht
  obtain ⟨haccepted, hrejected⟩ := hexecutes.returned v result t hv hrun
  exact finishExecution_withinAt haccepted fun h => (hrejected h).1

/-- What a call has seen of the journal when it comes to prepare an intent: nothing is
unresolved, and the journal is as the call found it, or has the activation of the kill
switch behind that. -/
structure Opens (start : List JournalRecord) (w : E1World) (action : GateAction) : Prop where
  opening : w.records = start ∨ ∃ k : JournalRecord, w.records = start ++ [k] ∧
    k.eventType.killing = true ∧ action = .virtualSettlement
  pending : ShadowIntentJournal.unresolvedIntents w.records = .ok []
  alive : ShadowIntentJournal.killActive start = false
  running : ShadowIntentJournal.halted start = false
  phase : w.phase = .readyFlat ∨ w.phase = .positionOpen
  fresh : ∀ m ∈ w.mutations, m.journal.length ≤ w.records.length

theorem Opens.quiet {action : GateAction} (h : Opens start w action)
    (hv : w.QuietTo v) : Opens start v action := by
  refine ⟨?_, ?_, h.alive, h.running, ?_, ?_⟩
  · rw [hv.records]
    exact h.opening
  · rw [hv.records]
    exact h.pending
  · rw [hv.phase]
    exact h.phase
  · rw [hv.records, hv.mutations]
    exact h.fresh

theorem Opens.prepares (h : Opens start w x.token.action) (hminted : text ∈ w.mintedTexts)
    (hnamed : x.token.intentId = makeLocalId sha "intent" text)
    (hsequence : idSequence text = some (.integer w.records.length))
    (hcapped : x.token.action = .virtualEntry →
      (ShadowIntentJournal.riskCounters w.records x.time).entriesToday <
        setup.policy.maxEntriesPerDay) :
    Prepares setup sha start w.mintedTexts w.records x text :=
  ⟨hminted, hnamed, hsequence, h.opening, h.pending, h.alive, h.running, hcapped⟩

theorem issue_returned {action : GateAction} {intentId : LocalId}
    (h : (issue setup sha action intentId intentDigest).run w = (.returned token, t)) :
    token.action = action ∧ token.intentId = intentId := by
  cases h
  exact ⟨rfl, rfl⟩

theorem mintIntentId_returned {intentId : LocalId}
    (h : (mintIntentId sha payload).run w = (.returned intentId, t)) :
    intentId = makeLocalId sha "intent" payload ∧ payload ∈ t.mintedTexts := by
  cases h
  exact ⟨rfl, List.mem_append_right _ List.mem_cons_self⟩

variable {c emergency deadman isRestart : Bool}

theorem not_violated {checks : List (Bool × String)} (h : violations checks = [])
    (reason : String) (hmem : (c, reason) ∈ checks) : c = false := by
  unfold violations at h
  rw [List.map_eq_nil_iff, List.filter_eq_nil_iff] at h
  simpa using h _ hmem

variable {market : MarketFrame}

theorem capped_of_entryReasons {intent : EntryIntent}
    (h : entryReasons setup sha w intent market = []) :
    (ShadowIntentJournal.riskCounters w.records market.evaluationTime).entriesToday <
      setup.policy.maxEntriesPerDay := by
  have hviolations := (List.append_eq_nil_iff.mp h).2
  have hcap : decide (setup.policy.maxEntriesPerDay ≤
      (ShadowIntentJournal.riskCounters w.records market.evaluationTime).entriesToday) = false :=
    not_violated hviolations "DAILY_ENTRY_CAP_REACHED" (by simp)
  exact not_le.mp (of_decide_eq_false hcap)

theorem executeEntryIntent_withinAt {intent : EntryIntent}
    (hopens : Opens start w .virtualEntry) (haction : token.action = .virtualEntry)
    (hminted : text ∈ w.mintedTexts) (hnamed : token.intentId = makeLocalId sha "intent" text)
    (hsequence : idSequence text = some (.integer w.records.length))
    (hcapped : (ShadowIntentJournal.riskCounters w.records market.evaluationTime).entriesToday <
      setup.policy.maxEntriesPerDay) :
    WithinAt (e1Frame setup sha start)
      (executeEntryIntent setup sha token intent market fault) w := by
  refine WithinAt.gets_bind ?_
  let x : Execution :=
    { token, time := market.evaluationTime, fault, before := w.stateDigest sha,
      planned := positionDigest sha (some intent.position), pnlCategory := .notApplicable,
      virtualLoss := 0 }
  have hprepares : Prepares setup sha start w.mintedTexts w.records x text :=
    Opens.prepares (haction.symm ▸ hopens) hminted hnamed hsequence fun _ => hcapped
  exact executeIntent_withinAt (x := x) hprepares rfl hopens.phase hopens.fresh
    (executeEntry_executes intent haction)

theorem executeSettlementIntent_withinAt {intent : SettlementIntent}
    (hopens : Opens start w .virtualSettlement) (haction : token.action = .virtualSettlement)
    (hminted : text ∈ w.mintedTexts) (hnamed : token.intentId = makeLocalId sha "intent" text)
    (hsequence : idSequence text = some (.integer w.records.length)) :
    WithinAt (e1Frame setup sha start)
      (executeSettlementIntent setup sha token intent market fault) w := by
  refine WithinAt.gets_bind ?_
  let x : Execution :=
    { token, time := market.evaluationTime, fault, before := w.stateDigest sha,
      planned := positionDigest sha none, pnlCategory := intent.pnlCategory,
      virtualLoss := intent.virtualLoss }
  have hprepares : Prepares setup sha start w.mintedTexts w.records x text := by
    refine Opens.prepares (haction.symm ▸ hopens) hminted hnamed hsequence fun h => ?_
    exact absurd (haction.symm.trans h) nofun
  exact executeIntent_withinAt (x := x) hprepares rfl hopens.phase hopens.fresh
    (executeSettlement_executes intent haction)

theorem idSequence_entryIdText (label : EngineLabel) (sequence : Nat) (time : Timestamp) :
    idSequence (entryIdText setup sha label sequence time) = some (.integer sequence) := by
  simp [idSequence, entryIdText]

theorem idSequence_settlementIdText (positionRef : LocalId) (sequence : Nat) (time : Timestamp) :
    idSequence (settlementIdText setup sha positionRef sequence time) =
      some (.integer sequence) := by
  simp [idSequence, settlementIdText]

variable {decision : EngineDecision}

theorem processEntry_withinAt {stop : Option ℚ} (hopens : Opens start w .virtualEntry) :
    WithinAt (e1Frame setup sha start) (processEntry setup sha decision market stop fault) w := by
  unfold processEntry
  cases stop with
  | none => exact riskBlocked_within market _ w
  | some stop =>
      refine WithinAt.gets_bind (WithinAt.bind (steps_of_quiet (mintIntentId_quiet _) w)
        fun intentId v hv => ?_)
      obtain ⟨hnamed, hminted⟩ := mintIntentId_returned hv
      have hquiet := (mintIntentId_quiet _).rel hv
      split
      · exact Within.raise _ v
      · refine WithinAt.gets_bind (WithinAt.ite (fun _ => riskBlocked_within market _ v)
          fun hreasons => ?_)
        refine WithinAt.bind (steps_of_quiet (issue_quiet _ _ _) v) fun token t ht => ?_
        obtain ⟨haction, hintent⟩ := issue_returned ht
        have hissue := (issue_quiet _ _ _).rel ht
        refine executeEntryIntent_withinAt ((hopens.quiet hquiet).quiet hissue) haction
          (hissue.mintedTexts.subset hminted) (hintent.trans hnamed) ?_ ?_
        · rw [idSequence_entryIdText, hissue.records, hquiet.records]
        · rw [hissue.records]
          exact capped_of_entryReasons (not_not.mp hreasons)

theorem processSettlement_withinAt (hopens : Opens start w .virtualSettlement) :
    WithinAt (e1Frame setup sha start)
      (processSettlement setup sha decision market fault emergency) w := by
  refine WithinAt.gets_bind ?_
  split
  · exact riskBlocked_within market _ w
  · refine WithinAt.ite (fun _ => riskBlocked_within market _ w) fun _ => ?_
    split
    · exact Within.raise _ w
    · refine WithinAt.gets_bind (WithinAt.bind (steps_of_quiet (mintIntentId_quiet _) w)
        fun intentId v hv => ?_)
      obtain ⟨hnamed, hminted⟩ := mintIntentId_returned hv
      have hquiet := (mintIntentId_quiet _).rel hv
      refine WithinAt.gets_bind (WithinAt.ite (fun _ => riskBlocked_within market _ v)
        fun _ => ?_)
      refine WithinAt.bind (steps_of_quiet (issue_quiet _ _ _) v) fun token t ht => ?_
      obtain ⟨haction, hintent⟩ := issue_returned ht
      have hissue := (issue_quiet _ _ _).rel ht
      refine executeSettlementIntent_withinAt ((hopens.quiet hquiet).quiet hissue) haction
        (hissue.mintedTexts.subset hminted) (hintent.trans hnamed) ?_
      rw [idSequence_settlementIdText, hissue.records, hquiet.records]

theorem appendKill_withinAt
    {reason : KillReason} {reasons : List String} (hstart : w.records = start)
    (halive : w.killActive = false) (hrunning : w.halted = false)
    (hphase : w.phase ≠ .bootReconcileRequired ∧ w.phase ≠ .restartAckRequired) :
    WithinAt (e1Frame setup sha start)
      (append setup sha (killEntry sha v deadman now reason reasons)) w := by
  have htype : (killEntry sha v deadman now reason reasons).eventType.killing = true := by
    cases deadman <;> rfl
  refine append_withinAt (.kill htype hstart halive hrunning) ?_
  constructor <;> intro h
  · exact absurd (show (killEntry sha v deadman now reason reasons).eventType = _ from h)
      (by cases deadman <;> nofun)
  · exact absurd (show (killEntry sha v deadman now reason reasons).eventType = _ from h)
      (by cases deadman <;> nofun)
  · exact absurd (show (killEntry sha v deadman now reason reasons).eventType = _ from h)
      (by cases deadman <;> nofun)
  · exact absurd (show (killEntry sha v deadman now reason reasons).eventType = _ from h)
      (by cases deadman <;> nofun)
  · exact hphase

theorem killUnreconciled_withinAt {reason : KillReason}
    (hstart : w.records = start) (halive : w.killActive = false) (hrunning : w.halted = false) :
    WithinAt (e1Frame setup sha start) (killUnreconciled setup sha now reason deadman) w := by
  refine WithinAt.bind (setPhase_within enters_halted w) fun _ v hv => ?_
  cases hv
  refine WithinAt.bind (onPersistenceError_withinAt (WithinAt.gets_bind (WithinAt.bind
    (appendKill_withinAt hstart halive hrunning ⟨nofun, nofun⟩)
    fun _ t _ => Within.bind (appendFakeAlert_within _ _) (fun _ => appendHalt_within _ _) t))
    (Within.raise _)) fun _ t _ => cycleResult_within _ _ _ _ t

theorem killFlatten_withinAt {reason : KillReason} {position : VirtualPosition}
    (hopens : Opens start w .virtualSettlement) :
    WithinAt (e1Frame setup sha start)
      (killFlatten setup sha now reason market fault position) w := by
  refine WithinAt.bind (WithinAt.attempt
    (WithinAt.bind (processSettlement_withinAt hopens) fun _ t _ => Within.pure _ t)
    fun e t _ => ?_) fun attempted t _ => ?_
  · split
    · exact Within.pure _ t
    · exact Within.raise _ t
  · cases attempted with
    | none =>
        exact Within.bind (appendFakeAlert_within _ _) (fun _ =>
          Within.bind (appendHalt_within _ _) fun _ =>
            Within.bind (Within.gets _) fun _ => cycleResult_within _ _ _ _) t
    | some result =>
        exact Within.bind (Within.gets _) (fun _ =>
          Within.bind (onlyIf_within (appendFakeAlert_within _ _)) fun _ =>
            Within.bind (appendHalt_within _ _) fun _ =>
              Within.bind (Within.gets _) fun _ => cycleResult_within _ _ _ _) t

theorem opens_of_kill {k : JournalRecord} (hstart : w.records = start)
    (hkill : k.eventType.killing = true) (hrecorded : w.Recorded t [k])
    (hpending : ShadowIntentJournal.unresolvedIntents w.records = .ok [])
    (halive : w.killActive = false) (hrunning : w.halted = false)
    (hphase : w.phase = .readyFlat ∨ w.phase = .positionOpen)
    (hfresh : ∀ m ∈ w.mutations, m.journal.length ≤ w.records.length) :
    Opens start t .virtualSettlement := by
  subst hstart
  refine ⟨Or.inr ⟨k, hrecorded.records, hkill, rfl⟩, ?_, halive, hrunning, ?_, ?_⟩
  · -- an activation neither prepares nor resolves an intent
    have hprepared : ShadowIntentJournal.prepared t.records =
        ShadowIntentJournal.prepared w.records := by
      have hnot : k.eventType ≠ .intentPrepared := by
        intro h
        simp [h, JournalEventType.killing] at hkill
      rw [hrecorded.records]
      simp [ShadowIntentJournal.prepared, hnot]
    have hresolved : ShadowIntentJournal.resolvedIds t.records =
        ShadowIntentJournal.resolvedIds w.records := by
      have hnot : k.eventType.resolving = false := by
        cases hk : k.eventType <;> simp_all [JournalEventType.killing, JournalEventType.resolving]
      rw [hrecorded.records]
      simp [ShadowIntentJournal.resolvedIds, hnot]
    unfold ShadowIntentJournal.unresolvedIntents at hpending ⊢
    unfold ShadowIntentJournal.unresolved at hpending ⊢
    rw [hprepared, hresolved]
    exact hpending
  · rw [hrecorded.phase]
    exact hphase
  · intro m hm
    rw [hrecorded.mutations] at hm
    have hlength := hfresh m hm
    rw [hrecorded.records, List.length_append]
    omega

theorem killStable_withinAt {reason : KillReason} {market : Option MarketFrame}
    (hstart : w.records = start) (halive : w.killActive = false) (hrunning : w.halted = false)
    (hpending : ShadowIntentJournal.unresolvedIntents w.records = .ok [])
    (hphase : w.phase = .readyFlat ∨ w.phase = .positionOpen)
    (hfresh : ∀ m ∈ w.mutations, m.journal.length ≤ w.records.length) :
    WithinAt (e1Frame setup sha start)
      (killStable setup sha now reason market fault deadman) w := by
  have hphases : w.phase ≠ .bootReconcileRequired ∧ w.phase ≠ .restartAckRequired := by
    rcases hphase with h | h <;> simp [h]
  refine WithinAt.gets_bind (WithinAt.bind (onPersistenceError_withinAt
    (appendKill_withinAt hstart halive hrunning hphases)
    (Within.bind (setPhase_within enters_halted) fun _ => Within.raise _)) fun _ t ht => ?_)
  have happend := onPersistenceError_returned phaseAndRaise_not_returned ht
  have hopens : Opens start t .virtualSettlement :=
    opens_of_kill hstart (by cases deadman <;> rfl) (recorded_of_append happend) hpending halive
      hrunning hphase hfresh
  refine WithinAt.gets_bind ?_
  split
  · exact Within.bind (appendHalt_within _ _) (fun _ => cycleResult_within _ _ _ _) t
  · exact Within.bind (appendFakeAlert_within _ _)
      (fun _ => Within.bind (appendHalt_within _ _) fun _ => cycleResult_within _ _ _ _) t
  · exact killFlatten_withinAt hopens

theorem unresolvedIntents_returned (h : unresolvedIntents.run w = (.returned pending, t)) :
    t = w ∧ ShadowIntentJournal.unresolvedIntents w.records = .ok pending := by
  change unresolvedIntents w = _ at h
  unfold unresolvedIntents at h
  split at h
  · cases h
  case h_2 hpending =>
    cases h
    exact ⟨rfl, hpending⟩

theorem phase_of_not_unreconciled (h : phase.unreconciled ≠ true) :
    phase = .readyFlat ∨ phase = .positionOpen := by
  cases phase <;> simp_all [EnginePhase.unreconciled]

theorem activateKill_withinAt {reason : KillReason} {market : Option MarketFrame}
    (hstart : w.records = start)
    (hfresh : ∀ m ∈ w.mutations, m.journal.length ≤ w.records.length) :
    WithinAt (e1Frame setup sha start)
      (activateKill setup sha now reason market fault deadman) w := by
  have hhalted : ∀ status reasons, Within (e1Frame setup sha start)
      (setPhase .halted >>= fun _ => cycleResult status reasons false false) :=
    fun _ _ => Within.bind (setPhase_within enters_halted) fun _ => cycleResult_within _ _ _ _
  refine WithinAt.gets_bind (WithinAt.ite (fun _ => hhalted _ _ w) fun halive =>
    WithinAt.ite (fun _ => hhalted _ _ w) fun hrunning => ?_)
  have halive : w.killActive = false := Bool.eq_false_iff.mpr halive
  have hrunning : w.halted = false := Bool.eq_false_iff.mpr hrunning
  refine WithinAt.bind (steps_of_quiet unresolvedIntents_quiet w) fun pending t ht => ?_
  obtain ⟨rfl, hpending⟩ := unresolvedIntents_returned ht
  refine WithinAt.ite (fun _ => killUnreconciled_withinAt hstart halive hrunning)
    fun hstable => ?_
  rw [not_or, not_not] at hstable
  obtain ⟨rfl, hphase⟩ := hstable
  exact killStable_withinAt hstart halive hrunning hpending (phase_of_not_unreconciled hphase)
    hfresh

theorem checkDeadman_withinAt {market : Option MarketFrame} (hstart : w.records = start)
    (hfresh : ∀ m ∈ w.mutations, m.journal.length ≤ w.records.length) :
    WithinAt (e1Frame setup sha start) (checkDeadman setup sha now market fault) w :=
  WithinAt.gets_bind (WithinAt.ite (fun _ => cycleResult_within _ _ _ _ w)
    fun _ => activateKill_withinAt hstart hfresh)

theorem assertProcessableState_within (market : MarketFrame) :
    Within (e1Frame setup sha start) (assertProcessableState setup sha market) :=
  Within.bind (Within.gets _) fun _ =>
    Within.ite
      (Within.bind (setPhase_within enters_halted) fun _ => Within.raise _)
      (Within.bind (Within.require _ _) fun _ =>
        Within.bind (steps_of_quiet unresolvedIntents_quiet) fun _ =>
          Within.ite (Within.bind setPhase_reconcileRequired_within fun _ => Within.raise _)
            (Within.ite
              (Within.bind (recordStableMismatch_within _ _ _ _) fun _ => Within.raise _)
              (Within.pure ())))

theorem assertProcessableState_returned
    (h : (assertProcessableState setup sha market).run w = (.returned a, t)) :
    t = w ∧ w.killActive = false ∧ w.halted = false ∧
      (w.phase = .readyFlat ∨ w.phase = .positionOpen) ∧
      ShadowIntentJournal.unresolvedIntents w.records = .ok [] ∧
      w.expectedDigest sha = w.stateDigest sha := by
  unfold assertProcessableState at h
  rw [Process.run_gets_bind] at h
  split at h
  · cases h
  case isFalse hsticky =>
    rw [not_or, Bool.not_eq_true, Bool.not_eq_true] at hsticky
    obtain ⟨hphase, h⟩ := Process.run_require_bind_eq_returned.mp h
    obtain ⟨pending, v, hv, h⟩ := Process.run_bind_eq_returned.mp h
    obtain ⟨rfl, hpending⟩ := unresolvedIntents_returned hv
    split at h
    · cases h
    case isFalse hnone =>
      obtain rfl := not_not.mp hnone
      split at h
      · obtain ⟨_, _, -, h⟩ := Process.run_bind_eq_returned.mp h
        cases h
      case isFalse hdigest =>
        cases h
        exact ⟨rfl, hsticky.1, hsticky.2, hphase, hpending, not_not.mp hdigest⟩

theorem processDecision_withinAt {stop : Option ℚ} (hstart : w.records = start)
    (hfresh : ∀ m ∈ w.mutations, m.journal.length ≤ w.records.length) :
    WithinAt (e1Frame setup sha start)
      (processDecision setup sha decision market stop fault) w := by
  refine WithinAt.bind (assertProcessableState_within market w) fun _ t ht => ?_
  obtain ⟨rfl, halive, hrunning, hphase, hpending, -⟩ := assertProcessableState_returned ht
  have hopens : ∀ action, Opens start t action := by
    subst hstart
    exact fun action => ⟨Or.inl rfl, hpending, halive, hrunning, hphase, hfresh⟩
  refine WithinAt.ite (fun _ => activateKill_withinAt hstart hfresh) fun _ =>
    WithinAt.ite (fun _ => activateKill_withinAt hstart hfresh) fun _ => ?_
  split
  · exact Within.bind (Within.gets _)
      (fun _ => Within.bind (appendPlain_within rfl) fun _ => cycleResult_within _ _ _ _) t
  · exact processEntry_withinAt (hopens _)
  · exact processEntry_withinAt (hopens _)
  · exact processSettlement_withinAt (hopens _)
  · exact processSettlement_withinAt (hopens _)

theorem haltRejected_within (now : Timestamp) (source : Option JournalRecord) :
    Within (e1Frame setup sha start) (haltRejected setup sha now source) :=
  Within.bind (Within.gets _) fun _ =>
    onlyIf_within (Within.bind (appendFakeAlert_within _ _) fun _ => appendHalt_within _ _)

theorem haltKilled_within (now : Timestamp) :
    Within (e1Frame setup sha start) (haltKilled setup sha now) := by
  refine Within.bind (Within.gets _) fun w => ?_
  split
  · exact Within.bind (onlyIf_within (appendFakeAlert_within _ _))
      fun _ => appendHalt_within _ _
  · exact Within.pure ()

theorem reportFaults_within (now : Timestamp) (isRestart : Bool) (source : Option JournalRecord) :
    Within (e1Frame setup sha start) (reportFaults setup sha now isRestart source) := by
  cases source with
  | none => exact Within.pure ()
  | some source =>
      exact Within.bind (onlyIf_within (recordFaultHandled_within _ _ _))
        fun _ => onlyIf_within (recordFaultHandled_within _ _ _)

def E1World.Durable (w : E1World) : Prop :=
  w.journalFile.records = w.records

theorem append_durable (entry : JournalEntry) :
    OnReturn (Frame.keeps E1World.Durable) (append setup sha entry) :=
  fun _ _ _ h _ => (recorded_of_append h).durable

theorem gets_durable (f : E1World → α) :
    OnReturn (Frame.keeps E1World.Durable) (Process.gets f : E1Process α) :=
  OnReturn.of_within (Within.gets f)

theorem setPhase_durable (phase : EnginePhase) :
    OnReturn (Frame.keeps E1World.Durable) (setPhase phase) :=
  OnReturn.of_within (Within.modify fun _ h => h)

theorem onlyIf_durable {c : Prop} [Decidable c] {x : E1Process Unit}
    (h : OnReturn (Frame.keeps E1World.Durable) x) :
    OnReturn (Frame.keeps E1World.Durable) (onlyIf c x) :=
  OnReturn.ite h (OnReturn.of_within (Within.pure ()))

theorem appendFakeAlert_durable (now : Timestamp) (reason : String) :
    OnReturn (Frame.keeps E1World.Durable) (appendFakeAlert setup sha now reason) :=
  OnReturn.bind (gets_durable _) fun _ => append_durable _

theorem appendHalt_durable (now : Timestamp) (reason : String) :
    OnReturn (Frame.keeps E1World.Durable) (appendHalt setup sha now reason) :=
  OnReturn.bind (gets_durable _) fun _ =>
    OnReturn.bind (append_durable _) fun _ => setPhase_durable _

theorem recordFaultHandled_durable (now : Timestamp) (faultKind : FaultKind)
    (source : JournalRecord) :
    OnReturn (Frame.keeps E1World.Durable)
      (recordFaultHandled setup sha now faultKind source) :=
  OnReturn.bind (gets_durable _) fun _ => append_durable _

theorem reportFaults_durable (now : Timestamp) (isRestart : Bool)
    (source : Option JournalRecord) :
    OnReturn (Frame.keeps E1World.Durable) (reportFaults setup sha now isRestart source) := by
  cases source with
  | none => exact OnReturn.of_within (Within.pure ())
  | some source =>
      exact OnReturn.bind (onlyIf_durable (recordFaultHandled_durable _ _ _))
        fun _ => onlyIf_durable (recordFaultHandled_durable _ _ _)

theorem haltRejected_durable (now : Timestamp) (source : Option JournalRecord) :
    OnReturn (Frame.keeps E1World.Durable) (haltRejected setup sha now source) :=
  OnReturn.bind (gets_durable _) fun _ =>
    onlyIf_durable (OnReturn.bind (appendFakeAlert_durable _ _) fun _ => appendHalt_durable _ _)

theorem haltKilled_durable (now : Timestamp) :
    OnReturn (Frame.keeps E1World.Durable) (haltKilled setup sha now) := by
  refine OnReturn.bind (gets_durable _) fun w => ?_
  split
  · exact OnReturn.bind (onlyIf_durable (appendFakeAlert_durable _ _))
      fun _ => appendHalt_durable _ _
  · exact OnReturn.of_within (Within.pure ())

theorem recordReconcileMatched_withinAt {status : ReconcileStatus} {source : Option JournalRecord}
    (hpending : ShadowIntentJournal.unresolvedIntents w.records = .ok source.toList)
    (hcompared : MatchedOn sha w.records (w.stateDigest sha) status source) :
    WithinAt (e1Frame setup sha start)
      (recordReconcileMatched setup sha now isRestart status (w.stateDigest sha) source) w := by
  refine WithinAt.gets_bind (WithinAt.bind (append_withinAt ?_ ?_) fun _ t₁ h₁ => ?_)
  · exact .matched now status _ _ source rfl hpending hcompared
  · constructor <;> intro htype
    · cases htype
    · cases htype
    · cases htype
    · rfl
    · cases htype
  refine WithinAt.bind (reportFaults_within _ _ _ t₁) fun _ t₂ h₂ => ?_
  refine WithinAt.bind (haltRejected_within _ _ t₂) fun _ t₃ h₃ => ?_
  refine WithinAt.bind (haltKilled_within _ t₃) fun _ t₄ h₄ => ?_
  have hdurable : t₄.Durable :=
    haltKilled_durable _ _ _ _ h₄ (haltRejected_durable _ _ _ _ _ h₃
      (reportFaults_durable _ _ _ _ _ _ h₂ (recorded_of_append h₁).durable))
  refine WithinAt.gets_bind (WithinAt.bind ?_ fun _ t _ => Within.pure _ t)
  refine .single (.enter _ ?_ rfl)
  by_cases hsticky : t₄.killActive = true ∨ t₄.halted = true
  · simp only [id_eq, if_pos hsticky]
    trivial
  · simp only [id_eq, if_neg hsticky]
    rw [not_or, Bool.not_eq_true, Bool.not_eq_true] at hsticky
    exact ⟨hdurable.symm, hsticky⟩

theorem reconcile_withinAt (now : Timestamp) (isRestart : Bool) (w : E1World) :
    WithinAt (e1Frame setup sha start) (reconcile setup sha now isRestart) w := by
  refine WithinAt.gets_bind (WithinAt.bind (steps_of_quiet unresolvedIntents_quiet w)
    fun pending t ht => ?_)
  obtain ⟨rfl, hpending⟩ := unresolvedIntents_returned ht
  split
  · refine WithinAt.ite (fun _ => Within.bind (recordStableMismatch_within _ _ _ _)
      (fun _ => Within.pure _) t) fun hdigest => ?_
    exact recordReconcileMatched_withinAt hpending ⟨rfl, not_not.mp hdigest⟩
  case h_2 source =>
    refine WithinAt.ite (fun hbefore => ?_) fun hbefore => WithinAt.ite (fun hplanned => ?_)
      fun _ => ?_
    · exact recordReconcileMatched_withinAt hpending (Or.inl ⟨rfl, hbefore⟩)
    · exact recordReconcileMatched_withinAt hpending (Or.inr ⟨rfl, hbefore, hplanned⟩)
    · refine WithinAt.bind (recordReconcileMismatch_withinAt fun s hs => ?_)
        fun _ t _ => Within.pure _ t
      cases hs
      exact hpending
  · exact Within.bind (recordStableMismatch_within _ _ _ _) (fun _ => Within.pure _) t

theorem bootReconcile_withinAt (now : Timestamp) (w : E1World) :
    WithinAt (e1Frame setup sha start) (bootReconcile setup sha now) w := by
  refine WithinAt.gets_bind (WithinAt.require_bind fun _ =>
    WithinAt.ite (fun _ => reconcile_withinAt now true w) fun _ => ?_)
  refine Within.bind (appendPlain_within rfl) (fun _ => Within.ite ?_ ?_) w
  · exact Within.bind (recordStableMismatch_within _ _ _ _) fun _ => Within.pure _
  · exact Within.bind (setPhase_within fun _ => trivial) fun _ => Within.pure _

theorem acknowledgeRestart_within (now : Timestamp) (operatorAcknowledged : Bool) :
    Within (e1Frame setup sha start)
      (acknowledgeRestart setup sha now operatorAcknowledged) :=
  Within.bind (Within.gets _) fun w => Within.bind (Within.require _ _) fun _ =>
    Within.ite (cycleResult_within _ _ _ _)
      (Within.bind (appendPlain_within rfl) fun _ =>
        Within.bind (setPhase_within fun v => enters_stable v w.position)
          fun _ => cycleResult_within _ _ _ _)

/-- **Every call of the engine is a sequence of its steps**, however it ends. -/
theorem exec_withinAt {op : E1Op} (hstart : w.records = start)
    (hfresh : ∀ m ∈ w.mutations, m.journal.length ≤ w.records.length) :
    WithinAt (e1Frame setup sha start) (op.exec setup sha) w := by
  cases op with
  | bootReconcile now => exact WithinAt.map (bootReconcile_withinAt now w)
  | reconcileAfterUncertain now =>
      exact WithinAt.map (WithinAt.gets_bind (WithinAt.require_bind fun _ =>
        reconcile_withinAt now false w))
  | acknowledgeRestart now acknowledged =>
      exact WithinAt.map (acknowledgeRestart_within now acknowledged w)
  | recordHeartbeat now =>
      exact WithinAt.map (Within.bind (Within.gets _) (fun _ => Within.bind (Within.require _ _) fun _ =>
        Within.bind (appendPlain_within rfl) fun _ => cycleResult_within _ _ _ _) w)
  | recordIncident now incidentRef severity reasonCode =>
      exact WithinAt.map (Within.bind (Within.gets _) (fun _ => Within.bind (appendPlain_within rfl)
        fun _ => Within.bind (Within.require _ _) fun _ => cycleResult_within _ _ _ _) w)
  | recordPostmortem now incidentRef =>
      exact WithinAt.map (Within.bind (Within.gets _) (fun _ => Within.bind (appendPlain_within rfl)
        fun _ => cycleResult_within _ _ _ _) w)
  | processDecision decision market stop fault =>
      exact WithinAt.map (processDecision_withinAt hstart hfresh)
  | activateKill now reason market fault deadman =>
      exact WithinAt.map (activateKill_withinAt hstart hfresh)
  | checkDeadman now market fault => exact WithinAt.map (checkDeadman_withinAt hstart hfresh)

def E1World.ChangesBehind (w : E1World) : Prop :=
  ∀ m ∈ w.mutations, m.journal.length ≤ w.records.length

theorem e1_kept {I : E1World → Prop} {C : E1Run → E1Input → Prop}
    (hbehind : ∀ w, I w → w.ChangesBehind)
    (hstep : ∀ start w w', E1Step setup sha start w w' → I w → I w')
    (hgiven : ∀ r call, I r.world → C r (.call call) → I (r.world.given call))
    (hreload : ∀ w, w.journalFile.tail ≠ .unreadable → I w → I w.reloaded)
    (r : E1Run) (input : E1Input) (hr : I r.world) (hinput : C r input) :
    I (e1Step setup sha r input).world := by
  cases input with
  | call call =>
      by_cases hlive : r.live = true
      swap
      · rw [e1Step, if_neg hlive]
        exact hr
      · rw [e1Step, if_pos hlive]
        have hstart := hgiven r call hr hinput
        have hkeeps : ∀ w', Relation.ReflTransGen (E1Step setup sha r.world.records)
            (r.world.given call) w' → I w' := by
          intro w' hsteps
          induction hsteps with
          | refl => exact hstart
          | tail _ hlast ih => exact hstep _ _ _ hlast ih
        exact hkeeps _ (exec_withinAt rfl (hbehind _ hstart))
  | restart =>
      rw [e1Step]
      split
      · exact hr
      case isFalse htail => exact hreload _ htail hr

/-- **Invariant rule of the E1 engine**, for runs whose inputs meet a condition: what every
step keeps, the start of a call and a restart too, holds after the run. -/
theorem e1_invariant {I : E1World → Prop} {C : E1Run → E1Input → Prop}
    (hbehind : ∀ w, I w → w.ChangesBehind)
    (hstep : ∀ start w w', E1Step setup sha start w w' → I w → I w')
    (hgiven : ∀ r call, I r.world → C r (.call call) → I (r.world.given call))
    (hreload : ∀ w, w.journalFile.tail ≠ .unreadable → I w → I w.reloaded)
    {r : E1Run} (hr : I r.world) {inputs : List E1Input}
    (hC : MeetsAlong (e1Step setup sha) C r inputs) :
    I (after (e1Step setup sha) r inputs).world :=
  invariant_after (I := fun r => I r.world) (e1_kept hbehind hstep hgiven hreload) hr hC

theorem e1_kept_always {I : E1World → Prop} (hbehind : ∀ w, I w → w.ChangesBehind)
    (hstep : ∀ start w w', E1Step setup sha start w w' → I w → I w')
    (hgiven : ∀ w call, I w → I (w.given call))
    (hreload : ∀ w, w.journalFile.tail ≠ .unreadable → I w → I w.reloaded)
    (r : E1Run) (input : E1Input) (hr : I r.world) : I (e1Step setup sha r input).world :=
  e1_kept (C := fun _ _ => True) hbehind hstep (fun r call hI _ => hgiven r.world call hI)
    hreload r input hr trivial

theorem e1_invariant_always {I : E1World → Prop} (hbehind : ∀ w, I w → w.ChangesBehind)
    (hstep : ∀ start w w', E1Step setup sha start w w' → I w → I w')
    (hgiven : ∀ w call, I w → I (w.given call))
    (hreload : ∀ w, w.journalFile.tail ≠ .unreadable → I w → I w.reloaded)
    {r : E1Run} (hr : I r.world) (inputs : List E1Input) :
    I (after (e1Step setup sha) r inputs).world :=
  e1_invariant (C := fun _ _ => True) hbehind hstep (fun r call hI _ => hgiven r.world call hI)
    hreload hr (meetsAlong_always fun _ _ => trivial)

end Engine

end FxStrategyLab.E1
