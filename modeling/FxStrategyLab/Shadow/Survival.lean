import FxStrategyLab.Shadow.Halting

/-!
# Calls whose appends go through

While no append of a call raises, the journal in memory is the journal in the
file and every record of the engine passes its checks.  This file follows one
execution and one kill from such a state to each end that is not a death of the
process: what was recorded, which exception leaves the call, and in which phase
the engine is left.
-/

namespace FxStrategyLab.E1

open Library

section Survival

variable {setup : E1Setup} {sha : Sha256}

def AppendIncident.raising : AppendIncident → Bool
  | raises _ => true
  | quiet | crashes _ => false

def E1World.Orderly (w : E1World) : Prop :=
  ∀ i ∈ w.appendIncidents, i.raising = false

variable {w t start v : E1World}

theorem E1World.Orderly.appended (h : w.Orderly) (r : JournalRecord) : (w.appended r).Orderly :=
  fun i hi => h i (List.mem_of_mem_tail hi)

theorem E1World.Orderly.spendAppend (h : w.Orderly) : w.spendAppend.Orderly :=
  fun i hi => h i (List.mem_of_mem_tail hi)

/-- The memory is the file, whose text ends with a complete line, and no append raises. -/
structure E1World.Ready (setup : E1Setup) (w : E1World) : Prop where
  named : safeLabel setup.runId.toList = true
  file : w.journalFile = { records := w.records }
  orderly : w.Orderly

variable {entry : JournalEntry}

theorem append_survives (horderly : w.Orderly) :
    Survives (append setup sha entry) w
      (fun _ t => t = w.appended (w.recordOf setup sha entry) ∧
        w.journalFile.load = .ok w.records ∧
          (w.recordOf setup sha entry).check = .ok ())
      fun _ t => t = w.spendAppend ∧ ¬(w.journalFile.load = .ok w.records ∧
        (w.recordOf setup sha entry).check = .ok ()) := by
  by_cases hload : w.journalFile.load = .ok w.records
  swap
  · rcases @append_run setup sha entry w with ⟨e, hrun⟩ | ⟨hloaded, -⟩
    · exact Survives.of_raised hrun ⟨rfl, fun h => hload h.1⟩
    · exact absurd hloaded hload
  cases hcheck : (w.recordOf setup sha entry).check with
  | error e =>
      refine Survives.of_raised (e := e) (t := w.spendAppend) ?_ ⟨rfl, nofun⟩
      show append setup sha entry w = _
      unfold append
      simp only [hload, ne_eq, not_true_eq_false, if_false, hcheck]
  | ok u =>
      cases hincident : w.appendIncidents.headD .quiet with
      | quiet =>
          refine Survives.of_run (a := ()) (t := w.appended (w.recordOf setup sha entry)) ?_
            ⟨rfl, hload, rfl⟩
          show append setup sha entry w = _
          unfold append
          simp only [hload, ne_eq, not_true_eq_false, if_false, hcheck, hincident]
      | crashes written =>
          refine Survives.of_killed (t := w.writtenTo written (w.recordOf setup sha entry)) ?_
          show append setup sha entry w = _
          unfold append
          simp only [hload, ne_eq, not_true_eq_false, if_false, hcheck, hincident]
      | raises written =>
          have hraising : (w.appendIncidents.headD .quiet).raising = false := by
            cases hlist : w.appendIncidents with
            | nil => rfl
            | cons i rest => exact horderly i (by rw [hlist]; exact List.mem_cons_self)
          rw [hincident] at hraising
          cases hraising

namespace E1World.Ready

variable {w t : E1World}

theorem load (h : w.Ready setup) : w.journalFile.load = .ok w.records := by
  rw [h.file]
  rfl

theorem appended (h : w.Ready setup) (r : JournalRecord) : (w.appended r).Ready setup := by
  refine ⟨h.named, ?_, h.orderly.appended r⟩
  show w.journalFile.write .line r = _
  rw [h.file]
  rfl

theorem of_same (h : w.Ready setup) (hfile : t.journalFile = w.journalFile)
    (hrecords : t.records = w.records) (hincidents : t.appendIncidents = w.appendIncidents) :
    t.Ready setup :=
  ⟨h.named, by rw [hfile, hrecords]; exact h.file, by
    unfold E1World.Orderly
    rw [hincidents]
    exact h.orderly⟩

end E1World.Ready

theorem append_ready (h : w.Ready setup) (hcheck : (w.recordOf setup sha entry).check = .ok ()) :
    Survives (append setup sha entry) w
      (fun _ t => t = w.appended (w.recordOf setup sha entry)) fun _ _ => False :=
  (append_survives h.orderly).mono (fun _ _ ht => ht.1) fun _ _ ht => ht.2 ⟨h.load, hcheck⟩

variable {E : E1Error → E1World → Prop}

theorem append_ready_bind {α : Type} {f : Unit → E1Process α}
    {Q : α → E1World → Prop} (h : w.Ready setup)
    (hcheck : (w.recordOf setup sha entry).check = .ok ())
    (hf : Survives (f ()) (w.appended (w.recordOf setup sha entry)) Q E) :
    Survives (append setup sha entry >>= f) w Q E :=
  ((append_ready h hcheck).mono (fun _ _ ht => ht) fun _ _ => False.elim).bind
    fun _ t ht => by
      rw [ht]
      exact hf

/-- The events whose records need no intent, no incident and no decision. -/
def JournalEventType.bare : JournalEventType → Bool
  | runStarted | heartbeatRecorded | restartAckRecorded | fakeCriticalAlert | halted => true
  | killActivated | deadmanActivated | reconcileMatched | reconcileMismatch => true
  | _ => false

theorem check_bare {r : JournalRecord} (hrun : safeLabel r.runId.toList = true)
    (hlabels : r.labelsSafe = true) (hcount : r.positionCount ≤ 1)
    (htype : r.eventType.bare = true) (hloss : r.virtualLoss = 0) (hintent : r.intentId = none)
    (hdecision : r.decisionDigest = none) (hhypothesis : r.hypothesis = none)
    (href : r.incidentRef = none) (hseverity : r.incidentSeverity = none) : r.check = .ok () := by
  have hterminal : r.terminalNoAction = false := by
    unfold JournalRecord.terminalNoAction
    cases hevent : r.eventType <;> simp_all [JournalEventType.bare]
  refine JournalRecord.check_eq_ok.mpr ⟨hrun, hlabels, hcount, ?_, ?_, ?_, ?_, ?_, ?_, ?_⟩
  · simp [JournalRecord.lossSound, hloss]
  · intro hlife
    cases hevent : r.eventType <;>
      simp_all [JournalEventType.bare, JournalEventType.lifecycle]
  · intro _ hsome
    rw [hintent] at hsome
    cases hsome
  · intro hfault
    rw [hfault] at htype
    cases htype
  · intro htrue
    rw [hterminal] at htrue
    cases htrue
  · exact fun _ => ⟨by rw [hdecision]; rfl, by rw [hhypothesis]; rfl⟩
  · unfold JournalRecord.incidentSound
    cases hevent : r.eventType <;> simp_all [JournalEventType.bare]

def Execution.LossSound (x : Execution) : Prop :=
  0 ≤ x.virtualLoss ∧ (x.pnlCategory = .loss ∨ x.virtualLoss = 0)

variable {position : VirtualPosition}

theorem lossSound_of_classifyPnl {exitPrice : ℚ} {pnlCategory : PnlCategory} {virtualLoss : ℚ}
    (h : classifyPnl position exitPrice = .ok (pnlCategory, virtualLoss)) :
    0 ≤ virtualLoss ∧ (pnlCategory = .loss ∨ virtualLoss = 0) := by
  unfold classifyPnl at h
  dsimp only at h
  split_ifs at h with _ _ hloss
  · cases h
    exact ⟨le_rfl, Or.inr rfl⟩
  · cases h
    exact ⟨neg_nonneg.mpr (le_of_lt hloss), Or.inl rfl⟩
  · cases h
    exact ⟨le_rfl, Or.inr rfl⟩

variable {status reason alert crashMessage unsupportedMessage message : String}
  {expected observed intentDigest planned configHash : HexDigest} {x : Execution}

theorem check_execution {eventType : JournalEventType} {reasons : List String} {count : Nat}
    {outcome : Option ExecutionOutcome} (hrun : safeLabel setup.runId.toList = true)
    (hloss : x.LossSound) (hcount : count ≤ 1)
    (htype : eventType.lifecycle = true ∨ eventType = .fakeCriticalAlert)
    (hlabels : (safeLabel status.toList &&
      reasons.all fun reason => safeLabel reason.toList) = true) :
    (w.recordOf setup sha
      (x.entry eventType status reasons expected observed count outcome)).check = .ok () := by
  refine JournalRecord.check_eq_ok.mpr ⟨hrun, hlabels, hcount, ?_, fun _ => rfl, fun _ _ => rfl,
    ?_, ?_, fun _ => ⟨rfl, rfl⟩, ?_⟩
  · show (decide (0 ≤ x.virtualLoss) && (decide (x.pnlCategory = .loss) ||
      decide (x.virtualLoss = 0))) = true
    unfold Execution.LossSound at hloss
    simpa using hloss
  · rintro rfl
    rcases htype with htype | htype <;> cases htype
  · intro hterminal
    have hevent : eventType = .noActionRecorded := by
      have h := (Bool.and_eq_true_iff.mp hterminal).1
      exact of_decide_eq_true h
    subst hevent
    rcases htype with htype | htype <;> cases htype
  · unfold JournalRecord.incidentSound
    rcases htype with htype | rfl
    · cases eventType <;> first | rfl | cases htype
    · rfl

theorem killReason_safe (reason : KillReason) : safeLabel reason.value.toList = true := by
  cases reason <;> decide +kernel

variable {now time : Timestamp}

theorem appendFakeAlert_ready (h : w.Ready setup) (hreason : safeLabel reason.toList = true) :
    Survives (appendFakeAlert setup sha now reason) w
      (fun _ t => t.Ready setup ∧ t.position = w.position) fun _ _ => False := by
  obtain ⟨hstatus, hreasons⟩ :=
    @labels_single "FAKE_CRITICAL_ALERT_RECORDED" _ (by simp [namedLabels]) hreason
  exact Survives.gets_bind ((append_ready h (check_plain h.named hstatus hreasons
    (Or.inl rfl))).mono (fun _ _ ht => ht ▸ ⟨h.appended _, rfl⟩) fun _ _ => False.elim)

theorem appendHalt_ready (h : w.Ready setup) (hreason : safeLabel reason.toList = true) :
    Survives (appendHalt setup sha now reason) w
      (fun _ t => t.Ready setup ∧ t.phase = .halted ∧ t.position = w.position)
      fun _ _ => False := by
  obtain ⟨hstatus, hreasons⟩ :=
    @labels_single "ENGINE_HALTED_STICKY" _ (by simp [namedLabels]) hreason
  exact Survives.gets_bind (append_ready_bind h (check_plain h.named hstatus hreasons
    (Or.inr rfl)) ⟨(h.appended _).of_same rfl rfl rfl, rfl, rfl⟩)

theorem alertAndHalt_ready (h : w.Ready setup) (halert : safeLabel alert.toList = true)
    (hreason : safeLabel reason.toList = true) :
    Survives (appendFakeAlert setup sha now alert >>= fun _ => appendHalt setup sha now reason) w
      (fun _ t => t.Ready setup ∧ t.phase = .halted ∧ t.position = w.position)
      fun _ _ => False :=
  (appendFakeAlert_ready h halert).bind fun _ _ ht =>
    (appendHalt_ready ht.1 hreason).mono (fun _ _ hu => ⟨hu.1, hu.2.1, hu.2.2.trans ht.2⟩)
      fun _ _ => id

theorem recordReconcileMismatch_ready (h : w.Ready setup)
    (hreason : safeLabel reason.toList = true) :
    Survives (recordReconcileMismatch setup sha now reason expected observed none) w
      (fun _ t => t.Ready setup ∧ t.phase = .halted) fun _ _ => False := by
  obtain ⟨hstatus, hreasons⟩ :=
    @labels_single ReconcileStatus.mismatchHalted.value _
      (by simp [namedLabels, ReconcileStatus.value]) hreason
  refine Survives.gets_bind (append_ready_bind h (check_bare h.named
    (Bool.and_eq_true_iff.mpr ⟨hstatus, hreasons⟩) (positionCount_le w) rfl rfl rfl rfl rfl rfl
      rfl) ?_)
  exact (alertAndHalt_ready (h.appended _) hreason
    (namedLabel_safe (by simp [namedLabels, KillReason.value]))).mono
    (fun _ _ ht => ⟨ht.1, ht.2.1⟩) fun _ _ => id

def E1World.ticked (w : E1World) : E1World :=
  { w with clockReadings := w.clockReadings.tail }

def E1World.committed (w : E1World) (token : ShadowGateToken) (r : JournalRecord) : E1World :=
  { w.ticked.appended r with consumed := token.tokenId :: w.consumed }

theorem E1World.Ready.committed (h : w.Ready setup) (token : ShadowGateToken)
    (r : JournalRecord) : (w.committed token r).Ready setup := by
  have hticked : w.ticked.Ready setup := h.of_same rfl rfl rfl
  exact (hticked.appended r).of_same rfl rfl rfl

/-- The token is the one that this engine keeps under its identifier. -/
structure Issued (setup : E1Setup) (sha : Sha256) (token : ShadowGateToken) (w : E1World) :
    Prop where
  found : w.issued.find? (fun t => t.tokenId = token.tokenId) = some token
  named : token.runId = setup.runId ∧ token.configHash = setup.configHash sha

theorem validateToken_survives {token : ShadowGateToken} (h : Issued setup sha token w) :
    Survives (validateToken setup sha token) w
      (fun _ t => t = w.ticked ∧ token.isExpired (w.clockReadings.headD 0) = false)
      fun e t => e.exceptionClass = .engine ∧ t = w.ticked ∧
        token.isExpired (w.clockReadings.headD 0) = true := by
  refine Survives.gets_bind (Survives.require_bind (fun _ => ?_) fun hnot => absurd h.found hnot)
  refine Survives.require_bind (fun _ => ?_) fun hnot => absurd h.named hnot
  refine Survives.bind (P := fun now t => now = w.clockReadings.headD 0 ∧ t = w.ticked)
    ⟨rfl, rfl⟩ ?_
  rintro _ _ ⟨rfl, rfl⟩
  refine Survives.require (fun halive => ⟨rfl, halive⟩) fun hexpired => ⟨rfl, rfl, ?_⟩
  simpa using hexpired

theorem commitIntent_survives {token : ShadowGateToken}
    (h : w.Ready setup) (hissued : Issued setup sha token w)
    (hcheck : (w.recordOf setup sha entry).check = .ok ())
    (hbound : boundTo .intentPrepared token (w.recordOf setup sha entry) = true) :
    Survives (commitIntent setup sha token (append setup sha entry)) w
      (fun _ t => t = w.committed token (w.recordOf setup sha entry) ∧
          token.tokenId ∉ w.executed ∧ token.isExpired (w.clockReadings.headD 0) = false)
      fun e t => e.exceptionClass = .engine ∧ t = w.ticked := by
  refine Survives.bind ((validateToken_survives hissued).mono (fun _ _ ht => ht)
    fun _ _ ht => ⟨ht.1, ht.2.1⟩) ?_
  rintro _ _ ⟨rfl, halive⟩
  refine Survives.gets_bind (Survives.require_bind (fun hunused => ?_) fun _ => ⟨rfl, rfl⟩)
  refine Survives.require_bind (fun _ => ?_) fun _ => ⟨rfl, rfl⟩
  refine append_ready_bind (h.of_same rfl rfl rfl) hcheck ?_
  refine Survives.gets_bind (Survives.require_bind (fun _ => ?_) fun hlength => absurd ?_ hlength)
  · refine Survives.require_bind (fun _ => ?_) fun hlast => absurd ?_ hlast
    · exact ⟨rfl, hunused.2, halive⟩
    · show ((w.records ++ [_]).getLast?.any _) = true
      rw [List.getLast?_concat]
      exact hbound
  · exact List.length_append

/-- What a started execution stands on. -/
structure StartedFrom (setup : E1Setup) (sha : Sha256) (x : Execution) (w t : E1World) :
    Prop where
  ready : t.Ready setup
  records : ∃ p s, t.records = w.records ++ [p, s] ∧ x.Recorded .intentPrepared p ∧
    x.Recorded .virtualExecutionStarted s
  issued : Issued setup sha x.token t
  consumed : x.token.tokenId ∈ t.consumed
  executed : x.token.tokenId ∉ t.executed
  position : t.position = w.position
  phase : t.phase = w.phase
  clock : t.clockReadings = w.clockReadings.tail
  alive : x.token.isExpired (w.clockReadings.headD 0) = false

/-- **An intent is prepared and started, or nothing was recorded.** -/
theorem prepareAndStart_survives (h : w.Ready setup)
    (hissued : Issued setup sha x.token w) (hloss : x.LossSound) :
    Survives (prepareAndStart setup sha x) w (fun _ t => StartedFrom setup sha x w t)
      fun e t => e.exceptionClass = .engine ∧ t = w.ticked := by
  have hcheck : ∀ (v : E1World) (eventType : JournalEventType) (status : String),
      eventType.lifecycle = true → safeLabel status.toList = true →
        (v.recordOf setup sha
          (x.entry eventType status [] x.before x.before w.positionCount none)).check = .ok () :=
    fun v _ _ htype hstatus => check_execution h.named hloss (positionCount_le w) (Or.inl htype)
      (by rw [hstatus]; rfl)
  unfold prepareAndStart onPersistenceError
  refine Survives.attempt (G := fun e t => e.exceptionClass = .engine ∧ t = w.ticked) ?_ ?_
  swap
  · rintro e t ⟨hclass, rfl⟩
    rw [if_neg (by rw [hclass]; nofun)]
    exact Survives.raise ⟨hclass, rfl⟩
  refine Survives.gets_bind (Survives.bind (commitIntent_survives h hissued
    (hcheck w _ _ rfl (namedLabel_safe (by simp [namedLabels])))
    (VenueMutation.boundTo_of_recorded (x.recorded _ _ _ _ _ _ _ w))) ?_)
  rintro _ _ ⟨rfl, hunused, halive⟩
  refine (append_ready (h.committed _ _)
    (hcheck _ _ _ rfl (namedLabel_safe (by simp [namedLabels])))).mono ?_
    fun _ _ => False.elim
  rintro _ _ rfl
  exact {
    ready := (h.committed _ _).appended _
    records := ⟨_, _, List.append_assoc _ _ _, x.recorded _ _ _ _ _ _ _ w,
      x.recorded _ _ _ _ _ _ _ _⟩
    issued := ⟨hissued.found, hissued.named⟩
    consumed := List.mem_cons_self
    executed := hunused
    position := rfl
    phase := rfl
    clock := rfl
    alive := halive }

/-- A step of the executor leaves the journal and the phase alone. -/
structure E1World.Aside (w t : E1World) : Prop where
  journalFile : t.journalFile = w.journalFile
  records : t.records = w.records
  appendIncidents : t.appendIncidents = w.appendIncidents
  phase : t.phase = w.phase

theorem E1World.Ready.aside (h : w.Ready setup) (ht : w.Aside t) : t.Ready setup :=
  h.of_same ht.journalFile ht.records ht.appendIncidents

def TouchesVenue (effect : E1Process Unit) : Prop :=
  ∀ w, Survives effect w (fun _ t => w.Aside t)
    fun e t => e.exceptionClass = .persistence ∧ w.Aside t

theorem replaceVenue_touches (token : ShadowGateToken) (position : Option VirtualPosition) :
    TouchesVenue (replaceVenue token position) := by
  intro w
  unfold Survives Process.run replaceVenue
  cases w.venueIncidents.headD .quiet with
  | quiet => exact ⟨rfl, rfl, rfl, rfl⟩
  | raises step => cases step <;> exact ⟨rfl, rfl, rfl, rfl, rfl⟩
  | crashes renamed => cases renamed <;> trivial

theorem openPosition_touches (token : ShadowGateToken) (position : VirtualPosition) :
    TouchesVenue (openPosition token position) := fun w =>
  Survives.gets_bind (Survives.gets_bind (Survives.require_bind
    (fun _ => Survives.require_bind (fun _ => replaceVenue_touches _ _ w)
      fun _ => ⟨rfl, rfl, rfl, rfl, rfl⟩) fun _ => ⟨rfl, rfl, rfl, rfl, rfl⟩))

theorem settlePositionSpecific_touches (token : ShadowGateToken) (positionRef : LocalId) :
    TouchesVenue (settlePositionSpecific token positionRef) := fun w =>
  Survives.gets_bind (Survives.gets_bind (Survives.require_bind
    (fun _ => Survives.require_bind (fun _ => replaceVenue_touches _ _ w)
      fun _ => ⟨rfl, rfl, rfl, rfl, rfl⟩) fun _ => ⟨rfl, rfl, rfl, rfl, rfl⟩))

/-- How an execution ends that raises behind its durable start: the venue refused or lost
the write, the token died or the fault is none of an executor, or the fault is the crash. -/
inductive RaisesBehindStart (x : Execution) (readings : List Timestamp) (e : E1Error) : Prop
  | venue (class_eq : e.exceptionClass = .persistence)
  | refused (class_eq : e.exceptionClass = .engine)
      (cause : x.token.isExpired (readings.headD 0) = true ∨ x.fault.kind = .restartReconcile)
  | crashed (alive : x.token.isExpired (readings.headD 0) = false)
      (cause : x.fault.kind = .crashMidVirtualExecution)

/-- What the executor's result says of the state it is returned in. -/
structure VirtualExecutionResult.Tells (result : VirtualExecutionResult) (sha : Sha256)
    (w : E1World) : Prop where
  observed : result.observedStateDigest = w.stateDigest sha
  count : result.positionCount ≤ 1

theorem executionResult_survives {outcome : ExecutionOutcome} (h : w.Aside t) :
    Survives (executionResult sha outcome) t (fun result u => w.Aside u ∧ result.Tells sha u) E :=
  ⟨h, rfl, positionCount_le t⟩

/-- **The executor leaves the journal alone**, and raises for one of these reasons. -/
theorem executeUnder_survives {effect partialEffect : E1Process Unit}
    (heffect : TouchesVenue effect) ( hpartial : TouchesVenue partialEffect)
    (h : StartedFrom setup sha x start w) :
    Survives
      (executeUnder setup sha x.token x.fault effect partialEffect crashMessage
        unsupportedMessage) w
      (fun result t => w.Aside t ∧ result.Tells sha t)
      fun e t => w.Aside t ∧ RaisesBehindStart x start.clockReadings.tail e := by
  obtain ⟨p, s, hrecords, -, hs⟩ := h.records
  have hlast : lastBoundTo .virtualExecutionStarted x.token w.records = true := by
    unfold lastBoundTo
    rw [hrecords, show start.records ++ [p, s] = (start.records ++ [p]) ++ [s] by simp,
      List.getLast?_concat]
    exact VenueMutation.boundTo_of_recorded hs
  unfold executeUnder
  refine Survives.bind (P := fun _ t => w.Aside t ∧
    x.token.isExpired (start.clockReadings.tail.headD 0) = false) ?_ ?_
  · unfold beginExecution
    refine Survives.bind ((validateToken_survives h.issued).mono (fun _ _ ht => ht) ?_) ?_
    · rintro e _ ⟨hclass, rfl, hexpired⟩
      rw [h.clock] at hexpired
      exact ⟨⟨rfl, rfl, rfl, rfl⟩, .refused hclass (Or.inl hexpired)⟩
    · rintro _ _ ⟨rfl, halive⟩
      rw [h.clock] at halive
      refine Survives.gets_bind (Survives.require_bind (fun _ => ?_)
        fun hnot => absurd h.consumed hnot)
      refine Survives.require_bind (fun _ => ?_) fun hnot => absurd h.executed hnot
      refine Survives.require_bind (fun _ => ?_) fun hnot => absurd hlast hnot
      exact ⟨⟨rfl, rfl, rfl, rfl⟩, halive⟩
  rintro _ t ⟨haside, halive⟩
  have htrans : ∀ {u}, t.Aside u → w.Aside u := fun hu =>
    ⟨hu.journalFile.trans haside.journalFile, hu.records.trans haside.records,
      hu.appendIncidents.trans haside.appendIncidents, hu.phase.trans haside.phase⟩
  have htouches : ∀ {effect : E1Process Unit}, TouchesVenue effect →
      Survives effect t (fun _ u => w.Aside u)
        fun e u => w.Aside u ∧ RaisesBehindStart x start.clockReadings.tail e := fun heffect =>
    (heffect t).mono (fun _ _ hu => htrans hu) fun _ _ hu => ⟨htrans hu.2, .venue hu.1⟩
  cases hkind : x.fault.kind with
  | rejected => exact executionResult_survives haside
  | none => exact (htouches heffect).bind fun _ _ hu => executionResult_survives hu
  | partialFill => exact (htouches hpartial).bind fun _ _ hu => executionResult_survives hu
  | timeout =>
      exact (Survives.ite (fun _ => htouches heffect) fun _ => Survives.pure haside).bind
        fun _ _ hu => executionResult_survives hu
  | unknownResult =>
      exact (Survives.ite (fun _ => htouches heffect) fun _ => Survives.pure haside).bind
        fun _ _ hu => executionResult_survives hu
  | networkError =>
      exact (Survives.ite (fun _ => htouches heffect) fun _ => Survives.pure haside).bind
        fun _ _ hu => executionResult_survives hu
  | crashMidVirtualExecution =>
      exact (Survives.ite (fun _ => htouches heffect) fun _ => Survives.pure haside).bind
        fun _ _ hu => ⟨hu, .crashed halive hkind⟩
  | restartReconcile =>
      exact (Survives.ite (fun _ => htouches heffect) fun _ => Survives.pure haside).bind
        fun _ _ hu => ⟨hu, .refused rfl (Or.inr hkind)⟩

def E1World.Blocked (w : E1World) : Prop :=
  w.phase = .halted ∨ w.phase = .reconcileRequired

/-- An execution was confirmed: its records stand behind those of `w`, and the journal
expects the position that the engine holds. -/
structure ConfirmedBehind (sha : Sha256) (x : Execution) (before : List JournalRecord)
    (t : E1World) : Prop where
  records : ∃ c, t.records = before ++ [c] ∧ x.Recorded .virtualExecutionConfirmed c
  expected : t.expectedDigest sha = t.stateDigest sha
  phase : t.phase = stablePhase t.position

theorem recordOutcome_ready
    (h : w.Ready setup) (hcheck : (w.recordOf setup sha entry).check = .ok ()) :
    Survives (recordOutcome setup sha entry message) w
      (fun _ t => t = w.appended (w.recordOf setup sha entry)) fun _ _ => False := by
  unfold recordOutcome onPersistenceError
  exact (append_ready h hcheck).attempt fun _ _ => False.elim

theorem outcome_safe (outcome : ExecutionOutcome) : safeLabel outcome.value.toList = true := by
  cases outcome <;> decide +kernel

/-- **Every outcome gives the engine a phase**: confirmed and stable, or blocked. -/
theorem finishExecution_survives {result : VirtualExecutionResult}
    (h : w.Ready setup) (hloss : x.LossSound) (htells : result.Tells sha w) :
    Survives (finishExecution setup sha x result) w
      (fun _ t => t.Ready setup ∧ (t.Blocked ∨ ConfirmedBehind sha x w.records t))
      fun _ _ => False := by
  have hcheck : ∀ (v : E1World) (eventType : JournalEventType) (status : String)
      (reasons : List String) (expected : HexDigest) (outcome : Option ExecutionOutcome),
      (eventType.lifecycle = true ∨ eventType = .fakeCriticalAlert) →
        (safeLabel status.toList && reasons.all fun reason => safeLabel reason.toList) = true →
          (v.recordOf setup sha (x.entry eventType status reasons expected
            result.observedStateDigest result.positionCount outcome)).check = .ok () :=
    fun _ _ _ _ _ _ htype hlabels => check_execution h.named hloss htells.count htype hlabels
  have huncertain : Survives (finishUncertain setup sha x result) w
      (fun _ t => t.Ready setup ∧ (t.Blocked ∨ ConfirmedBehind sha x w.records t))
      fun _ _ => False := by
    refine (recordOutcome_ready h
      (hcheck w _ _ _ _ _ (Or.inl rfl) (by decide +kernel))).bind ?_
    rintro _ _ rfl
    refine append_ready_bind (h.appended _) (hcheck _ _ _ _ _ _ (Or.inr rfl) ?_) ?_
    · have hstatus : safeLabel "FAKE_CRITICAL_ALERT_RECONCILE_REQUIRED".toList = true :=
        namedLabel_safe (by simp [namedLabels])
      rw [hstatus]
      simpa using outcome_safe result.outcome
    · exact ⟨((h.appended _).appended _).of_same rfl rfl rfl, Or.inl (Or.inr rfl)⟩
  unfold finishExecution
  cases result.outcome with
  | accepted =>
      refine Survives.ite (fun _ => ?_) fun hequal => ?_
      · exact (recordReconcileMismatch_ready h
        (namedLabel_safe (by simp [namedLabels]))).bind
          fun _ _ ht => ⟨ht.1, Or.inl (Or.inl ht.2)⟩
      · refine (recordOutcome_ready h (hcheck w _ _ _ _ _ (Or.inl rfl) (by decide +kernel))).bind ?_
        rintro _ _ rfl
        refine ⟨(h.appended _).of_same rfl rfl rfl, Or.inr ⟨⟨_, rfl,
          x.recorded _ _ _ _ _ _ _ w⟩, ?_, rfl⟩⟩
        show ShadowIntentJournal.expectedStateDigest sha (w.records ++ [_]) = _
        unfold ShadowIntentJournal.expectedStateDigest
        rw [List.getLast?_concat]
        exact (not_not.mp hequal).symm.trans htells.observed
  | rejected =>
      refine (recordOutcome_ready h (hcheck w _ _ _ _ _ (Or.inl rfl) (by decide +kernel))).bind ?_
      rintro _ _ rfl
      exact (appendHalt_ready (h.appended _)
        (namedLabel_safe (by simp [namedLabels, KillReason.value]))).bind
        fun _ _ ht => ⟨ht.1, Or.inl (Or.inl ht.2.1)⟩
  | timeout => exact huncertain
  | unknown => exact huncertain
  | networkError => exact huncertain
  | partialFill => exact huncertain

theorem recordVenuePersistenceUnknown_survives (h : w.Ready setup) (hloss : x.LossSound) :
    Survives (recordVenuePersistenceUnknown setup sha x) w
      (fun _ t => t.Ready setup ∧ t.Blocked) fun _ _ => False := by
  unfold recordVenuePersistenceUnknown onPersistenceError
  refine Survives.attempt (G := fun _ _ => False) ?_ fun _ _ => False.elim
  refine Survives.gets_bind (append_ready_bind h (check_execution h.named hloss
    (positionCount_le w) (Or.inl rfl) (by decide +kernel)) ?_)
  exact (appendFakeAlert_ready (h.appended _)
        (namedLabel_safe (by simp [namedLabels]))).bind
    fun _ _ ht => ⟨ht.1.of_same rfl rfl rfl, Or.inr rfl⟩

/-- How the call of an execution is left by an exception: with nothing recorded, blocked, or
open, behind a durable start that no handler answers. -/
structure LeavesBy (x : Execution) (w : E1World) (e : E1Error) (t : E1World) : Prop where
  ready : t.Ready setup
  left : t = w.ticked ∨ t.Blocked ∨
    (x.token.isExpired (w.clockReadings.headD 0) = false ∧
      (x.token.isExpired (w.clockReadings.tail.headD 0) = true ∨
        x.fault.kind = .restartReconcile ∨ x.fault.kind = .crashMidVirtualExecution))
  caught : e.exceptionClass = .engine ∨
    (x.token.isExpired (w.clockReadings.headD 0) = false ∧
      x.token.isExpired (w.clockReadings.tail.headD 0) = false ∧
        x.fault.kind = .crashMidVirtualExecution)

/-- **One execution, to each of its ends.** -/
theorem executeIntent_survives {effect partialEffect : E1Process Unit}
    (heffect : TouchesVenue effect) ( hpartial : TouchesVenue partialEffect)
    (h : w.Ready setup) (hissued : Issued setup sha x.token w) (hloss : x.LossSound) :
    Survives
      (executeIntent setup sha x
        (executeUnder setup sha x.token x.fault effect partialEffect crashMessage
          unsupportedMessage)) w
      (fun _ t => t.Ready setup ∧ (t.Blocked ∨ ∃ p s, x.Recorded .intentPrepared p ∧
        x.Recorded .virtualExecutionStarted s ∧
          ConfirmedBehind sha x (w.records ++ [p, s]) t))
      fun e t => @LeavesBy setup x w e t := by
  unfold executeIntent
  refine Survives.bind ((prepareAndStart_survives h hissued hloss).mono (fun _ _ ht => ht) ?_) ?_
  · rintro e _ ⟨hclass, rfl⟩
    exact ⟨h.of_same rfl rfl rfl, Or.inl rfl, Or.inl hclass⟩
  intro _ t hstarted
  refine Survives.bind (P := fun result u => u.Ready setup ∧ u.records = t.records ∧
    result.Tells sha u) ?_ ?_
  · unfold onPersistenceError
    refine Survives.attempt ((executeUnder_survives heffect hpartial hstarted).mono
      (fun _ _ hu => ⟨hstarted.ready.aside hu.1, hu.1.records, hu.2⟩) fun _ _ hu => hu) ?_
    rintro e u ⟨haside, hraises⟩
    have hready := hstarted.ready.aside haside
    refine Survives.ite (fun _ => ?_) fun hnot => ?_
    · exact (recordVenuePersistenceUnknown_survives hready hloss).mono (fun _ _ hv => hv)
        (fun _ _ => False.elim) |>.bind fun _ _ hv => ⟨hv.1, Or.inr (Or.inl hv.2), Or.inl rfl⟩
    · refine Survives.raise ⟨hready, Or.inr (Or.inr ⟨hstarted.alive, ?_⟩), ?_⟩
      · cases hraises with
        | venue hclass => exact absurd hclass hnot
        | refused _ hcause => exact hcause.imp_right Or.inl
        | crashed _ hcause => exact Or.inr (Or.inr hcause)
      · cases hraises with
        | venue hclass => exact absurd hclass hnot
        | refused hclass _ => exact Or.inl hclass
        | crashed halive hcause => exact Or.inr ⟨hstarted.alive, halive, hcause⟩
  · rintro result u ⟨hready, hrecords, htells⟩
    obtain ⟨p, s, hbehind, hp, hs⟩ := hstarted.records
    refine (finishExecution_survives hready hloss htells).mono (fun _ v hv => ⟨hv.1, ?_⟩)
      fun _ _ => False.elim
    refine hv.2.imp_right fun hconfirmed => ⟨p, s, hp, hs, ?_⟩
    rwa [hrecords, hbehind] at hconfirmed

/-- A token that is issued at the first of these readings is alive at the n-th behind it. -/
def tokenAlive (setup : E1Setup) (readings : List Timestamp) (n : Nat) : Bool :=
  decide (readings.getD n 0 <
    buildTokenExpiry (readings.getD 0 0) setup.policy.tokenTtlSeconds)

/-- The execution under a token of these readings raises behind its durable start, and no
handler gives the engine a phase: the token dies in between, or the fault is the crash or
one that no executor knows. -/
def leftOpen (setup : E1Setup) (readings : List Timestamp) (fault : FaultInjection) : Bool :=
  tokenAlive setup readings 1 && (!tokenAlive setup readings 2 ||
    decide (fault.kind = .restartReconcile) || decide (fault.kind = .crashMidVirtualExecution))

/-- The execution under a token of these readings ends in the simulated crash. -/
def crashesOpen (setup : E1Setup) (readings : List Timestamp) (fault : FaultInjection) : Bool :=
  tokenAlive setup readings 1 && tokenAlive setup readings 2 &&
    decide (fault.kind = .crashMidVirtualExecution)

/-- Nothing was recorded: journal, position and phase are those of `w`. -/
structure E1World.Unmoved (w t : E1World) : Prop where
  records : t.records = w.records
  position : t.position = w.position
  phase : t.phase = w.phase

def JournalEventType.noted : JournalEventType → Bool
  | runStarted | heartbeatRecorded | noActionRecorded | restartAckRecorded => true
  | incidentRecorded | postmortemRecorded => true
  | _ => false

/-- One record without consequences: the journal expects the position that the engine
holds, and position and phase are those of `w`. -/
structure E1World.Noted (sha : Sha256) (w t : E1World) : Prop where
  records : ∃ r, t.records = w.records ++ [r] ∧ r.eventType.noted = true ∧
    r.expectedStateDigest = w.stateDigest sha
  position : t.position = w.position
  phase : t.phase = w.phase

/-- An execution was prepared, started and confirmed behind the records of `w`. -/
def Executed (sha : Sha256) (w t : E1World) : Prop :=
  ∃ x p s, x.Recorded .intentPrepared p ∧ x.Recorded .virtualExecutionStarted s ∧
    ConfirmedBehind sha x (w.records ++ [p, s]) t

/-- What an execution leaves that returns. -/
structure Concluded (setup : E1Setup) (sha : Sha256) (w t : E1World) : Prop where
  ready : t.Ready setup
  outcome : t.Blocked ∨ Executed sha w t

/-- What an execution leaves that raises. -/
structure Broken (setup : E1Setup) (fault : FaultInjection) (w : E1World) (e : E1Error)
    (t : E1World) : Prop where
  ready : t.Ready setup
  left : w.Unmoved t ∨ t.Blocked ∨ leftOpen setup w.clockReadings fault = true
  caught : e.exceptionClass = .engine ∨ crashesOpen setup w.clockReadings fault = true

def E1World.issuing (w : E1World) (token : ShadowGateToken) : E1World :=
  { w with
    counter := w.counter + 1
    clockReadings := w.clockReadings.tail
    issued := token :: w.issued }

theorem getD_succ_eq (readings : List Timestamp) (n : Nat) :
    readings.getD (n + 1) 0 = readings.tail.getD n 0 := by
  cases readings <;> rfl

theorem headD_eq_getD (readings : List Timestamp) : readings.headD 0 = readings.getD 0 0 := by
  cases readings <;> rfl

variable {fault : FaultInjection}

/-- **A token is issued and its intent executed.** -/
theorem issueAndExecute_survives {action : GateAction} {intentId : LocalId}
    {pnlCategory : PnlCategory} {virtualLoss : ℚ}
    {executor : ShadowGateToken → E1Process VirtualExecutionResult}
    (hexecutor : ∀ token, ∃ effect partialEffect crashMessage unsupportedMessage,
      TouchesVenue effect ∧ TouchesVenue partialEffect ∧
        executor token = executeUnder setup sha token fault effect partialEffect crashMessage
          unsupportedMessage)
    (h : w.Ready setup) (hloss : 0 ≤ virtualLoss ∧ (pnlCategory = .loss ∨ virtualLoss = 0)) :
    Survives
      (issue setup sha action intentId intentDigest >>= fun token => do
        let w ← Process.gets id
        executeIntent setup sha
          { token, time, fault, before := w.stateDigest sha, planned, pnlCategory, virtualLoss }
          (executor token)) w
      (fun _ t => Concluded setup sha w t) fun e t => Broken setup fault w e t := by
  have hissue : (issue setup sha action intentId intentDigest).run w =
      (.returned (newToken setup sha action intentId intentDigest (w.counter + 1)
          (w.clockReadings.headD 0)),
        w.issuing (newToken setup sha action intentId intentDigest (w.counter + 1)
          (w.clockReadings.headD 0))) := rfl
  generalize htoken : newToken setup sha action intentId intentDigest (w.counter + 1)
    (w.clockReadings.headD 0) = token at hissue
  have hexpired : ∀ now, token.isExpired now =
      !decide (now < buildTokenExpiry (w.clockReadings.getD 0 0)
        setup.policy.tokenTtlSeconds) := by
    intro now
    rw [← headD_eq_getD, ← htoken, ← decide_not]
    exact decide_eq_decide.mpr not_lt.symm
  have hissued : Issued setup sha token (w.issuing token) := by
    refine ⟨?_, ?_⟩
    · simp [E1World.issuing]
    · rw [← htoken]
      exact ⟨rfl, rfl⟩
  obtain ⟨effect, partialEffect, crashMessage, unsupportedMessage, heffect, hpartial, hbody⟩ :=
    hexecutor token
  refine (Survives.of_run hissue ⟨rfl, rfl⟩ : Survives _ w
    (fun a t => a = token ∧ t = w.issuing token) _).bind ?_
  rintro issuedToken t ⟨htokens, ht⟩
  rw [htokens, ht]
  refine Survives.gets_bind ?_
  rw [hbody]
  refine (executeIntent_survives (w := w.issuing token)
    (x := { token, time, fault, before := (w.issuing token).stateDigest sha, planned,
            pnlCategory, virtualLoss })
    heffect hpartial (h.of_same rfl rfl rfl) hissued hloss).mono (fun _ u hu => ?_) fun e u hu => ?_
  · exact ⟨hu.1, hu.2.imp_right fun ⟨p, s, hp, hs, hconfirmed⟩ => ⟨_, p, s, hp, hs, hconfirmed⟩⟩
  · have hfirst : token.isExpired ((w.issuing token).clockReadings.headD 0) =
        !tokenAlive setup w.clockReadings 1 := by
      rw [hexpired, headD_eq_getD]
      unfold tokenAlive
      rw [getD_succ_eq]
      rfl
    have hsecond : token.isExpired ((w.issuing token).clockReadings.tail.headD 0) =
        !tokenAlive setup w.clockReadings 2 := by
      rw [hexpired, headD_eq_getD]
      unfold tokenAlive
      rw [getD_succ_eq, getD_succ_eq]
      rfl
    obtain ⟨hready, hleft, hcaught⟩ := hu
    rw [hfirst, hsecond] at hleft hcaught
    refine ⟨hready, ?_, hcaught.imp_right fun hcrash => ?_⟩
    · rcases hleft with rfl | hblocked | hopen
      · exact Or.inl ⟨rfl, rfl, rfl⟩
      · exact Or.inr (Or.inl hblocked)
      · refine Or.inr (Or.inr ?_)
        unfold leftOpen
        simpa [or_assoc] using hopen
    · unfold crashesOpen
      simpa [and_assoc] using hcrash

/-- The ends of a call behind which a settled engine is settled again, or blocked. -/
def Harmless (sha : Sha256) (w t : E1World) : Prop :=
  t.Blocked ∨ Executed sha w t ∨ w.Noted sha t ∨ w.Unmoved t

theorem Concluded.harmless (h : Concluded setup sha w t) : Harmless sha w t :=
  h.outcome.imp_right Or.inl

theorem appendNote_survives (h : w.Ready setup) (hnoted : entry.eventType.noted = true)
    (hexpected : entry.expectedStateDigest = w.stateDigest sha) :
    Survives (append setup sha entry) w (fun _ t => t.Ready setup ∧ w.Noted sha t)
      fun _ t => t.Ready setup ∧ w.Unmoved t := by
  refine (append_survives h.orderly).mono ?_ ?_
  · rintro _ _ ⟨rfl, -, -⟩
    exact ⟨h.appended _, ⟨_, rfl, hnoted, hexpected⟩, rfl, rfl⟩
  · rintro _ _ ⟨rfl, -⟩
    exact ⟨⟨h.named, h.file, h.orderly.spendAppend⟩, rfl, rfl, rfl⟩

variable {market : MarketFrame}

theorem riskBlocked_survives {reasons : List String} (h : w.Ready setup) :
    Survives (riskBlocked setup sha market reasons) w
      (fun _ t => t.Ready setup ∧ w.Noted sha t) fun _ t => t.Ready setup ∧ w.Unmoved t :=
  Survives.gets_bind ((appendNote_survives h rfl rfl).bind fun _ _ ht => ht)

def E1World.minting (w : E1World) (text : CanonicalText) : E1World :=
  { w with mintedTexts := w.mintedTexts ++ [text] }

theorem mint_bind {α : Type} {text : CanonicalText} {f : LocalId → E1Process α}
    {Q : α → E1World → Prop}
    (hf : Survives (f (makeLocalId sha "intent" text)) (w.minting text) Q E) :
    Survives (mintIntentId sha text >>= f) w Q E :=
  hf

theorem Harmless.of_minting {text : CanonicalText}
    (h : Harmless sha (w.minting text) t) : Harmless sha w t :=
  h.imp_right (Or.imp id (Or.imp (fun hnoted => ⟨hnoted.records, hnoted.position, hnoted.phase⟩)
    fun hsame => ⟨hsame.records, hsame.position, hsame.phase⟩))

/-- The intent that an entry decision gives, if its position can be built. -/
def entryIntent? (setup : E1Setup) (sha : Sha256) (w : E1World) (decision : EngineDecision)
    (market : MarketFrame) (stop : ℚ) : Option EntryIntent :=
  let intentId := makeLocalId sha "intent"
    (entryIdText setup sha decision.engineLabel w.records.length market.evaluationTime)
  match buildVirtualPosition
      (makeLocalId sha "vposition"
        [("intent_id", .digest intentId), ("run_id", .text setup.runId)])
      (entrySide decision.engineLabel)
      ⟨setup.policy.fixedVirtualUnits, setup.units_pos⟩
      (entryPrice market (entrySide decision.engineLabel)) stop with
  | .error _ => none
  | .ok position => some
      { intentId, runId := setup.runId, configHash := setup.configHash sha,
        createdAt := market.evaluationTime, position }

def entryGranted (setup : E1Setup) (sha : Sha256) (w : E1World) (decision : EngineDecision)
    (market : MarketFrame) (stop : Option ℚ) : Bool :=
  (stop.bind (entryIntent? setup sha w decision market)).any fun intent =>
    decide (entryReasons setup sha w intent market = [])

theorem processEntry_survives {decision : EngineDecision} {stop : Option ℚ} (h : w.Ready setup)
    (hopen : entryGranted setup sha w decision market stop = true →
      leftOpen setup w.clockReadings fault = false) :
    Survives (processEntry setup sha decision market stop fault) w
      (fun _ t => t.Ready setup ∧ Harmless sha w t)
      fun _ t => t.Ready setup ∧ Harmless sha w t := by
  have hblocked : ∀ {v : E1World} {reasons}, v.Ready setup →
      Survives (riskBlocked setup sha market reasons) v
        (fun _ t => t.Ready setup ∧ Harmless sha v t)
        fun _ t => t.Ready setup ∧ Harmless sha v t := fun hv =>
    (riskBlocked_survives hv).mono (fun _ _ ht => ⟨ht.1, Or.inr (Or.inr (Or.inl ht.2))⟩)
      fun _ _ ht => ⟨ht.1, Or.inr (Or.inr (Or.inr ht.2))⟩
  unfold processEntry
  cases stop with
  | none => exact hblocked h
  | some stop =>
      refine Survives.gets_bind (mint_bind ?_)
      generalize htext : entryIdText setup sha decision.engineLabel w.records.length
        market.evaluationTime = text
      have hready : (w.minting text).Ready setup := h.of_same rfl rfl rfl
      have hunmint : ∀ {t : E1World}, t.Ready setup ∧ Harmless sha (w.minting text) t →
          t.Ready setup ∧ Harmless sha w t := fun ht => ⟨ht.1, ht.2.of_minting⟩
      split
      · exact ⟨hready, Or.inr (Or.inr (Or.inr ⟨rfl, rfl, rfl⟩))⟩
      case h_2 position hbuilt =>
        refine Survives.gets_bind (Survives.ite (fun _ => ?_) fun hgranted => ?_)
        · exact (hblocked hready).mono (fun _ _ ht => hunmint ht) fun _ _ ht => hunmint ht
        · have hclosed : leftOpen setup w.clockReadings fault = false := by
            refine hopen ?_
            unfold entryGranted entryIntent?
            rw [htext]
            simp only [Option.bind_some, hbuilt, Option.any_some, decide_eq_true_eq]
            exact not_not.mp hgranted
          refine (issueAndExecute_survives (fun token => ⟨_, _, _, _, openPosition_touches _ _,
            openPosition_touches _ _, rfl⟩) hready ⟨le_rfl, Or.inr rfl⟩).mono
              (fun _ _ ht => hunmint ⟨ht.ready, ht.harmless⟩) fun _ _ ht => hunmint ⟨ht.ready, ?_⟩
          rcases ht.left with hsame | hblocked | hleft
          · exact Or.inr (Or.inr (Or.inr hsame))
          · exact Or.inl hblocked
          · exact absurd (hclosed.symm.trans hleft) Bool.false_ne_true

/-- The intent that settles the held position, if its profit and loss is finite. -/
def settlementIntent? (setup : E1Setup) (sha : Sha256) (w : E1World) (market : MarketFrame)
    (position : VirtualPosition) : Option SettlementIntent :=
  match classifyPnl position (exitPrice market position.side) with
  | .error _ => none
  | .ok (pnlCategory, virtualLoss) => some
      { intentId := makeLocalId sha "intent"
          (settlementIdText setup sha position.positionRef w.records.length
            market.evaluationTime),
        runId := setup.runId, configHash := setup.configHash sha,
        createdAt := market.evaluationTime, positionRef := position.positionRef,
        exitPrice := exitPrice market position.side, pnlCategory, virtualLoss }

def settlementGranted (setup : E1Setup) (sha : Sha256) (w : E1World) (decision : EngineDecision)
    (market : MarketFrame) (emergency : Bool) : Bool :=
  w.position.any fun position =>
    decide (decision.positionRef? = some position.positionRef) &&
      (settlementIntent? setup sha w market position).any fun intent =>
        decide (settlementReasons setup sha w intent market emergency = [])

theorem processSettlement_survives {decision : EngineDecision}
    {emergency : Bool} (h : w.Ready setup) :
    Survives (processSettlement setup sha decision market fault emergency) w
      (fun _ t => t.Ready setup ∧ Harmless sha w t)
      fun e t => t.Ready setup ∧
        (Harmless sha w t ∨ (settlementGranted setup sha w decision market emergency = true ∧
          leftOpen setup w.clockReadings fault = true)) ∧
        (settlementGranted setup sha w decision market emergency = true →
          e.exceptionClass = .engine ∨ crashesOpen setup w.clockReadings fault = true) := by
  have hrefused : ∀ {v : E1World} {reasons}, v.Ready setup →
      (∀ {t}, Harmless sha v t → Harmless sha w t) →
      settlementGranted setup sha w decision market emergency = false →
      Survives (riskBlocked setup sha market reasons) v
        (fun _ t => t.Ready setup ∧ Harmless sha w t)
        fun e t => t.Ready setup ∧
          (Harmless sha w t ∨ (settlementGranted setup sha w decision market emergency = true ∧
            leftOpen setup w.clockReadings fault = true)) ∧
          (settlementGranted setup sha w decision market emergency = true →
            e.exceptionClass = .engine ∨ crashesOpen setup w.clockReadings fault = true) :=
    fun hv hback hnot => (riskBlocked_survives hv).mono
      (fun _ _ ht => ⟨ht.1, hback (Or.inr (Or.inr (Or.inl ht.2)))⟩)
      fun _ _ ht => ⟨ht.1, Or.inl (hback (Or.inr (Or.inr (Or.inr ht.2)))),
        fun hgranted => absurd (hnot.symm.trans hgranted) nofun⟩
  unfold processSettlement
  refine Survives.gets_bind ?_
  cases hheld : w.position with
  | none =>
      refine hrefused h id ?_
      unfold settlementGranted
      rw [hheld]
      rfl
  | some position =>
      refine Survives.ite (fun href => hrefused h id ?_) fun href => ?_
      · unfold settlementGranted
        rw [hheld, Option.any_some, decide_eq_false href, Bool.false_and]
      split
      case h_1 e herror =>
        have hnot : settlementGranted setup sha w decision market emergency = false := by
          unfold settlementGranted settlementIntent?
          rw [hheld, Option.any_some, herror]
          simp
        exact ⟨h, Or.inl (Or.inr (Or.inr (Or.inr ⟨rfl, rfl, rfl⟩))),
          fun hgranted => absurd (hnot.symm.trans hgranted) nofun⟩
      case h_2 pnlCategory virtualLoss hpnl =>
        refine Survives.gets_bind (mint_bind ?_)
        have hready : ∀ text, (w.minting text).Ready setup := fun _ => h.of_same rfl rfl rfl
        refine Survives.gets_bind (Survives.ite (fun hreasons => ?_) fun hgranted => ?_)
        · refine hrefused (hready _) Harmless.of_minting ?_
          unfold settlementGranted settlementIntent?
          rw [hheld, Option.any_some, hpnl]
          simp only [Option.any_some, Bool.and_eq_false_iff, decide_eq_false_iff_not]
          exact Or.inr hreasons
        · have hpassed : settlementGranted setup sha w decision market emergency = true := by
            unfold settlementGranted settlementIntent?
            rw [hheld, Option.any_some, hpnl]
            simp only [Option.any_some, Bool.and_eq_true, decide_eq_true_eq]
            exact ⟨not_not.mp href, not_not.mp hgranted⟩
          refine (issueAndExecute_survives (fun token => ⟨_, _, _, _,
            settlePositionSpecific_touches _ _, fun v => Survives.pure ⟨rfl, rfl, rfl, rfl⟩,
              rfl⟩) (hready _) (lossSound_of_classifyPnl hpnl)).mono
                (fun _ _ ht => ⟨ht.ready, ht.harmless.of_minting⟩) fun e t ht => ?_
          refine ⟨ht.ready, ?_, fun _ => ht.caught⟩
          rcases ht.left with hsame | hblocked | hleft
          · exact Or.inl (Harmless.of_minting (Or.inr (Or.inr (Or.inr hsame))))
          · exact Or.inl (Or.inl hblocked)
          · exact Or.inr ⟨hpassed, hleft⟩

/-- A kill with this market frame flattens the held position and is left by an exception
behind its activation: the profit and loss is not finite, or the settlement ends in the
simulated crash. -/
def killOpen (setup : E1Setup) (w : E1World) (market : Option MarketFrame)
    (fault : FaultInjection) : Bool :=
  match w.position, market with
  | some position, some market =>
      match classifyPnl position (exitPrice market position.side) with
      | .error _ => true
      | .ok _ => crashesOpen setup w.clockReadings fault
  | _, _ => false

theorem settlementGranted_emergency {amounts : PnlCategory × ℚ}
    {reason : SafeText} (hheld : w.position = some position)
    (hpnl : classifyPnl position (exitPrice market position.side) = .ok amounts) :
    settlementGranted setup sha w (.settlement false position.positionRef configHash reason) market
      true = true := by
  unfold settlementGranted settlementIntent?
  rw [hheld, Option.any_some, hpnl]
  simp [EngineDecision.positionRef?, settlementReasons, violations, hheld]

theorem killFlatten_survives {reason : KillReason} (h : w.Ready setup)
    (hheld : w.position = some position) (hopen : killOpen setup w (some market) fault = false) :
    Survives (killFlatten setup sha now reason market fault position) w
      (fun _ t => t.Ready setup ∧ t.phase = .halted) fun _ _ => False := by
  have hgranted : settlementGranted setup sha w
      (.settlement false position.positionRef (setup.configHash sha) flattenReason) market true =
        true ∧ crashesOpen setup w.clockReadings fault = false := by
    unfold killOpen at hopen
    rw [hheld] at hopen
    cases hpnl : classifyPnl position (exitPrice market position.side) with
    | error e =>
        simp only [hpnl] at hopen
        cases hopen
    | ok amounts =>
        simp only [hpnl] at hopen
        exact ⟨settlementGranted_emergency hheld hpnl, hopen⟩
  unfold killFlatten
  refine Survives.bind (P := fun _ t => t.Ready setup) ?_ ?_
  · refine Survives.attempt (G := fun e t => t.Ready setup ∧ e.exceptionClass = .engine) ?_ ?_
    · refine ((processSettlement_survives h).mono (fun _ _ ht => ht.1) fun e t ht => ?_).bind
        fun _ _ ht => ht
      refine ⟨ht.1, (ht.2.2 hgranted.1).resolve_right fun hcrash => ?_⟩
      exact absurd (hgranted.2.symm.trans hcrash) nofun
    · rintro e t ⟨hready, hclass⟩
      rw [if_pos hclass]
      exact hready
  intro attempted t hready
  have hhalt : ∀ {v : E1World}, v.Ready setup →
      Survives (appendHalt setup sha now reason.value) v
        (fun _ u => u.Ready setup ∧ u.phase = .halted) fun _ _ => False := fun hv =>
    (appendHalt_ready hv (killReason_safe reason)).mono (fun _ _ hu => ⟨hu.1, hu.2.1⟩)
      fun _ _ => id
  cases attempted with
  | none =>
      exact (appendFakeAlert_ready hready
        (namedLabel_safe (by simp [namedLabels]))).bind fun _ _ hu =>
        (hhalt hu.1).bind fun _ _ hv => hv
  | some result =>
      refine Survives.gets_bind (Survives.bind (P := fun _ u => u.Ready setup) ?_ fun _ _ hu =>
        (hhalt hu).bind fun _ _ hv => hv)
      exact Survives.ite (fun _ => (appendFakeAlert_ready hready
        (namedLabel_safe (by simp [namedLabels]))).mono
        (fun _ _ hu => hu.1) fun _ _ => id) fun _ => Survives.pure hready

theorem check_kill {deadman : Bool} {reason : KillReason} (h : v.Ready setup) :
    (v.recordOf setup sha
      (killEntry sha w deadman now reason ["NEW_ENTRY_BLOCKED_IMMEDIATELY"])).check = .ok () := by
  have hlabels : (safeLabel reason.value.toList &&
      ["NEW_ENTRY_BLOCKED_IMMEDIATELY"].all fun reason => safeLabel reason.toList) = true := by
    rw [killReason_safe, List.all_cons, namedLabel_safe (by simp [namedLabels])]
    rfl
  refine check_bare h.named hlabels (positionCount_le w) ?_ rfl rfl rfl rfl rfl rfl
  cases deadman <;> rfl

/-- **A kill from a ready engine halts it**, unless its settlement is left open. -/
theorem killStable_survives {reason : KillReason} {market : Option MarketFrame}
    {deadman : Bool} (h : w.Ready setup) (hopen : killOpen setup w market fault = false) :
    Survives (killStable setup sha now reason market fault deadman) w
      (fun _ t => t.Ready setup ∧ t.phase = .halted) fun _ _ => False := by
  unfold killStable onPersistenceError
  refine Survives.gets_bind (Survives.bind (Survives.attempt (append_ready h (check_kill h))
    fun _ _ => False.elim) ?_)
  rintro _ _ rfl
  have hready := h.appended (w.recordOf setup sha
    (killEntry sha w deadman now reason ["NEW_ENTRY_BLOCKED_IMMEDIATELY"]))
  refine Survives.gets_bind ?_
  have hposition : ∀ r, (w.appended r).position = w.position := fun _ => rfl
  simp only [hposition]
  cases hheld : w.position with
  | none =>
      exact (appendHalt_ready hready (killReason_safe reason)).bind
        fun _ _ ht => ⟨ht.1, ht.2.1⟩
  | some position =>
      cases market with
      | none =>
          exact (appendFakeAlert_ready hready
        (namedLabel_safe (by simp [namedLabels]))).bind fun _ _ ht =>
            (appendHalt_ready ht.1 (killReason_safe reason)).bind fun _ _ hu => ⟨hu.1, hu.2.1⟩
      | some market => exact killFlatten_survives hready hheld hopen

end Survival

end FxStrategyLab.E1
