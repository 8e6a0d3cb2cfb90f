import FxStrategyLab.Shadow.Rejection
import FxStrategyLab.Shadow.Pending

/-!
# A rejecting call that loses no append halts the engine

A call that records a rejection appends the halt as well, unless one of its
appends fails or the process dies.  The bound of this file says so for every
method: the journal ends with no new rejection, or blocked.  With it the runs
whose rejecting calls lose no append never start a call on a rejection without
its halt.
-/

namespace FxStrategyLab.E1

open Library

section Halting

variable {setup : E1Setup} {sha : Sha256} {c : Prop}

theorem positionCount_le (w : E1World) : w.positionCount ≤ 1 := by
  unfold E1World.positionCount
  split <;> omega

variable {now now' : Timestamp} {w v t : E1World}
  {status label reason alert message crash unsupported : String} {expected observed : HexDigest}

theorem check_plain {eventType : JournalEventType} {reasons : List String}
    {observed : Option HexDigest} (hrun : safeLabel setup.runId.toList = true)
    (hstatus : safeLabel status.toList = true)
    (hreasons : (reasons.all fun reason => safeLabel reason.toList) = true)
    (htype : eventType = .fakeCriticalAlert ∨ eventType = .halted) :
    (w.recordOf setup sha
      { eventType, timestamp := now, statusLabel := status, reasonCodes := reasons,
        expectedStateDigest := expected, observedStateDigest := observed,
        positionCount := w.positionCount }).check = .ok () := by
  refine JournalRecord.check_eq_ok.mpr ⟨hrun, ?_, positionCount_le w, rfl, ?_, ?_, ?_, ?_, ?_, ?_⟩
  · exact Bool.and_eq_true_iff.mpr ⟨hstatus, hreasons⟩
  · rcases htype with rfl | rfl <;> nofun
  · rcases htype with rfl | rfl <;> nofun
  · rcases htype with rfl | rfl <;> nofun
  · rcases htype with rfl | rfl <;> nofun
  · exact fun _ => ⟨rfl, rfl⟩
  · rcases htype with rfl | rfl <;> rfl

/-- The labels by which the engine's alerts, halts and reconciliations are named. -/
def namedLabels : List String :=
  ["ENGINE_HALTED_STICKY", "FAKE_CRITICAL_ALERT_RECORDED", "FAULT_HANDLED_WITHOUT_RETRY",
    "RESTART_RECONCILE", "EXECUTION_REJECTED", "RECONCILE_MISMATCH",
    "STABLE_VENUE_STATE_MISMATCH", "INITIAL_VENUE_NOT_FLAT",
    "ACCEPTED_RESULT_STATE_MISMATCH", "DURABLE_INTENT_PREPARED_BEFORE_VIRTUAL_EFFECT",
    "VIRTUAL_EXECUTION_STARTED_ONCE", "VIRTUAL_VENUE_PERSISTENCE_UNKNOWN",
    "FAKE_CRITICAL_ALERT_RECONCILE_REQUIRED", "KILL_FLATTEN_MARKET_FRAME_MISSING",
    "KILL_FLATTEN_NOT_CONFIRMED_NO_RETRY", "KILL_FLATTEN_PERSISTENCE_UNKNOWN",
    "NEW_ENTRY_BLOCKED_IMMEDIATELY", "REJECTED_TERMINAL_PERSISTENCE_RECOVERED_NO_RETRY",
    "MISMATCH_HALTED"]

theorem namedLabel_safe (h : label ∈ namedLabels) : safeLabel label.toList = true := by
  have hall : ∀ l ∈ namedLabels, safeLabel l.toList = true := by
    decide +kernel
  exact hall label h

variable {source r : JournalRecord}

theorem check_faultHandled {count : Nat} (hintent : source.intentId.isSome = true)
    (hmatched : (w.recordOf setup sha
      (reconcileEntry .reconcileMatched now status [] expected observed count
        (some source))).check = .ok ()) :
    (v.recordOf setup sha
      { eventType := .faultHandled
        timestamp := now'
        statusLabel := "FAULT_HANDLED_WITHOUT_RETRY"
        reasonCodes := [FaultKind.restartReconcile.value]
        expectedStateDigest := v.stateDigest sha
        observedStateDigest := some (v.stateDigest sha)
        positionCount := v.positionCount
        action := source.action
        intentId := source.intentId
        intentDigest := source.intentDigest
        tokenId := source.tokenId
        faultKind := .restartReconcile
        stateBeforeDigest := source.stateBeforeDigest
        plannedStateDigest := source.plannedStateDigest
        pnlCategory := source.pnlCategory
        virtualLoss := source.virtualLoss }).check = .ok () := by
  have h := JournalRecord.check_eq_ok.mp hmatched
  have hcomplete := h.resolving rfl hintent
  have hlabels : (safeLabel "FAULT_HANDLED_WITHOUT_RETRY".toList &&
      [FaultKind.restartReconcile.value].all fun reason => safeLabel reason.toList) = true := by
    rw [namedLabel_safe (by simp [namedLabels]), List.all_cons,
      namedLabel_safe (by simp [namedLabels, FaultKind.value])]
    rfl
  refine JournalRecord.check_eq_ok.mpr
    ⟨h.run, hlabels, positionCount_le v, h.loss, nofun, nofun, fun _ => ?_, nofun,
      fun _ => ⟨rfl, rfl⟩, rfl⟩
  unfold JournalRecord.faultHandledSound
  simp only [Bool.and_eq_true, decide_eq_true_eq]
  exact ⟨⟨⟨⟨⟨hcomplete, rfl⟩, nofun⟩, rfl⟩, rfl⟩, rfl⟩

def E1World.Quieted (w : E1World) : Prop :=
  ∀ i ∈ w.appendIncidents, i = .quiet

theorem E1World.Quieted.next (h : w.Quieted) : w.appendIncidents.headD .quiet = .quiet := by
  cases hlist : w.appendIncidents with
  | nil => rfl
  | cons i rest => exact h i (by rw [hlist]; exact List.mem_cons_self)

variable {entry : JournalEntry}

/-- An append that can load its journal, whose record passes its checks and that meets no
incident returns. -/
theorem append_quiet_run (hload : w.journalFile.load = .ok w.records) (hquiet : w.Quieted)
    (hcheck : (w.recordOf setup sha entry).check = .ok ()) :
    (append setup sha entry).run w = (.returned (), w.appended (w.recordOf setup sha entry)) := by
  show append setup sha entry w = _
  unfold append
  simp only [hload, ne_eq, not_true_eq_false, if_false, hcheck, hquiet.next]

theorem E1World.Quieted.appended (h : w.Quieted) (r : JournalRecord) : (w.appended r).Quieted :=
  fun i hi => h i (List.mem_of_mem_tail hi)

variable {file : JournalFile}

theorem sticky_of_halted
    (h : ShadowIntentJournal.halted file.records = true) : file.sticky = true := by
  simp [JournalFile.sticky, h]

theorem sticky_of_killed
    (h : ShadowIntentJournal.killActive file.records = true) : file.sticky = true := by
  simp [JournalFile.sticky, h]

theorem sticky_of_unreadable (h : file.tail = .unreadable) : file.sticky = true := by
  simp [JournalFile.sticky, h]

/-- From this state, with a current memory and no incidents, the journal ends blocked. -/
def SticksAt {α : Type} (x : E1Process α) (w : E1World) : Prop :=
  w.Quieted → w.Durable → ((x.run w).2).journalFile.sticky = true

namespace SticksAt

variable {α : Type}

variable {w : E1World}

theorem gets_bind {β : Type} {g : E1World → β} {f : β → E1Process α}
    (h : SticksAt (f (g w)) w) : SticksAt (Process.gets g >>= f) w :=
  h

/-- An append that cannot load its journal leaves it unreadable; any other one goes through. -/
theorem append_bind {entry : JournalEntry} {f : Unit → E1Process α}
    (hcheck : (w.recordOf setup sha entry).check = .ok ())
    (h : SticksAt (f ()) (w.appended (w.recordOf setup sha entry))) :
    SticksAt (append setup sha entry >>= f) w := by
  intro hquiet hdurable
  by_cases htail : w.journalFile.tail = .unreadable
  · have hload : w.journalFile.load =
        .error (persistenceError "journal contains invalid JSON") := if_pos htail
    have hrun : (append setup sha entry).run w =
        (.raised (persistenceError "journal contains invalid JSON"), w.spendAppend) := by
      show append setup sha entry w = _
      unfold append
      rw [hload]
    rw [Process.run_bind_raised hrun]
    exact sticky_of_unreadable htail
  · have hload : w.journalFile.load = .ok w.records := by
      rw [← hdurable]
      exact if_neg htail
    have hrun := append_quiet_run hload hquiet hcheck
    rw [Process.run_bind_returned hrun]
    exact h (hquiet.appended _) (recorded_of_append hrun).durable

theorem bind {β : Type} {x : E1Process β} {f : β → E1Process α} (hx : SticksAt x w)
    (hf : ∀ b, Within (Frame.keeps fun v => v.journalFile.sticky = true) (f b)) :
    SticksAt (x >>= f) w := fun hquiet hdurable =>
  Process.run_bind_ends (Q := fun t => t.journalFile.sticky = true)
    (fun b t hrun => hf b t (by simpa only [hrun] using hx hquiet hdurable))
    (hx hquiet hdurable)

end SticksAt

theorem labels_single {status reason : String} (hstatus : status ∈ namedLabels)
    (hreason : safeLabel reason.toList = true) :
    safeLabel status.toList = true ∧
      ([reason].all fun reason => safeLabel reason.toList) = true :=
  ⟨namedLabel_safe hstatus, by simpa using hreason⟩

theorem appendHalt_sticks
    (hrun : safeLabel setup.runId.toList = true) (hreason : safeLabel reason.toList = true) :
    SticksAt (appendHalt setup sha now reason) w := by
  obtain ⟨hstatus, hreasons⟩ :=
    @labels_single "ENGINE_HALTED_STICKY" _ (by simp [namedLabels]) hreason
  refine SticksAt.gets_bind (SticksAt.append_bind
    (check_plain hrun hstatus hreasons (Or.inr rfl)) fun _ _ => sticky_of_halted ?_)
  show ShadowIntentJournal.halted (w.journalFile.records ++ [_]) = true
  rw [halted_append]
  exact Bool.or_eq_true_iff.mpr (Or.inr rfl)

theorem alertAndHalt_sticks
    (hrun : safeLabel setup.runId.toList = true) (halert : safeLabel alert.toList = true)
    (hreason : safeLabel reason.toList = true) :
    SticksAt (appendFakeAlert setup sha now alert >>= fun _ => appendHalt setup sha now reason)
      w := by
  obtain ⟨hstatus, hreasons⟩ :=
    @labels_single "FAKE_CRITICAL_ALERT_RECORDED" _ (by simp [namedLabels]) halert
  unfold appendFakeAlert
  rw [bind_assoc]
  exact SticksAt.gets_bind (SticksAt.append_bind
    (check_plain hrun hstatus hreasons (Or.inl rfl)) (appendHalt_sticks hrun hreason))

/-- No new rejection, or a blocked journal: required when the rejection of the call cannot
happen, or its appends all go through. -/
def haltFrame (c : Prop) : Frame E1World where
  rel w t := (w.Quieted → t.Quieted) ∧
    (w.journalFile.sticky = true → t.journalFile.sticky = true) ∧
      ((c → w.Quieted) → t.journalFile.rejected = true →
        w.journalFile.rejected = true ∨ t.journalFile.sticky = true)
  refl _ := ⟨id, id, fun _ h => Or.inl h⟩
  trans h₁ h₂ := by
    refine ⟨fun h => h₂.1 (h₁.1 h), fun h => h₂.2.1 (h₁.2.1 h), fun hc hrejected => ?_⟩
    rcases h₂.2.2 (fun h => h₁.1 (hc h)) hrejected with hrejected | hsticky
    · rcases h₁.2.2 hc hrejected with hrejected | hsticky
      · exact Or.inl hrejected
      · exact Or.inr (h₂.2.1 hsticky)
    · exact Or.inr hsticky

theorem halting_of_same (hfile : t.journalFile = w.journalFile)
    (hincidents : t.appendIncidents <:+ w.appendIncidents) : (haltFrame c).rel w t :=
  ⟨fun h i hi => h i (hincidents.subset hi), fun h => hfile ▸ h, fun _ h => Or.inl (hfile ▸ h)⟩

variable {α : Type}

theorem halting_of_quiet {x : E1Process α} (h : Within quietFrame x) : Within (haltFrame c) x :=
  fun w => halting_of_same (h w).journalFile (h w).appendIncidents

theorem setPhase_halting (phase : EnginePhase) : Within (haltFrame c) (setPhase phase) :=
  fun _ => halting_of_same rfl List.suffix_rfl

theorem sticky_write {written : Written}
    (h : file.sticky = true) : (file.write written r).sticky = true := by
  unfold JournalFile.sticky at h
  rw [Bool.or_eq_true, Bool.or_eq_true, decide_eq_true_eq] at h
  rcases h with (hkill | hhalt) | htail
  · refine sticky_of_killed ?_
    rcases write_records file written r with hrecords | hrecords <;> rw [hrecords]
    · exact hkill
    · rw [killActive_append, hkill, Bool.true_or]
  · refine sticky_of_halted ?_
    rcases write_records file written r with hrecords | hrecords <;> rw [hrecords]
    · exact hhalt
    · rw [halted_append, hhalt, Bool.true_or]
  · refine sticky_of_unreadable ?_
    cases written <;> simp [JournalFile.write, htail]

theorem rejected_write {written : Written}
    (hr : r.rejects = false) (h : (file.write written r).rejected = true) :
    file.rejected = true := by
  unfold JournalFile.rejected at h ⊢
  rcases write_records file written r with hrecords | hrecords
  · rw [hrecords] at h
    exact h
  · rw [hrecords, List.any_append] at h
    simpa [hr] using h

theorem append_base (entry : JournalEntry) (w : E1World) :
    (w.Quieted → ((append setup sha entry).run w).2.Quieted) ∧
      (w.journalFile.sticky = true →
        ((append setup sha entry).run w).2.journalFile.sticky = true) := by
  have hspent : w.Quieted → w.spendAppend.Quieted := fun h i hi => h i (List.mem_of_mem_tail hi)
  rcases @append_run setup sha entry w with
    ⟨e, hrun⟩ | ⟨-, hrun | ⟨o, written, -, hrun⟩⟩
  · rw [hrun]
    exact ⟨hspent, id⟩
  · rw [hrun]
    exact ⟨hspent, sticky_write⟩
  · rw [hrun]
    exact ⟨hspent, sticky_write⟩

theorem append_halting (entry : JournalEntry) (h : entry.rejects = false) :
    Within (haltFrame c) (append setup sha entry) := by
  intro w
  refine ⟨(append_base entry w).1, (append_base entry w).2, fun _ => ?_⟩
  rcases @append_run setup sha entry w with
    ⟨e, hrun⟩ | ⟨-, hrun | ⟨o, written, -, hrun⟩⟩
  · rw [hrun]
    exact fun hrejected => Or.inl hrejected
  · rw [hrun]
    exact fun hrejected => Or.inl (rejected_write (r := w.recordOf setup sha entry) h hrejected)
  · rw [hrun]
    exact fun hrejected => Or.inl (rejected_write (r := w.recordOf setup sha entry) h hrejected)

theorem append_run_quiet {w : E1World} (hquiet : w.Quieted) (entry : JournalEntry) :
    (∃ e, (append setup sha entry).run w = (.raised e, w.spendAppend)) ∨
      ((append setup sha entry).run w =
          (.returned (), w.appended (w.recordOf setup sha entry)) ∧
        (w.recordOf setup sha entry).check = .ok ()) := by
  by_cases hload : w.journalFile.load = .ok w.records
  · cases hcheck : (w.recordOf setup sha entry).check with
    | ok u => exact Or.inr ⟨append_quiet_run hload hquiet hcheck, rfl⟩
    | error e =>
        refine Or.inl ⟨e, ?_⟩
        show append setup sha entry w = _
        unfold append
        simp only [hload, ne_eq, not_true_eq_false, if_false, hcheck]
  · rcases @append_run setup sha entry w with hraised | ⟨hloaded, -⟩
    · exact Or.inl hraised
    · exact absurd hloaded hload

def stickyFrame : Frame E1World :=
  (Frame.keeps E1World.Quieted).both (Frame.keeps fun w => w.journalFile.sticky = true)

theorem append_sticky (entry : JournalEntry) : Within stickyFrame (append setup sha entry) :=
  append_base entry

theorem setPhase_sticky (phase : EnginePhase) : Within stickyFrame (setPhase phase) :=
  fun _ => ⟨id, id⟩

theorem recordOutcome_sticky (entry : JournalEntry) (message : String) :
    Within stickyFrame (recordOutcome setup sha entry message) :=
  Within.attempt (append_sticky entry) fun _ =>
    Within.ite (Within.bind (setPhase_sticky _) fun _ => Within.raise _) (Within.raise _)

theorem appendHalt_sticky (now : Timestamp) (reason : String) :
    Within stickyFrame (appendHalt setup sha now reason) :=
  appendHalt_bounded (fun entry _ => append_sticky entry) (fun phase _ => setPhase_sticky phase) _ _

theorem recordOutcome_raised {entry : JournalEntry} {message : String} {w : E1World} {e : E1Error}
    (h : (append setup sha entry).run w = (.raised e, w.spendAppend)) :
    ∃ e' t, (recordOutcome setup sha entry message).run w = (.raised e', t) ∧
      t.journalFile = w.journalFile := by
  unfold recordOutcome onPersistenceError
  rw [Process.run_attempt, h]
  dsimp only
  split
  · exact ⟨_, _, rfl, rfl⟩
  · exact ⟨_, _, rfl, rfl⟩

theorem recordOutcome_appended (h : (append setup sha entry).run w = (.returned (), t)) :
    (recordOutcome setup sha entry message).run w = (.returned (), t) := by
  unfold recordOutcome onPersistenceError
  rw [Process.run_attempt, h]

/-- **A rejection is recorded with its halt**, when no append fails. -/
theorem finishRejected_halting (hc : c) (x : Execution) (result : VirtualExecutionResult) :
    Within (haltFrame c) (finishRejected setup sha x result) := by
  intro w
  have hbase : Within stickyFrame (finishRejected setup sha x result) :=
    Within.bind (recordOutcome_sticky _ _) fun _ =>
      Within.bind (appendHalt_sticky _ _) fun _ => Within.gets _
  refine ⟨(hbase w).1, (hbase w).2, fun hquiet hrejected => ?_⟩
  have hquiet : w.Quieted := hquiet hc
  unfold finishRejected at hrejected ⊢
  rcases @append_run_quiet setup sha w hquiet
    (x.entry .virtualExecutionRejected "VIRTUAL_EXECUTION_REJECTED_NO_RETRY" ["NO_RETRY"]
      x.before result.observedStateDigest result.positionCount (some result.outcome)) with
    ⟨e, hrun⟩ | ⟨hrun, hcheck⟩
  · obtain ⟨e', t, houtcome, hfile⟩ := @recordOutcome_raised _ _ _
      "virtual rejection occurred but terminal journal persistence failed" _ _ hrun
    rw [Process.run_bind_raised houtcome] at hrejected
    exact Or.inl (hfile ▸ hrejected)
  · refine Or.inr ?_
    rw [Process.run_bind_returned (recordOutcome_appended hrun)]
    have hsafe := (JournalRecord.check_eq_ok.mp hcheck).run
    exact SticksAt.bind
      (appendHalt_sticks hsafe (namedLabel_safe (by simp [namedLabels, KillReason.value])))
      (fun _ => Within.gets _) (hquiet.appended _) (recorded_of_append hrun).durable

theorem haltRejected_sticks
    (hrun : safeLabel setup.runId.toList = true) (hkind : source.faultKind = .rejected) :
    SticksAt (haltRejected setup sha now (some source)) w := by
  intro hquiet hdurable
  by_cases hrunning : w.killActive = false ∧ w.halted = false
  · unfold haltRejected onlyIf
    rw [Process.run_gets_bind, id_eq, if_pos ⟨by simp [hkind], hrunning⟩]
    exact alertAndHalt_sticks hrun (namedLabel_safe (by simp [namedLabels]))
      (namedLabel_safe (by simp [namedLabels, KillReason.value])) hquiet hdurable
  · have hsticky : w.journalFile.sticky = true := by
      unfold JournalFile.sticky
      rw [hdurable]
      by_contra hnot
      refine hrunning ?_
      simp only [Bool.or_eq_true, not_or, Bool.not_eq_true] at hnot
      exact ⟨hnot.1.1, hnot.1.2⟩
    exact (haltRejected_bounded (F := stickyFrame) (fun entry _ => append_sticky entry)
      (fun phase _ => setPhase_sticky phase) now (some source) w).2 hsticky

variable {isRestart emergency deadman : Bool}

theorem reportFaults_sticks {f : Unit → E1Process α} (hkind : source.faultKind = .rejected)
    (hcheck : ∀ v : E1World, (v.recordOf setup sha
      { eventType := .faultHandled
        timestamp := now
        statusLabel := "FAULT_HANDLED_WITHOUT_RETRY"
        reasonCodes := [FaultKind.restartReconcile.value]
        expectedStateDigest := v.stateDigest sha
        observedStateDigest := some (v.stateDigest sha)
        positionCount := v.positionCount
        action := source.action
        intentId := source.intentId
        intentDigest := source.intentDigest
        tokenId := source.tokenId
        faultKind := .restartReconcile
        stateBeforeDigest := source.stateBeforeDigest
        plannedStateDigest := source.plannedStateDigest
        pnlCategory := source.pnlCategory
        virtualLoss := source.virtualLoss }).check = .ok ())
    (hf : ∀ v : E1World, SticksAt (f ()) v) :
    SticksAt (reportFaults setup sha now isRestart (some source) >>= f) w := by
  have hreported : ¬source.faultKind.reportedHandled = true := by
    rw [hkind]
    nofun
  unfold reportFaults onlyIf
  dsimp only
  rw [if_neg hreported, pure_bind]
  cases isRestart with
  | false =>
      rw [if_neg (by nofun), pure_bind]
      exact hf w
  | true =>
      rw [if_pos rfl]
      unfold recordFaultHandled
      rw [bind_assoc]
      exact SticksAt.gets_bind (SticksAt.append_bind (hcheck w) (hf _))

/-- **A match that resolves a rejected intent is recorded with its halt**, when no append
fails; a match of any other intent rejects nothing. -/
theorem recordReconcileMatched_halting {status : ReconcileStatus} {source : Option JournalRecord}
    (hintent : ∀ s, source = some s → s.intentId.isSome = true)
    (hc : ∀ s, source = some s → s.faultKind = .rejected → c) :
    Within (haltFrame c)
      (recordReconcileMatched setup sha now isRestart status observed source) := by
  by_cases hkind : ∃ s, source = some s ∧ s.faultKind = .rejected
  swap
  · refine recordReconcileMatched_bounded append_halting (fun phase _ => setPhase_halting phase)
      fun _ => append_halting _ ?_
    cases source with
    | none => rfl
    | some s =>
        have hnot : s.faultKind ≠ .rejected := fun h => hkind ⟨s, rfl, h⟩
        simp [JournalEntry.rejects, reconcileEntry, hnot]
  · obtain ⟨s, rfl, hkind⟩ := hkind
    intro w
    have hbase : Within stickyFrame
        (recordReconcileMatched setup sha now isRestart status observed (some s)) :=
      recordReconcileMatched_bounded (fun entry _ => append_sticky entry)
        (fun phase _ => setPhase_sticky phase) fun _ => append_sticky _
    refine ⟨(hbase w).1, (hbase w).2, fun hquiet hrejected => ?_⟩
    have hquiet : w.Quieted := hquiet (hc s rfl hkind)
    unfold recordReconcileMatched at hrejected ⊢
    rw [Process.run_gets_bind, id_eq] at hrejected ⊢
    rcases @append_run_quiet setup sha w hquiet
      (reconcileEntry .reconcileMatched now status.value [] observed observed w.positionCount
        (some s)) with ⟨e, hrun⟩ | ⟨hrun, hcheck⟩
    · rw [Process.run_bind_raised hrun] at hrejected
      exact Or.inl hrejected
    · refine Or.inr ?_
      rw [Process.run_bind_returned hrun]
      have hsafe := (JournalRecord.check_eq_ok.mp hcheck).run
      refine reportFaults_sticks hkind (fun v => check_faultHandled (hintent s rfl) hcheck)
        (fun v => SticksAt.bind (haltRejected_sticks hsafe hkind) fun _ u => ?_)
        (hquiet.appended _) (recorded_of_append hrun).durable
      exact (Within.bind (haltKilled_bounded (F := stickyFrame) (fun entry _ => append_sticky entry)
        (fun phase _ => setPhase_sticky phase) now) (fun _ => Within.bind (Within.gets _)
          fun _ => Within.bind (setPhase_sticky _) fun _ => Within.pure _) u).2

theorem onPersistenceError_halting {x handler : E1Process α}
    (hx : Within (haltFrame c) x) (hhandler : Within (haltFrame c) handler) :
    Within (haltFrame c) (onPersistenceError x handler) :=
  Within.attempt hx fun _ => Within.ite hhandler (Within.raise _)

theorem phaseAndRaise_halting (phase : EnginePhase) (e : E1Error) :
    Within (haltFrame c) (setPhase phase >>= fun _ => Process.raise e : E1Process α) :=
  Within.bind (setPhase_halting phase) fun _ => Within.raise e

theorem appendFakeAlert_halting (now : Timestamp) (reason : String) :
    Within (haltFrame c) (appendFakeAlert setup sha now reason) :=
  appendFakeAlert_bounded append_halting now reason

theorem appendHalt_halting (now : Timestamp) (reason : String) :
    Within (haltFrame c) (appendHalt setup sha now reason) :=
  appendHalt_bounded append_halting (fun phase _ => setPhase_halting phase) now reason

theorem cycleResult_halting (status : String) (reasons : List String) (attempted issued : Bool) :
    Within (haltFrame c) (cycleResult status reasons attempted issued) :=
  Within.gets _

theorem riskBlocked_halting (market : MarketFrame) (reasons : List String) :
    Within (haltFrame c) (riskBlocked setup sha market reasons) :=
  Within.bind (Within.gets _) fun _ =>
    Within.bind (append_halting _ rfl) fun _ => cycleResult_halting _ _ _ _

theorem prepareAndStart_halting (x : Execution) :
    Within (haltFrame c) (prepareAndStart setup sha x) := by
  refine onPersistenceError_halting (Within.bind (Within.gets _) fun _ => Within.bind ?_
    fun _ => append_halting _ rfl) (phaseAndRaise_halting _ _)
  refine Within.bind (halting_of_quiet (validateToken_quiet _)) fun _ =>
    Within.bind (Within.gets _) fun _ => Within.bind (Within.require _ _) fun _ =>
      Within.bind (Within.require _ _) fun _ => Within.bind (append_halting _ rfl) fun _ => ?_
  exact Within.bind (Within.gets _) fun _ => Within.bind (Within.require _ _) fun _ =>
    Within.bind (Within.require _ _) fun _ =>
      Within.modify fun _ => halting_of_same rfl List.suffix_rfl

theorem replaceVenue_halting (token : ShadowGateToken) (position : Option VirtualPosition) :
    Within (haltFrame c) (replaceVenue token position) := by
  intro w
  show (haltFrame c).rel w (replaceVenue token position w).2
  unfold replaceVenue
  cases w.venueIncidents.headD .quiet with
  | quiet => exact halting_of_same rfl List.suffix_rfl
  | raises step =>
      dsimp only
      split <;> exact halting_of_same rfl List.suffix_rfl
  | crashes renamed => cases renamed <;> exact halting_of_same rfl List.suffix_rfl

theorem openPosition_halting (token : ShadowGateToken) (position : VirtualPosition) :
    Within (haltFrame c) (openPosition token position) :=
  Within.bind (Within.gets _) fun _ => Within.bind (Within.gets _) fun _ =>
    Within.bind (Within.require _ _) fun _ => Within.bind (Within.require _ _) fun _ =>
      replaceVenue_halting _ _

theorem settlePositionSpecific_halting (token : ShadowGateToken) (positionRef : LocalId) :
    Within (haltFrame c) (settlePositionSpecific token positionRef) :=
  Within.bind (Within.gets _) fun _ => Within.bind (Within.gets _) fun _ =>
    Within.bind (Within.require _ _) fun _ => Within.bind (Within.require _ _) fun _ =>
      replaceVenue_halting _ _

variable {fault : FaultInjection}

theorem executeUnder_halting {token : ShadowGateToken} {effect partialEffect : E1Process Unit}
    (heffect : Within (haltFrame c) effect) ( hpartial : Within (haltFrame c) partialEffect) :
    Within (haltFrame c)
      (executeUnder setup sha token fault effect partialEffect crash unsupported) := by
  refine Within.bind (halting_of_quiet (beginExecution_quiet token)) fun _ => ?_
  have hresult : ∀ outcome, Within (haltFrame c) (executionResult sha outcome) :=
    fun _ => Within.gets _
  have hbefore : Within (haltFrame c) (onlyIf (fault.applyEffectBeforeFault = true) effect) :=
    onlyIf_bounded heffect
  cases fault.kind with
  | rejected => exact hresult .rejected
  | none => exact Within.bind heffect fun _ => hresult .accepted
  | partialFill => exact Within.bind hpartial fun _ => hresult .partialFill
  | timeout => exact Within.bind hbefore fun _ => hresult .timeout
  | unknownResult => exact Within.bind hbefore fun _ => hresult .unknown
  | networkError => exact Within.bind hbefore fun _ => hresult .networkError
  | crashMidVirtualExecution => exact Within.bind hbefore fun _ => Within.raise _
  | restartReconcile => exact Within.bind hbefore fun _ => Within.raise _

theorem executeUnder_rejected {token : ShadowGateToken} {effect partialEffect : E1Process Unit}
    {result : VirtualExecutionResult}
    (h : (executeUnder setup sha token fault effect partialEffect crash unsupported).run w =
      (.returned result, t)) (hrejected : result.outcome = .rejected) :
    fault.kind = .rejected := by
  obtain ⟨_, v, -, h⟩ := Process.run_bind_eq_returned.mp h
  cases hkind : fault.kind with
  | rejected => rfl
  | crashMidVirtualExecution =>
      rw [hkind] at h
      obtain ⟨_, u, -, h⟩ := Process.run_bind_eq_returned.mp h
      cases h
  | restartReconcile =>
      rw [hkind] at h
      obtain ⟨_, u, -, h⟩ := Process.run_bind_eq_returned.mp h
      cases h
  | none | partialFill | timeout | unknownResult | networkError =>
      rw [hkind] at h
      obtain ⟨_, u, -, h⟩ := Process.run_bind_eq_returned.mp h
      cases h
      cases hrejected

theorem recordOutcome_halting (h : entry.rejects = false)
    (message : String) : Within (haltFrame c) (recordOutcome setup sha entry message) :=
  onPersistenceError_halting (append_halting _ h) (phaseAndRaise_halting _ _)

theorem recordReconcileMismatch_halting (now : Timestamp) (reason : String)
    (expected observed : HexDigest) (source : Option JournalRecord) :
    Within (haltFrame c)
      (recordReconcileMismatch setup sha now reason expected observed source) :=
  recordReconcileMismatch_bounded append_halting (fun phase _ => setPhase_halting phase) _ _ _ _ _

theorem finishExecution_halting {x : Execution} {result : VirtualExecutionResult}
    (hc : result.outcome = .rejected → c) :
    Within (haltFrame c) (finishExecution setup sha x result) := by
  unfold finishExecution
  split
  · refine Within.ite (Within.bind (recordReconcileMismatch_halting _ _ _ _ _)
      fun _ => cycleResult_halting _ _ _ _) ?_
    exact Within.bind (recordOutcome_halting rfl _) fun _ => Within.bind (Within.gets _)
      fun _ => Within.bind (setPhase_halting _) fun _ => cycleResult_halting _ _ _ _
  case h_2 houtcome => exact finishRejected_halting (hc houtcome) x result
  · exact Within.bind (recordOutcome_halting rfl _) fun _ =>
      Within.bind (append_halting _ rfl) fun _ =>
        Within.bind (setPhase_halting _) fun _ => cycleResult_halting _ _ _ _

theorem executeIntent_halting {x : Execution} {executor : E1Process VirtualExecutionResult}
    (hexecutor : Within (haltFrame c) executor)
    (hc : ∀ w result t, executor.run w = (.returned result, t) →
      result.outcome = .rejected → c) :
    Within (haltFrame c) (executeIntent setup sha x executor) := by
  refine Within.bind (prepareAndStart_halting x) fun _ => ?_
  have hunknown : Within (haltFrame c) (recordVenuePersistenceUnknown setup sha x) :=
    onPersistenceError_halting
      (Within.bind (Within.gets _) fun _ => Within.bind (append_halting _ rfl) fun _ =>
        Within.bind (appendFakeAlert_halting _ _) fun _ => setPhase_halting _)
      (setPhase_halting _)
  refine Within.bind_returned (R := fun result => result.outcome = .rejected → c)
    (onPersistenceError_halting hexecutor (Within.bind hunknown fun _ => Within.raise _))
    (fun w result t hrun => ?_) fun result hresult => finishExecution_halting hresult
  exact hc w result t (onPersistenceError_returned (fun s b u h => by
    obtain ⟨_, _, -, h⟩ := Process.run_bind_eq_returned.mp h
    cases h) hrun)

variable {market : MarketFrame} {decision : EngineDecision}

theorem processEntry_halting {stop : Option ℚ} (hc : fault.kind = .rejected → c) :
    Within (haltFrame c) (processEntry setup sha decision market stop fault) := by
  unfold processEntry
  cases stop with
  | none => exact riskBlocked_halting market _
  | some stop =>
      refine Within.bind (Within.gets _) fun _ =>
        Within.bind (halting_of_quiet (mintIntentId_quiet _)) fun _ => ?_
      split
      · exact Within.raise _
      · refine Within.bind (Within.gets _) fun _ => Within.ite (riskBlocked_halting market _) ?_
        refine Within.bind (halting_of_quiet (issue_quiet _ _ _)) fun token =>
          Within.bind (Within.gets _) fun _ => executeIntent_halting
            (executeUnder_halting (openPosition_halting _ _) (openPosition_halting _ _)) ?_
        exact fun w result t hrun hrejected => hc (executeUnder_rejected hrun hrejected)

theorem processSettlement_halting (hc : fault.kind = .rejected → c) :
    Within (haltFrame c) (processSettlement setup sha decision market fault emergency) := by
  refine Within.bind (Within.gets _) fun held => ?_
  split
  · exact riskBlocked_halting market _
  · refine Within.ite (riskBlocked_halting market _) ?_
    split
    · exact Within.raise _
    · refine Within.bind (Within.gets _) fun _ =>
        Within.bind (halting_of_quiet (mintIntentId_quiet _)) fun _ => ?_
      refine Within.bind (Within.gets _) fun _ => Within.ite (riskBlocked_halting market _) ?_
      refine Within.bind (halting_of_quiet (issue_quiet _ _ _)) fun token =>
        Within.bind (Within.gets _) fun _ => executeIntent_halting
          (executeUnder_halting (settlePositionSpecific_halting _ _) (Within.pure ())) ?_
      exact fun w result t hrun hrejected => hc (executeUnder_rejected hrun hrejected)

theorem killEntry_rejects (v : E1World) (deadman : Bool) (now : Timestamp)
    (reason : KillReason) (reasons : List String) :
    (killEntry sha v deadman now reason reasons).rejects = false := by
  cases deadman <;> rfl

theorem killUnreconciled_halting (now : Timestamp) (reason : KillReason) (deadman : Bool) :
    Within (haltFrame c) (killUnreconciled setup sha now reason deadman) :=
  Within.bind (setPhase_halting _) fun _ => Within.bind
    (onPersistenceError_halting
      (Within.bind (Within.gets _) fun _ =>
        Within.bind (append_halting _ (killEntry_rejects _ _ _ _ _)) fun _ =>
          Within.bind (appendFakeAlert_halting _ _) fun _ => appendHalt_halting _ _)
      (Within.raise _))
    fun _ => cycleResult_halting _ _ _ _

theorem killFlatten_halting {reason : KillReason}
    {position : VirtualPosition} (hc : fault.kind = .rejected → c) :
    Within (haltFrame c) (killFlatten setup sha now reason market fault position) := by
  refine Within.bind (Within.attempt
    (Within.bind (processSettlement_halting hc) fun _ => Within.pure _)
    fun _ => Within.ite (Within.pure _) (Within.raise _)) fun attempted => ?_
  cases attempted with
  | none =>
      exact Within.bind (appendFakeAlert_halting _ _) fun _ =>
        Within.bind (appendHalt_halting _ _) fun _ =>
          Within.bind (Within.gets _) fun _ => cycleResult_halting _ _ _ _
  | some result =>
      exact Within.bind (Within.gets _) fun _ =>
        Within.bind (onlyIf_bounded (appendFakeAlert_halting _ _)) fun _ =>
          Within.bind (appendHalt_halting _ _) fun _ =>
            Within.bind (Within.gets _) fun _ => cycleResult_halting _ _ _ _

/-- Behind a durable activation the journal is blocked, whatever else is recorded. -/
theorem killStable_halting {reason : KillReason} {market : Option MarketFrame} :
    Within (haltFrame c) (killStable setup sha now reason market fault deadman) := by
  refine Within.bind (Within.gets _) fun v => ?_
  intro w
  refine WithinAt.bind (onPersistenceError_halting (append_halting _ (killEntry_rejects _ _ _ _ _))
    (phaseAndRaise_halting _ _) w) fun _ t ht => ?_
  have happend := onPersistenceError_returned phaseAndRaise_not_returned ht
  have hsticky : t.journalFile.sticky = true := by
    obtain ⟨-, rfl⟩ := append_returned happend
    refine sticky_of_killed ?_
    show ShadowIntentJournal.killActive (w.journalFile.records ++ [_]) = true
    rw [killActive_append]
    refine Bool.or_eq_true_iff.mpr (Or.inr ?_)
    cases deadman <;> rfl
  -- no condition on the fault is needed from here on
  have hrest : ∀ {α : Type} {x : E1Process α}, Within (haltFrame True) x →
      WithinAt (haltFrame c) x t := fun hx => by
    obtain ⟨hquiet, hkeeps, -⟩ := hx t
    exact ⟨hquiet, hkeeps, fun _ _ => Or.inr (hkeeps hsticky)⟩
  refine WithinAt.gets_bind ?_
  split
  · exact hrest (Within.bind (appendHalt_halting _ _) fun _ => cycleResult_halting _ _ _ _)
  · exact hrest (Within.bind (appendFakeAlert_halting _ _) fun _ =>
      Within.bind (appendHalt_halting _ _) fun _ => cycleResult_halting _ _ _ _)
  · exact hrest (killFlatten_halting fun _ => trivial)

theorem activateKill_halting {reason : KillReason} {market : Option MarketFrame} :
    Within (haltFrame c) (activateKill setup sha now reason market fault deadman) := by
  have hhalted : ∀ status reasons, Within (haltFrame c)
      (setPhase .halted >>= fun _ => cycleResult status reasons false false) :=
    fun _ _ => Within.bind (setPhase_halting _) fun _ => cycleResult_halting _ _ _ _
  exact Within.bind (Within.gets _) fun _ => Within.ite (hhalted _ _) (Within.ite (hhalted _ _)
    (Within.bind unresolvedIntents_within fun _ =>
      Within.ite (killUnreconciled_halting _ _ _) killStable_halting))

theorem assertProcessableState_halting (market : MarketFrame) :
    Within (haltFrame c) (assertProcessableState setup sha market) :=
  Within.bind (Within.gets _) fun _ => Within.ite (phaseAndRaise_halting _ _)
    (Within.bind (Within.require _ _) fun _ => Within.bind unresolvedIntents_within fun _ =>
      Within.ite (phaseAndRaise_halting _ _)
        (Within.ite
          (Within.bind (recordReconcileMismatch_halting _ _ _ _ _) fun _ => Within.raise _)
          (Within.pure ())))

theorem processDecision_halting {stop : Option ℚ} (hc : fault.kind = .rejected → c) :
    Within (haltFrame c) (processDecision setup sha decision market stop fault) := by
  refine Within.bind (assertProcessableState_halting market) fun _ =>
    Within.ite activateKill_halting (Within.ite activateKill_halting ?_)
  split
  · exact Within.bind (Within.gets _) fun _ =>
      Within.bind (append_halting _ rfl) fun _ => cycleResult_halting _ _ _ _
  · exact processEntry_halting hc
  · exact processEntry_halting hc
  · exact processSettlement_halting hc
  · exact processSettlement_halting hc

/-- The call may record a rejection: one is injected into its decision, or the intent that
it reconciles was prepared with one. -/
def E1Op.MayReject (records : List JournalRecord) : E1Op → Prop
  | .processDecision _ _ _ fault => fault.kind = .rejected
  | .bootReconcile _ | .reconcileAfterUncertain _ =>
      (unresolvedSource? records).any (fun s => decide (s.faultKind = .rejected)) = true
  | _ => False

theorem reconcile_haltingAt
    (hc : (unresolvedSource? w.records).any (fun s => decide (s.faultKind = .rejected)) = true →
      c) : WithinAt (haltFrame c) (reconcile setup sha now isRestart) w := by
  refine reconcile_boundedAt append_halting (fun phase _ => setPhase_halting phase)
    fun status source hpending => recordReconcileMatched_halting ?_ ?_ w
  · rintro s rfl
    have hmem : s ∈ pendingOf w.records := by
      rw [(unresolvedIntents_eq_ok.mp hpending).2]
      exact List.mem_singleton_self s
    exact (mem_prepared_iff.mp (mem_pendingOf_iff.mp hmem).1).2.2
  · rintro s rfl hkind
    refine hc ?_
    unfold unresolvedSource?
    rw [hpending]
    simp [hkind]

/-- **Every call ends with no new rejection, or blocked**, if its rejection cannot happen
or its appends go through. -/
theorem exec_halting (op : E1Op) (w : E1World) :
    WithinAt (haltFrame (op.MayReject w.records)) (op.exec setup sha) w := by
  cases op with
  | bootReconcile now =>
      refine WithinAt.map (WithinAt.gets_bind (WithinAt.require_bind fun _ =>
        WithinAt.ite (fun _ => reconcile_haltingAt id) fun _ => ?_))
      exact Within.bind (append_halting _ rfl) (fun _ => Within.ite
        (Within.bind (recordReconcileMismatch_halting _ _ _ _ _) fun _ => Within.pure _)
        (Within.bind (setPhase_halting _) fun _ => Within.pure _)) w
  | reconcileAfterUncertain now =>
      exact WithinAt.map (WithinAt.gets_bind (WithinAt.require_bind fun _ =>
        reconcile_haltingAt id))
  | acknowledgeRestart now acknowledged =>
      exact WithinAt.map (Within.bind (Within.gets _) (fun _ =>
        Within.bind (Within.require _ _) fun _ => Within.ite (cycleResult_halting _ _ _ _)
          (Within.bind (append_halting _ rfl) fun _ =>
            Within.bind (setPhase_halting _) fun _ => cycleResult_halting _ _ _ _)) w)
  | recordHeartbeat now =>
      exact WithinAt.map (Within.bind (Within.gets _) (fun _ =>
        Within.bind (Within.require _ _) fun _ => Within.bind (append_halting _ rfl) fun _ =>
          cycleResult_halting _ _ _ _) w)
  | recordIncident now incidentRef severity reasonCode =>
      exact WithinAt.map (Within.bind (Within.gets _) (fun _ =>
        Within.bind (append_halting _ rfl) fun _ => Within.bind (Within.require _ _) fun _ =>
          cycleResult_halting _ _ _ _) w)
  | recordPostmortem now incidentRef =>
      exact WithinAt.map (Within.bind (Within.gets _) (fun _ =>
        Within.bind (append_halting _ rfl) fun _ => cycleResult_halting _ _ _ _) w)
  | processDecision decision market stop fault =>
      exact WithinAt.map (processDecision_halting id w)
  | activateKill now reason market fault deadman => exact WithinAt.map (activateKill_halting w)
  | checkDeadman now market fault =>
      exact WithinAt.map (Within.bind (Within.gets _) (fun _ =>
        Within.ite (cycleResult_halting _ _ _ _) activateKill_halting) w)

/-- A call that may record a rejection loses no append. -/
def RejectionsComplete (r : E1Run) : E1Input → Prop
  | .call call => r.live = true → call.op.MayReject r.world.records →
      ∀ i ∈ call.appendIncidents, i = .quiet
  | .restart => True

theorem rejectionHalted_kept (r : E1Run) (input : E1Input)
    (h : r.world.journalFile.rejected = true → r.world.journalFile.sticky = true)
    (hinput : RejectionsComplete r input)
    (hrejected : (e1Step setup sha r input).world.journalFile.rejected = true) :
    (e1Step setup sha r input).world.journalFile.sticky = true := by
  cases input with
  | restart =>
      have hfile : (e1Step setup sha r .restart).world.journalFile = r.world.journalFile := by
        rw [e1Step]
        split <;> rfl
      rw [hfile] at hrejected ⊢
      exact h hrejected
  | call call =>
      by_cases hlive : r.live = true
      swap
      · rw [e1Step, if_neg hlive] at hrejected ⊢
        exact h hrejected
      rw [e1Step, if_pos hlive] at hrejected ⊢
      obtain ⟨-, hkeeps, hnew⟩ :=
        @exec_halting setup sha call.op (r.world.given call)
      rcases hnew (fun hmay => hinput hlive hmay) hrejected with hold | hsticky
      · exact hkeeps (h hold)
      · exact hsticky

/-- **A rejection halts for good while every rejection of the journal has its halt**: then
no intent is prepared behind one.  Every run whose rejecting calls lose no append is such
a run. -/
theorem rejection_halts_for_good (setup : E1Setup) (sha : Sha256)
    (venueFile : Option VirtualPosition) (inputs : List E1Input) :
    (MeetsAlong (e1Step setup sha) RejectionHalted (newRun venueFile) inputs →
        NonePreparedBehind
          (after (e1Step setup sha) (newRun venueFile) inputs).world.journalFile.records) ∧
      (MeetsAlong (e1Step setup sha) RejectionsComplete (newRun venueFile) inputs →
        MeetsAlong (e1Step setup sha) RejectionHalted (newRun venueFile) inputs) := by
  refine ⟨nonePrepared_after setup sha venueFile, fun h => ?_⟩
  refine meetsAlong_of_invariant
    (I := fun r => r.world.journalFile.rejected = true → r.world.journalFile.sticky = true)
    rejectionHalted_kept (fun r input hr _ => ?_)
    (fun hnew => absurd (show false = true from hnew) nofun) h
  cases input with
  | call call => exact fun _ => hr
  | restart => trivial

end Halting

namespace Sample

/-- A rejected entry whose process dies behind the record of the rejection, and the next
engine on the same files. -/
def crashBehindRejection : List E1Input :=
  started ++ [.call
      { op := buy 10 { kind := .rejected }
        appendIncidents := [.quiet, .quiet, .crashes .line] },
    .restart, call (.bootReconcile 20), call (.acknowledgeRestart 20 true),
    call (.recordHeartbeat 20), call (buy 100 {})]

end Sample

/-- The next engine prepares an intent behind the rejection. -/
theorem prepared_behind_rejection :
    ¬NonePreparedBehind (after (e1Step Sample.setup .checksum) (newRun none)
      Sample.crashBehindRejection).world.journalFile.records := by
  intro h
  have hrun : let l := (after (e1Step Sample.setup .checksum) (newRun none)
        Sample.crashBehindRejection).world.journalFile.records
      (l[8]?.any fun q => decide (q.eventType = .intentPrepared)) = true ∧
        ((l.take 8).any fun r => r.rejects) = true := by
    decide +kernel
  obtain ⟨hprepared, hrejected⟩ := hrun
  obtain ⟨q, hq, htype⟩ := (Option.any_eq_true _ _).mp hprepared
  obtain ⟨r, hr, hrejects⟩ := List.any_eq_true.mp hrejected
  have hnot := Grown.getElem? h hq (of_decide_eq_true htype) r hr
  rw [hnot] at hrejects
  cases hrejects

end FxStrategyLab.E1
