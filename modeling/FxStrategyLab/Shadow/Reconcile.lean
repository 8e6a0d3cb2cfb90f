import FxStrategyLab.Shadow.Effects

/-!
# What an E1 reconciliation says about the stored position

A reconciliation compares the engine's copy of the position.  Its answer is true
of the stored position exactly when copy and store have one digest.  The two
come apart only behind a venue write whose directory fsync fails: the rename is
done then, and the copy is not updated.  While no write fails behind the rename,
every answer of every run is true.
-/

namespace FxStrategyLab.E1

open Library

section Reconcile

variable {setup : E1Setup} {sha : Sha256} {start : List JournalRecord}

/-- The record rejects an intent, or resolves one whose injected fault is the rejection. -/
def JournalEntry.rejects (entry : JournalEntry) : Bool :=
  decide (entry.eventType = .virtualExecutionRejected) ||
    (decide (entry.eventType = .reconcileMatched) && decide (entry.faultKind = .rejected))

section Bounds

variable {F : Frame E1World}

theorem unresolvedIntents_within : Within F unresolvedIntents := by
  intro w
  show F.rel w (unresolvedIntents w).2
  unfold unresolvedIntents
  split <;> exact F.refl w

theorem onlyIf_bounded {c : Prop} [Decidable c] {x : E1Process Unit} (h : Within F x) :
    Within F (onlyIf c x) :=
  Within.ite h (Within.pure ())

variable (happend : ∀ entry : JournalEntry, entry.rejects = false →
    Within F (append setup sha entry))
  (hphase : ∀ phase, phase.unreconciled = true → Within F (setPhase phase))

include happend

variable (now : Timestamp)

theorem appendFakeAlert_bounded (reason : String) :
    Within F (appendFakeAlert setup sha now reason) :=
  Within.bind (Within.gets _) fun _ => happend _ rfl

theorem reportFaults_bounded (isRestart : Bool)
    (source : Option JournalRecord) : Within F (reportFaults setup sha now isRestart source) := by
  cases source with
  | none => exact Within.pure ()
  | some source =>
      have hfault : ∀ kind, Within F (recordFaultHandled setup sha now kind source) :=
        fun _ => Within.bind (Within.gets _) fun _ => happend _ rfl
      exact Within.bind (onlyIf_bounded (hfault _)) fun _ => onlyIf_bounded (hfault _)

include hphase

theorem appendHalt_bounded (reason : String) : Within F (appendHalt setup sha now reason) :=
  Within.bind (Within.gets _) fun _ => Within.bind (happend _ rfl) fun _ => hphase .halted rfl

theorem recordReconcileMismatch_bounded (reason : String)
    (expected observed : HexDigest) (source : Option JournalRecord) :
    Within F (recordReconcileMismatch setup sha now reason expected observed source) :=
  Within.bind (Within.gets _) fun _ => Within.bind (happend _ rfl) fun _ =>
    Within.bind (appendFakeAlert_bounded happend _ _) fun _ => appendHalt_bounded happend hphase _ _

theorem haltRejected_bounded (source : Option JournalRecord) :
    Within F (haltRejected setup sha now source) :=
  Within.bind (Within.gets _) fun _ => onlyIf_bounded
    (Within.bind (appendFakeAlert_bounded happend _ _) fun _ =>
      appendHalt_bounded happend hphase _ _)

theorem haltKilled_bounded : Within F (haltKilled setup sha now) := by
  refine Within.bind (Within.gets _) fun w => ?_
  split
  · exact Within.bind (onlyIf_bounded (appendFakeAlert_bounded happend _ _))
      fun _ => appendHalt_bounded happend hphase _ _
  · exact Within.pure ()

theorem recordReconcileMatched_bounded {now : Timestamp} {isRestart : Bool}
    {status : ReconcileStatus} {observed : HexDigest} {source : Option JournalRecord}
    (hmatched : ∀ count, Within F (append setup sha
      (reconcileEntry .reconcileMatched now status.value [] observed observed count source))) :
    Within F (recordReconcileMatched setup sha now isRestart status observed source) := by
  refine Within.bind (Within.gets _) fun _ => Within.bind (hmatched _) fun _ => ?_
  refine Within.bind (reportFaults_bounded happend _ _ _) fun _ =>
    Within.bind (haltRejected_bounded happend hphase _ _) fun _ =>
      Within.bind (haltKilled_bounded happend hphase _) fun _ => ?_
  refine Within.bind (Within.gets _) fun _ => Within.bind (hphase _ ?_) fun _ => Within.pure _
  split <;> rfl

/-- **A reconciliation stays within every bound** that appends and the record of a match
stay within and that lets an engine enter a phase without a stable state. -/
theorem reconcile_boundedAt {now : Timestamp} {isRestart : Bool} {w : E1World}
    (hmatched : ∀ status source,
      ShadowIntentJournal.unresolvedIntents w.records = .ok source.toList →
        WithinAt F
          (recordReconcileMatched setup sha now isRestart status (w.stateDigest sha) source) w) :
    WithinAt F (reconcile setup sha now isRestart) w := by
  refine WithinAt.gets_bind (WithinAt.bind (unresolvedIntents_within w) fun pending t ht => ?_)
  obtain ⟨rfl, hpending⟩ := unresolvedIntents_returned ht
  have hmismatch : ∀ reason expected observed source, Within F
      (recordReconcileMismatch setup sha now reason expected observed source >>= fun _ =>
        (pure .mismatchHalted : E1Process ReconcileStatus)) :=
    fun _ _ _ _ => Within.bind
      (recordReconcileMismatch_bounded happend hphase _ _ _ _ _) fun _ => Within.pure _
  split
  · exact WithinAt.ite (fun _ => hmismatch _ _ _ _ t) fun _ => hmatched _ none hpending
  case h_2 source =>
    exact WithinAt.ite (fun _ => hmatched _ (some source) hpending) fun _ =>
      WithinAt.ite (fun _ => hmatched _ (some source) hpending) fun _ => hmismatch _ _ _ _ t
  · exact hmismatch _ _ _ _ t

end Bounds

theorem reconcile_bounded {F : Frame E1World}
    (happend : ∀ entry, Within F (append setup sha entry))
    (hphase : ∀ phase, phase.unreconciled = true → Within F (setPhase phase))
    (now : Timestamp) (isRestart : Bool) : Within F (reconcile setup sha now isRestart) :=
  fun w => reconcile_boundedAt (fun entry _ => happend entry) hphase fun _ _ _ =>
    recordReconcileMatched_bounded (fun entry _ => happend entry) hphase
      (fun _ => happend _) w

/-- The copy in memory is the stored position, and no write of the current call is going
to fail behind its rename. -/
structure E1World.Synced (w : E1World) : Prop where
  position : w.position = w.venueFile
  incidents : .raises .directoryFsync ∉ w.venueIncidents

def E1Input.FailsBeforeRename : E1Input → Prop
  | .call c => .raises .directoryFsync ∉ c.venueIncidents
  | .restart => True

instance (input : E1Input) : Decidable input.FailsBeforeRename :=
  match input with
  | .call c => inferInstanceAs (Decidable (_ ∉ c.venueIncidents))
  | .restart => isTrue trivial

namespace E1World.Synced

variable {w w' : E1World}

theorem step (hstep : E1Step setup sha start w w') (h : w.Synced) : w'.Synced := by
  cases hstep with
  | quiet hsame =>
      refine ⟨?_, fun hmem => h.incidents (hsame.venueIncidents.subset hmem)⟩
      rw [hsame.position, hsame.venueFile]
      exact h.position
  | enter phase _ hresult =>
      subst hresult
      exact ⟨h.position, h.incidents⟩
  | append r _ _ _ hresult =>
      rcases hresult with rfl | ⟨written, rfl⟩ <;> exact ⟨h.position, h.incidents⟩
  | change x position _ hresult =>
      rcases hresult with rfl | ⟨hlate, rfl⟩
      · exact ⟨rfl, fun hmem => h.incidents (List.mem_of_mem_tail hmem)⟩
      · exact absurd (List.mem_of_head? hlate) h.incidents

theorem reloaded (w : E1World) : w.reloaded.Synced :=
  ⟨rfl, nofun⟩

end E1World.Synced

theorem synced_new (venueFile : Option VirtualPosition) : (newRun venueFile).world.Synced :=
  ⟨rfl, nofun⟩

/-- An input whose venue writes do not fail behind the rename keeps the copy current. -/
theorem synced_kept (r : E1Run) (input : E1Input)
    (h : r.world.Sound setup sha ∧ r.world.Synced) (hinput : input.FailsBeforeRename) :
    (e1Step setup sha r input).world.Sound setup sha ∧
      (e1Step setup sha r input).world.Synced :=
  e1_kept (I := fun w => w.Sound setup sha ∧ w.Synced) (C := fun _ i => i.FailsBeforeRename)
    (fun w h => h.1.changesBehind)
    (fun start w w' hstep h => ⟨h.1.step hstep, h.2.step hstep⟩)
    (fun r call h hcall => ⟨h.1.of_same rfl rfl rfl List.prefix_rfl, h.2.position, hcall⟩)
    (fun w _ h => ⟨h.1.reloaded, .reloaded w⟩) r input h hinput

def unresolvedSource? (records : List JournalRecord) : Option JournalRecord :=
  match ShadowIntentJournal.unresolvedIntents records with
  | .ok [source] => some source
  | _ => none

def ReconcileStatus.speaks : ReconcileStatus → Bool
  | matchedStableState | recoveredNoEffect | recoveredPlannedEffect => true
  | initialFlatConfirmed | mismatchHalted => false

/-- What an answer says about a position: it has the digest before the intent that was
unresolved, the digest that this intent planned, or the digest that the journal expected
and expects now. -/
def Truthful (sha : Sha256) (before later : List JournalRecord)
    (position : Option VirtualPosition) : ReconcileStatus → Prop
  | .recoveredNoEffect =>
      (unresolvedSource? before).bind (fun s => s.stateBeforeDigest) =
        some (positionDigest sha position)
  | .recoveredPlannedEffect =>
      (unresolvedSource? before).bind (fun s => s.plannedStateDigest) =
        some (positionDigest sha position)
  | .matchedStableState =>
      ShadowIntentJournal.expectedStateDigest sha before = positionDigest sha position ∧
        ShadowIntentJournal.expectedStateDigest sha later = positionDigest sha position
  | .initialFlatConfirmed | .mismatchHalted => True

instance (sha : Sha256) (before later : List JournalRecord)
    (position : Option VirtualPosition) (status : ReconcileStatus) :
    Decidable (Truthful sha before later position status) := by
  unfold Truthful
  cases status <;> infer_instance

variable {w t : E1World}

/-- The expected digest is that of the memory on a journal whose file is the memory. -/
theorem expected_of_append {entry : JournalEntry} {a : Unit}
    (h : (append setup sha entry).run w = (.returned a, t)) :
    t.expectedDigest sha = entry.expectedStateDigest := by
  obtain ⟨-, rfl⟩ := append_returned h
  unfold E1World.expectedDigest ShadowIntentJournal.expectedStateDigest
  simp [E1World.appended, E1World.recordOf]

def expectedFrame (sha : Sha256) : Frame E1World :=
  Frame.fixes fun w => w.expectedDigest sha

variable (now : Timestamp)

theorem appendFakeAlert_expected (reason : String) :
    OnReturn (expectedFrame sha) (appendFakeAlert setup sha now reason) := by
  intro w a t h
  unfold appendFakeAlert at h
  rw [Process.run_gets_bind] at h
  exact expected_of_append h

theorem appendHalt_expected (reason : String) :
    OnReturn (expectedFrame sha) (appendHalt setup sha now reason) := by
  intro w a t h
  unfold appendHalt at h
  rw [Process.run_gets_bind] at h
  obtain ⟨_, u, hu, h⟩ := Process.run_bind_eq_returned.mp h
  cases h
  exact expected_of_append hu

theorem haltKilled_expected : OnReturn (expectedFrame sha) (haltKilled setup sha now) := by
  refine OnReturn.bind (OnReturn.of_within (Within.gets _)) fun w => ?_
  split
  · exact OnReturn.bind (OnReturn.ite (appendFakeAlert_expected _ _)
      (OnReturn.of_within (Within.pure ()))) fun _ => appendHalt_expected _ _
  · exact OnReturn.of_within (Within.pure ())

variable {status answer : ReconcileStatus}

theorem recordReconcileMatched_returned {now : Timestamp} {isRestart : Bool}
    {observed : HexDigest} {source : Option JournalRecord}
    (h : (recordReconcileMatched setup sha now isRestart status observed source).run w =
      (.returned answer, t)) :
    answer = status ∧ w.journalFile.records = w.records ∧
      (source = none → t.Durable ∧ t.expectedDigest sha = observed) := by
  unfold recordReconcileMatched at h
  rw [Process.run_gets_bind] at h
  obtain ⟨_, t₁, h₁, h⟩ := Process.run_bind_eq_returned.mp h
  obtain ⟨_, t₂, h₂, h⟩ := Process.run_bind_eq_returned.mp h
  obtain ⟨_, t₃, h₃, h⟩ := Process.run_bind_eq_returned.mp h
  obtain ⟨_, t₄, h₄, h⟩ := Process.run_bind_eq_returned.mp h
  rw [Process.run_gets_bind] at h
  obtain ⟨_, t₅, h₅, h⟩ := Process.run_bind_eq_returned.mp h
  cases h₅
  cases h
  refine ⟨rfl, (load_ok (append_returned h₁).1).2, ?_⟩
  rintro rfl
  -- without an intent there is no fault to report and no rejection to halt on
  cases h₂
  cases h₃
  have hdurable : t₄.Durable :=
    haltKilled_durable _ _ _ _ h₄ (recorded_of_append h₁).durable
  have hexpected : t₄.expectedDigest sha = t₁.expectedDigest sha :=
    haltKilled_expected _ _ _ _ h₄
  exact ⟨hdurable, hexpected.trans (expected_of_append h₁)⟩

/-- **The answer of a reconciliation is true of the engine's copy of the position.** -/
theorem reconcile_returned {now : Timestamp} {isRestart : Bool}
    (h : (reconcile setup sha now isRestart).run w = (.returned status, t)) :
    Truthful sha w.journalFile.records t.journalFile.records w.position status := by
  unfold reconcile at h
  rw [Process.run_gets_bind] at h
  obtain ⟨pending, v, hv, h⟩ := Process.run_bind_eq_returned.mp h
  obtain ⟨rfl, hpending⟩ := unresolvedIntents_returned hv
  dsimp only [id_eq] at h
  split at h
  · split at h
    · obtain ⟨_, u, -, h⟩ := Process.run_bind_eq_returned.mp h
      cases h
      trivial
    case isFalse hdigest =>
      obtain ⟨rfl, hfile, hstable⟩ := recordReconcileMatched_returned h
      obtain ⟨hdurable, hexpected⟩ := hstable rfl
      constructor
      · rw [hfile]
        exact (not_not.mp hdigest).symm
      · rw [hdurable]
        exact hexpected
  case h_2 source =>
    have hsource : unresolvedSource? v.records = some source := by
      unfold unresolvedSource?
      rw [hpending]
    split at h
    case isTrue hbefore =>
      obtain ⟨rfl, hfile, -⟩ := recordReconcileMatched_returned h
      unfold Truthful
      rw [hfile, hsource]
      exact hbefore.symm
    · split at h
      case isTrue hplanned =>
        obtain ⟨rfl, hfile, -⟩ := recordReconcileMatched_returned h
        unfold Truthful
        rw [hfile, hsource]
        exact hplanned.symm
      · obtain ⟨_, u, -, h⟩ := Process.run_bind_eq_returned.mp h
        cases h
        trivial
  · obtain ⟨_, u, -, h⟩ := Process.run_bind_eq_returned.mp h
    cases h
    trivial

theorem Truthful.congr {before later : List JournalRecord}
    {position position' : Option VirtualPosition}
    (hdigest : positionDigest sha position = positionDigest sha position') :
    Truthful sha before later position status ↔ Truthful sha before later position' status := by
  cases status <;> simp only [Truthful, hdigest]

theorem Truthful.digest_eq {before later : List JournalRecord}
    {position position' : Option VirtualPosition} (h : Truthful sha before later position status)
    (h' : Truthful sha before later position' status) (hspeaks : status.speaks = true) :
    positionDigest sha position = positionDigest sha position' := by
  cases status with
  | initialFlatConfirmed => cases hspeaks
  | mismatchHalted => cases hspeaks
  | matchedStableState => exact h.1.symm.trans h'.1
  | recoveredNoEffect => exact Option.some.inj (Eq.trans (Eq.symm h) h')
  | recoveredPlannedEffect => exact Option.some.inj (Eq.trans (Eq.symm h) h')

def E1Op.reconciles : E1Op → Bool
  | .bootReconcile _ | .reconcileAfterUncertain _ => true
  | _ => false

theorem append_venueFile (entry : JournalEntry) :
    Within (Frame.fixes E1World.venueFile) (append setup sha entry) := by
  intro w
  show ((append setup sha entry).run w).2.venueFile = w.venueFile
  rcases @append_run setup sha entry w with
    ⟨e, hrun⟩ | ⟨-, hrun | ⟨o, written, -, hrun⟩⟩
  · rw [hrun]
    rfl
  · rw [hrun]
    rfl
  · rw [hrun]
    rfl

theorem reconcile_venueFile (isRestart : Bool) :
    Within (Frame.fixes E1World.venueFile) (reconcile setup sha now isRestart) :=
  reconcile_bounded append_venueFile (fun _ _ => Within.modify fun _ => rfl) now isRestart

/-- A call that reconciles answers truly about the copy and leaves the store alone. -/
theorem exec_reconciled {op : E1Op} (hop : op.reconciles = true)
    (h : (op.exec setup sha).run w = (.returned (.reconciled status), t)) :
    Truthful sha w.journalFile.records t.journalFile.records w.position status ∧
      (status.speaks = true → t.venueFile = w.venueFile) := by
  cases op with
  | bootReconcile now =>
      obtain ⟨_, h, heq⟩ := Process.run_map_eq_returned.mp h
      cases heq
      unfold bootReconcile at h
      rw [Process.run_gets_bind] at h
      obtain ⟨-, h⟩ := Process.run_require_bind_eq_returned.mp h
      split at h
      · exact ⟨reconcile_returned h, fun _ => (reconcile_venueFile now true).rel h⟩
      · obtain ⟨_, u, -, h⟩ := Process.run_bind_eq_returned.mp h
        split at h
        · obtain ⟨_, v, -, h⟩ := Process.run_bind_eq_returned.mp h
          cases h
          exact ⟨trivial, nofun⟩
        · obtain ⟨_, v, -, h⟩ := Process.run_bind_eq_returned.mp h
          cases h
          exact ⟨trivial, nofun⟩
  | reconcileAfterUncertain now =>
      obtain ⟨_, h, heq⟩ := Process.run_map_eq_returned.mp h
      cases heq
      unfold reconcileAfterUncertain at h
      rw [Process.run_gets_bind] at h
      obtain ⟨-, h⟩ := Process.run_require_bind_eq_returned.mp h
      exact ⟨reconcile_returned h, fun _ => (reconcile_venueFile now false).rel h⟩
  | acknowledgeRestart now acknowledged => cases hop
  | recordHeartbeat now => cases hop
  | recordIncident now incidentRef severity reasonCode => cases hop
  | recordPostmortem now incidentRef => cases hop
  | processDecision decision market stop fault => cases hop
  | activateKill now reason market fault deadman => cases hop
  | checkDeadman now market fault => cases hop

/-- The answer of a reconciliation is true of the stored position at that moment. -/
def TellsTruth (setup : E1Setup) (sha : Sha256) (r : E1Run) : E1Input → Prop
  | .call c => r.live = true → c.op.reconciles = true →
      ∀ status, (r.execute setup sha c).1 = .returned (.reconciled status) →
        Truthful sha r.world.journalFile.records (r.execute setup sha c).2.journalFile.records
          (r.execute setup sha c).2.venueFile status
  | .restart => True

/-- An engine that is to reconcile has a copy with the digest of the stored position. -/
def CopyCurrent (sha : Sha256) (r : E1Run) : E1Input → Prop
  | .call c => r.live = true → c.op.reconciles = true →
      positionDigest sha r.world.position = positionDigest sha r.world.venueFile
  | .restart => True

/-- **An answer is true of the store exactly when the copy has its digest.** -/
theorem truthful_iff_copyCurrent {r : E1Run} {c : E1Call}
    (hop : c.op.reconciles = true) (hspeaks : status.speaks = true)
    (h : (r.execute setup sha c).1 = .returned (.reconciled status)) :
    Truthful sha r.world.journalFile.records (r.execute setup sha c).2.journalFile.records
        (r.execute setup sha c).2.venueFile status ↔
      positionDigest sha r.world.position = positionDigest sha r.world.venueFile := by
  have hrun : (c.op.exec setup sha).run (r.world.given c) =
      (.returned (.reconciled status), (r.execute setup sha c).2) := Prod.ext h rfl
  obtain ⟨htruth, hvenue⟩ := exec_reconciled hop hrun
  have hvenue : (r.execute setup sha c).2.venueFile = r.world.venueFile := hvenue hspeaks
  rw [hvenue]
  constructor
  · intro hstore
    exact htruth.digest_eq hstore hspeaks
  · intro hdigest
    exact (Truthful.congr hdigest).mp htruth

theorem tellsTruth_of_copyCurrent (r : E1Run) (input : E1Input)
    (h : CopyCurrent sha r input) : TellsTruth setup sha r input := by
  cases input with
  | restart => trivial
  | call c =>
      intro hlive hop status hreturned
      by_cases hspeaks : status.speaks = true
      · exact (truthful_iff_copyCurrent hop hspeaks hreturned).mpr (h hlive hop)
      · cases status with
        | initialFlatConfirmed => trivial
        | mismatchHalted => trivial
        | matchedStableState => exact absurd rfl hspeaks
        | recoveredNoEffect => exact absurd rfl hspeaks
        | recoveredPlannedEffect => exact absurd rfl hspeaks

/-- **Reconciliation tells the truth while its copy is current**: in every run whose
reconciliations meet a copy with the digest of the store, and so in every run whose venue
writes succeed or fail before the rename; and a single answer is true in no other case. -/
theorem reconciliation_tells_truth (setup : E1Setup) (sha : Sha256)
    (venueFile : Option VirtualPosition) (inputs : List E1Input) :
    (MeetsAlong (e1Step setup sha) (CopyCurrent sha) (newRun venueFile) inputs →
        MeetsAlong (e1Step setup sha) (TellsTruth setup sha) (newRun venueFile) inputs) ∧
      ((∀ i ∈ inputs, i.FailsBeforeRename) →
        MeetsAlong (e1Step setup sha) (TellsTruth setup sha) (newRun venueFile) inputs) ∧
        ∀ (c : E1Call) (status : ReconcileStatus),
          let r := after (e1Step setup sha) (newRun venueFile) inputs
          c.op.reconciles = true → status.speaks = true →
            (r.execute setup sha c).1 = .returned (.reconciled status) →
              (Truthful sha r.world.journalFile.records
                  (r.execute setup sha c).2.journalFile.records
                  (r.execute setup sha c).2.venueFile status ↔
                positionDigest sha r.world.position = positionDigest sha r.world.venueFile) := by
  refine ⟨fun h => ?_, fun h => ?_, fun c status hop hspeaks => ?_⟩
  · exact meetsAlong_of_invariant (I := fun _ => True) (fun _ _ _ _ => trivial)
      (fun r input _ => tellsTruth_of_copyCurrent r input) trivial h
  · refine meetsAlong_of_invariant (C := fun _ i => i.FailsBeforeRename)
      (I := fun r => r.world.Sound setup sha ∧ r.world.Synced) synced_kept
      (fun r input hr _ => tellsTruth_of_copyCurrent r input ?_)
      ⟨sound_new venueFile, synced_new venueFile⟩ (meetsAlong_of_mem h)
    cases input with
    | restart => trivial
    | call c => exact fun _ _ => congrArg (positionDigest sha) hr.2.position
  · intro hreturned
    exact truthful_iff_copyCurrent hop hspeaks hreturned

end Reconcile

namespace Sample

/-- An entry whose venue write fails at the directory fsync, and the reconciliation of the
same engine. -/
def lateFailure : List E1Input :=
  started ++ [.call { op := buy 10 {}, venueIncidents := [.raises .directoryFsync] },
    call (.reconcileAfterUncertain 20)]

end Sample

/-- The answer is that there was no effect, and the position is stored. -/
theorem late_failure_told_as_no_effect :
    ¬MeetsAlong (e1Step Sample.setup .checksum) (TellsTruth Sample.setup .checksum)
      (newRun none) Sample.lateFailure := by
  intro h
  have hlast := h.2.2.2.2.1 (by decide +kernel) rfl .recoveredNoEffect (by decide +kernel)
  exact absurd hlast (by decide +kernel)

end FxStrategyLab.E1
