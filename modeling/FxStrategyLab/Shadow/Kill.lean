import FxStrategyLab.Shadow.Reconcile

/-!
# The kill switch of the E1 shadow engine is sticky

Behind the activation of the kill switch in the journal no entry changes the
venue and at most one settlement is started.  Both are read off the records that
are admitted.  The phases need one more invariant: where a boot or an
acknowledgement may still lead to a stable phase, the journal file holds no
activation.
-/

namespace FxStrategyLab.E1

open Library

section Kill

variable {setup : E1Setup} {sha : Sha256} {start : List JournalRecord}

def JournalRecord.startsSettlement (r : JournalRecord) : Bool :=
  decide (r.eventType = .virtualExecutionStarted ∧ r.action = some .virtualSettlement)

theorem started_behind_kill {minted : List CanonicalText}
    {early between later : List JournalRecord} {k s : JournalRecord}
    (hgrown : Grown (Behind setup sha minted) (early ++ k :: (between ++ s :: later)))
    (hk : k.eventType.killing = true) (hs : s.eventType = .virtualExecutionStarted) :
    between.length = 1 := by
  obtain ⟨start, hadmitted⟩ := hgrown (early ++ k :: between) s later (by simp)
  obtain ⟨x, p, hlast, hp, -⟩ := hadmitted.started hs
  rcases List.eq_nil_or_concat between with rfl | ⟨rest, q, rfl⟩
  · -- the activation itself is no preparation
    have hkp : k = p := by simpa using hlast
    rw [hkp, hp.eventType] at hk
    cases hk
  · have hqp : q = p := by
      have hconcat : early ++ k :: rest.concat q = (early ++ k :: rest) ++ [q] := by simp
      rw [hconcat, List.getLast?_concat] at hlast
      exact Option.some.inj hlast
    rw [List.concat_eq_append] at hgrown ⊢
    rw [hqp] at hgrown ⊢
    obtain ⟨start', hprepared⟩ := hgrown (early ++ k :: rest) p (s :: later) (by simp)
    obtain ⟨y, text, -, hprepares⟩ := hprepared.prepared hp.eventType
    have hnot : k ∉ start' := by
      intro hmem
      have hkill : ShadowIntentJournal.killActive start' = true :=
        List.any_eq_true.mpr ⟨k, hmem, hk⟩
      rw [hprepares.alive] at hkill
      cases hkill
    rcases hprepares.opening with hopening | ⟨k', hopening, -, -⟩
    · exact absurd (hopening ▸ by simp) hnot
    · -- only the last record before the preparation is behind the start of its call
      rcases List.eq_nil_or_concat rest with rfl | ⟨more, c, rfl⟩
      · rfl
      · have hsplit : (early ++ k :: more) ++ [c] = start' ++ [k'] := by
          rw [← hopening]
          simp
        obtain ⟨hstart, -⟩ := List.append_inj' hsplit rfl
        exact absurd (hstart ▸ by simp) hnot

/-- **At most one settlement starts behind an activation.** -/
theorem settlements_behind_kill {minted : List CanonicalText}
    {early later : List JournalRecord} {k : JournalRecord}
    (hgrown : Grown (Behind setup sha minted) (early ++ k :: later))
    (hk : k.eventType.killing = true) :
    (later.filter JournalRecord.startsSettlement).length ≤ 1 := by
  have hplace : ∀ between s rest, later = between ++ s :: rest →
      s.startsSettlement = true → between.length = 1 := by
    rintro between s rest rfl hs
    exact started_behind_kill hgrown hk (of_decide_eq_true hs).1
  cases later with
  | nil => simp
  | cons a later =>
      cases later with
      | nil => exact List.length_filter_le _ _
      | cons b rest =>
          have ha : ¬a.startsSettlement = true := fun h => by
            have hlength := hplace [] a (b :: rest) rfl h
            simp at hlength
          have hrest : rest.filter JournalRecord.startsSettlement = [] := by
            refine List.filter_eq_nil_iff.mpr fun s hs h => ?_
            obtain ⟨more, last, rfl⟩ := List.append_of_mem hs
            have hlength := hplace (a :: b :: more) s last (by simp) h
            simp at hlength
          rw [List.filter_cons_of_neg ha, List.filter_cons, hrest]
          split <;> simp

/-- Where a boot or an acknowledgement may lead to a stable phase, no activation is
recorded. -/
structure E1World.Unkilled (w : E1World) : Prop where
  acknowledging : w.phase = .restartAckRequired →
    ShadowIntentJournal.killActive w.journalFile.records = false
  booting : w.phase = .bootReconcileRequired → w.journalPreexisting = false →
    ShadowIntentJournal.killActive w.journalFile.records = false

namespace E1World.Unkilled

variable {w w' : E1World}

theorem of_same (h : w.Unkilled) (hphase : w'.phase = w.phase)
    (hpreexisting : w'.journalPreexisting = w.journalPreexisting)
    (hkill : w.phase = .restartAckRequired ∨ w.phase = .bootReconcileRequired →
      ShadowIntentJournal.killActive w.journalFile.records = false →
        ShadowIntentJournal.killActive w'.journalFile.records = false) : w'.Unkilled := by
  constructor
  · intro hack
    rw [hphase] at hack
    exact hkill (Or.inl hack) (h.acknowledging hack)
  · intro hboot hnew
    rw [hphase] at hboot
    rw [hpreexisting] at hnew
    exact hkill (Or.inr hboot) (h.booting hboot hnew)

/-- A record that is appended where a boot or an acknowledgement is awaited activates
nothing. -/
theorem written {r : JournalRecord} (h : w.Unkilled) (hobserved : Observed sha w r)
    (hphase : w'.phase = w.phase) (hpreexisting : w'.journalPreexisting = w.journalPreexisting)
    (hfile : w'.journalFile.records = w.journalFile.records ∨
      w'.journalFile.records = w.journalFile.records ++ [r]) : w'.Unkilled := by
  refine h.of_same hphase hpreexisting fun hawaited hkill => ?_
  rcases hfile with hfile | hfile
  · rw [hfile]
    exact hkill
  · rw [hfile, killActive_append, hkill, Bool.false_or]
    by_contra hactive
    have hkilling : r.eventType.killing = true := by
      simpa [ShadowIntentJournal.killActive] using hactive
    obtain ⟨hboot, hack⟩ := hobserved.killing hkilling
    rcases hawaited with h | h
    · exact hack h
    · exact hboot h

theorem step (hstep : E1Step setup sha start w w') (h : w.Unkilled) : w'.Unkilled := by
  cases hstep with
  | quiet hsame =>
      refine h.of_same hsame.phase hsame.journalPreexisting fun _ hkill => ?_
      rw [hsame.journalFile]
      exact hkill
  | enter phase henters hresult =>
      subst hresult
      constructor
      · rintro rfl
        obtain ⟨hrecords, halive, -⟩ := henters
        exact hrecords ▸ halive
      · rintro rfl
        exact henters.elim
  | append r _ _ hobserved hresult =>
      rcases hresult with rfl | ⟨written, rfl⟩
      · exact h.written hobserved rfl rfl (Or.inr rfl)
      · exact h.written hobserved rfl rfl (write_records _ written r)
  | change x position hchanges hresult =>
      refine h.of_same ?_ ?_ fun _ hkill => ?_
      · rcases hresult with rfl | ⟨-, rfl⟩ <;> rfl
      · rcases hresult with rfl | ⟨-, rfl⟩ <;> rfl
      · rcases hresult with rfl | ⟨-, rfl⟩ <;> exact hkill

end E1World.Unkilled

theorem unkilled_after (setup : E1Setup) (sha : Sha256) (venueFile : Option VirtualPosition)
    (inputs : List E1Input) :
    (after (e1Step setup sha) (newRun venueFile) inputs).world.Unkilled := by
  have hboth := @e1_invariant_always setup sha
    (fun w => w.Sound setup sha ∧ w.Unkilled)
    (fun w h => h.1.changesBehind)
    (fun start w w' hstep h => ⟨h.1.step hstep, h.2.step hstep⟩)
    (fun w call h => ⟨h.1.of_same rfl rfl rfl List.prefix_rfl, h.2.acknowledging, h.2.booting⟩)
    (fun w _ h => ⟨h.1.reloaded, nofun, fun _ hnew => ?_⟩)
    (newRun venueFile) ⟨sound_new venueFile, nofun, fun _ _ => rfl⟩ inputs
  · exact hboth.2
  · -- a new engine takes the journal for a new one only when it is empty
    have hempty : w.journalFile.records = [] := by
      simpa [E1World.reloaded] using hnew
    show ShadowIntentJournal.killActive w.journalFile.records = false
    rw [hempty]
    rfl

/-- The calls that may take an engine back to a stable phase. -/
def E1Op.resumes : E1Op → Bool
  | .bootReconcile _ | .reconcileAfterUncertain _ | .acknowledgeRestart _ _ => true
  | _ => false

/-- The bound of processes that enter no stable phase. -/
def blockedFrame : Frame E1World where
  rel w t := t.phase.unreconciled = false → t.phase = w.phase
  refl _ _ := rfl
  trans h₁ h₂ h := (h₂ h).trans (h₁ (h₂ h ▸ h))

theorem append_blocked (entry : JournalEntry) : Within blockedFrame (append setup sha entry) := by
  intro w _
  rcases @append_run setup sha entry w with
    ⟨e, hrun⟩ | ⟨-, hrun | ⟨o, written, -, hrun⟩⟩
  · rw [hrun]
    rfl
  · rw [hrun]
    rfl
  · rw [hrun]
    rfl

theorem setPhase_blocked {phase : EnginePhase} (h : phase.unreconciled = true) :
    Within blockedFrame (setPhase phase) := by
  intro w hstable
  exact absurd (h.symm.trans hstable) nofun

/-- **A reconciliation enters no stable phase.** -/
theorem reconcile_blocked (now : Timestamp) (isRestart : Bool) :
    Within blockedFrame (reconcile setup sha now isRestart) :=
  reconcile_bounded append_blocked (fun _ h => setPhase_blocked h) now isRestart

theorem resume_blocked {op : E1Op} {w : E1World} (hunkilled : w.Unkilled)
    (hkill : ShadowIntentJournal.killActive w.journalFile.records = true)
    (hop : op.resumes = true) : WithinAt blockedFrame (op.exec setup sha) w := by
  cases op with
  | bootReconcile now =>
      refine WithinAt.map (WithinAt.gets_bind (WithinAt.require_bind fun hphase =>
        WithinAt.ite (fun _ => reconcile_blocked now true w) fun hnew => ?_))
      rw [hunkilled.booting hphase (Bool.eq_false_iff.mpr hnew)] at hkill
      cases hkill
  | reconcileAfterUncertain now =>
      exact WithinAt.map (WithinAt.gets_bind (WithinAt.require_bind fun _ =>
        reconcile_blocked now false w))
  | acknowledgeRestart now acknowledged =>
      refine WithinAt.map (WithinAt.gets_bind (WithinAt.require_bind fun hphase => ?_))
      rw [hunkilled.acknowledging hphase] at hkill
      cases hkill
  | recordHeartbeat now => cases hop
  | recordIncident now incidentRef severity reasonCode => cases hop
  | recordPostmortem now incidentRef => cases hop
  | processDecision decision market stop fault => cases hop
  | activateKill now reason market fault deadman => cases hop
  | checkDeadman now market fault => cases hop

/-- **A kill is sticky and flattens at most once**: behind a durable activation no entry
changes the venue, at most one settlement is started, and no boot, reconciliation or
acknowledgement takes an engine to a stable phase. -/
theorem kill_sticky_and_flattens_once (setup : E1Setup) (sha : Sha256)
    (venueFile : Option VirtualPosition) (inputs : List E1Input) :
    let r := after (e1Step setup sha) (newRun venueFile) inputs
    (∀ m ∈ r.world.mutations, ShadowIntentJournal.killActive m.journal = true →
        m.token.action ≠ .virtualEntry) ∧
      (∀ early k later, r.world.journalFile.records = early ++ k :: later →
        k.eventType.killing = true →
          (later.filter JournalRecord.startsSettlement).length ≤ 1) ∧
        ∀ call : E1Call, r.live = true → call.op.resumes = true →
          ShadowIntentJournal.killActive r.world.journalFile.records = true →
            (r.execute setup sha call).2.phase.unreconciled = false →
              (r.execute setup sha call).2.phase = r.world.phase := by
  intro r
  have hsound : r.world.Sound setup sha := sound_after setup sha venueFile inputs
  have hunkilled : r.world.Unkilled := unkilled_after setup sha venueFile inputs
  refine ⟨fun m hm hkill haction => ?_, fun early k later hrecords hk => ?_,
    fun call _ hop hkill => ?_⟩
  · obtain ⟨start, before, p, s, x, text, hprepared⟩ := hsound.preparedBy hm
    have hemergency := (hprepared.durableFirst (hsound.changed m hm).1).alive hkill
    exact absurd (haction.symm.trans hemergency.1) nofun
  · exact settlements_behind_kill (hrecords ▸ hsound.grown) hk
  · exact resume_blocked (w := r.world.given call)
      ⟨hunkilled.acknowledging, hunkilled.booting⟩ hkill hop

end Kill

end FxStrategyLab.E1
