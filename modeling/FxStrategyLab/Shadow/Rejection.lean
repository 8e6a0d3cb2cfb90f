import FxStrategyLab.Shadow.Reconcile

/-!
# Rejections of the E1 shadow engine and the halt behind them

A rejection halts the engine by a record of its own, behind the record that tells
of the rejection.  Where the halt has been recorded no intent is prepared again.
A crash or a failed append between the two records leaves a journal with the
rejection alone, and nothing infers the halt from it: the condition below is that
no call starts on such a journal, and it holds over every run whose rejecting
calls lose no append.
-/

namespace FxStrategyLab.E1

open Library

section Rejection

variable {setup : E1Setup} {sha : Sha256} {start : List JournalRecord}

def JournalFile.rejected (file : JournalFile) : Bool :=
  file.records.any fun r => r.rejects

/-- The journal file blocks every engine: it holds a kill or a halt, or cannot be loaded. -/
def JournalFile.sticky (file : JournalFile) : Bool :=
  ShadowIntentJournal.killActive file.records || ShadowIntentJournal.halted file.records ||
    decide (file.tail = .unreadable)

def NonePreparedBehind (l : List JournalRecord) : Prop :=
  Grown (fun before q => q.eventType = .intentPrepared → ∀ r ∈ before, r.rejects = false) l

def RejectionHalted (r : E1Run) : E1Input → Prop
  | .call _ => r.live = true → r.world.journalFile.rejected = true →
      r.world.journalFile.sticky = true
  | .restart => True

theorem rejects_of_killing {r : JournalRecord} (h : r.eventType.killing = true) :
    r.rejects = false := by
  cases htype : r.eventType <;> simp_all [JournalEntry.rejects, JournalEventType.killing]

theorem steps_loaded {w w' : E1World} (h : Relation.ReflTransGen (E1Step setup sha start) w w') :
    (w'.journalFile = w.journalFile ∧ w'.records = w.records) ∨
      w.journalFile.load = .ok w.records := by
  induction h with
  | refl => exact Or.inl ⟨rfl, rfl⟩
  | tail _ hstep ih =>
      rcases ih with ⟨hfile, hrecords⟩ | hloaded
      swap
      · exact Or.inr hloaded
      cases hstep with
      | quiet hsame =>
          exact Or.inl ⟨hsame.journalFile.trans hfile, hsame.records.trans hrecords⟩
      | enter phase _ hresult =>
          subst hresult
          exact Or.inl ⟨hfile, hrecords⟩
      | append r hloaded _ _ _ =>
          rw [hfile, hrecords] at hloaded
          exact Or.inr hloaded
      | change x position _ hresult =>
          rcases hresult with rfl | ⟨-, rfl⟩ <;> exact Or.inl ⟨hfile, hrecords⟩

/-- Behind a rejection of the records that a call starts on, no intent is prepared in it. -/
theorem nonePrepared_steps {w w' : E1World} (hstart : (start.any fun r => r.rejects) = true →
      ShadowIntentJournal.killActive start = true ∨ ShadowIntentJournal.halted start = true)
    (h : Relation.ReflTransGen (E1Step setup sha start) w w')
    (hnone : NonePreparedBehind w.journalFile.records) :
    NonePreparedBehind w'.journalFile.records := by
  induction h with
  | refl => exact hnone
  | @tail v v' _ hstep ih =>
      cases hstep with
      | quiet hsame =>
          rw [hsame.journalFile]
          exact ih
      | enter phase _ hresult =>
          subst hresult
          exact ih
      | change x position _ hresult =>
          rcases hresult with rfl | ⟨-, rfl⟩ <;> exact ih
      | append r hloaded hadmitted _ hresult =>
          have hfile : v.journalFile.records = v.records := (load_ok hloaded).2
          have hgrows : v'.journalFile.records = v.journalFile.records ∨
              v'.journalFile.records = v.journalFile.records ++ [r] := by
            rcases hresult with rfl | ⟨written, rfl⟩
            · exact Or.inr rfl
            · exact write_records _ written r
          rcases hgrows with hgrows | hgrows
          · rw [hgrows]
            exact ih
          · rw [hgrows]
            refine grown_append_singleton.mpr ⟨ih, fun htype q hq => ?_⟩
            obtain ⟨x, text, -, hprepares⟩ := hadmitted.prepared htype
            by_contra hrejects
            rw [hfile] at hq
            have hin : q ∈ start := by
              rcases hprepares.opening with hopening | ⟨k, hopening, hk, -⟩
              · exact hopening ▸ hq
              · rw [hopening] at hq
                rcases List.mem_append.mp hq with hq | hq
                · exact hq
                · obtain rfl := List.mem_singleton.mp hq
                  exact absurd (rejects_of_killing hk) hrejects
            have hany : (start.any fun r => r.rejects) = true :=
              List.any_eq_true.mpr ⟨q, hin, by simpa using hrejects⟩
            rcases hstart hany with hkill | hhalt
            · rw [hprepares.alive] at hkill
              cases hkill
            · rw [hprepares.running] at hhalt
              cases hhalt

theorem nonePrepared_kept (r : E1Run) (input : E1Input)
    (h : r.world.Sound setup sha ∧ NonePreparedBehind r.world.journalFile.records)
    (hhalted : RejectionHalted r input) :
    (e1Step setup sha r input).world.Sound setup sha ∧
      NonePreparedBehind (e1Step setup sha r input).world.journalFile.records := by
  refine ⟨e1_kept_always (I := E1World.Sound setup sha) (fun w h => h.changesBehind)
    (fun start w w' hstep h => h.step hstep)
    (fun w call h => h.of_same rfl rfl rfl List.prefix_rfl) (fun w _ h => h.reloaded) r input h.1,
    ?_⟩
  cases input with
  | restart =>
      rw [e1Step]
      split <;> exact h.2
  | call c =>
      by_cases hlive : r.live = true
      swap
      · rw [e1Step, if_neg hlive]
        exact h.2
      rw [e1Step, if_pos hlive]
      have hsteps : Relation.ReflTransGen (E1Step setup sha r.world.records) (r.world.given c)
          (r.execute setup sha c).2 :=
        exec_withinAt rfl h.1.changesBehind
      rcases steps_loaded hsteps with ⟨hfile, -⟩ | hloaded
      · show NonePreparedBehind (r.execute setup sha c).2.journalFile.records
        rw [hfile]
        exact h.2
      · refine nonePrepared_steps (fun hrejects => ?_) hsteps h.2
        obtain ⟨htail, hrecords⟩ := load_ok hloaded
        have hrecords : r.world.journalFile.records = r.world.records := hrecords
        have htail : r.world.journalFile.tail ≠ .unreadable := htail
        have hsticky := hhalted hlive (by rw [JournalFile.rejected, hrecords]; exact hrejects)
        rw [← hrecords]
        simpa [JournalFile.sticky, htail] using hsticky

/-- **Where every rejection has its halt, no intent is prepared behind one.** -/
theorem nonePrepared_after (setup : E1Setup) (sha : Sha256) (venueFile : Option VirtualPosition)
    {inputs : List E1Input}
    (h : MeetsAlong (e1Step setup sha) RejectionHalted (newRun venueFile) inputs) :
    NonePreparedBehind
      (after (e1Step setup sha) (newRun venueFile) inputs).world.journalFile.records := by
  have hnew : NonePreparedBehind (newRun venueFile).world.journalFile.records := by
    unfold NonePreparedBehind
    exact grown_nil
  have hboth := invariant_after (I := fun r => r.world.Sound setup sha ∧
      NonePreparedBehind r.world.journalFile.records)
    nonePrepared_kept ⟨sound_new venueFile, hnew⟩ h
  exact hboth.2

end Rejection

end FxStrategyLab.E1
