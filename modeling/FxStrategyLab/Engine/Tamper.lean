import FxStrategyLab.Engine.Journaled

/-!
# The journal is complete and shows tampering

`verify_journal` accepts the database of every run.  It refuses the same database once
rows of the journal are gone, an attempt is gone, or the state of a cycle or the label of
an attempt is another one.  A cut journal is still a chain, so the refusal comes from the
tables: an attempt or an outcome that is cut off is missed by its row, a new cycle is not
covered, and a cut behind which only transitions stood leaves a state of lower rank.
-/

namespace FxStrategyLab

open Library

section Rows

variable {events : List V4GmoSafeEvent}

theorem finalStateByCycle_rows (events : List V4GmoSafeEvent) (cycleRef : Digest) :
    finalStateByCycle (events.map V4GmoSafeEvent.row) cycleRef =
      (lastState events cycleRef).map fun state => state.value.toList := by
  induction events using List.reverseRecOn with
  | nil => rfl
  | append_singleton events event ih =>
      have hstep : finalStateByCycle ((events ++ [event]).map V4GmoSafeEvent.row) =
          Function.update (finalStateByCycle (events.map V4GmoSafeEvent.row)) event.cycleRef
            (some event.stateSafeLabel.value.toList) := by
        unfold finalStateByCycle
        rw [List.map_append, List.foldl_append]
        rfl
      rw [hstep, lastState_append_singleton]
      by_cases href : cycleRef = event.cycleRef
      · rw [href, Function.update_self, Function.update_self]
        rfl
      · rw [Function.update_of_ne href, Function.update_of_ne href, ih]

theorem startCount_rows (events : List V4GmoSafeEvent) :
    startCount (events.map V4GmoSafeEvent.row) =
      (events.filterMap V4GmoSafeEvent.startedKey).length := by
  unfold startCount
  induction events with
  | nil => rfl
  | cons event events ih =>
      rw [List.map_cons, List.countP_cons, ih, List.filterMap_cons]
      have htest : decide (attemptStartedSuffix <:+ event.row.eventCategory) =
          event.startedKey.isSome := by
        unfold V4GmoSafeEvent.startedKey
        rw [Option.isSome_map, Bool.eq_iff_iff, decide_eq_true_iff]
        exact V4GmoEventCategory.startedSuffix_iff
      rw [htest]
      cases event.startedKey <;> simp

theorem startMatches_rows (events : List V4GmoSafeEvent) (cycleRef : Digest)
    (action : V4GmoAction) :
    ((events.map V4GmoSafeEvent.row).countP fun row => decide (row.cycleRef = cycleRef ∧
        row.eventCategory = action.value.toList ++ attemptStartedSuffix)) =
      (events.filterMap V4GmoSafeEvent.startedKey).count (cycleRef, action) := by
  induction events with
  | nil => rfl
  | cons event events ih =>
      rw [List.map_cons, List.countP_cons, ih, List.filterMap_cons]
      have htest : decide (event.row.cycleRef = cycleRef ∧
          event.row.eventCategory = action.value.toList ++ attemptStartedSuffix) =
            decide (event.startedKey = some (cycleRef, action)) := by
        rw [decide_eq_decide]
        refine Iff.trans (and_congr_right fun _ => V4GmoEventCategory.value_eq_started_iff) ?_
        unfold V4GmoSafeEvent.startedKey
        rw [Option.map_eq_some_iff]
        constructor
        · rintro ⟨href, hstarted⟩
          exact ⟨action, hstarted, congrArg (fun ref => (ref, action)) href⟩
        · rintro ⟨started, hstarted, hkey⟩
          cases hkey
          exact ⟨rfl, hstarted⟩
      rw [htest]
      cases hkey : event.startedKey with
      | none => simp
      | some key =>
          simp only [Option.some.injEq, decide_eq_true_eq]
          rw [List.count_cons]
          simp

theorem outcomeCategories_rows (events : List V4GmoSafeEvent) (cycleRef : Digest)
    (action : V4GmoAction) (label : List Char) :
    outcomeCategories (events.map V4GmoSafeEvent.row)
        { cycleRef, actionKind := action.value.toList, outcomeSafeLabel := label } =
      ((events.filterMap (V4GmoSafeEvent.outcomeOf (cycleRef, action))).map
        fun outcome => outcome.value.toList).map fun text => action.stem ++ text := by
  unfold outcomeCategories
  induction events with
  | nil => rfl
  | cons event events ih =>
      rw [List.map_cons, List.filter_cons, List.filterMap_cons]
      have htest : decide (event.row.cycleRef = cycleRef ∧
          (action.value.toList ++ ['_']) <+: event.row.eventCategory ∧
          event.row.eventCategory ≠ action.value.toList ++ attemptStartedSuffix) =
            (event.outcomeOf (cycleRef, action)).isSome := by
        rw [Bool.eq_iff_iff, decide_eq_true_iff]
        refine Iff.trans (and_congr_right fun _ => V4GmoEventCategory.outcomePrefix_iff) ?_
        unfold V4GmoSafeEvent.outcomeOf
        by_cases href : event.cycleRef = cycleRef
        · rw [if_pos href]
          exact and_iff_right href
        · rw [if_neg href]
          exact ⟨fun h => absurd h.1 href, fun h => nomatch h⟩
      simp only at ih ⊢
      rw [htest]
      cases houtcome : event.outcomeOf (cycleRef, action) with
      | none => exact ih
      | some outcome =>
          have htext : event.eventCategory = .outcomeRecorded action outcome := by
            unfold V4GmoSafeEvent.outcomeOf at houtcome
            split at houtcome
            · cases hcategory : event.eventCategory with
              | outcomeRecorded recorded o =>
                  rw [hcategory, V4GmoEventCategory.outcomeOf_outcomeRecorded] at houtcome
                  split at houtcome
                  case isTrue heq =>
                    cases houtcome
                    rw [heq]
                  case isFalse => cases houtcome
              | _ =>
                  rw [hcategory] at houtcome
                  cases houtcome
            · cases houtcome
          have hvalue : event.row.eventCategory = action.stem ++ outcome.value.toList := by
            rw [← V4GmoEventCategory.value_outcomeRecorded, ← htext]
            rfl
          simp only [Option.isSome_some, if_true, List.map_cons, hvalue, ih]

end Rows

theorem count_eq_one_and_length {α : Type} [BEq α] [LawfulBEq α] {l : List α} {a : α} :
    l.count a = 1 ∧ l.length = 1 ↔ l = [a] := by
  constructor
  · rintro ⟨hcount, hlength⟩
    obtain ⟨b, rfl⟩ := List.length_eq_one_iff.mp hlength
    have hmem : a ∈ [b] := List.count_pos_iff.mp (by omega)
    rw [List.mem_singleton.mp hmem]
  · rintro rfl
    simp

def outcomesOfLabel (label : List Char) : List (List Char) :=
  if label = attemptStartedLabel then [] else [label]

theorem outcomesOfLabel_injective {label label' : List Char}
    (h : outcomesOfLabel label = outcomesOfLabel label') : label = label' := by
  unfold outcomesOfLabel at h
  split at h <;> split at h
  · next h₁ h₂ => exact h₁.trans h₂.symm
  · cases h
  · cases h
  · exact List.singleton_injective h

/-- **What the test of an attempt says.** The attempt is started once, and the journal
holds the outcomes that its label asks for. -/
theorem attemptVerified_rows {events : List V4GmoSafeEvent} {cycleRef : Digest}
    {action : V4GmoAction} {label : List Char} :
    attemptVerified (events.map V4GmoSafeEvent.row)
        { cycleRef, actionKind := action.value.toList, outcomeSafeLabel := label } = true ↔
      (events.filterMap V4GmoSafeEvent.startedKey).count (cycleRef, action) = 1 ∧
        (events.filterMap (V4GmoSafeEvent.outcomeOf (cycleRef, action))).map
          (fun outcome => outcome.value.toList) = outcomesOfLabel label := by
  unfold attemptVerified outcomesOfLabel
  simp only
  rw [startMatches_rows, outcomeCategories_rows]
  split
  · rw [decide_eq_true_iff, List.map_eq_nil_iff]
  · rw [decide_eq_true_iff, count_eq_one_and_length]
    have hstem : action.value.toList ++ '_' :: label = action.stem ++ label := by
      simp [V4GmoAction.stem]
    have hinjective : Function.Injective fun text => action.stem ++ text :=
      List.append_right_injective action.stem
    rw [hstem]
    refine and_congr_right fun _ => ?_
    exact (List.map_injective_iff.mpr hinjective).eq_iff (b := [label])

section Tamper

variable {sha : Sha256} {store : V4GmoStateStore}

theorem V4GmoActionAttempt.outcomesOfLabel_label (attempt : V4GmoActionAttempt) :
    outcomesOfLabel attempt.label =
      attempt.outcomeSafeLabel.toList.map fun outcome => outcome.value.toList := by
  unfold outcomesOfLabel V4GmoActionAttempt.label
  cases attempt.outcomeSafeLabel with
  | none => rfl
  | some outcome => exact if_neg outcome.value_ne_started

theorem V4GmoStateStore.Journaled.accepted (h : store.Journaled sha) :
    store.journalRows.Accepted sha := by
  refine ⟨h.valid, ?_, ?_, ?_, ?_, ?_⟩
  · intro row hrow
    obtain ⟨event, hevent, rfl⟩ := List.mem_map.mp hrow
    obtain ⟨cycle, hcycle, href⟩ := h.covered event hevent
    exact List.mem_map.mpr ⟨cycle.row, List.mem_map_of_mem hcycle, href⟩
  · intro row hrow
    obtain ⟨cycle, hcycle, rfl⟩ := List.mem_map.mp hrow
    have hstate := h.states cycle hcycle
    obtain ⟨event, hevent, href⟩ := lastState_isSome.mp (by rw [hstate]; rfl)
    exact List.mem_map.mpr ⟨event.row, List.mem_map_of_mem hevent, href⟩
  · intro row hrow
    obtain ⟨cycle, hcycle, rfl⟩ := List.mem_map.mp hrow
    have htext := finalStateByCycle_rows store.safeEvents cycle.cycleRef
    rw [h.states cycle hcycle] at htext
    exact htext
  · intro row hrow
    obtain ⟨attempt, hattempt, rfl⟩ := List.mem_map.mp hrow
    refine attemptVerified_rows.mpr ⟨?_, ?_⟩
    · rw [h.started]
      exact List.count_eq_one_of_mem
        (store.attempts.unique V4GmoActionAttempt.primaryKey (List.mem_singleton_self _))
        (List.mem_map.mpr ⟨attempt, hattempt, rfl⟩)
    · have houtcomes : store.safeEvents.filterMap
          (V4GmoSafeEvent.outcomeOf (attempt.cycleRef, attempt.action)) =
            attempt.outcomeSafeLabel.toList := h.outcomes attempt hattempt
      rw [houtcomes, attempt.outcomesOfLabel_label]
  · have hcount := startCount_rows store.safeEvents
    rw [h.started] at hcount
    refine hcount.trans ?_
    simp [V4GmoStateStore.attemptKeys, V4GmoStateStore.journalRows]

variable {before behind : List V4GmoSafeEvent}

theorem rank_behind_cut (cycleRef : Digest)
    {state : V4GmoCycleState} (hstate : lastState before cycleRef = some state)
    (hgrown : Grown Follows (before ++ behind))
    (hmoves : ∀ event ∈ behind, event.eventCategory.ofMove = true) :
    ∃ final, lastState (before ++ behind) cycleRef = some final ∧ state.rank ≤ final.rank ∧
      ((∃ event ∈ behind, event.cycleRef = cycleRef) → state.rank < final.rank) := by
  induction behind using List.reverseRecOn with
  | nil =>
      rw [List.append_nil]
      exact ⟨state, hstate, le_rfl, by rintro ⟨event, hevent, -⟩; cases hevent⟩
  | append_singleton behind event ih =>
      rw [← List.append_assoc] at hgrown ⊢
      obtain ⟨hgrown, hfollows⟩ := grown_append_singleton.mp hgrown
      obtain ⟨final, hfinal, hle, hlt⟩ := ih hgrown
        fun e he => hmoves e (List.mem_append_left _ he)
      rw [lastState_append_singleton]
      by_cases href : cycleRef = event.cycleRef
      · subst href
        obtain ⟨last, hlast, hrank⟩ := hfollows.2
          (hmoves event (List.mem_append_right _ (List.mem_singleton_self _)))
        obtain rfl : final = last := Option.some.inj (hfinal.symm.trans hlast)
        exact ⟨_, Function.update_self _ _ _, by omega, fun _ => by omega⟩
      · rw [Function.update_of_ne href]
        refine ⟨final, hfinal, hle, ?_⟩
        rintro ⟨e, he, heref⟩
        rcases List.mem_append.mp he with he | he
        · exact hlt ⟨e, he, heref⟩
        · rw [List.mem_singleton.mp he] at heref
          exact absurd heref.symm href

/-- A category is of a new cycle, of an attempt, of an outcome, or of a transition. -/
theorem V4GmoEventCategory.cases_of (category : V4GmoEventCategory) :
    category = .entryIntentPersisted ∨ category.startedAction.isSome = true ∨
      (∃ action, (category.outcomeOf action).isSome = true) ∨ category.ofMove = true := by
  cases category with
  | entryIntentPersisted => exact Or.inl rfl
  | attemptStarted action => exact Or.inr (Or.inl rfl)
  | outcomeRecorded action outcome =>
      refine Or.inr (Or.inr (Or.inl ⟨action, ?_⟩))
      rw [outcomeOf_outcomeRecorded, if_pos rfl]
      rfl
  | _ => exact Or.inr (Or.inr (Or.inr rfl))

/-- **No cut goes unnoticed.** A proper prefix of the journal is refused. -/
theorem V4GmoStateStore.Journaled.cut_refused (h : store.Journaled sha)
    (hevents : store.safeEvents = before ++ behind) (hbehind : behind ≠ []) :
    ¬({ store.journalRows with events := before.map V4GmoSafeEvent.row } :
      JournalRows).Accepted sha := by
  intro hcut
  have hgrown : Grown Follows (before ++ behind) := hevents ▸ h.grown
  -- every attempt stands in front of the cut
  have hstarted : behind.filterMap V4GmoSafeEvent.startedKey = [] := by
    have hcount := hcut.starts
    have hall := h.accepted.starts
    simp only [V4GmoStateStore.journalRows, startCount_rows] at hcount hall
    rw [hevents, List.filterMap_append, List.length_append, ← hcount] at hall
    exact List.length_eq_zero_iff.mp (by omega)
  -- and so does every outcome
  have houtcome : ∀ event ∈ behind, ∀ action,
      ¬(event.eventCategory.outcomeOf action).isSome = true := by
    intro event hevent action hsome
    have hmem : event ∈ store.safeEvents := hevents ▸ List.mem_append_right _ hevent
    obtain ⟨attempt, hattempt, hkey⟩ := List.mem_map.mp (h.recorded event hmem action hsome)
    have href : event.cycleRef = attempt.cycleRef := (congrArg Prod.fst hkey).symm
    obtain rfl : attempt.action = action := congrArg Prod.snd hkey
    have hrow := List.mem_map_of_mem (f := V4GmoActionAttempt.row) hattempt
    have hin := (attemptVerified_rows.mp (hcut.attempts _ hrow)).2
    have hall := (attemptVerified_rows.mp (h.accepted.attempts _ hrow)).2
    rw [hevents, List.filterMap_append, List.map_append, ← hin, List.append_right_eq_self,
      List.map_eq_nil_iff, List.filterMap_eq_nil_iff] at hall
    have hnone := hall event hevent
    unfold V4GmoSafeEvent.outcomeOf at hnone
    rw [if_pos href] at hnone
    rw [hnone] at hsome
    cases hsome
  -- a cycle that has an event is covered in front of the cut
  have hcovered : ∀ event ∈ behind, (lastState before event.cycleRef).isSome = true := by
    intro event hevent
    have hmem : event ∈ store.safeEvents := hevents ▸ List.mem_append_right _ hevent
    obtain ⟨cycle, hcycle, href⟩ := h.covered event hmem
    obtain ⟨row, hrow, href'⟩ :=
      List.mem_map.mp (hcut.covering _ (List.mem_map_of_mem hcycle))
    obtain ⟨first, hfirst, rfl⟩ := List.mem_map.mp hrow
    exact lastState_isSome.mpr ⟨first, hfirst, href'.trans href⟩
  have hmoves : ∀ event ∈ behind, event.eventCategory.ofMove = true := by
    intro event hevent
    rcases event.eventCategory.cases_of with hentry | hstart | ⟨action, hsome⟩ | hmove
    · -- a new cycle has no event before it
      obtain ⟨front, back, hsplit⟩ := List.append_of_mem hevent
      have hnone := (hgrown (before ++ front) event back (by rw [hsplit, List.append_assoc])).1
        hentry
      obtain ⟨first, hfirst, href⟩ := lastState_isSome.mp (hcovered event hevent)
      have hsome : (lastState (before ++ front) event.cycleRef).isSome = true :=
        lastState_isSome.mpr ⟨first, List.mem_append_left _ hfirst, href⟩
      rw [hnone] at hsome
      cases hsome
    · have hnone := List.filterMap_eq_nil_iff.mp hstarted event hevent
      unfold V4GmoSafeEvent.startedKey at hnone
      rw [Option.map_eq_none_iff] at hnone
      rw [hnone] at hstart
      cases hstart
    · exact absurd hsome (houtcome event hevent action)
    · exact hmove
  -- so that the state of a cycle with a transition behind the cut is another one
  obtain ⟨event, hevent⟩ := List.exists_mem_of_ne_nil _ hbehind
  obtain ⟨state, hstate⟩ := Option.isSome_iff_exists.mp (hcovered event hevent)
  obtain ⟨final, hfinal, -, hlt⟩ := rank_behind_cut event.cycleRef hstate hgrown hmoves
  have hrank := hlt ⟨event, hevent, rfl⟩
  obtain ⟨cycle, hcycle, href⟩ := h.covered event (hevents ▸ List.mem_append_right _ hevent)
  have hlast := h.states cycle hcycle
  rw [hevents, href, hfinal] at hlast
  have htext : finalStateByCycle (before.map V4GmoSafeEvent.row) cycle.cycleRef =
      some cycle.state.value.toList := hcut.states _ (List.mem_map_of_mem hcycle)
  rw [finalStateByCycle_rows, href, hstate] at htext
  have hsame : state = cycle.state := V4GmoCycleState.value_injective (Option.some.inj htext)
  rw [hsame, Option.some.inj hlast] at hrank
  exact absurd hrank (lt_irrefl _)

/-- **The journal is complete and shows tampering.** In every run, with a crash anywhere,
`verify_journal` accepts the database.  It refuses the database from which any rows of the
journal or an attempt are removed, and the one in which the state of a cycle or the label
of an attempt is another text. -/
theorem journal_complete_and_tamper_evident (sha : Sha256) (ops : List EngineOp) :
    (∃ summary,
      verifyJournal sha (after (engineStep sha) {} ops).store.journalRows = .ok summary) ∧
    (∀ events, events.Sublist (after (engineStep sha) {} ops).store.journalRows.events →
      events ≠ (after (engineStep sha) {} ops).store.journalRows.events →
        JournalRows.Refused sha
          { (after (engineStep sha) {} ops).store.journalRows with events }) ∧
    (∀ before attempt later,
      (after (engineStep sha) {} ops).store.journalRows.attempts =
          before ++ attempt :: later →
        JournalRows.Refused sha
          { (after (engineStep sha) {} ops).store.journalRows with
            attempts := before ++ later }) ∧
    (∀ before cycle later state,
      (after (engineStep sha) {} ops).store.journalRows.cycles = before ++ cycle :: later →
        state ≠ cycle.state →
          JournalRows.Refused sha
            { (after (engineStep sha) {} ops).store.journalRows with
              cycles := before ++ { cycle with state } :: later }) ∧
    ∀ before attempt later outcomeSafeLabel,
      (after (engineStep sha) {} ops).store.journalRows.attempts =
          before ++ attempt :: later →
        outcomeSafeLabel ≠ attempt.outcomeSafeLabel →
          JournalRows.Refused sha
            { (after (engineStep sha) {} ops).store.journalRows with
              attempts := before ++ { attempt with outcomeSafeLabel } :: later } := by
  have hjournaled : (after (engineStep sha) {} ops).store.Journaled sha :=
    V4GmoStateStore.journaled_of_run ops
  generalize (after (engineStep sha) {} ops).store = store at hjournaled
  have haccepted := hjournaled.accepted
  refine ⟨verifyJournal_eq_ok.mpr haccepted, fun events hsublist hne => ?_,
    fun before attempt later hattempts => ?_, fun before cycle later state hcycles hne => ?_,
    fun before attempt later label hattempts hne => ?_⟩
  · refine JournalRows.refused_of_not_accepted fun h => ?_
    -- what remains is a chain, and so a prefix of the journal
    have hprefix : events <+: store.safeEvents.map V4GmoSafeEvent.row :=
      hjournaled.valid.prefix_of_sublist h.valid hsublist
    obtain ⟨behind, hsplit⟩ := hprefix
    obtain ⟨before, later, hevents, rfl, hlater⟩ := List.map_eq_append_iff.mp hsplit.symm
    refine hjournaled.cut_refused hevents (fun hnil => hne ?_) h
    rw [hnil, List.append_nil] at hevents
    rw [← hevents]
    rfl
  · refine JournalRows.refused_of_not_accepted fun h => ?_
    have hfewer : startCount store.journalRows.events = (before ++ later).length := h.starts
    have hall := haccepted.starts
    rw [hattempts, hfewer] at hall
    simp at hall
  · refine JournalRows.refused_of_not_accepted fun h => hne ?_
    have hchanged := h.states { cycle with state } (by simp)
    have hstored := haccepted.states cycle (by simp [hcycles])
    exact Option.some.inj (hchanged.symm.trans hstored)
  · refine JournalRows.refused_of_not_accepted fun h => hne ?_
    have hmem : attempt ∈ store.journalRows.attempts := by
      simp [hattempts]
    obtain ⟨stored, hstored, rfl⟩ := List.mem_map.mp hmem
    have hchanged := h.attempts { stored.row with outcomeSafeLabel := label } (by simp)
    have hkept := haccepted.attempts _ hmem
    refine outcomesOfLabel_injective ?_
    exact (attemptVerified_rows.mp hchanged).2.symm.trans (attemptVerified_rows.mp hkept).2

end Tamper

end FxStrategyLab
