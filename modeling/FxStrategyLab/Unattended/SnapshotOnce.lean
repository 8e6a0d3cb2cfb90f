import FxStrategyLab.Unattended.SnapshotStore

/-!
# An account snapshot is produced once and read back exactly

Every file is created once, by the call that found no file of its name, and grows to the line
that this call writes.  The passed marker is created by the call that has linked the evidence,
so a load that finds both reads what one call of `complete` has written.

**Results.** `snapshot_produced_once`.
-/

namespace FxStrategyLab.Snapshot

open Library (Json CallProgram CallWorld CallEvent CallThread after)
open Library.Json (loads dumps loads_line)

section Once

variable {runtime : Runtime}

def Call.Makes : Call runtime → FileName → Prop
  | .begin .., name => name = .started
  | .complete .., name => name = .passed ∨ name = .evidence
  | .recordFailure .., name => name = .failed
  | .loadCompleted .., _ => False

/-- The files change as a call with a number may change them: a file that it makes appears or
grows, the passed marker behind the evidence. -/
def Changes (n : Nat) (call : Call runtime) (files files' : Files) : Prop :=
  ∀ name, files' name = files name ∨
    (call.Makes name ∧ ∃ content, content <+: call.textFor name ∧
      files' name = some ⟨n, content⟩ ∧
      (∀ f, files name = some f → f.creator = n ∧ f.content <+: content) ∧
      (name = .passed → ∃ evidence, files .evidence = some ⟨n, evidence⟩))

variable {files files' : Files} {n m first : Nat} {call : Call runtime}

theorem Changes.unchanged : Changes n call files files :=
  fun _ => Or.inl rfl

/-- What a call that has come to a point has found or made. -/
def Own (files : Files) (n : Nat) (running : Running runtime) : Prop :=
  match running.call, running.point with
  | .begin .., .openingDirectory => True
  | .begin .., .creating => True
  | .begin .., .writing written =>
      files .started = some ⟨n, (running.call.textFor .started).take written⟩
  | .begin .., .syncing => files .started = some ⟨n, running.call.textFor .started⟩
  | .begin .., .returned (.began _) => ∃ content, files .started = some ⟨n, content⟩
  | .begin .., .returned (.raised _) => True
  | .complete .., .readingStarted => True
  | .complete .., .lookingFailed => True
  | .complete .., .lookingPassed => True
  | .complete .., .lookingEvidence => True
  | .complete .., .staging => True
  | .complete .., .linking => True
  | .complete .., .syncingEvidence => files .evidence = some ⟨n, running.call.textFor .evidence⟩
  | .complete .., .creating => files .evidence = some ⟨n, running.call.textFor .evidence⟩
  | .complete .., .writing written =>
      files .evidence = some ⟨n, running.call.textFor .evidence⟩ ∧
        files .passed = some ⟨n, (running.call.textFor .passed).take written⟩
  | .complete .., .syncing => files .passed = some ⟨n, running.call.textFor .passed⟩
  | .complete .., .returned .completed => True
  | .complete .., .returned (.raised _) => True
  | .recordFailure .., .creating => True
  | .recordFailure .., .writing written =>
      files .failed = some ⟨n, (running.call.textFor .failed).take written⟩
  | .recordFailure .., .syncing => True
  | .recordFailure .., .returned .recorded => True
  | .loadCompleted .., .lookingAny _ => True
  | .loadCompleted .., .lookingFailure => True
  | .loadCompleted .., .lookingFiles _ => True
  | .loadCompleted .., .loadingStarted => True
  | .loadCompleted .., .loadingPassed started =>
      readJson runtime (files .started) = some started
  | .loadCompleted .., .loadingEvidence started passed =>
      readJson runtime (files .started) = some started ∧
        readJson runtime (files .passed) = some passed
  | .loadCompleted .., .returned (.loaded none) => True
  | .loadCompleted reviewed generation, .returned (.loaded (some evidence)) =>
      ∃ started passed payload, readJson runtime (files .started) = some started ∧
        readJson runtime (files .passed) = some passed ∧
        readJson runtime (files .evidence) = some payload ∧
        loadDecision runtime reviewed generation started passed payload = .ok evidence
  | .loadCompleted .., .returned (.raised _) => True
  | _, _ => False

theorem own_enter (files : Files) (n : Nat) (call : Call runtime) : Own files n (enter call) := by
  cases call <;> trivial

variable {running : Running runtime}

theorem own_failure
    (h : Own files n running) (hreturned : ∀ result, running.point ≠ .returned result) :
    Own files' n ⟨running.call, failure running.call running.point⟩ := by
  obtain ⟨call, point⟩ := running
  cases call <;> cases point <;> first | trivial | exact absurd h id | exact absurd rfl (hreturned _)

variable {name : FileName} {content old : List Char}

theorem changes_create (hmakes : call.Makes name) (hpart : content <+: call.textFor name)
    (hfree : files name = none)
    (hbound : name = .passed → ∃ evidence, files .evidence = some ⟨n, evidence⟩) :
    Changes n call files (files.put name ⟨n, content⟩) := by
  intro other
  by_cases hname : other = name
  · subst hname
    exact Or.inr ⟨hmakes, content, hpart, by simp [Files.put], by simp [hfree], hbound⟩
  · exact Or.inl (Function.update_of_ne hname ..)

theorem changes_grow (hmakes : call.Makes name)
    (hpart : content <+: call.textFor name) (hold : files name = some ⟨n, old⟩)
    (hgrow : old <+: content)
    (hbound : name = .passed → ∃ evidence, files .evidence = some ⟨n, evidence⟩) :
    Changes n call files (files.put name ⟨n, content⟩) := by
  intro other
  by_cases hname : other = name
  · subst hname
    refine Or.inr ⟨hmakes, content, hpart, by simp [Files.put], fun f hf => ?_, hbound⟩
    obtain rfl := Option.some.inj (hold.symm.trans hf)
    exact ⟨rfl, hgrow⟩
  · exact Or.inl (Function.update_of_ne hname ..)

theorem act_changes (h : Own files n running) :
    Changes n running.call files (act n running.call running.point files).2 := by
  obtain ⟨call, point⟩ := running
  cases point with
  | linking =>
      cases call with
      | complete evidence digest completedAt =>
          simp only [act]
          split_ifs with hthere
          · exact .unchanged
          · exact changes_create (Or.inr rfl) (List.prefix_refl _)
              (by simpa using hthere) nofun
      | _ => exact absurd h id
  | creating =>
      simp only [act]
      split_ifs with hthere
      · exact .unchanged
      · have hfree : files call.marker = none := by simpa using hthere
        cases call with
        | begin => exact changes_create rfl List.nil_prefix hfree nofun
        | complete => exact changes_create (Or.inl rfl) List.nil_prefix hfree fun _ => ⟨_, h⟩
        | recordFailure => exact changes_create rfl List.nil_prefix hfree nofun
        | loadCompleted => exact absurd h id
  | writing written =>
      cases call with
      | begin => exact changes_grow rfl (List.prefix_refl _) h (List.take_prefix ..) nofun
      | complete =>
          exact changes_grow (Or.inl rfl) (List.prefix_refl _) h.2 (List.take_prefix ..)
            fun _ => ⟨_, h.1⟩
      | recordFailure => exact changes_grow rfl (List.prefix_refl _) h (List.take_prefix ..) nofun
      | loadCompleted => exact absurd h id
  | readingStarted =>
      simp only [act]
      split
      · split_ifs <;> exact .unchanged
      · exact .unchanged
  | lookingFailed => simp only [act]; split_ifs <;> exact .unchanged
  | lookingPassed => simp only [act]; split_ifs <;> exact .unchanged
  | lookingEvidence => simp only [act]; split_ifs <;> exact .unchanged
  | lookingAny rest =>
      cases rest with
      | nil => exact .unchanged
      | cons name rest => simp only [act]; split_ifs <;> exact .unchanged
  | lookingFailure => simp only [act]; split_ifs <;> exact .unchanged
  | lookingFiles rest =>
      cases rest with
      | nil => exact .unchanged
      | cons name rest => simp only [act]; split_ifs <;> exact .unchanged
  | loadingStarted => simp only [act]; split <;> exact .unchanged
  | loadingPassed started => simp only [act]; split <;> exact .unchanged
  | loadingEvidence started passed =>
      simp only [act]
      split
      · split <;> exact .unchanged
      · exact .unchanged
  | _ => exact .unchanged

variable {fate : Fate}

theorem move_changes (h : Own files n running) :
    Changes n running.call files (move n fate running files).2 := by
  cases fate with
  | succeeds => exact act_changes h
  | fails => exact .unchanged
  | failsBehind => exact act_changes h
  | writes count =>
      obtain ⟨call, point⟩ := running
      cases point with
      | writing written =>
          have hgrow : ∀ text : List Char, text.take written <+: text.take (written + count) :=
            fun text => List.take_prefix_take_left (by omega)
          cases call with
          | begin => exact changes_grow rfl (List.take_prefix ..) h (hgrow _) nofun
          | complete =>
              exact changes_grow (Or.inl rfl) (List.take_prefix ..) h.2 (hgrow _)
                fun _ => ⟨_, h.1⟩
          | recordFailure => exact changes_grow rfl (List.take_prefix ..) h (hgrow _) nofun
          | loadCompleted => exact absurd h id
      | _ => exact .unchanged

theorem own_act (h : Own files n running) :
    Own (act n running.call running.point files).2 n
      ⟨running.call, (act n running.call running.point files).1⟩ := by
  obtain ⟨call, point⟩ := running
  cases call with
  | begin reviewed generation cycle startedAt =>
      cases point with
      | openingDirectory => trivial
      | creating =>
          simp only [act]
          split_ifs
          · trivial
          · simp [Own, Files.put, Call.marker]
      | writing written => simp [act, Own, Files.put, Call.marker]
      | syncing => exact ⟨_, h⟩
      | returned result => exact h
      | _ => exact absurd h id
  | complete evidence digest completedAt =>
      cases point with
      | readingStarted =>
          simp only [act]
          split
          · split_ifs <;> trivial
          · trivial
      | lookingFailed => simp only [act]; split_ifs <;> trivial
      | lookingPassed => simp only [act]; split_ifs <;> trivial
      | lookingEvidence => simp only [act]; split_ifs <;> trivial
      | staging => trivial
      | linking =>
          simp only [act]
          split_ifs
          · trivial
          · simp [Own, Files.put]
      | syncingEvidence => exact h
      | creating =>
          simp only [act]
          split_ifs
          · trivial
          · simpa [Own, Files.put, Call.marker] using h
      | writing written => simp [act, Own, Files.put, Call.marker]
      | syncing => trivial
      | returned result => exact h
      | _ => exact absurd h id
  | recordFailure reviewed generation cycle digest failedAt phase =>
      cases point with
      | creating =>
          simp only [act]
          split_ifs
          · trivial
          · simp [Own, Files.put, Call.marker]
      | writing written => trivial
      | syncing => trivial
      | returned result => exact h
      | _ => exact absurd h id
  | loadCompleted reviewed generation =>
      cases point with
      | lookingAny rest =>
          cases rest with
          | nil => trivial
          | cons name rest => simp only [act]; split_ifs <;> trivial
      | lookingFailure => simp only [act]; split_ifs <;> trivial
      | lookingFiles rest =>
          cases rest with
          | nil => trivial
          | cons name rest => simp only [act]; split_ifs <;> trivial
      | loadingStarted =>
          simp only [act]
          split
          · rename_i started hread
            exact hread
          · trivial
      | loadingPassed started =>
          simp only [act]
          split
          · rename_i passed hread
            exact ⟨h, hread⟩
          · trivial
      | loadingEvidence started passed =>
          simp only [act]
          split
          · rename_i hcall hread
            split
            · rename_i evidence hdecision
              cases hcall
              exact ⟨started, passed, _, h.1, h.2, hread, hdecision⟩
            · trivial
          · trivial
      | returned result => exact h
      | _ => exact absurd h id

theorem own_move (h : Own files n running) :
    Own (move n fate running files).2 n (move n fate running files).1 := by
  by_cases hreturned : ∃ result, running.point = .returned result
  · obtain ⟨call, point⟩ := running
    obtain ⟨result, rfl⟩ := hreturned
    cases fate <;> exact h
  · have hnot : ∀ result, running.point ≠ .returned result :=
      fun result hresult => hreturned ⟨result, hresult⟩
    cases fate with
    | succeeds => exact own_act h
    | fails => exact own_failure h hnot
    | failsBehind => exact own_failure h hnot
    | writes count =>
        obtain ⟨call, point⟩ := running
        cases point with
        | writing written =>
            cases call with
            | begin => simp [move, Own, Files.put, Call.marker]
            | complete => simpa [move, Own, Files.put, Call.marker] using h.1
            | recordFailure => simp [move, Own, Files.put, Call.marker]
            | loadCompleted => exact absurd h id
        | _ => exact h

variable {payload started passed : List (String × Json)}

theorem readJson_of_changes (h : Changes n call files files')
    (hread : readJson runtime (files name) = some payload) :
    readJson runtime (files' name) = some payload := by
  rcases h name with hsame | ⟨-, content, htext, hfile, hgrow, -⟩
  · rwa [hsame]
  · simp only [readJson, Option.bind_eq_some_iff] at hread ⊢
    obtain ⟨f, hf, v, hv, hobject⟩ := hread
    obtain ⟨hwhole, rfl⟩ := (loads_line ((hgrow f hf).2.trans htext)).mp hv
    exact ⟨_, hfile, _, (loads_line htext).mpr ⟨hwhole.trans (hgrow f hf).2, rfl⟩, hobject⟩

theorem file_of_changes (h : Changes n call files files') (hnm : m ≠ n)
    (hfile : files name = some ⟨m, content⟩) : files' name = some ⟨m, content⟩ := by
  rcases h name with hsame | ⟨-, _, -, -, hgrow, -⟩
  · rwa [hsame]
  · exact absurd (hgrow _ hfile).1 hnm

theorem own_of_changes (h : Changes n call files files') (hnm : m ≠ n)
    (hown : Own files m running) : Own files' m running := by
  have hfile {name : FileName} {content : List Char} :
      files name = some ⟨m, content⟩ → files' name = some ⟨m, content⟩ :=
    file_of_changes h hnm
  have hread {name : FileName} {payload : List (String × Json)} :
      readJson runtime (files name) = some payload →
        readJson runtime (files' name) = some payload :=
    readJson_of_changes h
  obtain ⟨other, point⟩ := running
  cases other with
  | begin =>
      cases point with
      | writing => exact hfile hown
      | syncing => exact hfile hown
      | returned result =>
          cases result with
          | began =>
              obtain ⟨content, hcontent⟩ := hown
              exact ⟨content, hfile hcontent⟩
          | _ => exact hown
      | _ => exact hown
  | complete =>
      cases point with
      | syncingEvidence => exact hfile hown
      | creating => exact hfile hown
      | writing => exact ⟨hfile hown.1, hfile hown.2⟩
      | syncing => exact hfile hown
      | returned result => cases result <;> exact hown
      | _ => exact hown
  | recordFailure =>
      cases point with
      | writing => exact hfile hown
      | returned result => cases result <;> exact hown
      | _ => exact hown
  | loadCompleted =>
      cases point with
      | loadingPassed => exact hread hown
      | loadingEvidence => exact ⟨hread hown.1, hread hown.2⟩
      | returned result =>
          cases result with
          | loaded evidence =>
              cases evidence with
              | none => exact hown
              | some evidence =>
                  obtain ⟨started, passed, payload, hstarted, hpassed, hpayload, hok⟩ := hown
                  exact ⟨started, passed, payload, hread hstarted, hread hpassed,
                    hread hpayload, hok⟩
          | _ => exact hown
      | _ => exact hown

/-- The files have been made by calls of the run, and the calls own what they have made. -/
structure Kept (w : CallWorld Files (Running runtime)) : Prop where
  made : ∀ name f, w.shared name = some f → ∃ t, w.threads[f.creator]? = some t ∧
    t.point.call.Makes name ∧ f.content <+: t.point.call.textFor name
  own : ∀ n t, w.threads[n]? = some t → Own w.shared n t.point
  bound : ∀ f, w.shared .passed = some f →
    ∃ evidence, w.shared .evidence = some ⟨f.creator, evidence⟩

theorem kept_start : Kept (⟨fun _ => none, []⟩ : CallWorld Files (Running runtime)) where
  made _ _ h := by simp at h
  own _ _ h := by simp at h
  bound _ h := by simp at h

theorem bound_of_changes (h : Changes n call files files') (hbound : ∀ f, files .passed = some f →
      ∃ evidence, files .evidence = some ⟨f.creator, evidence⟩) :
    ∀ f, files' .passed = some f → ∃ evidence, files' .evidence = some ⟨f.creator, evidence⟩ := by
  -- the evidence keeps its creator
  have hkeep : ∀ {m content}, files .evidence = some ⟨m, content⟩ →
      ∃ evidence, files' .evidence = some ⟨m, evidence⟩ := by
    intro m content hcontent
    rcases h .evidence with hsame | ⟨-, content', -, hfile, hgrow, -⟩
    · exact ⟨content, hsame.trans hcontent⟩
    · obtain rfl : m = n := (hgrow _ hcontent).1
      exact ⟨content', hfile⟩
  intro f hf
  rcases h .passed with hsame | ⟨-, content, -, hfile, -, hevidence⟩
  · obtain ⟨evidence, hthere⟩ := hbound f (hsame.symm.trans hf)
    exact hkeep hthere
  · obtain rfl := Option.some.inj (hf.symm.trans hfile)
    obtain ⟨evidence, hthere⟩ := hevidence rfl
    exact hkeep hthere

variable {w : CallWorld Files (Running runtime)}

theorem kept_step (hw : Kept w)
    (e : CallEvent (Call runtime) Fate) : Kept ((store runtime).step w e) := by
  have hsteps := CallProgram.step_steps (P := store runtime) w e
  generalize (store runtime).step w e = w' at hsteps ⊢
  cases hsteps with
  | idle => exact hw
  | entered call =>
      refine ⟨fun name f hf => ?_, fun n t ht => ?_, hw.bound⟩
      · obtain ⟨t, ht, hmade⟩ := hw.made name f hf
        exact ⟨t, (List.getElem?_append_left (List.getElem?_eq_some_iff.mp ht).1).trans ht, hmade⟩
      · rcases CallProgram.threads_of_enter ht with ht | ⟨-, rfl⟩
        · exact hw.own n t ht
        · exact own_enter w.shared n call
  | @moved k running fate hat =>
      have hown := hw.own k _ hat
      have hchanges : Changes k running.call w.shared (move k fate running w.shared).2 :=
        move_changes hown
      have hlt := (List.getElem?_eq_some_iff.mp hat).1
      have hcall : (move k fate running w.shared).1.call = running.call := by
        cases fate with
        | writes count => cases h : running.point <;> simp [move, h]
        | _ => rfl
      refine ⟨fun name f hf => ?_, fun n t ht => ?_, bound_of_changes hchanges hw.bound⟩
      · rcases hchanges name with hsame | ⟨hmakes, content, htext, hfile, -, -⟩
        · obtain ⟨t, ht, hmade⟩ := hw.made name f (hsame.symm.trans hf)
          by_cases hk : f.creator = k
          · rw [hk] at ht ⊢
            obtain rfl := Option.some.inj (hat.symm.trans ht)
            refine ⟨_, List.getElem?_set_self hlt, ?_⟩
            rwa [show (store runtime).move k fate running w.shared =
              move k fate running w.shared from rfl, hcall]
          · exact ⟨t, (List.getElem?_set_ne (Ne.symm hk)).trans ht, hmade⟩
        · obtain rfl := Option.some.inj (hf.symm.trans hfile)
          refine ⟨_, List.getElem?_set_self hlt, ?_⟩
          rw [show (store runtime).move k fate running w.shared =
            move k fate running w.shared from rfl, hcall]
          exact ⟨hmakes, htext⟩
      · rcases CallProgram.threads_of_set ht with ⟨rfl, rfl⟩ | ⟨hn, ht⟩
        · exact own_move hown
        · exact own_of_changes hchanges hn (hw.own n t ht)
  | @crashed k running hat =>
      have hlt := (List.getElem?_eq_some_iff.mp hat).1
      refine ⟨fun name f hf => ?_, fun n t ht => ?_, hw.bound⟩
      · obtain ⟨t, ht, hmade⟩ := hw.made name f hf
        by_cases hk : f.creator = k
        · rw [hk] at ht ⊢
          obtain rfl := Option.some.inj (hat.symm.trans ht)
          exact ⟨_, List.getElem?_set_self hlt, hmade⟩
        · exact ⟨t, (List.getElem?_set_ne (Ne.symm hk)).trans ht, hmade⟩
      · rcases CallProgram.threads_of_set ht with ⟨rfl, rfl⟩ | ⟨-, ht⟩
        · have hown := hw.own n ⟨running, false⟩ hat
          exact hown
        · exact hw.own n t ht

theorem kept_after (events : List (CallEvent (Call runtime) Fate)) :
    Kept (runFrom runtime events) := by
  have hmeets : Library.MeetsAlong (store runtime).step (fun _ _ => True) ⟨fun _ => none, []⟩
      events := Library.meetsAlong_always fun _ _ => trivial
  exact Library.invariant_after (I := Kept) (fun _ e hw _ => kept_step hw e) kept_start hmeets

def Returned (w : CallWorld Files (Running runtime)) (n : Nat) (result : Result runtime) : Prop :=
  ∃ t, w.threads[n]? = some t ∧ t.point.point = .returned result

/-- The call with a number has created a file and written its whole payload into it. -/
def Wrote (w : CallWorld Files (Running runtime)) (n : Nat) (call : Call runtime)
    (name : FileName) : Prop :=
  ∃ t f, w.threads[n]? = some t ∧ t.point.call = call ∧ w.shared name = some f ∧
    f.creator = n ∧ dumps runtime.floats (.object (call.payloadFor name)) <+: f.content

theorem wrote_of_readJson (hw : Kept w)
    (hread : readJson runtime (w.shared name) = some payload) :
    ∃ n call, call.Makes name ∧ Wrote w n call name ∧ payload = call.payloadFor name := by
  simp only [readJson, Option.bind_eq_some_iff] at hread
  obtain ⟨f, hf, v, hv, hobject⟩ := hread
  obtain ⟨t, ht, hmakes, htext⟩ := hw.made name f hf
  obtain ⟨hwhole, rfl⟩ := (loads_line htext).mp hv
  exact ⟨f.creator, t.point.call, hmakes, ⟨t, f, ht, rfl, hf, rfl, hwhole⟩,
    (Option.some.inj hobject).symm⟩

variable {evidence evidence' : BoundEvidence runtime}

theorem loadDecision_ok {reviewed generation : String}
    (h : loadDecision runtime reviewed generation started passed payload = .ok evidence) :
    decodeEvidence runtime payload = some evidence ∧
      ∃ v ∈ field? passed "started_marker_digest",
        ScalarEq v (.text ((asText (getOrNull started "artifact_digest")).getD "")) := by
  unfold loadDecision at h
  split at h
  · cases h
  · rename_i decoded hdecoded
    dsimp only at h
    split_ifs at h with hstarted hpassed hbinding
    obtain rfl := Except.ok.inj h
    refine ⟨hdecoded, ?_⟩
    obtain ⟨-, hentries⟩ := hpassed
    have hentry := hentries ("started_marker_digest",
      .text ((asText (getOrNull started "artifact_digest")).getD ""))
      (by simp [withDigest, passedPayload])
    rcases hentry with hown | hv
    · exact absurd hown (by simp)
    · exact hv

/-- **A load returns the evidence of the call that wrote it and the passed marker**, for the
started marker that a call of `begin` wrote. -/
theorem wrote_of_loaded (hw : Kept w) (h : Returned w n (.loaded (some evidence))) :
    ∃ m completedAt k reviewed generation cycle startedAt,
      let marker := Call.begin reviewed generation cycle startedAt
      let digest := runtime.canonicalDigest
        (startedPayload reviewed generation cycle (.text startedAt))
      let call := Call.complete evidence digest completedAt
      Wrote w m call .evidence ∧ Wrote w m call .passed ∧ Wrote w k marker .started := by
  obtain ⟨⟨⟨call, point⟩, crashed⟩, ht, rfl⟩ := h
  have hown := hw.own n _ ht
  cases call with
  | begin => exact absurd hown id
  | complete => exact absurd hown id
  | recordFailure => exact absurd hown id
  | loadCompleted reviewed generation =>
      obtain ⟨started, passed, payload, hstarted, hpassed, hpayload, hok⟩ := hown
      obtain ⟨hdecode, v, hv, hscalar⟩ := loadDecision_ok hok
      obtain ⟨m, writer, hmakes, hwrote, rfl⟩ := wrote_of_readJson hw hpayload
      obtain ⟨m', writer', hmakes', hwrote', rfl⟩ := wrote_of_readJson hw hpassed
      obtain ⟨k, marker, hmarker, hbegan, rfl⟩ := wrote_of_readJson hw hstarted
      -- the passed marker is of the call that linked the evidence
      obtain ⟨t', f', ht', rfl, hf', rfl, -⟩ := id hwrote'
      obtain ⟨t, f, ht, rfl, hf, rfl, -⟩ := id hwrote
      obtain ⟨content, hbound⟩ := hw.bound f' hf'
      have hsame : f.creator = f'.creator := by
        rw [hf] at hbound
        rw [Option.some.inj hbound]
      rw [hsame] at ht hwrote
      obtain rfl := Option.some.inj (ht'.symm.trans ht)
      generalize t'.point.call = writer at *
      cases writer with
      | begin => exact absurd hmakes nofun
      | recordFailure => exact absurd hmakes nofun
      | loadCompleted => exact absurd hmakes id
      | complete written digest completedAt =>
          cases marker with
          | complete => exact absurd hmarker (by simp [Call.Makes])
          | recordFailure => exact absurd hmarker nofun
          | loadCompleted => exact absurd hmarker id
          | begin markerReviewed markerGeneration cycle startedAt =>
              obtain rfl : written = evidence := by
                simpa [Call.payloadFor, decodeEvidence_fields] using hdecode
              have hdigest : digest = runtime.canonicalDigest
                  (startedPayload markerReviewed markerGeneration cycle (.text startedAt)) := by
                have hpassedField : field? (Call.payloadFor (.complete written digest completedAt)
                    .passed) "started_marker_digest" = some (.text digest) := by
                  simp [Call.payloadFor, field?, withDigest, passedPayload, List.lookup]
                obtain rfl : v = .text digest := by
                  simpa [hpassedField] using hv.symm
                simpa [ScalarEq, getOrNull, field?, Call.payloadFor, withDigest, startedPayload,
                  List.lookup, asText] using hscalar
              subst hdigest
              exact ⟨f'.creator, completedAt, k, markerReviewed, markerGeneration, cycle, startedAt,
                hwrote, hwrote', hbegan⟩

theorem began_unique (hw : Kept w) {digest digest' : String} (hn : Returned w n (.began digest))
    (hm : Returned w m (.began digest')) : n = m := by
  have hfile : ∀ {k : Nat} {d : String}, Returned w k (.began d) →
      ∃ content, w.shared .started = some ⟨k, content⟩ := by
    rintro k d ⟨⟨⟨call, point⟩, crashed⟩, ht, rfl⟩
    have hown := hw.own k _ ht
    cases call with
    | begin => exact hown
    | _ => exact absurd hown id
  obtain ⟨content, hstarted⟩ := hfile hn
  obtain ⟨content', hstarted'⟩ := hfile hm
  rw [hstarted] at hstarted'
  exact congrArg File.creator (Option.some.inj hstarted')

theorem loaded_unique (hw : Kept w) (hn : Returned w n (.loaded (some evidence)))
    (hm : Returned w m (.loaded (some evidence'))) : evidence = evidence' := by
  have hread : ∀ {k : Nat} {e : BoundEvidence runtime}, Returned w k (.loaded (some e)) →
      ∃ payload, readJson runtime (w.shared .evidence) = some payload ∧
        decodeEvidence runtime payload = some e := by
    rintro k e ⟨⟨⟨call, point⟩, crashed⟩, ht, rfl⟩
    have hown := hw.own k _ ht
    cases call with
    | loadCompleted =>
        obtain ⟨started, passed, payload, -, -, hpayload, hok⟩ := hown
        exact ⟨payload, hpayload, (loadDecision_ok hok).1⟩
    | _ => exact absurd hown id
  obtain ⟨payload, hpayload, hdecode⟩ := hread hn
  obtain ⟨payload', hpayload', hdecode'⟩ := hread hm
  rw [hpayload] at hpayload'
  obtain rfl := Option.some.inj hpayload'
  exact Option.some.inj (hdecode.symm.trans hdecode')

def PastFailure : Point runtime → Prop
  | .lookingFiles _ => True
  | .loadingStarted => True
  | .loadingPassed _ => True
  | .loadingEvidence _ _ => True
  | .returned (.loaded (some _)) => True
  | _ => False

def FailureSeen (first : Nat) (w : CallWorld Files (Running runtime)) : Prop :=
  (w.shared .failed).isSome = true ∧
    ∀ n t, first ≤ n → w.threads[n]? = some t → ¬ PastFailure t.point.point

theorem not_pastFailure_refuse (call : Call runtime) (error : String) :
    ¬ PastFailure (call.refuse error) := by
  cases call <;> exact id

theorem not_pastFailure_success (call : Call runtime) :
    ¬ PastFailure (.returned call.success) := by
  cases call <;> exact id

theorem not_pastFailure_failure (call : Call runtime) {point : Point runtime}
    (h : ¬ PastFailure point) : ¬ PastFailure (failure call point) := by
  cases point with
  | lookingFiles => exact absurd trivial h
  | loadingStarted => exact absurd trivial h
  | loadingPassed => exact absurd trivial h
  | loadingEvidence => exact absurd trivial h
  | returned result => exact h
  | readingStarted => exact not_pastFailure_refuse call _
  | linking => exact not_pastFailure_refuse call _
  | syncingEvidence => exact not_pastFailure_refuse call _
  | creating => exact not_pastFailure_refuse call _
  | writing => exact not_pastFailure_refuse call _
  | syncing => exact not_pastFailure_refuse call _
  | _ => exact id

theorem not_pastFailure_act (hfailed : (files .failed).isSome = true) (n : Nat)
    (call : Call runtime) {point : Point runtime} (h : ¬ PastFailure point) :
    ¬ PastFailure (act n call point files).1 := by
  have hrefuse := not_pastFailure_refuse call
  cases point with
  | lookingFiles => exact absurd trivial h
  | loadingStarted => exact absurd trivial h
  | loadingPassed => exact absurd trivial h
  | loadingEvidence => exact absurd trivial h
  | returned result => exact h
  | readingStarted =>
      simp only [act]
      split
      · split_ifs
        · exact id
        · exact hrefuse _
      · exact hrefuse _
  | lookingFailed =>
      simp only [act, hfailed, if_true]
      exact hrefuse _
  | lookingPassed =>
      simp only [act]
      split_ifs
      · exact hrefuse _
      · exact id
  | lookingEvidence =>
      simp only [act]
      split_ifs
      · exact hrefuse _
      · exact id
  | linking =>
      simp only [act]
      split_ifs
      · exact hrefuse _
      · exact id
  | creating =>
      simp only [act]
      split_ifs
      · exact hrefuse _
      · exact id
  | syncing => exact not_pastFailure_success call
  | lookingAny rest =>
      cases rest with
      | nil => exact id
      | cons name rest => simp only [act]; split_ifs <;> exact id
  | lookingFailure =>
      simp only [act, hfailed, if_true]
      exact id
  | _ => exact id

theorem pastFailure_move (hfailed : (files .failed).isSome = true)
    (h : ¬ PastFailure running.point) : ¬ PastFailure (move n fate running files).1.point := by
  cases fate with
  | succeeds => exact not_pastFailure_act hfailed n running.call h
  | fails => exact not_pastFailure_failure running.call h
  | failsBehind => exact not_pastFailure_failure running.call h
  | writes count =>
      obtain ⟨call, point⟩ := running
      cases point with
      | writing written => exact id
      | _ => exact h

theorem isSome_of_changes
    (h : Changes n call files files') (hthere : (files name).isSome = true) :
    (files' name).isSome = true := by
  rcases h name with hsame | ⟨-, content, -, hfile, -, -⟩
  · rwa [hsame]
  · simp [hfile]

theorem failureSeen_step (hw : Kept w)
    (h : FailureSeen first w) (e : CallEvent (Call runtime) Fate) :
    FailureSeen first ((store runtime).step w e) := by
  obtain ⟨hfailed, hseen⟩ := h
  have hsteps := CallProgram.step_steps (P := store runtime) w e
  generalize (store runtime).step w e = w' at hsteps ⊢
  cases hsteps with
  | idle => exact ⟨hfailed, hseen⟩
  | entered call =>
      refine ⟨hfailed, fun n t hn ht => ?_⟩
      rcases CallProgram.threads_of_enter ht with ht | ⟨-, rfl⟩
      · exact hseen n t hn ht
      · cases call <;> exact id
  | @moved k running fate hat =>
      refine ⟨isSome_of_changes (move_changes (hw.own k _ hat)) hfailed, fun n t hn ht => ?_⟩
      rcases CallProgram.threads_of_set ht with ⟨rfl, rfl⟩ | ⟨-, ht⟩
      · exact pastFailure_move hfailed (hseen n _ hn hat)
      · exact hseen n t hn ht
  | @crashed k running hat =>
      refine ⟨hfailed, fun n t hn ht => ?_⟩
      rcases CallProgram.threads_of_set ht with ⟨rfl, rfl⟩ | ⟨-, ht⟩
      · have hnot := hseen n _ hn hat
        exact hnot
      · exact hseen n t hn ht

theorem failureSeen_after (hw : Kept w)
    (h : FailureSeen first w) (events : List (CallEvent (Call runtime) Fate)) :
    FailureSeen first (after (store runtime).step w events) := by
  induction events generalizing w with
  | nil => exact h
  | cons e events ih => exact ih (kept_step hw e) (failureSeen_step hw h e)

end Once

/-- **An account snapshot is produced once and read back exactly.** -/
theorem snapshot_produced_once (runtime : Runtime)
    (events : List (CallEvent (Call runtime) Fate)) :
    (∀ n m digest digest', Returned (runFrom runtime events) n (.began digest) →
      Returned (runFrom runtime events) m (.began digest') → n = m) ∧
    (∀ n evidence, Returned (runFrom runtime events) n (.loaded (some evidence)) →
      ∃ m completedAt k reviewed generation cycle startedAt,
        let marker := Call.begin reviewed generation cycle startedAt
        let digest := runtime.canonicalDigest
          (startedPayload reviewed generation cycle (.text startedAt))
        let call := Call.complete evidence digest completedAt
        Wrote (runFrom runtime events) m call .evidence ∧
          Wrote (runFrom runtime events) m call .passed ∧
          Wrote (runFrom runtime events) k marker .started) ∧
    (∀ n m evidence evidence', Returned (runFrom runtime events) n (.loaded (some evidence)) →
      Returned (runFrom runtime events) m (.loaded (some evidence')) → evidence = evidence') ∧
    (∀ before later, events = before ++ later →
      ((runFrom runtime before).shared .failed).isSome = true →
      ∀ n evidence, (runFrom runtime before).threads.length ≤ n →
        ¬ Returned (runFrom runtime events) n (.loaded (some evidence))) := by
  have hw := kept_after events
  refine ⟨fun n m _ _ hn hm => began_unique hw hn hm, fun n _ hn => wrote_of_loaded hw hn,
    fun n m _ _ hn hm => loaded_unique hw hn hm, ?_⟩
  rintro before later rfl hfailed n evidence hn ⟨t, ht, hpoint⟩
  have hseen : FailureSeen (runFrom runtime before).threads.length (runFrom runtime before) := by
    refine ⟨hfailed, fun k u hk hu => ?_⟩
    exact absurd (List.getElem?_eq_some_iff.mp hu).1 (by omega)
  have hlater := failureSeen_after (kept_after before) hseen later
  rw [runFrom, Library.after_append] at ht
  exact hlater.2 n t hn ht (by rw [hpoint]; trivial)

end FxStrategyLab.Snapshot
