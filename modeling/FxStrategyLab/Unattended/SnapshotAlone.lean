import FxStrategyLab.Unattended.SnapshotOnce

/-!
# A call of the snapshot store that runs alone

A call that no other one interrupts and whose file operations succeed is its operations one
after the other.  A load is then a function of the files, and what `begin` and `complete` have
written is loaded.

**Results.** `moves_alone`, `load_alone` and `produced_is_loaded`.
-/

namespace FxStrategyLab.Snapshot

open Library (Json CallProgram CallWorld CallEvent CallThread after)
open Library.Json (loads dumps loads_newline)

section Alone

variable {runtime : Runtime}

/-- Successful operations of a call, one after the other. -/
def acts (n : Nat) (call : Call runtime) : Nat → Point runtime × Files → Point runtime × Files
  | 0, at_ => at_
  | count + 1, at_ => acts n call count (act n call at_.1 at_.2)

variable {call : Call runtime}

theorem moves_alone {w : CallWorld Files (Running runtime)} {n : Nat}
    {point : Point runtime} (h : w.threads[n]? = some ⟨⟨call, point⟩, false⟩) (count : Nat) :
    after (store runtime).step w (List.replicate count (.move n .succeeds)) =
      { shared := (acts n call count (point, w.shared)).2
        threads := w.threads.set n ⟨⟨call, (acts n call count (point, w.shared)).1⟩, false⟩ } := by
  have hlt := (List.getElem?_eq_some_iff.mp h).1
  induction count generalizing w point with
  | zero =>
      have hset : w.threads.set n ⟨⟨call, point⟩, false⟩ = w.threads := by
        rw [← (List.getElem?_eq_some_iff.mp h).2, List.set_getElem_self]
      simp [acts, after, hset]
  | succ count ih =>
      have hstep : (store runtime).step w (.move n .succeeds) =
          { shared := (act n call point w.shared).2
            threads := w.threads.set n ⟨⟨call, (act n call point w.shared).1⟩, false⟩ } := by
        simp only [CallProgram.step, CallWorld.running?_eq_some.mpr h]
        rfl
      rw [List.replicate_succ, Library.after_cons, hstep,
        ih (List.getElem?_set_self hlt) (by simpa using hlt)]
      simp [acts]

theorem enters_alone (w : CallWorld Files (Running runtime)) (call : Call runtime) (count : Nat) :
    after (store runtime).step w
        (.enter call :: List.replicate count (.move w.threads.length .succeeds)) =
      { shared := (acts w.threads.length call count ((enter call).point, w.shared)).2
        threads := w.threads ++ [⟨⟨call,
          (acts w.threads.length call count ((enter call).point, w.shared)).1⟩, false⟩] } := by
  have hcall : (enter call).call = call := rfl
  have hentered : (store runtime).step w (.enter call) =
      { w with threads := w.threads ++ [⟨⟨call, (enter call).point⟩, false⟩] } := rfl
  rw [Library.after_cons, hentered, moves_alone List.getElem?_concat_length]
  simp

/-- Source `load_completed`, on files that stay as they are. -/
def loadCompleted (runtime : Runtime) (files : Files)
    (expectedReviewedFilesDigest expectedGenerationDigest : String) : Result runtime :=
  if ∀ name ∈ [FileName.started, .passed, .failed, .evidence], files name = none then .loaded none
  else if (files .failed).isSome = true then
    .raised "ACCOUNT_SNAPSHOT_PRODUCER_FAILED_NO_RETRY"
  else if ∃ name ∈ [FileName.started, .passed, .evidence], files name = none then
    .raised "ACCOUNT_SNAPSHOT_PRODUCER_INCOMPLETE_NO_RETRY"
  else
    match readJson runtime (files .started), readJson runtime (files .passed),
        readJson runtime (files .evidence) with
    | some started, some passed, some payload =>
        match loadDecision runtime expectedReviewedFilesDigest expectedGenerationDigest started
            passed payload with
        | .ok evidence => .loaded (some evidence)
        | .error error => .raised error
    | _, _, _ => .raised "ACCOUNT_SNAPSHOT_PRODUCER_ARTIFACT_INVALID"

theorem acts_add (n : Nat) (call : Call runtime) (count more : Nat)
    (start : Point runtime × Files) :
    acts n call (count + more) start = acts n call more (acts n call count start) := by
  induction count generalizing start with
  | zero => simp [acts]
  | succ count ih => rw [Nat.succ_add, acts, acts, ih]

def Leads (n : Nat) (call : Call runtime) (start final : Point runtime × Files) : Prop :=
  ∃ count, acts n call count start = final

theorem Leads.trans {n : Nat} {start mid final : Point runtime × Files}
    (h : Leads n call start mid) (hlater : Leads n call mid final) : Leads n call start final := by
  obtain ⟨count, rfl⟩ := h
  obtain ⟨more, rfl⟩ := hlater
  exact ⟨count + more, acts_add n call count more start⟩

theorem leads_act {n : Nat} {start final : Point runtime × Files}
    (h : act n call start.1 start.2 = final) : Leads n call start final :=
  ⟨1, h⟩

theorem leads_lookingAny (n : Nat) (call : Call runtime) (files : Files) (names : List FileName) :
    Leads n call (.lookingAny names, files)
      (if ∀ name ∈ names, files name = none then .returned (.loaded none) else .lookingFailure,
        files) := by
  induction names with
  | nil => exact leads_act (by simp [act])
  | cons name names ih =>
      by_cases hname : files name = none
      · have hfirst : Leads n call (.lookingAny (name :: names), files)
            (.lookingAny names, files) := leads_act (by simp [act, hname])
        simpa [hname] using hfirst.trans ih
      · have hthere : (files name).isSome = true := Option.isSome_iff_ne_none.mpr hname
        exact leads_act (by simp [act, hname, hthere])

theorem leads_lookingFiles (n : Nat) (call : Call runtime) (files : Files)
    (names : List FileName) :
    Leads n call (.lookingFiles names, files)
      (if ∃ name ∈ names, files name = none then
          .returned (.raised "ACCOUNT_SNAPSHOT_PRODUCER_INCOMPLETE_NO_RETRY")
        else .loadingStarted, files) := by
  induction names with
  | nil => exact leads_act (by simp [act])
  | cons name names ih =>
      by_cases hname : files name = none
      · exact leads_act (by simp [act, hname])
      · have hthere : (files name).isSome = true := Option.isSome_iff_ne_none.mpr hname
        have hfirst : Leads n call (.lookingFiles (name :: names), files)
            (.lookingFiles names, files) := leads_act (by simp [act, hthere])
        simpa [hname] using hfirst.trans ih

/-- **A load that runs alone returns what it finds in the files**, and leaves them. -/
theorem load_alone (files : Files) (n : Nat) (reviewed generation : String) :
    Leads n (.loadCompleted reviewed generation)
      ((enter (.loadCompleted reviewed generation : Call runtime)).point, files)
      (.returned (loadCompleted runtime files reviewed generation), files) := by
  have hany := leads_lookingAny n (.loadCompleted reviewed generation : Call runtime) files
    [.started, .passed, .failed, .evidence]
  have hfiles := leads_lookingFiles n (.loadCompleted reviewed generation : Call runtime) files
    [.started, .passed, .evidence]
  unfold loadCompleted
  split_ifs with hnone hfailed hmissing
  · rwa [if_pos hnone] at hany
  · rw [if_neg hnone] at hany
    exact hany.trans (leads_act (by simp [act, hfailed]))
  · rw [if_neg hnone] at hany
    rw [if_pos hmissing] at hfiles
    exact hany.trans ((leads_act (by simp [act, hfailed])).trans hfiles)
  · rw [if_neg hnone] at hany
    rw [if_neg hmissing] at hfiles
    refine hany.trans ((leads_act (by simp [act, hfailed])).trans (hfiles.trans ?_))
    cases hstarted : readJson runtime (files .started) with
    | none => exact leads_act (by simp [act, hstarted])
    | some started =>
        have hread : Leads n (.loadCompleted reviewed generation : Call runtime)
            (.loadingStarted, files) (.loadingPassed started, files) :=
          leads_act (by simp [act, hstarted])
        refine hread.trans ?_
        cases hpassed : readJson runtime (files .passed) with
        | none => exact leads_act (by simp [act, hpassed])
        | some passed =>
            have hread : Leads n (.loadCompleted reviewed generation : Call runtime)
                (.loadingPassed started, files) (.loadingEvidence started passed, files) :=
              leads_act (by simp [act, hpassed])
            refine hread.trans ?_
            cases hpayload : readJson runtime (files .evidence) with
            | none => exact leads_act (by simp [act, hpayload])
            | some payload =>
                refine leads_act ?_
                cases hdecision : loadDecision runtime reviewed generation started passed payload
                  <;> simp [act, hpayload, hdecision]

section Produced

variable (evidence : BoundEvidence runtime) (startedAtUtc completedAtUtc : String)

/-- The call of `begin` for an evidence. -/
def beginFor : Call runtime :=
  .begin evidence.fields.reviewedFilesDigest evidence.fields.generationDigest
    evidence.fields.cycleBindingDigest startedAtUtc

def startedDigest : String :=
  runtime.canonicalDigest (startedPayload evidence.fields.reviewedFilesDigest
    evidence.fields.generationDigest evidence.fields.cycleBindingDigest (.text startedAtUtc))

/-- The call of `complete` behind it. -/
def completeFor : Call runtime :=
  .complete evidence (startedDigest evidence startedAtUtc) completedAtUtc

def producedFiles : Files
  | .started => some ⟨0, (beginFor evidence startedAtUtc).textFor .started⟩
  | .passed => some ⟨1, (completeFor evidence startedAtUtc completedAtUtc).textFor .passed⟩
  | .failed => none
  | .evidence => some ⟨1, (completeFor evidence startedAtUtc completedAtUtc).textFor .evidence⟩

variable {evidence startedAtUtc completedAtUtc}

theorem readJson_written (n : Nat) (call : Call runtime) (name : FileName) :
    readJson runtime (some ⟨n, call.textFor name⟩) = some (call.payloadFor name) := by
  simp [readJson, Call.textFor, loads_newline, asObject]

theorem validStarted_written :
    ValidStarted runtime ((beginFor evidence startedAtUtc).payloadFor .started)
      evidence.fields.reviewedFilesDigest evidence.fields.generationDigest
      evidence.fields.cycleBindingDigest (.text (startedDigest evidence startedAtUtc)) := by
  simp [ValidStarted, DictEq, SameKeys, beginFor, Call.payloadFor, withDigest, startedPayload,
    getOrNull, field?, List.lookup, ScalarEq, asText, startedDigest]

/-- **What is produced is loaded.** -/
theorem loadCompleted_produced :
    loadCompleted runtime (producedFiles evidence startedAtUtc completedAtUtc)
      evidence.fields.reviewedFilesDigest evidence.fields.generationDigest =
        .loaded (some evidence) := by
  have hdigest : getOrNull ((beginFor evidence startedAtUtc).payloadFor .started)
      "artifact_digest" = .text (startedDigest evidence startedAtUtc) := by
    simp [beginFor, Call.payloadFor, withDigest, startedPayload, getOrNull, field?, List.lookup,
      startedDigest]
  have hpassed : DictEq ((completeFor evidence startedAtUtc completedAtUtc).payloadFor .passed)
      "completed_at_utc" (withDigest runtime (passedPayload evidence.fields.reviewedFilesDigest
        evidence.fields.generationDigest evidence.fields.cycleBindingDigest
        (startedDigest evidence startedAtUtc) evidence.fields.artifactDigest
        (getOrNull ((completeFor evidence startedAtUtc completedAtUtc).payloadFor .passed)
          "completed_at_utc"))) := by
    simp [DictEq, SameKeys, completeFor, Call.payloadFor, withDigest, passedPayload,
      getOrNull, field?, List.lookup, ScalarEq, number?]
  have hdecision : loadDecision runtime evidence.fields.reviewedFilesDigest
      evidence.fields.generationDigest ((beginFor evidence startedAtUtc).payloadFor .started)
      ((completeFor evidence startedAtUtc completedAtUtc).payloadFor .passed)
      ((completeFor evidence startedAtUtc completedAtUtc).payloadFor .evidence) =
        .ok evidence := by
    have hdecode : decodeEvidence runtime
        ((completeFor evidence startedAtUtc completedAtUtc).payloadFor .evidence) =
          some evidence := decodeEvidence_fields evidence
    simp [loadDecision, hdecode, hdigest, validStarted_written, asText, hpassed]
  simp [loadCompleted, producedFiles, readJson_written, hdecision]

theorem eq_of_loadCompleted_produced {reviewed generation : String}
    {loaded : BoundEvidence runtime}
    (h : loadCompleted runtime (producedFiles evidence startedAtUtc completedAtUtc) reviewed
      generation = .loaded (some loaded)) : loaded = evidence := by
  simp only [loadCompleted, producedFiles, readJson_written] at h
  split_ifs at h with hnone hfailed hmissing
  · cases h
  split at h
  · rename_i decoded hdecision
    obtain rfl : decoded = loaded := by simpa using h
    have hdecode : decodeEvidence runtime
        ((completeFor evidence startedAtUtc completedAtUtc).payloadFor .evidence) =
          some evidence := decodeEvidence_fields evidence
    exact Option.some.inj ((loadDecision_ok hdecision).1.symm.trans hdecode)
  · cases h

theorem acts_begin :
    acts 0 (beginFor evidence startedAtUtc) 4 (.openingDirectory, fun _ => none) =
      (.returned (.began (startedDigest evidence startedAtUtc)),
        Files.put (fun _ => none) .started
          ⟨0, (beginFor evidence startedAtUtc).textFor .started⟩) := by
  simp [acts, act, beginFor, Call.marker, Call.success, startedDigest, Files.put]

theorem acts_complete :
    acts 1 (completeFor evidence startedAtUtc completedAtUtc) 10 (.readingStarted,
        Files.put (fun _ => none) .started
          ⟨0, (beginFor evidence startedAtUtc).textFor .started⟩) =
      (.returned .completed, producedFiles evidence startedAtUtc completedAtUtc) := by
  have hvalid := @validStarted_written runtime evidence startedAtUtc
  have hfiles : producedFiles evidence startedAtUtc completedAtUtc =
      Files.put (Files.put (Files.put (fun _ => none) .started
          ⟨0, (beginFor evidence startedAtUtc).textFor .started⟩) .evidence
          ⟨1, (completeFor evidence startedAtUtc completedAtUtc).textFor .evidence⟩) .passed
          ⟨1, (completeFor evidence startedAtUtc completedAtUtc).textFor .passed⟩ := by
    funext name
    cases name <;> simp [producedFiles, Files.put]
  rw [hfiles]
  simp [acts, act, completeFor, Call.marker, Call.success, Files.put, readJson_written, hvalid]

end Produced

end Alone

end FxStrategyLab.Snapshot
