import FxStrategyLab.Contracts

/-!
# The heartbeat chain of the unattended supervisor

The store keeps two times: when continuity started and the latest beat.  A beat after a gap
larger than the policy allows starts a new chain, a beat behind the latest one is refused, and
a save that fails leaves the file as it was.

**Results.** `summarised_beat` for one beat, `summarised_after` for a history, and
`healthy_iff`.
-/

namespace FxStrategyLab.HeartbeatChain

/-- Source `V4HeartbeatChainPolicy`; the fields carry the constructor's checks. -/
structure V4HeartbeatChainPolicy where
  policyLabel : String
  maximumGapSeconds : Int
  minimumContinuousSeconds : Int
  gap_pos : 0 < maximumGapSeconds
  consistent : maximumGapSeconds < minimumContinuousSeconds

/-- The two times of the file. -/
structure StoredChain where
  chainStartedUtc : Instant
  lastHeartbeatUtc : Instant

/-- The labels of the exceptions of a beat. -/
inductive V4UnattendedLiveHeartbeatError
  | timeBackwards
  | saveFailed

/-- Source `reason_safe_label`. -/
inductive ChainReason
  | missing
  | fromFuture
  | stale
  | continuityInsufficient
  | continuouslyHealthy

/-- Source `V4HeartbeatChainAssessment`; durations are in microseconds. -/
structure V4HeartbeatChainAssessment where
  continuouslyHealthy : Bool
  reason : ChainReason
  continuous : Option Int
  heartbeatAge : Option Int

/-- A call of `beat`: its clock, and whether its file reaches the rename. -/
structure BeatCall where
  nowUtc : Instant
  saves : Bool

section Store

variable (policy : V4HeartbeatChainPolicy)

def V4HeartbeatChainPolicy.maximumGap : Int :=
  wallSeconds policy.maximumGapSeconds

def chainStarted (file : Option StoredChain) (now : Instant) : Instant :=
  match file with
  | some previous =>
      if now - previous.lastHeartbeatUtc ≤ policy.maximumGap then previous.chainStartedUtc
      else now
  | none => now

/-- Source `V4HeartbeatChainStore.beat`: the file that the call writes. -/
def beat (file : Option StoredChain) (call : BeatCall) :
    Except V4UnattendedLiveHeartbeatError StoredChain :=
  if ∃ previous ∈ file, call.nowUtc < previous.lastHeartbeatUtc then .error .timeBackwards
  else if call.saves then .ok ⟨chainStarted policy file call.nowUtc, call.nowUtc⟩
  else .error .saveFailed

def fileAfter (file : Option StoredChain) (call : BeatCall) : Option StoredChain :=
  match beat policy file call with
  | .ok chain => some chain
  | .error _ => file

def assess (file : Option StoredChain) (now : Instant) : V4HeartbeatChainAssessment :=
  match file with
  | none => ⟨false, .missing, none, none⟩
  | some chain =>
      let age := now - chain.lastHeartbeatUtc
      let continuous := now - chain.chainStartedUtc
      if age < 0 then ⟨false, .fromFuture, none, some age⟩
      else if policy.maximumGap < age then ⟨false, .stale, none, some age⟩
      else if continuous < wallSeconds policy.minimumContinuousSeconds then
        ⟨false, .continuityInsufficient, some continuous, some age⟩
      else ⟨true, .continuouslyHealthy, some continuous, some age⟩

def fileAfterCalls (calls : List BeatCall) : Option StoredChain :=
  calls.foldl (fileAfter policy) none

/-- The times of the calls that return, one after another. -/
def successesFrom (file : Option StoredChain) : List BeatCall → List Instant
  | [] => []
  | call :: calls =>
      match beat policy file call with
      | .ok chain => call.nowUtc :: successesFrom (some chain) calls
      | .error _ => successesFrom file calls

def successfulBeats (calls : List BeatCall) : List Instant :=
  successesFrom policy none calls

def Follows (earlier later : Instant) : Prop :=
  earlier ≤ later ∧ later - earlier ≤ policy.maximumGap

/-- There are beats, the last one being the latest of all, each following the one before it
within the largest gap, the first at least as long ago as continuity takes, and the last one
not longer ago than a gap. -/
def ContinuousAt (beats : List Instant) (now : Instant) : Prop :=
  ∃ (first : Instant) (rest : List Instant) (last : Instant),
    (∀ time ∈ first :: rest, time ∈ beats) ∧
      (first :: rest).getLast? = some last ∧ beats.getLast? = some last ∧
      (first :: rest).IsChain (Follows policy) ∧
      first ≤ now - wallSeconds policy.minimumContinuousSeconds ∧ last ≤ now ∧
      now - last ≤ policy.maximumGap

/-- The two times of a file summarise the beats: the current run starts and ends with them,
and every earlier beat lies more than a gap in front of it. -/
def Summarised (file : Option StoredChain) (beats : List Instant) : Prop :=
  match file with
  | none => beats = []
  | some chain =>
      ∃ earlier run, beats = earlier ++ run ∧ run.head? = some chain.chainStartedUtc ∧
        run.getLast? = some chain.lastHeartbeatUtc ∧ run.IsChain (Follows policy) ∧
        ∀ time ∈ earlier, time + policy.maximumGap < chain.chainStartedUtc

end Store

section Histories

variable {policy : V4HeartbeatChainPolicy}

theorem maximumGap_pos (policy : V4HeartbeatChainPolicy) : 0 < policy.maximumGap := by
  have hgap := policy.gap_pos
  simp [V4HeartbeatChainPolicy.maximumGap, wallSeconds]
  omega

variable {rest beats earlier run : List Instant} {first started now : Instant}

theorem head_le_of_isChain
    (h : (first :: rest).IsChain (Follows policy)) : ∀ time ∈ first :: rest, first ≤ time := by
  induction rest generalizing first with
  | nil =>
      intro time hmem
      simp at hmem
      exact hmem.ge
  | cons second rest ih =>
      obtain ⟨hfollows, hrest⟩ := List.isChain_cons_cons.mp h
      intro time hmem
      rcases List.mem_cons.mp hmem with rfl | hlater
      · exact le_rfl
      · exact hfollows.1.trans (ih hrest time hlater)

variable {chain : StoredChain}

theorem Summarised.le_last (h : Summarised policy (some chain) beats) :
    chain.chainStartedUtc ≤ chain.lastHeartbeatUtc ∧
      ∀ time ∈ beats, time ≤ chain.lastHeartbeatUtc := by
  obtain ⟨earlier, run, rfl, hhead, hlast, hchain, hbefore⟩ := h
  obtain ⟨rest, rfl⟩ := List.head?_eq_some_iff.mp hhead
  have hstart := head_le_of_isChain hchain
  have hstarted := hstart _ (List.mem_of_getLast? hlast)
  have hend : ∀ time ∈ chain.chainStartedUtc :: rest, time ≤ chain.lastHeartbeatUtc := by
    obtain ⟨front, hfront⟩ := List.getLast?_eq_some_iff.mp hlast
    have hsorted : (chain.chainStartedUtc :: rest).Pairwise (· ≤ ·) :=
      List.isChain_iff_pairwise.mp (hchain.imp fun _ _ hfollows => hfollows.1)
    rw [hfront] at hsorted ⊢
    intro time hmem
    rcases List.mem_append.mp hmem with hmem | hmem
    · exact (List.pairwise_append.mp hsorted).2.2 time hmem _ (List.mem_singleton_self _)
    · exact (List.mem_singleton.mp hmem).le
  refine ⟨hstarted, ?_⟩
  intro time hmem
  rcases List.mem_append.mp hmem with hmem | hmem
  · have hlong := hbefore time hmem
    have hgap := maximumGap_pos policy
    linarith
  · exact hend time hmem

/-- **A beat that returns keeps the summary.** -/
theorem summarised_beat {file : Option StoredChain}
    (h : Summarised policy file beats) {call : BeatCall}
    (hbeat : beat policy file call = .ok chain) :
    Summarised policy (some chain) (beats ++ [call.nowUtc]) := by
  unfold beat at hbeat
  split_ifs at hbeat with hbackwards hsaves
  cases hbeat
  cases file with
  | none =>
      obtain rfl : beats = [] := h
      exact ⟨[], [call.nowUtc], rfl, rfl, rfl, List.isChain_singleton _, by simp⟩
  | some previous =>
      have hforwards : previous.lastHeartbeatUtc ≤ call.nowUtc := by
        simpa using hbackwards
      have hlatest := h.le_last
      obtain ⟨earlier, run, rfl, hhead, hlast, hchain, hbefore⟩ := h
      by_cases hgap : call.nowUtc - previous.lastHeartbeatUtc ≤ policy.maximumGap
      · -- the chain goes on
        refine ⟨earlier, run ++ [call.nowUtc], List.append_assoc _ _ _, ?_, by simp, ?_, ?_⟩
        · simp [chainStarted, hgap, List.head?_append, hhead]
        · refine List.isChain_append.mpr ⟨hchain, List.isChain_singleton _, ?_⟩
          intro last hlast' next hnext
          rw [hlast] at hlast'
          cases hlast'
          cases hnext
          exact ⟨hforwards, hgap⟩
        · simpa [chainStarted, hgap] using hbefore
      · -- a new chain starts
        refine ⟨earlier ++ run, [call.nowUtc], rfl, ?_, rfl, List.isChain_singleton _, ?_⟩
        · simp [chainStarted, hgap]
        · intro time hmem
          have hle := hlatest.2 time hmem
          simp only [chainStarted, hgap, if_false]
          linarith [not_le.mp hgap]

/-- **The file summarises the successful beats of every history.** -/
theorem summarised_after {file : Option StoredChain}
    (h : Summarised policy file beats) (calls : List BeatCall) :
    Summarised policy (calls.foldl (fileAfter policy) file)
      (beats ++ successesFrom policy file calls) := by
  induction calls generalizing file beats with
  | nil => simpa [successesFrom] using h
  | cons call calls ih =>
      rcases hbeat : beat policy file call with e | chain
      · have hfile : fileAfter policy file call = file := by
          simp [fileAfter, hbeat]
        simpa [successesFrom, hbeat, hfile] using ih h
      · have hfile : fileAfter policy file call = some chain := by
          simp [fileAfter, hbeat]
        have hlater := ih (summarised_beat h hbeat)
        simpa [successesFrom, hbeat, hfile] using hlater

theorem chain_stays_earlier (hbefore : ∀ time ∈ earlier, time + policy.maximumGap < started)
    (hrun : ∀ time ∈ run, started ≤ time) (hmem : ∀ time ∈ first :: rest, time ∈ earlier ++ run)
    (hchain : (first :: rest).IsChain (Follows policy)) (hfirst : first < started) :
    ∀ time ∈ first :: rest, time < started := by
  induction rest generalizing first with
  | nil =>
      intro time htime
      simp at htime
      exact htime ▸ hfirst
  | cons second rest ih =>
      obtain ⟨hfollows, hrest⟩ := List.isChain_cons_cons.mp hchain
      have hbehind : first + policy.maximumGap < started := by
        rcases List.mem_append.mp (hmem first List.mem_cons_self) with hin | hin
        · exact hbefore first hin
        · exact absurd (hrun first hin) (not_le.mpr hfirst)
      have hsecond : second < started := by
        have hgap := hfollows.2
        linarith
      intro time htime
      rcases List.mem_cons.mp htime with rfl | hlater
      · exact hfirst
      · exact ih (fun t ht => hmem t (List.mem_cons_of_mem _ ht)) hrest hsecond time hlater

theorem assess_healthy_iff :
    (assess policy (some chain) now).continuouslyHealthy = true ↔
      chain.lastHeartbeatUtc ≤ now ∧ now - chain.lastHeartbeatUtc ≤ policy.maximumGap ∧
        chain.chainStartedUtc ≤ now - wallSeconds policy.minimumContinuousSeconds := by
  unfold assess
  dsimp only
  split_ifs with hfuture hstale hshort
  · exact iff_of_false (by simp) fun h => by linarith [h.1]
  · exact iff_of_false (by simp) fun h => by linarith [h.2.1]
  · exact iff_of_false (by simp) fun h => by linarith [h.2.2]
  · exact iff_of_true rfl ⟨by linarith, by linarith, by linarith⟩

end Histories

/-- **The supervisor is continuously healthy exactly when beats without a larger gap lead from
far enough back up to the last one, which is recent.** -/
theorem healthy_iff (policy : V4HeartbeatChainPolicy) (calls : List BeatCall) (now : Instant) :
    (assess policy (fileAfterCalls policy calls) now).continuouslyHealthy = true ↔
      ContinuousAt policy (successfulBeats policy calls) now := by
  have hsummary : Summarised policy (fileAfterCalls policy calls)
      (successfulBeats policy calls) := by
    have hnew : Summarised policy none [] := rfl
    simpa [fileAfterCalls, successfulBeats] using summarised_after hnew calls
  rcases hfile : fileAfterCalls policy calls with _ | chain
  · rw [hfile] at hsummary
    have hnone : successfulBeats policy calls = [] := hsummary
    refine iff_of_false (by simp [assess]) ?_
    rintro ⟨first, rest, last, -, -, hlast, -⟩
    simp [hnone] at hlast
  · rw [hfile] at hsummary
    have hordered := hsummary.le_last.1
    obtain ⟨earlier, run, hbeats, hhead, hlast, hchain, hbefore⟩ := hsummary
    obtain ⟨rest, rfl⟩ := List.head?_eq_some_iff.mp hhead
    have hend : (successfulBeats policy calls).getLast? = some chain.lastHeartbeatUtc := by
      rw [hbeats, List.getLast?_append, hlast]
      rfl
    rw [assess_healthy_iff]
    constructor
    · rintro ⟨hpast, hrecent, hlong⟩
      refine ⟨chain.chainStartedUtc, rest, chain.lastHeartbeatUtc, ?_, hlast, hend, hchain,
        hlong, hpast, hrecent⟩
      intro time hmem
      rw [hbeats]
      exact List.mem_append_right _ hmem
    · rintro ⟨first, later, last, hmem, hlast', hend', hfollows, hlong, hpast, hrecent⟩
      obtain rfl : chain.lastHeartbeatUtc = last := Option.some.inj (hend.symm.trans hend')
      refine ⟨hpast, hrecent, ?_⟩
      by_contra hshort
      -- the first beat lies in front of the run, so the last one does as well
      rw [hbeats] at hmem
      have hfirst : first < chain.chainStartedUtc := lt_of_le_of_lt hlong (not_le.mp hshort)
      have hstays := chain_stays_earlier hbefore (head_le_of_isChain hchain) hmem hfollows hfirst
      exact absurd (hstays _ (List.mem_of_getLast? hlast')) (not_lt.mpr hordered)

end FxStrategyLab.HeartbeatChain
