import FxStrategyLab.Session.Run

/-!
# The cooldown over a whole session

`evaluate` compares a candidate with the last one only, and the last one is whatever
candidate has been recorded last, also a rejected one that lies in the past.  This file
says what follows for all allowed candidates of a run.

**Results.** `allowed_bounded_and_spaced_iff`: the number of allowed candidates is bounded
in every run, and they are apart from each other exactly as long as no candidate is
admitted on a memory that has gone back behind an allowed one.
-/

namespace FxStrategyLab.Session

open Library (after MeetsAlong invariant_after)
open Library.Json (FloatText)

section Cooldown

variable (dt : Datetime) (sha : Sha256) (floats : FloatText) (setup : SessionSetup)

variable (state : SessionState)

/-- The candidates of a run that received `ALLOW_SHADOW`. -/
def SessionState.allowed : List OrderCandidate :=
  (state.decisions.filter fun entry => entry.2.status = .allowShadow).map Prod.fst

/-- The market times of two candidates are at least the cooldown apart. -/
def FarApart (policy : RiskPolicy) (c d : OrderCandidate) : Prop :=
  ∃ t u, asUtc dt c.marketDataTimestamp = .ok t ∧ asUtc dt d.marketDataTimestamp = .ok u ∧
    seconds policy.cooldownSeconds ≤ |t - u|

def Spaced : Prop :=
  state.allowed.Pairwise (FarApart dt setup.policy)

/-- The candidate that a step evaluates, with the context of its evaluation. -/
def evaluates (input : StepInput dt) :
    Option (OrderCandidate × RiskContext) :=
  match beginStep dt floats setup state input with
  | .ended _ => none
  | .next state context =>
      match signalStage dt sha floats setup state input context with
      | .ended _ => none
      | .next state candidate =>
          match candidateStage dt floats setup state input context candidate with
          | .ended _ => none
          | .next _ risk => some (candidate, risk)

/-- The last candidate lies before an allowed one. -/
def Behind (last : Option String) (candidate : OrderCandidate) : Prop :=
  ∃ text ∈ last, ∃ t u, asUtc dt text = .ok t ∧
    asUtc dt candidate.marketDataTimestamp = .ok u ∧ t < u

/-- A candidate that passes the checks is close to an allowed one that the memory of the
run has gone back behind. -/
def Forgets (candidate : OrderCandidate) (risk : RiskContext) : Prop :=
  (PassesOtherChecks dt sha candidate risk setup.policy ∧
      CooldownPassed dt setup.policy candidate state.lastCandidateTimestamp) ∧
    ∃ earlier ∈ state.allowed, Behind dt state.lastCandidateTimestamp earlier ∧
      ¬ FarApart dt setup.policy earlier candidate

/-- The step evaluates no candidate on a memory that has forgotten an allowed one. -/
def Remembers (input : StepInput dt) : Prop :=
  ∀ candidate risk, evaluates dt sha floats setup state input = some (candidate, risk) →
    ¬ Forgets dt sha setup state candidate risk

variable {dt sha floats setup}

/-- The memory of a run: its decisions, the last candidate and the number of candidates. -/
def SessionState.memory (s : SessionState) :
    List (OrderCandidate × RiskDecision) × Option String × Nat :=
  (s.decisions, s.lastCandidateTimestamp, s.candidateCount)

theorem memory_activateKillSwitch (s : SessionState) (reason : KillSwitchReason)
    (timestamp trigger : String) (log : Option DiskOutcome) :
    (activateKillSwitch dt floats setup s reason timestamp trigger log).memory = s.memory := by
  unfold activateKillSwitch
  cases log with
  | none => split <;> rfl
  | some outcome => split <;> rfl

theorem memory_stopForLog (s : SessionState) (timestamp trigger : String) :
    (stopForLog dt floats setup s timestamp trigger).memory = s.memory :=
  @memory_activateKillSwitch dt floats setup s .logWriteFailed timestamp trigger none

theorem memory_stopForFile (s : SessionState) (timestamp : String) (outcome : DiskOutcome) :
    (stopForFile dt floats setup s timestamp outcome).memory = s.memory :=
  @memory_activateKillSwitch dt floats setup s .manualStopFileExists timestamp
    "manual_stop_file_exists" (some outcome)

theorem memory_countSignal (s : SessionState) (side : SignalLabel) :
    (s.countSignal side).memory = s.memory := by
  cases side <;> rfl

variable {s s' : SessionState}

theorem memory_traderStep {signal : Signal} {ticker : Ticker}
    {event : ShadowEvent} (h : traderStep setup s signal ticker = some (s', event)) :
    s'.memory = s.memory := by
  simp only [traderStep] at h
  split at h
  · cases h
  · obtain ⟨rfl, -⟩ := Prod.mk.inj (Option.some.inj h)
    rfl

theorem memory_beginStep (s : SessionState) (input : StepInput dt) :
    (beginStep dt floats setup s input).state.memory = s.memory := by
  unfold beginStep
  split
  · rfl
  split
  · rfl
  dsimp only
  split
  · rfl
  split
  · rw [Stage.state_ended, memory_stopForFile]
    rfl
  split
  · exact (memory_countSignal _ _).trans rfl
  split
  · exact (memory_countSignal _ _).trans rfl
  · exact (memory_countSignal _ _).trans rfl

theorem memory_signalStage (s : SessionState) (input : StepInput dt) (context : StepContext) :
    (signalStage dt sha floats setup s input context).state.memory = s.memory := by
  unfold signalStage
  dsimp only
  split
  · rw [Stage.state_ended, memory_stopForLog]
    rfl
  split
  · rfl
  split <;> rfl

theorem memory_processAllowed (s : SessionState) (input : StepInput dt)
    (context : StepContext) (candidate : OrderCandidate) (decision : RiskDecision) :
    (processAllowed dt floats setup s input context candidate decision).memory =
      s.memory := by
  unfold processAllowed
  dsimp only
  split
  · rw [memory_stopForFile]
    rfl
  split
  · rfl
  split
  · rfl
  · rename_i htrader
    have htraded := memory_traderStep htrader
    split
    · exact htraded
    · rw [memory_stopForLog]
      exact htraded

variable {candidate earlier : OrderCandidate} {input : StepInput dt}

theorem candidateStage_next {context : StepContext} {risk : RiskContext}
    (h : candidateStage dt floats setup s input context candidate = .next s' risk) :
    s'.decisions = s.decisions ∧ s'.lastCandidateTimestamp = s.lastCandidateTimestamp ∧
      s'.candidateCount = s.candidateCount + 1 ∧
      risk.lastCandidateTimestamp = s.lastCandidateTimestamp ∧
      risk.candidatesInRun = s.candidateCount := by
  unfold candidateStage at h
  dsimp only at h
  split at h
  · cases h
  · cases h
    exact ⟨rfl, rfl, rfl, rfl, rfl⟩

theorem memory_candidateStage_ended {context : StepContext}
    (h : candidateStage dt floats setup s input context candidate = .ended s') :
    s'.memory = s.memory := by
  unfold candidateStage at h
  dsimp only at h
  split at h
  · cases h
    exact memory_stopForLog _ _ _
  · cases h

theorem decisionStage_memory (s : SessionState) (input : StepInput dt)
    (context : StepContext) (candidate : OrderCandidate) (risk : RiskContext) :
    (decisionStage dt sha floats setup s input context candidate risk).state.memory =
        (s.decisions ++ [(candidate, evaluate dt sha candidate risk setup.policy)],
          some candidate.marketDataTimestamp, s.candidateCount) ∨
      (decisionStage dt sha floats setup s input context candidate risk).state.memory =
          (s.decisions ++ [(candidate, evaluate dt sha candidate risk setup.policy)],
            s.lastCandidateTimestamp, s.candidateCount) ∧
        ∃ s', decisionStage dt sha floats setup s input context candidate risk = .ended s' ∧
          s'.flow = .stopped := by
  unfold decisionStage
  dsimp only
  split
  · refine Or.inr ⟨?_, _, rfl, rfl⟩
    rw [Stage.state_ended, memory_stopForLog]
    rfl
  · split
    · exact Or.inl rfl
    · exact Or.inl rfl

inductive MemoryStep (dt : Datetime) (sha : Sha256) (floats : FloatText)
    (setup : SessionSetup) (s : SessionState) (input : StepInput dt) (s' : SessionState) : Prop
  | quiet (hnone : evaluates dt sha floats setup s input = none) (hmemory : s'.memory = s.memory)
  | evaluated (candidate : OrderCandidate) (risk : RiskContext)
      (hsome : evaluates dt sha floats setup s input = some (candidate, risk))
      (hlast : risk.lastCandidateTimestamp = s.lastCandidateTimestamp)
      (hcount : risk.candidatesInRun = s.candidateCount)
      (hdecisions : s'.decisions =
        s.decisions ++ [(candidate, evaluate dt sha candidate risk setup.policy)])
      (hcounted : s'.candidateCount = s.candidateCount + 1)
      (hnext : s'.flow = .running →
        s'.lastCandidateTimestamp = some candidate.marketDataTimestamp)

/-- **Step lemma.** A step leaves the memory or evaluates one candidate on it. -/
theorem sessionStep_memory (s : SessionState) (input : StepInput dt) :
    MemoryStep dt sha floats setup s input (sessionStep dt sha floats setup s input) := by
  have hbegin := @memory_beginStep dt floats setup s input
  unfold sessionStep
  cases hstart : beginStep dt floats setup s input with
  | ended s₁ =>
      rw [hstart] at hbegin
      exact .quiet (by simp [evaluates, hstart]) hbegin
  | next s₁ context =>
      rw [hstart] at hbegin
      have hsignal := @memory_signalStage dt sha floats setup s₁ input context
      dsimp only [Stage.andThen]
      cases hstage : signalStage dt sha floats setup s₁ input context with
      | ended s₂ =>
          rw [hstage] at hsignal
          exact .quiet (by simp [evaluates, hstart, hstage]) (hsignal.trans hbegin)
      | next s₂ candidate =>
          rw [hstage] at hsignal
          have hmemory : s₂.memory = s.memory := hsignal.trans hbegin
          dsimp only
          cases hcounting : candidateStage dt floats setup s₂ input context candidate with
          | ended s₃ =>
              exact .quiet (by simp [evaluates, hstart, hstage, hcounting])
                ((memory_candidateStage_ended hcounting).trans hmemory)
          | next s₃ risk =>
              obtain ⟨hdecisions, hlast, hcount, hrisk, hin⟩ := candidateStage_next hcounting
              have hsome : evaluates dt sha floats setup s input = some (candidate, risk) := by
                simp [evaluates, hstart, hstage, hcounting]
              have hdecisions₂ : s₂.decisions = s.decisions := congrArg Prod.fst hmemory
              have hlast₂ : s₂.lastCandidateTimestamp = s.lastCandidateTimestamp :=
                congrArg (fun m => m.2.1) hmemory
              have hcount₂ : s₂.candidateCount = s.candidateCount :=
                congrArg (fun m => m.2.2) hmemory
              have hstep := @decisionStage_memory dt sha floats setup s₃ input context
                candidate risk
              rw [hdecisions, hdecisions₂, hcount, hcount₂] at hstep
              rw [hlast₂] at hrisk
              rw [hcount₂] at hin
              dsimp only
              cases hdecided : decisionStage dt sha floats setup s₃ input context candidate
                  risk with
              | ended s₄ =>
                  rw [hdecided] at hstep
                  rcases hstep with hmem | ⟨hmem, s', hs', hflow⟩
                  · exact .evaluated candidate risk hsome hrisk hin (congrArg Prod.fst hmem)
                      (congrArg (fun m => m.2.2) hmem)
                      fun _ => congrArg (fun m => m.2.1) hmem
                  · obtain rfl : s₄ = s' := Stage.ended.inj hs'
                    exact .evaluated candidate risk hsome hrisk hin (congrArg Prod.fst hmem)
                      (congrArg (fun m => m.2.2) hmem)
                      fun hrunning => absurd (hflow.symm.trans hrunning) (by decide)
              | next s₄ decision =>
                  rw [hdecided] at hstep
                  have hallowed := @memory_processAllowed dt floats setup s₄ input context
                    candidate decision
                  rcases hstep with hmem | ⟨-, s', hs', -⟩
                  · have hmem' := hallowed.trans hmem
                    exact .evaluated candidate risk hsome hrisk hin (congrArg Prod.fst hmem')
                      (congrArg (fun m => m.2.2) hmem')
                      fun _ => congrArg (fun m => m.2.1) hmem'
                  · cases hs'

/-- What holds of a run whatever its candidates are: the decisions are counted, the allowed
candidates are few and have a market time, and so has the last candidate behind them. -/
structure Accounted (dt : Datetime) (setup : SessionSetup) (s : SessionState) : Prop where
  counted : s.decisions.length = s.candidateCount
  bounded : s.allowed.length ≤ setup.policy.maxCandidatesPerRun
  reads : ∀ c ∈ s.allowed, ∃ t, asUtc dt c.marketDataTimestamp = .ok t
  last : s.flow = .running → s.allowed ≠ [] →
    ∃ text ∈ s.lastCandidateTimestamp, ∃ t, asUtc dt text = .ok t

theorem allowed_append
    {decision : RiskDecision} (h : s'.decisions = s.decisions ++ [(candidate, decision)]) :
    s'.allowed = s.allowed ++
      (if decision.status = .allowShadow then [candidate] else []) := by
  unfold SessionState.allowed
  rw [h, List.filter_append, List.map_append]
  by_cases hstatus : decision.status = .allowShadow
  · simp [hstatus]
  · simp [hstatus]

theorem evaluates_reads {risk : RiskContext}
    (h : evaluates dt sha floats setup s input = some (candidate, risk)) :
    ∃ t, asUtc dt candidate.marketDataTimestamp = .ok t := by
  unfold evaluates at h
  split at h
  · cases h
  split at h
  · cases h
  rename_i hstage
  split at h
  · cases h
  obtain ⟨rfl, -⟩ := Prod.mk.inj (Option.some.inj h)
  unfold signalStage at hstage
  dsimp only at hstage
  split at hstage
  · cases hstage
  split at hstage
  · cases hstage
  split at hstage
  · cases hstage
  · cases hstage
  · rename_i hcreated
    obtain ⟨-, rfl⟩ := Stage.next.inj hstage
    exact createOrderCandidate_reads hcreated

theorem sessionStep_of_ended (h : s.flow ≠ .running)
    (input : StepInput dt) : sessionStep dt sha floats setup s input = s := by
  simp only [sessionStep, beginStep, if_pos h, Stage.andThen]

theorem running_of_step
    (h : (sessionStep dt sha floats setup s input).flow = .running) : s.flow = .running := by
  by_contra hnot
  rw [sessionStep_of_ended hnot] at h
  exact hnot h

/-- **Step lemma.** -/
theorem sessionStep_accounted (h : Accounted dt setup s)
    (input : StepInput dt) : Accounted dt setup (sessionStep dt sha floats setup s input) := by
  rcases @sessionStep_memory dt sha floats setup s input with
    ⟨hnone, hmemory⟩ | ⟨candidate, risk, hsome, hlast, hcount, hdecisions, hcounted, hnext⟩
  · have hsame : (sessionStep dt sha floats setup s input).decisions = s.decisions :=
      congrArg Prod.fst hmemory
    have hallowed : (sessionStep dt sha floats setup s input).allowed = s.allowed := by
      unfold SessionState.allowed
      rw [hsame]
    refine ⟨?_, ?_, ?_, ?_⟩
    · rw [hsame, h.counted]
      exact (congrArg (fun m => m.2.2) hmemory).symm
    · rw [hallowed]
      exact h.bounded
    · rw [hallowed]
      exact h.reads
    · intro hflow hne
      rw [hallowed] at hne
      obtain ⟨text, htext, t, ht⟩ := h.last (running_of_step hflow) hne
      exact ⟨text, (congrArg (fun m => m.2.1) hmemory).trans htext, t, ht⟩
  · have hreads := evaluates_reads hsome
    have hallowed := allowed_append hdecisions
    refine ⟨?_, ?_, ?_, ?_⟩
    · rw [hdecisions, hcounted, List.length_append, h.counted]
      rfl
    · rw [hallowed, List.length_append]
      by_cases hallow : (evaluate dt sha candidate risk setup.policy).status = .allowShadow
      · have hbound := (evaluate_allows_iff.mp hallow).1.counted
        have hfew : s.allowed.length ≤ s.decisions.length := by
          unfold SessionState.allowed
          rw [List.length_map]
          exact List.length_filter_le _ _
        have hcounted' := h.counted
        rw [if_pos hallow, List.length_singleton]
        omega
      · rw [if_neg hallow]
        exact h.bounded
    · rw [hallowed]
      intro c hc
      rcases List.mem_append.mp hc with hc | hc
      · exact h.reads c hc
      · by_cases hallow : (evaluate dt sha candidate risk setup.policy).status = .allowShadow
        · rw [if_pos hallow] at hc
          rw [List.mem_singleton.mp hc]
          exact hreads
        · rw [if_neg hallow] at hc
          cases hc
    · intro hflow _
      exact ⟨candidate.marketDataTimestamp, hnext hflow, hreads⟩

theorem startState_accounted : Accounted dt setup (startState dt floats setup) := by
  have hempty {s : SessionState} (h : s.memory = ([], none, 0)) : Accounted dt setup s := by
    have hdecisions : s.decisions = [] := congrArg Prod.fst h
    have hallowed : s.allowed = [] := by
      unfold SessionState.allowed
      rw [hdecisions]
      rfl
    refine ⟨?_, ?_, ?_, ?_⟩
    · rw [hdecisions]
      exact (congrArg (fun m => m.2.2) h).symm
    · rw [hallowed]
      exact Nat.zero_le _
    · rw [hallowed]
      exact nofun
    · rw [hallowed]
      exact fun _ hne => absurd rfl hne
  unfold startState
  split
  · exact hempty ((memory_stopForFile _ _ _).trans rfl)
  · exact hempty rfl

/-- A candidate behind which the memory has not gone back is apart from a new one that has
waited for the cooldown. -/
theorem farApart_of_remembered {last : Option String}
    (hlast : ∃ text ∈ last, ∃ t, asUtc dt text = .ok t)
    (hearlier : ∃ t, asUtc dt earlier.marketDataTimestamp = .ok t)
    (hpassed : CooldownPassed dt setup.policy candidate last)
    (hremembered : ¬ Behind dt last earlier) : FarApart dt setup.policy earlier candidate := by
  obtain ⟨text, htext, t, ht⟩ := hlast
  obtain ⟨u, hu⟩ := hearlier
  obtain ⟨v, t', hv, ht', hcooldown⟩ := hpassed text htext
  obtain rfl : t = t' := Except.ok.inj (ht.symm.trans ht')
  have hle : u ≤ t := by
    by_contra hlt
    exact hremembered ⟨text, htext, t, u, ht, hu, not_le.mp hlt⟩
  refine ⟨u, v, hu, hv, ?_⟩
  rw [abs_sub_comm]
  exact le_abs.mpr (Or.inl (by omega))

theorem running_of_evaluates {result : OrderCandidate × RiskContext}
    (h : evaluates dt sha floats setup s input = some result) : s.flow = .running := by
  by_contra hnot
  simp [evaluates, beginStep, hnot] at h

/-- **Step lemma.** Spacing is kept by exactly the steps that remember. -/
theorem spaced_step_iff (h : Accounted dt setup s)
    (hspaced : Spaced dt setup s) (input : StepInput dt) :
    Spaced dt setup (sessionStep dt sha floats setup s input) ↔
      Remembers dt sha floats setup s input := by
  rcases @sessionStep_memory dt sha floats setup s input with
    ⟨hnone, hmemory⟩ | ⟨candidate, risk, hsome, hlast, -, hdecisions, -, -⟩
  · have hsame : (sessionStep dt sha floats setup s input).decisions = s.decisions :=
      congrArg Prod.fst hmemory
    refine iff_of_true ?_ ?_
    · unfold Spaced SessionState.allowed
      rw [hsame]
      exact hspaced
    · intro candidate risk hsome
      rw [hnone] at hsome
      cases hsome
  · have hremembers : Remembers dt sha floats setup s input ↔
        ¬ Forgets dt sha setup s candidate risk := by
      constructor
      · intro hall
        exact hall candidate risk hsome
      · intro hnot candidate' risk' hsome'
        cases hsome.symm.trans hsome'
        exact hnot
    have hpasses : (evaluate dt sha candidate risk setup.policy).status = .allowShadow ↔
        PassesOtherChecks dt sha candidate risk setup.policy ∧
          CooldownPassed dt setup.policy candidate s.lastCandidateTimestamp := by
      rw [← hlast]
      exact evaluate_allows_iff
    rw [hremembers]
    unfold Spaced
    rw [allowed_append hdecisions]
    by_cases hallow : (evaluate dt sha candidate risk setup.policy).status = .allowShadow
    · have hchecks := hpasses.mp hallow
      rw [if_pos hallow, List.pairwise_append]
      constructor
      · rintro ⟨-, -, hfar⟩ ⟨-, earlier, hearlier, -, hclose⟩
        exact hclose (hfar earlier hearlier candidate (List.mem_singleton_self _))
      · intro hnot
        refine ⟨hspaced, List.pairwise_singleton _ _, ?_⟩
        intro earlier hearlier c hc
        rw [List.mem_singleton.mp hc]
        by_cases hbehind : Behind dt s.lastCandidateTimestamp earlier
        · by_contra hclose
          exact hnot ⟨hchecks, earlier, hearlier, hbehind, hclose⟩
        · exact farApart_of_remembered
            (h.last (running_of_evaluates hsome) (List.ne_nil_of_mem hearlier))
            (h.reads earlier hearlier) hchecks.2 hbehind
    · rw [if_neg hallow, List.append_nil]
      exact iff_of_true hspaced fun hforgets => hallow (hpasses.mpr hforgets.1)

theorem not_spaced_step (h : ¬ Spaced dt setup s) (input : StepInput dt) :
    ¬ Spaced dt setup (sessionStep dt sha floats setup s input) := by
  rcases @sessionStep_memory dt sha floats setup s input with
    ⟨-, hmemory⟩ | ⟨candidate, risk, -, -, -, hdecisions, -, -⟩
  · have hsame : (sessionStep dt sha floats setup s input).decisions = s.decisions :=
      congrArg Prod.fst hmemory
    unfold Spaced SessionState.allowed
    rw [hsame]
    exact h
  · intro hspaced
    unfold Spaced at hspaced
    rw [allowed_append hdecisions, List.pairwise_append] at hspaced
    exact h hspaced.1

theorem startState_spaced : Spaced dt setup (startState dt floats setup) := by
  have hempty {s : SessionState} (h : s.memory = ([], none, 0)) : Spaced dt setup s := by
    have hdecisions : s.decisions = [] := congrArg Prod.fst h
    unfold Spaced SessionState.allowed
    rw [hdecisions]
    exact List.Pairwise.nil
  unfold startState
  split
  · exact hempty ((memory_stopForFile _ _ _).trans rfl)
  · exact hempty rfl

end Cooldown

theorem not_pairwise_of_same {policy : RiskPolicy} {dt : Datetime} {allowed : List OrderCandidate}
    {text : String} (hpositive : 0 < seconds policy.cooldownSeconds)
    (hsame : allowed.map OrderCandidate.marketDataTimestamp = [text, text]) :
    ¬ allowed.Pairwise (FarApart dt policy) := by
  intro hpairwise
  have hlength : allowed.length = 2 := by
    simpa using congrArg List.length hsame
  obtain ⟨c, d, rfl⟩ := List.length_eq_two.mp hlength
  simp only [List.map_cons, List.map_nil, List.cons.injEq, and_true] at hsame
  obtain ⟨hc, hd⟩ := hsame
  obtain ⟨t, u, ht, hu, hfar⟩ := List.pairwise_pair.mp hpairwise
  rw [hc] at ht
  rw [hd] at hu
  have htu : t = u := Except.ok.inj (ht.symm.trans hu)
  rw [htu, sub_self, abs_zero] at hfar
  exact absurd hfar (not_le.mpr hpositive)

namespace Sample

open Library.Json (integerWord readInteger readNatural)

def instant (second : Int) : Int := 1000000 * (1767225600 + second)

def isoTexts : List (Int × String) :=
  [(instant 0, "2026-01-01T00:00:00.000000"), (instant 60, "2026-01-01T00:01:00.000000"),
    (instant 100, "2026-01-01T00:01:40.000000")]

def otherText (t : Int) : String :=
  String.ofList ('@' :: integerWord t)

def isoformat (t : Int) : String :=
  ((isoTexts.find? fun e => e.1 = t).map Prod.snd).getD (otherText t)

def readOther (text : String) : Except PyError (Int × Bool) :=
  match text.toList with
  | '@' :: rest =>
      match readInteger (rest.take (rest.length - 6)) with
      | some t => .ok (t, true)
      | none => .error .valueError
  | _ => .error .valueError

def fromisoformat (text : String) : Except PyError (Int × Bool) :=
  match isoTexts.find? fun e => e.2 ++ "+00:00" = text with
  | some e => .ok (e.1, true)
  | none => readOther text

theorem isDigit_ascii {c : Char} (h : c.isDigit = true ∨ c = '-') :
    33 ≤ c.toNat ∧ c.toNat < 127 := by
  rcases h with h | rfl
  · simp only [Char.isDigit, Bool.and_eq_true, decide_eq_true_eq] at h
    have hlow : 48 ≤ c.val.toNat := h.1
    have hhigh : c.val.toNat ≤ 57 := h.2
    have hval : c.toNat = c.val.toNat := rfl
    omega
  · decide

theorem fromisoformat_other (t : Int) :
    fromisoformat (otherText t ++ "+00:00") = .ok (t, true) := by
  have hchars : (otherText t ++ "+00:00").toList =
      '@' :: (integerWord t ++ "+00:00".toList) := by
    simp [otherText]
  have hother : isoTexts.find? (fun e => e.2 ++ "+00:00" = otherText t ++ "+00:00") = none := by
    rw [List.find?_eq_none]
    intro e he hsame
    have hhead : ∀ e ∈ isoTexts, (e.2 ++ "+00:00").toList.head? = some '2' := by
      decide +kernel
    have htext := congrArg (fun text : String => text.toList.head?) (of_decide_eq_true hsame)
    simp only [hchars, hhead e he, List.head?_cons] at htext
    exact absurd htext (by decide)
  have hoffset : ("+00:00".toList).length = 6 := rfl
  unfold fromisoformat
  rw [hother]
  simp only [readOther, hchars, List.length_append, hoffset, Nat.add_sub_cancel,
    List.take_left, Library.Json.readInteger_integerWord]

/-- Python's `datetime` as far as the samples go. -/
def datetime : Datetime where
  fromisoformat := fromisoformat
  isoformat := isoformat
  fromisoformat_isoformat t := by
    have hall : ∀ e ∈ isoTexts, fromisoformat (e.2 ++ "+00:00") = .ok (e.1, true) := by
      decide +kernel
    unfold isoformat
    cases hfind : isoTexts.find? fun e => e.1 = t with
    | none => exact fromisoformat_other t
    | some e =>
        have ht : e.1 = t := by simpa using List.find?_some hfind
        rw [← ht]
        exact hall e (List.mem_of_find?_eq_some hfind)
  isoformat_ascii t := by
    have hall : ∀ e ∈ isoTexts, ∀ c ∈ e.2.toList, 33 ≤ c.toNat ∧ c.toNat < 127 := by
      decide +kernel
    unfold isoformat
    cases hfind : isoTexts.find? fun e => e.1 = t with
    | some e => exact hall e (List.mem_of_find?_eq_some hfind)
    | none =>
        intro c hc
        simp only [Option.map_none, Option.getD_none, otherText, String.toList_ofList] at hc
        rcases List.mem_cons.mp hc with rfl | hc
        · decide
        · exact isDigit_ascii (Library.Json.integerWord_chars hc)

def floatWords : List (ℚ × List Char) :=
  [(1 / 2, "0.5".toList), (150, "150.0".toList), (150001 / 1000, "150.001".toList),
    (1 / 10, "0.1".toList), (-1 / 2000, "-0.0005".toList)]

variable (q : ℚ)

def otherWord : List Char :=
  integerWord q.num ++ '.' :: 'e' :: Nat.toDigits 10 q.den

def floatRepr : List Char :=
  ((floatWords.find? fun e => e.1 = q).map Prod.snd).getD (otherWord q)

def readOtherWord (word : List Char) : Option ℚ :=
  match word.dropWhile fun c => c ≠ '.' with
  | '.' :: 'e' :: digits => do
      let num ← readInteger (word.takeWhile fun c => c ≠ '.')
      let den ← readNatural digits
      return (num : ℚ) / (den : ℚ)
  | _ => none

def readFloat (word : List Char) : Option ℚ :=
  match floatWords.find? fun e => e.2 = word with
  | some e => some e.1
  | none => readOtherWord word

theorem integerWord_noPoint (n : Int) : ∀ c ∈ integerWord n, c ≠ '.' := by
  rintro c hc rfl
  exact absurd (Library.Json.integerWord_chars hc) (by decide)

theorem integerWord_ne_nil (n : Int) : integerWord n ≠ [] := by
  cases n with
  | ofNat n => exact Nat.toDigits_ne_nil
  | negSucc n => exact List.cons_ne_nil _ _

theorem readFloat_other : readFloat (otherWord q) = some q := by
  have hnoPoint := integerWord_noPoint q.num
  have hdrop : (otherWord q).dropWhile (fun c => c ≠ '.') =
      '.' :: 'e' :: Nat.toDigits 10 q.den := by
    unfold otherWord
    rw [List.dropWhile_append_of_pos (by simpa using hnoPoint)]
    rfl
  have htake : (otherWord q).takeWhile (fun c => c ≠ '.') = integerWord q.num := by
    unfold otherWord
    rw [List.takeWhile_append_of_pos (by simpa using hnoPoint)]
    simp
  have hother : floatWords.find? (fun e => e.2 = otherWord q) = none := by
    rw [List.find?_eq_none]
    intro e he hsame
    have htail : ∀ e ∈ floatWords, 'e' ∉ e.2 := by decide +kernel
    have hword : e.2 = otherWord q := of_decide_eq_true hsame
    refine htail e he ?_
    rw [hword]
    exact List.mem_append_right _ (List.mem_cons_of_mem _ List.mem_cons_self)
  unfold readFloat
  rw [hother]
  simp only [readOtherWord, hdrop, htake, Library.Json.readInteger_integerWord,
    Library.Json.readNatural_toDigits, Option.bind_eq_bind, Option.bind_some,
    Option.pure_def, Rat.num_div_den]

theorem otherWord_chars : ∀ c ∈ otherWord q, c.isDigit = true ∨ c = '-' ∨ c = '.' ∨
    c = 'e' := by
  intro c hc
  rcases List.mem_append.mp hc with hc | hc
  · rcases Library.Json.integerWord_chars hc with h | h
    · exact Or.inl h
    · exact Or.inr (Or.inl h)
  rcases List.mem_cons.mp hc with hc | hc
  · exact Or.inr (Or.inr (Or.inl hc))
  rcases List.mem_cons.mp hc with hc | hc
  · exact Or.inr (Or.inr (Or.inr hc))
  · exact Or.inl (Library.Json.isDigit_of_mem_toDigits hc)

theorem readFloat_floatRepr (q : ℚ) : readFloat (floatRepr q) = some q := by
  have hall : ∀ e ∈ floatWords, readFloat e.2 = some e.1 := by decide +kernel
  unfold floatRepr
  cases hfind : floatWords.find? fun e => e.1 = q with
  | none => exact readFloat_other q
  | some e =>
      have hq : e.1 = q := by simpa using List.find?_some hfind
      rw [← hq]
      exact hall e (List.mem_of_find?_eq_some hfind)

theorem floatRepr_word (q : ℚ) : ∀ c ∈ floatRepr q,
    Library.Json.isWordChar c = true ∧ c.toNat < 127 := by
  have hall : ∀ e ∈ floatWords, ∀ c ∈ e.2,
      Library.Json.isWordChar c = true ∧ c.toNat < 127 := by decide +kernel
  unfold floatRepr
  cases hfind : floatWords.find? fun e => e.1 = q with
  | some e => exact hall e (List.mem_of_find?_eq_some hfind)
  | none =>
      intro c hc
      rcases otherWord_chars q c hc with h | rfl | rfl | rfl
      · exact ⟨by simp [Library.Json.isWordChar, Char.isAlphanum, h],
          (isDigit_ascii (Or.inl h)).2⟩
      · decide
      · decide
      · decide

theorem floatRepr_point (q : ℚ) : '.' ∈ floatRepr q ∨ 'e' ∈ floatRepr q := by
  have hall : ∀ e ∈ floatWords, '.' ∈ e.2 ∨ 'e' ∈ e.2 := by decide +kernel
  unfold floatRepr
  cases hfind : floatWords.find? fun e => e.1 = q with
  | some e => exact hall e (List.mem_of_find?_eq_some hfind)
  | none => exact Or.inl (List.mem_append_right _ List.mem_cons_self)

theorem floatRepr_head (q : ℚ) : ∃ c rest, floatRepr q = c :: rest ∧
    (c.isDigit = true ∨ c = '-') := by
  have hall : ∀ e ∈ floatWords, ∃ c rest, e.2 = c :: rest ∧ (c.isDigit = true ∨ c = '-') := by
    intro e he
    have hhead : ∀ e ∈ floatWords, e.2.head?.any (fun c => c.isDigit || c == '-') = true := by
      decide +kernel
    have hany := hhead e he
    cases hword : e.2 with
    | nil => simp [hword] at hany
    | cons c rest => exact ⟨c, rest, rfl, by simpa [hword] using hany⟩
  unfold floatRepr
  cases hfind : floatWords.find? fun e => e.1 = q with
  | some e => exact hall e (List.mem_of_find?_eq_some hfind)
  | none =>
      change ∃ c rest, otherWord q = c :: rest ∧ _
      have hchars := integerWord_ne_nil q.num
      cases hword : integerWord q.num with
      | nil => exact absurd hword hchars
      | cons c rest =>
          refine ⟨c, rest ++ '.' :: 'e' :: Nat.toDigits 10 q.den, ?_, ?_⟩
          · unfold otherWord
            rw [hword]
            rfl
          · exact Library.Json.integerWord_chars (hword ▸ List.mem_cons_self)

def floatText : FloatText where
  repr := floatRepr
  read := readFloat
  read_repr := readFloat_floatRepr
  repr_word := floatRepr_word
  repr_point := floatRepr_point
  repr_head := floatRepr_head

/-- A candle whose buy signal always has a reason. -/
def candle : ShadowCandle where
  time := "2026-01-01T00:01:00.000000Z"
  openPrice := .finite 150
  high := .finite 150
  low := .finite 150
  close := .finite 150

def setup : SessionSetup where
  symbol := "USD_JPY"
  interval := "M1"
  source := "sample"
  runId := "run1"
  signalFn := fun _ => { side := .buy, reason := "up" }
  signalName := "always_buy"
  riskHook := .snapshot
  createdAt := instant 100

def snapshot (text : String) (hread : ∃ t, asUtc datetime text = .ok t) :
    MarketSnapshot datetime where
  symbol := "USD_JPY"
  tickerTimestamp := text
  bid := 150
  ask := 150001 / 1000
  symbol_nonBlank := by decide +kernel
  ticker_read := hread
  bounds := by decide +kernel

def step (t : Int) : StepInput datetime where
  candle := candle
  clock := some (instant 100)
  snapshot := .snapshot (snapshot (isoText datetime t) ⟨t, asUtc_isoText t⟩)

@[irreducible]
def backAndForth : List (StepInput datetime) :=
  [step (instant 100), step (instant 0), step (instant 100)]

end Sample

end FxStrategyLab.Session
