import FxStrategyLab.Session.Cooldown

/-!
# The price of a virtual fill

The candidate of a signal carries the ask for a buy and the bid for a sell, and the risk
evaluation allows it at that price.  The trader then asks the signal function again and
fills at the ask, whatever the side is.

**Results.** `checked_fill` says what a filling step has checked and what it fills, and
`fills_at_checked_price_iff` which runs fill at the checked price.
-/

namespace FxStrategyLab.Session

open Library (after MeetsAlong meetsAlong_congr)
open Library.Json (FloatText)

section FillPrice

variable (dt : Datetime) (sha : Sha256) (floats : FloatText) (setup : SessionSetup)

def FillsBetween (s s' : SessionState) (order : VirtualOrder) : Prop :=
  ∃ event, s'.events = s.events ++ [event] ∧ event.virtualOrder = some order

def Fills (s : SessionState) (input : StepInput dt) (order : VirtualOrder) : Prop :=
  FillsBetween s (sessionStep dt sha floats setup s input) order

/-- What the step fills was allowed: the order has the side, the price and the quantity of
the candidate that the step has allowed. -/
def FillsAtCheckedPrice (s : SessionState) (input : StepInput dt) : Prop :=
  ∀ order, Fills dt sha floats setup s input order → ∃ candidate decision,
    (sessionStep dt sha floats setup s input).decisions =
        s.decisions ++ [(candidate, decision)] ∧
      decision.status = .allowShadow ∧ order.side = candidate.side ∧
      order.price = candidate.entryReferencePrice ∧ order.units = candidate.quantity

/-- The step does not fill a sell while the bid and the ask that it has read differ. -/
def SellsWithoutSpread (s : SessionState) (input : StepInput dt) : Prop :=
  ∀ order, Fills dt sha floats setup s input order →
    ∀ s₁ context, beginStep dt floats setup s input = .next s₁ context →
      context.signal.side = .sell → context.reading.bid = context.reading.ask

variable {dt sha floats setup}

def SessionState.record (s : SessionState) : List ShadowEvent × List ShadowCandle :=
  (s.events, s.seen)

variable {s s' s₁ : SessionState}

theorem record_inj (h : s'.record = s.record) : s'.events = s.events ∧ s'.seen = s.seen :=
  Prod.mk.inj h

theorem record_activateKillSwitch (s : SessionState) (reason : KillSwitchReason)
    (timestamp trigger : String) (log : Option DiskOutcome) :
    (activateKillSwitch dt floats setup s reason timestamp trigger log).record = s.record := by
  unfold activateKillSwitch
  cases log with
  | none => split <;> rfl
  | some outcome => split <;> rfl

theorem record_stopForLog (s : SessionState) (timestamp trigger : String) :
    (stopForLog dt floats setup s timestamp trigger).record = s.record :=
  @record_activateKillSwitch dt floats setup s .logWriteFailed timestamp trigger none

theorem record_stopForFile (s : SessionState) (timestamp : String) (outcome : DiskOutcome) :
    (stopForFile dt floats setup s timestamp outcome).record = s.record :=
  @record_activateKillSwitch dt floats setup s .manualStopFileExists timestamp
    "manual_stop_file_exists" (some outcome)

theorem record_countSignal (s : SessionState) (side : SignalLabel) :
    (s.countSignal side).record = s.record := by
  cases side <;> rfl

def Orderless (s s' : SessionState) : Prop :=
  s'.events = s.events ∨ ∃ event, s'.events = s.events ++ [event] ∧ event.virtualOrder = none

theorem Orderless.of_record (h : s'.record = s.record) : Orderless s s' :=
  Or.inl (record_inj h).1

theorem orderless_eventWithoutOrder (h : s'.record = s.record)
    (signal : Signal) (ticker : Ticker) : Orderless s (s'.eventWithoutOrder signal ticker) := by
  unfold SessionState.eventWithoutOrder
  rw [(record_inj h).1]
  exact Or.inr ⟨_, rfl, rfl⟩

variable {order : VirtualOrder}

theorem Orderless.not_fills (h : Orderless s s') : ¬ FillsBetween s s' order := by
  rintro ⟨event, hevents, horder⟩
  rcases h with hsame | ⟨other, hother, hnone⟩
  · have hlength := congrArg List.length (hsame.symm.trans hevents)
    simp at hlength
  · have hlast := List.append_cancel_left (hother.symm.trans hevents)
    obtain rfl : other = event := (List.cons.inj hlast).1
    rw [hnone] at horder
    cases horder

theorem FillsBetween.of_record (h : FillsBetween s s' order) (hrecord : s₁.record = s.record) :
    FillsBetween s₁ s' order := by
  obtain ⟨event, hevents, horder⟩ := h
  exact ⟨event, by rw [(record_inj hrecord).1, hevents], horder⟩

theorem beginStep_record (s : SessionState) (input : StepInput dt) :
    (∀ s₁, beginStep dt floats setup s input = .ended s₁ → s₁.events = s.events) ∧
      ∀ s₁ context, beginStep dt floats setup s input = .next s₁ context →
        s₁.events = s.events ∧ context.signal = setup.signalFn s₁.seen := by
  unfold beginStep
  split
  · exact ⟨fun s₁ h => by cases h; rfl, fun s₁ context h => by cases h⟩
  split
  · exact ⟨fun s₁ h => by cases h; rfl, fun s₁ context h => by cases h⟩
  dsimp only
  split
  · exact ⟨fun s₁ h => by cases h; rfl, fun s₁ context h => by cases h⟩
  split
  · refine ⟨fun s₁ h => ?_, fun s₁ context h => by cases h⟩
    obtain rfl := Stage.ended.inj h
    exact (record_inj (record_stopForFile _ _ _)).1.trans rfl
  split
  · refine ⟨fun s₁ h => ?_, fun s₁ context h => by cases h⟩
    obtain rfl := Stage.ended.inj h
    exact (record_inj (record_countSignal _ _)).1.trans rfl
  split
  · refine ⟨fun s₁ h => ?_, fun s₁ context h => by cases h⟩
    obtain rfl := Stage.ended.inj h
    exact (record_inj (record_countSignal _ _)).1.trans rfl
  · refine ⟨fun s₁ h => (by cases h), fun s₁ context h => ?_⟩
    obtain ⟨rfl, rfl⟩ := Stage.next.inj h
    refine ⟨(record_inj (record_countSignal _ _)).1.trans rfl, ?_⟩
    rw [(record_inj (record_countSignal _ _)).2]

/-- A signal that ends a step leaves no order, and one that goes on has its candidate
made. -/
theorem signalStage_record (s : SessionState) (input : StepInput dt) (context : StepContext) :
    (∀ s₁, signalStage dt sha floats setup s input context = .ended s₁ → Orderless s s₁) ∧
      ∀ s₁ candidate,
        signalStage dt sha floats setup s input context = .next s₁ candidate →
          s₁.record = s.record ∧ context.signal.side ≠ .hold ∧
          createOrderCandidate dt sha (candidateRequest setup context) s₁.killSwitch =
            .ok (some candidate) := by
  unfold signalStage
  dsimp only
  split
  · refine ⟨fun s₁ h => ?_, fun s₁ candidate h => by cases h⟩
    cases h
    exact .of_record (record_stopForLog _ _ _)
  split
  · refine ⟨fun s₁ h => ?_, fun s₁ candidate h => by cases h⟩
    cases h
    exact orderless_eventWithoutOrder rfl _ _
  rename_i hgoes
  split
  · refine ⟨fun s₁ h => ?_, fun s₁ candidate h => by cases h⟩
    cases h
    exact orderless_eventWithoutOrder rfl _ _
  · refine ⟨fun s₁ h => ?_, fun s₁ candidate h => by cases h⟩
    cases h
    exact orderless_eventWithoutOrder rfl _ _
  · rename_i hcreated
    refine ⟨fun s₁ h => (by cases h), fun s₁ candidate h => ?_⟩
    cases h
    exact ⟨rfl, fun hhold => hgoes (Or.inl hhold), hcreated⟩

theorem candidateStage_record (s : SessionState) (input : StepInput dt)
    (context : StepContext) (candidate : OrderCandidate) :
    (candidateStage dt floats setup s input context candidate).state.record = s.record := by
  unfold candidateStage
  dsimp only
  split
  · exact record_stopForLog _ _ _
  · rfl

/-- A decision that ends a step leaves no order, and one that goes on has allowed its
candidate. -/
theorem decisionStage_record (s : SessionState) (input : StepInput dt)
    (context : StepContext) (candidate : OrderCandidate) (risk : RiskContext) :
    (∀ s₁, decisionStage dt sha floats setup s input context candidate risk = .ended s₁ →
        Orderless s s₁) ∧
      ∀ s₁ decision,
        decisionStage dt sha floats setup s input context candidate risk = .next s₁ decision →
          s₁.record = s.record ∧
          decision = evaluate dt sha candidate risk setup.policy ∧
          decision.status = .allowShadow := by
  unfold decisionStage
  dsimp only
  split
  · refine ⟨fun s₁ h => ?_, fun s₁ decision h => by cases h⟩
    cases h
    exact .of_record (record_stopForLog _ _ _)
  split
  · refine ⟨fun s₁ h => ?_, fun s₁ decision h => by cases h⟩
    cases h
    exact orderless_eventWithoutOrder rfl _ _
  · rename_i hallowed
    refine ⟨fun s₁ h => (by cases h), fun s₁ decision h => ?_⟩
    cases h
    refine ⟨rfl, rfl, ?_⟩
    cases hstatus : (evaluate dt sha candidate risk setup.policy).status with
    | allowShadow => rfl
    | rejectShadow => exact absurd hstatus hallowed

theorem traderStep_order {signal : Signal} {ticker : Ticker} {event : ShadowEvent}
    (h : traderStep setup s signal ticker = some (s', event))
    (horder : event.virtualOrder = some order) :
    order = { side := signal.side, units := setup.units, price := ticker.ask } := by
  simp only [traderStep] at h
  split at h
  · cases h
  · obtain ⟨-, rfl⟩ := Prod.mk.inj (Option.some.inj h)
    dsimp only at horder
    split at horder
    · exact (Option.some.inj horder).symm
    · cases horder

theorem traderStep_events {signal : Signal} {ticker : Ticker}
    {event : ShadowEvent} (h : traderStep setup s signal ticker = some (s', event)) :
    s'.events = s.events ++ [event] := by
  simp only [traderStep] at h
  split at h
  · cases h
  · obtain ⟨rfl, rfl⟩ := Prod.mk.inj (Option.some.inj h)
    rfl

variable {input : StepInput dt}

theorem processAllowed_fill {context : StepContext}
    {candidate : OrderCandidate} {decision : RiskDecision}
    (h : FillsBetween s (processAllowed dt floats setup s input context candidate decision)
      order) :
    order =
      { side := (setup.signalFn s.seen).side, units := setup.units
        price := context.reading.ask } := by
  unfold processAllowed at h
  dsimp only at h
  have hrecord : ({ s with riskAllowCount := s.riskAllowCount + 1 } : SessionState).record =
      s.record := rfl
  split at h
  · exact absurd h (Orderless.of_record ((record_stopForFile _ _ _).trans hrecord)).not_fills
  split at h
  · exact absurd h (orderless_eventWithoutOrder hrecord _ _).not_fills
  split at h
  · exact absurd h (Orderless.of_record hrecord).not_fills
  · rename_i s' event htrader
    have hadded : s'.events = s.events ++ [event] := by
      rw [traderStep_events htrader, (record_inj hrecord).1]
    obtain ⟨last, hevents, horder⟩ := h
    have hprocessed : s'.events = s.events ++ [last] := by
      rw [← hevents]
      split
      · rfl
      · rw [(record_inj (record_stopForLog _ _ _)).1]
        rfl
    have hlast := List.append_cancel_left (hadded.symm.trans hprocessed)
    obtain rfl : event = last := (List.cons.inj hlast).1
    exact traderStep_order htrader horder

theorem createOrderCandidate_terms {request : CandidateRequest} {killSwitch : KillSwitchState}
    {candidate : OrderCandidate}
    (h : createOrderCandidate dt sha request killSwitch = .ok (some candidate)) :
    candidate.side = request.signalLabel ∧ candidate.quantity = request.quantity ∧
      candidate.entryReferencePrice =
        if request.signalLabel = .buy then request.ask else request.bid := by
  unfold createOrderCandidate at h
  split at h
  · cases h
  · simp only [bind, Except.bind, pure, Except.pure] at h
    split at h
    · cases h
    split at h
    · cases h
    split at h
    · cases h
    split at h
    · cases h
    · cases h
      exact ⟨rfl, rfl, rfl⟩

/-- **What a filling step has checked and what it fills.**  Side and quantity are those of
the allowed candidate; the candidate is priced by its side, the fill at the ask. -/
theorem checked_fill (h : Fills dt sha floats setup s input order) :
    ∃ s₁ context candidate risk, beginStep dt floats setup s input = .next s₁ context ∧
      evaluates dt sha floats setup s input = some (candidate, risk) ∧
      (evaluate dt sha candidate risk setup.policy).status = .allowShadow ∧
      context.signal.side ≠ .hold ∧ candidate.side = context.signal.side ∧
      candidate.quantity = setup.units ∧
      candidate.entryReferencePrice =
        (if context.signal.side = .buy then context.reading.ask else context.reading.bid) ∧
      order =
        { side := context.signal.side, units := setup.units, price := context.reading.ask } := by
  unfold Fills sessionStep at h
  have hbegin := @beginStep_record dt floats setup s input
  cases hstart : beginStep dt floats setup s input with
  | ended s₁ =>
      rw [hstart] at h
      exact absurd h (Orderless.not_fills (Or.inl (hbegin.1 _ hstart)))
  | next s₁ context =>
      rw [hstart] at h
      dsimp only [Stage.andThen] at h
      obtain ⟨hevents, hsignal⟩ := hbegin.2 _ _ hstart
      obtain ⟨event, hadded, horder⟩ := h
      rw [← hevents] at hadded
      have h₁ : FillsBetween s₁ _ order := ⟨event, hadded, horder⟩
      have hstage := @signalStage_record dt sha floats setup s₁ input context
      cases hsigned : signalStage dt sha floats setup s₁ input context with
      | ended s₂ =>
          rw [hsigned] at h₁
          exact absurd h₁ (hstage.1 _ hsigned).not_fills
      | next s₂ candidate =>
          rw [hsigned] at h₁
          dsimp only at h₁
          obtain ⟨hrecord₂, hside, hcreated⟩ := hstage.2 _ _ hsigned
          have h₂ := h₁.of_record hrecord₂
          have hcounting := @candidateStage_record dt floats setup s₂ input context candidate
          cases hcounted : candidateStage dt floats setup s₂ input context candidate with
          | ended s₃ =>
              rw [hcounted] at h₂ hcounting
              exact absurd h₂ (Orderless.of_record hcounting).not_fills
          | next s₃ risk =>
              rw [hcounted] at h₂ hcounting
              have h₃ := h₂.of_record hcounting
              dsimp only at h₃
              have hdeciding := @decisionStage_record dt sha floats setup s₃ input context
                candidate risk
              cases hdecided : decisionStage dt sha floats setup s₃ input context candidate
                  risk with
              | ended s₄ =>
                  rw [hdecided] at h₃
                  exact absurd h₃ (hdeciding.1 _ hdecided).not_fills
              | next s₄ decision =>
                  rw [hdecided] at h₃
                  obtain ⟨hrecord₄, rfl, hallowed⟩ := hdeciding.2 _ _ hdecided
                  have hfill := processAllowed_fill (h₃.of_record hrecord₄)
                  have hseen : s₄.seen = s₁.seen :=
                    (record_inj (hrecord₄.trans (hcounting.trans hrecord₂))).2
                  rw [hseen, ← hsignal] at hfill
                  obtain ⟨hcside, hquantity, hprice⟩ := createOrderCandidate_terms hcreated
                  exact ⟨s₁, context, candidate, risk, rfl,
                    by simp [evaluates, hstart, hsigned, hcounted], hallowed, hside, hcside,
                    hquantity, hprice, hfill⟩

/-- **Step lemma.** A step fills at the checked price exactly when it does not fill a sell
across a spread. -/
theorem fillsAtCheckedPrice_iff :
    FillsAtCheckedPrice dt sha floats setup s input ↔
      SellsWithoutSpread dt sha floats setup s input := by
  constructor
  · intro h order hfill s₁ context hstart hsell
    obtain ⟨s₂, context₂, candidate, risk, hstart₂, hevaluates, -, -, hside, hquantity, hprice,
      rfl⟩ := checked_fill hfill
    obtain ⟨rfl, rfl⟩ : s₁ = s₂ ∧ context = context₂ :=
      Stage.next.inj (hstart.symm.trans hstart₂)
    obtain ⟨allowed, decision, hdecisions, -, -, hsame, -⟩ := h _ hfill
    cases @sessionStep_memory dt sha floats setup s input with
    | quiet hnone hmemory =>
        rw [hevaluates] at hnone
        cases hnone
    | evaluated candidate₂ risk₂ hsome hlast hcount hdecided hcounted hnext =>
        obtain ⟨rfl, rfl⟩ := Prod.mk.inj (Option.some.inj (hevaluates.symm.trans hsome))
        have hpair := List.append_cancel_left (hdecided.symm.trans hdecisions)
        obtain ⟨rfl, rfl⟩ := Prod.mk.inj (List.cons.inj hpair).1
        rw [hprice, hsell, if_neg (by decide)] at hsame
        exact hsame.symm
  · intro h order hfill
    obtain ⟨s₁, context, candidate, risk, hstart, hevaluates, hallowed, hside, hcside,
      hquantity, hprice, horder⟩ := checked_fill hfill
    have hspread := h order hfill s₁ context hstart
    subst horder
    cases @sessionStep_memory dt sha floats setup s input with
    | quiet hnone hmemory =>
        rw [hevaluates] at hnone
        cases hnone
    | evaluated candidate₂ risk₂ hsome hlast hcount hdecided hcounted hnext =>
        obtain ⟨rfl, rfl⟩ := Prod.mk.inj (Option.some.inj (hevaluates.symm.trans hsome))
        refine ⟨_, _, hdecided, hallowed, hcside.symm, ?_, hquantity.symm⟩
        rw [hprice]
        cases hlabel : context.signal.side with
        | buy => rfl
        | sell => exact (hspread hlabel).symm
        | hold => exact absurd hlabel hside

end FillPrice

namespace Sample

def sellingSetup : SessionSetup :=
  { setup with signalFn := fun _ => { side := .sell, reason := "down" } }

end Sample

end FxStrategyLab.Session
