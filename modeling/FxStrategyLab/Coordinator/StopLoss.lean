import FxStrategyLab.Coordinator.HaltRace

/-!
# The stop and the planned loss

The stop of a plan is rounded away from the fill, so that its distance exceeds the risk
width by less than a tick.  The planned loss is computed apart from it, in pips, with an
allowance of a tenth of a pip, which is one tick.

**Results.**

* `roundDown_spec`, `roundUp_spec`: a rounded price is a multiple of the tick, less than a
  tick away.
* `plan_prices`: where the stop and the target of a plan lie.
* `plan_loss_lt`: what a stop can lose.
* `stop_honours_planned_loss`: a stop loses no more than was planned, and a plan for an
  accepted entry loses no more than the limit of its policy.
-/

namespace FxStrategyLab

open Library

section StopLoss

def OnTick (price : ℚ) : Prop :=
  ∃ n : Int, price = n * protectionTick

def WidthRoundedUp (width distance : ℚ) : Prop :=
  width ≤ distance ∧ distance < width + protectionTick

theorem protectionTick_pos : 0 < protectionTick := by
  norm_num [protectionTick]

theorem roundDown_spec (value : ℚ) :
    OnTick (roundDown value protectionTick) ∧ roundDown value protectionTick ≤ value ∧
      value < roundDown value protectionTick + protectionTick := by
  have hlow := Int.floor_le (value / protectionTick)
  have hhigh := Int.lt_floor_add_one (value / protectionTick)
  rw [le_div_iff₀ protectionTick_pos] at hlow
  rw [div_lt_iff₀ protectionTick_pos, add_mul, one_mul] at hhigh
  exact ⟨⟨_, rfl⟩, hlow, hhigh⟩

theorem roundUp_spec (value : ℚ) :
    OnTick (roundUp value protectionTick) ∧ value ≤ roundUp value protectionTick ∧
      roundUp value protectionTick < value + protectionTick := by
  have hhigh := Int.le_ceil (value / protectionTick)
  have hlow := Int.ceil_lt_add_one (value / protectionTick)
  rw [div_le_iff₀ protectionTick_pos] at hhigh
  have hscaled := mul_lt_mul_of_pos_right hlow protectionTick_pos
  rw [add_mul, one_mul, div_mul_cancel₀ _ protectionTick_pos.ne'] at hscaled
  exact ⟨⟨_, rfl⟩, hhigh, hscaled⟩

/-- What a stop costs per unit, as a positive distance on the losing side. -/
def stopDistance (side : SignalDecision) (averageFillPrice stop : ℚ) : ℚ :=
  match side with
  | .buy => averageFillPrice - stop
  | _ => stop - averageFillPrice

/-- What a target earns per unit, as a positive distance on the winning side. -/
def takeDistance (side : SignalDecision) (averageFillPrice take : ℚ) : ℚ :=
  match side with
  | .buy => take - averageFillPrice
  | _ => averageFillPrice - take

variable {side : SignalDecision} {price atr : ℚ} {size : Nat} {plan : V4GmoExactProtectionPlan}

theorem derivedStopPrice_spec : OnTick (derivedStopPrice side price atr) ∧
    WidthRoundedUp (riskWidth atr) (stopDistance side price (derivedStopPrice side price atr)) := by
  obtain ⟨hdownTick, hdownLow, hdownHigh⟩ := roundDown_spec (price - riskWidth atr)
  obtain ⟨hupTick, hupLow, hupHigh⟩ := roundUp_spec (price + riskWidth atr)
  unfold derivedStopPrice stopDistance WidthRoundedUp
  cases side with
  | buy => exact ⟨hdownTick, by dsimp only; linarith, by dsimp only; linarith⟩
  | sell => exact ⟨hupTick, by dsimp only; linarith, by dsimp only; linarith⟩
  | stay => exact ⟨hupTick, by dsimp only; linarith, by dsimp only; linarith⟩

theorem derivedTakePrice_spec : OnTick (derivedTakePrice side price atr) ∧
    WidthRoundedUp (rewardWidth atr)
      (takeDistance side price (derivedTakePrice side price atr)) := by
  obtain ⟨hdownTick, hdownLow, hdownHigh⟩ := roundDown_spec (price - rewardWidth atr)
  obtain ⟨hupTick, hupLow, hupHigh⟩ := roundUp_spec (price + rewardWidth atr)
  unfold derivedTakePrice takeDistance WidthRoundedUp
  cases side with
  | buy => exact ⟨hupTick, by dsimp only; linarith, by dsimp only; linarith⟩
  | sell => exact ⟨hdownTick, by dsimp only; linarith, by dsimp only; linarith⟩
  | stay => exact ⟨hdownTick, by dsimp only; linarith, by dsimp only; linarith⟩

theorem plan_prices (h : buildExactFillOcoPlanNoPost side price atr size = .ok plan) :
    0 < atr ∧ size ≤ 1000 ∧ plan.exactFilledSize = size ∧
      plan.stopLossPrice = derivedStopPrice side price atr ∧
      plan.takeProfitPrice = derivedTakePrice side price atr := by
  unfold buildExactFillOcoPlanNoPost at h
  dsimp only at h
  split at h
  · cases h
  split at h
  · cases h
  rename_i hrange
  split at h
  · cases h
  rename_i hsize
  split at h
  · cases h
  cases h
  exact ⟨not_le.mp fun hatr => hrange (Or.inr hatr), (not_not.mp hsize).2, rfl, rfl, rfl⟩

theorem plan_loss_lt (h : buildExactFillOcoPlanNoPost side price atr size = .ok plan) :
    (plan.exactFilledSize : ℚ) * stopDistance side price plan.stopLossPrice <
      1500 * atr + 1 := by
  obtain ⟨hatr, hsize, hexact, hstop, -⟩ := plan_prices h
  have hwidth := (@derivedStopPrice_spec side price atr).2
  rw [hexact, hstop]
  have hrisk : riskWidth atr = atr * (3 / 2) := rfl
  have htick : protectionTick = 1 / 1000 := rfl
  have hpos : 0 ≤ stopDistance side price (derivedStopPrice side price atr) := by
    have hnonneg : 0 ≤ riskWidth atr := by
      rw [hrisk]
      positivity
    exact hnonneg.trans hwidth.1
  have hbound : (size : ℚ) ≤ 1000 := by exact_mod_cast hsize
  calc
    (size : ℚ) * stopDistance side price (derivedStopPrice side price atr) ≤
        1000 * stopDistance side price (derivedStopPrice side price atr) :=
      mul_le_mul_of_nonneg_right hbound hpos
    _ < 1000 * (riskWidth atr + protectionTick) :=
      mul_lt_mul_of_pos_left hwidth.2 (by norm_num)
    _ = 1500 * atr + 1 := by
      rw [hrisk, htick]
      ring

variable {risk : V4FrozenSignalRisk} {sha : Sha256}

theorem plannedLoss_ge {fingerprint : Digest} {quantity : Nat} {slippage : ℚ}
    (h : calculateV4PlannedLoss sha fingerprint atr quantity slippage = .ok risk) :
    risk.atr24 = atr ∧ 0 ≤ slippage ∧
      1500 * atr + 1 + 10 * slippage ≤ (risk.plannedLossBoundJpy : ℚ) := by
  unfold calculateV4PlannedLoss at h
  split at h
  · cases h
  rename_i hinput
  push Not at hinput
  obtain ⟨-, -, rfl, hslippage⟩ := hinput
  obtain rfl := Except.ok.inj h
  refine ⟨rfl, hslippage, ?_⟩
  have hceil := Int.le_ceil ((atr * (3 / 2) / (1 / 100) + 1 / 10 + slippage) *
    (((1000 : Nat) : ℚ) * (1 / 100)))
  calc
    1500 * atr + 1 + 10 * slippage =
        (atr * (3 / 2) / (1 / 100) + 1 / 10 + slippage) * (((1000 : Nat) : ℚ) * (1 / 100)) := by
      push_cast
      ring
    _ ≤ _ := hceil

theorem plannedLoss_quantity {fingerprint : Digest} {quantity : Nat} {slippage : ℚ}
    (h : calculateV4PlannedLoss sha fingerprint atr quantity slippage = .ok risk) :
    quantity = 1000 := by
  unfold calculateV4PlannedLoss at h
  split at h
  · cases h
  · rename_i hinput
    push Not at hinput
    exact hinput.2.2.1

theorem priceEntry_ok {intent : EntryIntent} {nowUtc : Instant}
    (h : priceEntry sha intent nowUtc = .ok risk) :
    calculateV4PlannedLoss sha (intent.signal.fingerprint sha) intent.frozenAtr24
        intent.policy.requestedSize intent.generation.adverseSlippageAllowancePips = .ok risk ∧
      risk.plannedLossBoundJpy ≤ intent.policy.maxLossPerTradeYen := by
  unfold priceEntry at h
  split_ifs at h
  split at h
  · cases h
  rename_i priced hpriced
  split_ifs at h with hlimit
  obtain rfl := Except.ok.inj h
  exact ⟨hpriced, not_lt.mp hlimit⟩

/-- **The protective stop honours the planned loss.** For every derived plan: its prices are
multiples of the tick, the stop lies on the losing side at the risk width rounded up, the
target on the winning side at the reward width rounded up, and the stop never loses more than
a planned loss for the same ATR less its slippage part.  So a plan that is derived for a cycle
with the ATR of an accepted entry loses no more than the limit of the policy. -/
theorem stop_honours_planned_loss (sha : Sha256) (side : SignalDecision) (price atr : ℚ)
    (size : Nat) (plan : V4GmoExactProtectionPlan)
    (h : buildExactFillOcoPlanNoPost side price atr size = .ok plan) :
    (OnTick plan.stopLossPrice ∧ OnTick plan.takeProfitPrice) ∧
      (0 < stopDistance side price plan.stopLossPrice ∧
        WidthRoundedUp (3 / 2 * atr) (stopDistance side price plan.stopLossPrice)) ∧
      (0 < takeDistance side price plan.takeProfitPrice ∧
        WidthRoundedUp (9 / 4 * atr) (takeDistance side price plan.takeProfitPrice)) ∧
      (∀ (fingerprint : Digest) (quantity : Nat) (slippage : ℚ) (risk : V4FrozenSignalRisk),
        calculateV4PlannedLoss sha fingerprint atr quantity slippage = .ok risk →
          (plan.exactFilledSize : ℚ) * stopDistance side price plan.stopLossPrice ≤
            risk.plannedLossBoundJpy - slippage * (quantity * (1 / 100))) ∧
      (∀ (intent : EntryIntent) (nowUtc : Instant) (risk : V4FrozenSignalRisk)
        (w w' : StoreWorld),
        (validateAndPriceEntry sha intent nowUtc).run w = (.returned risk, w') →
          (reservedRow sha intent risk nowUtc).frozenAtr24 = atr →
            (plan.exactFilledSize : ℚ) * stopDistance side price plan.stopLossPrice ≤
              intent.policy.maxLossPerTradeYen) := by
  obtain ⟨hatr, -, -, hstop, htake⟩ := plan_prices h
  have hloss := plan_loss_lt h
  obtain ⟨hstopTick, hstopWidth⟩ := @derivedStopPrice_spec side price atr
  obtain ⟨htakeTick, htakeWidth⟩ := @derivedTakePrice_spec side price atr
  rw [← hstop] at hstopTick hstopWidth
  rw [← htake] at htakeTick htakeWidth
  have hrisk : riskWidth atr = 3 / 2 * atr := mul_comm _ _
  have hreward : rewardWidth atr = 9 / 4 * atr := by
    unfold rewardWidth
    rw [hrisk]
    ring
  rw [hrisk] at hstopWidth
  rw [hreward] at htakeWidth
  refine ⟨⟨hstopTick, htakeTick⟩, ⟨?_, hstopWidth⟩, ⟨?_, htakeWidth⟩, ?_, ?_⟩
  · exact lt_of_lt_of_le (by positivity) hstopWidth.1
  · exact lt_of_lt_of_le (by positivity) htakeWidth.1
  · intro fingerprint quantity slippage risk hplanned
    obtain ⟨-, hslippage, hbound⟩ := plannedLoss_ge hplanned
    obtain rfl := plannedLoss_quantity hplanned
    push_cast
    linarith
  · intro intent nowUtc risk w w' haccepted hsame
    obtain ⟨hplanned, hlimit⟩ := priceEntry_ok (validateAndPriceEntry_returned.mp haccepted).2.2.2.2.1
    obtain ⟨hfrozen, hslippage, hbound⟩ := plannedLoss_ge hplanned
    have hpriced : intent.frozenAtr24 = atr := hfrozen.symm.trans hsame
    rw [hpriced] at hbound
    have hlimit : (risk.plannedLossBoundJpy : ℚ) ≤ intent.policy.maxLossPerTradeYen := by
      exact_mod_cast hlimit
    linarith

/-- A plan for a BUY at 150 with an ATR of a tenth, which is the ATR of an accepted entry. -/
theorem stop_honours_planned_loss_buy :
    ∃ plan, buildExactFillOcoPlanNoPost .buy 150 (1 / 10) 1000 = .ok plan ∧
      (plan.exactFilledSize : ℚ) * stopDistance .buy 150 plan.stopLossPrice ≤ 151 := by
  obtain ⟨plan, hplan⟩ := @exists_buildExactFillOcoPlanNoPost .buy 150 (1 / 10) 1000
    (Or.inl rfl) (by norm_num) (by norm_num) (by decide) (by decide +kernel)
    (by decide +kernel)
  have hplanned : (calculateV4PlannedLoss .checksum (Sha256.checksum.hexdigest []) (1 / 10) 1000
      0).toOption.map V4FrozenSignalRisk.plannedLossBoundJpy = some 151 := by
    decide +kernel
  cases hrisk : calculateV4PlannedLoss .checksum (Sha256.checksum.hexdigest []) (1 / 10) 1000 0 with
  | error e =>
      rw [hrisk] at hplanned
      cases hplanned
  | ok risk =>
      rw [hrisk] at hplanned
      have h := (stop_honours_planned_loss .checksum .buy 150 (1 / 10) 1000 plan
        hplan).2.2.2.1 _ _ _ _ hrisk
      have hbound : risk.plannedLossBoundJpy = 151 := Option.some.inj hplanned
      rw [hbound] at h
      exact ⟨plan, hplan, h.trans (by norm_num)⟩

end StopLoss

end FxStrategyLab
