import FxStrategyLab.Contracts

/-!
# Exact-fill OCO calculation

This file embeds `v4_gmo_protection.py`: the OCO prices are derived from the
actual average fill and the ATR that was frozen with the signal.  A protection
plan carries the constructor's checks as fields, so its size is within the
frozen bound and its prices are positive wherever one occurs.
-/

namespace FxStrategyLab

def protectionError (message : String) : V4Error :=
  { exceptionClass := .protection, message }

deriving instance DecidableEq for V4GmoActionPlan

/-- Source `V4GmoExactProtectionPlan`; the symbol is the frozen one. -/
structure V4GmoExactProtectionPlan where
  positionSide : SignalDecision
  settlementSide : SignalDecision
  exactFilledSize : Nat
  takeProfitPrice : ℚ
  stopLossPrice : ℚ
  contractHash : String
  side_directional : positionSide.Directional
  settlement_opposite : settlementSide = positionSide.settlementSide
  size_bounds : 0 < exactFilledSize ∧ exactFilledSize ≤ 1000
  prices_pos : 0 < takeProfitPrice ∧ 0 < stopLossPrice
  contract_frozen : contractHash = h11V4GmoProtectionContractHash
deriving DecidableEq

namespace V4GmoExactProtectionPlan

def canonicalJson (plan : V4GmoExactProtectionPlan) : CanonicalText :=
  [("contract_hash", .text plan.contractHash),
    ("exact_filled_size", .integer plan.exactFilledSize),
    ("position_side", .text plan.positionSide.value),
    ("settlement_side", .text plan.settlementSide.value),
    ("stop_loss_price", .decimal plan.stopLossPrice),
    ("symbol", .text "USD_JPY"),
    ("take_profit_price", .decimal plan.takeProfitPrice)]

def persistedDigest (sha : Sha256) (plan : V4GmoExactProtectionPlan) : Digest :=
  sha.prefixed plan.canonicalJson

end V4GmoExactProtectionPlan

def roundUp (value increment : ℚ) : ℚ :=
  ⌈value / increment⌉ * increment

def roundDown (value increment : ℚ) : ℚ :=
  ⌊value / increment⌋ * increment

def protectionTick : ℚ := 1 / 1000

def riskWidth (frozenSignalAtr24 : ℚ) : ℚ :=
  frozenSignalAtr24 * (3 / 2)

def rewardWidth (frozenSignalAtr24 : ℚ) : ℚ :=
  riskWidth frozenSignalAtr24 * (3 / 2)

def derivedStopPrice (side : SignalDecision) (averageFillPrice atr : ℚ) : ℚ :=
  match side with
  | .buy => roundDown (averageFillPrice - riskWidth atr) protectionTick
  | _ => roundUp (averageFillPrice + riskWidth atr) protectionTick

def derivedTakePrice (side : SignalDecision) (averageFillPrice atr : ℚ) : ℚ :=
  match side with
  | .buy => roundUp (averageFillPrice + rewardWidth atr) protectionTick
  | _ => roundDown (averageFillPrice - rewardWidth atr) protectionTick

def buildExactFillOcoPlanNoPost (positionSide : SignalDecision)
    (reconciledAverageFillPrice frozenSignalAtr24 : ℚ)
    (reconciledFilledSize : Nat) : Except V4Error V4GmoExactProtectionPlan :=
  let stop := derivedStopPrice positionSide reconciledAverageFillPrice frozenSignalAtr24
  let take := derivedTakePrice positionSide reconciledAverageFillPrice frozenSignalAtr24
  if hside : ¬positionSide.Directional then
    .error (protectionError "position side must be BUY or SELL")
  else if reconciledAverageFillPrice ≤ 0 ∨ frozenSignalAtr24 ≤ 0 then
    .error (protectionError "fill price and frozen ATR must be positive")
  else if hsize : ¬(0 < reconciledFilledSize ∧ reconciledFilledSize ≤ 1000) then
    .error (protectionError "reconciled fill size is outside the frozen bound")
  else if hprices : min stop take ≤ 0 then
    .error (protectionError "derived protection prices must remain positive")
  else
    .ok
      { positionSide
        settlementSide := positionSide.settlementSide
        exactFilledSize := reconciledFilledSize
        takeProfitPrice := take
        stopLossPrice := stop
        contractHash := h11V4GmoProtectionContractHash
        side_directional := positionSide.directional_of_not_not hside
        settlement_opposite := rfl
        size_bounds := not_not.mp hsize
        prices_pos :=
          have h := lt_min_iff.mp (not_le.mp hprices)
          ⟨h.2, h.1⟩
        contract_frozen := rfl }

/-- A plan is derived whenever the inputs are in range and the derived prices
stay positive. -/
theorem exists_buildExactFillOcoPlanNoPost {side : SignalDecision} {price atr : ℚ}
    {size : Nat} (hside : side.Directional) (hprice : 0 < price) (hatr : 0 < atr)
    (hsize : 0 < size ∧ size ≤ 1000) (hstop : 0 < derivedStopPrice side price atr)
    (htake : 0 < derivedTakePrice side price atr) :
    ∃ plan, buildExactFillOcoPlanNoPost side price atr size = .ok plan := by
  unfold buildExactFillOcoPlanNoPost
  have hrange : ¬(price ≤ 0 ∨ atr ≤ 0) := by
    rintro (h | h) <;> linarith
  have hmin : ¬min (derivedStopPrice side price atr)
      (derivedTakePrice side price atr) ≤ 0 := by
    rw [not_le, lt_min_iff]
    exact ⟨hstop, htake⟩
  dsimp only
  rw [dif_neg (not_not.mpr hside), if_neg hrange, dif_neg (not_not.mpr hsize),
    dif_neg hmin]
  exact ⟨_, rfl⟩

end FxStrategyLab
