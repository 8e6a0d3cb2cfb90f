import FxStrategyLab.CandleBacktest.Engine
import FxStrategyLab.Library.Series
import FxStrategyLab.Library.Smoothing

/-!
# The five strategies

This file embeds `evaluate_strategy` with the signals that it chooses from.  Candles are exact,
an unknown entry of a column is `none`, and no comparison with one holds.  A standard deviation
lies in an ordered field over the prices, with the square root and the texts of numbers as
parameters.
-/

namespace FxStrategyLab.Strategies

open CandleBacktest (Candle Action StrategyConfig StrategySignal StrategyType)
open Library.Columns (Causal rolling reach_map)
open Library.Series (at? slice)
open Library.Smoothing (diff ewm causal_diff causal_ewm)

/-- The square root of a number, and the texts of numbers: to some digits, as a percentage and
as they are. -/
structure Numbers (K : Type) where
  sqrt : ℚ → K
  fixed : Nat → K → String
  percent : K → String
  text : ℚ → String

def closes (frame : List Candle) : List ℚ :=
  frame.map Candle.close

def mean (window : List ℚ) : ℚ :=
  window.sum / window.length

def known (column : List (Option ℚ)) (index : Int) : Option ℚ :=
  (at? column index).join

def Both (r : ℚ → ℚ → Prop) (x y : Option ℚ) : Prop :=
  ∃ a ∈ x, ∃ b ∈ y, r a b

instance (r : ℚ → ℚ → Prop) [DecidableRel r] (x y : Option ℚ) : Decidable (Both r x y) :=
  match x, y with
  | some a, some b => decidable_of_iff (r a b) (by simp [Both])
  | none, _ => isFalse (by simp [Both])
  | some _, none => isFalse (by simp [Both])

section Trend

variable (frame : List Candle)

/-- `rolling(period).mean()` of the closes. -/
def movingAverage (period : Nat) : List (Option ℚ) :=
  rolling mean period ((closes frame).map some)

def movingAverageCrossSignal (shortPeriod longPeriod : Nat) : Action × String :=
  if frame.length < longPeriod + 1 then (.hold, "移動平均の計算に必要な価格履歴が不足")
  else
    let previousShort := known (movingAverage frame shortPeriod) (-2)
    let currentShort := known (movingAverage frame shortPeriod) (-1)
    let previousLong := known (movingAverage frame longPeriod) (-2)
    let currentLong := known (movingAverage frame longPeriod) (-1)
    if Both (· ≤ ·) previousShort previousLong ∧ Both (· > ·) currentShort currentLong then
      (.buy, s!"短期MA({shortPeriod})が長期MA({longPeriod})を上抜け")
    else if Both (· ≥ ·) previousShort previousLong ∧ Both (· < ·) currentShort currentLong then
      (.sell, s!"短期MA({shortPeriod})が長期MA({longPeriod})を下抜け")
    else (.hold, "移動平均クロスなし")

end Trend

section Signals

variable {K : Type} [Field K] [LinearOrder K] (numbers : Numbers K)

variable (frame : List Candle)

/-- Source `breakout_signal`: the last candle against the ones before it. -/
def breakoutSignal (period : Nat) : Action × String :=
  if frame.length < period + 1 then (.hold, "ブレイクアウト判定に必要な価格履歴が不足")
  else
    let reference := slice frame (-period - 1) (-1)
    let currentClose := (at? frame (-1)).map Candle.close
    let recentHigh := (reference.map Candle.high).max?
    let recentLow := (reference.map Candle.low).min?
    if Both (· > ·) currentClose recentHigh then
      (.buy, s!"終値が直近{period}本の高値" ++ numbers.fixed 5 (recentHigh.getD 0 : ℚ) ++
        "を上抜け")
    else if Both (· < ·) currentClose recentLow then
      (.sell, s!"終値が直近{period}本の安値" ++ numbers.fixed 5 (recentLow.getD 0 : ℚ) ++
        "を下抜け")
    else (.hold, "参照レンジ内")

def gains (close : List ℚ) : List (Option ℚ) :=
  (diff close).map (Option.map (max 0))

def losses (close : List ℚ) : List (Option ℚ) :=
  (diff close).map (Option.map fun move => -min 0 move)

/-- One entry of `rsi`; an average loss of zero is replaced by an unknown one, and an unknown
value by 50. -/
def rsiEntry (averageGain averageLoss : Option ℚ) : ℚ :=
  match averageGain, averageLoss with
  | some gain, some loss =>
      if loss = 0 then 50 else 100 - 100 / (1 + gain / loss)
  | _, _ => 50

def calculateRsi (close : List ℚ) (period : Nat) : List ℚ :=
  List.zipWith rsiEntry (ewm (1 / period) period (gains close))
    (ewm (1 / period) period (losses close))

def rsiReversalSignal (period : Nat) (oversold overbought : ℚ) :
    Action × String :=
  let rsi := calculateRsi (closes frame) period
  if frame.length < period + 2 then (.hold, "RSIの計算に必要な価格履歴が不足")
  else
    match at? rsi (-2), at? rsi (-1) with
    | some previous, some current =>
        let label := s!"RSI({period})=" ++ numbers.fixed 1 current
        if oversold < previous ∧ current ≤ oversold then
          (.buy, label ++ "が売られすぎライン" ++ numbers.text oversold ++ "以下")
        else if previous < overbought ∧ overbought ≤ current then
          (.sell, label ++ "が買われすぎライン" ++ numbers.text overbought ++ "以上")
        else (.hold, label ++ "、閾値到達なし")
    -- a frame of this length has both entries
    | _, _ => (.hold, "")

def variance (window : List ℚ) : ℚ :=
  mean (window.map fun close => (close - mean window) ^ 2)

def bollingerReversionSignal (period : Nat) (sigma : ℚ) :
    Action × String :=
  if frame.length < period then (.hold, "ボリンジャー判定に必要な価格履歴が不足")
  else
    let window := (closes frame).drop (frame.length - period)
    let middle : K := (mean window : ℚ)
    let std := numbers.sqrt (variance window)
    if std ≤ 0 then (.hold, "標準偏差ゼロ")
    else
      let upper := middle + (sigma : K) * std
      let lower := middle - (sigma : K) * std
      match at? (closes frame) (-1) with
      | some close =>
          let close : K := (close : ℚ)
          if close ≤ lower then
            (.buy, "終値" ++ numbers.fixed 5 close ++ "がlower band" ++ numbers.fixed 5 lower ++
              "以下(平均回帰)")
          else if upper ≤ close then
            (.sell, "終値" ++ numbers.fixed 5 close ++ "がupper band" ++ numbers.fixed 5 upper ++
              "以上(平均回帰)")
          else
            (.hold, "バンド内(" ++ numbers.fixed 5 lower ++ "〜" ++ numbers.fixed 5 upper ++ ")")
      -- a frame with a deviation has a last close
      | none => (.hold, "")

def marketStructureReversionSignal (lookback : Nat) (wickRatio : ℚ) :
    Action × String :=
  if frame.length < lookback then (.hold, "スイング判定に必要な価格履歴が不足")
  else
    match at? frame (-1) with
    -- a frame of this length has a last candle
    | none => (.hold, "")
    | some row =>
        let recent := frame.drop (frame.length - lookback)
        let range := row.high - row.low
        if range ≤ 0 then (.hold, "レンジゼロ")
        else
          let lowerWick := min row.openPrice row.close - row.low
          let upperWick := row.high - max row.openPrice row.close
          let swingLow := Both (· ≤ ·) (some row.low) (recent.map Candle.low).min?
          let swingHigh := Both (· ≥ ·) (some row.high) (recent.map Candle.high).max?
          if swingLow ∧ wickRatio * range ≤ lowerWick then
            (.buy, s!"直近{lookback}本スイング安値+下ヒゲ" ++
              numbers.percent (lowerWick / range : ℚ) ++ "(平均回帰)")
          else if swingHigh ∧ wickRatio * range ≤ upperWick then
            (.sell, s!"直近{lookback}本スイング高値+上ヒゲ" ++
              numbers.percent (upperWick / range : ℚ) ++ "(平均回帰)")
          else (.hold, "スイング極値/ヒゲ条件を満たさず")

/-- The action and the reason that the strategy of a configuration gives. -/
def chosenSignal (config : StrategyConfig) : Action × String :=
  match config.strategyType with
  | .movingAverageCross => movingAverageCrossSignal frame config.shortPeriod config.longPeriod
  | .rsiReversal =>
      rsiReversalSignal numbers frame config.rsiPeriod config.oversold config.overbought
  | .bollingerReversion =>
      bollingerReversionSignal numbers frame config.bollingerPeriod config.bollingerSigma
  | .marketStructureReversion =>
      marketStructureReversionSignal numbers frame config.swingLookback config.swingWickRatio
  | .breakout => breakoutSignal numbers frame config.breakoutPeriod

def evaluateStrategy (config : StrategyConfig) : StrategySignal :=
  let (action, reason) := chosenSignal numbers frame config
  { action, reason }

end Signals

/-- **The relative strength never looks ahead.** -/
theorem calculateRsi_causal (period : Nat) : Causal fun close => calculateRsi close period := by
  have hdiff := causal_diff (K := ℚ)
  have hgains : Causal gains :=
    (reach_map (Option.map (max (0 : ℚ)))).toCausal.comp hdiff
  have hlosses : Causal losses :=
    (reach_map (Option.map fun (move : ℚ) => -min 0 move)).toCausal.comp hdiff
  have hewm := causal_ewm (1 / period : ℚ) period
  exact (hewm.comp hgains).zipWith rsiEntry (hewm.comp hlosses)

end FxStrategyLab.Strategies
