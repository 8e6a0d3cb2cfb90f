import FxStrategyLab.Library.Series

/-!
# The features of the redesign

This file embeds `compute_redesign_features` and `_high_vol_regime_flags` of
`gmo_strategy_redesign.py`.  Numbers stand by their exact value, and indices and slices are
Python's, because no check keeps a lookback of a configuration from reaching in front of the
series.
-/

namespace FxStrategyLab.Redesign

open Library.Series (at? slice indices)

/-- What an evaluation can raise. -/
inductive RunError
  | indexError
  | valueError
  | zeroDivisionError
  | keyError
  | stopIteration

/-- The entry of a series at an index. -/
def item {α : Type} (xs : List α) (index : Int) : Except RunError α :=
  match at? xs index with
  | some a => .ok a
  | none => .error .indexError

inductive RedesignTrendRegime
  | up
  | down
  | range
  | unknown
deriving DecidableEq

inductive RedesignMomentum
  | up
  | down
  | flat
  | unknown
deriving DecidableEq

inductive RedesignBreakout
  | up
  | down
  | none
  | unknown
deriving DecidableEq

inductive RedesignOverextension
  | up
  | down
  | none
  | unknown
deriving DecidableEq

structure RedesignFeatureConfig where
  smaFast : Int := 8
  smaSlow : Int := 20
  momentumLookback : Int := 6
  breakoutLookback : Int := 20
  atrLookback : Int := 14
  overextAtrMult : ℚ := 3 / 2
  trendMarginRatio : ℚ := 1 / 2000
  sessionOpenJstHour : Int := 16

structure RedesignFeatures where
  trend : RedesignTrendRegime
  momentum : RedesignMomentum
  breakout : RedesignBreakout
  overextension : RedesignOverextension
  atrLike : ℚ
  ready : Bool

def mean (values : List ℚ) : ℚ :=
  if values = [] then 0 else values.sum / values.length

/-- The history that `compute_redesign_features` asks for. -/
def RedesignFeatureConfig.need (config : RedesignFeatureConfig) : Int :=
  max (max (max config.smaSlow config.breakoutLookback) config.atrLookback)
    (config.momentumLookback + 1)

def unreadyFeatures : RedesignFeatures where
  trend := .unknown
  momentum := .unknown
  breakout := .unknown
  overextension := .unknown
  atrLike := 0
  ready := false

/-- The greatest value of a list; there is none in an empty one. -/
def maxOf : List ℚ → Except RunError ℚ
  | [] => .error .valueError
  | x :: xs => .ok (xs.foldl max x)

/-- The least value of a list. -/
def minOf : List ℚ → Except RunError ℚ
  | [] => .error .valueError
  | x :: xs => .ok (xs.foldl min x)

def trendOf (fast slow ratio : ℚ) : RedesignTrendRegime :=
  let margin := |slow| * ratio
  if slow + margin < fast then .up
  else if fast < slow - margin then .down
  else .range

def momentumOf (delta : ℚ) : RedesignMomentum :=
  if 0 < delta then .up else if delta < 0 then .down else .flat

def breakoutOf (close : ℚ) (prevHighs prevLows : List ℚ) : Except RunError RedesignBreakout := do
  let high ← maxOf prevHighs
  if high < close then return .up
  let low ← minOf prevLows
  if close < low then return .down
  return .none

def overextensionOf (deviation threshold atrLike : ℚ) : RedesignOverextension :=
  if atrLike ≤ 0 then .none
  else if threshold < deviation then .up
  else if deviation < -threshold then .down
  else .none

def rangeAt (highs lows : List ℚ) (index : Int) : Except RunError ℚ := do
  let high ← item highs index
  let low ← item lows index
  return high - low

def computeRedesignFeatures (closes highs lows : List ℚ) (index : Int)
    (config : RedesignFeatureConfig) : Except RunError RedesignFeatures :=
  if index < config.need then .ok unreadyFeatures
  else do
    let fast := mean (slice closes (index - config.smaFast + 1) (index + 1))
    let slow := mean (slice closes (index - config.smaSlow + 1) (index + 1))
    let close ← item closes index
    let earlier ← item closes (index - config.momentumLookback)
    let breakout ← breakoutOf close (slice highs (index - config.breakoutLookback) index)
      (slice lows (index - config.breakoutLookback) index)
    let ranges ← (indices (index - config.atrLookback + 1) (index + 1)).mapM
      (rangeAt highs lows)
    let atrLike := mean ranges
    return {
      trend := trendOf fast slow config.trendMarginRatio
      momentum := momentumOf (close - earlier)
      breakout
      overextension :=
        overextensionOf (close - fast) (config.overextAtrMult * atrLike) atrLike
      atrLike
      ready := true }

/-- The entry at an index is replaced. -/
def setItem {α : Type} (xs : List α) (index : Int) (a : α) : Except RunError (List α) :=
  match Library.Series.position xs.length index with
  | some i => if i < xs.length then .ok (xs.set i a) else .error .indexError
  | none => .error .indexError

/-- The sliding sum without the range that leaves its window. -/
def dropRange (ranges : List ℚ) (atrLookback : Int) (windowSum : ℚ) (i : Nat) :
    Except RunError ℚ :=
  if atrLookback ≤ i then do
    let dropped ← item ranges (i - atrLookback)
    return windowSum - dropped
  else .ok windowSum

def atrStep (ranges : List ℚ) (atrLookback : Int) (state : ℚ × List ℚ) (i : Nat) :
    Except RunError (ℚ × List ℚ) := do
  let range ← item ranges i
  let windowSum ← dropRange ranges atrLookback (state.1 + range) i
  if atrLookback - 1 ≤ i then
    if atrLookback = 0 then .error .zeroDivisionError
    else return (windowSum, state.2 ++ [windowSum / atrLookback])
  else return (windowSum, state.2 ++ [0])

/-- The ATR of every bar: zero where the lookback is not yet full. -/
def slidingAtr (ranges : List ℚ) (atrLookback : Int) : Except RunError (List ℚ) := do
  let state ← (List.range ranges.length).foldlM (atrStep ranges atrLookback) (0, [])
  return state.2

def medianOf (prior : List ℚ) : Except RunError ℚ :=
  let m := prior.length
  if m % 2 ≠ 0 then item prior (m / 2 : Nat)
  else do
    let low ← item prior ((m / 2 : Nat) - 1)
    let high ← item prior (m / 2 : Nat)
    return (low + high) / 2

def flagStep (atr : List ℚ) (regimeLookback : Int) (flags : List Bool) (i : Int) :
    Except RunError (List Bool) := do
  let prior := (slice atr (i - regimeLookback) i).mergeSort fun a b => a ≤ b
  let median ← medianOf prior
  let current ← item atr i
  setItem flags i (decide (median < current))

def highVolRegimeFlags (highs lows : List ℚ) (atrLookback regimeLookback : Int) :
    Except RunError (List Bool) := do
  let n := highs.length
  let ranges ← (List.range n).mapM fun (i : Nat) => rangeAt highs lows (i : Int)
  let atr ← slidingAtr ranges atrLookback
  (indices regimeLookback n).foldlM (flagStep atr regimeLookback) (List.replicate n false)

end FxStrategyLab.Redesign
