import FxStrategyLab.Library.Columns

/-!
# The features of H-11

This file embeds `compute_features` of `h11_regime_moe.py` and `compute_short_features` of
`short_model.py`, with their helpers.  Numbers are those of an ordered field, and an entry that
is not a finite number is unknown; the functions that NumPy applies to single numbers are
parameters.  The rows of the arrays come as one list, so their lengths agree.
-/

namespace FxStrategyLab.H11

open Library.Columns (roll blank lag rolling countSince)

/-- What NumPy works out on single numbers; no logarithm where it is not finite. -/
structure Numeric (K : Type) where
  log : K → Option K
  sqrt : K → K
  sin : K → K
  cos : K → K
  pi : K

def predictionHorizonBars : Nat := 24

def maxFeatureLookbackBars : Nat := 120

def zscoreWindowBars : Nat := 500

section Arrays

variable {K : Type} [Field K] [LinearOrder K] (numeric : Numeric K)

def sub (xs ys : List (Option K)) : List (Option K) :=
  List.zipWith (Option.map₂ fun x y => x - y) xs ys

def finiteRatio : Option K → Option K → Option K
  | some x, some y => if y = 0 then none else some (x / y)
  | _, _ => none

def ratio (xs ys : List (Option K)) : List (Option K) :=
  List.zipWith finiteRatio xs ys

/-- NumPy's `clip` to both sides of zero. -/
def clip (bound x : K) : K :=
  min (max x (-bound)) bound

variable (window : Nat)

def meanOf (values : List K) : K :=
  values.sum / window

def rollingMean (values : List (Option K)) : List (Option K) :=
  rolling (meanOf window) window values

def rollingStd (values : List (Option K)) : List (Option K) :=
  rolling (fun vs => numeric.sqrt (meanOf window (vs.map fun v => (v - meanOf window vs) ^ 2)))
    window values

def rollingZscore (values : List (Option K)) : List (Option K) :=
  (ratio (sub values (rollingMean zscoreWindowBars values))
    (rollingStd numeric zscoreWindowBars values)).map (Option.map (clip 4))

def maxOf (values : List K) : K :=
  values.foldl max (values.headD 0)

def minOf (values : List K) : K :=
  values.foldl min (values.headD 0)

def rollingMax (values : List (Option K)) : List (Option K) :=
  rolling maxOf window values

def rollingMin (values : List (Option K)) : List (Option K) :=
  rolling minOf window values

def stack {β : Type} (n : Nat) (columns : List (List β)) : List (List β) :=
  (List.range n).map fun i => columns.filterMap fun column => column[i]?

end Arrays

/-- A bar of the arrays that `compute_features` takes. -/
structure H11Bar (K : Type) where
  high : Option K
  low : Option K
  close : Option K
  hourJst : Int
  spreadWide : K

structure H11FeatureMatrix (K : Type) where
  expertFeatures : List (List (List (Option K)))
  regimeAxes : List (List (Option K))
  eligible : List Bool

/-- What `compute_features` can raise. -/
inductive FeatureError
  | indexError

section Regime

variable {K : Type} [Field K] [LinearOrder K] (numeric : Numeric K) (bars : List (H11Bar K))

def highs : List (Option K) := bars.map H11Bar.high

def lows : List (Option K) := bars.map H11Bar.low

def closes : List (Option K) := bars.map H11Bar.close

/-- `np.log(close)`. -/
def logCloses : List (Option K) :=
  bars.map fun bar => bar.close.bind numeric.log

def retOver (k : Nat) : List (Option K) :=
  blank k (sub (logCloses numeric bars) (roll (logCloses numeric bars) k))

def overMean (window : Nat) : List (Option K) :=
  sub (closes bars) (rollingMean window (closes bars))

/-- The true ranges of `_atr`. -/
def trueRanges : List (Option K) :=
  let prevClose := lag 1 (closes bars)
  let spans := sub (highs bars) (lows bars)
  let ups := (sub (highs bars) prevClose).map (Option.map abs)
  let downs := (sub (lows bars) prevClose).map (Option.map abs)
  List.zipWith (Option.map₂ max) spans (List.zipWith (Option.map₂ max) ups downs)

def atr (window : Nat) : List (Option K) :=
  rollingMean window (trueRanges bars)

/-- `np.diff` of the closes, behind an unknown entry. -/
def closeChanges : List (Option K) :=
  sub (closes bars) (none :: closes bars)

def gainOf (change : Option K) : Option K :=
  some (change.elim 0 fun d => if 0 < d then d else 0)

def lossOf (change : Option K) : Option K :=
  some (change.elim 0 fun d => if d < 0 then -d else 0)

/-- The index of a mean gain and a mean loss. -/
def rsiOf : Option K → Option K → Option K
  | some gain, some loss =>
      -- without a loss the quotient is not finite, and without a gain either it is no number
      if loss = 0 then some (if 0 < gain then 100 else 50)
      else some (100 - 100 / (1 + gain / loss))
  | some gain, none => some (if 0 < gain then 100 else 50)
  | none, _ => some 50

/-- Source `_rsi`, with its window of 14. -/
def rsi : List (Option K) :=
  blank 14 (List.zipWith rsiOf (rollingMean 14 ((closeChanges bars).map gainOf))
    (rollingMean 14 ((closeChanges bars).map lossOf)))

def bollPos : List (Option K) :=
  ratio (overMean bars 20) ((rollingStd numeric 20 (closes bars)).map (Option.map fun v => 2 * v))

def compression : List (Option K) :=
  ratio (atr bars 14) (atr bars 96)

/-- The distance of a breakout, zero inside the prior range. -/
def breakoutOf : Option K → Option K → Option K
  | some up, some down => some (if 0 < up then up else if down < 0 then down else 0)
  | _, _ => none

def breakoutDist : List (Option K) :=
  List.zipWith breakoutOf
    (ratio (sub (closes bars) (lag 1 (rollingMax 24 (highs bars)))) (atr bars 24))
    (ratio (sub (closes bars) (lag 1 (rollingMin 24 (lows bars)))) (atr bars 24))

def broke (distance : Option K) : Bool :=
  distance.any fun d => d ≠ 0

def barsSince : List (Option K) :=
  (countSince 96 ((breakoutDist bars).map broke)).map (Option.map fun (n : Nat) => (n : K))

def expertColumns : List (List (List (Option K))) :=
  [[rollingZscore numeric (retOver numeric bars predictionHorizonBars),
    rollingZscore numeric (retOver numeric bars maxFeatureLookbackBars),
    rollingZscore numeric (overMean bars 120)],
   [rollingZscore numeric (overMean bars 24),
    rollingZscore numeric (rsi bars),
    (bollPos numeric bars).map (Option.map (clip 4))],
   [rollingZscore numeric (compression bars),
    (breakoutDist bars).map (Option.map (clip 4)),
    rollingZscore numeric (barsSince bars)]]

def sessionOf (hourJst : Int) : K :=
  (if hourJst < 9 then 2 else if hourJst < 16 then 0 else 1) - 1

def regimeColumns : List (List (Option K)) :=
  [rollingZscore numeric ((overMean bars 120).map (Option.map abs)),
   rollingZscore numeric (atr bars 24),
   rollingZscore numeric (compression bars),
   bars.map fun bar => some (sessionOf bar.hourJst),
   bars.map fun bar => some bar.spreadWide]

def rowFinite (row : List (Option K)) : Bool :=
  row.all Option.isSome

/-- Source `compute_features`; `_atr` writes to the first entry of its array. -/
def computeFeatures : Except FeatureError (H11FeatureMatrix K) :=
  if bars = [] then .error .indexError
  else
    let expertFeatures := stack bars.length ((expertColumns numeric bars).map (stack bars.length))
    let regimeAxes := stack bars.length (regimeColumns numeric bars)
    .ok {
      expertFeatures
      regimeAxes
      eligible := List.zipWith (fun experts axes => experts.all rowFinite && rowFinite axes)
        expertFeatures regimeAxes }

end Regime

/-- A row of the frame that `compute_short_features` takes: its close as a number, and the hour
and the minute of its time, where they can be read. -/
structure ShortRow (K : Type) where
  close : Option K
  clock : Option (Nat × Nat)

section Short

variable {K : Type} [Field K] [LinearOrder K] (numeric : Numeric K) (frame : List (ShortRow K))

def shortCloses : List (Option K) := frame.map ShortRow.close

/-- `np.log(close)`. -/
def shortLogCloses : List (Option K) :=
  frame.map fun row => row.close.bind numeric.log

/-- The `diff` of pandas. -/
def diff (k : Nat) (values : List (Option K)) : List (Option K) :=
  sub values (lag k values)

/-- `vol_30`, unknown where it is zero. -/
def volatility30 : List (Option K) :=
  (rollingStd numeric 30 (diff 1 (shortLogCloses numeric frame))).map
    (Option.filter fun v => v ≠ 0)

/-- `vol_10`. -/
def volatility10 : List (Option K) :=
  rollingStd numeric 10 (diff 1 (shortLogCloses numeric frame))

/-- The return over some rows, by the volatility over as many. -/
def retNorm (k : Nat) : List (Option K) :=
  ratio (diff k (shortLogCloses numeric frame))
    ((volatility30 numeric frame).map (Option.map fun v => v * numeric.sqrt k))

def smaDistanceNorm (window : Nat) : List (Option K) :=
  ratio
    ((ratio (shortCloses frame) (rollingMean window (shortCloses frame))).map
      (Option.map fun q => q - 1))
    (volatility30 numeric frame)

def angleOf (clock : Nat × Nat) : K :=
  2 * numeric.pi * (((clock.1 + 9) % 24 * 60 + clock.2 : Nat) : K) / 1440

/-- The columns of the short features, in the order of `FEATURE_NAMES`. -/
def shortColumns : List (List (Option K)) :=
  [ratio (diff 1 (shortLogCloses numeric frame)) (volatility30 numeric frame),
   retNorm numeric frame 5,
   retNorm numeric frame 10,
   retNorm numeric frame 30,
   smaDistanceNorm numeric frame 10,
   smaDistanceNorm numeric frame 30,
   (ratio (volatility10 numeric frame) (volatility30 numeric frame)).map
     (Option.map fun q => q - 1),
   frame.map fun row => row.clock.map fun clock => numeric.sin (angleOf numeric clock),
   frame.map fun row => row.clock.map fun clock => numeric.cos (angleOf numeric clock)]

def computeShortFeatures : List (List (Option K)) :=
  stack frame.length ((shortColumns numeric frame).map (List.map (Option.map (clip 8))))

end Short

end FxStrategyLab.H11
