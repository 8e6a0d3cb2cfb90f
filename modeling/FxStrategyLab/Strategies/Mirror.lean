import FxStrategyLab.Strategies.Signals

/-!
# The strategies on a mirrored frame

Four strategies give the mirrored action on a mirrored frame, the breakout as long as a close is
not above the highs and below the lows at once.  The relative strength is mirrored where closes
rose and fell, or did neither: without falls it is 50 and not 100, while without rises it is 0.
So the law fails where closes start to move in one direction, and where the first move back
leaves the relative strength beyond a level.

**Results.** `level_cases` and `mirror_law_iff`.
-/

namespace FxStrategyLab.Strategies

open CandleBacktest (Candle Action StrategyConfig StrategySignal StrategyType)
open Library.Columns (rolling window)
open Library.Series (at? slice at?_neg)
open Library.Smoothing (diff ewm moves average)

def mirrored (c : ℚ) (candle : Candle) : Candle :=
  { candle with
    openPrice := c - candle.openPrice
    close := c - candle.close
    high := c - candle.low
    low := c - candle.high }

def mirrorFrame (c : ℚ) (frame : List Candle) : List Candle :=
  frame.map (mirrored c)

def Rises (close : List ℚ) : Prop :=
  ∃ move ∈ moves close, 0 < move

def Falls (close : List ℚ) : Prop :=
  ∃ move ∈ moves close, move < 0

def OneSided (close : List ℚ) : Prop :=
  Rises close ∧ ¬ Falls close ∨ Falls close ∧ ¬ Rises close

def averageGain (period : Nat) (close : List ℚ) : ℚ :=
  average (1 / period) ((moves close).map (max 0))

def averageLoss (period : Nat) (close : List ℚ) : ℚ :=
  average (1 / period) ((moves close).map fun move => -min 0 move)

/-- The closes do not start to move with the last one, and a first move back does not leave
smoothed rises and falls in a share that is beyond a level. -/
structure EvenStrength (period : Nat) (oversold overbought : ℚ) (close : List ℚ) : Prop where
  started : OneSided close → OneSided close.dropLast
  risen : Rises close.dropLast → ¬ Falls close.dropLast → Falls close →
    100 * averageGain period close <
      overbought * (averageGain period close + averageLoss period close)
  fallen : Falls close.dropLast → ¬ Rises close.dropLast → Rises close →
    oversold * (averageGain period close + averageLoss period close) <
      100 * averageGain period close

def AboveHighs (frame : List Candle) (period : Nat) : Prop :=
  period + 1 ≤ frame.length ∧ Both (· > ·) ((at? frame (-1)).map Candle.close)
    ((slice frame (-period - 1) (-1)).map Candle.high).max?

def BelowLows (frame : List Candle) (period : Nat) : Prop :=
  period + 1 ≤ frame.length ∧ Both (· < ·) ((at? frame (-1)).map Candle.close)
    ((slice frame (-period - 1) (-1)).map Candle.low).min?

structure EvenFrame (frame : List Candle) (config : StrategyConfig) : Prop where
  strength : config.strategyType = .rsiReversal → config.rsiPeriod + 2 ≤ frame.length →
    EvenStrength config.rsiPeriod config.oversold config.overbought (closes frame)
  breakout : config.strategyType = .breakout →
    ¬ (AboveHighs frame config.breakoutPeriod ∧ BelowLows frame config.breakoutPeriod)

section Law

variable {K : Type} [Field K] [LinearOrder K] (numbers : Numbers K)

/-- A mirrored frame gives a buy exactly for a sale, and a sale exactly for a buy. -/
structure MirrorLaw (frame : List Candle) (c : ℚ) (config : StrategyConfig) : Prop where
  buy : (evaluateStrategy numbers (mirrorFrame c frame) config).action = .buy ↔
    (evaluateStrategy numbers frame config).action = .sell
  sell : (evaluateStrategy numbers (mirrorFrame c frame) config).action = .sell ↔
    (evaluateStrategy numbers frame config).action = .buy

end Law

/-- An action is a buy under one condition, and else a sale under another. -/
structure Decides (action : Action) (P Q : Prop) : Prop where
  buy : action = .buy ↔ P
  sell : action = .sell ↔ ¬ P ∧ Q

theorem mirror_of_decides {action action' : Action} {P Q : Prop} (h : Decides action P Q)
    (h' : Decides action' Q P) :
    ((action' = .buy ↔ action = .sell) ∧ (action' = .sell ↔ action = .buy)) ↔ ¬ (P ∧ Q) := by
  rw [h.buy, h.sell, h'.buy, h'.sell]
  tauto

theorem Decides.congr {action : Action} {P Q P' Q' : Prop} (h : Decides action P Q)
    (hP : P ↔ P') (hQ : Q ↔ Q') : Decides action P' Q' := by
  rwa [← propext hP, ← propext hQ]

section Mirrored

variable (c : ℚ) (frame : List Candle)

@[simp] theorem length_mirrorFrame : (mirrorFrame c frame).length = frame.length := by
  simp [mirrorFrame]

theorem closes_mirrorFrame : closes (mirrorFrame c frame) = (closes frame).map (c - ·) := by
  simp [closes, mirrorFrame, mirrored, Function.comp_def]

variable {α β : Type}

theorem at?_map (f : α → β) (xs : List α) (index : Int) :
    at? (xs.map f) index = (at? xs index).map f := by
  unfold at?
  rw [List.length_map]
  cases Library.Series.position xs.length index <;> simp

theorem slice_map (f : α → β) (xs : List α) (start stop : Int) :
    slice (xs.map f) start stop = (slice xs start stop).map f := by
  simp [slice, List.map_drop, List.map_take]

theorem both_map (r : ℚ → ℚ → Prop) (f : ℚ → ℚ) (x y : Option ℚ) :
    Both r (x.map f) (y.map f) ↔ Both (fun a b => r (f a) (f b)) x y := by
  cases x <;> cases y <;> simp [Both]

theorem min?_mirrored (xs : List ℚ) : (xs.map (c - ·)).min? = xs.max?.map (c - ·) := by
  cases xs with
  | nil => rfl
  | cons x xs =>
      simp only [List.map_cons, List.min?_cons', List.max?_cons', Option.map_some,
        Option.some.injEq]
      induction xs generalizing x with
      | nil => rfl
      | cons y ys ih =>
          simp only [List.map_cons, List.foldl_cons]
          rw [min_sub_sub_left]
          exact ih (max x y)

theorem max?_mirrored (xs : List ℚ) : (xs.map (c - ·)).max? = xs.min?.map (c - ·) := by
  cases xs with
  | nil => rfl
  | cons x xs =>
      simp only [List.map_cons, List.min?_cons', List.max?_cons', Option.map_some,
        Option.some.injEq]
      induction xs generalizing x with
      | nil => rfl
      | cons y ys ih =>
          simp only [List.map_cons, List.foldl_cons]
          rw [max_sub_sub_left]
          exact ih (min x y)

theorem mean_mirrored {xs : List ℚ} (hxs : xs ≠ []) : mean (xs.map (c - ·)) = c - mean xs := by
  have hlength : (xs.length : ℚ) ≠ 0 := by simpa using hxs
  have hsum : (xs.map (c - ·)).sum = xs.length * c - xs.sum := by
    clear hxs hlength
    induction xs with
    | nil => simp
    | cons x xs ih =>
        simp only [List.map_cons, List.sum_cons, List.length_cons, ih]
        push_cast
        ring
  unfold mean
  rw [hsum, List.length_map]
  field_simp

theorem variance_mirrored {xs : List ℚ} (hxs : xs ≠ []) :
    variance (xs.map (c - ·)) = variance xs := by
  unfold variance
  rw [mean_mirrored c hxs, List.map_map]
  congr 1
  refine List.map_congr_left fun x _ => ?_
  simp only [Function.comp_apply]
  ring

theorem mapM_id_map (f : α → β) (xs : List (Option α)) :
    (xs.map (Option.map f)).mapM id = (xs.mapM id).map (List.map f) := by
  induction xs with
  | nil => rfl
  | cons x xs ih =>
      cases x with
      | none => simp [List.mapM_cons]
      | some x =>
          rw [List.map_cons, List.mapM_cons, List.mapM_cons, ih]
          cases xs.mapM id <;> rfl

theorem movingAverage_mirrored {period : Nat} (hperiod : period ≠ 0) :
    movingAverage (mirrorFrame c frame) period =
      (movingAverage frame period).map (Option.map (c - ·)) := by
  unfold movingAverage rolling
  rw [closes_mirrorFrame, List.map_map, List.length_map, List.length_map, List.map_map]
  refine List.map_congr_left fun i hi => ?_
  simp only [Function.comp_apply]
  split_ifs with hshort
  · rfl
  · have hwindow : window (period - 1) ((closes frame).map (some ∘ (c - ·))) i =
        (window (period - 1) ((closes frame).map some) i).map (Option.map (c - ·)) := by
      simp [window, List.map_drop, List.map_take, Function.comp_def]
    rw [hwindow, mapM_id_map, Option.map_map, Option.map_map]
    cases hvalues : (window (period - 1) ((closes frame).map some) i).mapM id with
    | none => rfl
    | some values =>
        have hne : values ≠ [] := by
          rintro rfl
          have hnil := Library.Columns.map_some_of_mapM hvalues
          have hlength := congrArg List.length hnil
          simp only [window, List.length_drop, List.length_take, List.length_map,
            List.map_nil, List.length_nil] at hlength
          have hlt := List.mem_range.mp hi
          omega
        simp [mean_mirrored c hne]

theorem known_mirrored {period : Nat} (hperiod : period ≠ 0) (index : Int) :
    known (movingAverage (mirrorFrame c frame) period) index =
      (known (movingAverage frame period) index).map (c - ·) := by
  unfold known
  rw [movingAverage_mirrored c frame hperiod, at?_map]
  cases at? (movingAverage frame period) index <;> rfl

end Mirrored

section Decisions

variable {K : Type} [Field K] [LinearOrder K] (numbers : Numbers K) (frame : List Candle)

/-- The condition of a cross, by the orders of the averages before and behind it. -/
def Crosses (before behind : ℚ → ℚ → Prop) (shortPeriod longPeriod : Nat) : Prop :=
  longPeriod + 1 ≤ frame.length ∧
    Both before (known (movingAverage frame shortPeriod) (-2))
      (known (movingAverage frame longPeriod) (-2)) ∧
    Both behind (known (movingAverage frame shortPeriod) (-1))
      (known (movingAverage frame longPeriod) (-1))

theorem movingAverageCross_decides (shortPeriod longPeriod : Nat) :
    Decides (movingAverageCrossSignal frame shortPeriod longPeriod).1
      (Crosses frame (· ≤ ·) (· > ·) shortPeriod longPeriod)
      (Crosses frame (· ≥ ·) (· < ·) shortPeriod longPeriod) := by
  unfold movingAverageCrossSignal Crosses
  by_cases hshort : frame.length < longPeriod + 1
  · constructor <;> simp [hshort] <;> omega
  · have hlong : longPeriod + 1 ≤ frame.length := by omega
    simp only [hshort, if_false, hlong, true_and]
    constructor <;> split_ifs <;> simp_all

variable (c : ℚ)

theorem crosses_mirrored (before behind : ℚ → ℚ → Prop) {shortPeriod longPeriod : Nat}
    (hshort : shortPeriod ≠ 0) (hlong : longPeriod ≠ 0) :
    Crosses (mirrorFrame c frame) before behind shortPeriod longPeriod ↔
      Crosses frame (fun a b => before (c - a) (c - b)) (fun a b => behind (c - a) (c - b))
        shortPeriod longPeriod := by
  unfold Crosses
  rw [length_mirrorFrame, known_mirrored c frame hshort, known_mirrored c frame hshort,
    known_mirrored c frame hlong, known_mirrored c frame hlong, both_map, both_map]

theorem breakout_decides (period : Nat) :
    Decides (breakoutSignal numbers frame period).1 (AboveHighs frame period)
      (BelowLows frame period) := by
  unfold breakoutSignal AboveHighs BelowLows
  by_cases hshort : frame.length < period + 1
  · constructor <;> simp [hshort] <;> omega
  · have hlong : period + 1 ≤ frame.length := by omega
    simp only [hshort, if_false, hlong, true_and]
    constructor <;> split_ifs <;> simp_all

theorem aboveHighs_mirrored (period : Nat) :
    AboveHighs (mirrorFrame c frame) period ↔ BelowLows frame period := by
  have hhighs : (slice (mirrorFrame c frame) (-period - 1) (-1)).map Candle.high =
      ((slice frame (-period - 1) (-1)).map Candle.low).map (c - ·) := by
    rw [mirrorFrame, slice_map, List.map_map, List.map_map]
    rfl
  have hclose : (at? (mirrorFrame c frame) (-1)).map Candle.close =
      ((at? frame (-1)).map Candle.close).map (c - ·) := by
    rw [mirrorFrame, at?_map, Option.map_map, Option.map_map]
    rfl
  unfold AboveHighs BelowLows
  rw [length_mirrorFrame, hhighs, hclose, max?_mirrored, both_map]
  simp

theorem belowLows_mirrored (period : Nat) :
    BelowLows (mirrorFrame c frame) period ↔ AboveHighs frame period := by
  have hlows : (slice (mirrorFrame c frame) (-period - 1) (-1)).map Candle.low =
      ((slice frame (-period - 1) (-1)).map Candle.high).map (c - ·) := by
    rw [mirrorFrame, slice_map, List.map_map, List.map_map]
    rfl
  have hclose : (at? (mirrorFrame c frame) (-1)).map Candle.close =
      ((at? frame (-1)).map Candle.close).map (c - ·) := by
    rw [mirrorFrame, at?_map, Option.map_map, Option.map_map]
    rfl
  unfold AboveHighs BelowLows
  rw [length_mirrorFrame, hlows, hclose, min?_mirrored, both_map]
  simp

def bandWindow (period : Nat) : List ℚ :=
  (closes frame).drop (frame.length - period)

/-- The last close is a number of deviations away from the mean of the window, on one side. -/
def Outside (side : ℚ → K) (period : Nat) (sigma : ℚ) : Prop :=
  period ≤ frame.length ∧ 0 < numbers.sqrt (variance (bandWindow frame period)) ∧
    ∃ close ∈ at? (closes frame) (-1), (sigma : K) *
      numbers.sqrt (variance (bandWindow frame period)) ≤
        side (close - mean (bandWindow frame period))

theorem bollinger_decides [IsStrictOrderedRing K] (period : Nat) (sigma : ℚ) :
    Decides (bollingerReversionSignal numbers frame period sigma).1
      (Outside numbers frame (fun x => -(x : K)) period sigma)
      (Outside numbers frame (fun x => (x : K)) period sigma) := by
  unfold bollingerReversionSignal Outside bandWindow
  by_cases hshort : frame.length < period
  · constructor <;> simp [hshort, not_le.mpr hshort]
  · have hlong : period ≤ frame.length := by omega
    simp only [hshort, if_false, hlong, true_and]
    generalize hwindow : (closes frame).drop (frame.length - period) = window
    by_cases hstd : numbers.sqrt (variance window) ≤ 0
    · constructor <;> simp [hstd, not_lt.mpr hstd]
    · simp only [hstd, if_false, not_le.mp hstd, true_and]
      cases hclose : at? (closes frame) (-1) with
      | none => constructor <;> simp
      | some close =>
          have hlower : (close : K) ≤ (mean window : ℚ) -
              (sigma : K) * numbers.sqrt (variance window) ↔
              (sigma : K) * numbers.sqrt (variance window) ≤ -((close - mean window : ℚ) : K) := by
            push_cast
            constructor <;> intro h <;> linarith
          have hupper : (mean window : ℚ) + (sigma : K) * numbers.sqrt (variance window) ≤
              (close : K) ↔
              (sigma : K) * numbers.sqrt (variance window) ≤ ((close - mean window : ℚ) : K) := by
            push_cast
            constructor <;> intro h <;> linarith
          simp only [hlower, hupper, Option.mem_def, Option.some.injEq, exists_eq_left']
          constructor <;> split_ifs <;> simp_all

theorem outside_mirrored (side : ℚ → K) (c : ℚ) {period : Nat} (hperiod : period ≠ 0)
    (sigma : ℚ) :
    Outside numbers (mirrorFrame c frame) side period sigma ↔
      Outside numbers frame (fun x => side (-x)) period sigma := by
  unfold Outside
  rw [length_mirrorFrame]
  refine and_congr_right fun hlong => ?_
  have hwindow : bandWindow (mirrorFrame c frame) period =
      (bandWindow frame period).map (c - ·) := by
    rw [bandWindow, bandWindow, closes_mirrorFrame, length_mirrorFrame, List.map_drop]
  have hne : bandWindow frame period ≠ [] := by
    intro hnil
    have hlength := congrArg List.length hnil
    simp only [bandWindow, closes, List.length_drop, List.length_map, List.length_nil] at hlength
    omega
  rw [hwindow, variance_mirrored c hne, mean_mirrored c hne, closes_mirrorFrame, at?_map]
  refine and_congr_right fun _ => ?_
  cases at? (closes frame) (-1) with
  | none => simp
  | some close => simp

/-- A candle rejects the extreme of a window on its lower side. -/
def RejectsLow (lookback : Nat) (wickRatio : ℚ) : Prop :=
  lookback ≤ frame.length ∧ ∃ row ∈ at? frame (-1), 0 < row.high - row.low ∧
    Both (· ≤ ·) (some row.low) ((frame.drop (frame.length - lookback)).map Candle.low).min? ∧
    wickRatio * (row.high - row.low) ≤ min row.openPrice row.close - row.low

/-- A candle rejects the extreme of a window on its upper side. -/
def RejectsHigh (lookback : Nat) (wickRatio : ℚ) : Prop :=
  lookback ≤ frame.length ∧ ∃ row ∈ at? frame (-1), 0 < row.high - row.low ∧
    Both (· ≥ ·) (some row.high) ((frame.drop (frame.length - lookback)).map Candle.high).max? ∧
    wickRatio * (row.high - row.low) ≤ row.high - max row.openPrice row.close

theorem marketStructure_decides (lookback : Nat) (wickRatio : ℚ) :
    Decides (marketStructureReversionSignal numbers frame lookback wickRatio).1
      (RejectsLow frame lookback wickRatio) (RejectsHigh frame lookback wickRatio) := by
  unfold marketStructureReversionSignal RejectsLow RejectsHigh
  by_cases hshort : frame.length < lookback
  · constructor <;> simp [hshort, not_le.mpr hshort]
  · have hlong : lookback ≤ frame.length := by omega
    simp only [hshort, if_false, hlong, true_and]
    cases hrow : at? frame (-1) with
    | none => constructor <;> simp
    | some row =>
        simp only [Option.mem_def, Option.some.injEq, exists_eq_left']
        by_cases hrange : row.high - row.low ≤ 0
        · constructor <;> simp [hrange, not_lt.mpr hrange]
        · simp only [hrange, if_false, not_le.mp hrange, true_and]
          constructor <;> split_ifs <;> simp_all

theorem rejectsLow_mirrored (lookback : Nat) (wickRatio : ℚ) :
    RejectsLow (mirrorFrame c frame) lookback wickRatio ↔
      RejectsHigh frame lookback wickRatio := by
  have hlows : ((mirrorFrame c frame).drop (frame.length - lookback)).map Candle.low =
      ((frame.drop (frame.length - lookback)).map Candle.high).map (c - ·) := by
    rw [mirrorFrame, ← List.map_drop, List.map_map, List.map_map]
    rfl
  unfold RejectsLow RejectsHigh
  rw [length_mirrorFrame, hlows, min?_mirrored]
  refine and_congr_right fun _ => ?_
  rw [mirrorFrame, at?_map]
  cases at? frame (-1) with
  | none => simp
  | some row =>
      have hboth := both_map (· ≤ ·) (c - ·) (some row.high)
        ((frame.drop (frame.length - lookback)).map Candle.high).max?
      simp only [Option.map_some] at hboth
      simp only [Option.map_some, Option.mem_def, Option.some.injEq, exists_eq_left', mirrored,
        hboth, min_sub_sub_left, sub_sub_sub_cancel_left, sub_le_sub_iff_left]

theorem rejectsHigh_mirrored (lookback : Nat) (wickRatio : ℚ) :
    RejectsHigh (mirrorFrame c frame) lookback wickRatio ↔
      RejectsLow frame lookback wickRatio := by
  have hhighs : ((mirrorFrame c frame).drop (frame.length - lookback)).map Candle.high =
      ((frame.drop (frame.length - lookback)).map Candle.low).map (c - ·) := by
    rw [mirrorFrame, ← List.map_drop, List.map_map, List.map_map]
    rfl
  unfold RejectsLow RejectsHigh
  rw [length_mirrorFrame, hhighs, max?_mirrored]
  refine and_congr_right fun _ => ?_
  rw [mirrorFrame, at?_map]
  cases at? frame (-1) with
  | none => simp
  | some row =>
      have hboth := both_map (· ≥ ·) (c - ·) (some row.low)
        ((frame.drop (frame.length - lookback)).map Candle.low).min?
      simp only [Option.map_some] at hboth
      simp only [Option.map_some, Option.mem_def, Option.some.injEq, exists_eq_left', mirrored,
        hboth, max_sub_sub_left, sub_sub_sub_cancel_left, ge_iff_le, sub_le_sub_iff_left]

end Decisions

section Strength

variable {period : Nat} {close : List ℚ}

theorem moves_mirrored (c : ℚ) (close : List ℚ) :
    moves (close.map (c - ·)) = (moves close).map fun move => -move := by
  unfold moves
  rw [← List.map_tail, List.zipWith_map, List.map_zipWith]
  congr 1
  funext x y
  ring

theorem averageGain_mirrored (c : ℚ) (close : List ℚ) :
    averageGain period (close.map (c - ·)) = averageLoss period close := by
  unfold averageGain averageLoss
  rw [moves_mirrored, List.map_map]
  congr 1
  refine List.map_congr_left fun move _ => ?_
  simpa using max_neg_neg 0 move

theorem averageLoss_mirrored (c : ℚ) (close : List ℚ) :
    averageLoss period (close.map (c - ·)) = averageGain period close := by
  unfold averageGain averageLoss
  rw [moves_mirrored, List.map_map]
  congr 1
  refine List.map_congr_left fun move _ => ?_
  have hmin : min 0 (-move) = -max 0 move := by simpa using min_neg_neg 0 move
  simp [hmin]

def level (period : Nat) (close : List ℚ) : ℚ :=
  rsiEntry (some (averageGain period close)) (some (averageLoss period close))

/-- **The last relative strength of closes is that of their smoothed rises and falls.** -/
theorem getElem?_calculateRsi_last (hperiod : period ≠ 0) (hlong : period + 1 ≤ close.length) :
    (calculateRsi close period)[close.length - 1]? = some (level period close) := by
  have hne : close ≠ [] := by
    rintro rfl
    simp at hlong
  have hmoves : (moves close).length = close.length - 1 := by
    simp [moves]
  have hsome : moves close ≠ [] := by
    intro hnil
    rw [hnil] at hmoves
    simp at hmoves
    omega
  have hshown : ∀ f : ℚ → ℚ,
      (ewm (1 / period : ℚ) period ((diff close).map (Option.map f)))[close.length - 1]? =
        some (some (average (1 / period : ℚ) ((moves close).map f))) := by
    intro f
    have hcount : period ≤ ((moves close).map f).length := by
      rw [List.length_map, hmoves]
      omega
    have hentry := Library.Smoothing.getElem?_ewm_known (1 / period : ℚ)
      (by simpa using hsome) hcount
    rw [List.length_map, hmoves] at hentry
    rw [Library.Smoothing.diff_eq hne]
    simpa [Function.comp_def] using hentry
  unfold calculateRsi gains losses
  rw [List.getElem?_zipWith, hshown, hshown]
  rfl

theorem at?_calculateRsi (hperiod : period ≠ 0) (hlong : period + 2 ≤ close.length) :
    at? (calculateRsi close period) (-2) = some (level period close.dropLast) ∧
      at? (calculateRsi close period) (-1) = some (level period close) := by
  have hlength : (calculateRsi close period).length = close.length :=
    (calculateRsi_causal period).length_eq close
  constructor
  · have hback := at?_neg (calculateRsi close period) (show 0 < 2 by omega) (by omega)
    have hne : close ≠ [] := by
      rintro rfl
      simp at hlong
    have hfront : (calculateRsi close period)[close.length - 2]? =
        (calculateRsi close.dropLast period)[close.length - 2]? := by
      have happend := (calculateRsi_causal period).getElem?_append close.dropLast
        [close.getLast hne] (i := close.length - 2) (by rw [List.length_dropLast]; omega)
      rwa [List.dropLast_append_getLast hne] at happend
    have henough : period + 1 ≤ close.dropLast.length := by
      rw [List.length_dropLast]
      omega
    have hlast := getElem?_calculateRsi_last hperiod henough
    rw [List.length_dropLast, show close.length - 1 - 1 = close.length - 2 by omega] at hlast
    rw [← hlast, ← hfront, ← hlength]
    exact_mod_cast hback
  · have hback := at?_neg (calculateRsi close period) (show 0 < 1 by omega) (by omega)
    rw [← getElem?_calculateRsi_last hperiod (by omega), ← hlength]
    exact_mod_cast hback

theorem averages_nonneg (hperiod : 2 ≤ period) (close : List ℚ) :
    0 ≤ averageGain period close ∧ 0 ≤ averageLoss period close ∧
      (averageGain period close = 0 ↔ ¬ Rises close) ∧
      (averageLoss period close = 0 ↔ ¬ Falls close) := by
  have hpos : (0 : ℚ) < 1 / period := by
    have : 0 < period := by omega
    positivity
  have hlt : (1 : ℚ) / period < 1 := by
    rw [div_lt_one (by positivity)]
    exact_mod_cast hperiod
  have hgains : ∀ x ∈ (moves close).map (max 0), (0 : ℚ) ≤ x := by
    simp
  have hlosses : ∀ x ∈ (moves close).map fun move => -min 0 move, (0 : ℚ) ≤ x := by
    simp
  refine ⟨Library.Smoothing.average_nonneg hpos.le hlt.le hgains,
    Library.Smoothing.average_nonneg hpos.le hlt.le hlosses, ?_, ?_⟩
  · rw [averageGain, Library.Smoothing.average_eq_zero_iff hpos hlt hgains]
    simp [Rises]
  · rw [averageLoss, Library.Smoothing.average_eq_zero_iff hpos hlt hlosses]
    simp [Falls]

/-- What closes that rose and fell in a way have as their relative strength, and as that of the
mirrored closes. -/
inductive LevelCase (period : Nat) (close : List ℚ) (level level' : ℚ) : Prop
  | still (rises : ¬ Rises close) (falls : ¬ Falls close) (h : level = 50) (h' : level' = 50)
  | risen (rises : Rises close) (falls : ¬ Falls close) (h : level = 50) (h' : level' = 0)
  | fallen (rises : ¬ Rises close) (falls : Falls close) (h : level = 0) (h' : level' = 50)
  | both (rises : Rises close) (falls : Falls close) (h : level' = 100 - level)
      (share : level * (averageGain period close + averageLoss period close) =
        100 * averageGain period close)
      (total : 0 < averageGain period close + averageLoss period close)

/-- **The relative strength of mirrored closes.** -/
theorem level_cases (hperiod : 2 ≤ period) (c : ℚ) (close : List ℚ) :
    LevelCase period close (level period close) (level period (close.map (c - ·))) := by
  obtain ⟨hgain, hloss, hrises, hfalls⟩ := averages_nonneg hperiod close
  unfold level
  rw [averageGain_mirrored, averageLoss_mirrored]
  by_cases hr : Rises close
  · have hg : 0 < averageGain period close :=
      lt_of_le_of_ne hgain (Ne.symm fun hzero => hrises.mp hzero hr)
    by_cases hf : Falls close
    · have hl : 0 < averageLoss period close :=
        lt_of_le_of_ne hloss (Ne.symm fun hzero => hfalls.mp hzero hf)
      have htotal : averageGain period close + averageLoss period close ≠ 0 := by positivity
      have htotal' : averageLoss period close + averageGain period close ≠ 0 := by positivity
      refine .both hr hf ?_ ?_ (by positivity)
      · simp only [rsiEntry, hl.ne', hg.ne', if_false]
        field_simp
        ring
      · simp only [rsiEntry, hl.ne', if_false]
        field_simp
        ring
    · refine .risen hr hf ?_ ?_
      · simp [rsiEntry, hfalls.mpr hf]
      · simp [rsiEntry, hfalls.mpr hf, hg.ne']
  · by_cases hf : Falls close
    · have hl : 0 < averageLoss period close :=
        lt_of_le_of_ne hloss (Ne.symm fun hzero => hfalls.mp hzero hf)
      refine .fallen hr hf ?_ ?_
      · simp [rsiEntry, hrises.mpr hr, hl.ne']
      · simp [rsiEntry, hrises.mpr hr]
    · refine .still hr hf ?_ ?_
      · simp [rsiEntry, hfalls.mpr hf]
      · simp [rsiEntry, hrises.mpr hr]

end Strength

section MirrorLaw

variable {K : Type} [Field K] [LinearOrder K] (numbers : Numbers K) (frame : List Candle)

def ComesDown (period : Nat) (oversold : ℚ) (close : List ℚ) : Prop :=
  oversold < level period close.dropLast ∧ level period close ≤ oversold

def ComesUp (period : Nat) (overbought : ℚ) (close : List ℚ) : Prop :=
  level period close.dropLast < overbought ∧ overbought ≤ level period close

variable {period shortPeriod longPeriod : Nat}

theorem rsiReversal_decides (hperiod : period ≠ 0) (oversold overbought : ℚ) :
    Decides (rsiReversalSignal numbers frame period oversold overbought).1
      (period + 2 ≤ frame.length ∧ ComesDown period oversold (closes frame))
      (period + 2 ≤ frame.length ∧ ComesUp period overbought (closes frame)) := by
  unfold rsiReversalSignal ComesDown ComesUp
  dsimp only
  by_cases hshort : frame.length < period + 2
  · constructor <;> simp [hshort, not_le.mpr hshort]
  · have hlong : period + 2 ≤ frame.length := by omega
    have hcloses : period + 2 ≤ (closes frame).length := by simpa [closes] using hlong
    obtain ⟨hprevious, hcurrent⟩ := at?_calculateRsi hperiod hcloses
    simp only [hshort, if_false, hlong, true_and, hprevious, hcurrent]
    constructor <;> split_ifs <;> simp_all

variable {oversold overbought sigma wickRatio : ℚ}

/-- **Mirrored closes come to the mirrored levels exactly when the relative strength is even.** -/
theorem strength_law (hperiod : 2 ≤ period)
    (hlow : 1 ≤ oversold ∧ oversold ≤ 49) (hsum : oversold + overbought = 100) (c : ℚ)
    (close : List ℚ) :
    ((ComesDown period oversold (close.map (c - ·)) ↔
        ¬ ComesDown period oversold close ∧ ComesUp period overbought close) ∧
      (¬ ComesDown period oversold (close.map (c - ·)) ∧
          ComesUp period overbought (close.map (c - ·)) ↔
        ComesDown period oversold close)) ↔
      EvenStrength period oversold overbought close := by
  obtain ⟨hpositive, hbelow⟩ := hlow
  have hover : overbought = 100 - oversold := by linarith
  subst hover
  have hmove : ∀ {move : ℚ}, move ∈ moves close.dropLast → move ∈ moves close := by
    intro move hmem
    obtain ⟨i, hi⟩ := List.mem_iff_getElem?.mp hmem
    have hlt := (List.getElem?_eq_some_iff.mp hi).1
    simp only [moves, List.length_zipWith, List.length_dropLast, List.length_tail] at hlt
    refine List.mem_of_getElem? (i := i) ?_
    simp only [moves, List.getElem?_zipWith, List.getElem?_tail, List.getElem?_dropLast] at hi ⊢
    rwa [if_pos (by omega), if_pos (by omega)] at hi
  have hriseLater : Rises close.dropLast → Rises close := by
    rintro ⟨move, hmem, hpos⟩
    exact ⟨move, hmove hmem, hpos⟩
  have hfallLater : Falls close.dropLast → Falls close := by
    rintro ⟨move, hmem, hneg⟩
    exact ⟨move, hmove hmem, hneg⟩
  have hbefore := level_cases hperiod c close.dropLast
  have hall := level_cases hperiod c close
  have heven : EvenStrength period oversold (100 - oversold) close ↔
      (OneSided close → OneSided close.dropLast) ∧
      (Rises close.dropLast → ¬ Falls close.dropLast → Falls close →
        100 * averageGain period close <
          (100 - oversold) * (averageGain period close + averageLoss period close)) ∧
      (Falls close.dropLast → ¬ Rises close.dropLast → Rises close →
        oversold * (averageGain period close + averageLoss period close) <
          100 * averageGain period close) :=
    ⟨fun h => ⟨h.started, h.risen, h.fallen⟩, fun h => ⟨h.1, h.2.1, h.2.2⟩⟩
  rw [heven]
  unfold ComesDown ComesUp OneSided
  rw [← List.map_dropLast]
  generalize level period close.dropLast = p at *
  generalize level period (close.dropLast.map (c - ·)) = p' at *
  generalize level period close = q at *
  generalize level period (close.map (c - ·)) = q' at *
  clear hmove heven
  cases hall with
  | still rises falls h h' =>
      have hrises := mt hriseLater rises
      have hfalls := mt hfallLater falls
      subst h h'
      grind
  | risen rises falls h h' =>
      have hfalls := mt hfallLater falls
      subst h h'
      cases hbefore <;> grind
  | fallen rises falls h h' =>
      have hrises := mt hriseLater rises
      subst h h'
      cases hbefore <;> grind
  | both rises falls h share total =>
      have hfrom : 100 * averageGain period close <
          (100 - oversold) * (averageGain period close + averageLoss period close) ↔
          q < 100 - oversold := by
        rw [← share]
        exact mul_lt_mul_iff_left₀ total
      have hto : oversold * (averageGain period close + averageLoss period close) <
          100 * averageGain period close ↔ oversold < q := by
        rw [← share]
        exact mul_lt_mul_iff_left₀ total
      rw [hfrom, hto]
      clear hfrom hto share total
      subst h
      cases hbefore <;> grind

def Mirrors (action action' : Action) : Prop :=
  (action' = .buy ↔ action = .sell) ∧ (action' = .sell ↔ action = .buy)

variable (c : ℚ)

theorem movingAverageCross_mirrors (hshort : shortPeriod ≠ 0) (hlong : longPeriod ≠ 0) :
    Mirrors (movingAverageCrossSignal frame shortPeriod longPeriod).1
      (movingAverageCrossSignal (mirrorFrame c frame) shortPeriod longPeriod).1 := by
  have hmirrored := movingAverageCross_decides (mirrorFrame c frame) shortPeriod longPeriod
  rw [crosses_mirrored frame c _ _ hshort hlong, crosses_mirrored frame c _ _ hshort hlong]
    at hmirrored
  simp only [sub_le_sub_iff_left, sub_lt_sub_iff_left, ge_iff_le, gt_iff_lt] at hmirrored
  refine (mirror_of_decides (movingAverageCross_decides frame shortPeriod longPeriod)
    hmirrored).mpr ?_
  rintro ⟨⟨-, -, a, ha, b, hb, habove⟩, -, -, a', ha', b', hb', hbelow⟩
  obtain rfl := Option.mem_unique ha ha'
  obtain rfl := Option.mem_unique hb hb'
  exact lt_asymm habove hbelow

theorem breakout_mirrors_iff (period : Nat) :
    Mirrors (breakoutSignal numbers frame period).1
        (breakoutSignal numbers (mirrorFrame c frame) period).1 ↔
      ¬ (AboveHighs frame period ∧ BelowLows frame period) :=
  mirror_of_decides (breakout_decides numbers frame period)
    ((breakout_decides numbers (mirrorFrame c frame) period).congr
      (aboveHighs_mirrored frame c period) (belowLows_mirrored frame c period))

theorem bollinger_mirrors [IsStrictOrderedRing K] (c : ℚ) (hperiod : period ≠ 0)
    (hsigma : 0 < sigma) :
    Mirrors (bollingerReversionSignal numbers frame period sigma).1
      (bollingerReversionSignal numbers (mirrorFrame c frame) period sigma).1 := by
  have hmirrored := bollinger_decides numbers (mirrorFrame c frame) period sigma
  rw [outside_mirrored numbers frame _ c hperiod, outside_mirrored numbers frame _ c hperiod]
    at hmirrored
  simp only [Rat.cast_neg, neg_neg] at hmirrored
  refine (mirror_of_decides (bollinger_decides numbers frame period sigma) hmirrored).mpr ?_
  rintro ⟨⟨-, hstd, close, hclose, hlower⟩, -, -, close', hclose', hupper⟩
  obtain rfl := Option.mem_unique hclose hclose'
  have hsigma' : (0 : K) < sigma := Rat.cast_pos.mpr hsigma
  have hband : 0 < (sigma : K) * numbers.sqrt (variance (bandWindow frame period)) :=
    mul_pos hsigma' hstd
  linarith

theorem marketStructure_mirrors (lookback : Nat) (hwick : 1 / 2 < wickRatio) :
    Mirrors (marketStructureReversionSignal numbers frame lookback wickRatio).1
      (marketStructureReversionSignal numbers (mirrorFrame c frame) lookback wickRatio).1 := by
  refine (mirror_of_decides (marketStructure_decides numbers frame lookback wickRatio)
    ((marketStructure_decides numbers (mirrorFrame c frame) lookback wickRatio).congr
      (rejectsLow_mirrored frame c lookback wickRatio)
      (rejectsHigh_mirrored frame c lookback wickRatio))).mpr ?_
  rintro ⟨⟨-, row, hrow, hrange, -, hlower⟩, -, row', hrow', -, -, hupper⟩
  obtain rfl := Option.mem_unique hrow hrow'
  -- both wicks together are no longer than the range
  have hbody : min row.openPrice row.close ≤ max row.openPrice row.close := min_le_max
  nlinarith

theorem rsiReversal_mirrors_iff (hperiod : 2 ≤ period)
    (hlow : 1 ≤ oversold ∧ oversold ≤ 49) (hsum : oversold + overbought = 100) :
    Mirrors (rsiReversalSignal numbers frame period oversold overbought).1
        (rsiReversalSignal numbers (mirrorFrame c frame) period oversold overbought).1 ↔
      (period + 2 ≤ frame.length →
        EvenStrength period oversold overbought (closes frame)) := by
  have hne : period ≠ 0 := by omega
  have hplain := rsiReversal_decides numbers frame hne oversold overbought
  have hmirrored := rsiReversal_decides numbers (mirrorFrame c frame) hne oversold overbought
  unfold Mirrors
  rw [hplain.buy, hplain.sell, hmirrored.buy, hmirrored.sell, length_mirrorFrame,
    closes_mirrorFrame]
  by_cases hlong : period + 2 ≤ frame.length
  · simp only [hlong, true_and, forall_const]
    exact strength_law hperiod hlow hsum c (closes frame)
  · simp [hlong]

/-- **A mirrored frame gives the mirrored action exactly when the frame is even.** -/
theorem mirror_law_iff [IsStrictOrderedRing K] (c : ℚ) (config : StrategyConfig)
    (hlevels : config.oversold + config.overbought = 100)
    (hwick : 1 / 2 < config.swingWickRatio) :
    MirrorLaw numbers frame c config ↔ EvenFrame frame config := by
  obtain ⟨⟨hshort, -⟩, ⟨hlong, -⟩, ⟨hrsi, -⟩, -, ⟨hband, -⟩, -⟩ := config.periods_bounded
  obtain ⟨hlow, -, ⟨hsigma, -⟩, -⟩ := config.levels_bounded
  have hlaw : MirrorLaw numbers frame c config ↔
      Mirrors (chosenSignal numbers frame config).1
        (chosenSignal numbers (mirrorFrame c frame) config).1 :=
    ⟨fun h => ⟨h.buy, h.sell⟩, fun h => ⟨h.1, h.2⟩⟩
  rw [hlaw]
  unfold chosenSignal
  cases htype : config.strategyType with
  | movingAverageCross =>
      have hshortNe : config.shortPeriod ≠ 0 := by omega
      have hlongNe : config.longPeriod ≠ 0 := by omega
      exact iff_of_true (movingAverageCross_mirrors frame c hshortNe hlongNe)
         ⟨by simp [htype], by simp [htype]⟩
  | rsiReversal =>
      refine (rsiReversal_mirrors_iff numbers frame c hrsi hlow hlevels).trans ?_
      exact ⟨fun h => ⟨fun _ => h, by simp [htype]⟩, fun h => h.strength htype⟩
  | bollingerReversion =>
      exact iff_of_true (bollinger_mirrors numbers frame c (by omega) hsigma)
        ⟨by simp [htype], by simp [htype]⟩
  | marketStructureReversion =>
      exact iff_of_true (marketStructure_mirrors numbers frame c config.swingLookback hwick)
        ⟨by simp [htype], by simp [htype]⟩
  | breakout =>
      refine (breakout_mirrors_iff numbers frame c config.breakoutPeriod).trans ?_
      exact ⟨fun h => ⟨by simp [htype], fun _ => h⟩, fun h => h.breakout htype⟩

end MirrorLaw

/-- A number with some digits behind the point. -/
def fixedText (digits : Nat) (x : ℚ) : String :=
  let scaled := (Library.Rounding.roundHalfEven (|x| * 10 ^ digits)).toNat
  let fraction := toString (scaled % 10 ^ digits)
  (if x < 0 then "-" else "") ++ toString (scaled / 10 ^ digits) ++
    if digits = 0 then "" else
      "." ++ String.ofList (List.replicate (digits - fraction.length) '0') ++ fraction

def rationalNumbers : Numbers ℚ where
  sqrt x := (Nat.sqrt x.num.toNat : ℚ) / Nat.sqrt x.den
  fixed := fixedText
  percent x := fixedText 0 (100 * x) ++ "%"
  text := fixedText 1

def flatCandle (timestamp : Int) (price : ℚ) : Candle :=
  { timestamp, openPrice := price, high := price, low := price, close := price }

def firstFall : List Candle :=
  [flatCandle 0 100, flatCandle 60 100, flatCandle 120 100, flatCandle 180 99]

theorem default_periods : 10 < 30 ∧ (30 : ℚ) < 70 := by
  norm_num

def shortStrength : StrategyConfig where
  strategyType := .rsiReversal
  rsiPeriod := 2
  swingWickRatio := 3 / 5
  periods_bounded := by decide
  levels_bounded := by norm_num
  validate_periods := default_periods

/-- A first fall is a buy, and the mirrored first rise is no sale. -/
theorem first_fall_not_mirrored :
    ¬ ((shortStrength.oversold + shortStrength.overbought = 100 ∧
        1 / 2 < shortStrength.swingWickRatio) →
      MirrorLaw rationalNumbers firstFall 200 shortStrength) := by
  intro hlaw
  have hconfig : shortStrength.oversold + shortStrength.overbought = 100 ∧
      1 / 2 < shortStrength.swingWickRatio := by
    norm_num [shortStrength]
  have hsell := (hlaw hconfig).sell
  have hbuy : (evaluateStrategy rationalNumbers firstFall shortStrength).action = .buy := by
    decide +kernel
  have hhold : (evaluateStrategy rationalNumbers (mirrorFrame 200 firstFall)
      shortStrength).action = .hold := by
    decide +kernel
  rw [hbuy, hhold] at hsell
  simp at hsell

/-- The law at the frame of a first fall. -/
theorem mirror_law_iff_first_fall :
    MirrorLaw rationalNumbers firstFall 200 shortStrength ↔
      EvenFrame firstFall shortStrength :=
  mirror_law_iff rationalNumbers firstFall 200 shortStrength (by norm_num [shortStrength])
    (by norm_num [shortStrength])

end FxStrategyLab.Strategies
