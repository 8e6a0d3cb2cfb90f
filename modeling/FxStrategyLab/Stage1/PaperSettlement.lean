import FxStrategyLab.Backtest.Engine
import FxStrategyLab.Contracts
import FxStrategyLab.Library.Rounding
import FxStrategyLab.Library.Series
import FxStrategyLab.Library.Spans

/-!
# Settlement of paper positions

The daily engine opens a paper position at the latest completed bar and settles it in a later
run.  A run sees only the last 1,500 completed bars, so the bar that ends a position can be
gone from its window when no run came in time; the loss of a settled position stays within the
bound, although the stop price and the result are rounded.

**Results.** `settle_within_bound` for one settlement, and `settlement_timing_iff`.
-/

namespace FxStrategyLab.Stage1

open Backtest (PaperSide)
open Library.Ranks (Increasing)
open Library.Rounding (roundHalfEven round)
open Library.Series (slice)

def positionSizeUnits : ℚ := 10000

def pipJpy : ℚ := 1 / 100

def frictionPipsPerSide : ℚ := 1 / 2

def slAtrMultiplier : ℚ := 3 / 2

def tpRMultiple : ℚ := 3 / 2

def maxHoldingBars : Int := 24

def perTradeMaxLossBoundJpy : Int := 5000

def minBarsForFeatures : Nat := 700

/-- An hourly BID bar. -/
structure H1Bar where
  timeUtc : Instant
  openPrice : ℚ
  high : ℚ
  low : ℚ
  close : ℚ

structure Stage1OpenPosition where
  direction : PaperSide
  entryTimeUtc : Instant
  entryPrice : ℚ
  slPrice : ℚ
  tpPrice : ℚ
  expiryTimeUtc : Instant
deriving DecidableEq

/-- The route of a settlement. -/
inductive PaperExit
  | paperExitSl
  | paperExitTp
  | paperExitTimeout
deriving DecidableEq

def friction (priceMoveSign : ℚ) : ℚ :=
  priceMoveSign * frictionPipsPerSide * pipJpy

def paperPnlJpy (direction : PaperSide) (entryPrice exitPrice : ℚ) : Int :=
  let effective :=
    match direction with
    | .paperLong => (exitPrice - friction 1) - (entryPrice + friction 1)
    | .paperShort => (entryPrice - friction 1) - (exitPrice + friction 1)
  roundHalfEven (effective * positionSizeUnits)

/-- The low of a bar reaches the stop of a LONG position, the high that of a SHORT one. -/
def Stage1OpenPosition.slHit (position : Stage1OpenPosition) (bar : H1Bar) : Bool :=
  match position.direction with
  | .paperLong => bar.low ≤ position.slPrice
  | .paperShort => position.slPrice ≤ bar.high

def Stage1OpenPosition.tpHit (position : Stage1OpenPosition) (bar : H1Bar) : Bool :=
  match position.direction with
  | .paperLong => position.tpPrice ≤ bar.high
  | .paperShort => bar.low ≤ position.tpPrice

def settlePosition (position : Stage1OpenPosition) : List H1Bar → Option (PaperExit × ℚ)
  | [] => none
  | bar :: bars =>
      if bar.timeUtc ≤ position.entryTimeUtc then settlePosition position bars
      else if position.slHit bar then some (.paperExitSl, position.slPrice)
      else if position.tpHit bar then some (.paperExitTp, position.tpPrice)
      else if position.expiryTimeUtc ≤ bar.timeUtc then some (.paperExitTimeout, bar.close)
      else settlePosition position bars

/-- What the features and the prediction say at the latest bar: an entry or none. -/
inductive PreviewDecision
  | trade (direction : PaperSide) (reason : String) (pUp : ℚ)
  | hold (reason : String) (pUp : Option ℚ)

/-- The decision that `build_entry_decision` returns. -/
inductive EntryDecision
  | noEntry (reason : String) (pUp : Option ℚ)
  | enter (reason : String) (pUp : ℚ) (position : Stage1OpenPosition)
deriving DecidableEq

/-- Python's `isoformat(timespec="seconds")` drops the part of a second. -/
def wholeSeconds (instant : Instant) : Instant :=
  instant / wallSeconds 1 * wallSeconds 1

def rollOne {α : Type} (xs : List α) : List α :=
  xs.getLast?.toList ++ xs.dropLast

def trueRanges (bars : List H1Bar) : List ℚ :=
  List.zipWith
    (fun bar previousClose =>
      max (bar.high - bar.low) (max |bar.high - previousClose| |bar.low - previousClose|))
    bars (rollOne (bars.map H1Bar.close))

def mean (values : List ℚ) : ℚ :=
  values.sum / values.length

def slWidthOf (bars : List H1Bar) : ℚ :=
  let row : Int := bars.length - 1
  let atr24 := mean (slice (trueRanges bars) (row - 23) (row + 1))
  slAtrMultiplier * atr24

section Entry

variable (evaluate : List H1Bar → Option PreviewDecision)

/-- Source `build_entry_decision`, over the features, the prediction and its preview. -/
def buildEntryDecision (bars : List H1Bar) : Option EntryDecision :=
  match bars.getLast? with
  | none => none
  | some last =>
      match evaluate bars with
      | none => some (.noEntry "FEATURES_NOT_ELIGIBLE" none)
      | some (.hold reason pUp) => some (.noEntry reason (pUp.map fun p => round p 3))
      | some (.trade direction reason pUp) =>
          let slWidth := slWidthOf bars
          let worstLossJpy := slWidth * positionSizeUnits +
            2 * frictionPipsPerSide * pipJpy * positionSizeUnits
          if (perTradeMaxLossBoundJpy : ℚ) < worstLossJpy then
            some (.noEntry "PER_TRADE_BOUND_WOULD_EXCEED" none)
          else
            let entryPrice := last.close
            let slPrice :=
              if direction = .paperLong then entryPrice - slWidth else entryPrice + slWidth
            let tpPrice :=
              if direction = .paperLong then entryPrice + tpRMultiple * slWidth
              else entryPrice - tpRMultiple * slWidth
            some (.enter reason (round pUp 3)
              { direction
                entryTimeUtc := wholeSeconds last.timeUtc
                entryPrice
                slPrice := round slPrice 4
                tpPrice := round tpPrice 4
                expiryTimeUtc :=
                  wholeSeconds (last.timeUtc + wallSeconds (3600 * maxHoldingBars)) })

end Entry

/-- The bars of a market: their times increase, and each closes in its range. -/
structure BarSeries where
  bars : List H1Bar
  increasing : Increasing H1Bar.timeUtc bars
  closes_inside : ∀ bar ∈ bars, bar.low ≤ bar.close ∧ bar.close ≤ bar.high

def completedBars (bars : List H1Bar) (now : Instant) : List H1Bar :=
  bars.filter fun bar => bar.timeUtc ≤ now - wallSeconds 3600

def runWindow (bars : List H1Bar) (now : Instant) : List H1Bar :=
  let completed := completedBars bars now
  completed.drop (completed.length - 1500)

def droppedBars (bars : List H1Bar) (now : Instant) : List H1Bar :=
  let completed := completedBars bars now
  completed.take (completed.length - 1500)

/-- The settlement of a run of `main` with an open position. -/
def runSettlement (position : Stage1OpenPosition) (bars : List H1Bar) (now : Instant) :
    Option (PaperExit × ℚ) :=
  if (completedBars bars now).length < minBarsForFeatures then none
  else settlePosition position (runWindow bars now)

def firstSettlement (position : Stage1OpenPosition) (bars : List H1Bar) (runs : List Instant) :
    Option (PaperExit × ℚ) :=
  runs.findSome? (runSettlement position bars)

/-- The settlement of the runs is that of the whole series, and within the loss bound. -/
def SettledAlike (position : Stage1OpenPosition) (bars : List H1Bar) (runs : List Instant) :
    Prop :=
  ∀ route exitPrice, firstSettlement position bars runs = some (route, exitPrice) →
    settlePosition position bars = some (route, exitPrice) ∧
      -perTradeMaxLossBoundJpy ≤ paperPnlJpy position.direction position.entryPrice exitPrice

def exitAt (position : Stage1OpenPosition) (bar : H1Bar) : Option (PaperExit × ℚ) :=
  if bar.timeUtc ≤ position.entryTimeUtc then none
  else if position.slHit bar then some (.paperExitSl, position.slPrice)
  else if position.tpHit bar then some (.paperExitTp, position.tpPrice)
  else if position.expiryTimeUtc ≤ bar.timeUtc then some (.paperExitTimeout, bar.close)
  else none

/-- A run has enough bars, and one of its window ends the position. -/
def SettlesAt (position : Stage1OpenPosition) (bars : List H1Bar) (now : Instant) : Prop :=
  minBarsForFeatures ≤ (completedBars bars now).length ∧
    ∃ bar ∈ runWindow bars now, (exitAt position bar).isSome
deriving Decidable

/-- The first run that settles the position has dropped no bar that ends it, or ends it as the
first one that it dropped. -/
def NoExitMissed (position : Stage1OpenPosition) (bars : List H1Bar) (runs : List Instant) :
    Prop :=
  ∀ now ∈ runs.find? (fun now => SettlesAt position bars now),
    ∀ dropped ∈ (droppedBars bars now).find? (fun bar => (exitAt position bar).isSome),
      ∀ seen ∈ (runWindow bars now).find? (fun bar => (exitAt position bar).isSome),
        exitAt position dropped = exitAt position seen

instance (position : Stage1OpenPosition) (bars : List H1Bar) (runs : List Instant) :
    Decidable (NoExitMissed position bars runs) := by
  unfold NoExitMissed
  infer_instance

section Bound

variable {position : Stage1OpenPosition} {bars : List H1Bar}

/-- The levels of an opened position: a width within the loss bound, and prices that are
rounded to four places. -/
structure Opened (position : Stage1OpenPosition) (slWidth : ℚ) : Prop where
  width_nonneg : 0 ≤ slWidth
  width_bound : slWidth * positionSizeUnits +
    2 * frictionPipsPerSide * pipJpy * positionSizeUnits ≤ perTradeMaxLossBoundJpy
  sl : position.slPrice =
    round (position.entryPrice - position.direction.direction * slWidth) 4
  tp : position.tpPrice =
    round (position.entryPrice + position.direction.direction * (tpRMultiple * slWidth)) 4

theorem trueRanges_nonneg (bars : List H1Bar) : ∀ range ∈ trueRanges bars, 0 ≤ range := by
  unfold trueRanges
  intro range hrange
  rw [← List.map_uncurry_zip_eq_zipWith, List.mem_map] at hrange
  obtain ⟨⟨bar, previousClose⟩, -, rfl⟩ := hrange
  exact le_max_of_le_right (le_max_of_le_left (abs_nonneg _))

theorem mean_nonneg {values : List ℚ} (h : ∀ value ∈ values, 0 ≤ value) : 0 ≤ mean values :=
  div_nonneg (List.sum_nonneg h) (Nat.cast_nonneg _)

theorem slWidthOf_nonneg (bars : List H1Bar) : 0 ≤ slWidthOf bars := by
  refine mul_nonneg (by norm_num [slAtrMultiplier]) (mean_nonneg fun value hvalue => ?_)
  unfold slice at hvalue
  exact trueRanges_nonneg bars value (List.mem_of_mem_take (List.mem_of_mem_drop hvalue))

variable {pUp slWidth exitPrice : ℚ}

/-- **An entry has levels within the loss bound.** -/
theorem buildEntryDecision_opened {evaluate : List H1Bar → Option PreviewDecision}
    {reason : String} (h : buildEntryDecision evaluate bars = some (.enter reason pUp position)) :
    ∃ slWidth, Opened position slWidth := by
  unfold buildEntryDecision at h
  cases hlast : bars.getLast? with
  | none => simp [hlast] at h
  | some last =>
      cases hpreview : evaluate bars with
      | none => simp [hlast, hpreview] at h
      | some preview =>
          cases preview with
          | hold reason pUp => simp [hlast, hpreview] at h
          | trade direction reason pUp =>
              simp only [hlast, hpreview] at h
              split at h
              · simp at h
              · rename_i hbound
                simp only [Option.some.injEq, EntryDecision.enter.injEq] at h
                obtain ⟨-, -, rfl⟩ := h
                refine ⟨slWidthOf bars, slWidthOf_nonneg bars, not_lt.mp hbound, ?_, ?_⟩
                · cases direction <;> simp [PaperSide.direction, sub_eq_add_neg]
                · cases direction <;> simp [PaperSide.direction, sub_eq_add_neg]

/-- A loss of the width, and half a unit of the fourth place, is within the bound. -/
theorem paperPnl_within (hopened : Opened position slWidth) (hloss : -(slWidth + 1 / 20000) ≤
      (exitPrice - position.entryPrice) * position.direction.direction) :
    -perTradeMaxLossBoundJpy ≤
      paperPnlJpy position.direction position.entryPrice exitPrice := by
  have hwidth := hopened.width_bound
  simp only [positionSizeUnits, frictionPipsPerSide, pipJpy, perTradeMaxLossBoundJpy] at hwidth
  -- a tie at half a yen below the bound goes to the even bound
  have htie : roundHalfEven (-10001 / 2) = -perTradeMaxLossBoundJpy := by decide +kernel
  rw [← htie]
  unfold paperPnlJpy
  apply Library.Rounding.roundHalfEven_mono
  cases hside : position.direction with
  | paperLong =>
      simp only [hside, PaperSide.direction] at hloss
      simp only [friction, frictionPipsPerSide, pipJpy, positionSizeUnits]
      push_cast at hwidth
      linarith
  | paperShort =>
      simp only [hside, PaperSide.direction] at hloss
      simp only [friction, frictionPipsPerSide, pipJpy, positionSizeUnits]
      push_cast at hwidth
      linarith

theorem round_level (level : ℚ) : |round level 4 - level| ≤ 1 / 20000 := by
  have hnear := Library.Rounding.round_near_half level 4
  norm_num at hnear ⊢
  exact hnear

theorem Opened.sl_move (hopened : Opened position slWidth) :
    -(slWidth + 1 / 20000) ≤
      (position.slPrice - position.entryPrice) * position.direction.direction := by
  have hnear := abs_le.mp (round_level
    (position.entryPrice - position.direction.direction * slWidth))
  rw [hopened.sl]
  cases hside : position.direction with
  | paperLong =>
      simp only [hside, PaperSide.direction] at hnear ⊢
      linarith
  | paperShort =>
      simp only [hside, PaperSide.direction] at hnear ⊢
      linarith

theorem Opened.tp_move (hopened : Opened position slWidth) :
    -(slWidth + 1 / 20000) ≤
      (position.tpPrice - position.entryPrice) * position.direction.direction := by
  have hnear := abs_le.mp (round_level
    (position.entryPrice + position.direction.direction * (tpRMultiple * slWidth)))
  have hwidth := hopened.width_nonneg
  rw [hopened.tp]
  cases hside : position.direction with
  | paperLong =>
      simp only [hside, PaperSide.direction, tpRMultiple] at hnear ⊢
      linarith
  | paperShort =>
      simp only [hside, PaperSide.direction, tpRMultiple] at hnear ⊢
      linarith

/-- **An exit at a bar that closes in its range is within the loss bound.** -/
theorem exitAt_within_bound {route : PaperExit} {bar : H1Bar}
    (hopened : Opened position slWidth) (hinside : bar.low ≤ bar.close ∧ bar.close ≤ bar.high)
    (hexit : exitAt position bar = some (route, exitPrice)) :
    -perTradeMaxLossBoundJpy ≤
      paperPnlJpy position.direction position.entryPrice exitPrice := by
  unfold exitAt at hexit
  split_ifs at hexit with hafter hsl htp htimeout
  · obtain ⟨-, rfl⟩ := Prod.mk.inj (Option.some.inj hexit)
    exact paperPnl_within hopened hopened.sl_move
  · obtain ⟨-, rfl⟩ := Prod.mk.inj (Option.some.inj hexit)
    exact paperPnl_within hopened hopened.tp_move
  · -- the close lies on the good side of a stop that the bar does not touch
    obtain ⟨-, rfl⟩ := Prod.mk.inj (Option.some.inj hexit)
    refine paperPnl_within hopened (hopened.sl_move.trans ?_)
    unfold Stage1OpenPosition.slHit at hsl
    cases hside : position.direction with
    | paperLong =>
        simp only [hside, decide_eq_true_eq, not_le] at hsl
        simp only [PaperSide.direction]
        linarith [hinside.1]
    | paperShort =>
        simp only [hside, decide_eq_true_eq, not_le] at hsl
        simp only [PaperSide.direction]
        linarith [hinside.2]

end Bound

section Runs

variable {position : Stage1OpenPosition} {bars : List H1Bar} {runs : List Instant}
  {now : Instant}

theorem settlePosition_eq (position : Stage1OpenPosition) (bars : List H1Bar) :
    settlePosition position bars = bars.findSome? (exitAt position) := by
  induction bars with
  | nil => rfl
  | cons bar bars ih =>
      rw [settlePosition, List.findSome?_cons]
      unfold exitAt
      split_ifs
      · exact ih
      · rfl
      · rfl
      · rfl
      · exact ih

theorem findSome?_eq_bind {α β : Type} (f : α → Option β) (xs : List α) :
    xs.findSome? f = (xs.find? fun x => (f x).isSome).bind f := by
  induction xs with
  | nil => rfl
  | cons x xs ih =>
      cases hx : f x with
      | none => simp [hx, ih]
      | some b => simp [hx]

/-- The bars of a market are those that a run dropped, those of its window, and later ones. -/
theorem bars_eq (series : BarSeries) (now : Instant) :
    series.bars = droppedBars series.bars now ++ runWindow series.bars now ++
      series.bars.filter fun bar => now - wallSeconds 3600 < bar.timeUtc := by
  unfold droppedBars runWindow
  dsimp only
  rw [List.take_append_drop]
  exact Library.Ranks.upTo_append series.increasing _

/-- A run settles the position when it has the bars and one of its window ends it. -/
theorem runSettlement_isSome_iff :
    (runSettlement position bars now).isSome ↔ SettlesAt position bars now := by
  unfold runSettlement SettlesAt
  rw [settlePosition_eq]
  split_ifs with hfew
  · simp [not_le.mpr hfew]
  · simp [not_lt.mp hfew, List.findSome?_isSome_iff]

theorem firstSettlement_eq :
    firstSettlement position bars runs =
      (runs.find? fun now => SettlesAt position bars now).bind
        (runSettlement position bars) := by
  unfold firstSettlement
  rw [findSome?_eq_bind]
  congr 2
  funext now
  rw [Bool.eq_iff_iff, runSettlement_isSome_iff, decide_eq_true_iff]

/-- **A settlement over the whole series is the one of the bars that a run dropped, or else that
of its window.** -/
theorem settle_series_eq (series : BarSeries) {outcome : PaperExit × ℚ}
    (hwindow : settlePosition position (runWindow series.bars now) = some outcome) :
    settlePosition position series.bars =
      some (((droppedBars series.bars now).findSome? (exitAt position)).getD outcome) := by
  rw [settlePosition_eq] at hwindow
  have hsplit := congrArg (List.findSome? (exitAt position)) (bars_eq series now)
  rw [List.findSome?_append, List.findSome?_append, hwindow] at hsplit
  rw [settlePosition_eq, hsplit]
  generalize (droppedBars series.bars now).findSome? (exitAt position) = early
  cases early <;> simp

end Runs

/-- **The time of the runs makes no difference exactly when no exit was missed.**  For a
position that was opened, a market and a sequence of runs, the first settlement is the one over
the whole series, and within the loss bound, exactly when the first run that settles has dropped
no bar that ends the position in another way. -/
theorem settlement_timing_iff (evaluate : List H1Bar → Option PreviewDecision)
    (window : List H1Bar) (reason : String) (pUp : ℚ) (position : Stage1OpenPosition)
    (hopen : buildEntryDecision evaluate window = some (.enter reason pUp position))
    (series : BarSeries) (runs : List Instant) :
    SettledAlike position series.bars runs ↔ NoExitMissed position series.bars runs := by
  obtain ⟨slWidth, hopened⟩ := buildEntryDecision_opened hopen
  unfold SettledAlike NoExitMissed
  rw [firstSettlement_eq]
  cases hfirst : runs.find? fun now => SettlesAt position series.bars now with
  | none => simp
  | some now =>
      have hsettles : SettlesAt position series.bars now := by
        simpa using List.find?_some hfirst
      obtain ⟨⟨route, exitPrice⟩, hrun⟩ :=
        Option.isSome_iff_exists.mp (runSettlement_isSome_iff.mpr hsettles)
      have hwindow : settlePosition position (runWindow series.bars now) =
          some (route, exitPrice) := by
        unfold runSettlement at hrun
        rwa [if_neg (not_lt.mpr hsettles.1)] at hrun
      have hseries := settle_series_eq series hwindow
      rw [settlePosition_eq, findSome?_eq_bind] at hwindow
      obtain ⟨seen, hseen, hexit⟩ := Option.bind_eq_some_iff.mp hwindow
      have hbound : -perTradeMaxLossBoundJpy ≤
          paperPnlJpy position.direction position.entryPrice exitPrice := by
        have hmem : seen ∈ series.bars := by
          rw [bars_eq series now]
          exact List.mem_append_left _ (List.mem_append_right _ (List.mem_of_find?_eq_some hseen))
        exact exitAt_within_bound hopened (series.closes_inside seen hmem) hexit
      have hsame : settlePosition position series.bars = some (route, exitPrice) ↔
          ∀ dropped ∈ (droppedBars series.bars now).find? (fun bar => (exitAt position bar).isSome),
            exitAt position dropped = some (route, exitPrice) := by
        rw [hseries, findSome?_eq_bind]
        cases hdropped : (droppedBars series.bars now).find?
            fun bar => (exitAt position bar).isSome with
        | none => simp
        | some dropped =>
            obtain ⟨outcome, houtcome⟩ : ∃ outcome, exitAt position dropped = some outcome :=
              Option.isSome_iff_exists.mp (by simpa using List.find?_some hdropped)
            simp [houtcome]
      constructor
      · rintro halike now' hnow' dropped hdropped seen' hseen'
        obtain rfl := Option.some.inj hnow'
        obtain rfl := Option.some.inj (hseen.symm.trans hseen')
        rw [hexit]
        exact hsame.mp (halike route exitPrice hrun).1 dropped hdropped
      · intro hnone route' exitPrice' hrun'
        obtain ⟨rfl, rfl⟩ := Prod.mk.inj (Option.some.inj (hrun.symm.trans hrun'))
        refine ⟨hsame.mpr fun dropped hdropped => ?_, hbound⟩
        rw [hnone now rfl dropped hdropped seen hseen, hexit]

namespace Sample

def bar (hours : Int) (high low close : ℚ) : H1Bar where
  timeUtc := wallSeconds (3600 * hours)
  openPrice := close
  high := high
  low := low
  close := close

theorem bar_lt {n m : Int} (h : n < m) (high low close high' low' close' : ℚ) :
    (bar n high low close).timeUtc < (bar m high' low' close').timeUtc :=
  mul_lt_mul_of_pos_right (mul_lt_mul_of_pos_left h (by decide)) (by decide)

def entryWindow : List H1Bar :=
  (List.range 24).map fun (n : Nat) => bar (n - 23) (1501 / 10) (1499 / 10) 150

def buys (_ : List H1Bar) : Option PreviewDecision :=
  some (.trade .paperLong "PREVIEW_BUY" (3 / 5))

/-- The position that is bought at 150, with a stop at 149.7 and a target at 150.45. -/
def bought : Stage1OpenPosition where
  direction := .paperLong
  entryTimeUtc := 0
  entryPrice := 150
  slPrice := 1497 / 10
  tpPrice := 15045 / 100
  expiryTimeUtc := wallSeconds (3600 * 24)

theorem quickRise_increasing : Increasing H1Bar.timeUtc (bar 1 151 150 151 ::
    (List.range 1500).map fun (n : Nat) => bar (n + 2) 150 150 150) := by
  refine List.pairwise_cons.mpr ⟨?_, List.pairwise_map.mpr ?_⟩
  · simp only [List.forall_mem_map]
    exact fun n _ => bar_lt (by omega) _ _ _ _ _ _
  · refine (@List.pairwise_lt_range 1500).imp ?_
    intro n m hlt
    exact bar_lt (by omega) _ _ _ _ _ _

theorem quickRise_inside : ∀ b ∈ bar 1 151 150 151 ::
    (List.range 1500).map fun (n : Nat) => bar (n + 2) 150 150 150,
    b.low ≤ b.close ∧ b.close ≤ b.high := by
  simp only [List.forall_mem_cons, List.forall_mem_map]
  exact ⟨by decide +kernel, fun n _ => ⟨le_rfl, le_rfl⟩⟩

/-- The market reaches the target in the first hour, and is flat from then on. -/
def quickRise : BarSeries where
  bars := bar 1 151 150 151 :: (List.range 1500).map fun (n : Nat) => bar (n + 2) 150 150 150
  increasing := quickRise_increasing
  closes_inside := quickRise_inside

end Sample

theorem bought_opened :
    buildEntryDecision Sample.buys Sample.entryWindow =
      some (.enter "PREVIEW_BUY" (3 / 5) Sample.bought) := by
  decide +kernel

/-- A run after 1,000 hours misses no exit. -/
theorem early_run_settles_alike :
    SettledAlike Sample.bought Sample.quickRise.bars [wallSeconds (3600 * 1000)] :=
  (settlement_timing_iff Sample.buys Sample.entryWindow "PREVIEW_BUY" (3 / 5) Sample.bought
    bought_opened Sample.quickRise _).mpr (by decide +kernel)

/-- After 1,502 hours without a run, the position that reached its target times out. -/
theorem pause_misses_target :
    buildEntryDecision Sample.buys Sample.entryWindow =
        some (.enter "PREVIEW_BUY" (3 / 5) Sample.bought) ∧
      ¬ SettledAlike Sample.bought Sample.quickRise.bars [wallSeconds (3600 * 1502)] := by
  refine ⟨bought_opened, fun halike => ?_⟩
  have hrun : firstSettlement Sample.bought Sample.quickRise.bars [wallSeconds (3600 * 1502)] =
      some (.paperExitTimeout, 150) := by
    decide +kernel
  have hseries : settlePosition Sample.bought Sample.quickRise.bars =
      some (.paperExitTp, 15045 / 100) := by
    decide +kernel
  have hsame := (halike _ _ hrun).1
  rw [hseries] at hsame
  exact absurd hsame (by decide)

end FxStrategyLab.Stage1
