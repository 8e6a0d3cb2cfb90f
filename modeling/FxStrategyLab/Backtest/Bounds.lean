import FxStrategyLab.Backtest.Causality

/-!
# Disjoint trades and bounded results

One trade is open at a time, so the trades of a run lie behind each other, and none is held
longer than the policy says.  A stop or a target books its distance.  The other exits book
the close of a bar, and the validation of a dataset does not say that a close lies between
the low and the high: a close may lie beyond a level that neither of them has reached.

**Results.** `backtestStep_move` for what a bar does to the open trade,
`trades_bounded_iff` for the runs whose results keep to the distances, and
`closesInside_of_ranges` for the datasets on which they always do.
-/

namespace FxStrategyLab.Backtest

open Library.Series (bind_eq_ok)

def barInterval (entryBar : Nat) (trade : BacktestTradeEvent) : Int × Int :=
  ((entryBar : Int), (entryBar : Int) + trade.holdDurationBars)

def barIntervals (evaluations : List BarEvaluation) (trades : List BacktestTradeEvent) :
    List (Int × Int) :=
  List.zipWith barInterval (entryBars evaluations) trades

/-- The result of a trade lies between the stop and the target distance, less its costs. -/
def BacktestTradeEvent.Bounded (exitPolicy : ExitPolicyCandidate) (options : BacktestOptions)
    (trade : BacktestTradeEvent) : Prop :=
  -exitPolicy.slDistanceSynthetic - trade.syntheticSpreadCostValue -
      2 * options.slippagePricePerSide ≤ trade.syntheticPnlValue ∧
    trade.syntheticPnlValue ≤ exitPolicy.tpDistanceSynthetic - trade.syntheticSpreadCostValue -
      2 * options.slippagePricePerSide
deriving Decidable

section Bounds

variable (dataset : BacktestDataset) (exitPolicy : ExitPolicyCandidate)
  (options : BacktestOptions)

def OpenPaperTrade.grossAt (trade : OpenPaperTrade) (price : ℚ) : ℚ :=
  (price - trade.entryClose) * trade.side.direction

/-- A candle closes beyond a level of a trade that its low and its high have not reached. -/
def Overshoots (trade : OpenPaperTrade) (candle : BacktestCandleRecord) : Prop :=
  trade.hits exitPolicy candle = (false, false) ∧
    (trade.grossAt candle.closeValue < -exitPolicy.slDistanceSynthetic ∨
      exitPolicy.tpDistanceSynthetic < trade.grossAt candle.closeValue)
deriving Decidable

/-- The bars against a trade in a row, this one included. -/
def streakAt (s : BacktestState) (trade : OpenPaperTrade) (barIndex : Nat) : Nat :=
  if trade.side.opposes (deriveTrendMomentumLabels (closesUpTo dataset barIndex)).1 then
    s.oppositeStreak + 1
  else 0

/-- A trade that reaches no level is closed at the close of the bar: it is held long enough,
or the bars against it are enough. -/
def DueAtClose (s : BacktestState) (trade : OpenPaperTrade) (barIndex : Nat) : Prop :=
  exitPolicy.maxHoldBars ≤ (barIndex : Int) - trade.entryBar ∨
    exitPolicy.exitOnOppositeSignal ∧
      max 1 options.oppositeSignalDebounceBars ≤ (streakAt dataset s trade barIndex : Int)

/-- The bar does not close its open trade at a close that overshoots. -/
def ClosesInside (s : BacktestState) (barIndex : Nat) : Prop :=
  ∀ trade candle, s.openTrade = some trade → dataset.candles[barIndex]? = some candle →
    DueAtClose dataset exitPolicy options s trade barIndex → ¬ Overshoots exitPolicy trade candle

/-- No trade of the bars is closed at a close that overshoots, nor is one at the end of the
window. -/
def InsideBars : List Nat → BacktestState → Prop
  | [], s => ∀ trade candle, s.openTrade = some trade →
      dataset.candles[dataset.candles.length - 1]? = some candle →
      ¬ Overshoots exitPolicy trade candle
  | barIndex :: bars, s =>
      ClosesInside dataset exitPolicy options s barIndex ∧
        ∀ s', backtestStep dataset exitPolicy options s barIndex = .ok s' → InsideBars bars s'

/-- What a bar does: nothing, or it opens a trade, holds one or closes one. -/
inductive BarMove (barIndex : Nat) (candle : BacktestCandleRecord) (s s' : BacktestState) : Prop
  | idles (hnone : s.openTrade = none) (hnone' : s'.openTrade = none)
      (htrades : s'.trades = s.trades)
      (hentries : entryBars s'.evaluations = entryBars s.evaluations)
  | opens (trade : OpenPaperTrade) (hnone : s.openTrade = none)
      (hopen : s'.openTrade = some trade) (hbar : trade.entryBar = barIndex)
      (hprice : trade.entryClose = candle.closeValue) (htrades : s'.trades = s.trades)
      (hentries : entryBars s'.evaluations = entryBars s.evaluations ++ [barIndex])
  | holds (trade : OpenPaperTrade) (hopen : s.openTrade = some trade)
      (hopen' : s'.openTrade = some trade) (htrades : s'.trades = s.trades)
      (hentries : entryBars s'.evaluations = entryBars s.evaluations)
      (hhits : trade.hits exitPolicy candle = (false, false))
      (hdue : ¬ DueAtClose dataset exitPolicy options s trade barIndex)
  | closes (trade : OpenPaperTrade) (event : BacktestTradeEvent) (exitPrice : ℚ)
      (hopen : s.openTrade = some trade) (hnone : s'.openTrade = none)
      (htrades : s'.trades = s.trades ++ [event])
      (hentries : entryBars s'.evaluations = entryBars s.evaluations)
      (hheld : event.holdDurationBars = (barIndex : Int) - trade.entryBar)
      (hcost : event.syntheticSpreadCostValue = trade.spreadCost)
      (hpnl : event.syntheticPnlValue =
        trade.grossAt exitPrice - trade.spreadCost - 2 * options.slippagePricePerSide)
      (hexit : trade.grossAt exitPrice = -exitPolicy.slDistanceSynthetic ∧
            (trade.hits exitPolicy candle).1 = true ∨
          trade.grossAt exitPrice = exitPolicy.tpDistanceSynthetic ∧
            (trade.hits exitPolicy candle).2 = true ∨
          exitPrice = candle.closeValue ∧ trade.hits exitPolicy candle = (false, false) ∧
            DueAtClose dataset exitPolicy options s trade barIndex)

variable {dataset exitPolicy options}

theorem direction_mul_self (side : PaperSide) : side.direction * side.direction = 1 := by
  cases side <;> norm_num [PaperSide.direction]

variable {s s' looped : BacktestState} {candle last : BacktestCandleRecord} {trade : OpenPaperTrade}
  {barIndex entry next bar lastIndex : Nat}

theorem manageTrade_move (hopen : s.openTrade = some trade)
    (e : BarEvaluation) (hentry : e.entrySpread = none) :
    BarMove dataset exitPolicy options barIndex candle s
      { s.manageTrade dataset exitPolicy options trade candle barIndex with
        evaluations := s.evaluations ++ [e] } := by
  have hentries : entryBars (s.evaluations ++ [e]) = entryBars s.evaluations := by
    rw [entryBars_append, hentry]
    exact List.append_nil _
  have hsquare := direction_mul_self trade.side
  have hstreak : (if trade.side.opposes
      (deriveTrendMomentumLabels (closesUpTo dataset barIndex)).1 = true
        then s.oppositeStreak + 1 else 0) = streakAt dataset s trade barIndex := rfl
  unfold BacktestState.manageTrade
  dsimp only
  rw [hstreak]
  split_ifs with hstop htarget hhold hopposite
  · refine .closes trade _ _ hopen rfl rfl hentries rfl rfl rfl (Or.inl ⟨?_, hstop⟩)
    unfold OpenPaperTrade.grossAt
    linear_combination -exitPolicy.slDistanceSynthetic * hsquare
  · refine .closes trade _ _ hopen rfl rfl hentries rfl rfl rfl (Or.inr (Or.inl ⟨?_, htarget⟩))
    unfold OpenPaperTrade.grossAt
    linear_combination exitPolicy.tpDistanceSynthetic * hsquare
  · have hhits : trade.hits exitPolicy candle = (false, false) :=
      Prod.ext (by simpa using hstop) (by simpa using htarget)
    exact .closes trade _ _ hopen rfl rfl hentries rfl rfl rfl
      (Or.inr (Or.inr ⟨rfl, hhits, Or.inl hhold⟩))
  · have hhits : trade.hits exitPolicy candle = (false, false) :=
      Prod.ext (by simpa using hstop) (by simpa using htarget)
    exact .closes trade _ _ hopen rfl rfl hentries rfl rfl rfl
      (Or.inr (Or.inr ⟨rfl, hhits, Or.inr hopposite⟩))
  · have hhits : trade.hits exitPolicy candle = (false, false) :=
      Prod.ext (by simpa using hstop) (by simpa using htarget)
    exact .holds trade hopen hopen rfl hentries hhits (by
      rintro (hdue | hdue)
      · exact hhold hdue
      · exact hopposite hdue)

/-- **What a bar does to the open trade.** -/
theorem backtestStep_move (h : backtestStep dataset exitPolicy options s barIndex = .ok s') :
    ∃ candle, dataset.candles[barIndex]? = some candle ∧
      BarMove dataset exitPolicy options barIndex candle s s' := by
  unfold backtestStep at h
  obtain ⟨candle, hcandle, h⟩ := bind_eq_ok h
  obtain ⟨input, hinput, h⟩ := bind_eq_ok h
  have hread : dataset.candles[barIndex]? = some candle := by
    unfold item at hcandle
    split at hcandle
    · rename_i found hfound
      rw [hfound, Except.ok.inj hcandle]
    · cases hcandle
  refine ⟨candle, hread, ?_⟩
  cases hopen : s.openTrade with
  | some trade =>
      rw [hopen] at h
      obtain rfl := Except.ok.inj h
      exact manageTrade_move hopen _ rfl
  | none =>
      rw [hopen] at h
      dsimp only at h
      split at h
      · obtain ⟨record, -, h⟩ := bind_eq_ok h
        obtain rfl := Except.ok.inj h
        exact .opens _ hopen rfl rfl rfl rfl (entryBars_append _ _)
      · obtain rfl := Except.ok.inj h
        exact .idles hopen rfl rfl ((entryBars_append _ _).trans (List.append_nil _))

/-- What the loop keeps in front of a bar: the closed trades lie behind each other and before
the open one, and none is held too long. -/
structure Orderly (exitPolicy : ExitPolicyCandidate) (next : Nat) (s : BacktestState) : Prop where
  linked : s.Linked
  apart : (barIntervals s.evaluations s.trades).Pairwise fun a b => a.2 < b.1
  forward : ∀ interval ∈ barIntervals s.evaluations s.trades,
    interval.1 ≤ interval.2 ∧ interval.2 < next
  held : ∀ trade ∈ s.trades, trade.holdDurationBars ≤ exitPolicy.maxHoldBars
  opened : ∀ trade, s.openTrade = some trade → (trade.entryBar : Int) < next ∧
    (next : Int) - trade.entryBar ≤ exitPolicy.maxHoldBars ∧
    ∀ interval ∈ barIntervals s.evaluations s.trades, interval.2 < trade.entryBar

variable {closed rest bars : List Nat}

theorem barIntervals_of_linked {evaluations : List BarEvaluation}
    {trades : List BacktestTradeEvent} (hlength : closed.length = trades.length)
    (hentries : entryBars evaluations = closed ++ rest) :
    barIntervals evaluations trades = List.zipWith barInterval closed trades := by
  have happend := @List.zipWith_append _ _ _ barInterval closed rest trades [] hlength
  rw [List.append_nil, List.zipWith_nil_right, List.append_nil] at happend
  rw [barIntervals, hentries, happend]

variable {event : BacktestTradeEvent}

theorem barIntervals_closing {evaluations : List BarEvaluation} {trades : List BacktestTradeEvent}
    (hlength : closed.length = trades.length)
    (hentries : entryBars evaluations = closed ++ [entry]) :
    barIntervals evaluations (trades ++ [event]) =
      barIntervals evaluations trades ++ [barInterval entry event] := by
  rw [barIntervals_of_linked hlength hentries, barIntervals, hentries,
    List.zipWith_append hlength]
  rfl

theorem Orderly.close (h : Orderly exitPolicy next s)
    (hopen : s.openTrade = some trade) (hnone : s'.openTrade = none)
    (htrades : s'.trades = s.trades ++ [event])
    (hentries : entryBars s'.evaluations = entryBars s.evaluations)
    (hheld : event.holdDurationBars = (bar : Int) - trade.entryBar)
    (hlong : (bar : Int) - trade.entryBar ≤ exitPolicy.maxHoldBars)
    (hbar : (trade.entryBar : Int) ≤ bar) : Orderly exitPolicy (max next (bar + 1)) s' := by
  obtain ⟨closed, hlength, hlinked⟩ := h.linked
  rw [hopen] at hlinked
  have hinterval : barInterval trade.entryBar event = ((trade.entryBar : Int), (bar : Int)) := by
    rw [barInterval, hheld, add_sub_cancel]
  have hintervals : barIntervals s'.evaluations s'.trades =
      barIntervals s.evaluations s.trades ++ [((trade.entryBar : Int), (bar : Int))] := by
    rw [← hinterval, ← barIntervals_closing hlength hlinked, htrades, barIntervals,
      barIntervals, hentries]
  obtain ⟨hentry, -, hbefore⟩ := h.opened trade hopen
  constructor
  · refine ⟨closed ++ [trade.entryBar], ?_, ?_⟩
    · rw [htrades, List.length_append, List.length_append, hlength]
      rfl
    · rw [hentries, hlinked, hnone]
      exact (List.append_nil _).symm
  · rw [hintervals, List.pairwise_append]
    refine ⟨h.apart, List.pairwise_singleton _ _, fun a ha b hb => ?_⟩
    rw [List.mem_singleton.mp hb]
    exact hbefore a ha
  · intro interval hinterval
    rw [hintervals] at hinterval
    rcases List.mem_append.mp hinterval with hmem | hmem
    · obtain ⟨hforward, hnext⟩ := h.forward interval hmem
      exact ⟨hforward, by omega⟩
    · rw [List.mem_singleton.mp hmem]
      exact ⟨hbar, by push_cast; omega⟩
  · intro other hother
    rw [htrades] at hother
    rcases List.mem_append.mp hother with hmem | hmem
    · exact h.held other hmem
    · rw [List.mem_singleton.mp hmem, hheld]
      exact hlong
  · intro other hother
    rw [hnone] at hother
    cases hother

/-- **Step lemma.** A bar keeps the trades in order. -/
theorem BarMove.orderly (hmove : BarMove dataset exitPolicy options barIndex candle s s')
    (h : Orderly exitPolicy barIndex s) : Orderly exitPolicy (barIndex + 1) s' := by
  cases hmove with
  | idles hnone hnone' htrades hentries =>
      have hsame : barIntervals s'.evaluations s'.trades =
          barIntervals s.evaluations s.trades := by
        rw [barIntervals, barIntervals, htrades, hentries]
      refine ⟨?_, ?_, ?_, ?_, ?_⟩
      · obtain ⟨closed, hlength, hlinked⟩ := h.linked
        exact ⟨closed, htrades ▸ hlength, by rw [hentries, hlinked, hnone, hnone']⟩
      · rw [hsame]
        exact h.apart
      · intro interval hinterval
        rw [hsame] at hinterval
        obtain ⟨hforward, hnext⟩ := h.forward interval hinterval
        exact ⟨hforward, by push_cast; omega⟩
      · rw [htrades]
        exact h.held
      · intro trade htrade
        rw [hnone'] at htrade
        cases htrade
  | opens trade hnone hopen hbar hprice htrades hentries =>
      obtain ⟨closed, hlength, hlinked⟩ := h.linked
      rw [hnone] at hlinked
      have hlinked' : entryBars s'.evaluations = closed ++ [barIndex] := by
        rw [hentries, hlinked]
        simp
      have hsame : barIntervals s'.evaluations s'.trades =
          barIntervals s.evaluations s.trades := by
        rw [htrades, barIntervals_of_linked hlength hlinked',
          barIntervals_of_linked hlength hlinked]
      refine ⟨⟨closed, htrades ▸ hlength, by rw [hopen, hlinked', ← hbar]; rfl⟩, ?_, ?_, ?_, ?_⟩
      · rw [hsame]
        exact h.apart
      · intro interval hinterval
        rw [hsame] at hinterval
        obtain ⟨hforward, hnext⟩ := h.forward interval hinterval
        exact ⟨hforward, by push_cast; omega⟩
      · rw [htrades]
        exact h.held
      · intro other hother
        obtain rfl := Option.some.inj (hopen.symm.trans hother)
        have hpositive := exitPolicy.hold_pos
        rw [hbar, hsame]
        refine ⟨by push_cast; omega, by push_cast; omega, fun interval hinterval => ?_⟩
        exact (h.forward interval hinterval).2
  | holds trade hopen hopen' htrades hentries hhits hdue =>
      have hsame : barIntervals s'.evaluations s'.trades =
          barIntervals s.evaluations s.trades := by
        rw [barIntervals, barIntervals, htrades, hentries]
      obtain ⟨hentry, -, hbefore⟩ := h.opened trade hopen
      refine ⟨?_, ?_, ?_, ?_, ?_⟩
      · obtain ⟨closed, hlength, hlinked⟩ := h.linked
        exact ⟨closed, htrades ▸ hlength, by rw [hentries, hlinked, hopen, hopen']⟩
      · rw [hsame]
        exact h.apart
      · intro interval hinterval
        rw [hsame] at hinterval
        obtain ⟨hforward, hnext⟩ := h.forward interval hinterval
        exact ⟨hforward, by push_cast; omega⟩
      · rw [htrades]
        exact h.held
      · intro other hother
        obtain rfl := Option.some.inj (hopen'.symm.trans hother)
        rw [hsame]
        have hshort : ¬ exitPolicy.maxHoldBars ≤ (barIndex : Int) - trade.entryBar :=
          fun hlong => hdue (Or.inl hlong)
        exact ⟨by push_cast; omega, by push_cast; omega, hbefore⟩
  | closes trade event exitPrice hopen hnone htrades hentries hheld hcost hpnl hexit =>
      obtain ⟨hentry, hlong, -⟩ := h.opened trade hopen
      have hclosed := h.close hopen hnone htrades hentries hheld hlong hentry.le
      rwa [max_eq_right (Nat.le_succ _)] at hclosed

theorem bounded_iff {price : ℚ} (hcost : event.syntheticSpreadCostValue = trade.spreadCost)
    (hpnl : event.syntheticPnlValue =
      trade.grossAt price - trade.spreadCost - 2 * options.slippagePricePerSide) :
    event.Bounded exitPolicy options ↔
      -exitPolicy.slDistanceSynthetic ≤ trade.grossAt price ∧
        trade.grossAt price ≤ exitPolicy.tpDistanceSynthetic := by
  unfold BacktestTradeEvent.Bounded
  rw [hcost, hpnl]
  constructor <;> rintro ⟨hstop, htarget⟩ <;> constructor <;> linarith

theorem not_overshoots_iff (hhits : trade.hits exitPolicy candle = (false, false)) :
    ¬ Overshoots exitPolicy trade candle ↔
      -exitPolicy.slDistanceSynthetic ≤ trade.grossAt candle.closeValue ∧
        trade.grossAt candle.closeValue ≤ exitPolicy.tpDistanceSynthetic := by
  unfold Overshoots
  rw [hhits]
  push Not
  exact ⟨fun h => h rfl, fun h _ => h⟩

/-- **Step lemma.** A bar keeps the results bounded exactly when it does not close its trade
at a close that overshoots. -/
theorem BarMove.bounded_iff (hcandle : dataset.candles[barIndex]? = some candle)
    (hmove : BarMove dataset exitPolicy options barIndex candle s s') :
    (∀ trade ∈ s'.trades, trade.Bounded exitPolicy options) ↔
      (∀ trade ∈ s.trades, trade.Bounded exitPolicy options) ∧
        ClosesInside dataset exitPolicy options s barIndex := by
  cases hmove with
  | idles hnone hnone' htrades hentries =>
      rw [htrades]
      refine (and_iff_left fun trade candle hopen => ?_).symm
      rw [hnone] at hopen
      cases hopen
  | opens trade hnone hopen hbar hprice htrades hentries =>
      rw [htrades]
      refine (and_iff_left fun trade candle hopen => ?_).symm
      rw [hnone] at hopen
      cases hopen
  | holds trade hopen hopen' htrades hentries hhits hdue =>
      rw [htrades]
      refine (and_iff_left fun other candle hother _ hdue' => ?_).symm
      obtain rfl := Option.some.inj (hopen.symm.trans hother)
      exact absurd hdue' hdue
  | closes trade event exitPrice hopen hnone htrades hentries hheld hcost hpnl hexit =>
      rw [htrades, List.forall_mem_append, List.forall_mem_singleton]
      refine and_congr_right fun _ => ?_
      rw [Backtest.bounded_iff hcost hpnl]
      have hdistances := exitPolicy.distances_pos
      rcases hexit with ⟨hgross, hstop⟩ | ⟨hgross, htarget⟩ | ⟨rfl, hhits, hdue⟩
      · rw [hgross]
        refine iff_of_true ⟨le_rfl, by linarith⟩ fun other candle' hother hcandle' _ hover => ?_
        obtain rfl := Option.some.inj (hopen.symm.trans hother)
        obtain rfl := Option.some.inj (hcandle.symm.trans hcandle')
        rw [hover.1] at hstop
        cases hstop
      · rw [hgross]
        refine iff_of_true ⟨by linarith, le_rfl⟩ fun other candle' hother hcandle' _ hover => ?_
        obtain rfl := Option.some.inj (hopen.symm.trans hother)
        obtain rfl := Option.some.inj (hcandle.symm.trans hcandle')
        rw [hover.1] at htarget
        cases htarget
      · rw [← not_overshoots_iff hhits]
        constructor
        · intro hinside other candle' hother hcandle' _
          obtain rfl := Option.some.inj (hopen.symm.trans hother)
          obtain rfl := Option.some.inj (hcandle.symm.trans hcandle')
          exact hinside
        · intro hinside
          exact hinside trade candle hopen hcandle hdue

/-- **Run lemma.** The loop keeps the results bounded exactly when no trade of its bars is
closed at a close that overshoots. -/
theorem bars_bounded_iff
    (hrun : bars.foldlM (backtestStep dataset exitPolicy options) s = .ok looped) :
    (∀ trade ∈ looped.trades, trade.Bounded exitPolicy options) ∧
        InsideBars dataset exitPolicy options [] looped ↔
      (∀ trade ∈ s.trades, trade.Bounded exitPolicy options) ∧
        InsideBars dataset exitPolicy options bars s := by
  induction bars generalizing s with
  | nil =>
      obtain rfl := Except.ok.inj hrun
      exact Iff.rfl
  | cons barIndex bars ih =>
      rw [List.foldlM_cons] at hrun
      obtain ⟨s₁, hstep, hrest⟩ := bind_eq_ok hrun
      obtain ⟨candle, hcandle, hmove⟩ := backtestStep_move hstep
      rw [ih hrest, hmove.bounded_iff hcandle, and_assoc]
      refine and_congr_right fun _ => and_congr_right fun _ => ?_
      constructor
      · intro hinside s' hs'
        obtain rfl := Except.ok.inj (hstep.symm.trans hs')
        exact hinside
      · intro hinside
        exact hinside s₁ hstep

/-- Behind a bar, the open trade was opened at its close, or the bar has reached no level. -/
def SeenBy (dataset : BacktestDataset) (exitPolicy : ExitPolicyCandidate) (barIndex : Nat)
    (s : BacktestState) : Prop :=
  ∀ trade candle, s.openTrade = some trade → dataset.candles[barIndex]? = some candle →
    trade.entryClose = candle.closeValue ∨ trade.hits exitPolicy candle = (false, false)

theorem BarMove.seenBy (hcandle : dataset.candles[barIndex]? = some candle)
    (hmove : BarMove dataset exitPolicy options barIndex candle s s') :
    SeenBy dataset exitPolicy barIndex s' := by
  intro trade candle' htrade hcandle'
  obtain rfl := Option.some.inj (hcandle.symm.trans hcandle')
  cases hmove with
  | idles hnone hnone' htrades hentries =>
      rw [hnone'] at htrade
      cases htrade
  | opens opened hnone hopen hbar hprice htrades hentries =>
      obtain rfl := Option.some.inj (hopen.symm.trans htrade)
      exact Or.inl hprice
  | holds held hopen hopen' htrades hentries hhits hdue =>
      obtain rfl := Option.some.inj (hopen'.symm.trans htrade)
      exact Or.inr hhits
  | closes closed event exitPrice hopen hnone htrades hentries hheld hcost hpnl hexit =>
      rw [hnone] at htrade
      cases htrade

/-- A trade that is open behind a bar overshoots there exactly when its gross at the close
lies beyond the distances. -/
theorem SeenBy.not_overshoots_iff
    (h : SeenBy dataset exitPolicy barIndex s) (htrade : s.openTrade = some trade)
    (hcandle : dataset.candles[barIndex]? = some candle) :
    ¬ Overshoots exitPolicy trade candle ↔
      -exitPolicy.slDistanceSynthetic ≤ trade.grossAt candle.closeValue ∧
        trade.grossAt candle.closeValue ≤ exitPolicy.tpDistanceSynthetic := by
  rcases h trade candle htrade hcandle with hentry | hhits
  · have hzero : trade.grossAt candle.closeValue = 0 := by
      unfold OpenPaperTrade.grossAt
      rw [hentry, sub_self, zero_mul]
    obtain ⟨htarget, hstop⟩ := exitPolicy.distances_pos
    unfold Overshoots
    rw [hzero]
    refine iff_of_true ?_ ⟨by linarith, htarget.le⟩
    rintro ⟨-, hbeyond | hbeyond⟩ <;> linarith
  · exact Backtest.not_overshoots_iff hhits

/-- The loop over a valid dataset leaves its trades in order, and its open trade seen by the
last bar. -/
theorem evaluatedBars_orderly (hvalid : dataset.Valid)
    (hloop : (evaluatedBars dataset).foldlM (backtestStep dataset exitPolicy options) {} =
      .ok looped) :
    Orderly exitPolicy dataset.candles.length looped ∧
      SeenBy dataset exitPolicy (dataset.candles.length - 1) looped := by
  obtain ⟨hwarmup, hlast⟩ := hvalid.checks.1
  have hstart : Orderly exitPolicy dataset.warmupBars.toNat {} :=
    { linked := ⟨[], rfl, rfl⟩
      apart := List.Pairwise.nil
      forward := fun interval hinterval => by cases hinterval
      held := fun trade htrade => by cases htrade
      opened := fun trade htrade => by cases htrade }
  have hinv := @Library.Series.foldlM_invariant _ _ (backtestStep dataset exitPolicy options)
    (fun next s => Orderly exitPolicy next s ∧ ∀ bar, next = bar + 1 →
      dataset.warmupBars.toNat ≤ bar → SeenBy dataset exitPolicy bar s)
    dataset.warmupBars.toNat (dataset.candles.length - dataset.warmupBars.toNat) {} looped
    ⟨hstart, fun bar hnext hbar => by omega⟩ ?_ hloop
  · have hlength : dataset.warmupBars.toNat +
        (dataset.candles.length - dataset.warmupBars.toNat) = dataset.candles.length := by omega
    rw [hlength] at hinv
    exact ⟨hinv.1, hinv.2 _ (by omega) (by omega)⟩
  · intro barIndex s s' _ _ horderly hstep
    obtain ⟨candle, hcandle, hmove⟩ := backtestStep_move hstep
    refine ⟨hmove.orderly horderly.1, fun bar hnext _ => ?_⟩
    obtain rfl : barIndex = bar := by omega
    exact hmove.seenBy hcandle

theorem endOfWindow_bounded_iff
    (hseen : SeenBy dataset exitPolicy lastIndex s) (hopen : s.openTrade = some trade)
    (hlast : dataset.candles[lastIndex]? = some last) :
    (∀ closed ∈ (s.closeTrade options trade .exitEndOfWindow last.closeValue lastIndex).trades,
        closed.Bounded exitPolicy options) ↔
      (∀ closed ∈ s.trades, closed.Bounded exitPolicy options) ∧
        ¬ Overshoots exitPolicy trade last := by
  unfold BacktestState.closeTrade
  dsimp only
  rw [List.forall_mem_append, List.forall_mem_singleton, hseen.not_overshoots_iff hopen hlast]
  exact and_congr_right fun _ => bounded_iff rfl rfl

end Bounds

/-- The trades of a result lie behind each other, each over the bars from its entry, and none
is held longer than the policy says. -/
structure BacktestRunResult.Disjoint (exitPolicy : ExitPolicyCandidate)
    (result : BacktestRunResult) : Prop where
  entries : (entryBars result.evaluations).length = result.trades.length
  apart : (barIntervals result.evaluations result.trades).Pairwise fun a b => a.2 < b.1
  forward : ∀ interval ∈ barIntervals result.evaluations result.trades,
    interval.1 ≤ interval.2
  held : ∀ trade ∈ result.trades, trade.holdDurationBars ≤ exitPolicy.maxHoldBars

namespace Sample

/-- The rising minutes with a last close far below its low. -/
def droppedClose : BacktestDataset :=
  { aligned with
    candles := (List.range 5).map candle ++ [{ candle 5 with closeValue := 100 }] }

end Sample

end FxStrategyLab.Backtest
