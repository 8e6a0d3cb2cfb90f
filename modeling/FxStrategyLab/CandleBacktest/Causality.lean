import FxStrategyLab.CandleBacktest.Engine
import FxStrategyLab.Library.Series

/-!
# Where the candle backtest stops

A margin call breaks the loop of `run_backtest`, and a position that is still open is then
closed at the last candle of the series, which may lie far behind the bar of the call.

**Results.** `stops_on_its_bars_iff`: the trades and the equity points before a bar depend on
the candles before it in every pair of runs, and a run that a margin call has stopped depends
on no later candle exactly when no position is open there, or the last candles close it alike.
-/

namespace FxStrategyLab.CandleBacktest

open Library.Rounding (round)
open Library.Series (AgreeBefore bind_eq_ok)

section Causality

variable {evaluateStrategy : List Candle → StrategyConfig → StrategySignal}
  {request : BacktestRequest}

/-- Rows add trades closed at their times by the loop, and equity points at their times. -/
structure Adds (rows : List Candle) (s s' : BacktestState) : Prop where
  trades : ∃ new, s'.trades = s.trades ++ new ∧
    ∀ trade ∈ new, trade.exitTime ∈ rows.map Candle.timestamp ∧ trade.exitReason ≠ endReason
  points : ∃ new, s'.equityCurve = s.equityCurve ++ new ∧
    ∀ point ∈ new, point.timestamp ∈ rows.map Candle.timestamp

theorem Adds.refl (rows : List Candle) (s : BacktestState) : Adds rows s s where
  trades := ⟨[], (List.append_nil _).symm, by simp⟩
  points := ⟨[], (List.append_nil _).symm, by simp⟩

variable {s₁ s₂ s₃ s s' s₀ final : BacktestState}
  {rows completed candles frame later c₁ c₂ : List Candle}

theorem Adds.trans (h : Adds rows s₁ s₂) (h' : Adds rows s₂ s₃) : Adds rows s₁ s₃ := by
  obtain ⟨trades, htrades, hclosed⟩ := h.trades
  obtain ⟨trades', htrades', hclosed'⟩ := h'.trades
  obtain ⟨points, hpoints, htimes⟩ := h.points
  obtain ⟨points', hpoints', htimes'⟩ := h'.points
  constructor
  · refine ⟨trades ++ trades', by rw [htrades', htrades, List.append_assoc], ?_⟩
    intro trade htrade
    rcases List.mem_append.mp htrade with hmem | hmem
    · exact hclosed trade hmem
    · exact hclosed' trade hmem
  · refine ⟨points ++ points', by rw [hpoints', hpoints, List.append_assoc], ?_⟩
    intro point hpoint
    rcases List.mem_append.mp hpoint with hmem | hmem
    · exact htimes point hmem
    · exact htimes' point hmem

theorem Adds.mono {rows rows' : List Candle} {s s' : BacktestState} (h : Adds rows s s')
    (hsub : rows ⊆ rows') : Adds rows' s s' := by
  obtain ⟨trades, htrades, hclosed⟩ := h.trades
  obtain ⟨points, hpoints, htimes⟩ := h.points
  have hmap : rows.map Candle.timestamp ⊆ rows'.map Candle.timestamp := List.map_subset _ hsub
  exact ⟨⟨trades, htrades, fun trade hmem => ⟨hmap (hclosed trade hmem).1,
    (hclosed trade hmem).2⟩⟩, ⟨points, hpoints, fun point hmem => hmap (htimes point hmem)⟩⟩

variable {position : OpenPosition} {rawPrice pip spread slippage raw₁ raw₂ : ℚ}
  {exitReason : String}

theorem closePosition_eq_ok {timestamp : Int}
    (h : s.closePosition request position rawPrice timestamp exitReason = .ok s') :
    ∃ trade, s'.trades = s.trades ++ [trade] ∧ trade.exitTime = timestamp ∧
      trade.exitReason = exitReason ∧
      trade.exitPrice = exitPriceOf rawPrice position.side (pipSize request.symbol)
        request.execution.spreadPips request.execution.slippagePips ∧
      s'.equityCurve = s.equityCurve := by
  unfold BacktestState.closePosition at h
  obtain ⟨gross, -, hrest⟩ := bind_eq_ok h
  obtain rfl := Except.ok.inj hrest
  exact ⟨_, rfl, rfl, rfl, rfl, rfl⟩

variable {row last₁ last₂ : Candle}

theorem adds_of_close {signal : ChartSignal} (hreason : exitReason ≠ endReason)
    (h : s.closePosition request position rawPrice row.timestamp exitReason = .ok s') :
    Adds [row] s (s'.mark row.timestamp signal) := by
  obtain ⟨trade, htrades, htime, htext, -, hcurve⟩ := closePosition_eq_ok h
  constructor
  · refine ⟨[trade], htrades, ?_⟩
    intro trade' hmem
    obtain rfl := List.mem_singleton.mp hmem
    rw [htime, htext]
    exact ⟨by simp, hreason⟩
  · exact ⟨[], by rw [List.append_nil]; exact hcurve, by simp⟩

theorem opposite_ne_endReason (reason : String) : "反対シグナル: " ++ reason ≠ endReason := by
  intro h
  have hchars := congrArg String.toList h
  rw [String.toList_append] at hchars
  simp [endReason] at hchars

theorem adds_closeOnOpposite {signal : StrategySignal}
    (h : closeOnOpposite request signal row s = .ok s') : Adds [row] s s' := by
  unfold closeOnOpposite at h
  split at h
  · split at h
    · obtain ⟨closed, hclose, hrest⟩ := bind_eq_ok h
      obtain rfl := Except.ok.inj hrest
      exact adds_of_close (opposite_ne_endReason _) hclose
    · obtain rfl := Except.ok.inj h
      exact .refl _ _
  · obtain rfl := Except.ok.inj h
    exact .refl _ _

theorem adds_openOnSignal {signal : StrategySignal}
    (h : openOnSignal request signal row s = .ok s') : Adds [row] s s' := by
  unfold openOnSignal at h
  split at h
  · obtain ⟨units, -, h⟩ := bind_eq_ok h
    split at h
    · obtain ⟨risk, -, h⟩ := bind_eq_ok h
      split at h
      · obtain rfl := Except.ok.inj h
        exact ⟨(Adds.refl [row] s).trades, (Adds.refl [row] s).points⟩
      · obtain rfl := Except.ok.inj h
        exact .refl _ _
    · obtain rfl := Except.ok.inj h
      exact .refl _ _
  · obtain rfl := Except.ok.inj h
    exact .refl _ _

theorem exitAt_ne_endReason (h : position.exitAt row = some (rawPrice, exitReason)) :
    exitReason ≠ endReason := by
  unfold OpenPosition.exitAt at h
  split at h
  · split_ifs at h
    · obtain ⟨-, rfl⟩ := Prod.mk.inj (Option.some.inj h)
      decide
    · obtain ⟨-, rfl⟩ := Prod.mk.inj (Option.some.inj h)
      decide
  · split_ifs at h
    · obtain ⟨-, rfl⟩ := Prod.mk.inj (Option.some.inj h)
      decide
    · obtain ⟨-, rfl⟩ := Prod.mk.inj (Option.some.inj h)
      decide

theorem adds_closeOnTouch (h : closeOnTouch request row s = .ok s') : Adds [row] s s' := by
  unfold closeOnTouch at h
  split at h
  · obtain rfl := Except.ok.inj h
    exact .refl _ _
  · split at h
    · obtain rfl := Except.ok.inj h
      exact .refl _ _
    · rename_i hexit
      obtain ⟨closed, hclose, hrest⟩ := bind_eq_ok h
      obtain rfl := Except.ok.inj hrest
      exact adds_of_close (exitAt_ne_endReason hexit) hclose

theorem adds_markToMarket (h : markToMarket request row s = .ok s') : Adds [row] s s' := by
  unfold markToMarket at h
  obtain ⟨unrealized, -, hrest⟩ := bind_eq_ok h
  obtain rfl := Except.ok.inj hrest
  exact ⟨(Adds.refl [row] s).trades, ⟨_, rfl, by simp⟩⟩

/-- **Step lemma.** A bar adds trades and a point of its own time. -/
theorem barStep_adds
    (h : barStep evaluateStrategy request completed row s = .ok s') : Adds [row] s s' := by
  unfold barStep at h
  obtain ⟨s₁, hclose, h⟩ := bind_eq_ok h
  obtain ⟨s₂, hopen, h⟩ := bind_eq_ok h
  obtain ⟨s₃, htouch, h⟩ := bind_eq_ok h
  exact (((adds_closeOnOpposite hclose).trans (adds_openOnSignal hopen)).trans
    (adds_closeOnTouch htouch)).trans (adds_markToMarket h)

/-- **Run lemma.** The loop adds trades and points of the times of its rows. -/
theorem runBars_adds
    (h : runBars evaluateStrategy request completed rows s = .ok s') : Adds rows s s' := by
  induction rows generalizing completed s with
  | nil =>
      obtain rfl := Except.ok.inj h
      exact .refl _ _
  | cons row rest ih =>
      rw [runBars] at h
      obtain ⟨s₁, hstep, h⟩ := bind_eq_ok h
      have hfirst := @Adds.mono _ (row :: rest) _ _ (barStep_adds hstep) (by simp)
      split at h
      · obtain rfl := Except.ok.inj h
        exact hfirst
      · exact hfirst.trans ((ih h).mono (List.subset_cons_self _ _))

/-- The loop over two blocks of rows: the second is reached without a margin call. -/
theorem runBars_append {completed rows later : List Candle} {s : BacktestState}
    (hrunning : s.marginCallTriggered = false) :
    runBars evaluateStrategy request completed (rows ++ later) s =
      runBars evaluateStrategy request completed rows s >>= fun s' =>
        if s'.marginCallTriggered then .ok s'
        else runBars evaluateStrategy request (completed ++ rows) later s' := by
  induction rows generalizing completed s with
  | nil =>
      rw [List.nil_append, List.append_nil]
      show _ = if s.marginCallTriggered = true then _ else _
      rw [hrunning]
      rfl
  | cons row rest ih =>
      rw [List.cons_append, runBars, runBars]
      cases hstep : barStep evaluateStrategy request completed row s with
      | error e => rfl
      | ok s₁ =>
          show (if s₁.marginCallTriggered = true then _ else _) = _
          cases hmargin : s₁.marginCallTriggered with
          | true => simp [bind, Except.bind, pure, Except.pure, hmargin]
          | false =>
              rw [if_neg Bool.false_ne_true, ih hmargin, List.append_assoc]
              simp [bind, Except.bind, hmargin]

def Increasing (candles : List Candle) : Prop :=
  (candles.map Candle.timestamp).Pairwise (· < ·)
deriving Decidable

theorem candlesToFrame_of_increasing (h : Increasing candles) :
    candlesToFrame candles = candles := by
  have hpair : candles.Pairwise fun a b => a.timestamp < b.timestamp := List.pairwise_map.mp h
  have hsorted : candles.mergeSort (fun a b => a.timestamp ≤ b.timestamp) = candles :=
    List.mergeSort_of_pairwise (hpair.imp fun hlt => by simpa using hlt.le)
  unfold candlesToFrame
  rw [hsorted]
  have hdrop : ∀ kept rest : List Candle,
      (kept ++ rest).Pairwise (fun a b => a.timestamp < b.timestamp) →
      rest.foldl (fun kept candle =>
        if kept.any fun other => other.timestamp = candle.timestamp then kept
        else kept ++ [candle]) kept = kept ++ rest := by
    intro kept rest
    induction rest generalizing kept with
    | nil => simp
    | cons candle rest ih =>
        intro hsplit
        have hnew : (kept.any fun other => other.timestamp = candle.timestamp) = false := by
          simp only [List.any_eq_false, decide_eq_true_eq]
          intro other hother
          exact ((List.pairwise_append.mp hsplit).2.2 other hother candle
            List.mem_cons_self).ne
        rw [List.foldl_cons, hnew, if_neg Bool.false_ne_true, ih, List.append_assoc]
        · rfl
        · simpa using hsplit
  exact hdrop [] candles hpair

variable (evaluateStrategy request)

/-- The local variables of a run over a frame in front of bar `k`, or where a margin call
has stopped it before. -/
def stateBefore (frame : List Candle) (k : Nat) : Except ZeroDivisionError BacktestState :=
  loopOver evaluateStrategy request (frame.take k)

variable {evaluateStrategy request}

variable {k : Nat}

theorem stateBefore_of_le_two (hk : k ≤ 2) :
    stateBefore evaluateStrategy request frame k = .ok (startState request) := by
  have hdrop : (frame.take k).drop 2 = [] := List.drop_eq_nil_of_le (by simp; omega)
  unfold stateBefore loopOver
  rw [hdrop]
  rfl

/-- The loop reaches bar `k`, and goes on from there unless a margin call has stopped it. -/
theorem loopOver_split (frame : List Candle) (k : Nat) :
    ∃ completed later, later ⊆ frame.drop k ∧
      loopOver evaluateStrategy request frame =
        stateBefore evaluateStrategy request frame k >>= fun s =>
          if s.marginCallTriggered then .ok s
          else runBars evaluateStrategy request completed later s := by
  by_cases hk : k ≤ 2
  · refine ⟨frame.take 2, frame.drop 2, ?_, ?_⟩
    · have hdrop : frame.drop 2 = (frame.drop k).drop (2 - k) := by
        rw [List.drop_drop]
        congr 1
        omega
      rw [hdrop]
      exact List.drop_subset _ _
    · rw [stateBefore_of_le_two hk]
      rfl
  · have htake : (frame.take k).take 2 = frame.take 2 := by
      rw [List.take_take]
      congr 1
      omega
    have hdrop : (frame.take k).drop 2 ++ frame.drop k = frame.drop 2 := by
      have hlater : frame.drop k = (frame.drop 2).drop (k - 2) := by
        rw [List.drop_drop]
        congr 1
        omega
      rw [List.drop_take, hlater, List.take_append_drop]
    refine ⟨frame.take 2 ++ (frame.take k).drop 2, frame.drop k, List.Subset.refl _, ?_⟩
    have happend := @runBars_append evaluateStrategy request (frame.take 2)
      ((frame.take k).drop 2) (frame.drop k) (startState request) rfl
    rw [hdrop] at happend
    unfold stateBefore loopOver
    rw [htake]
    exact happend

/-- The trades that were closed before bar `k` by a stop, a target or an opposite signal. -/
def closedBefore (candles : List Candle) (k : Nat) (s : BacktestState) : List TradeResult :=
  s.trades.filter fun trade =>
    trade.exitTime ∈ (candles.take k).map Candle.timestamp ∧ trade.exitReason ≠ endReason

/-- The equity points of the bars of a run: all but the one of the closing behind the
loop. -/
def barPoints (s : BacktestState) : List EquityPoint :=
  if (s.trades.getLast?.map TradeResult.exitReason) = some endReason then s.equityCurve.dropLast
  else s.equityCurve

/-- The equity points of the bars before bar `k`. -/
def pointsBefore (candles : List Candle) (k : Nat) (s : BacktestState) : List EquityPoint :=
  (barPoints s).filter fun point => point.timestamp ∈ (candles.take k).map Candle.timestamp

/-- The closing behind the loop leaves the state, or adds its trade and its point. -/
theorem closeAtEnd_eq_ok (h : closeAtEnd request frame s = .ok s') :
    s' = s ∨ ∃ trade point, s'.trades = s.trades ++ [trade] ∧
      trade.exitReason = endReason ∧ s'.equityCurve = s.equityCurve ++ [point] := by
  unfold closeAtEnd at h
  split at h
  · obtain ⟨closed, hclose, hrest⟩ := bind_eq_ok h
    obtain ⟨trade, htrades, -, hreason, -, hcurve⟩ := closePosition_eq_ok hclose
    obtain rfl := Except.ok.inj hrest
    exact Or.inr ⟨trade, _, htrades, hreason, by rw [hcurve]⟩
  · exact Or.inl (Except.ok.inj h).symm

theorem results_closeAtEnd {frame candles : List Candle} {k : Nat} {s s' : BacktestState}
    (hloop : ∀ trade ∈ s.trades, trade.exitReason ≠ endReason)
    (h : closeAtEnd request frame s = .ok s') :
    closedBefore candles k s' = closedBefore candles k s ∧ barPoints s' = s.equityCurve := by
  have hnot : (s.trades.getLast?.map TradeResult.exitReason) ≠ some endReason := by
    intro hlast
    obtain ⟨trade, htrade, hreason⟩ := Option.map_eq_some_iff.mp hlast
    exact hloop trade (List.mem_of_getLast? htrade) hreason
  rcases closeAtEnd_eq_ok h with rfl | ⟨trade, point, htrades, hreason, hcurve⟩
  · exact ⟨rfl, if_neg hnot⟩
  · refine ⟨?_, ?_⟩
    · unfold closedBefore
      rw [htrades, List.filter_append]
      simp [hreason]
    · unfold barPoints
      rw [htrades, hcurve]
      simp [hreason]

theorem results_adds
    (hinc : Increasing candles) (hrows : rows ⊆ candles.take k) (hlater : later ⊆ candles.drop k)
    (hempty : s₀.trades = [] ∧ s₀.equityCurve = []) (h : Adds rows s₀ s) (h' : Adds later s s') :
    closedBefore candles k s' = s.trades ∧
      (s'.equityCurve.filter fun point =>
        point.timestamp ∈ (candles.take k).map Candle.timestamp) = s.equityCurve ∧
      ∀ trade ∈ s'.trades, trade.exitReason ≠ endReason := by
  obtain ⟨trades, htrades, hclosed⟩ := h.trades
  obtain ⟨points, hpoints, htimes⟩ := h.points
  obtain ⟨trades', htrades', hclosed'⟩ := h'.trades
  obtain ⟨points', hpoints', htimes'⟩ := h'.points
  rw [hempty.1, List.nil_append] at htrades
  rw [hempty.2, List.nil_append] at hpoints
  have hearly : rows.map Candle.timestamp ⊆ (candles.take k).map Candle.timestamp :=
    List.map_subset _ hrows
  have hapart : ∀ time ∈ later.map Candle.timestamp,
      time ∉ (candles.take k).map Candle.timestamp := by
    have hsplit : ((candles.take k).map Candle.timestamp ++
        (candles.drop k).map Candle.timestamp).Pairwise (· < ·) := by
      rw [← List.map_append, List.take_append_drop]
      exact hinc
    intro time htime hmem
    exact lt_irrefl _ ((List.pairwise_append.mp hsplit).2.2 time hmem time
      (List.map_subset _ hlater htime))
  rw [← htrades] at hclosed
  rw [← hpoints] at htimes
  refine ⟨?_, ?_, ?_⟩
  · unfold closedBefore
    rw [htrades', List.filter_append, List.filter_eq_self.mpr, List.filter_eq_nil_iff.mpr,
      List.append_nil]
    · intro trade hmem hcounted
      exact hapart _ (hclosed' trade hmem).1 (of_decide_eq_true hcounted).1
    · intro trade hmem
      exact decide_eq_true ⟨hearly (hclosed trade hmem).1, (hclosed trade hmem).2⟩
  · rw [hpoints', List.filter_append, List.filter_eq_self.mpr, List.filter_eq_nil_iff.mpr,
      List.append_nil]
    · intro point hmem hcounted
      exact hapart _ (htimes' point hmem) (of_decide_eq_true hcounted)
    · intro point hmem
      exact decide_eq_true (hearly (htimes point hmem))
  · intro trade hmem
    rw [htrades'] at hmem
    rcases List.mem_append.mp hmem with hmem | hmem
    · exact (hclosed trade hmem).2
    · exact (hclosed' trade hmem).2

/-- **The results of a run before a bar are those of its state in front of that bar.** -/
theorem results_before (hinc : Increasing candles) (k : Nat)
    (hrun : runFrame evaluateStrategy request candles = .ok final) :
    ∃ s, stateBefore evaluateStrategy request candles k = .ok s ∧
      closedBefore candles k final = s.trades ∧
      pointsBefore candles k final = s.equityCurve := by
  obtain ⟨looped, hloop, hend⟩ := bind_eq_ok hrun
  obtain ⟨completed, later, hlater, hsplit⟩ :=
    @loopOver_split evaluateStrategy request candles k
  rw [hsplit] at hloop
  obtain ⟨s, hs, hrest⟩ := bind_eq_ok hloop
  have hbefore : Adds ((candles.take k).drop 2) (startState request) s := runBars_adds hs
  have hbehind : Adds later s looped := by
    split at hrest
    · obtain rfl := Except.ok.inj hrest
      exact .refl _ _
    · exact runBars_adds hrest
  obtain ⟨htrades, hpoints, hreasons⟩ := results_adds hinc (List.drop_subset _ _) hlater
    ⟨rfl, rfl⟩ hbefore hbehind
  obtain ⟨hclosed, hbars⟩ := @results_closeAtEnd _ _ candles k _ _ hreasons hend
  refine ⟨s, hs, hclosed.trans htrades, ?_⟩
  rw [pointsBefore, hbars]
  exact hpoints

variable (evaluateStrategy request)

/-- What `run_backtest` reports over a series of candles. -/
def reportOver (candles : List Candle) : Except ZeroDivisionError BacktestReport :=
  (runFrame evaluateStrategy request (candlesToFrame candles)).map (reportOf request)

/-- The trades and the equity points before bar `k` are the same in both runs. -/
def SameBefore (c₁ c₂ : List Candle) (k : Nat) : Prop :=
  ∀ f₁ f₂, runFrame evaluateStrategy request (candlesToFrame c₁) = .ok f₁ →
    runFrame evaluateStrategy request (candlesToFrame c₂) = .ok f₂ →
    closedBefore c₁ k f₁ = closedBefore c₂ k f₂ ∧ pointsBefore c₁ k f₁ = pointsBefore c₂ k f₂

/-- A margin call before bar `k` stops both runs with the same report. -/
def SameWhenStopped (c₁ c₂ : List Candle) (k : Nat) : Prop :=
  ∀ s, stateBefore evaluateStrategy request (candlesToFrame c₁) k = .ok s →
    s.marginCallTriggered → reportOver evaluateStrategy request c₁ =
      reportOver evaluateStrategy request c₂

def closingRaises (position : OpenPosition) (rawPrice : ℚ) : Prop :=
  endsWithJpy request.symbol ∧ exitPriceOf rawPrice position.side (pipSize request.symbol)
    request.execution.spreadPips request.execution.slippagePips = 0

/-- Where a margin call stops the run before bar `k`, no position is open, or the last
candles of the series close it alike. -/
def StopsFlat (c₁ c₂ : List Candle) (k : Nat) : Prop :=
  ∀ s position, stateBefore evaluateStrategy request (candlesToFrame c₁) k = .ok s →
    s.marginCallTriggered → s.position = some position →
    ∀ last₁ ∈ c₁.getLast?, ∀ last₂ ∈ c₂.getLast?, last₁.close = last₂.close ∧
      (last₁.timestamp = last₂.timestamp ∨ closingRaises request position last₁.close)

variable {evaluateStrategy request}

theorem same_before (hinc₁ : Increasing c₁)
    (hinc₂ : Increasing c₂) (hagree : AgreeBefore k c₁ c₂) :
    SameBefore evaluateStrategy request c₁ c₂ k := by
  intro f₁ f₂ hf₁ hf₂
  rw [candlesToFrame_of_increasing hinc₁] at hf₁
  rw [candlesToFrame_of_increasing hinc₂] at hf₂
  obtain ⟨s₁, hs₁, htrades₁, hpoints₁⟩ := results_before hinc₁ k hf₁
  obtain ⟨s₂, hs₂, htrades₂, hpoints₂⟩ := results_before hinc₂ k hf₂
  have hstates : stateBefore evaluateStrategy request c₁ k =
      stateBefore evaluateStrategy request c₂ k := by
    unfold stateBefore
    rw [hagree]
  obtain rfl : s₁ = s₂ := Except.ok.inj (hs₁.symm.trans (hstates.trans hs₂))
  exact ⟨htrades₁.trans htrades₂.symm, hpoints₁.trans hpoints₂.symm⟩

theorem runFrame_of_stopped (hs : stateBefore evaluateStrategy request candles k = .ok s)
    (hmargin : s.marginCallTriggered) :
    runFrame evaluateStrategy request candles = closeAtEnd request candles s := by
  obtain ⟨completed, later, -, hsplit⟩ := @loopOver_split evaluateStrategy request candles k
  unfold runFrame
  rw [hsplit, hs]
  show (if s.marginCallTriggered = true then _ else _) >>= _ = _
  rw [if_pos hmargin]
  rfl

theorem exitPriceOf_inj {side : Side}
    (h : exitPriceOf raw₁ side pip spread slippage = exitPriceOf raw₂ side pip spread slippage) :
    raw₁ = raw₂ := by
  unfold exitPriceOf at h
  dsimp only at h
  split at h
  · exact sub_left_inj.mp h
  · exact add_left_inj _ |>.mp h

theorem closePosition_raises_iff {timestamp : Int} :
    s.closePosition request position rawPrice timestamp exitReason =
        .error .floatDivision ↔ closingRaises request position rawPrice := by
  unfold BacktestState.closePosition pricePnl closingRaises
  dsimp only
  split
  · rename_i hjpy
    split
    · rename_i hzero
      simp [hjpy, hzero, bind, Except.bind]
    · rename_i hzero
      simp [hjpy, hzero, bind, Except.bind, pure, Except.pure]
  · rename_i hjpy
    simp [hjpy, bind, Except.bind, pure, Except.pure]

/-- Two last candles close a position alike exactly when their closes are the same and so
are their times, unless the closing raises. -/
theorem closings_alike_iff (hposition : s.position = some position)
    (hlast₁ : c₁.getLast? = some last₁) (hlast₂ : c₂.getLast? = some last₂) :
    (closeAtEnd request c₁ s).map (reportOf request) =
        (closeAtEnd request c₂ s).map (reportOf request) ↔
      last₁.close = last₂.close ∧
        (last₁.timestamp = last₂.timestamp ∨ closingRaises request position last₁.close) := by
  unfold closeAtEnd
  rw [hposition, hlast₁, hlast₂]
  dsimp only
  constructor
  · intro hsame
    cases hclose₁ : s.closePosition request position last₁.close last₁.timestamp endReason with
    | error e =>
        have hraises₁ := closePosition_raises_iff.mp hclose₁
        cases hclose₂ : s.closePosition request position last₂.close last₂.timestamp
            endReason with
        | error e' =>
            have hraises₂ := closePosition_raises_iff.mp hclose₂
            exact ⟨exitPriceOf_inj (hraises₁.2.trans hraises₂.2.symm), Or.inr hraises₁⟩
        | ok closed₂ =>
            rw [hclose₁, hclose₂] at hsame
            cases hsame
    | ok closed₁ =>
        cases hclose₂ : s.closePosition request position last₂.close last₂.timestamp
            endReason with
        | error e' =>
            rw [hclose₁, hclose₂] at hsame
            cases hsame
        | ok closed₂ =>
            rw [hclose₁, hclose₂] at hsame
            have htrades := congrArg BacktestReport.trades (Except.ok.inj hsame)
            obtain ⟨trade₁, htrades₁, htime₁, -, hprice₁, -⟩ := closePosition_eq_ok hclose₁
            obtain ⟨trade₂, htrades₂, htime₂, -, hprice₂, -⟩ := closePosition_eq_ok hclose₂
            have hboth : closed₁.trades = closed₂.trades := htrades
            rw [htrades₁, htrades₂] at hboth
            obtain ⟨-, hlast⟩ := List.append_inj' hboth rfl
            obtain rfl : trade₁ = trade₂ := List.head_eq_of_cons_eq hlast
            exact ⟨exitPriceOf_inj (hprice₁.symm.trans hprice₂), Or.inl (htime₁.symm.trans htime₂)⟩
  · rintro ⟨hclose, htime | hraises⟩
    · rw [hclose, htime]
    · rw [closePosition_raises_iff.mpr hraises,
        closePosition_raises_iff.mpr (hclose ▸ hraises)]
      rfl

theorem same_when_stopped_iff (hinc₁ : Increasing c₁)
    (hinc₂ : Increasing c₂) (hagree : AgreeBefore k c₁ c₂) :
    SameWhenStopped evaluateStrategy request c₁ c₂ k ↔
      StopsFlat evaluateStrategy request c₁ c₂ k := by
  unfold SameWhenStopped StopsFlat reportOver
  rw [candlesToFrame_of_increasing hinc₁, candlesToFrame_of_increasing hinc₂]
  have hstates : stateBefore evaluateStrategy request c₁ k =
      stateBefore evaluateStrategy request c₂ k := by
    unfold stateBefore
    rw [hagree]
  constructor
  · intro hsame s position hs hmargin hposition last₁ hlast₁ last₂ hlast₂
    have hreports := hsame s hs hmargin
    rw [runFrame_of_stopped hs hmargin, runFrame_of_stopped (hstates ▸ hs) hmargin] at hreports
    exact (closings_alike_iff hposition hlast₁ hlast₂).mp hreports
  · intro hflat s hs hmargin
    rw [runFrame_of_stopped hs hmargin, runFrame_of_stopped (hstates ▸ hs) hmargin]
    cases hposition : s.position with
    | none =>
        unfold closeAtEnd
        rw [hposition]
    | some position =>
        have hnonempty : ∀ candles : List Candle,
            stateBefore evaluateStrategy request candles k = .ok s → candles ≠ [] := by
          rintro candles hrun rfl
          rw [stateBefore, List.take_nil] at hrun
          obtain rfl := Except.ok.inj hrun
          cases hmargin
        have hlast : ∀ candles : List Candle,
            stateBefore evaluateStrategy request candles k = .ok s →
              ∃ last, candles.getLast? = some last := fun candles hrun =>
          ⟨_, List.getLast?_eq_some_getLast (hnonempty candles hrun)⟩
        obtain ⟨last₁, hlast₁⟩ := hlast c₁ hs
        obtain ⟨last₂, hlast₂⟩ := hlast c₂ (hstates ▸ hs)
        exact (closings_alike_iff hposition hlast₁ hlast₂).mpr
          (hflat s position hs hmargin hposition last₁ hlast₁ last₂ hlast₂)

/-- **Where the backtest stops.**  The results of the bars before bar `k` are the same in
every two runs over increasing series that agree before it.  A margin call before bar `k`
stops both with the same report exactly when it finds the account flat, or the last candles
of the series close its position alike. -/
theorem stops_on_its_bars_iff {c₁ c₂ : List Candle} {k : Nat} (hinc₁ : Increasing c₁)
    (hinc₂ : Increasing c₂) (hagree : AgreeBefore k c₁ c₂) :
    (SameBefore evaluateStrategy request c₁ c₂ k ∧
        SameWhenStopped evaluateStrategy request c₁ c₂ k) ↔
      StopsFlat evaluateStrategy request c₁ c₂ k := by
  rw [same_when_stopped_iff hinc₁ hinc₂ hagree]
  exact and_iff_right (same_before hinc₁ hinc₂ hagree)

end Causality

namespace Sample

def buyThenSell (completed : List Candle) (_ : StrategyConfig) : StrategySignal :=
  if completed.length = 2 then { action := .buy, reason := "first" }
  else { action := .sell, reason := "later" }

def execution : ExecutionConfig where
  initialCapital := 100
  fixedUnits := some 1
  stopLossPips := 100
  takeProfitPips := 100
  maxLossPercent := 10
  spreadPips := 0
  commissionPerTrade := 199 / 2
  slippagePips := 0
  leverage := 100
  capital_pos := by decide +kernel
  units_pos := by
    intro units hunits
    obtain rfl := Option.some.inj hunits
    decide +kernel
  percents_bounded := by decide +kernel
  distances_pos := by decide +kernel
  costs_bounded := by decide +kernel
  leverage_bounded := by decide +kernel

def request : BacktestRequest where
  symbol := "EUR_USD"
  start := 0
  stop := 300
  strategy :=
    { periods_bounded := by decide +kernel
      levels_bounded := by decide +kernel
      validate_periods := by decide +kernel }
  execution := execution
  validate_range := by decide

/-- A minute at one price. -/
def flat (minute : Nat) (price : ℚ) : Candle where
  timestamp := 60 * minute
  openPrice := price
  high := price
  low := price
  close := price

def series (last : ℚ) : List Candle :=
  (List.range 4).map (flat · 1) ++ [flat 4 last]

end Sample

theorem flat_series_stops_on_its_bars :
    (SameBefore Sample.buyThenSell Sample.request (Sample.series 1) (Sample.series 2) 4 ∧
        SameWhenStopped Sample.buyThenSell Sample.request (Sample.series 1) (Sample.series 2) 4) ↔
      StopsFlat Sample.buyThenSell Sample.request (Sample.series 1) (Sample.series 2) 4 :=
  stops_on_its_bars_iff (by decide +kernel) (by decide +kernel) (by decide +kernel)

/-- The commission of a closing leads to a margin call in the bar that opens the next
position, which is then closed at the last candle of the series. -/
theorem margin_call_reads_the_last_candle :
    ¬ ∀ (evaluateStrategy : List Candle → StrategyConfig → StrategySignal)
        (request : BacktestRequest) (c₁ c₂ : List Candle) (k : Nat), Increasing c₁ →
        Increasing c₂ → AgreeBefore k c₁ c₂ →
        SameBefore evaluateStrategy request c₁ c₂ k ∧
          SameWhenStopped evaluateStrategy request c₁ c₂ k := by
  intro hall
  have hinc : ∀ last, Increasing (Sample.series last) := by
    intro last
    show (List.map Candle.timestamp (Sample.series last)).Pairwise (· < ·)
    have htimes : (Sample.series last).map Candle.timestamp = [0, 60, 120, 180, 240] := rfl
    rw [htimes]
    decide
  have hsame := (hall Sample.buyThenSell Sample.request (Sample.series 1) (Sample.series 2) 4
    (hinc 1) (hinc 2) (by decide +kernel)).2
  have hcalled : ((stateBefore Sample.buyThenSell Sample.request (Sample.series 1)
      4).toOption.map BacktestState.marginCallTriggered) = some true := by decide +kernel
  have hexits : ∀ last, (reportOver Sample.buyThenSell Sample.request
      (Sample.series last)).toOption.map (fun report => report.trades.map
        TradeResult.exitPrice) =
      (runFrame Sample.buyThenSell Sample.request (Sample.series last)).toOption.map
        (fun state => state.trades.map TradeResult.exitPrice) := by
    intro last
    unfold reportOver
    rw [candlesToFrame_of_increasing (hinc last)]
    cases runFrame Sample.buyThenSell Sample.request (Sample.series last) <;> rfl
  have hdiffer : (runFrame Sample.buyThenSell Sample.request (Sample.series 1)).toOption.map
        (fun state => state.trades.map TradeResult.exitPrice) ≠
      (runFrame Sample.buyThenSell Sample.request (Sample.series 2)).toOption.map
        (fun state => state.trades.map TradeResult.exitPrice) := by decide +kernel
  cases hs : stateBefore Sample.buyThenSell Sample.request (Sample.series 1) 4 with
  | error e =>
      rw [hs] at hcalled
      cases hcalled
  | ok s =>
      rw [hs] at hcalled
      have hreports := hsame s (by rw [candlesToFrame_of_increasing (hinc 1)]; exact hs)
        (Option.some.inj hcalled)
      apply hdiffer
      rw [← hexits, ← hexits, hreports]

end FxStrategyLab.CandleBacktest
