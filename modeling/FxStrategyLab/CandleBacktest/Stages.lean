import FxStrategyLab.CandleBacktest.Causality

/-!
# The stages of a bar

Each turn of the loop of `run_backtest` closes a position against its signal, opens one,
closes it where the bar touches its levels, and notes a point of the equity curve.  This file
says once what each stage may do to the local variables, for every rounding of the reported
values.

**Results.** `barStep_stages` splits a turn into its stages, and `closeOnOpposite_cases`,
`openOnSignal_cases`, `closeOnTouch_cases` and `markToMarket_point` say what they do.
`candlesToFrame_increasing` says that a frame has increasing times.
-/

namespace FxStrategyLab.CandleBacktest

open Library.Series (bind_eq_ok)

def stopReason : String := "損切り到達"

def takeReason : String := "利確到達"

section Stages

variable (request : BacktestRequest) (rounding : Rounding)

def stopLevel (side : Side) (entryPrice : ℚ) : ℚ :=
  let stopDistance := request.execution.stopLossPips * pipSize request.symbol
  if side = .buy then entryPrice - stopDistance else entryPrice + stopDistance

/-- The target of an entry. -/
def takeLevel (side : Side) (entryPrice : ℚ) : ℚ :=
  let takeDistance := request.execution.takeProfitPips * pipSize request.symbol
  if side = .buy then entryPrice + takeDistance else entryPrice - takeDistance

/-- A position is closed at a raw price, which books a trade. -/
structure ClosedBy (s s' : BacktestState) (position : OpenPosition) (rawPrice : ℚ)
    (timestamp : Int) (exitReason : String) (trade : TradeResult) : Prop where
  trades : s'.trades = s.trades ++ [trade]
  flat : s'.position = none
  curve : s'.equityCurve = s.equityCurve
  booked : ∃ pnl, s'.equityValue = s.equityValue + pnl ∧ trade.pnl = rounding pnl 2
  side : trade.side = position.side
  entryTime : trade.entryTime = position.entryTime
  entryPrice : trade.entryPrice = position.entryPrice
  units : trade.units = position.units
  entryReason : trade.entryReason = position.entryReason
  exitTime : trade.exitTime = timestamp
  exitPrice : trade.exitPrice = exitPriceOf rawPrice position.side (pipSize request.symbol)
    request.execution.spreadPips request.execution.slippagePips
  exitReason : trade.exitReason = exitReason

/-- A position is opened at the open of a bar. -/
structure OpenedBy (s s' : BacktestState) (row : Candle) (position : OpenPosition) : Prop where
  held : s'.position = some position
  trades : s'.trades = s.trades
  curve : s'.equityCurve = s.equityCurve
  equity : s'.equityValue = s.equityValue
  entryTime : position.entryTime = row.timestamp
  stopLoss : position.stopLoss = stopLevel request position.side position.entryPrice
  takeProfit : position.takeProfit = takeLevel request position.side position.entryPrice

variable {evaluateStrategy : List Candle → StrategyConfig → StrategySignal}
  {request rounding}

variable {s s' : BacktestState}

theorem closePosition_closed {position : OpenPosition} {rawPrice : ℚ}
    {timestamp : Int} {exitReason : String}
    (h : s.closePosition request position rawPrice timestamp exitReason rounding = .ok s') :
    ∃ trade, ClosedBy request rounding s s' position rawPrice timestamp exitReason trade := by
  unfold BacktestState.closePosition at h
  obtain ⟨gross, -, hrest⟩ := bind_eq_ok h
  obtain rfl := Except.ok.inj hrest
  exact ⟨_, rfl, rfl, rfl, ⟨_, rfl, rfl⟩, rfl, rfl, rfl, rfl, rfl, rfl, rfl, rfl⟩

theorem ClosedBy.mark {position : OpenPosition} {rawPrice : ℚ}
    {timestamp time : Int} {exitReason : String} {trade : TradeResult} {signal : ChartSignal}
    (h : ClosedBy request rounding s s' position rawPrice timestamp exitReason trade) :
    ClosedBy request rounding s (s'.mark time signal) position rawPrice timestamp exitReason
      trade :=
  ⟨h.trades, h.flat, h.curve, h.booked, h.side, h.entryTime, h.entryPrice, h.units,
    h.entryReason, h.exitTime, h.exitPrice, h.exitReason⟩

variable {row : Candle}

theorem closeOnOpposite_cases {signal : StrategySignal}
    (h : closeOnOpposite request signal row s rounding = .ok s') :
    s' = s ∨ ∃ position trade, s.position = some position ∧
      ClosedBy request rounding s s' position row.openPrice row.timestamp
        ("反対シグナル: " ++ signal.reason) trade := by
  unfold closeOnOpposite at h
  split at h
  · rename_i position side hposition hside
    split at h
    · obtain ⟨closed, hclose, hrest⟩ := bind_eq_ok h
      obtain rfl := Except.ok.inj hrest
      obtain ⟨trade, hclosed⟩ := closePosition_closed hclose
      exact Or.inr ⟨position, trade, hposition, hclosed.mark⟩
    · exact Or.inl (Except.ok.inj h).symm
  · exact Or.inl (Except.ok.inj h).symm

theorem openOnSignal_cases {signal : StrategySignal}
    (h : openOnSignal request signal row s = .ok s') :
    s' = s ∨ s.position = none ∧ ∃ position, OpenedBy request s s' row position := by
  unfold openOnSignal at h
  split at h
  · rename_i side hnone hside
    obtain ⟨units, -, h⟩ := bind_eq_ok h
    split at h
    · obtain ⟨risk, -, h⟩ := bind_eq_ok h
      split at h
      · obtain rfl := Except.ok.inj h
        exact Or.inr ⟨hnone, _, rfl, rfl, rfl, rfl, rfl, rfl, rfl⟩
      · exact Or.inl (Except.ok.inj h).symm
    · exact Or.inl (Except.ok.inj h).symm
  · exact Or.inl (Except.ok.inj h).symm

/-- A bar leaves the account alone where it touches no level, or closes its position at the
touched one. -/
theorem closeOnTouch_cases (h : closeOnTouch request row s rounding = .ok s') :
    (s' = s ∧ ∀ position, s.position = some position → position.exitAt row = none) ∨
      ∃ position rawPrice exitReason trade, s.position = some position ∧
        position.exitAt row = some (rawPrice, exitReason) ∧
        ClosedBy request rounding s s' position rawPrice row.timestamp exitReason trade := by
  unfold closeOnTouch at h
  split at h
  · rename_i hnone
    refine Or.inl ⟨(Except.ok.inj h).symm, fun position hposition => ?_⟩
    rw [hnone] at hposition
    cases hposition
  · rename_i position hposition
    split at h
    · rename_i hexit
      refine Or.inl ⟨(Except.ok.inj h).symm, fun other hother => ?_⟩
      obtain rfl := Option.some.inj (hposition.symm.trans hother)
      exact hexit
    · rename_i rawPrice exitReason hexit
      obtain ⟨closed, hclose, hrest⟩ := bind_eq_ok h
      obtain rfl := Except.ok.inj hrest
      obtain ⟨trade, hclosed⟩ := closePosition_closed hclose
      exact Or.inr ⟨position, rawPrice, exitReason, trade, hposition, hexit, hclosed.mark⟩

theorem markToMarket_point (h : markToMarket request row s rounding = .ok s') :
    ∃ unrealized, unrealizedOf request row.close s.position = .ok unrealized ∧
      s'.equityValue = s.equityValue ∧ s'.position = s.position ∧ s'.trades = s.trades ∧
      s'.equityCurve = s.equityCurve ++
        [{ timestamp := row.timestamp
           equity := rounding (s.equityValue + unrealized) 2 }] := by
  unfold markToMarket at h
  obtain ⟨unrealized, hunrealized, hrest⟩ := bind_eq_ok h
  obtain rfl := Except.ok.inj hrest
  exact ⟨unrealized, hunrealized, rfl, rfl, rfl, rfl⟩

theorem barStep_stages {completed : List Candle}
    (h : barStep evaluateStrategy request completed row s rounding = .ok s') :
    ∃ s₁ s₂ s₃,
      closeOnOpposite request (evaluateStrategy completed request.strategy) row s rounding =
        .ok s₁ ∧
      openOnSignal request (evaluateStrategy completed request.strategy) row s₁ = .ok s₂ ∧
      closeOnTouch request row s₂ rounding = .ok s₃ ∧
      markToMarket request row s₃ rounding = .ok s' := by
  unfold barStep at h
  obtain ⟨s₁, hclose, h⟩ := bind_eq_ok h
  obtain ⟨s₂, hopen, h⟩ := bind_eq_ok h
  obtain ⟨s₃, htouch, h⟩ := bind_eq_ok h
  exact ⟨s₁, s₂, s₃, hclose, hopen, htouch, h⟩

/-- The closing behind the loop leaves a flat account alone, or closes its position at the
last candle and notes the account. -/
theorem closeAtEnd_cases {frame : List Candle}
    (h : closeAtEnd request frame s rounding = .ok s') :
    (s' = s ∧ (s.position = none ∨ frame = [])) ∨
      ∃ position last trade, s.position = some position ∧ frame.getLast? = some last ∧
        ∃ closed, ClosedBy request rounding s closed position last.close last.timestamp
            endReason trade ∧
          s' = { closed with
            equityCurve := closed.equityCurve ++
              [{ timestamp := last.timestamp, equity := rounding closed.equityValue 2 }] } := by
  unfold closeAtEnd at h
  split at h
  · rename_i position last hposition hlast
    obtain ⟨closed, hclose, hrest⟩ := bind_eq_ok h
    obtain rfl := Except.ok.inj hrest
    obtain ⟨trade, hclosed⟩ := closePosition_closed hclose
    exact Or.inr ⟨position, last, trade, hposition, hlast, closed, hclosed, rfl⟩
  · rename_i hnot
    refine Or.inl ⟨(Except.ok.inj h).symm, ?_⟩
    cases hposition : s.position with
    | none => exact Or.inl rfl
    | some position =>
        cases hlast : frame.getLast? with
        | none => exact Or.inr (List.getLast?_eq_none_iff.mp hlast)
        | some last => exact absurd hlast (hnot position last hposition)

end Stages

theorem dropDuplicates_increasing {candles kept : List Candle}
    (hsorted : candles.Pairwise fun a b => a.timestamp ≤ b.timestamp)
    (hkept : kept.Pairwise fun a b => a.timestamp < b.timestamp)
    (hbehind : ∀ a ∈ kept, ∀ b ∈ candles, a.timestamp ≤ b.timestamp) :
    (candles.foldl
      (fun kept candle =>
        if kept.any fun other => other.timestamp = candle.timestamp then kept
        else kept ++ [candle]) kept).Pairwise fun a b => a.timestamp < b.timestamp := by
  induction candles generalizing kept with
  | nil => exact hkept
  | cons candle rest ih =>
      obtain ⟨hfirst, hrest⟩ := List.pairwise_cons.mp hsorted
      rw [List.foldl_cons]
      split
      · exact ih hrest hkept fun a ha b hb => hbehind a ha b (List.mem_cons_of_mem _ hb)
      · rename_i hnew
        refine ih hrest ?_ ?_
        · rw [List.pairwise_append]
          refine ⟨hkept, List.pairwise_singleton _ _, ?_⟩
          intro a ha b hb
          obtain rfl := List.mem_singleton.mp hb
          refine lt_of_le_of_ne (hbehind a ha _ List.mem_cons_self) fun hsame => hnew ?_
          exact List.any_eq_true.mpr ⟨a, ha, decide_eq_true hsame⟩
        · intro a ha b hb
          rcases List.mem_append.mp ha with ha | ha
          · exact hbehind a ha b (List.mem_cons_of_mem _ hb)
          · obtain rfl := List.mem_singleton.mp ha
            exact hfirst b hb

/-- **The candles of a frame have increasing times.** -/
theorem candlesToFrame_increasing (candles : List Candle) :
    Increasing (candlesToFrame candles) := by
  unfold Increasing candlesToFrame dropDuplicates
  rw [List.pairwise_map]
  refine dropDuplicates_increasing ?_ List.Pairwise.nil (by simp)
  have hsorted : (candles.mergeSort fun a b => a.timestamp ≤ b.timestamp).Pairwise
      fun a b => decide (a.timestamp ≤ b.timestamp) = true := by
    refine List.pairwise_mergeSort ?_ ?_ candles
    · intro a b c hab hbc
      simp only [decide_eq_true_eq] at hab hbc ⊢
      exact hab.trans hbc
    · intro a b
      simp only [Bool.or_eq_true, decide_eq_true_eq]
      exact le_total _ _
  exact hsorted.imp fun hle => of_decide_eq_true hle

theorem candlesToFrame_subset (candles : List Candle) : candlesToFrame candles ⊆ candles := by
  have hfold : ∀ rest kept : List Candle, rest.foldl
      (fun kept candle =>
        if kept.any fun other => other.timestamp = candle.timestamp then kept
        else kept ++ [candle]) kept ⊆ kept ++ rest := by
    intro rest
    induction rest with
    | nil => simp
    | cons candle rest ih =>
        intro kept c hc
        rw [List.foldl_cons] at hc
        have hmem := ih _ hc
        split at hmem
        · rcases List.mem_append.mp hmem with hmem | hmem
          · exact List.mem_append_left _ hmem
          · exact List.mem_append_right _ (List.mem_cons_of_mem _ hmem)
        · simpa using hmem
  intro c hc
  have hmem := hfold (candles.mergeSort fun a b => a.timestamp ≤ b.timestamp) [] hc
  rw [List.nil_append] at hmem
  exact List.mem_mergeSort.mp hmem

theorem runBacktest_of_increasing
    {evaluateStrategy : List Candle → StrategyConfig → StrategySignal}
    {request : BacktestRequest} {generateDemoCandles : BacktestRequest → List Candle}
    {rounding : Rounding} {state : BacktestState}
    (hinc : Increasing (requestCandles request generateDemoCandles))
    (hrun : runFrame evaluateStrategy request (requestCandles request generateDemoCandles)
      rounding = .ok state) :
    ∃ response, runBacktest evaluateStrategy request generateDemoCandles rounding =
      .ok response ∧ response.trades = state.trades := by
  unfold runBacktest
  dsimp only
  rw [candlesToFrame_of_increasing hinc, hrun]
  exact ⟨_, rfl, rfl⟩

end FxStrategyLab.CandleBacktest
