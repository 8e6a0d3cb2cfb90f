import FxStrategyLab.CandleBacktest.Stages

/-!
# Which fills are feasible

A bar that touches a stop or a target closes the position at that level.  Between the close
of one bar and the open of the next the price may jump over the level, and an entry whose
friction exceeds the stop distance has its stop on the wrong side of the open: then no price
of the bar is the one of the fill.

**Results.** `touch_feasible_iff` for a bar, and `fills_feasible_iff` for a run: the fills
are feasible exactly when no bar of the run jumps over a level of the position that it finds.
-/

namespace FxStrategyLab.CandleBacktest

open Library.Series (bind_eq_ok)

/-- A candle of a valid series: its open and its close lie between its low and its high. -/
structure Candle.Valid (candle : Candle) : Prop where
  openPrice : candle.low ≤ candle.openPrice ∧ candle.openPrice ≤ candle.high
  close : candle.low ≤ candle.close ∧ candle.close ≤ candle.high

instance (candle : Candle) : Decidable candle.Valid :=
  decidable_of_iff
    ((candle.low ≤ candle.openPrice ∧ candle.openPrice ≤ candle.high) ∧
      candle.low ≤ candle.close ∧ candle.close ≤ candle.high)
    ⟨fun h => ⟨h.1, h.2⟩, fun h => ⟨h.openPrice, h.close⟩⟩

/-- A price can be had in a bar: it lies in the range of the bar, and it is not better than
the open where the bar opened beyond the stop. -/
def FeasibleFill (side : Side) (stop price : ℚ) (row : Candle) : Prop :=
  (row.low ≤ price ∧ price ≤ row.high) ∧
    match side with
    | .buy => row.openPrice < stop → price ≤ row.openPrice
    | .sell => stop < row.openPrice → row.openPrice ≤ price

/-- The bar jumps over a level of a position: it opens beyond the stop, or lies beyond the
target as a whole. -/
def JumpsOver (row : Candle) (position : OpenPosition) : Prop :=
  match position.side with
  | .buy => row.openPrice < position.stopLoss ∨ position.takeProfit < row.low
  | .sell => position.stopLoss < row.openPrice ∨ row.high < position.takeProfit

section Feasible

variable (evaluateStrategy : List Candle → StrategyConfig → StrategySignal)
  (request : BacktestRequest)

/-- The price of an exit before its friction. -/
def rawFill (trade : TradeResult) : ℚ :=
  let friction := pipSize request.symbol *
    (request.execution.spreadPips / 2 + request.execution.slippagePips)
  if trade.side = .buy then trade.exitPrice + friction else trade.exitPrice - friction

def TradeResult.Touched (trade : TradeResult) : Prop :=
  trade.exitReason = stopReason ∨ trade.exitReason = takeReason

/-- A touched trade is filled at a feasible price of the bar in which it is booked. -/
def FeasibleTrade (frame : List Candle) (trade : TradeResult) : Prop :=
  trade.Touched → ∃ row ∈ frame, row.timestamp = trade.exitTime ∧
    FeasibleFill trade.side (stopLevel request trade.side trade.entryPrice)
      (rawFill request trade) row

/-- No bar of the loop jumps over a level of the position that it finds behind its
opening. -/
def JumplessBars (completed : List Candle) : List Candle → BacktestState → Prop
  | [], _ => True
  | row :: rest, s =>
      (∀ s₁ s₂ position,
        closeOnOpposite request (evaluateStrategy completed request.strategy) row s = .ok s₁ →
        openOnSignal request (evaluateStrategy completed request.strategy) row s₁ = .ok s₂ →
        s₂.position = some position → ¬ JumpsOver row position) ∧
      ∀ s', barStep evaluateStrategy request completed row s = .ok s' →
        s'.marginCallTriggered = false → JumplessBars (completed ++ [row]) rest s'

def JumplessRun (frame : List Candle) : Prop :=
  JumplessBars evaluateStrategy request (frame.take 2) (frame.drop 2) (startState request)

variable {evaluateStrategy request}

def OpenPosition.Levelled (request : BacktestRequest) (position : OpenPosition) : Prop :=
  position.stopLoss = stopLevel request position.side position.entryPrice ∧
    position.takeProfit = takeLevel request position.side position.entryPrice

theorem pipSize_pos (symbol : String) : 0 < pipSize symbol := by
  unfold pipSize
  split <;> norm_num

variable {position : OpenPosition}

theorem OpenPosition.Levelled.apart (h : position.Levelled request) :
    match position.side with
    | .buy => position.stopLoss < position.takeProfit
    | .sell => position.takeProfit < position.stopLoss := by
  obtain ⟨hstop, htake⟩ := h
  have hpip := pipSize_pos request.symbol
  have hstopDistance := mul_pos request.execution.distances_pos.1 hpip
  have htakeDistance := mul_pos request.execution.distances_pos.2 hpip
  rw [hstop, htake]
  unfold stopLevel takeLevel
  cases position.side with
  | buy =>
      dsimp only
      rw [if_pos rfl, if_pos rfl]
      linarith
  | sell =>
      dsimp only
      rw [if_neg (by decide), if_neg (by decide)]
      linarith

/-- **A bar fills feasibly exactly when it does not jump over a level.** -/
theorem touch_feasible_iff {row : Candle}
    (hlevels : position.Levelled request) (hvalid : row.Valid) :
    (∀ rawPrice exitReason, position.exitAt row = some (rawPrice, exitReason) →
      FeasibleFill position.side position.stopLoss rawPrice row) ↔
      ¬ JumpsOver row position := by
  have hapart := hlevels.apart
  obtain ⟨⟨hlow, hhigh⟩, -⟩ := hvalid
  unfold OpenPosition.exitAt FeasibleFill JumpsOver
  cases hside : position.side with
  | buy =>
      rw [hside] at hapart
      dsimp only at hapart ⊢
      constructor
      · rintro hfeasible (hgap | hgap)
        · have htouched : row.low ≤ position.stopLoss := hlow.trans hgap.le
          have hfill := (hfeasible _ _ (by rw [if_pos htouched])).2 hgap
          linarith
        · have huntouched : ¬ row.low ≤ position.stopLoss := by linarith
          have hreached : position.takeProfit ≤ row.high := by linarith
          have hfill := hfeasible _ _ (by rw [if_neg huntouched, if_pos hreached])
          linarith [hfill.1.1]
      · intro hjumpless rawPrice exitReason hexit
        push Not at hjumpless
        split_ifs at hexit with hstop htake
        · obtain ⟨rfl, -⟩ := Prod.mk.inj (Option.some.inj hexit)
          exact ⟨⟨hstop, hjumpless.1.trans hhigh⟩, fun hbeyond => by linarith [hjumpless.1]⟩
        · obtain ⟨rfl, -⟩ := Prod.mk.inj (Option.some.inj hexit)
          exact ⟨⟨hjumpless.2, htake⟩, fun hbeyond => by linarith [hjumpless.1]⟩
  | sell =>
      rw [hside] at hapart
      dsimp only at hapart ⊢
      constructor
      · rintro hfeasible (hgap | hgap)
        · have htouched : position.stopLoss ≤ row.high := hgap.le.trans hhigh
          have hfill := (hfeasible _ _ (by rw [if_pos htouched])).2 hgap
          linarith
        · have huntouched : ¬ position.stopLoss ≤ row.high := by linarith
          have hreached : row.low ≤ position.takeProfit := by linarith
          have hfill := hfeasible _ _ (by rw [if_neg huntouched, if_pos hreached])
          linarith [hfill.1.2]
      · intro hjumpless rawPrice exitReason hexit
        push Not at hjumpless
        split_ifs at hexit with hstop htake
        · obtain ⟨rfl, -⟩ := Prod.mk.inj (Option.some.inj hexit)
          exact ⟨⟨hlow.trans hjumpless.1, hstop⟩, fun hbeyond => by linarith [hjumpless.1]⟩
        · obtain ⟨rfl, -⟩ := Prod.mk.inj (Option.some.inj hexit)
          exact ⟨⟨htake, hjumpless.2⟩, fun hbeyond => by linarith [hjumpless.1]⟩

theorem exitAt_touched {row : Candle} {rawPrice : ℚ}
    {exitReason : String} (h : position.exitAt row = some (rawPrice, exitReason)) :
    exitReason = stopReason ∨ exitReason = takeReason := by
  unfold OpenPosition.exitAt at h
  split at h
  · split_ifs at h
    · exact Or.inl (Prod.mk.inj (Option.some.inj h)).2.symm
    · exact Or.inr (Prod.mk.inj (Option.some.inj h)).2.symm
  · split_ifs at h
    · exact Or.inl (Prod.mk.inj (Option.some.inj h)).2.symm
    · exact Or.inr (Prod.mk.inj (Option.some.inj h)).2.symm

theorem opposite_not_touched (reason : String) :
    ¬ ("反対シグナル: " ++ reason = stopReason ∨ "反対シグナル: " ++ reason = takeReason) := by
  rintro (h | h)
  · have hchars := congrArg String.toList h
    rw [String.toList_append] at hchars
    simp [stopReason] at hchars
  · have hchars := congrArg String.toList h
    rw [String.toList_append] at hchars
    simp [takeReason] at hchars

theorem ClosedBy.rawFill_eq {rounding : Rounding} {s s' : BacktestState}
    {rawPrice : ℚ} {timestamp : Int} {exitReason : String} {trade : TradeResult}
    (h : ClosedBy request rounding s s' position rawPrice timestamp exitReason trade) :
    rawFill request trade = rawPrice := by
  unfold rawFill
  rw [h.side, h.exitPrice]
  unfold exitPriceOf
  cases position.side with
  | buy => simp
  | sell => simp

section Bar

variable {frame completed : List Candle} {row : Candle} {s s' : BacktestState}

/-- A trade that joins the others keeps them feasible exactly when it is feasible. -/
theorem feasible_append {trades : List TradeResult} {trade : TradeResult} :
    (∀ other ∈ trades ++ [trade], FeasibleTrade request frame other) ↔
      (∀ other ∈ trades, FeasibleTrade request frame other) ∧
        FeasibleTrade request frame trade := by
  rw [List.forall_mem_append, List.forall_mem_singleton]

theorem ClosedBy.feasible_iff {position : OpenPosition} {rawPrice : ℚ} {exitReason : String}
    {trade : TradeResult} (hframe : Increasing frame) (hrow : row ∈ frame)
    (hlevels : position.Levelled request)
    (htouched : exitReason = stopReason ∨ exitReason = takeReason)
    (h : ClosedBy request Library.Rounding.round s s' position rawPrice row.timestamp
      exitReason trade) :
    FeasibleTrade request frame trade ↔
      FeasibleFill position.side position.stopLoss rawPrice row := by
  have hunique : ∀ other ∈ frame, other.timestamp = row.timestamp → other = row := by
    have hnodup : (frame.map Candle.timestamp).Nodup := hframe.imp fun hlt => hlt.ne
    exact fun other hother hsame => List.inj_on_of_nodup_map hnodup hother hrow hsame
  unfold FeasibleTrade TradeResult.Touched
  rw [h.exitReason, h.exitTime, h.rawFill_eq, h.side, h.entryPrice, ← hlevels.1]
  constructor
  · intro hfeasible
    obtain ⟨other, hother, hsame, hfill⟩ := hfeasible htouched
    rw [hunique other hother hsame] at hfill
    exact hfill
  · intro hfill _
    exact ⟨row, hrow, rfl, hfill⟩

/-- What the loop knows of its state: the levels of a position, and the touched trades so
far. -/
structure Levels (request : BacktestRequest) (s : BacktestState) : Prop where
  position : ∀ position, s.position = some position → position.Levelled request

theorem Levels.of_opposite {signal : StrategySignal}
    (h : Levels request s) (hstage : closeOnOpposite request signal row s = .ok s') :
    Levels request s' ∧ ((∀ trade ∈ s'.trades, FeasibleTrade request frame trade) ↔
      ∀ trade ∈ s.trades, FeasibleTrade request frame trade) := by
  rcases closeOnOpposite_cases hstage with rfl | ⟨position, trade, -, hclosed⟩
  · exact ⟨h, Iff.rfl⟩
  · refine ⟨⟨fun other hother => ?_⟩, ?_⟩
    · rw [hclosed.flat] at hother
      cases hother
    · rw [hclosed.trades, feasible_append]
      refine and_iff_left fun htouched => ?_
      unfold TradeResult.Touched at htouched
      rw [hclosed.exitReason] at htouched
      exact absurd htouched (opposite_not_touched _)

theorem Levels.of_signal {signal : StrategySignal}
    (h : Levels request s) (hstage : openOnSignal request signal row s = .ok s') :
    Levels request s' ∧ s'.trades = s.trades := by
  rcases openOnSignal_cases hstage with rfl | ⟨-, position, hopened⟩
  · exact ⟨h, rfl⟩
  · refine ⟨⟨fun other hother => ?_⟩, hopened.trades⟩
    obtain rfl := Option.some.inj (hopened.held.symm.trans hother)
    exact ⟨hopened.stopLoss, hopened.takeProfit⟩

theorem Levels.of_touch (hframe : Increasing frame) (hrow : row ∈ frame)
    (hvalid : row.Valid) (h : Levels request s) (hstage : closeOnTouch request row s = .ok s') :
    Levels request s' ∧ ((∀ trade ∈ s'.trades, FeasibleTrade request frame trade) ↔
      (∀ trade ∈ s.trades, FeasibleTrade request frame trade) ∧
        ∀ position, s.position = some position → ¬ JumpsOver row position) := by
  rcases closeOnTouch_cases hstage with
    ⟨rfl, huntouched⟩ | ⟨position, rawPrice, exitReason, trade, hposition, hexit, hclosed⟩
  · refine ⟨h, (and_iff_left fun position hposition => ?_).symm⟩
    refine (touch_feasible_iff (h.position _ hposition) hvalid).mp fun rawPrice reason hexit => ?_
    rw [huntouched _ hposition] at hexit
    cases hexit
  · have hlevels := h.position _ hposition
    refine ⟨⟨fun other hother => ?_⟩, ?_⟩
    · rw [hclosed.flat] at hother
      cases hother
    · rw [hclosed.trades, feasible_append,
        hclosed.feasible_iff hframe hrow hlevels (exitAt_touched hexit)]
      refine and_congr_right fun _ => ?_
      have hfill := touch_feasible_iff hlevels hvalid
      constructor
      · intro hfeasible other hother
        obtain rfl := Option.some.inj (hposition.symm.trans hother)
        refine hfill.mp fun raw reason hraw => ?_
        obtain ⟨rfl, -⟩ := Prod.mk.inj (Option.some.inj (hexit.symm.trans hraw))
        exact hfeasible
      · intro hjumpless
        exact hfill.mpr (hjumpless _ hposition) _ _ hexit

/-- **Step lemma.** A turn keeps the fills feasible exactly when its bar does not jump over a
level of the position that it finds behind the opening. -/
theorem barStep_feasible_iff (hframe : Increasing frame) (hrow : row ∈ frame)
    (hvalid : row.Valid) (h : Levels request s)
    (hstep : barStep evaluateStrategy request completed row s = .ok s') :
    Levels request s' ∧ ((∀ trade ∈ s'.trades, FeasibleTrade request frame trade) ↔
      (∀ trade ∈ s.trades, FeasibleTrade request frame trade) ∧
        ∀ s₁ s₂ position,
          closeOnOpposite request (evaluateStrategy completed request.strategy) row s =
            .ok s₁ →
          openOnSignal request (evaluateStrategy completed request.strategy) row s₁ = .ok s₂ →
          s₂.position = some position → ¬ JumpsOver row position) := by
  obtain ⟨s₁, s₂, s₃, hopposite, hsignal, htouch, hmark⟩ := barStep_stages hstep
  obtain ⟨h₁, hiff₁⟩ := @Levels.of_opposite request frame row s s₁ _ h hopposite
  obtain ⟨h₂, htrades⟩ := h₁.of_signal hsignal
  obtain ⟨h₃, hiff₃⟩ := h₂.of_touch hframe hrow hvalid htouch
  obtain ⟨unrealized, -, -, hposition, hsame, -⟩ := markToMarket_point hmark
  refine ⟨⟨fun position hheld => h₃.position _ (hposition ▸ hheld)⟩, ?_⟩
  rw [hsame, hiff₃, htrades, hiff₁]
  refine and_congr_right fun _ => ?_
  constructor
  · intro hjumpless t₁ t₂ position ht₁ ht₂ hheld
    obtain rfl := Except.ok.inj (hopposite.symm.trans ht₁)
    obtain rfl := Except.ok.inj (hsignal.symm.trans ht₂)
    exact hjumpless position hheld
  · intro hjumpless position hheld
    exact hjumpless s₁ s₂ position hopposite hsignal hheld

/-- **Run lemma.** The loop keeps the fills feasible exactly when none of its bars jumps over
a level. -/
theorem runBars_feasible_iff {rows : List Candle} (hframe : Increasing frame)
    (hrows : rows ⊆ frame) (hvalid : ∀ row ∈ frame, row.Valid) (h : Levels request s)
    (hrun : runBars evaluateStrategy request completed rows s = .ok s') :
    (∀ trade ∈ s'.trades, FeasibleTrade request frame trade) ↔
      (∀ trade ∈ s.trades, FeasibleTrade request frame trade) ∧
        JumplessBars evaluateStrategy request completed rows s := by
  induction rows generalizing completed s with
  | nil =>
      obtain rfl := Except.ok.inj hrun
      exact (and_iff_left trivial).symm
  | cons row rest ih =>
      rw [runBars] at hrun
      obtain ⟨s₁, hstep, hrest⟩ := bind_eq_ok hrun
      have hrow := hrows List.mem_cons_self
      obtain ⟨hlevels, hiff⟩ := barStep_feasible_iff hframe hrow (hvalid row hrow) h hstep
      rw [JumplessBars]
      split at hrest
      · rename_i hmargin
        obtain rfl := Except.ok.inj hrest
        rw [hiff]
        refine and_congr_right fun _ => (and_iff_left ?_).symm
        intro other hother hrunning
        obtain rfl := Except.ok.inj (hstep.symm.trans hother)
        rw [hmargin] at hrunning
        cases hrunning
      · rename_i hrunning
        have hrunning : s₁.marginCallTriggered = false := by simpa using hrunning
        have hsub : rest ⊆ frame := fun c hc => hrows (List.mem_cons_of_mem _ hc)
        rw [ih hsub hlevels hrest, hiff, and_assoc]
        refine and_congr_right fun _ => and_congr_right fun _ => ?_
        constructor
        · intro hjumpless other hother _
          obtain rfl := Except.ok.inj (hstep.symm.trans hother)
          exact hjumpless
        · intro hjumpless
          exact hjumpless s₁ hstep hrunning

end Bar

end Feasible

/-- **The fills of a backtest are feasible exactly when no bar jumps over a level.**  Each
stop and each target exit of a run over a valid series is filled, before friction, in the
range of the bar in which it is booked and not better than an open beyond the stop, exactly
when no bar opens beyond the stop of the position that it finds, nor lies beyond its target
as a whole. -/
theorem fills_feasible_iff (evaluateStrategy : List Candle → StrategyConfig → StrategySignal)
    (request : BacktestRequest) (generateDemoCandles : BacktestRequest → List Candle)
    (response : BacktestResponse)
    (hvalid : ∀ candle ∈ requestCandles request generateDemoCandles, candle.Valid)
    (hrun : runBacktest evaluateStrategy request generateDemoCandles = .ok response) :
    (∀ trade ∈ response.trades, FeasibleTrade request
        (candlesToFrame (requestCandles request generateDemoCandles)) trade) ↔
      JumplessRun evaluateStrategy request
        (candlesToFrame (requestCandles request generateDemoCandles)) := by
  set candles := requestCandles request generateDemoCandles with hcandles
  have hframe := candlesToFrame_increasing candles
  have hrows : ∀ row ∈ candlesToFrame candles, row.Valid := fun row hrow =>
    hvalid row (candlesToFrame_subset candles hrow)
  unfold runBacktest at hrun
  obtain ⟨final, hfinal, hresponse⟩ := bind_eq_ok hrun
  obtain rfl := Except.ok.inj hresponse
  obtain ⟨looped, hloop, hend⟩ := bind_eq_ok hfinal
  have hstart : Levels request (startState request) := ⟨fun position hposition => by cases hposition⟩
  have hiff := runBars_feasible_iff hframe (List.drop_subset 2 _) hrows hstart hloop
  have hbefore : ∀ trade ∈ (startState request).trades,
      FeasibleTrade request (candlesToFrame candles) trade := fun trade htrade => by cases htrade
  rw [and_iff_right hbefore] at hiff
  refine Iff.trans ?_ hiff
  show (∀ trade ∈ final.trades, _) ↔ _
  rcases closeAtEnd_cases hend with ⟨rfl, -⟩ | ⟨position, last, trade, -, -, closed, hclosed, rfl⟩
  · exact Iff.rfl
  · show (∀ trade ∈ closed.trades, _) ↔ _
    rw [hclosed.trades, feasible_append]
    refine and_iff_left fun htouched => ?_
    unfold TradeResult.Touched at htouched
    rw [hclosed.exitReason] at htouched
    exact absurd htouched (by decide +kernel)

namespace Sample

/-- The first signal buys, and every later one holds. -/
def buyOnce (completed : List Candle) (_ : StrategyConfig) : StrategySignal :=
  if completed.length = 2 then { action := .buy, reason := "first" }
  else { action := .hold, reason := "later" }

end Sample

/-- Five minutes at one price: the run has no touched trade, and no bar jumps. -/
theorem flat_series_fills_feasibly :
    ∃ response, runBacktest Sample.buyOnce Sample.request (fun _ => Sample.series 1) =
        .ok response ∧
      ((∀ trade ∈ response.trades, FeasibleTrade Sample.request
          (candlesToFrame (Sample.series 1)) trade) ↔
        JumplessRun Sample.buyOnce Sample.request (candlesToFrame (Sample.series 1))) := by
  have hran : (runFrame Sample.buyOnce Sample.request (Sample.series 1)).toOption.isSome =
      true := by decide +kernel
  cases hrun : runFrame Sample.buyOnce Sample.request (Sample.series 1) with
  | error e =>
      rw [hrun] at hran
      cases hran
  | ok state =>
      have hinc : Increasing (requestCandles Sample.request fun _ => Sample.series 1) := by
        decide +kernel
      obtain ⟨response, hresponse, -⟩ := runBacktest_of_increasing hinc hrun
      exact ⟨response, hresponse, fills_feasible_iff Sample.buyOnce Sample.request
        (fun _ => Sample.series 1) response (by decide +kernel) hresponse⟩

/-- A position bought at 1 with its stop at 0.99 meets a bar at 0.98, and is filled at its
stop. -/
theorem stop_filled_above_the_bar :
    ¬ ∀ (evaluateStrategy : List Candle → StrategyConfig → StrategySignal)
        (request : BacktestRequest) (generateDemoCandles : BacktestRequest → List Candle)
        (response : BacktestResponse),
        (∀ candle ∈ requestCandles request generateDemoCandles, candle.Valid) →
        runBacktest evaluateStrategy request generateDemoCandles = .ok response →
        ∀ trade ∈ response.trades, FeasibleTrade request
          (candlesToFrame (requestCandles request generateDemoCandles)) trade := by
  intro hall
  have hinc : Increasing (requestCandles Sample.request fun _ => Sample.series (49 / 50)) := by
    decide +kernel
  have hfills : ((runFrame Sample.buyOnce Sample.request
      (Sample.series (49 / 50))).toOption.map fun state => state.trades.map fun trade =>
        (trade.exitReason, trade.exitTime, rawFill Sample.request trade)) =
      some [(stopReason, 240, 99 / 100)] := by decide +kernel
  cases hrun : runFrame Sample.buyOnce Sample.request (Sample.series (49 / 50)) with
  | error e =>
      rw [hrun] at hfills
      cases hfills
  | ok state =>
      rw [hrun] at hfills
      obtain ⟨response, hresponse, htrades⟩ := runBacktest_of_increasing hinc hrun
      obtain ⟨trade, hstate, hfill⟩ := List.map_eq_singleton_iff.mp (Option.some.inj hfills)
      obtain ⟨hreason, htime, hraw⟩ : trade.exitReason = stopReason ∧ trade.exitTime = 240 ∧
          rawFill Sample.request trade = 99 / 100 := by simpa using hfill
      have hfeasible := hall Sample.buyOnce Sample.request (fun _ => Sample.series (49 / 50))
        response (by decide +kernel) hresponse trade (by simp [htrades, hstate])
      obtain ⟨row, hrow, hsame, ⟨-, hhigh⟩, -⟩ := hfeasible (Or.inl hreason)
      rw [hraw] at hhigh
      rw [htime] at hsame
      have hmem : row ∈ Sample.series (49 / 50) := candlesToFrame_subset _ hrow
      have hbelow : ∀ row ∈ Sample.series (49 / 50), row.timestamp = 240 →
          row.high < 99 / 100 := by decide +kernel
      exact absurd hhigh (not_le.mpr (hbelow row hmem hsame))

end FxStrategyLab.CandleBacktest
