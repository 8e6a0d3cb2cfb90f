import FxStrategyLab.CandleBacktest.Feasible
import FxStrategyLab.Library.Falls

/-!
# The books of a backtest

With exact values the books of `run_backtest` close: what a trade books is what the account
gains, every opened position becomes one trade, and the curve ends at the account.

**Results.** `barStep_booked` for a turn, `runBars_booked` for the loop, and
`accounts_close` for a run, whose largest drawdown is the largest fall of its curve.
-/

namespace FxStrategyLab.CandleBacktest

open Library.Series (bind_eq_ok)
open Library.Falls (falls fallStep isGreatest_fallStep)

/-- What a position and its trade share. -/
structure Entry where
  side : Side
  entryTime : Int
  entryPrice : ℚ
  units : ℚ
  entryReason : String

def OpenPosition.entry (position : OpenPosition) : Entry where
  side := position.side
  entryTime := position.entryTime
  entryPrice := position.entryPrice
  units := position.units
  entryReason := position.entryReason

def TradeResult.entry (trade : TradeResult) : Entry where
  side := trade.side
  entryTime := trade.entryTime
  entryPrice := trade.entryPrice
  units := trade.units
  entryReason := trade.entryReason

def TradeResult.OpenAt (trade : TradeResult) (time : Int) : Prop :=
  trade.entryTime ≤ time ∧ time < trade.exitTime
deriving Decidable

section Accounting

variable (evaluateStrategy : List Candle → StrategyConfig → StrategySignal)
  (request : BacktestRequest)

def openedIn (s s' : BacktestState) : List OpenPosition :=
  match s.position, s'.position with
  | none, some position => [position]
  | _, _ => []

/-- The positions that the loop opens, in their order. -/
def openings (completed : List Candle) : List Candle → BacktestState → List OpenPosition
  | [], _ => []
  | row :: rest, s =>
      let signal := evaluateStrategy completed request.strategy
      match closeOnOpposite request signal row s exact with
      | .error _ => []
      | .ok s₁ =>
          match openOnSignal request signal row s₁ with
          | .error _ => []
          | .ok s₂ =>
              openedIn s₁ s₂ ++
                match barStep evaluateStrategy request completed row s exact with
                | .error _ => []
                | .ok s' =>
                    if s'.marginCallTriggered then []
                    else openings (completed ++ [row]) rest s'

def openingsOf (frame : List Candle) : List OpenPosition :=
  openings evaluateStrategy request (frame.take 2) (frame.drop 2) (startState request)

def bookedPnl (trades : List TradeResult) : ℚ :=
  (trades.map TradeResult.pnl).sum

/-- The books are kept up to a time: the account, the trades of the opened positions, and
their order. -/
structure Booked (opened : List OpenPosition) (now : Int) (s : BacktestState) : Prop where
  balance : s.equityValue = request.execution.initialCapital + bookedPnl s.trades
  entries : s.trades.map TradeResult.entry ++ s.position.toList.map OpenPosition.entry =
    opened.map OpenPosition.entry
  ordered : s.trades.Pairwise fun a b => a.exitTime ≤ b.entryTime
  spans : ∀ trade ∈ s.trades, trade.entryTime ≤ trade.exitTime ∧ trade.exitTime ≤ now
  held : ∀ position, s.position = some position → position.entryTime ≤ now ∧
    ∀ trade ∈ s.trades, trade.exitTime ≤ position.entryTime

/-- The curve ends at an account without a position, and every account with a history has a
curve. -/
structure CurveEnds (s : BacktestState) : Prop where
  last : s.position = none → ∀ point, s.equityCurve.getLast? = some point →
    point.equity = s.equityValue
  empty : s.equityCurve = [] → s.trades = [] ∧ s.position = none

/-- The books of a report: its trades, its whole curve and its metrics. -/
structure AccountsClose (opened : List OpenPosition) (trades : List TradeResult)
    (curve : List EquityPoint) (metrics : BacktestMetrics) : Prop where
  lastPoint : ∀ point, curve.getLast? = some point →
    point.equity = request.execution.initialCapital + bookedPnl trades
  noPoint : curve = [] → trades = []
  entries : trades.map TradeResult.entry = opened.map OpenPosition.entry
  ordered : trades.Pairwise fun a b => a.exitTime ≤ b.entryTime
  spans : ∀ trade ∈ trades, trade.entryTime ≤ trade.exitTime
  oneOpen : ∀ time : Int, (trades.filter fun trade => trade.OpenAt time).length ≤ 1
  totalPnl : metrics.totalPnl = bookedPnl trades
  maxDrawdown : IsGreatest
    (falls (request.execution.initialCapital :: curve.map EquityPoint.equity))
    metrics.maxDrawdown

variable {evaluateStrategy request}

section Stages

variable {opened : List OpenPosition} {now : Int} {s s' : BacktestState} {row : Candle}

theorem Booked.later {later : Int} (h : Booked request opened now s) (hle : now ≤ later) :
    Booked request opened later s where
  balance := h.balance
  entries := h.entries
  ordered := h.ordered
  spans trade htrade := ⟨(h.spans trade htrade).1, (h.spans trade htrade).2.trans hle⟩
  held position hposition :=
    ⟨(h.held position hposition).1.trans hle, (h.held position hposition).2⟩

theorem bookedPnl_append (trades : List TradeResult) (trade : TradeResult) :
    bookedPnl (trades ++ [trade]) = bookedPnl trades + trade.pnl := by
  simp [bookedPnl]

theorem ClosedBy.entry {rounding : Rounding} {position : OpenPosition} {rawPrice : ℚ}
    {timestamp : Int} {exitReason : String} {trade : TradeResult}
    (h : ClosedBy request rounding s s' position rawPrice timestamp exitReason trade) :
    trade.entry = position.entry := by
  simp [TradeResult.entry, OpenPosition.entry, h.side, h.entryTime, h.entryPrice, h.units,
    h.entryReason]

theorem Booked.close {position : OpenPosition} {rawPrice : ℚ} {timestamp : Int}
    {exitReason : String} {trade : TradeResult} (h : Booked request opened now s)
    (hposition : s.position = some position) (hnow : now ≤ timestamp)
    (hclosed : ClosedBy request exact s s' position rawPrice timestamp exitReason trade) :
    Booked request opened timestamp s' := by
  obtain ⟨hentry, hbehind⟩ := h.held position hposition
  obtain ⟨pnl, hequity, hpnl⟩ := hclosed.booked
  constructor
  · rw [hequity, h.balance, hclosed.trades, bookedPnl_append, hpnl, exact, add_assoc]
  · rw [hclosed.trades, hclosed.flat, ← h.entries, hposition, List.map_append,
      List.append_assoc]
    simp [hclosed.entry]
  · rw [hclosed.trades, List.pairwise_append]
    refine ⟨h.ordered, List.pairwise_singleton _ _, fun other hother last hlast => ?_⟩
    rw [List.mem_singleton.mp hlast, hclosed.entryTime]
    exact hbehind other hother
  · intro other hother
    rw [hclosed.trades] at hother
    rcases List.mem_append.mp hother with hother | hother
    · obtain ⟨hspan, hbefore⟩ := h.spans other hother
      exact ⟨hspan, hbefore.trans hnow⟩
    · rw [List.mem_singleton.mp hother, hclosed.entryTime, hclosed.exitTime]
      exact ⟨hentry.trans hnow, le_rfl⟩
  · intro other hother
    rw [hclosed.flat] at hother
    cases hother

theorem booked_closeOnOpposite {signal : StrategySignal} (h : Booked request opened now s)
    (hnow : now ≤ row.timestamp) (hstage : closeOnOpposite request signal row s exact = .ok s') :
    Booked request opened row.timestamp s' := by
  rcases closeOnOpposite_cases hstage with rfl | ⟨position, trade, hposition, hclosed⟩
  · exact h.later hnow
  · exact h.close hposition hnow hclosed

theorem booked_openOnSignal {signal : StrategySignal} (h : Booked request opened row.timestamp s)
    (hstage : openOnSignal request signal row s = .ok s') :
    Booked request (opened ++ openedIn s s') row.timestamp s' := by
  rcases openOnSignal_cases hstage with rfl | ⟨hnone, position, hopened⟩
  · have hquiet : openedIn s' s' = [] := by
      unfold openedIn
      cases s'.position <;> rfl
    rw [hquiet, List.append_nil]
    exact h
  · have hnew : openedIn s s' = [position] := by
      unfold openedIn
      rw [hnone, hopened.held]
    constructor
    · rw [hopened.equity, hopened.trades]
      exact h.balance
    · have hentries := h.entries
      rw [hnone] at hentries
      rw [hnew, hopened.trades, hopened.held, List.map_append, ← hentries]
      simp
    · rw [hopened.trades]
      exact h.ordered
    · rw [hopened.trades]
      exact h.spans
    · intro other hother
      obtain rfl := Option.some.inj (hopened.held.symm.trans hother)
      rw [hopened.entryTime, hopened.trades]
      exact ⟨le_rfl, fun trade htrade => (h.spans trade htrade).2⟩

theorem booked_closeOnTouch (h : Booked request opened row.timestamp s)
    (hstage : closeOnTouch request row s exact = .ok s') :
    Booked request opened row.timestamp s' := by
  rcases closeOnTouch_cases hstage with
    ⟨rfl, -⟩ | ⟨position, rawPrice, exitReason, trade, hposition, -, hclosed⟩
  · exact h
  · exact h.close hposition le_rfl hclosed

theorem booked_markToMarket (h : Booked request opened now s)
    (hstage : markToMarket request row s exact = .ok s') :
    Booked request opened now s' ∧ CurveEnds s' := by
  obtain ⟨unrealized, hunrealized, hequity, hposition, htrades, hcurve⟩ :=
    markToMarket_point hstage
  refine ⟨⟨?_, ?_, ?_, ?_, ?_⟩, ?_, ?_⟩
  · rw [hequity, htrades]
    exact h.balance
  · rw [hposition, htrades]
    exact h.entries
  · rw [htrades]
    exact h.ordered
  · rw [htrades]
    exact h.spans
  · rw [hposition, htrades]
    exact h.held
  · intro hnone point hpoint
    rw [hcurve, List.getLast?_concat] at hpoint
    rw [hposition] at hnone
    rw [hnone] at hunrealized
    obtain rfl : 0 = unrealized := Except.ok.inj hunrealized
    obtain rfl := Option.some.inj hpoint
    rw [hequity]
    exact add_zero _
  · intro hempty
    rw [hcurve] at hempty
    simp at hempty

end Stages

section Loop

variable {completed rows : List Candle} {opened : List OpenPosition} {now : Int}
  {s s' : BacktestState} {row : Candle}

/-- **Step lemma.** A turn keeps the books. -/
theorem barStep_booked {s₁ s₂ : BacktestState} (h : Booked request opened now s)
    (hnow : now ≤ row.timestamp)
    (hstep : barStep evaluateStrategy request completed row s exact = .ok s')
    (hopposite : closeOnOpposite request (evaluateStrategy completed request.strategy) row s
      exact = .ok s₁)
    (hsignal : openOnSignal request (evaluateStrategy completed request.strategy) row s₁ =
      .ok s₂) : Booked request (opened ++ openedIn s₁ s₂) row.timestamp s' ∧ CurveEnds s' := by
  obtain ⟨t₁, t₂, t₃, hopposite', hsignal', htouch, hmark⟩ := barStep_stages hstep
  obtain rfl := Except.ok.inj (hopposite.symm.trans hopposite')
  obtain rfl := Except.ok.inj (hsignal.symm.trans hsignal')
  exact booked_markToMarket (booked_closeOnTouch (booked_openOnSignal
    (booked_closeOnOpposite h hnow hopposite) hsignal) htouch) hmark

/-- **Run lemma.** The loop keeps the books, up to the time of one of its rows. -/
theorem runBars_booked (h : Booked request opened now s) (hends : CurveEnds s)
    (hsorted : rows.Pairwise fun a b => a.timestamp < b.timestamp)
    (hnow : ∀ row ∈ rows, now ≤ row.timestamp)
    (hrun : runBars evaluateStrategy request completed rows s exact = .ok s') :
    CurveEnds s' ∧ ∃ last, (last = now ∨ ∃ row ∈ rows, last = row.timestamp) ∧
      Booked request (opened ++ openings evaluateStrategy request completed rows s) last s' := by
  induction rows generalizing completed opened now s with
  | nil =>
      obtain rfl := Except.ok.inj hrun
      rw [openings, List.append_nil]
      exact ⟨hends, now, Or.inl rfl, h⟩
  | cons row rest ih =>
      rw [runBars] at hrun
      obtain ⟨s₁, hstep, hrest⟩ := bind_eq_ok hrun
      obtain ⟨t₁, t₂, t₃, hopposite, hsignal, -, -⟩ := barStep_stages hstep
      obtain ⟨hbooked, hends₁⟩ :=
        barStep_booked h (hnow row List.mem_cons_self) hstep hopposite hsignal
      obtain ⟨hlater, hsorted⟩ := List.pairwise_cons.mp hsorted
      have hopenings : openings evaluateStrategy request completed (row :: rest) s =
          openedIn t₁ t₂ ++
            if s₁.marginCallTriggered then []
            else openings evaluateStrategy request (completed ++ [row]) rest s₁ := by
        rw [openings]
        simp only [hopposite, hsignal, hstep]
      rw [hopenings, ← List.append_assoc]
      split at hrest
      · rename_i hmargin
        obtain rfl := Except.ok.inj hrest
        rw [if_pos hmargin, List.append_nil]
        exact ⟨hends₁, row.timestamp, Or.inr ⟨row, List.mem_cons_self, rfl⟩, hbooked⟩
      · rename_i hrunning
        rw [if_neg hrunning]
        obtain ⟨hends', last, hlast, hbooked'⟩ := ih hbooked hends₁ hsorted
          (fun later hmem => (hlater later hmem).le) hrest
        refine ⟨hends', last, Or.inr ?_, hbooked'⟩
        rcases hlast with rfl | ⟨later, hmem, rfl⟩
        · exact ⟨row, List.mem_cons_self, rfl⟩
        · exact ⟨later, List.mem_cons_of_mem _ hmem, rfl⟩

end Loop

theorem foldl_drawdown (points : List EquityPoint) (d : Drawdown) :
    ((points.foldl Drawdown.next d).peak, (points.foldl Drawdown.next d).maxDrawdown) =
      (points.map EquityPoint.equity).foldl fallStep (d.peak, d.maxDrawdown) := by
  induction points generalizing d with
  | nil => rfl
  | cons point points ih =>
      rw [List.foldl_cons, List.map_cons, List.foldl_cons, ih]
      rfl

theorem oneOpen_of_ordered {trades : List TradeResult}
    (h : trades.Pairwise fun a b => a.exitTime ≤ b.entryTime) (time : Int) :
    (trades.filter fun trade => trade.OpenAt time).length ≤ 1 := by
  have hsub := h.sublist (List.filter_sublist (p := fun trade => decide (trade.OpenAt time)))
  have hopen : ∀ trade ∈ trades.filter fun trade => trade.OpenAt time, trade.OpenAt time :=
    fun trade htrade => of_decide_eq_true (List.mem_filter.mp htrade).2
  generalize (trades.filter fun trade => trade.OpenAt time) = opened at hsub hopen ⊢
  match opened with
  | [] => simp
  | [_] => simp
  | first :: second :: rest =>
      have hapart := (List.pairwise_cons.mp hsub).1 second List.mem_cons_self
      have hfirst := hopen first List.mem_cons_self
      have hsecond := hopen second (List.mem_cons_of_mem _ List.mem_cons_self)
      exact absurd (hfirst.2.trans_le (hapart.trans hsecond.1)) (lt_irrefl _)

theorem Booked.accountsClose {opened : List OpenPosition} {now : Int} {s : BacktestState}
    (h : Booked request opened now s) (hflat : s.position = none) (hends : CurveEnds s) :
    AccountsClose request opened s.trades s.equityCurve
      (reportOf request s exact).metrics where
  lastPoint point hpoint := (hends.last hflat point hpoint).trans h.balance
  noPoint hempty := (hends.empty hempty).1
  entries := by simpa [hflat] using h.entries
  ordered := h.ordered
  spans trade htrade := (h.spans trade htrade).1
  oneOpen := oneOpen_of_ordered h.ordered
  totalPnl := by
    show (s.equityCurve.getLast?.map EquityPoint.equity).getD request.execution.initialCapital -
      request.execution.initialCapital = _
    cases hlast : s.equityCurve.getLast? with
    | none =>
        have hempty := hends.empty (List.getLast?_eq_none_iff.mp hlast)
        simp [hempty.1, bookedPnl]
    | some point =>
        have hpoint := (hends.last hflat point hlast).trans h.balance
        simp [hpoint]
  maxDrawdown := by
    have hfold := foldl_drawdown s.equityCurve { peak := request.execution.initialCapital }
    have hgreatest := (isGreatest_fallStep request.execution.initialCapital
      (s.equityCurve.map EquityPoint.equity)).2
    rw [← hfold] at hgreatest
    exact hgreatest

end Accounting

theorem le_last_of_increasing {frame : List Candle} {last row : Candle}
    (hinc : Increasing frame) (hlast : frame.getLast? = some last) (hrow : row ∈ frame) :
    row.timestamp ≤ last.timestamp := by
  obtain ⟨before, rfl⟩ := List.getLast?_eq_some_iff.mp hlast
  rcases List.mem_append.mp hrow with hrow | hrow
  · exact ((List.pairwise_append.mp (List.pairwise_map.mp hinc)).2.2 row hrow last
      (List.mem_singleton_self _)).le
  · rw [List.mem_singleton.mp hrow]

/-- **The books of a backtest close.**  Without rounding, a run that returns ends its curve
at the initial capital and all that its trades have booked, which is its total; every opened
position is exactly one trade, in order and one at a time; and the largest drawdown is the
largest fall of the curve behind the initial capital. -/
theorem accounts_close (evaluateStrategy : List Candle → StrategyConfig → StrategySignal)
    (request : BacktestRequest) (generateDemoCandles : BacktestRequest → List Candle)
    (response : BacktestResponse)
    (hrun : runBacktest evaluateStrategy request generateDemoCandles exact = .ok response) :
    ∃ final, runFrame evaluateStrategy request
        (candlesToFrame (requestCandles request generateDemoCandles)) exact = .ok final ∧
      response.trades = final.trades ∧
      response.equityCurve = final.equityCurve.drop (final.equityCurve.length - 1000) ∧
      AccountsClose request
        (openingsOf evaluateStrategy request
          (candlesToFrame (requestCandles request generateDemoCandles)))
        response.trades final.equityCurve response.metrics := by
  have hinc := candlesToFrame_increasing (requestCandles request generateDemoCandles)
  generalize hframe : candlesToFrame (requestCandles request generateDemoCandles) = frame at hinc
  unfold runBacktest at hrun
  dsimp only at hrun
  rw [hframe] at hrun
  obtain ⟨final, hfinal, hresponse⟩ := bind_eq_ok hrun
  obtain rfl := Except.ok.inj hresponse
  refine ⟨final, hfinal, rfl, by simp only [reportOf], ?_⟩
  obtain ⟨looped, hloop, hend⟩ := bind_eq_ok hfinal
  have hsorted : (frame.drop 2).Pairwise fun a b => a.timestamp < b.timestamp :=
    (List.pairwise_map.mp hinc).sublist (List.drop_sublist _ _)
  obtain ⟨start, hstart⟩ : ∃ start : Int, ∀ row ∈ frame, start ≤ row.timestamp := by
    cases frame with
    | nil => exact ⟨0, by simp⟩
    | cons first rest =>
        refine ⟨first.timestamp, fun row hrow => ?_⟩
        rcases List.mem_cons.mp hrow with rfl | hrow
        · exact le_rfl
        · exact ((List.pairwise_cons.mp (List.pairwise_map.mp hinc)).1 row hrow).le
  have hbegin : Booked request [] start (startState request) :=
    { balance := by simp [startState, bookedPnl]
      entries := rfl
      ordered := List.Pairwise.nil
      spans := fun trade htrade => by cases htrade
      held := fun position hposition => by cases hposition }
  have hcurve : CurveEnds (startState request) :=
    { last := fun _ point hpoint => by cases hpoint
      empty := fun _ => ⟨rfl, rfl⟩ }
  obtain ⟨hends, now, hnow, hbooked⟩ := runBars_booked hbegin hcurve hsorted
    (fun row hrow => hstart row (List.mem_of_mem_drop hrow)) hloop
  rw [List.nil_append] at hbooked
  rcases closeAtEnd_cases hend with
    ⟨rfl, hflat⟩ | ⟨position, last, trade, hposition, hlast, closed, hclosed, rfl⟩
  · refine hbooked.accountsClose ?_ hends
    rcases hflat with hflat | rfl
    · exact hflat
    · obtain rfl := Except.ok.inj hloop
      rfl
  · have hbefore : now ≤ last.timestamp := by
      rcases hnow with rfl | ⟨row, hrow, rfl⟩
      · exact hstart last (List.mem_of_getLast? hlast)
      · exact le_last_of_increasing hinc hlast (List.mem_of_mem_drop hrow)
    have hclosing := hbooked.close hposition hbefore hclosed
    refine Booked.accountsClose (s := { closed with equityCurve := _ })
      ⟨hclosing.balance, hclosing.entries, hclosing.ordered, hclosing.spans, hclosing.held⟩
      hclosed.flat ⟨?_, ?_⟩
    · intro _ point hpoint
      rw [List.getLast?_concat] at hpoint
      obtain rfl := Option.some.inj hpoint
      rfl
    · intro hempty
      simp at hempty

/-- The books of five minutes with one purchase. -/
theorem bought_once_accounts_close :
    ∃ response, runBacktest Sample.buyOnce Sample.request (fun _ => Sample.series 1) exact =
        .ok response ∧
      ∃ final, runFrame Sample.buyOnce Sample.request
          (candlesToFrame (Sample.series 1)) exact = .ok final ∧
        response.trades = final.trades ∧
        response.equityCurve = final.equityCurve.drop (final.equityCurve.length - 1000) ∧
        AccountsClose Sample.request
          (openingsOf Sample.buyOnce Sample.request (candlesToFrame (Sample.series 1)))
          response.trades final.equityCurve response.metrics := by
  have hran : (runFrame Sample.buyOnce Sample.request (Sample.series 1)
      exact).toOption.isSome = true := by decide +kernel
  cases hrun : runFrame Sample.buyOnce Sample.request (Sample.series 1) exact with
  | error e =>
      rw [hrun] at hran
      cases hran
  | ok state =>
      have hinc : Increasing (requestCandles Sample.request fun _ => Sample.series 1) := by
        decide +kernel
      obtain ⟨response, hresponse, -⟩ := runBacktest_of_increasing hinc hrun
      exact ⟨response, hresponse, accounts_close Sample.buyOnce Sample.request
        (fun _ => Sample.series 1) response hresponse⟩

end FxStrategyLab.CandleBacktest
