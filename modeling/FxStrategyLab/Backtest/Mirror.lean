import FxStrategyLab.Backtest.Alignment
import FxStrategyLab.Library.Series

/-!
# The mirror of a backtest

A dataset is mirrored at a level: each price `x` becomes `c - x`, and so the low of a candle
becomes its high.  Trends and momenta turn round, and with them the sides of the trades.

**Results.** `backtestStep_mirror` for a bar, and `mirror_symmetric` for a run: it trades the
mirrored dataset on the other sides, with the same exits, holds and results.
-/

namespace FxStrategyLab.Backtest

open Library.Series (bind_eq_ok foldlM_simulates)

def TrendSafeLabel.mirror : TrendSafeLabel → TrendSafeLabel
  | uptrend => downtrend
  | downtrend => uptrend
  | range => range
  | trendUnknown => trendUnknown
  | trendConflict => trendConflict

def MomentumSafeLabel.mirror : MomentumSafeLabel → MomentumSafeLabel
  | momentumUp => momentumDown
  | momentumDown => momentumUp
  | momentumFlat => momentumFlat
  | momentumUnknown => momentumUnknown

def AutoPreviewSignal.mirror : AutoPreviewSignal → AutoPreviewSignal
  | buy => sell
  | sell => buy
  | hold => hold
  | unknownBlocked => unknownBlocked

def PaperSide.mirror : PaperSide → PaperSide
  | paperLong => paperShort
  | paperShort => paperLong

variable (signalInput : StrategySignalSafeInput)

/-- An engine input with the trend and the momentum turned round. -/
def StrategySignalSafeInput.mirror :
    StrategySignalSafeInput :=
  { signalInput with
    trendSafeLabel := signalInput.trendSafeLabel.mirror
    momentumSafeLabel := signalInput.momentumSafeLabel.mirror }

variable (c : ℚ)

def BacktestCandleRecord.mirror (candle : BacktestCandleRecord) :
    BacktestCandleRecord :=
  { candle with
    openValue := c - candle.openValue
    highValue := c - candle.lowValue
    lowValue := c - candle.highValue
    closeValue := c - candle.closeValue }

def BacktestDataset.mirror (dataset : BacktestDataset) : BacktestDataset :=
  { dataset with candles := dataset.candles.map (BacktestCandleRecord.mirror c) }

def OpenPaperTrade.mirror (trade : OpenPaperTrade) : OpenPaperTrade :=
  { trade with
    side := trade.side.mirror
    entrySignal := trade.entrySignal.mirror
    entryClose := c - trade.entryClose }

def BacktestTradeEvent.mirror (trade : BacktestTradeEvent) : BacktestTradeEvent :=
  { trade with
    side := trade.side.mirror
    entrySignal := trade.entrySignal.mirror }

theorem deriveTrendMomentumLabels_mirror (closes : List ℚ) :
    deriveTrendMomentumLabels (closes.map (c - ·)) =
      ((deriveTrendMomentumLabels closes).1.mirror,
        (deriveTrendMomentumLabels closes).2.mirror) := by
  unfold deriveTrendMomentumLabels
  rw [List.getElem?_map, List.getElem?_map, List.getElem?_map]
  cases closes[0]? with
  | none => rfl
  | some close =>
      cases closes[1]? with
      | none => rfl
      | some previous =>
          cases closes[trendLookbackBars]? with
          | none => rfl
          | some lookback =>
              simp only [Option.map_some, sub_lt_sub_iff_left]
              split_ifs <;> first | rfl | (exfalso; linarith)

theorem environmentGates_mirror :
    environmentGates signalInput.mirror = environmentGates signalInput :=
  rfl

theorem decideByRule_mirror :
    (decideByRule signalInput.mirror).autoPreviewSignal =
        (decideByRule signalInput).autoPreviewSignal.mirror ∧
      (decideByRule signalInput.mirror).strategyDecisionCategory =
        (decideByRule signalInput).strategyDecisionCategory := by
  obtain ⟨trend, momentum, volatility, spread, ticker, market, session, guard, context⟩ :=
    signalInput
  cases context with
  | positionContextUnknown => exact ⟨rfl, rfl⟩
  | onePositionContext => exact ⟨rfl, rfl⟩
  | noPositionContext => cases trend <;> cases momentum <;> exact ⟨rfl, rfl⟩

/-- **A mirrored input is decided on the other side**, in the same category. -/
theorem evaluateStrategySignal_mirror :
    (evaluateStrategySignal signalInput.mirror).autoPreviewSignal =
        (evaluateStrategySignal signalInput).autoPreviewSignal.mirror ∧
      (evaluateStrategySignal signalInput.mirror).strategyDecisionCategory =
        (evaluateStrategySignal signalInput).strategyDecisionCategory := by
  unfold evaluateStrategySignal
  rw [environmentGates_mirror]
  split
  · exact ⟨rfl, rfl⟩
  · exact decideByRule_mirror signalInput

section Mirror

variable {dataset : BacktestDataset} {exitPolicy : ExitPolicyCandidate}
  {options : BacktestOptions} {c : ℚ}

theorem closesUpTo_mirror (barIndex : Nat) :
    closesUpTo (dataset.mirror c) barIndex = (closesUpTo dataset barIndex).map (c - ·) := by
  unfold closesUpTo BacktestDataset.mirror
  rw [← List.map_take, List.map_map, List.map_reverse, List.map_map]
  rfl

theorem item_map {α β : Type} (f : α → β) (xs : List α) (i : Nat) :
    item (xs.map f) i = (item xs i).map f := by
  unfold item
  rw [List.getElem?_map]
  cases xs[i]? <;> rfl

theorem signalInputOf_mirror {closes : List ℚ} {spread : BacktestSpreadRecord}
    {session : BacktestSessionRecord} {positionOpen : Bool}
    {environment : BacktestEnvironmentAssumption}
    (htrend : environment.trendSafeLabelOverride = none)
    (hmomentum : environment.momentumSafeLabelOverride = none) :
    signalInputOf (closes.map (c - ·)) spread session positionOpen environment =
      (signalInputOf closes spread session positionOpen environment).mirror := by
  unfold signalInputOf StrategySignalSafeInput.mirror
  rw [htrend, hmomentum, deriveTrendMomentumLabels_mirror]
  rfl

theorem evaluateStrategySignal_side {signalInput : StrategySignalSafeInput}
    (h : (evaluateStrategySignal signalInput).strategyDecisionCategory =
      .entryPreviewProposed) :
    (evaluateStrategySignal signalInput).autoPreviewSignal = .buy ∨
      (evaluateStrategySignal signalInput).autoPreviewSignal = .sell := by
  unfold evaluateStrategySignal at h ⊢
  split at h
  · cases h
  · obtain ⟨trend, momentum, volatility, spread, ticker, market, session, guard, context⟩ :=
      signalInput
    cases context with
    | positionContextUnknown => cases h
    | onePositionContext => cases h
    | noPositionContext =>
        cases trend <;> cases momentum <;>
          first
          | exact Or.inl rfl
          | exact Or.inr rfl
          | cases h

theorem momentum_mirror_aligned (momentum : MomentumSafeLabel) :
    decide (momentum.mirror = .momentumDown) = decide (momentum = .momentumUp) ∧
      decide (momentum.mirror = .momentumUp) = decide (momentum = .momentumDown) := by
  cases momentum <;> decide

theorem opensTrade_mirror (signalInput : StrategySignalSafeInput) :
    opensTrade options signalInput.mirror (evaluateStrategySignal signalInput.mirror) =
      opensTrade options signalInput (evaluateStrategySignal signalInput) := by
  obtain ⟨hsignal, hcategory⟩ := evaluateStrategySignal_mirror signalInput
  have haligned := momentum_mirror_aligned signalInput.momentumSafeLabel
  unfold opensTrade
  rw [hsignal, hcategory]
  by_cases hentry : (evaluateStrategySignal signalInput).strategyDecisionCategory =
      .entryPreviewProposed
  · rw [hentry]
    rcases evaluateStrategySignal_side hentry with hbuy | hsell
    · rw [hbuy]
      exact congrArg (fun aligned => true && (!options.entryMomentumStrict || aligned))
        haligned.1
    · rw [hsell]
      exact congrArg (fun aligned => true && (!options.entryMomentumStrict || aligned))
        haligned.2
  · rw [decide_eq_false hentry, Bool.false_and, Bool.false_and]

theorem direction_mirror (side : PaperSide) : side.mirror.direction = -side.direction := by
  cases side with
  | paperLong => rfl
  | paperShort => exact (neg_neg _).symm

theorem opposes_mirror (side : PaperSide) (trend : TrendSafeLabel) :
    side.mirror.opposes trend.mirror = side.opposes trend := by
  cases side <;> cases trend <;> rfl

/-- A mirrored candle reaches the levels of a mirrored trade exactly when the candle does. -/
theorem hits_mirror (trade : OpenPaperTrade) (candle : BacktestCandleRecord) :
    (trade.mirror c).hits exitPolicy (candle.mirror c) = trade.hits exitPolicy candle := by
  have hbelow : ∀ entry level distance : ℚ,
      (c - entry + distance ≤ c - level ↔ level ≤ entry - distance) := by
    intro entry level distance
    constructor <;> intro h <;> linarith
  have habove : ∀ entry level distance : ℚ,
      (c - level ≤ c - entry - distance ↔ entry + distance ≤ level) := by
    intro entry level distance
    constructor <;> intro h <;> linarith
  unfold OpenPaperTrade.hits OpenPaperTrade.mirror BacktestCandleRecord.mirror
  cases trade.side with
  | paperLong => simp only [PaperSide.mirror, hbelow, habove]
  | paperShort => simp only [PaperSide.mirror, hbelow, habove]

/-- The states of a run and of the run over the mirrored dataset. -/
structure Mirrors (c : ℚ) (s s' : BacktestState) : Prop where
  trades : s'.trades = s.trades.map BacktestTradeEvent.mirror
  openTrade : s'.openTrade = s.openTrade.map (OpenPaperTrade.mirror c)
  streak : s'.oppositeStreak = s.oppositeStreak

theorem Mirrors.closeTrade {s s' : BacktestState} {trade : OpenPaperTrade}
    {exitReason : BacktestExitReason} {exitPrice mirrored : ℚ} {barIndex : Nat}
    (h : Mirrors c s s') (hprice : mirrored = c - exitPrice) :
    Mirrors c (s.closeTrade options trade exitReason exitPrice barIndex)
      (s'.closeTrade options (trade.mirror c) exitReason mirrored barIndex) := by
  have hgross : (mirrored - (c - trade.entryClose)) * trade.side.mirror.direction =
      (exitPrice - trade.entryClose) * trade.side.direction := by
    rw [hprice, direction_mirror]
    ring
  constructor
  · unfold BacktestState.closeTrade OpenPaperTrade.mirror
    dsimp only
    rw [h.trades, hgross, List.map_append, List.length_map]
    rfl
  · rfl
  · exact h.streak

theorem Mirrors.manageTrade {s s' : BacktestState} {trade : OpenPaperTrade}
    {candle : BacktestCandleRecord} {barIndex : Nat} (h : Mirrors c s s')
    (hopen : s.openTrade = some trade) :
    Mirrors c (s.manageTrade dataset exitPolicy options trade candle barIndex)
      (s'.manageTrade (dataset.mirror c) exitPolicy options (trade.mirror c) (candle.mirror c)
        barIndex) := by
  have htrend : (deriveTrendMomentumLabels (closesUpTo (dataset.mirror c) barIndex)).1 =
      (deriveTrendMomentumLabels (closesUpTo dataset barIndex)).1.mirror := by
    rw [closesUpTo_mirror, deriveTrendMomentumLabels_mirror]
  have hopposes : (trade.mirror c).side.opposes
        (deriveTrendMomentumLabels (closesUpTo (dataset.mirror c) barIndex)).1 =
      trade.side.opposes (deriveTrendMomentumLabels (closesUpTo dataset barIndex)).1 := by
    rw [htrend]
    exact opposes_mirror _ _
  have hdirection : (trade.mirror c).side.direction = -trade.side.direction :=
    direction_mirror _
  unfold BacktestState.manageTrade
  dsimp only
  rw [hits_mirror, hopposes, h.streak, hdirection]
  generalize (if trade.side.opposes
    (deriveTrendMomentumLabels (closesUpTo dataset barIndex)).1 = true
      then s.oppositeStreak + 1 else 0) = streak
  have hstates : Mirrors c { s with oppositeStreak := streak }
      { s' with oppositeStreak := streak } := ⟨h.trades, h.openTrade, rfl⟩
  have hentry : (trade.mirror c).entryClose = c - trade.entryClose := rfl
  have hclose : (candle.mirror c).closeValue = c - candle.closeValue := rfl
  have hbar : (trade.mirror c).entryBar = trade.entryBar := rfl
  rw [hentry, hclose, hbar]
  split_ifs
  · exact hstates.closeTrade (by ring)
  · exact hstates.closeTrade (by ring)
  · exact hstates.closeTrade rfl
  · exact hstates.closeTrade rfl
  · exact hstates

/-- **Step lemma.** A bar keeps the states mirrored. -/
theorem backtestStep_mirror {s s' t : BacktestState} {barIndex : Nat}
    (htrend : options.environment.trendSafeLabelOverride = none)
    (hmomentum : options.environment.momentumSafeLabelOverride = none) (h : Mirrors c s s')
    (hstep : backtestStep dataset exitPolicy options s barIndex = .ok t) :
    ∃ t', backtestStep (dataset.mirror c) exitPolicy options s' barIndex = .ok t' ∧
      Mirrors c t t' := by
  unfold backtestStep at hstep
  obtain ⟨candle, hcandle, hstep⟩ := bind_eq_ok hstep
  obtain ⟨input, hinput, hstep⟩ := bind_eq_ok hstep
  unfold convertBarToSignalInput at hinput
  obtain ⟨spread, hspread, hinput⟩ := bind_eq_ok hinput
  obtain ⟨session, hsession, hinput⟩ := bind_eq_ok hinput
  obtain rfl := Except.ok.inj hinput
  have hcandle' : item (dataset.mirror c).candles barIndex = .ok (candle.mirror c) := by
    show item (dataset.candles.map _) barIndex = _
    rw [item_map, hcandle]
    rfl
  have hisSome : s'.openTrade.isSome = s.openTrade.isSome := by
    rw [h.openTrade, Option.isSome_map]
  have hinput' : convertBarToSignalInput (dataset.mirror c) barIndex s'.openTrade.isSome
      options.environment = .ok
        { signalInput := (signalInputOf (closesUpTo dataset barIndex) spread session
            s.openTrade.isSome options.environment).mirror
          spread
          session } := by
    have hspreads : (dataset.mirror c).spreads = dataset.spreads := rfl
    have hsessions : (dataset.mirror c).sessions = dataset.sessions := rfl
    unfold convertBarToSignalInput
    simp only [hspreads, hsessions, hspread, hsession, closesUpTo_mirror,
      signalInputOf_mirror htrend hmomentum, hisSome, bind, Except.bind, pure, Except.pure]
  generalize signalInputOf (closesUpTo dataset barIndex) spread session s.openTrade.isSome
    options.environment = signalInput at hstep hinput'
  unfold backtestStep
  rw [hcandle', hinput', show (dataset.mirror c).spreads = dataset.spreads from rfl, hspread]
  simp only [bind, Except.bind] at hstep ⊢
  rw [hspread] at hstep
  cases hopen : s.openTrade with
  | some trade =>
      have hopen' : s'.openTrade = some (trade.mirror c) := by rw [h.openTrade, hopen]; rfl
      rw [hopen] at hstep
      rw [hopen']
      obtain rfl := Except.ok.inj hstep
      have hmanaged := @Mirrors.manageTrade dataset exitPolicy options c s s' trade candle
        barIndex h hopen
      exact ⟨_, rfl, hmanaged.trades, hmanaged.openTrade, hmanaged.streak⟩
  | none =>
      have hopen' : s'.openTrade = none := by rw [h.openTrade, hopen]; rfl
      rw [hopen] at hstep
      rw [hopen']
      dsimp only at hstep ⊢
      rw [opensTrade_mirror]
      by_cases hopens : opensTrade options signalInput (evaluateStrategySignal signalInput) = true
      · rw [if_pos hopens] at hstep ⊢
        obtain rfl := Except.ok.inj hstep
        refine ⟨_, rfl, h.trades, ?_, rfl⟩
        have hproposed : (evaluateStrategySignal signalInput).strategyDecisionCategory =
            .entryPreviewProposed := by
          unfold opensTrade at hopens
          exact of_decide_eq_true (Bool.and_eq_true_iff.mp hopens).1
        rw [(evaluateStrategySignal_mirror signalInput).1]
        rcases evaluateStrategySignal_side hproposed with hbuy | hsell
        · rw [hbuy]
          rfl
        · rw [hsell]
          rfl
      · rw [if_neg hopens] at hstep ⊢
        obtain rfl := Except.ok.inj hstep
        exact ⟨_, rfl, h.trades, rfl, h.streak⟩

/-- **Run lemma.** The loop and the end of the window keep the states mirrored. -/
theorem runBars_mirror {s : BacktestState}
    (htrend : options.environment.trendSafeLabelOverride = none)
    (hmomentum : options.environment.momentumSafeLabelOverride = none)
    (hrun : runBars dataset exitPolicy options = .ok s) :
    ∃ s', runBars (dataset.mirror c) exitPolicy options = .ok s' ∧ Mirrors c s s' := by
  have hlength : (dataset.mirror c).candles.length = dataset.candles.length :=
    List.length_map _
  have hbars : evaluatedBars (dataset.mirror c) = evaluatedBars dataset := by
    unfold evaluatedBars
    rw [hlength]
    rfl
  unfold runBars at hrun ⊢
  obtain ⟨looped, hloop, hend⟩ := bind_eq_ok hrun
  have hstep : ∀ barIndex ∈ evaluatedBars dataset, ∀ s s' t, Mirrors c s s' →
      backtestStep dataset exitPolicy options s barIndex = .ok t →
      ∃ t', backtestStep (dataset.mirror c) exitPolicy options s' barIndex = .ok t' ∧
        Mirrors c t t' :=
    fun _ _ _ _ _ h hstep => backtestStep_mirror htrend hmomentum h hstep
  obtain ⟨looped', hloop', hmirrors⟩ :=
    foldlM_simulates hstep (⟨rfl, rfl, rfl⟩ : Mirrors c {} {}) hloop
  rw [hbars, hloop', hlength]
  simp only [bind, Except.bind] at hend ⊢
  rw [hmirrors.openTrade]
  cases hopen : looped.openTrade with
  | none =>
      rw [hopen] at hend
      obtain rfl := Except.ok.inj hend
      exact ⟨looped', rfl, hmirrors⟩
  | some trade =>
      rw [hopen] at hend
      dsimp only [Option.map_some] at hend ⊢
      by_cases hexits : exitPolicy.exitOnEndOfWindow = true
      · rw [if_pos hexits] at hend ⊢
        cases hlast : item dataset.candles (dataset.candles.length - 1) with
        | error e =>
            rw [hlast] at hend
            cases hend
        | ok last =>
            have hlast' : item (dataset.mirror c).candles (dataset.candles.length - 1) =
                .ok (last.mirror c) := by
              show item (dataset.candles.map _) _ = _
              rw [item_map, hlast]
              rfl
            rw [hlast] at hend
            rw [hlast']
            obtain rfl := Except.ok.inj hend
            exact ⟨_, rfl, hmirrors.closeTrade rfl⟩
      · rw [if_neg hexits] at hend ⊢
        obtain rfl := Except.ok.inj hend
        exact ⟨looped', rfl, hmirrors⟩

theorem candleReasons_mirror (realDataOk : Bool) (previousTs : Option Int)
    (candles : List BacktestCandleRecord) :
    candleReasons realDataOk previousTs (candles.map (BacktestCandleRecord.mirror c)) =
      candleReasons realDataOk previousTs candles := by
  induction candles generalizing previousTs with
  | nil => rfl
  | cons candle rest ih =>
      rw [List.map_cons, candleReasons, candleReasons, ih]
      simp only [BacktestCandleRecord.mirror, sub_lt_sub_iff_left]
      congr

/-- **The mirror of a valid dataset is valid.** -/
theorem valid_mirror : (dataset.mirror c).Valid ↔ dataset.Valid := by
  have hsame : datasetReasons (dataset.mirror c) = datasetReasons dataset := by
    unfold datasetReasons BacktestDataset.mirror
    simp only [candleReasons_mirror, List.map_eq_nil_iff, List.length_map, List.mem_map,
      exists_exists_and_eq_and, ne_eq, BacktestCandleRecord.mirror]
  rw [valid_iff_no_reasons, valid_iff_no_reasons, hsame]

end Mirror

/-- **The backtest is mirror symmetric.**  Over a valid dataset and over its mirror at any
level, without an override of trend or momentum, the runs make the same trades on swapped
sides: with the same exits, holds, results and spread costs. -/
theorem mirror_symmetric (dataset : BacktestDataset) (exitPolicy : ExitPolicyCandidate)
    (options : BacktestOptions) (c : ℚ) (hvalid : dataset.Valid)
    (htrend : options.environment.trendSafeLabelOverride = none)
    (hmomentum : options.environment.momentumSafeLabelOverride = none) :
    ∃ result mirrored, runSyntheticBacktest dataset exitPolicy options = .ok result ∧
      runSyntheticBacktest (dataset.mirror c) exitPolicy options = .ok mirrored ∧
      mirrored.status = result.status ∧
      mirrored.trades = result.trades.map BacktestTradeEvent.mirror := by
  have hvalid' : (dataset.mirror c).Valid := valid_mirror.mpr hvalid
  have hstatus : ¬ (validateBacktestDataset dataset).status ∉ datasetValidStatuses :=
    fun hnot => hnot hvalid
  have hstatus' : ¬ (validateBacktestDataset (dataset.mirror c)).status ∉
      datasetValidStatuses := fun hnot => hnot hvalid'
  obtain ⟨result, hresult, -⟩ := @run_reads_every_bar dataset exitPolicy options hvalid
  unfold runSyntheticBacktest at hresult ⊢
  simp only [if_neg hstatus] at hresult
  simp only [if_neg hstatus, if_neg hstatus']
  obtain ⟨s, hrun, hcompleted⟩ := bind_eq_ok hresult
  obtain rfl := Except.ok.inj hcompleted
  obtain ⟨s', hrun', hmirrors⟩ := @runBars_mirror dataset exitPolicy options c s htrend
    hmomentum hrun
  rw [hrun, hrun']
  exact ⟨_, _, rfl, rfl, rfl, hmirrors.trades⟩

/-- Rising minutes and their mirror at 300. -/
theorem rising_minutes_mirrored :
    ∃ result mirrored, runSyntheticBacktest Sample.aligned Sample.exitPolicy {} = .ok result ∧
      runSyntheticBacktest (Sample.aligned.mirror 300) Sample.exitPolicy {} = .ok mirrored ∧
      mirrored.status = result.status ∧
      mirrored.trades = result.trades.map BacktestTradeEvent.mirror :=
  mirror_symmetric Sample.aligned Sample.exitPolicy {} 300 (by decide +kernel) rfl rfl

end FxStrategyLab.Backtest
