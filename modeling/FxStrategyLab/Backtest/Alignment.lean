import FxStrategyLab.Backtest.Engine

/-!
# The records of a bar

The validation of a dataset looks for the timestamps of the candles among those of the
records, while the engine reads the records by position.  This file says what a run reads:
every bar behind the warmup once, from the records at its position.

**Results.** `run_reads_every_bar` for the runs over a valid dataset, none of which raises
an index error, and `uses_own_records_iff` for the datasets whose bars are decided by their
own records.
-/

namespace FxStrategyLab.Backtest

section Alignment

variable (dataset : BacktestDataset) (exitPolicy : ExitPolicyCandidate)
  (options : BacktestOptions)

structure BarEvaluation.ReadFrom (e : BarEvaluation) : Prop where
  candle : dataset.candles[e.barIndex]? = some e.candle
  spread : dataset.spreads[e.barIndex]? = some e.spread
  session : dataset.sessions[e.barIndex]? = some e.session
  entry : ∀ record, e.entrySpread = some record → record = e.spread

/-- A spread cost comes from the record of an entry among the evaluations. -/
def CostFrom (evaluations : List BarEvaluation) (cost : ℚ) : Prop :=
  ∃ e ∈ evaluations, ∃ record, e.entrySpread = some record ∧
    cost = spreadCostOf options record

structure BacktestState.Costed (state : BacktestState) : Prop where
  openTrade : ∀ trade, state.openTrade = some trade →
    CostFrom options state.evaluations trade.spreadCost
  trades : ∀ trade ∈ state.trades,
    CostFrom options state.evaluations trade.syntheticSpreadCostValue

variable {dataset exitPolicy options}

theorem CostFrom.append {evaluations : List BarEvaluation} {cost : ℚ}
    (h : CostFrom options evaluations cost) (e : BarEvaluation) :
    CostFrom options (evaluations ++ [e]) cost := by
  obtain ⟨before, hbefore, hcost⟩ := h
  exact ⟨before, List.mem_append_left _ hbefore, hcost⟩

theorem item_eq_ok {α : Type} {xs : List α} {index : Nat} {a : α}
    (h : xs[index]? = some a) : item xs index = .ok a := by
  simp [item, h]

theorem closeTrade_costs {state : BacktestState} {trade : OpenPaperTrade}
    {exitReason : BacktestExitReason} {exitPrice : ℚ} {barIndex : Nat} :
    (state.closeTrade options trade exitReason exitPrice barIndex).openTrade = none ∧
      ∀ closed ∈ (state.closeTrade options trade exitReason exitPrice barIndex).trades,
        closed ∈ state.trades ∨ closed.syntheticSpreadCostValue = trade.spreadCost := by
  refine ⟨rfl, ?_⟩
  intro closed hclosed
  rcases List.mem_append.mp hclosed with hclosed | hclosed
  · exact Or.inl hclosed
  · rw [List.mem_singleton.mp hclosed]
    exact Or.inr rfl

theorem manageTrade_costs {state : BacktestState} {trade : OpenPaperTrade}
    {candle : BacktestCandleRecord} {barIndex : Nat} (hopen : state.openTrade = some trade) :
    ((state.manageTrade dataset exitPolicy options trade candle barIndex).openTrade =
        some trade ∨
      (state.manageTrade dataset exitPolicy options trade candle barIndex).openTrade = none) ∧
      ∀ closed ∈ (state.manageTrade dataset exitPolicy options trade candle barIndex).trades,
        closed ∈ state.trades ∨ closed.syntheticSpreadCostValue = trade.spreadCost := by
  unfold BacktestState.manageTrade
  dsimp only
  generalize (if trade.side.opposes
    (deriveTrendMomentumLabels (closesUpTo dataset barIndex)).1 = true
      then state.oppositeStreak + 1 else 0) = streak
  split_ifs
  · exact ⟨Or.inr closeTrade_costs.1, closeTrade_costs.2⟩
  · exact ⟨Or.inr closeTrade_costs.1, closeTrade_costs.2⟩
  · exact ⟨Or.inr closeTrade_costs.1, closeTrade_costs.2⟩
  · exact ⟨Or.inr closeTrade_costs.1, closeTrade_costs.2⟩
  · exact ⟨Or.inl hopen, fun closed h => Or.inl h⟩

/-- **Step lemma.** A bar with records is evaluated with them, and nothing else is. -/
theorem backtestStep_reads {state : BacktestState} {barIndex : Nat}
    {candle : BacktestCandleRecord} {spread : BacktestSpreadRecord}
    {session : BacktestSessionRecord} (hcosted : state.Costed options)
    (hcandle : dataset.candles[barIndex]? = some candle)
    (hspread : dataset.spreads[barIndex]? = some spread)
    (hsession : dataset.sessions[barIndex]? = some session) :
    ∃ state' e, backtestStep dataset exitPolicy options state barIndex = .ok state' ∧
      state'.evaluations = state.evaluations ++ [e] ∧ e.barIndex = barIndex ∧
      e.ReadFrom dataset ∧ state'.Costed options := by
  have hconvert : convertBarToSignalInput dataset barIndex state.openTrade.isSome
      options.environment = .ok
        { signalInput := signalInputOf (closesUpTo dataset barIndex) spread session
            state.openTrade.isSome options.environment
          spread
          session } := by
    simp only [convertBarToSignalInput, item_eq_ok hspread, item_eq_ok hsession]
    rfl
  simp only [backtestStep, item_eq_ok hcandle, hconvert, item_eq_ok hspread]
  cases hopen : state.openTrade with
  | some trade =>
      have hmanaged := @manageTrade_costs dataset exitPolicy options state trade candle
        barIndex hopen
      refine ⟨_, _, rfl, rfl, rfl, ⟨hcandle, hspread, hsession, nofun⟩, ?_, ?_⟩
      · intro kept hkept
        have hkept' : (state.manageTrade dataset exitPolicy options trade candle
          barIndex).openTrade = some kept := hkept
        rcases hmanaged.1 with hsame | hnone
        · obtain rfl : trade = kept := Option.some.inj (hsame.symm.trans hkept')
          exact (hcosted.openTrade _ hopen).append _
        · rw [hnone] at hkept'
          cases hkept'
      · intro closed hclosed
        rcases hmanaged.2 closed hclosed with hold | hcost
        · exact (hcosted.trades _ hold).append _
        · rw [hcost]
          exact (hcosted.openTrade _ hopen).append _
  | none =>
      simp only [Option.isSome_none, bind, Except.bind]
      split
      · refine ⟨_, _, rfl, rfl, rfl, ⟨hcandle, hspread, hsession, ?_⟩, ?_, ?_⟩
        · intro record hrecord
          exact (Option.some.inj hrecord).symm
        · intro trade htrade
          cases htrade
          exact ⟨_, List.mem_append_right _ List.mem_cons_self, spread, rfl, rfl⟩
        · intro closed hclosed
          exact (hcosted.trades _ hclosed).append _
      · refine ⟨_, _, rfl, rfl, rfl, ⟨hcandle, hspread, hsession, nofun⟩, ?_, ?_⟩
        · intro trade htrade
          cases htrade
        · intro closed hclosed
          exact (hcosted.trades _ hclosed).append _

/-- **Run lemma.** Bars that have records are evaluated in order, each with the records at
its position. -/
theorem bars_read {bars : List Nat} {state : BacktestState}
    (hcosted : state.Costed options) (hread : ∀ e ∈ state.evaluations, e.ReadFrom dataset)
    (hrecords : ∀ barIndex ∈ bars, barIndex < dataset.candles.length ∧
      barIndex < dataset.spreads.length ∧ barIndex < dataset.sessions.length) :
    ∃ state', bars.foldlM (backtestStep dataset exitPolicy options) state = .ok state' ∧
      state'.evaluations.map BarEvaluation.barIndex =
        state.evaluations.map BarEvaluation.barIndex ++ bars ∧
      (∀ e ∈ state'.evaluations, e.ReadFrom dataset) ∧ state'.Costed options := by
  induction bars generalizing state with
  | nil => exact ⟨state, rfl, (List.append_nil _).symm, hread, hcosted⟩
  | cons barIndex bars ih =>
      obtain ⟨hcandle, hspread, hsession⟩ := hrecords barIndex List.mem_cons_self
      obtain ⟨state₁, e, hstep, hevaluations, hindex, hfrom, hcosted₁⟩ :=
        @backtestStep_reads dataset exitPolicy options state barIndex _ _ _ hcosted
          (List.getElem?_eq_getElem hcandle) (List.getElem?_eq_getElem hspread)
          (List.getElem?_eq_getElem hsession)
      have hread₁ : ∀ e' ∈ state₁.evaluations, e'.ReadFrom dataset := by
        intro e' he'
        rw [hevaluations] at he'
        rcases List.mem_append.mp he' with he' | he'
        · exact hread e' he'
        · rw [List.mem_singleton.mp he']
          exact hfrom
      obtain ⟨state', hrun, hbars, hread', hcosted'⟩ := ih hcosted₁ hread₁
        fun later hlater => hrecords later (List.mem_cons_of_mem _ hlater)
      refine ⟨state', ?_, ?_, hread', hcosted'⟩
      · rw [List.foldlM_cons, hstep]
        exact hrun
      · rw [hbars, hevaluations, List.map_append, List.append_assoc, List.map_singleton,
          hindex]
        rfl

theorem evaluatedBars_recorded (hvalid : dataset.Valid) {barIndex : Nat}
    (hbar : barIndex ∈ evaluatedBars dataset) :
    barIndex < dataset.candles.length ∧ barIndex < dataset.spreads.length ∧
      barIndex < dataset.sessions.length := by
  obtain ⟨hspreads, hsessions⟩ := validate_records_cover hvalid
  unfold evaluatedBars at hbar
  rw [List.mem_range'_1] at hbar
  omega

/-- The exit at the end of the window: a trade that is still open closes at the last
candle, with the cost of its entry. -/
theorem runBars_ends {state : BacktestState} (hcandles : dataset.candles ≠ [])
    (hcosted : state.Costed options)
    (hrun : (evaluatedBars dataset).foldlM (backtestStep dataset exitPolicy options) {} =
      .ok state) :
    ∃ final, runBars dataset exitPolicy options = .ok final ∧
      final.evaluations = state.evaluations ∧ final.Costed options := by
  have hlast : dataset.candles.length - 1 < dataset.candles.length := by
    have := List.length_pos_of_ne_nil hcandles
    omega
  unfold runBars
  simp only [hrun, bind, Except.bind]
  cases hopen : state.openTrade with
  | none => exact ⟨state, rfl, rfl, hcosted⟩
  | some trade =>
      simp only [item_eq_ok (List.getElem?_eq_getElem hlast)]
      split
      · refine ⟨_, rfl, rfl, ?_, ?_⟩
        · intro kept hkept
          rw [closeTrade_costs.1] at hkept
          cases hkept
        · intro closed hclosed
          rcases closeTrade_costs.2 closed hclosed with hold | hcost
          · exact hcosted.trades closed hold
          · rw [hcost]
            exact hcosted.openTrade trade hopen
      · exact ⟨state, rfl, rfl, hcosted⟩

/-- **A run over a valid dataset raises no index error**, and reads every bar behind the
warmup from the records at its position. -/
theorem run_reads_every_bar (hvalid : dataset.Valid) :
    ∃ result, runSyntheticBacktest dataset exitPolicy options = .ok result ∧
      result.evaluations.map BarEvaluation.barIndex = evaluatedBars dataset ∧
      (∀ e ∈ result.evaluations, e.ReadFrom dataset) ∧
      ∀ trade ∈ result.trades,
        CostFrom options result.evaluations trade.syntheticSpreadCostValue := by
  have hcandles : dataset.candles ≠ [] := by
    have hwarmup := hvalid.checks.1
    rintro hnil
    rw [hnil, List.length_nil] at hwarmup
    omega
  have hstart : BacktestState.Costed options {} := ⟨nofun, nofun⟩
  have hnone : ∀ e ∈ ([] : List BarEvaluation), e.ReadFrom dataset :=
    fun e he => absurd he List.not_mem_nil
  obtain ⟨state, hrun, hbars, hread, hcosted⟩ :=
    @bars_read dataset exitPolicy options _ {} hstart hnone
      fun _ => evaluatedBars_recorded hvalid
  obtain ⟨final, hfinal, hevaluations, hcosts⟩ := runBars_ends hcandles hcosted hrun
  rw [List.map_nil, List.nil_append, ← hevaluations] at hbars
  rw [← hevaluations] at hread
  refine ⟨completedRun dataset options final, ?_, hbars, hread, hcosts.trades⟩
  have hstatus : ¬ (validateBacktestDataset dataset).status ∉ datasetValidStatuses :=
    fun hnot => hnot hvalid
  unfold runSyntheticBacktest
  simp only [if_neg hstatus, hfinal, bind, Except.bind, pure, Except.pure]

/-- The bar was decided, and its entry charged, by records of its own timestamp. -/
structure BarEvaluation.UsesOwn (e : BarEvaluation) : Prop where
  spread : e.spread.timestamp = e.candle.timestamp
  session : e.session.timestamp = e.candle.timestamp
  entry : ∀ record, e.entrySpread = some record → record.timestamp = e.candle.timestamp

/-- Every decision and every spread cost of a run comes from records of the bar's own
timestamp. -/
structure BacktestRunResult.UsesOwnRecords (options : BacktestOptions)
    (result : BacktestRunResult) : Prop where
  decisions : ∀ e ∈ result.evaluations, e.UsesOwn
  costs : ∀ trade ∈ result.trades, ∃ e ∈ result.evaluations, ∃ record,
    e.entrySpread = some record ∧ record.timestamp = e.candle.timestamp ∧
      trade.syntheticSpreadCostValue = spreadCostOf options record

/-- Behind the warmup, the records at the position of a candle have its timestamp. -/
def BacktestDataset.Aligned (dataset : BacktestDataset) : Prop :=
  ∀ barIndex ∈ evaluatedBars dataset,
    (dataset.spreads[barIndex]?).map BacktestSpreadRecord.timestamp =
        (dataset.candles[barIndex]?).map BacktestCandleRecord.timestamp ∧
      (dataset.sessions[barIndex]?).map BacktestSessionRecord.timestamp =
        (dataset.candles[barIndex]?).map BacktestCandleRecord.timestamp
deriving Decidable

theorem BarEvaluation.ReadFrom.usesOwn_iff {e : BarEvaluation} (hread : e.ReadFrom dataset) :
    e.UsesOwn ↔
      (dataset.spreads[e.barIndex]?).map BacktestSpreadRecord.timestamp =
          (dataset.candles[e.barIndex]?).map BacktestCandleRecord.timestamp ∧
        (dataset.sessions[e.barIndex]?).map BacktestSessionRecord.timestamp =
          (dataset.candles[e.barIndex]?).map BacktestCandleRecord.timestamp := by
  rw [hread.candle, hread.spread, hread.session]
  simp only [Option.map_some, Option.some.injEq]
  constructor
  · intro hown
    exact ⟨hown.spread, hown.session⟩
  · rintro ⟨hspread, hsession⟩
    refine ⟨hspread, hsession, ?_⟩
    intro record hrecord
    rw [hread.entry record hrecord]
    exact hspread

/-- **A run over a valid dataset raises no index error and evaluates every bar behind the
warmup; it uses the bars' own records exactly when the dataset is aligned.** -/
theorem uses_own_records_iff (hvalid : dataset.Valid) :
    ∃ result, runSyntheticBacktest dataset exitPolicy options = .ok result ∧
      result.evaluations.map BarEvaluation.barIndex = evaluatedBars dataset ∧
      (result.UsesOwnRecords options ↔ dataset.Aligned) := by
  obtain ⟨result, hresult, hbars, hread, hcosts⟩ :=
    @run_reads_every_bar _ exitPolicy options hvalid
  refine ⟨result, hresult, hbars, ?_⟩
  constructor
  · intro hown barIndex hbar
    rw [← hbars] at hbar
    obtain ⟨e, he, rfl⟩ := List.mem_map.mp hbar
    exact (hread e he).usesOwn_iff.mp (hown.decisions e he)
  · intro haligned
    have hdecisions : ∀ e ∈ result.evaluations, e.UsesOwn := by
      intro e he
      have hbar : e.barIndex ∈ evaluatedBars dataset :=
        hbars ▸ List.mem_map_of_mem he
      exact (hread e he).usesOwn_iff.mpr (haligned e.barIndex hbar)
    refine ⟨hdecisions, ?_⟩
    intro trade htrade
    obtain ⟨e, he, record, hrecord, hcost⟩ := hcosts trade htrade
    exact ⟨e, he, record, hrecord, (hdecisions e he).entry record hrecord, hcost⟩

end Alignment

namespace Sample

/-- A rising minute. -/
def candle (minute : Nat) : BacktestCandleRecord where
  timestamp := 60 * minute
  openValue := 150 + minute
  highValue := 151 + minute
  lowValue := 150 + minute
  closeValue := 151 + minute

def spread (minute : Nat) (category : SpreadCategorySafeLabel) (value : ℚ) :
    BacktestSpreadRecord where
  timestamp := 60 * minute
  spreadCategory := category
  spreadValue := some value

def session (minute : Nat) : BacktestSessionRecord where
  timestamp := 60 * minute
  sessionSafeLabel := .sessionAllowed

/-- Six rising minutes with their records, the last two with a wide spread. -/
def aligned : BacktestDataset where
  candles := (List.range 6).map candle
  spreads := (List.range 4).map (spread · .spreadCategoryNormal (1 / 100)) ++
    [spread 4 .spreadCategoryWide 2, spread 5 .spreadCategoryWide 2]
  sessions := (List.range 6).map session

/-- The first spread record is there twice. -/
def shifted : BacktestDataset :=
  { aligned with
    spreads := spread 0 .spreadCategoryNormal (1 / 100) :: aligned.spreads }

def exitPolicy : ExitPolicyCandidate where
  tpDistanceSynthetic := 5
  slDistanceSynthetic := 5
  maxHoldBars := 10
  distances_pos := by decide +kernel
  hold_pos := by decide

end Sample

theorem uses_own_records_aligned :
    ∃ result, runSyntheticBacktest Sample.aligned Sample.exitPolicy {} = .ok result ∧
      result.evaluations.map BarEvaluation.barIndex = evaluatedBars Sample.aligned ∧
      (result.UsesOwnRecords {} ↔ Sample.aligned.Aligned) :=
  uses_own_records_iff (by decide +kernel)

/-- A second copy of the first spread record leaves the dataset valid, and the bars are
decided by the records of the bars before them. -/
theorem shifted_spreads_are_read :
    ¬ ∀ (dataset : BacktestDataset) (exitPolicy : ExitPolicyCandidate)
        (options : BacktestOptions), dataset.Valid →
        ∃ result, runSyntheticBacktest dataset exitPolicy options = .ok result ∧
          result.evaluations.map BarEvaluation.barIndex = evaluatedBars dataset ∧
          result.UsesOwnRecords options := by
  intro hall
  obtain ⟨result, hresult, -, hown⟩ :=
    hall Sample.shifted Sample.exitPolicy {} (by decide +kernel)
  have hstrange : (runSyntheticBacktest Sample.shifted Sample.exitPolicy {}).toOption.any
      (fun result => result.evaluations.any
        fun e => e.spread.timestamp ≠ e.candle.timestamp) = true := by decide +kernel
  rw [hresult, Except.toOption, Option.any_some, List.any_eq_true] at hstrange
  obtain ⟨e, he, hother⟩ := hstrange
  exact of_decide_eq_true hother (hown.decisions e he).spread

end FxStrategyLab.Backtest
