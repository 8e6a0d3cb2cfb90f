import FxStrategyLab.Backtest.Alignment
import FxStrategyLab.Library.Series

/-!
# The backtest does not look ahead

The validation and the exit at the end of the window see the whole dataset.  The loop over
the bars reads a bar, its records and the closes behind it, so two runs are in the same
state until their datasets part.

**Results.** `run_does_not_look_ahead`: the trades closed before a bar, and the trade open
there, depend on the bars before it alone.
-/

namespace FxStrategyLab.Backtest

open Library.Series (foldlM_agree foldlM_invariant)

/-- Two datasets have the same candles and records before a bar. -/
structure BacktestDataset.AgreeBefore (k : Nat) (d₁ d₂ : BacktestDataset) : Prop where
  candles : Library.Series.AgreeBefore k d₁.candles d₂.candles
  spreads : Library.Series.AgreeBefore k d₁.spreads d₂.spreads
  sessions : Library.Series.AgreeBefore k d₁.sessions d₂.sessions

def entryBars (evaluations : List BarEvaluation) : List Nat :=
  evaluations.filterMap fun e => e.entrySpread.map fun _ => e.barIndex

/-- A trade with the bar at which it was closed: the bar of its entry and the bars that it
was held. -/
def closing (entryBar : Nat) (trade : BacktestTradeEvent) : Int × BacktestTradeEvent :=
  ((entryBar : Int) + trade.holdDurationBars, trade)

/-- The trades of a run, each with the bar at which it was closed. -/
def closings (evaluations : List BarEvaluation) (trades : List BacktestTradeEvent) :
    List (Int × BacktestTradeEvent) :=
  List.zipWith closing (entryBars evaluations) trades

/-- A trade was closed before bar `k`, and not by the end of the window. -/
def closedEarly (k : Nat) (closed : Int × BacktestTradeEvent) : Bool :=
  closed.1 < k && closed.2.exitReason ≠ .exitEndOfWindow

/-- The trades of a result that were closed before bar `k` for a reason other than the end
of the window. -/
def BacktestRunResult.closedBefore (result : BacktestRunResult) (k : Nat) :
    List BacktestTradeEvent :=
  ((closings result.evaluations result.trades).filter (closedEarly k)).map Prod.snd

section Causality

variable {dataset d₁ d₂ : BacktestDataset} {exitPolicy : ExitPolicyCandidate}
  {options : BacktestOptions} {k : Nat}

/-- The entries of a state are those of its closed trades and of its open one. -/
def BacktestState.Linked (s : BacktestState) : Prop :=
  ∃ closed : List Nat, closed.length = s.trades.length ∧
    entryBars s.evaluations = closed ++ (s.openTrade.map OpenPaperTrade.entryBar).toList

/-- What a bar does to the trades. -/
inductive TradeStep (barIndex : Nat) (s s' : BacktestState) : Prop
  | keeps (htrades : s'.trades = s.trades) (hopen : s'.openTrade = s.openTrade)
      (hentries : entryBars s'.evaluations = entryBars s.evaluations)
  | closes (trade : OpenPaperTrade) (event : BacktestTradeEvent)
      (hopen : s.openTrade = some trade) (hnone : s'.openTrade = none)
      (htrades : s'.trades = s.trades ++ [event])
      (hheld : event.holdDurationBars = (barIndex : Int) - trade.entryBar)
      (hreason : event.exitReason ≠ .exitEndOfWindow)
      (hentries : entryBars s'.evaluations = entryBars s.evaluations)
  | opens (trade : OpenPaperTrade) (hnone : s.openTrade = none)
      (hopen : s'.openTrade = some trade) (hbar : trade.entryBar = barIndex)
      (htrades : s'.trades = s.trades)
      (hentries : entryBars s'.evaluations = entryBars s.evaluations ++ [barIndex])

theorem entryBars_append (evaluations : List BarEvaluation) (e : BarEvaluation) :
    entryBars (evaluations ++ [e]) =
      entryBars evaluations ++ (e.entrySpread.map fun _ => e.barIndex).toList := by
  unfold entryBars
  rw [List.filterMap_append]
  cases hentry : e.entrySpread <;> simp [hentry]

variable {s s' state : BacktestState} {barIndex start count lastIndex i : Nat}

theorem manageTrade_tradeStep {trade : OpenPaperTrade}
    {candle : BacktestCandleRecord} (hopen : s.openTrade = some trade)
    (e : BarEvaluation) (hentry : e.entrySpread = none) :
    TradeStep barIndex s
      { s.manageTrade dataset exitPolicy options trade candle barIndex with
        evaluations := s.evaluations ++ [e] } := by
  have hentries : entryBars (s.evaluations ++ [e]) = entryBars s.evaluations := by
    rw [entryBars_append, hentry]
    exact List.append_nil _
  unfold BacktestState.manageTrade
  dsimp only
  generalize (if trade.side.opposes
    (deriveTrendMomentumLabels (closesUpTo dataset barIndex)).1 = true
      then s.oppositeStreak + 1 else 0) = streak
  split_ifs
  · exact .closes trade _ hopen rfl rfl rfl nofun hentries
  · exact .closes trade _ hopen rfl rfl rfl nofun hentries
  · exact .closes trade _ hopen rfl rfl rfl nofun hentries
  · exact .closes trade _ hopen rfl rfl rfl nofun hentries
  · exact .keeps rfl rfl hentries

/-- **Step lemma.** A bar keeps the trades, closes the open one or opens one. -/
theorem backtestStep_tradeStep (h : backtestStep dataset exitPolicy options s barIndex = .ok s') :
    TradeStep barIndex s s' := by
  unfold backtestStep at h
  cases hcandle : item dataset.candles barIndex with
  | error e =>
      rw [hcandle] at h
      cases h
  | ok candle =>
      rw [hcandle] at h
      dsimp only [bind, Except.bind] at h
      cases hinput : convertBarToSignalInput dataset barIndex s.openTrade.isSome
          options.environment with
      | error e =>
          rw [hinput] at h
          cases h
      | ok input =>
          rw [hinput] at h
          dsimp only at h
          cases hopen : s.openTrade with
          | some trade =>
              rw [hopen] at h
              obtain rfl := Except.ok.inj h
              exact manageTrade_tradeStep hopen _ rfl
          | none =>
              rw [hopen] at h
              dsimp only at h
              split at h
              · cases hspread : item dataset.spreads barIndex with
                | error e =>
                    rw [hspread] at h
                    cases h
                | ok record =>
                    rw [hspread] at h
                    obtain rfl := Except.ok.inj h
                    exact .opens _ hopen rfl rfl rfl (entryBars_append _ _)
              · obtain rfl := Except.ok.inj h
                exact .keeps rfl hopen.symm
                  ((entryBars_append _ _).trans (List.append_nil _))

theorem closings_of_linked {evaluations : List BarEvaluation}
    {trades : List BacktestTradeEvent} {closed rest : List Nat}
    (hlength : closed.length = trades.length)
    (hentries : entryBars evaluations = closed ++ rest) :
    closings evaluations trades = List.zipWith closing closed trades := by
  have happend := @List.zipWith_append _ _ _ closing closed rest trades [] hlength
  rw [List.append_nil, List.zipWith_nil_right, List.append_nil] at happend
  rw [closings, hentries, happend]

theorem closing_closings {evaluations : List BarEvaluation} {trades : List BacktestTradeEvent}
    {closed : List Nat} {entry : Nat} {event : BacktestTradeEvent}
    (hlength : closed.length = trades.length)
    (hentries : entryBars evaluations = closed ++ [entry]) :
    closings evaluations (trades ++ [event]) =
      closings evaluations trades ++ [closing entry event] := by
  rw [closings_of_linked hlength hentries, closings, hentries,
    List.zipWith_append hlength]
  rfl

theorem TradeStep.closings (hstep : TradeStep barIndex s s') (hlinked : s.Linked) :
    s'.Linked ∧
      (Backtest.closings s'.evaluations s'.trades =
          Backtest.closings s.evaluations s.trades ∨
        ∃ event : BacktestTradeEvent, event.exitReason ≠ .exitEndOfWindow ∧
          Backtest.closings s'.evaluations s'.trades =
            Backtest.closings s.evaluations s.trades ++ [((barIndex : Int), event)]) := by
  obtain ⟨closed, hlength, hentriesAt⟩ := hlinked
  cases hstep with
  | keeps htrades hopen hentries =>
      refine ⟨⟨closed, htrades ▸ hlength, ?_⟩, Or.inl ?_⟩
      · rw [hentries, hentriesAt, hopen]
      · rw [Backtest.closings, Backtest.closings, hentries, htrades]
  | closes trade event hopen hnone htrades hheld hreason hentries =>
      rw [hopen] at hentriesAt
      have hlength' : (closed ++ [trade.entryBar]).length = s'.trades.length := by
        rw [htrades, List.length_append, List.length_append, hlength]
        rfl
      have hentries' : entryBars s'.evaluations = (closed ++ [trade.entryBar]) ++ [] := by
        rw [hentries, hentriesAt, List.append_nil]
        rfl
      refine ⟨⟨_, hlength', by rw [hnone]; exact hentries'⟩, Or.inr ⟨event, hreason, ?_⟩⟩
      have hadd := @closing_closings _ _ _ _ event hlength hentriesAt
      rw [closing, hheld, add_sub_cancel] at hadd
      rw [Backtest.closings, hentries, htrades]
      exact hadd
  | opens trade hnone hopen hbar htrades hentries =>
      rw [hnone] at hentriesAt
      have hentries' : entryBars s'.evaluations = closed ++ [barIndex] := by
        rw [hentries, hentriesAt]
        simp
      refine ⟨⟨closed, htrades ▸ hlength, by rw [hopen, hentries', ← hbar]; rfl⟩, Or.inl ?_⟩
      rw [closings_of_linked (htrades ▸ hlength) hentries',
        closings_of_linked hlength hentriesAt, htrades]

variable (dataset exitPolicy options)

/-- The local variables of a run in front of a bar. -/
def stateBefore (k : Nat) : Except IndexError BacktestState :=
  (List.range' dataset.warmupBars.toNat
    (min k dataset.candles.length - dataset.warmupBars.toNat)).foldlM
      (backtestStep dataset exitPolicy options) {}

variable {dataset exitPolicy options}

/-- The loop goes through the bars before bar `k` and then through later ones. -/
theorem evaluatedBars_split (hvalid : dataset.Valid) (k : Nat) :
    ∃ start count, evaluatedBars dataset =
        List.range' dataset.warmupBars.toNat
          (min k dataset.candles.length - dataset.warmupBars.toNat) ++
          List.range' start count ∧
      ∀ i, start ≤ i → i < start + count → k ≤ i := by
  obtain ⟨hwarmup, hlast⟩ := hvalid.checks.1
  refine ⟨dataset.warmupBars.toNat +
      (min k dataset.candles.length - dataset.warmupBars.toNat),
    dataset.candles.length - dataset.warmupBars.toNat -
      (min k dataset.candles.length - dataset.warmupBars.toNat), ?_, ?_⟩
  · rw [List.range'_append_1, evaluatedBars]
    congr 1
    omega
  · intro i hstart hcount
    omega

theorem stateBefore_closings (h : stateBefore dataset exitPolicy options k = .ok s) :
    s.Linked ∧ ∀ c ∈ closings s.evaluations s.trades, closedEarly k c := by
  refine @foldlM_invariant _ _ (backtestStep dataset exitPolicy options)
    (fun _ s => s.Linked ∧ ∀ c ∈ closings s.evaluations s.trades, closedEarly k c) _ _ _ s
    ⟨⟨[], rfl, rfl⟩, fun c hc => absurd hc List.not_mem_nil⟩ ?_ h
  intro i s s' hstart hcount hinv hstep
  obtain ⟨hlinked, hclosings⟩ := (backtestStep_tradeStep hstep).closings hinv.1
  refine ⟨hlinked, ?_⟩
  intro c hc
  rcases hclosings with hsame | ⟨event, hreason, hadd⟩
  · rw [hsame] at hc
    exact hinv.2 c hc
  · rw [hadd, List.mem_append, List.mem_singleton] at hc
    rcases hc with hc | rfl
    · exact hinv.2 c hc
    · have hlt : i < k := by omega
      simp [closedEarly, hlt, hreason]

theorem laterBars_closings
    (hlater : ∀ i, start ≤ i → i < start + count → k ≤ i) (hlinked : s.Linked)
    (hrun : (List.range' start count).foldlM (backtestStep dataset exitPolicy options) s =
      .ok s') :
    s'.Linked ∧ (closings s'.evaluations s'.trades).filter (closedEarly k) =
      (closings s.evaluations s.trades).filter (closedEarly k) := by
  refine @foldlM_invariant _ _ (backtestStep dataset exitPolicy options)
    (fun _ s' => s'.Linked ∧ (closings s'.evaluations s'.trades).filter (closedEarly k) =
      (closings s.evaluations s.trades).filter (closedEarly k)) _ _ _ s'
    ⟨hlinked, rfl⟩ ?_ hrun
  intro i s₁ s₂ hstart hcount hinv hstep
  obtain ⟨hlinked₂, hclosings⟩ := (backtestStep_tradeStep hstep).closings hinv.1
  refine ⟨hlinked₂, ?_⟩
  rcases hclosings with hsame | ⟨event, hreason, hadd⟩
  · rw [hsame]
    exact hinv.2
  · have hlate : k ≤ i := hlater i hstart hcount
    have hnot : closedEarly k ((i : Int), event) = false := by
      simp [closedEarly, hlate]
    rw [hadd, List.filter_append, hinv.2]
    simp [hnot]

theorem endOfWindow_closings {trade : OpenPaperTrade} {exitPrice : ℚ}
    (hlinked : s.Linked) (hopen : s.openTrade = some trade) :
    (closings s.evaluations
        (s.closeTrade options trade .exitEndOfWindow exitPrice lastIndex).trades).filter
          (closedEarly k) =
      (closings s.evaluations s.trades).filter (closedEarly k) := by
  obtain ⟨closed, hlength, hentries⟩ := hlinked
  rw [hopen] at hentries
  have hadd := fun event => @closing_closings _ _ _ _ event hlength hentries
  unfold BacktestState.closeTrade
  dsimp only
  rw [hadd, List.filter_append]
  simp [closing, closedEarly]

theorem map_snd_closing {closed : List Nat} {trades : List BacktestTradeEvent}
    (hlength : closed.length = trades.length) :
    (List.zipWith closing closed trades).map Prod.snd = trades := by
  induction closed generalizing trades with
  | nil => rw [List.length_eq_zero_iff.mp hlength.symm, List.zipWith_nil_left, List.map_nil]
  | cons entry closed ih =>
      obtain ⟨trade, rest, rfl⟩ := List.exists_cons_of_length_eq_add_one hlength.symm
      rw [List.zipWith_cons_cons, List.map_cons, ih (Nat.succ.inj hlength)]
      rfl

theorem runBars_closings (hrun : runBars dataset exitPolicy options = .ok state) :
    ∃ looped, (evaluatedBars dataset).foldlM (backtestStep dataset exitPolicy options) {} =
        .ok looped ∧
      (looped.Linked → (closings state.evaluations state.trades).filter (closedEarly k) =
        (closings looped.evaluations looped.trades).filter (closedEarly k)) := by
  unfold runBars at hrun
  cases hloop : (evaluatedBars dataset).foldlM (backtestStep dataset exitPolicy options) {} with
  | error e =>
      rw [hloop] at hrun
      cases hrun
  | ok looped =>
      rw [hloop] at hrun
      refine ⟨looped, rfl, fun hlinked => ?_⟩
      dsimp only [bind, Except.bind] at hrun
      cases hopen : looped.openTrade with
      | none =>
          rw [hopen] at hrun
          rw [← Except.ok.inj hrun]
      | some trade =>
          rw [hopen] at hrun
          dsimp only at hrun
          split at hrun
          · cases hlast : item dataset.candles (dataset.candles.length - 1) with
            | error e =>
                rw [hlast] at hrun
                cases hrun
            | ok last =>
                rw [hlast] at hrun
                rw [← Except.ok.inj hrun]
                exact endOfWindow_closings hlinked hopen
          · rw [← Except.ok.inj hrun]

/-- **The trades of a run that were closed before a bar are those of its state in front of
that bar.** -/
theorem closedBefore_eq (hvalid : dataset.Valid) {result : BacktestRunResult}
    (hresult : runSyntheticBacktest dataset exitPolicy options = .ok result) (k : Nat) :
    ∃ s, stateBefore dataset exitPolicy options k = .ok s ∧
      result.closedBefore k = s.trades := by
  have hstatus : ¬ (validateBacktestDataset dataset).status ∉ datasetValidStatuses :=
    fun hnot => hnot hvalid
  unfold runSyntheticBacktest at hresult
  simp only [if_neg hstatus] at hresult
  cases hrun : runBars dataset exitPolicy options with
  | error e =>
      rw [hrun] at hresult
      cases hresult
  | ok state =>
      rw [hrun] at hresult
      obtain rfl := Except.ok.inj hresult
      obtain ⟨looped, hloop, hclosings⟩ := runBars_closings (k := k) hrun
      obtain ⟨start, count, hbars, hlater⟩ := evaluatedBars_split hvalid k
      rw [hbars, List.foldlM_append] at hloop
      cases hbefore : stateBefore dataset exitPolicy options k with
      | error e =>
          rw [stateBefore] at hbefore
          rw [hbefore] at hloop
          cases hloop
      | ok s =>
          have hrest : (List.range' start count).foldlM
              (backtestStep dataset exitPolicy options) s = .ok looped := by
            rw [stateBefore] at hbefore
            rw [hbefore] at hloop
            exact hloop
          obtain ⟨hlinked, hearly⟩ := stateBefore_closings hbefore
          obtain ⟨hlinkedLoop, hsame⟩ := laterBars_closings hlater hlinked hrest
          refine ⟨s, rfl, ?_⟩
          obtain ⟨closed, hlength, hentries⟩ := hlinked
          show ((closings state.evaluations state.trades).filter (closedEarly k)).map
            Prod.snd = s.trades
          rw [hclosings hlinkedLoop, hsame, List.filter_eq_self.mpr hearly,
            closings_of_linked hlength hentries]
          exact map_snd_closing hlength

theorem AgreeBefore.item {α : Type} {xs ys : List α}
    (h : Library.Series.AgreeBefore k xs ys) (hi : i < k) : item xs i = item ys i := by
  rw [Backtest.item, Backtest.item, h.getElem? hi]

theorem AgreeBefore.closesUpTo (h : d₁.AgreeBefore k d₂) (hi : i < k) :
    closesUpTo d₁ i = closesUpTo d₂ i := by
  have hcandles : d₁.candles.take (i + 1) = d₂.candles.take (i + 1) := h.candles.mono hi
  rw [Backtest.closesUpTo, Backtest.closesUpTo, hcandles]

/-- **Step lemma.** Before the bar at which the datasets part, a bar does the same in both
runs. -/
theorem backtestStep_agree (h : d₁.AgreeBefore k d₂) (hi : i < k) (s : BacktestState) :
    backtestStep d₁ exitPolicy options s i = backtestStep d₂ exitPolicy options s i := by
  have hinput : convertBarToSignalInput d₁ i s.openTrade.isSome options.environment =
      convertBarToSignalInput d₂ i s.openTrade.isSome options.environment := by
    unfold convertBarToSignalInput
    rw [AgreeBefore.item h.spreads hi, AgreeBefore.item h.sessions hi,
      AgreeBefore.closesUpTo h hi]
  have hmanage : ∀ trade candle,
      s.manageTrade d₁ exitPolicy options trade candle i =
        s.manageTrade d₂ exitPolicy options trade candle i := by
    intro trade candle
    unfold BacktestState.manageTrade
    rw [AgreeBefore.closesUpTo h hi]
  unfold backtestStep
  rw [AgreeBefore.item h.candles hi, hinput, AgreeBefore.item h.spreads hi]
  simp only [hmanage]

/-- **Run lemma.** Two runs are in the same state until their datasets part. -/
theorem stateBefore_agree (h : d₁.AgreeBefore k d₂) (hwarmup : d₁.warmupBars = d₂.warmupBars) :
    stateBefore d₁ exitPolicy options k = stateBefore d₂ exitPolicy options k := by
  unfold stateBefore
  rw [hwarmup, h.candles.min_length]
  refine foldlM_agree _ ?_
  intro i hi s
  rw [List.mem_range'_1] at hi
  exact backtestStep_agree h (by omega) s

/-- **The backtest does not look ahead.**  Two runs over valid datasets with the same warmup
that agree before bar `k` close the same trades before it, the end of the window apart, and
have the same trade open there. -/
theorem run_does_not_look_ahead (hvalid₁ : d₁.Valid) (hvalid₂ : d₂.Valid)
    (hwarmup : d₁.warmupBars = d₂.warmupBars) (hagree : d₁.AgreeBefore k d₂) :
    ∃ r₁ r₂ s₁ s₂, runSyntheticBacktest d₁ exitPolicy options = .ok r₁ ∧
      runSyntheticBacktest d₂ exitPolicy options = .ok r₂ ∧
      r₁.closedBefore k = r₂.closedBefore k ∧
      stateBefore d₁ exitPolicy options k = .ok s₁ ∧
      stateBefore d₂ exitPolicy options k = .ok s₂ ∧ s₁.openTrade = s₂.openTrade := by
  obtain ⟨r₁, hrun₁, -⟩ := @run_reads_every_bar d₁ exitPolicy options hvalid₁
  obtain ⟨r₂, hrun₂, -⟩ := @run_reads_every_bar d₂ exitPolicy options hvalid₂
  obtain ⟨s₁, hs₁, hclosed₁⟩ := closedBefore_eq hvalid₁ hrun₁ k
  obtain ⟨s₂, hs₂, hclosed₂⟩ := closedBefore_eq hvalid₂ hrun₂ k
  have hsame : s₁ = s₂ :=
    Except.ok.inj (hs₁.symm.trans ((stateBefore_agree hagree hwarmup).trans hs₂))
  refine ⟨r₁, r₂, s₁, s₂, hrun₁, hrun₂, ?_, hs₁, hs₂, by rw [hsame]⟩
  rw [hclosed₁, hclosed₂, hsame]

end Causality

namespace Sample

/-- The rising minutes, and one more that falls. -/
def longer : BacktestDataset :=
  { aligned with
    candles := aligned.candles ++
      [{ timestamp := 360, openValue := 156, highValue := 156, lowValue := 140,
         closeValue := 140 }]
    spreads := aligned.spreads ++ [spread 6 .spreadCategoryNormal (1 / 100)]
    sessions := aligned.sessions ++ [session 6] }

end Sample

theorem longer_run_does_not_look_ahead :
    ∃ r₁ r₂ s₁ s₂, runSyntheticBacktest Sample.aligned Sample.exitPolicy {} = .ok r₁ ∧
      runSyntheticBacktest Sample.longer Sample.exitPolicy {} = .ok r₂ ∧
      r₁.closedBefore 6 = r₂.closedBefore 6 ∧
      stateBefore Sample.aligned Sample.exitPolicy {} 6 = .ok s₁ ∧
      stateBefore Sample.longer Sample.exitPolicy {} 6 = .ok s₂ ∧
      s₁.openTrade = s₂.openTrade :=
  run_does_not_look_ahead (by decide +kernel) (by decide +kernel) rfl
    ⟨by decide +kernel, by decide +kernel, by decide +kernel⟩

end FxStrategyLab.Backtest
