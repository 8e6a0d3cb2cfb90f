import FxStrategyLab.Redesign.QuotedFills

/-!
# Redesign runs before any cost

A play is a trade as the market gives it: its bars, its side, the reason of its exit, the move
of its prices and the spread of its entry bar.  `playRun` is the redesign backtest on plays; it
knows no multiplier and no slippage.  A run of the source prices the plays.

**Results.** `runRedesignBacktest_priced`, and `entrySpread_nonneg` for datasets whose spreads
are not negative.
-/

namespace FxStrategyLab.Redesign

open Backtest (BacktestDataset BacktestCandleRecord BacktestSpreadRecord BacktestExitReason
  PaperSide)
open Library.Series (indices bind_eq_ok foldlM_image foldlM_preserves)

/-- An open trade before any cost. -/
structure OpenPlay where
  side : PaperSide
  entryClose : ℚ
  entryBar : Int
  entrySpread : ℚ
  tpDistance : ℚ
  slDistance : ℚ

/-- A closed trade before any cost. -/
structure Play where
  bar : Int
  side : PaperSide
  exitReason : BacktestExitReason
  holdDurationBars : Int
  move : ℚ
  entrySpread : ℚ

/-- What a run on plays keeps from bar to bar. -/
structure PlayState where
  plays : List Play := []
  openPlay : Option OpenPlay := none
  oppositeStreak : Int := 0
  sideState : Int
  entrySideLabels : List RedesignEntrySide := []
  blockReasons : List String := []

def PlayState.close (state : PlayState) (play : OpenPlay) (reason : BacktestExitReason)
    (exitPrice : ℚ) (bar : Int) : PlayState :=
  { state with
    plays := state.plays ++
      [{ bar
         side := play.side
         exitReason := reason
         holdDurationBars := bar - play.entryBar
         move := (exitPrice - play.entryClose) * play.side.direction
         entrySpread := play.entrySpread }]
    openPlay := none }

def OpenPlay.exit (play : OpenPlay) (exitConfig : RedesignExitConfig)
    (candle : BacktestCandleRecord) (spread : BacktestSpreadRecord) (streak bar : Int) :
    Option (BacktestExitReason × ℚ) :=
  let touch := exitTouch play.side candle.highValue candle.lowValue play.entryClose
    play.slDistance play.tpDistance (spread.spreadValue.getD 0)
  if touch.1 then some (.exitStopLoss, play.entryClose - play.side.direction * play.slDistance)
  else if touch.2 then
    some (.exitTakeProfit, play.entryClose + play.side.direction * play.tpDistance)
  else if exitConfig.maxHoldBars ≤ bar - play.entryBar then some (.exitMaxHold, candle.closeValue)
  else if exitConfig.oppositeDebounceBars ≤ streak then
    some (.exitOppositeSignal, candle.closeValue)
  else none

section Run

variable (dataset : BacktestDataset) (candidate : RedesignCandidate) (seed : Option Int)

variable (state : PlayState)

def PlayState.manage (play : OpenPlay) (candle : BacktestCandleRecord)
    (spread : BacktestSpreadRecord) (features : RedesignFeatures) (bar : Int) : PlayState :=
  let streak := if opposes play.side features.trend then state.oppositeStreak + 1 else 0
  match play.exit candidate.exitConfig candle spread streak bar with
  | none => { state with oppositeStreak := streak }
  | some (reason, price) =>
      { state with oppositeStreak := streak }.close play reason price bar

def PlayState.enter (decision : RedesignEntryDecision)
    (candle : BacktestCandleRecord) (spread : BacktestSpreadRecord)
    (features : RedesignFeatures) (bar : Int) : PlayState :=
  let (sideState, side) := entrySideOf (plainOptions seed) decision state.sideState
  { state with
    openPlay := some
      { side
        entryClose := candle.closeValue
        entryBar := bar
        entrySpread := spread.spreadValue.getD 0
        tpDistance := candidate.exitConfig.tpAtrMult * features.atrLike
        slDistance := candidate.exitConfig.slAtrMult * features.atrLike }
    oppositeStreak := 0
    sideState }

/-- The label and the block reason of a decision. -/
def PlayState.note (decision : RedesignEntryDecision) : PlayState :=
  { state with
    entrySideLabels := state.entrySideLabels ++ [decision.entrySide]
    blockReasons := state.blockReasons ++
      (if decision.blockReasonSafeLabel = "" then [] else [decision.blockReasonSafeLabel]) }

/-- A decision leads to a play, unless it has no side or the regime turns the bar down. -/
def PlayState.follow (flags : Option (List Bool))
    (decision : RedesignEntryDecision) (candle : BacktestCandleRecord)
    (spread : BacktestSpreadRecord) (features : RedesignFeatures) (bar : Int) :
    Except RunError PlayState :=
  if decision.entrySide = .redesignNoEntry then .ok state
  else do
    let flag ← flagAt flags bar
    if flag.any (regimeBlocks candidate.volRegimeMode) then
      return { state with blockReasons := state.blockReasons ++ ["REDESIGN_BLOCK_VOL_REGIME"] }
    else return state.enter candidate seed decision candle spread features bar

def PlayState.decide (flags : Option (List Bool))
    (candle : BacktestCandleRecord) (features : RedesignFeatures) (bar : Int) :
    Except RunError PlayState := do
  let hour ← barJstHour candle.timestamp
  let spread ← item dataset.spreads bar
  let session ← item dataset.sessions bar
  let decision := redesignEntryDecision candidate.family features
    (spreadWithin spread.spreadCategory)
    (session.sessionSafeLabel = .sessionAllowed)
    (hour = some candidate.featureConfig.sessionOpenJstHour)
  (state.note decision).follow candidate seed flags decision candle spread features bar

def playStep (flags : Option (List Bool)) (state : PlayState) (bar : Int) :
    Except RunError PlayState := do
  let candle ← item dataset.candles bar
  let features ← featuresAt dataset candidate.featureConfig bar
  match state.openPlay with
  | some play => do
      let spread ← item dataset.spreads bar
      return state.manage candidate play candle spread features bar
  | none => state.decide dataset candidate seed flags candle features bar

/-- A play that is still open behind the loop closes at the last candle. -/
def closePlayAtEnd : Except RunError PlayState :=
  match state.openPlay with
  | none => .ok state
  | some play => do
      let lastIndex : Int := dataset.candles.length - 1
      let last ← item dataset.candles lastIndex
      return state.close play .exitEndOfWindow last.closeValue lastIndex

def playRun : Except RunError PlayState := do
  let flags ← regimeFlags dataset candidate
  let looped ← (indices dataset.warmupBars dataset.candles.length).foldlM
    (playStep dataset candidate seed flags) { sideState := seed.getD 0 % 2147483648 }
  closePlayAtEnd dataset looped

end Run

section Prices

variable (options : RedesignOptions)

def RedesignOptions.charge (spread : ℚ) : ℚ :=
  if options.spreadIncluded then spread * options.spreadCostMultiplier else 0

def Play.net (play : Play) : ℚ :=
  play.move - options.charge play.entrySpread - 2 * options.slippagePricePerSide

def OpenPlay.priced (play : OpenPlay) : OpenRedesignTrade where
  side := play.side
  entryClose := play.entryClose
  entryBar := play.entryBar
  spreadCost := options.charge play.entrySpread
  tpDistance := play.tpDistance
  slDistance := play.slDistance

def Play.priced (index : Nat) (play : Play) : ClosedTrade where
  bar := play.bar
  event :=
    { tradeIndex := index
      side := play.side
      entrySignal := if play.side = .paperLong then .redesignEntryLong else .redesignEntryShort
      exitReason := play.exitReason
      holdDurationBars := play.holdDurationBars
      syntheticPnlValue := play.net options
      syntheticSpreadCostValue := options.charge play.entrySpread }

def PlayState.priced (state : PlayState) : RedesignState where
  trades := state.plays.mapIdx (Play.priced options)
  openTrade := state.openPlay.map (OpenPlay.priced options)
  oppositeStreak := state.oppositeStreak
  sideState := state.sideState
  entrySideLabels := state.entrySideLabels
  blockReasons := state.blockReasons

def PlayState.result (dataset : BacktestDataset) (state : PlayState) : RedesignRunResult where
  barsProcessed := dataset.candles.length - dataset.warmupBars
  closings := state.plays.mapIdx (Play.priced options)
  entrySideLabels := state.entrySideLabels
  blockReasons := state.blockReasons
  spreadIncluded := options.spreadIncluded

end Prices

section Refinement

variable (dataset : BacktestDataset) (candidate : RedesignCandidate) (options : RedesignOptions)
  (flags : Option (List Bool))

variable (state : PlayState)

theorem close_priced (play : OpenPlay) (reason : BacktestExitReason) (price : ℚ) (bar : Int) :
    (state.priced options).close options (play.priced options) reason price bar =
      (state.close play reason price bar).priced options := by
  simp only [RedesignState.close, PlayState.close, PlayState.priced, List.mapIdx_append,
    List.length_mapIdx, List.mapIdx_cons, List.mapIdx_nil, Nat.zero_add]
  rfl

theorem manage_priced (play : OpenPlay) (candle : BacktestCandleRecord)
    (spread : BacktestSpreadRecord) (features : RedesignFeatures) (bar : Int) :
    (state.priced options).manage candidate options (play.priced options) candle spread features
        bar =
      (state.manage candidate play candle spread features bar).priced options := by
  have hexit : exitOf candidate (state.priced options) (play.priced options) candle spread
      features bar =
      play.exit candidate.exitConfig candle spread
        (if opposes play.side features.trend then state.oppositeStreak + 1 else 0) bar := rfl
  rw [manage_eq, hexit]
  unfold PlayState.manage
  dsimp only
  cases play.exit candidate.exitConfig candle spread
      (if opposes play.side features.trend then state.oppositeStreak + 1 else 0) bar with
  | none => rfl
  | some exit =>
      obtain ⟨reason, price⟩ := exit
      exact close_priced options
        { state with
          oppositeStreak := if opposes play.side features.trend then state.oppositeStreak + 1 else 0 }
        play reason price bar

theorem follow_priced (decision : RedesignEntryDecision)
    (candle : BacktestCandleRecord) (spread : BacktestSpreadRecord) (features : RedesignFeatures)
    (bar : Int) :
    (state.priced options).follow candidate options flags decision candle spread features bar =
      (state.follow candidate options.randomizeSideSeed flags decision candle spread features
        bar).map (PlayState.priced options) := by
  unfold RedesignState.follow PlayState.follow
  by_cases hside : decision.entrySide = .redesignNoEntry
  · simp [hside, Except.map]
  · cases hflag : flagAt flags bar with
    | error e => simp [hside, Except.map, bind, Except.bind]
    | ok flag =>
        simp only [hside, if_false, bind, Except.bind]
        by_cases hblocked : flag.any (regimeBlocks candidate.volRegimeMode) = true
        · simp [hblocked, Except.map, PlayState.priced, pure, Except.pure]
        · simp only [hblocked]
          rfl

theorem decide_priced (candle : BacktestCandleRecord) (features : RedesignFeatures) (bar : Int) :
    (state.priced options).decide dataset candidate options flags candle features bar =
      (state.decide dataset candidate options.randomizeSideSeed flags candle features bar).map
        (PlayState.priced options) := by
  unfold RedesignState.decide PlayState.decide
  cases barJstHour candle.timestamp with
  | error e => rfl
  | ok hour =>
      cases item dataset.spreads bar with
      | error e => rfl
      | ok spread =>
          cases item dataset.sessions bar with
          | error e => rfl
          | ok session =>
              exact follow_priced candidate options flags (PlayState.note state _) _ candle spread
                features bar

theorem redesignStep_priced (bar : Int) :
    redesignStep dataset candidate options flags (state.priced options) bar =
      (playStep dataset candidate options.randomizeSideSeed flags state bar).map
        (PlayState.priced options) := by
  unfold redesignStep playStep
  cases item dataset.candles bar with
  | error e => rfl
  | ok candle =>
      cases featuresAt dataset candidate.featureConfig bar with
      | error e => rfl
      | ok features =>
          cases hopen : state.openPlay with
          | none =>
              simp only [bind, Except.bind, PlayState.priced, hopen, Option.map_none]
              simpa [PlayState.priced, hopen] using
                decide_priced dataset candidate options flags state candle features bar
          | some play =>
              cases item dataset.spreads bar with
              | error e => simp [bind, Except.bind, PlayState.priced, hopen, Except.map]
              | ok spread =>
                  have hmanage := manage_priced candidate options state play candle spread
                    features bar
                  simpa [bind, Except.bind, PlayState.priced, hopen, Except.map, pure,
                    Except.pure] using hmanage

theorem closeAtEnd_priced :
    closeAtEnd dataset options (state.priced options) =
      (closePlayAtEnd dataset state).map (PlayState.priced options) := by
  unfold closeAtEnd closePlayAtEnd
  cases hopen : state.openPlay with
  | none => simp [PlayState.priced, hopen, Except.map]
  | some play =>
      simp only [PlayState.priced, hopen, Option.map_some]
      cases item dataset.candles ((dataset.candles.length : Int) - 1) with
      | error e => rfl
      | ok last =>
          have hclose := close_priced options state play .exitEndOfWindow last.closeValue
            (dataset.candles.length - 1)
          simp only [PlayState.priced, hopen, Option.map_some] at hclose
          exact congrArg Except.ok hclose

/-- **A run of the source prices the plays of the dataset**: neither the multiplier nor the
slippage has a part in them. -/
theorem runRedesignBacktest_priced :
    runRedesignBacktest dataset candidate options =
      (playRun dataset candidate options.randomizeSideSeed).map
        (PlayState.result options dataset) := by
  unfold runRedesignBacktest playRun
  cases regimeFlags dataset candidate with
  | error e => rfl
  | ok flags =>
      have hstart : startState options =
          PlayState.priced options
            { sideState := options.randomizeSideSeed.getD 0 % 2147483648 } := rfl
      have hloop := foldlM_image (redesignStep_priced dataset candidate options flags)
        (indices dataset.warmupBars dataset.candles.length)
        { sideState := options.randomizeSideSeed.getD 0 % 2147483648 }
      simp only [bind, Except.bind, hstart, hloop]
      cases (indices dataset.warmupBars dataset.candles.length).foldlM
          (playStep dataset candidate options.randomizeSideSeed flags)
          { sideState := options.randomizeSideSeed.getD 0 % 2147483648 } with
      | error e => rfl
      | ok looped =>
          simp only [Except.map, closeAtEnd_priced]
          cases closePlayAtEnd dataset looped with
          | error e => rfl
          | ok state => rfl

end Refinement

section Spreads

variable {dataset : BacktestDataset} {candidate : RedesignCandidate} {seed : Option Int}
  {flags : Option (List Bool)}

def SpreadsNonneg (dataset : BacktestDataset) : Prop :=
  ∀ record ∈ dataset.spreads, 0 ≤ record.spreadValue.getD 0

structure PlayState.Charged (state : PlayState) : Prop where
  plays : ∀ play ∈ state.plays, 0 ≤ play.entrySpread
  openPlay : ∀ play, state.openPlay = some play → 0 ≤ play.entrySpread

variable {state state' : PlayState} {bar : Int}

theorem PlayState.Charged.close {play : OpenPlay} {reason : BacktestExitReason}
    {price : ℚ} (hplays : ∀ play ∈ state.plays, 0 ≤ play.entrySpread)
    (hplay : 0 ≤ play.entrySpread) : (state.close play reason price bar).Charged := by
  constructor
  · intro closed hclosed
    rcases List.mem_append.mp hclosed with hold | hnew
    · exact hplays closed hold
    · rw [List.mem_singleton.mp hnew]
      exact hplay
  · intro still hstill
    cases hstill

theorem PlayState.Charged.manage {play : OpenPlay} {candle : BacktestCandleRecord}
    {spread : BacktestSpreadRecord} {features : RedesignFeatures}
    (h : state.Charged) (hopen : state.openPlay = some play) :
    (state.manage candidate play candle spread features bar).Charged := by
  unfold PlayState.manage
  dsimp only
  cases play.exit candidate.exitConfig candle spread
      (if opposes play.side features.trend then state.oppositeStreak + 1 else 0) bar with
  | none => exact ⟨h.plays, h.openPlay⟩
  | some exit => exact PlayState.Charged.close h.plays (h.openPlay play hopen)

theorem PlayState.Charged.follow {decision : RedesignEntryDecision}
    {candle : BacktestCandleRecord} {spread : BacktestSpreadRecord} {features : RedesignFeatures}
    (h : state.Charged) (hspread : 0 ≤ spread.spreadValue.getD 0)
    (hstep : state.follow candidate seed flags decision candle spread features bar = .ok state') :
    state'.Charged := by
  unfold PlayState.follow at hstep
  split_ifs at hstep with hside
  · exact Except.ok.inj hstep ▸ h
  · obtain ⟨flag, -, hrest⟩ := bind_eq_ok hstep
    split_ifs at hrest with hblocked
    · exact Except.ok.inj hrest ▸ ⟨h.plays, h.openPlay⟩
    · obtain rfl := Except.ok.inj hrest
      refine ⟨h.plays, fun play hplay => ?_⟩
      obtain rfl := Option.some.inj hplay
      exact hspread

theorem PlayState.Charged.step (hspreads : SpreadsNonneg dataset)
    (h : state.Charged) (hstep : playStep dataset candidate seed flags state bar = .ok state') :
    state'.Charged := by
  unfold playStep at hstep
  obtain ⟨candle, -, hstep⟩ := bind_eq_ok hstep
  obtain ⟨features, -, hstep⟩ := bind_eq_ok hstep
  cases hopen : state.openPlay with
  | some play =>
      simp only [hopen] at hstep
      obtain ⟨spread, -, hrest⟩ := bind_eq_ok hstep
      exact Except.ok.inj hrest ▸ h.manage hopen
  | none =>
      simp only [hopen] at hstep
      unfold PlayState.decide at hstep
      obtain ⟨hour, -, hstep⟩ := bind_eq_ok hstep
      obtain ⟨spread, hspread, hstep⟩ := bind_eq_ok hstep
      obtain ⟨session, -, hstep⟩ := bind_eq_ok hstep
      have hnoted : ∀ decision, (state.note decision).Charged := fun _ => ⟨h.plays, h.openPlay⟩
      exact (hnoted _).follow (hspreads spread (mem_of_item hspread)) hstep

/-- **No play of a run has a negative spread, where the dataset has none.** -/
theorem entrySpread_nonneg (hspreads : SpreadsNonneg dataset)
    (hrun : playRun dataset candidate seed = .ok state) :
    ∀ play ∈ state.plays, 0 ≤ play.entrySpread := by
  unfold playRun at hrun
  obtain ⟨flags, -, hrun⟩ := bind_eq_ok hrun
  obtain ⟨looped, hloop, hend⟩ := bind_eq_ok hrun
  have hlooped : looped.Charged := by
    refine foldlM_preserves ?_ (fun bar _ s s' h hs => h.step hspreads hs) hloop
    exact ⟨by simp, by simp⟩
  unfold closePlayAtEnd at hend
  cases hopen : looped.openPlay with
  | none =>
      simp only [hopen] at hend
      exact Except.ok.inj hend ▸ hlooped.plays
  | some play =>
      simp only [hopen] at hend
      obtain ⟨last, -, hrest⟩ := bind_eq_ok hend
      exact Except.ok.inj hrest ▸
        (PlayState.Charged.close hlooped.plays (hlooped.openPlay play hopen)).plays

end Spreads

end FxStrategyLab.Redesign
