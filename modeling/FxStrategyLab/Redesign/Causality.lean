import FxStrategyLab.Backtest.Causality
import FxStrategyLab.Redesign.Engine
import FxStrategyLab.Redesign.Regime

/-!
# What the redesign backtest sees of later bars

The regime flags are worked out over the whole series in front of the loop, but the flag of a
bar is one of the bars up to it.  A feature is one of the bars up to it as long as no lookback
reaches in front of the series: there a slice of Python counts from the end.

**Results.** `no_look_ahead` for the configurations whose fast average fits into the history
that `compute_redesign_features` asks for, or does not matter.
-/

namespace FxStrategyLab.Redesign

open Backtest (BacktestDataset BacktestCandleRecord BacktestSpreadRecord)
open Library.Series (AgreeBefore indices slice at? bind_eq_ok mapM_agree mem_indices
  foldlM_same foldlM_preserves foldlM_step_ok indices_split slice_nil slice_eq_nil)

section Causality

variable {d₁ d₂ : BacktestDataset} {candidate : RedesignCandidate} {options : RedesignOptions}
  {k : Nat}

variable {i a r : Int}

theorem item_agree {α : Type} {xs ys : List α} (h : AgreeBefore k xs ys)
    (hnonneg : 0 ≤ i) (hi : i < k) : item xs i = item ys i := by
  rw [item, item, h.at? hnonneg hi]

variable {highs₁ highs₂ lows₁ lows₂ ranges₁ ranges₂ closes : List ℚ}

theorem rangeAt_agree (hhighs : AgreeBefore k highs₁ highs₂) (hlows : AgreeBefore k lows₁ lows₂)
    (hnonneg : 0 ≤ i) (hi : i < k) : rangeAt highs₁ lows₁ i = rangeAt highs₂ lows₂ i := by
  rw [rangeAt, rangeAt, item_agree hhighs hnonneg hi, item_agree hlows hnonneg hi]

def fastAt (dataset : BacktestDataset) (config : RedesignFeatureConfig) (i : Int) : ℚ :=
  mean (slice (dataset.candles.map BacktestCandleRecord.closeValue) (i - config.smaFast + 1)
    (i + 1))

def slowAt (dataset : BacktestDataset) (config : RedesignFeatureConfig) (i : Int) : ℚ :=
  mean (slice (dataset.candles.map BacktestCandleRecord.closeValue) (i - config.smaSlow + 1)
    (i + 1))

def RedesignFeatures.withFast (features : RedesignFeatures) (config : RedesignFeatureConfig)
    (slow close fast : ℚ) : RedesignFeatures :=
  { features with
    trend := trendOf fast slow config.trendMarginRatio
    overextension :=
      overextensionOf (close - fast) (config.overextAtrMult * features.atrLike)
        features.atrLike }

variable {dataset : BacktestDataset} {config : RedesignFeatureConfig}

theorem featuresAt_unready
    (hi : i < config.need) : featuresAt dataset config i = .ok unreadyFeatures :=
  if_pos hi

theorem lookbacks_of_ready (hready : config.need ≤ i) :
    config.smaSlow ≤ i ∧ config.breakoutLookback ≤ i ∧ config.atrLookback ≤ i ∧
      config.momentumLookback + 1 ≤ i := by
  unfold RedesignFeatureConfig.need at hready
  omega

variable {features f g : RedesignFeatures}

theorem featuresAt_ok (hready : config.need ≤ i)
    (h : featuresAt dataset config i = .ok features) :
    ∃ close earlier breakout ranges,
      item (dataset.candles.map BacktestCandleRecord.closeValue) i = .ok close ∧
      item (dataset.candles.map BacktestCandleRecord.closeValue) (i - config.momentumLookback) =
        .ok earlier ∧
      breakoutOf close
        (slice (dataset.candles.map BacktestCandleRecord.highValue)
          (i - config.breakoutLookback) i)
        (slice (dataset.candles.map BacktestCandleRecord.lowValue)
          (i - config.breakoutLookback) i) = .ok breakout ∧
      (indices (i - config.atrLookback + 1) (i + 1)).mapM
        (rangeAt (dataset.candles.map BacktestCandleRecord.highValue)
          (dataset.candles.map BacktestCandleRecord.lowValue)) = .ok ranges ∧
      features =
        { trend := trendOf (fastAt dataset config i) (slowAt dataset config i)
            config.trendMarginRatio
          momentum := momentumOf (close - earlier)
          breakout
          overextension := overextensionOf (close - fastAt dataset config i)
            (config.overextAtrMult * mean ranges) (mean ranges)
          atrLike := mean ranges
          ready := true } := by
  unfold featuresAt computeRedesignFeatures at h
  rw [if_neg (by omega)] at h
  obtain ⟨close, hclose, h⟩ := bind_eq_ok h
  obtain ⟨earlier, hearlier, h⟩ := bind_eq_ok h
  obtain ⟨breakout, hbreakout, h⟩ := bind_eq_ok h
  obtain ⟨ranges, hranges, h⟩ := bind_eq_ok h
  exact ⟨close, earlier, breakout, ranges, hclose, hearlier, hbreakout, hranges,
    (Except.ok.inj h).symm⟩

theorem features_agree (hbreakout : 0 < config.breakoutLookback)
    (hmomentum : 0 ≤ config.momentumLookback) (hagree : d₁.AgreeBefore k d₂)
    (hready : config.need ≤ i) (hi : i < k)
    (hf : featuresAt d₁ config i = .ok f) (hg : featuresAt d₂ config i = .ok g) :
    ∃ close, item (d₁.candles.map BacktestCandleRecord.closeValue) i = .ok close ∧
      f.ready = true ∧ (config.atrLookback ≤ 0 → f.atrLike = 0) ∧
      f = f.withFast config (slowAt d₁ config i) close (fastAt d₁ config i) ∧
      g = f.withFast config (slowAt d₁ config i) close (fastAt d₂ config i) := by
  have hcloses := hagree.candles.map BacktestCandleRecord.closeValue
  have hhighs := hagree.candles.map BacktestCandleRecord.highValue
  have hlows := hagree.candles.map BacktestCandleRecord.lowValue
  obtain ⟨hslow, hlook, hatr, hmom⟩ := lookbacks_of_ready hready
  obtain ⟨close, earlier, breakout, ranges, hclose, hearlier, hbreak, hranges, rfl⟩ :=
    featuresAt_ok hready hf
  obtain ⟨close₂, earlier₂, breakout₂, ranges₂, hclose₂, hearlier₂, hbreak₂, hranges₂, rfl⟩ :=
    featuresAt_ok hready hg
  have hsame : ∀ j ∈ indices (i - config.atrLookback + 1) (i + 1),
      rangeAt (d₁.candles.map BacktestCandleRecord.highValue)
          (d₁.candles.map BacktestCandleRecord.lowValue) j =
        rangeAt (d₂.candles.map BacktestCandleRecord.highValue)
          (d₂.candles.map BacktestCandleRecord.lowValue) j := by
    intro j hj
    obtain ⟨hfirst, hlast⟩ := mem_indices.mp hj
    exact rangeAt_agree hhighs hlows (by omega) (by omega)
  have hslows : slowAt d₂ config i = slowAt d₁ config i := by
    rw [slowAt, slowAt,
      hcloses.slice (by omega : 0 ≤ i - config.smaSlow + 1) (by omega) (by omega)]
  rw [← item_agree hcloses (by omega : 0 ≤ i) hi, hclose] at hclose₂
  obtain rfl := Except.ok.inj hclose₂
  rw [← item_agree hcloses (by omega : 0 ≤ i - config.momentumLookback) (by omega),
    hearlier] at hearlier₂
  obtain rfl := Except.ok.inj hearlier₂
  rw [← hhighs.slice (by omega : 0 ≤ i - config.breakoutLookback) (by omega) (by omega),
    ← hlows.slice (by omega : 0 ≤ i - config.breakoutLookback) (by omega) (by omega),
    hbreak] at hbreak₂
  obtain rfl := Except.ok.inj hbreak₂
  rw [← mapM_agree hsame, hranges] at hranges₂
  obtain rfl := Except.ok.inj hranges₂
  refine ⟨close, hclose, rfl, ?_, rfl, by rw [hslows]; rfl⟩
  intro hempty
  have hnone : indices (i - config.atrLookback + 1) (i + 1) = [] := by
    have hcount : (i + 1 - (i - config.atrLookback + 1)).toNat = 0 := by omega
    rw [indices, hcount]
    rfl
  rw [hnone] at hranges
  obtain rfl := Except.ok.inj hranges
  rfl

theorem fastAt_agree (hagree : d₁.AgreeBefore k d₂)
    (hfast : config.smaFast ≤ i + 1) (hnonneg : 0 ≤ i) (hi : i < k) :
    fastAt d₁ config i = fastAt d₂ config i := by
  rw [fastAt, fastAt, (hagree.candles.map BacktestCandleRecord.closeValue).slice
    (by omega : 0 ≤ i - config.smaFast + 1) (by omega) (by omega)]

theorem sumBefore_agree (h : AgreeBefore k ranges₁ ranges₂)
    {i : Nat} (hi : i ≤ k) : sumBefore ranges₁ i = sumBefore ranges₂ i := by
  have htake : ranges₁.take i = ranges₂.take i := h.mono hi
  rw [sumBefore, sumBefore, htake]

theorem atrAt_agree {a : Nat} (h : AgreeBefore k ranges₁ ranges₂)
    {i : Nat} (hi : i < k) : atrAt ranges₁ a i = atrAt ranges₂ a i := by
  rw [atrAt, atrAt, sumBefore_agree h hi, sumBefore_agree h (by omega)]

theorem flagOf_agree {a r : Nat} (h : AgreeBefore k ranges₁ ranges₂)
    {i : Nat} (hi : i < k) : flagOf ranges₁ a r i = flagOf ranges₂ a r i := by
  unfold flagOf
  by_cases hri : r ≤ i
  · have hbase : baseline ranges₁ a r i = baseline ranges₂ a r i := by
      unfold baseline
      congr 1
      refine List.map_congr_left fun j hj => atrAt_agree h ?_
      rw [List.mem_range'_1] at hj
      omega
    rw [hbase, atrAt_agree h hi]
  · simp [hri]

theorem rangesOf_agree
    (hhighs : AgreeBefore k highs₁ highs₂) (hlows : AgreeBefore k lows₁ lows₂) :
    AgreeBefore k (rangesOf highs₁ lows₁) (rangesOf highs₂ lows₂) := by
  unfold Library.Series.AgreeBefore rangesOf
  rw [List.take_zipWith, List.take_zipWith, hhighs, hlows]

theorem flags_agree {flags₁ flags₂ : List Bool}
    (hlength₁ : highs₁.length = lows₁.length) (hlength₂ : highs₂.length = lows₂.length)
    (hhighs : AgreeBefore k highs₁ highs₂) (hlows : AgreeBefore k lows₁ lows₂)
    (hflags₁ : highVolRegimeFlags highs₁ lows₁ a r = .ok flags₁)
    (hflags₂ : highVolRegimeFlags highs₂ lows₂ a r = .ok flags₂) :
    AgreeBefore k flags₁ flags₂ := by
  have hmin := hhighs.min_length
  by_cases hempty : min k highs₁.length = 0
  · rcases Nat.min_eq_zero_iff.mp hempty with hk | hnone
    · subst hk
      rfl
    · rcases Nat.min_eq_zero_iff.mp (hmin ▸ hempty) with hk | hnone₂
      · subst hk
        rfl
      · obtain rfl := List.length_eq_zero_iff.mp hnone
        obtain rfl := List.length_eq_zero_iff.mp hnone₂
        obtain rfl := List.length_eq_zero_iff.mp hlength₁.symm
        obtain rfl := List.length_eq_zero_iff.mp hlength₂.symm
        rw [hflags₁] at hflags₂
        rw [Except.ok.inj hflags₂]
        rfl
  · obtain ⟨ha, hr⟩ := lookbacks_pos_of_flags hlength₁ (by omega) hflags₁
    obtain ⟨a, rfl⟩ := Int.eq_ofNat_of_zero_le ha.le
    obtain ⟨r, rfl⟩ := Int.eq_ofNat_of_zero_le hr.le
    rw [highVolRegimeFlags_eq (by omega) (by omega) hlength₁] at hflags₁
    rw [highVolRegimeFlags_eq (by omega) (by omega) hlength₂] at hflags₂
    rw [← Except.ok.inj hflags₁, ← Except.ok.inj hflags₂]
    unfold Library.Series.AgreeBefore
    rw [← List.map_take, ← List.map_take, List.take_range, List.take_range, hmin]
    refine List.map_congr_left fun i hi => flagOf_agree (rangesOf_agree hhighs hlows) ?_
    rw [List.mem_range] at hi
    omega

def FlagsAgree (k : Nat) : Option (List Bool) → Option (List Bool) → Prop
  | some flags₁, some flags₂ => AgreeBefore k flags₁ flags₂
  | none, none => True
  | _, _ => False

variable {flags₁ flags₂ flags : Option (List Bool)}

theorem flagAt_agree (h : FlagsAgree k flags₁ flags₂)
    (hnonneg : 0 ≤ i) (hi : i < k) : flagAt flags₁ i = flagAt flags₂ i := by
  match flags₁, flags₂, h with
  | some flags₁, some flags₂, h =>
      rw [flagAt, flagAt, item_agree h hnonneg hi]
  | none, none, _ => rfl

theorem regimeFlags_agree (hagree : d₁.AgreeBefore k d₂)
    (h₁ : regimeFlags d₁ candidate = .ok flags₁) (h₂ : regimeFlags d₂ candidate = .ok flags₂) :
    FlagsAgree k flags₁ flags₂ := by
  unfold regimeFlags at h₁ h₂
  by_cases hmode : candidate.volRegimeMode ≠ "OFF"
  · rw [if_pos hmode] at h₁ h₂
    obtain ⟨worked₁, hworked₁, hsome₁⟩ := bind_eq_ok h₁
    obtain ⟨worked₂, hworked₂, hsome₂⟩ := bind_eq_ok h₂
    obtain rfl := Except.ok.inj hsome₁
    obtain rfl := Except.ok.inj hsome₂
    exact flags_agree (by simp) (by simp) (hagree.candles.map _) (hagree.candles.map _)
      hworked₁ hworked₂
  · rw [if_neg hmode] at h₁ h₂
    obtain rfl := Except.ok.inj h₁
    obtain rfl := Except.ok.inj h₂
    trivial

/-- A decision reads the trend only with a positive ATR, and the overextension only in a
range. -/
theorem decision_agree (hready : f.ready = g.ready)
    (hatr : f.atrLike = g.atrLike) (hmomentum : f.momentum = g.momentum)
    (hbreakout : f.breakout = g.breakout)
    (h : f.atrLike ≤ 0 ∨ f.trend = g.trend ∧ (f.trend = .range →
      f.overextension = g.overextension)) (family : RedesignEntryFamily)
    (spreadWithinLimit sessionAllowed isSessionOpenBar : Bool) :
    redesignEntryDecision family f spreadWithinLimit sessionAllowed isSessionOpenBar =
      redesignEntryDecision family g spreadWithinLimit sessionAllowed isSessionOpenBar := by
  unfold redesignEntryDecision
  rw [← hready, ← hatr]
  by_cases hflat : f.atrLike ≤ 0
  · simp [hflat]
  · obtain ⟨htrend, hover⟩ := h.resolve_left hflat
    have hrule : familyRule family f isSessionOpenBar = familyRule family g isSessionOpenBar := by
      unfold familyRule
      rw [← htrend, ← hmomentum, ← hbreakout]
      by_cases hrange : f.trend = .range
      · rw [hover hrange]
      · simp [hrange]
    rw [hrule]

variable {s s' s₁ s₂ : RedesignState}

/-- **Step lemma.** A bar does the same in both runs, if its features lead to the same
decision. -/
theorem redesignStep_agree (hagree : d₁.AgreeBefore k d₂) (hflags : FlagsAgree k flags₁ flags₂)
    (hnonneg : 0 ≤ i) (hi : i < k) (hf : featuresAt d₁ candidate.featureConfig i = .ok f)
    (hg : featuresAt d₂ candidate.featureConfig i = .ok g) (hatr : f.atrLike = g.atrLike)
    (hdecision : ∀ spreadWithinLimit sessionAllowed isSessionOpenBar,
      redesignEntryDecision candidate.family f spreadWithinLimit sessionAllowed
          isSessionOpenBar =
        redesignEntryDecision candidate.family g spreadWithinLimit sessionAllowed
          isSessionOpenBar)
    (htrend : s.openTrade = none ∨ f.trend = g.trend) :
    redesignStep d₁ candidate options flags₁ s i =
      redesignStep d₂ candidate options flags₂ s i := by
  unfold redesignStep
  rw [item_agree hagree.candles hnonneg hi, hf, hg]
  refine bind_congr fun candle => ?_
  cases hopen : s.openTrade with
  | none =>
      simp only [bind, Except.bind]
      unfold RedesignState.decide RedesignState.follow RedesignState.enter
      rw [item_agree hagree.spreads hnonneg hi, item_agree hagree.sessions hnonneg hi,
        flagAt_agree hflags hnonneg hi]
      simp only [hdecision, hatr]
  | some trade =>
      have hsame : f.trend = g.trend := htrend.resolve_left (by simp [hopen])
      simp only [bind, Except.bind]
      unfold RedesignState.manage
      rw [item_agree hagree.spreads hnonneg hi, hsame]

/-- A bar without the history for its features is noted as such. -/
def RedesignState.noteUnready (s : RedesignState) : RedesignState :=
  { s with
    entrySideLabels := s.entrySideLabels ++ [.redesignNoEntry]
    blockReasons := s.blockReasons ++ ["REDESIGN_FEATURES_NOT_READY"] }

theorem redesignStep_unready (hopen : s.openTrade = none) (hi : i < candidate.featureConfig.need)
    (h : redesignStep dataset candidate options flags s i = .ok s') : s' = s.noteUnready := by
  have hfeatures : featuresAt dataset candidate.featureConfig i = .ok unreadyFeatures := by
    unfold featuresAt computeRedesignFeatures
    exact if_pos hi
  unfold redesignStep at h
  rw [hfeatures, hopen] at h
  obtain ⟨candle, -, h⟩ := bind_eq_ok h
  obtain ⟨features, hunready, h⟩ := bind_eq_ok h
  obtain rfl := Except.ok.inj hunready
  unfold RedesignState.decide at h
  obtain ⟨hour, -, h⟩ := bind_eq_ok h
  obtain ⟨spread, -, h⟩ := bind_eq_ok h
  obtain ⟨session, -, h⟩ := bind_eq_ok h
  exact (Except.ok.inj h).symm

theorem features_of_step (h : redesignStep dataset candidate options flags s i = .ok s') :
    ∃ features, featuresAt dataset candidate.featureConfig i = .ok features := by
  unfold redesignStep at h
  obtain ⟨candle, -, h⟩ := bind_eq_ok h
  obtain ⟨features, hfeatures, -⟩ := bind_eq_ok h
  exact ⟨features, hfeatures⟩

theorem redesignStep_flat (hopen : s.openTrade = none)
    (hfeatures : featuresAt dataset candidate.featureConfig i = .ok features)
    (hflat : features.atrLike ≤ 0)
    (h : redesignStep dataset candidate options flags s i = .ok s') : s'.openTrade = none := by
  unfold redesignStep at h
  rw [hfeatures, hopen] at h
  obtain ⟨candle, -, h⟩ := bind_eq_ok h
  obtain ⟨features', hsame, h⟩ := bind_eq_ok h
  obtain rfl := Except.ok.inj hsame
  unfold RedesignState.decide at h
  obtain ⟨hour, -, h⟩ := bind_eq_ok h
  obtain ⟨spread, -, h⟩ := bind_eq_ok h
  obtain ⟨session, -, h⟩ := bind_eq_ok h
  have hside : (redesignEntryDecision candidate.family features
      (spreadWithin spread.spreadCategory) (session.sessionSafeLabel = .sessionAllowed)
      (hour = some candidate.featureConfig.sessionOpenJstHour)).entrySide =
        .redesignNoEntry := by
    unfold redesignEntryDecision
    split_ifs <;> rfl
  dsimp only at h
  unfold RedesignState.follow at h
  rw [if_pos hside] at h
  obtain rfl := Except.ok.inj h
  exact hopen

theorem follow_trades {decision : RedesignEntryDecision} {candle : BacktestCandleRecord}
    {spread : BacktestSpreadRecord}
    (h : s.follow candidate options flags decision candle spread features i = .ok s') :
    s'.trades = s.trades := by
  unfold RedesignState.follow at h
  split at h
  · obtain rfl := Except.ok.inj h
    rfl
  · obtain ⟨flag, -, h⟩ := bind_eq_ok h
    split at h
    · obtain rfl := Except.ok.inj h
      rfl
    · obtain rfl := Except.ok.inj h
      rfl

/-- A bar leaves the closed trades or adds one of this bar, and not by the end of the
window. -/
theorem redesignStep_trades (h : redesignStep dataset candidate options flags s i = .ok s') :
    s'.trades = s.trades ∨ ∃ trade : ClosedTrade, s'.trades = s.trades ++ [trade] ∧
      trade.bar = i ∧ trade.event.exitReason ≠ .exitEndOfWindow := by
  unfold redesignStep at h
  obtain ⟨candle, -, h⟩ := bind_eq_ok h
  obtain ⟨features, -, h⟩ := bind_eq_ok h
  cases hopen : s.openTrade with
  | some trade =>
      rw [hopen] at h
      obtain ⟨spread, -, h⟩ := bind_eq_ok h
      obtain rfl := Except.ok.inj h
      unfold RedesignState.manage
      dsimp only
      generalize (if opposes trade.side features.trend = true then s.oppositeStreak + 1
        else 0) = streak
      split_ifs
      · exact Or.inr ⟨_, rfl, rfl, nofun⟩
      · exact Or.inr ⟨_, rfl, rfl, nofun⟩
      · exact Or.inr ⟨_, rfl, rfl, nofun⟩
      · exact Or.inr ⟨_, rfl, rfl, nofun⟩
      · exact Or.inl rfl
  | none =>
      rw [hopen] at h
      obtain ⟨hour, -, h⟩ := bind_eq_ok h
      obtain ⟨spread, -, h⟩ := bind_eq_ok h
      obtain ⟨session, -, h⟩ := bind_eq_ok h
      dsimp only at h
      exact Or.inl ((follow_trades h).trans rfl)

/-- A trade was closed before bar `k`, and not by the end of the window. -/
def closedEarly (k : Nat) (trade : ClosedTrade) : Bool :=
  trade.bar < k && trade.event.exitReason ≠ .exitEndOfWindow

/-- The trades of a result that were closed before bar `k` for a reason other than the end
of the window. -/
def RedesignRunResult.closedBefore (result : RedesignRunResult) (k : Nat) :
    List ClosedTrade :=
  result.closings.filter (closedEarly k)

variable (d₁ candidate options) in
/-- The local variables of a run in front of bar `k`. -/
def stateBefore (k : Nat) : Except RunError RedesignState := do
  let flags ← regimeFlags d₁ candidate
  (indices d₁.warmupBars (min k d₁.candles.length : Nat)).foldlM
    (redesignStep d₁ candidate options flags) (startState options)

/-- The loop runs through the bars before bar `k` and then through later ones. -/
theorem bars_split (dataset : BacktestDataset) (k : Nat) :
    ∃ later, indices dataset.warmupBars dataset.candles.length =
        indices dataset.warmupBars (min k dataset.candles.length : Nat) ++ later ∧
      ∀ i ∈ later, (k : Int) ≤ i := by
  by_cases hle : dataset.warmupBars ≤ (min k dataset.candles.length : Nat)
  · refine ⟨_, indices_split hle (by omega), ?_⟩
    intro i hi
    have hmem := mem_indices.mp hi
    omega
  · refine ⟨indices dataset.warmupBars dataset.candles.length, ?_, ?_⟩
    · have hcount : ((min k dataset.candles.length : Nat) - dataset.warmupBars).toNat = 0 := by
        omega
      have hempty : indices dataset.warmupBars (min k dataset.candles.length : Nat) = [] := by
        rw [indices, hcount]
        rfl
      rw [hempty, List.nil_append]
    · intro i hi
      have hmem := mem_indices.mp hi
      omega

/-- **The trades of a run that were closed before a bar are those of its state in front of
that bar.** -/
theorem closedBefore_eq {result : RedesignRunResult}
    (hrun : runRedesignBacktest dataset candidate options = .ok result) (k : Nat) :
    ∃ s, stateBefore dataset candidate options k = .ok s ∧
      result.closedBefore k = s.trades := by
  unfold runRedesignBacktest at hrun
  obtain ⟨flags, hflags, hrun⟩ := bind_eq_ok hrun
  obtain ⟨looped, hloop, hrun⟩ := bind_eq_ok hrun
  obtain ⟨final, hend, hrun⟩ := bind_eq_ok hrun
  obtain rfl := Except.ok.inj hrun
  obtain ⟨later, hbars, hlater⟩ := bars_split dataset k
  rw [hbars, List.foldlM_append] at hloop
  obtain ⟨s, hbefore, hrest⟩ := bind_eq_ok hloop
  have hearly : ∀ trade ∈ s.trades, closedEarly k trade := by
    refine @foldlM_preserves _ _ _ (redesignStep dataset candidate options flags)
      (fun s => ∀ trade ∈ s.trades, closedEarly k trade) _ _ _
      (fun trade htrade => absurd htrade List.not_mem_nil) ?_ hbefore
    intro i hi s s' hinv hstep trade htrade
    have hmem := mem_indices.mp hi
    rcases redesignStep_trades hstep with hsame | ⟨added, hadd, hbar, hreason⟩
    · exact hinv trade (hsame ▸ htrade)
    · rw [hadd, List.mem_append, List.mem_singleton] at htrade
      rcases htrade with htrade | rfl
      · exact hinv trade htrade
      · have hlt : trade.bar < k := by omega
        simp [closedEarly, hlt, hreason]
  have hlate : looped.trades.filter (closedEarly k) = s.trades := by
    refine @foldlM_preserves _ _ _ (redesignStep dataset candidate options flags)
      (fun s' => s'.trades.filter (closedEarly k) = s.trades) _ _ _
      (List.filter_eq_self.mpr hearly) ?_ hrest
    intro i hi s₁ s₂ hinv hstep
    have hk := hlater i hi
    rcases redesignStep_trades hstep with hsame | ⟨added, hadd, hbar, hreason⟩
    · rw [hsame]
      exact hinv
    · have hnot : closedEarly k added = false := by
        simp [closedEarly, hbar, hk]
      rw [hadd, List.filter_append, hinv]
      simp [hnot]
  have hfinal : final.trades.filter (closedEarly k) = s.trades := by
    unfold closeAtEnd at hend
    split at hend
    · obtain rfl := Except.ok.inj hend
      exact hlate
    · obtain ⟨last, -, hend⟩ := bind_eq_ok hend
      obtain rfl := Except.ok.inj hend
      show (looped.trades ++ [_]).filter (closedEarly k) = s.trades
      rw [List.filter_append, hlate]
      simp [closedEarly]
  refine ⟨s, ?_, ?_⟩
  · unfold stateBefore
    rw [hflags]
    exact hbefore
  · rw [RedesignRunResult.closedBefore, hfinal]

theorem unready_same {bars : List Int} (hbars : ∀ i ∈ bars, i < candidate.featureConfig.need)
    (hopen : s.openTrade = none)
    (hrun₁ : bars.foldlM (redesignStep d₁ candidate options flags₁) s = .ok s₁)
    (hrun₂ : bars.foldlM (redesignStep d₂ candidate options flags₂) s = .ok s₂) :
    s₁ = s₂ ∧ s₁.openTrade = none := by
  refine @foldlM_same _ _ _ _ _ (fun s => s.openTrade = none) _ _ _ _ hopen ?_ hrun₁ hrun₂
  intro i hi s s₁ s₂ hnone hstep₁ hstep₂
  rw [redesignStep_unready hnone (hbars i hi) hstep₁,
    redesignStep_unready hnone (hbars i hi) hstep₂]
  exact ⟨rfl, hnone⟩

def RedesignFeatureConfig.FastFits (config : RedesignFeatureConfig) : Prop :=
  config.smaFast ≤ config.need + 1

/-- Every close but zero is an upward trend, with the close of one bar for its slow average,
and the fast average starts one bar in front of the series at the first bar with the history. -/
def RedesignFeatureConfig.AlwaysUp (config : RedesignFeatureConfig) : Prop :=
  config.smaSlow = 1 ∧ config.trendMarginRatio < -1 ∧ config.smaFast = config.need + 2

/-- The configurations with which no later bar counts: no bar with the history has features,
or none leads to an entry, or the fast average fits, or it does not matter. -/
def RedesignFeatureConfig.Causal (config : RedesignFeatureConfig) : Prop :=
  config.breakoutLookback ≤ 0 ∨ config.momentumLookback < 0 ∨ config.atrLookback ≤ 0 ∨
    config.FastFits ∨ config.AlwaysUp

theorem getElem_of_item {α : Type} {xs : List α} {i : Nat} {a : α} (h : item xs i = .ok a) :
    ∃ hlt : i < xs.length, xs[i] = a := by
  by_cases hlt : i < xs.length
  · rw [item_natCast hlt] at h
    exact ⟨hlt, Except.ok.inj h⟩
  · rw [item_of_length_le (by omega)] at h
    cases h

variable {close fast ratio : ℚ}

theorem slice_last (hnonneg : 0 ≤ i) (hclose : item closes i = .ok close) :
    slice closes (-1) (i + 1) = [close] ∨ slice closes (-1) (i + 1) = [] := by
  obtain ⟨i, rfl⟩ := Int.eq_ofNat_of_zero_le hnonneg
  obtain ⟨hlt, hclose⟩ := getElem_of_item hclose
  have hstop : Library.Series.bound closes.length ((i : Int) + 1) = i + 1 := by
    unfold Library.Series.bound
    rw [if_pos (by omega)]
    omega
  have hstart : Library.Series.bound closes.length (-1) = closes.length - 1 := by
    unfold Library.Series.bound
    rw [if_neg (by omega)]
    omega
  unfold Library.Series.slice
  rw [hstop, hstart]
  by_cases hlast : closes.length = i + 1
  · left
    have hpos : closes.length - 1 = i := by omega
    rw [List.take_of_length_le (by omega), hpos, List.drop_eq_getElem_cons hlt,
      List.drop_eq_nil_of_le (by omega), hclose]
  · right
    exact List.drop_eq_nil_of_le (by simp; omega)

theorem slowAt_one (hone : config.smaSlow = 1) (hnonneg : 0 ≤ i)
    (hclose : item (dataset.candles.map BacktestCandleRecord.closeValue) i = .ok close) :
    slowAt dataset config i = close := by
  obtain ⟨i, rfl⟩ := Int.eq_ofNat_of_zero_le hnonneg
  obtain ⟨hlt, hclose⟩ := getElem_of_item hclose
  have hstart : (i : Int) - config.smaSlow + 1 = (i : Nat) := by omega
  have hstop : (i : Int) + 1 = ((i + 1 : Nat) : Int) := by omega
  rw [slowAt, hstart, hstop, Library.Series.slice_natCast _ (by omega),
    List.take_succ_eq_append_getElem hlt, List.drop_left' (by rw [List.length_take]; omega),
    hclose]
  simp [mean]

/-- With a slow average of one bar and a margin below minus one, every close but zero is an
upward trend. -/
theorem trendOf_up (hratio : ratio < -1) (hclose : close ≠ 0)
    (hfast : fast = close ∨ fast = 0) : trendOf fast close ratio = .up := by
  unfold trendOf
  refine if_pos ?_
  rcases lt_or_gt_of_ne hclose with hneg | hpos
  · rw [abs_of_neg hneg]
    rcases hfast with rfl | rfl
    · nlinarith
    · nlinarith
  · rw [abs_of_pos hpos]
    rcases hfast with rfl | rfl
    · nlinarith
    · nlinarith

/-- A slow average of one bar makes the same trend of every fast average at hand, and the same
overextension where there is no trend. -/
theorem alwaysUp_agree (hup : config.AlwaysUp) (hi : i = config.need) (hnonneg : 0 ≤ i)
    (hclose : item (d₁.candles.map BacktestCandleRecord.closeValue) i = .ok close)
    (hclose₂ : item (d₂.candles.map BacktestCandleRecord.closeValue) i = .ok close) :
    (f.withFast config (slowAt d₁ config i) close (fastAt d₁ config i)).trend =
        (f.withFast config (slowAt d₁ config i) close (fastAt d₂ config i)).trend ∧
      ((f.withFast config (slowAt d₁ config i) close (fastAt d₁ config i)).trend = .range →
        (f.withFast config (slowAt d₁ config i) close (fastAt d₁ config i)).overextension =
          (f.withFast config (slowAt d₁ config i) close (fastAt d₂ config i)).overextension) := by
  obtain ⟨hone, hratio, hfast⟩ := hup
  have hfasts : ∀ {d : BacktestDataset},
      item (d.candles.map BacktestCandleRecord.closeValue) i = .ok close →
      fastAt d config i = close ∨ fastAt d config i = 0 := by
    intro d hd
    have hstart : i - config.smaFast + 1 = -1 := by omega
    rw [fastAt, hstart]
    rcases slice_last hnonneg hd with hlast | hnone
    · left
      rw [hlast]
      simp [mean]
    · right
      rw [hnone]
      rfl
  have hfast₁ := hfasts hclose
  have hfast₂ := hfasts hclose₂
  rw [slowAt_one hone hnonneg hclose]
  by_cases hzero : close = 0
  · subst hzero
    have hsame : fastAt d₁ config i = fastAt d₂ config i := by
      rcases hfast₁ with h₁ | h₁ <;> rcases hfast₂ with h₂ | h₂ <;> rw [h₁, h₂]
    rw [hsame]
    exact ⟨rfl, fun _ => rfl⟩
  · have h₁ := trendOf_up hratio hzero hfast₁
    have h₂ := trendOf_up hratio hzero hfast₂
    refine ⟨h₁.trans h₂.symm, fun hrange => ?_⟩
    have htrend : RedesignTrendRegime.up = .range := h₁.symm.trans hrange
    cases htrend

/-- **Step lemma.** From the same state a bar leads to the same state in both runs; with a flat
ATR no trade is open. -/
theorem redesignStep_same (hbreakout : 0 < candidate.featureConfig.breakoutLookback)
    (hmomentum : 0 ≤ candidate.featureConfig.momentumLookback)
    (hcausal : candidate.featureConfig.Causal) (hagree : d₁.AgreeBefore k d₂)
    (hflags : FlagsAgree k flags₁ flags₂) (hnonneg : 0 ≤ i) (hi : i < k)
    (hopen : candidate.featureConfig.atrLookback ≤ 0 → s.openTrade = none)
    (hstep₁ : redesignStep d₁ candidate options flags₁ s i = .ok s₁)
    (hstep₂ : redesignStep d₂ candidate options flags₂ s i = .ok s₂) :
    s₁ = s₂ ∧ (candidate.featureConfig.atrLookback ≤ 0 → s₁.openTrade = none) := by
  obtain ⟨f, hf⟩ := features_of_step hstep₁
  obtain ⟨g, hg⟩ := features_of_step hstep₂
  by_cases hunready : i < candidate.featureConfig.need
  · rw [featuresAt_unready hunready] at hf hg
    obtain rfl := Except.ok.inj hf
    obtain rfl := Except.ok.inj hg
    rw [redesignStep_agree hagree hflags hnonneg hi (featuresAt_unready hunready)
      (featuresAt_unready hunready) rfl (fun _ _ _ => rfl) (.inr rfl), hstep₂] at hstep₁
    refine ⟨(Except.ok.inj hstep₁).symm, fun hflat => ?_⟩
    obtain rfl := Except.ok.inj hstep₁
    exact redesignStep_flat (hopen hflat) (featuresAt_unready hunready) le_rfl hstep₂
  · push Not at hunready
    obtain ⟨close, hclose, hready, hatr, hfeq, hgeq⟩ :=
      features_agree hbreakout hmomentum hagree hunready hi hf hg
    have hclose₂ := hclose
    rw [item_agree (hagree.candles.map _) hnonneg hi] at hclose₂
    have hflatStep : candidate.featureConfig.atrLookback ≤ 0 → s₁.openTrade = none :=
      fun hflat => redesignStep_flat (hopen hflat) hf (hatr hflat).le hstep₁
    have htrend : candidate.featureConfig.atrLookback ≤ 0 ∨
        f.trend = g.trend ∧ (f.trend = .range → f.overextension = g.overextension) := by
      rcases hcausal with hbad | hbad | hflat | hfast | hup
      · omega
      · omega
      · exact .inl hflat
      · right
        have hsame : fastAt d₁ candidate.featureConfig i = fastAt d₂ candidate.featureConfig i :=
          fastAt_agree hagree (by unfold RedesignFeatureConfig.FastFits at hfast; omega) hnonneg
            hi
        rw [hsame] at hfeq
        rw [hfeq.trans hgeq.symm]
        exact ⟨rfl, fun _ => rfl⟩
      · right
        by_cases hfirst : i = candidate.featureConfig.need
        · rw [hgeq]
          have hup := alwaysUp_agree hup hfirst hnonneg hclose hclose₂ (f := f)
          rwa [← hfeq] at hup
        · have hfast := hup.2.2
          have hsame : fastAt d₁ candidate.featureConfig i =
              fastAt d₂ candidate.featureConfig i :=
            fastAt_agree hagree (by omega) hnonneg hi
          rw [hsame] at hfeq
          rw [hfeq.trans hgeq.symm]
          exact ⟨rfl, fun _ => rfl⟩
    have hgready : f.ready = g.ready := by rw [hgeq]; rfl
    have hgatr : f.atrLike = g.atrLike := by rw [hgeq]; rfl
    have hgmomentum : f.momentum = g.momentum := by rw [hgeq]; rfl
    have hgbreakout : f.breakout = g.breakout := by rw [hgeq]; rfl
    have hdecision := decision_agree hgready hgatr hgmomentum hgbreakout
      (htrend.imp_left fun hflat => (hatr hflat).le) candidate.family
    have hsame : redesignStep d₁ candidate options flags₁ s i =
        redesignStep d₂ candidate options flags₂ s i :=
      redesignStep_agree hagree hflags hnonneg hi hf hg hgatr hdecision
        (htrend.imp hopen And.left)
    rw [hstep₁, hstep₂] at hsame
    exact ⟨Except.ok.inj hsame, hflatStep⟩

theorem state_agree (hbreakout : 0 < candidate.featureConfig.breakoutLookback)
    (hmomentum : 0 ≤ candidate.featureConfig.momentumLookback)
    (hcausal : candidate.featureConfig.Causal) (hwarmup : d₁.warmupBars = d₂.warmupBars)
    (hagree : d₁.AgreeBefore k d₂) (hflags : FlagsAgree k flags₁ flags₂)
    (hrun₁ : (indices d₁.warmupBars (min k d₁.candles.length : Nat)).foldlM
      (redesignStep d₁ candidate options flags₁) (startState options) = .ok s₁)
    (hrun₂ : (indices d₂.warmupBars (min k d₂.candles.length : Nat)).foldlM
      (redesignStep d₂ candidate options flags₂) (startState options) = .ok s₂) : s₁ = s₂ := by
  rw [← hwarmup, ← hagree.candles.min_length] at hrun₂
  have hneed : 0 < candidate.featureConfig.need := by
    unfold RedesignFeatureConfig.need
    omega
  -- A negative index reads from the end of the series, but no history is there for it.
  obtain ⟨first, rest, hsplit, hnegative, hpositive⟩ : ∃ first rest,
      indices d₁.warmupBars (min k d₁.candles.length : Nat) = first ++ rest ∧
      (∀ i ∈ first, i < 0) ∧ ∀ i ∈ rest, 0 ≤ i ∧ i < k := by
    by_cases hle : d₁.warmupBars ≤ 0
    · refine ⟨_, _, indices_split hle (by omega), ?_, ?_⟩
      · intro i hi
        exact (mem_indices.mp hi).2
      · intro i hi
        have hmem := mem_indices.mp hi
        omega
    · refine ⟨[], _, rfl, by simp, ?_⟩
      intro i hi
      have hmem := mem_indices.mp hi
      omega
  rw [hsplit, List.foldlM_append] at hrun₁ hrun₂
  obtain ⟨t₁, hfirst₁, hrest₁⟩ := bind_eq_ok hrun₁
  obtain ⟨t₂, hfirst₂, hrest₂⟩ := bind_eq_ok hrun₂
  obtain ⟨rfl, hnone⟩ := unready_same (fun i hi => lt_trans (hnegative i hi) hneed) rfl
    hfirst₁ hfirst₂
  have hrest := @foldlM_same _ _ _ _ _
    (fun s => candidate.featureConfig.atrLookback ≤ 0 → s.openTrade = none) _ _ _ _
    (fun _ => hnone)
    (fun i hi _ _ _ hopen hstep₁ hstep₂ => redesignStep_same hbreakout hmomentum hcausal hagree
      hflags (hpositive i hi).1 (hpositive i hi).2 hopen hstep₁ hstep₂) hrest₁ hrest₂
  exact hrest.1

theorem bars_unready_of_run (hbad : ¬ (0 < candidate.featureConfig.breakoutLookback ∧
      0 ≤ candidate.featureConfig.momentumLookback))
    (hrun : (indices dataset.warmupBars dataset.candles.length).foldlM
      (redesignStep dataset candidate options flags) (startState options) = .ok s) :
    ∀ i ∈ indices dataset.warmupBars dataset.candles.length,
      i < candidate.featureConfig.need := by
  intro i hi
  obtain ⟨hfirst, hlast⟩ := mem_indices.mp hi
  by_contra hready
  -- The last bar has the history as well, and its features raise.
  obtain ⟨t, t', hstep⟩ := foldlM_step_ok hrun
    (mem_indices.mpr ⟨by omega, by omega⟩ : (dataset.candles.length : Int) - 1 ∈ _)
  obtain ⟨features, hfeatures⟩ := features_of_step hstep
  obtain ⟨close, earlier, breakout, ranges, -, hearlier, hbreakout, -⟩ :=
    featuresAt_ok (by omega) hfeatures
  rcases not_and_or.mp hbad with hnone | hforward
  · have hempty : slice (dataset.candles.map BacktestCandleRecord.highValue)
        ((dataset.candles.length : Int) - 1 - candidate.featureConfig.breakoutLookback)
        ((dataset.candles.length : Int) - 1) = [] := by
      by_cases hcandles : dataset.candles = []
      · rw [hcandles]
        exact slice_nil _ _
      · have hlength := List.length_pos_of_ne_nil hcandles
        exact slice_eq_nil _ (by omega) (by omega)
    rw [hempty] at hbreakout
    cases hbreakout
  · rw [item_of_length_le (by simp; omega)] at hearlier
    cases hearlier

/-- A candidate does not look ahead: two runs over datasets with the same warmup that agree
before bar `k` close the same trades before it, the end of the window apart, and have the same
trade open there. -/
def NoLookAhead (candidate : RedesignCandidate) : Prop :=
  ∀ (options : RedesignOptions) (d₁ d₂ : BacktestDataset) (k : Nat) (r₁ r₂ : RedesignRunResult),
    d₁.warmupBars = d₂.warmupBars → d₁.AgreeBefore k d₂ →
    runRedesignBacktest d₁ candidate options = .ok r₁ →
    runRedesignBacktest d₂ candidate options = .ok r₂ →
    r₁.closedBefore k = r₂.closedBefore k ∧
      ∃ s₁ s₂, stateBefore d₁ candidate options k = .ok s₁ ∧
        stateBefore d₂ candidate options k = .ok s₂ ∧ s₁.openTrade = s₂.openTrade

theorem no_look_ahead (hcausal : candidate.featureConfig.Causal) : NoLookAhead candidate := by
  intro options d₁ d₂ k r₁ r₂ hwarmup hagree hrun₁ hrun₂
  obtain ⟨s₁, hs₁, hclosed₁⟩ := closedBefore_eq hrun₁ k
  obtain ⟨s₂, hs₂, hclosed₂⟩ := closedBefore_eq hrun₂ k
  have hsame : s₁ = s₂ := by
    unfold stateBefore at hs₁ hs₂
    obtain ⟨flags₁, hflags₁, hloop₁⟩ := bind_eq_ok hs₁
    obtain ⟨flags₂, hflags₂, hloop₂⟩ := bind_eq_ok hs₂
    have hflags := regimeFlags_agree hagree hflags₁ hflags₂
    by_cases hgood : 0 < candidate.featureConfig.breakoutLookback ∧
        0 ≤ candidate.featureConfig.momentumLookback
    · exact state_agree hgood.1 hgood.2 hcausal hwarmup hagree hflags hloop₁ hloop₂
    · have hunready : ∀ i ∈ indices d₁.warmupBars (min k d₁.candles.length : Nat),
          i < candidate.featureConfig.need := by
        unfold runRedesignBacktest at hrun₁
        obtain ⟨flags, -, hrun₁⟩ := bind_eq_ok hrun₁
        obtain ⟨looped, hloop, -⟩ := bind_eq_ok hrun₁
        intro i hi
        have hmem := mem_indices.mp hi
        exact bars_unready_of_run hgood hloop i (mem_indices.mpr ⟨hmem.1, by omega⟩)
      rw [← hwarmup, ← hagree.candles.min_length] at hloop₂
      exact (unready_same hunready rfl hloop₁ hloop₂).1
  refine ⟨by rw [hclosed₁, hclosed₂, hsame], s₁, s₂, hs₁, hs₂, by rw [hsame]⟩

end Causality

end FxStrategyLab.Redesign
