import FxStrategyLab.Redesign.Causality

/-!
# The configurations that look ahead

The history that `compute_redesign_features` asks for leaves out the fast average.  Where that
average is longer, the slice behind it starts at a negative index in the first bars, so Python
counts from the end of the series, and the average depends on how many bars follow.

**Results.** `no_look_ahead_iff`: for which configurations no candidate looks ahead.
-/

namespace FxStrategyLab.Redesign

open Backtest (BacktestDataset BacktestCandleRecord BacktestSpreadRecord BacktestSessionRecord)
open Library.Series (AgreeBefore indices slice at? bind_eq_ok mapM_eq_ok mem_indices
  foldlM_total indices_split)

/-- A series with given closes; every bar is one wide, and its spread and its session allow
entries. -/
def probe (closeAt : Nat → ℚ) (origin : Int) (bars : Nat) : BacktestDataset where
  candles := (List.range bars).map fun (i : Nat) =>
    { timestamp := i - origin
      openValue := closeAt i
      highValue := closeAt i + 1
      lowValue := closeAt i
      closeValue := closeAt i }
  spreads := (List.range bars).map fun (i : Nat) =>
    { timestamp := i - origin, spreadCategory := .spreadCategoryNormal, spreadValue := some 0 }
  sessions := (List.range bars).map fun (i : Nat) =>
    { timestamp := i - origin, sessionSafeLabel := .sessionAllowed }
  warmupBars := 0

section Probe

variable {closeAt : Nat → ℚ} {origin : Int} {n : Nat} {config : RedesignFeatureConfig}

theorem item_map_range {α : Type} (g : Nat → α) {i : Int} (hnonneg : 0 ≤ i) (hi : i < n) :
    item ((List.range n).map g) i = .ok (g i.toNat) := by
  obtain ⟨i, rfl⟩ := Int.eq_ofNat_of_zero_le hnonneg
  have hlt : i < n := by omega
  rw [item_natCast (by simpa using hlt)]
  simp

variable {k m start stop i fast : Nat}

theorem probe_agree (hn : k ≤ n) (hm : k ≤ m) :
    (probe closeAt origin n).AgreeBefore k (probe closeAt origin m) := by
  have hmap : ∀ {α : Type} (g : Nat → α),
      AgreeBefore k ((List.range n).map g) ((List.range m).map g) := by
    intro α g
    unfold Library.Series.AgreeBefore
    rw [← List.map_take, ← List.map_take, List.take_range, List.take_range, min_eq_left hn,
      min_eq_left hm]
  exact ⟨hmap _, hmap _, hmap _⟩

theorem maxOf_ne_nil {xs : List ℚ} (h : xs ≠ []) : ∃ high, maxOf xs = .ok high ∧ high ∈ xs := by
  obtain ⟨x, xs, rfl⟩ := List.exists_cons_of_ne_nil h
  refine ⟨_, rfl, ?_⟩
  induction xs generalizing x with
  | nil => simp
  | cons y ys ih =>
      rw [List.foldl_cons]
      have hmem := ih (max x y) (by simp)
      rcases max_choice x y with hmax | hmax
      · rw [hmax] at hmem ⊢
        rcases List.mem_cons.mp hmem with heq | hmem
        · rw [heq]
          exact List.mem_cons_self
        · exact List.mem_cons_of_mem _ (List.mem_cons_of_mem _ hmem)
      · rw [hmax] at hmem ⊢
        exact List.mem_cons_of_mem _ hmem

theorem minOf_ne_nil {xs : List ℚ} (h : xs ≠ []) : ∃ low, minOf xs = .ok low := by
  obtain ⟨x, xs, rfl⟩ := List.exists_cons_of_ne_nil h
  exact ⟨_, rfl⟩

theorem breakoutOf_ne_nil {close : ℚ} {highs lows : List ℚ} (hhighs : highs ≠ [])
    (hlows : lows ≠ []) :
    ∃ breakout, breakoutOf close highs lows = .ok breakout ∧
      ((∀ high ∈ highs, high < close) → breakout = .up) := by
  obtain ⟨high, hhigh, hmem⟩ := maxOf_ne_nil hhighs
  obtain ⟨low, hlow⟩ := minOf_ne_nil hlows
  unfold breakoutOf
  rw [hhigh, hlow]
  by_cases habove : high < close
  · exact ⟨.up, by simp [bind, Except.bind, pure, Except.pure, habove], fun _ => rfl⟩
  · refine ⟨if close < low then .down else .none, ?_, fun hall => absurd (hall high hmem) habove⟩
    by_cases hbelow : close < low
    · simp [bind, Except.bind, pure, Except.pure, habove, hbelow]
    · simp [bind, Except.bind, pure, Except.pure, habove, hbelow]

theorem mean_ones (h : 0 < m) : mean (List.replicate m 1) = 1 := by
  have hne : List.replicate m (1 : ℚ) ≠ [] := by
    simpa using h.ne'
  have hm : (m : ℚ) ≠ 0 := by exact_mod_cast h.ne'
  rw [mean, if_neg hne]
  simp [hm]

theorem slice_map_range {g : Nat → ℚ} (hn : stop ≤ n) :
    slice ((List.range n).map g) start stop = (List.range' start (stop - start)).map g := by
  rw [Library.Series.slice_natCast _ (by simpa using hn), ← List.map_take, ← List.map_drop,
    List.take_range, min_eq_left hn, List.range_eq_range', List.drop_range', Nat.zero_add,
    Nat.mul_one]

theorem features_probe (hbreakout : 0 < config.breakoutLookback) {i : Nat}
    (hready : config.need ≤ i) (hi : i < n) (hmomentum : (i : Int) < n + config.momentumLookback) :
    ∃ features, featuresAt (probe closeAt origin n) config i = .ok features ∧
      features.ready = true ∧ (0 < config.atrLookback → features.atrLike = 1) ∧
      features.trend = trendOf (fastAt (probe closeAt origin n) config i)
        (slowAt (probe closeAt origin n) config i) config.trendMarginRatio ∧
      features.overextension =
        overextensionOf (closeAt i - fastAt (probe closeAt origin n) config i)
          (config.overextAtrMult * features.atrLike) features.atrLike ∧
      ((∀ j < i, closeAt j + 1 < closeAt i) → features.breakout = .up) := by
  obtain ⟨-, hlook, hrange, hearlier⟩ := lookbacks_of_ready hready
  obtain ⟨b, hb⟩ := Int.eq_ofNat_of_zero_le hbreakout.le
  have hstart : (i : Int) - config.breakoutLookback = ((i - b : Nat) : Int) := by omega
  have hhighs : slice ((List.range n).map fun j => closeAt j + 1)
      ((i : Int) - config.breakoutLookback) i =
        (List.range' (i - b) (i - (i - b))).map fun j => closeAt j + 1 := by
    rw [hstart]
    exact slice_map_range hi.le
  have hlows : slice ((List.range n).map closeAt) ((i : Int) - config.breakoutLookback) i =
      (List.range' (i - b) (i - (i - b))).map closeAt := by
    rw [hstart]
    exact slice_map_range hi.le
  obtain ⟨breakout, hbreak, hup⟩ := @breakoutOf_ne_nil (closeAt i)
    ((List.range' (i - b) (i - (i - b))).map fun j => closeAt j + 1)
    ((List.range' (i - b) (i - (i - b))).map closeAt) (by simp; omega) (by simp; omega)
  have hranges : (indices ((i : Int) - config.atrLookback + 1) (i + 1)).mapM
      (rangeAt ((List.range n).map fun j => closeAt j + 1) ((List.range n).map closeAt)) =
        .ok (List.replicate config.atrLookback.toNat 1) := by
    have heach : ∀ j ∈ indices ((i : Int) - config.atrLookback + 1) (i + 1),
        rangeAt ((List.range n).map fun j => closeAt j + 1) ((List.range n).map closeAt) j =
          .ok 1 := by
      intro j hj
      obtain ⟨hfirst, hlast⟩ := mem_indices.mp hj
      rw [rangeAt, item_map_range _ (by omega) (by omega), item_map_range _ (by omega) (by omega)]
      simp [bind, Except.bind, pure, Except.pure]
    rw [mapM_eq_ok heach]
    congr 1
    have hcount : ((i : Int) + 1 - (i - config.atrLookback + 1)).toNat =
        config.atrLookback.toNat := by omega
    simp only [indices, hcount, List.map_map, Function.comp_def, List.map_const',
      List.length_range]
  have hfeatures : featuresAt (probe closeAt origin n) config i = .ok
      { trend := trendOf (fastAt (probe closeAt origin n) config i)
          (slowAt (probe closeAt origin n) config i) config.trendMarginRatio
        momentum := momentumOf (closeAt i - closeAt (i - config.momentumLookback).toNat)
        breakout
        overextension :=
          overextensionOf (closeAt i - fastAt (probe closeAt origin n) config i)
            (config.overextAtrMult * mean (List.replicate config.atrLookback.toNat 1))
            (mean (List.replicate config.atrLookback.toNat 1))
        atrLike := mean (List.replicate config.atrLookback.toNat 1)
        ready := true } := by
    unfold featuresAt computeRedesignFeatures
    rw [if_neg (by omega)]
    unfold fastAt slowAt
    simp only [probe, List.map_map, Function.comp_def]
    rw [item_map_range _ (by omega) (by omega), item_map_range _ (by omega) (by omega), hhighs,
      hlows]
    simp only [bind, Except.bind, Int.toNat_natCast]
    rw [hbreak]
    dsimp only
    rw [hranges]
    rfl
  refine ⟨_, hfeatures, rfl, fun hatr => mean_ones (by omega), rfl, rfl, ?_⟩
  intro hall
  refine hup ?_
  intro high hhigh
  obtain ⟨j, hj, rfl⟩ := List.mem_map.mp hhigh
  rw [List.mem_range'_1] at hj
  exact hall j (by omega)

def plainCandidate (config : RedesignFeatureConfig) (family : RedesignEntryFamily) :
    RedesignCandidate where
  candidateName := family.value
  family := family
  exitConfig := exitTight
  featureConfig := config

def RedesignEntrySide.opened : RedesignEntrySide → Option Backtest.PaperSide
  | redesignEntryLong => some .paperLong
  | redesignEntryShort => some .paperShort
  | redesignNoEntry => none

theorem item_probe_candle {i : Nat} (hi : i < n) :
    ∃ candle, item (probe closeAt origin n).candles i = .ok candle ∧
      candle.timestamp = i - origin :=
  ⟨_, item_map_range _ (by omega) (by omega), by simp⟩

theorem item_probe_spread {i : Nat} (hi : i < n) :
    ∃ spread, item (probe closeAt origin n).spreads i = .ok spread ∧
      spread.spreadCategory = .spreadCategoryNormal :=
  ⟨_, item_map_range _ (by omega) (by omega), rfl⟩

theorem item_probe_session {i : Nat} (hi : i < n) :
    ∃ session, item (probe closeAt origin n).sessions i = .ok session ∧
      session.sessionSafeLabel = .sessionAllowed :=
  ⟨_, item_map_range _ (by omega) (by omega), rfl⟩

theorem barJstHour_of_tick {timestamp : Int} (h : timestamp < epochMsMin) :
    barJstHour timestamp = .ok none :=
  if_pos h

theorem redesignStep_probe {family : RedesignEntryFamily} {features : RedesignFeatures}
    {s : RedesignState} {i : Nat} (hi : i < n) (horigin : (n : Int) ≤ origin)
    (hopen : s.openTrade = none)
    (hfeatures : featuresAt (probe closeAt origin n) config i = .ok features) :
    ∃ s', redesignStep (probe closeAt origin n) (plainCandidate config family) {} none s i =
        .ok s' ∧
      s'.openTrade.map OpenRedesignTrade.side =
        (redesignEntryDecision family features true true false).entrySide.opened := by
  obtain ⟨candle, hcandle, htime⟩ := @item_probe_candle closeAt origin n i hi
  obtain ⟨spread, hspread, hcategory⟩ := @item_probe_spread closeAt origin n i hi
  obtain ⟨session, hsession, hallowed⟩ := @item_probe_session closeAt origin n i hi
  have hhour : barJstHour candle.timestamp = .ok none :=
    barJstHour_of_tick (by rw [htime]; unfold epochMsMin; omega)
  have hconfig : featuresAt (probe closeAt origin n) (plainCandidate config family).featureConfig
      i = .ok features := hfeatures
  have hdecision : redesignEntryDecision family features (spreadWithin spread.spreadCategory)
      (session.sessionSafeLabel = .sessionAllowed)
      ((none : Option Int) = some config.sessionOpenJstHour) =
        redesignEntryDecision family features true true false := by
    simp [hcategory, hallowed, spreadWithin]
  have hstep : redesignStep (probe closeAt origin n) (plainCandidate config family) {} none s i =
      (s.note (redesignEntryDecision family features true true false)).follow
        (plainCandidate config family) {} none
        (redesignEntryDecision family features true true false) candle spread features i := by
    unfold redesignStep RedesignState.decide
    rw [hcandle, hopen, hconfig, ← hdecision]
    simp only [bind, Except.bind]
    rw [hhour, hspread, hsession]
    rfl
  rw [hstep]
  unfold RedesignState.follow
  cases hside : (redesignEntryDecision family features true true false).entrySide with
  | redesignNoEntry =>
      exact ⟨_, if_pos rfl, by simp [RedesignState.note, hopen, RedesignEntrySide.opened]⟩
  | redesignEntryLong =>
      refine ⟨_, rfl, ?_⟩
      simp [RedesignState.enter, entrySideOf, hside, RedesignEntrySide.opened]
  | redesignEntryShort =>
      refine ⟨_, rfl, ?_⟩
      simp [RedesignState.enter, entrySideOf, hside, RedesignEntrySide.opened]

theorem features_probe_ok (hbreakout : 0 < config.breakoutLookback)
    (hmomentum : 0 ≤ config.momentumLookback) {i : Nat}
    (hi : i < n) : ∃ features, featuresAt (probe closeAt origin n) config i = .ok features := by
  by_cases hready : config.need ≤ i
  · obtain ⟨features, hfeatures, -⟩ :=
      @features_probe closeAt origin n config hbreakout i hready hi (by omega)
    exact ⟨features, hfeatures⟩
  · exact ⟨unreadyFeatures, if_pos (by omega)⟩

theorem run_probe_ok (hbreakout : 0 < config.breakoutLookback)
    (hmomentum : 0 ≤ config.momentumLookback) (horigin : (n : Int) ≤ origin)
    (hbars : 0 < n) (family : RedesignEntryFamily) :
    ∃ result, runRedesignBacktest (probe closeAt origin n) (plainCandidate config family) {} =
      .ok result := by
  have hlength : (probe closeAt origin n).candles.length = n := by simp [probe]
  have hstep : ∀ i ∈ indices (probe closeAt origin n).warmupBars
      (probe closeAt origin n).candles.length, ∀ s, ∃ s',
      redesignStep (probe closeAt origin n) (plainCandidate config family) {} none s i =
        .ok s' := by
    intro i hi s
    have hmem := mem_indices.mp hi
    rw [hlength] at hmem
    have hnonneg : 0 ≤ i := hmem.1
    obtain ⟨i, rfl⟩ := Int.eq_ofNat_of_zero_le hnonneg
    have hlt : i < n := by omega
    obtain ⟨features, hfeatures⟩ := @features_probe_ok closeAt origin n config hbreakout
      hmomentum i hlt
    cases hopen : s.openTrade with
    | none =>
        obtain ⟨s', hs', -⟩ := @redesignStep_probe closeAt origin n config family features s i
          hlt horigin hopen hfeatures
        exact ⟨s', hs'⟩
    | some trade =>
        obtain ⟨candle, hcandle, -⟩ := @item_probe_candle closeAt origin n i hlt
        obtain ⟨spread, hspread, -⟩ := @item_probe_spread closeAt origin n i hlt
        unfold redesignStep
        simp only [hcandle, hopen, hspread, plainCandidate, hfeatures, bind, Except.bind]
        exact ⟨_, rfl⟩
  obtain ⟨looped, hloop⟩ := foldlM_total (startState {}) hstep
  have hend : ∃ final, closeAtEnd (probe closeAt origin n) {} looped = .ok final := by
    unfold closeAtEnd
    cases looped.openTrade with
    | none => exact ⟨looped, rfl⟩
    | some trade =>
        obtain ⟨candle, hcandle, -⟩ := @item_probe_candle closeAt origin n (n - 1) (by omega)
        have hlast : ((probe closeAt origin n).candles.length : Int) - 1 = ((n - 1 : Nat) : Int) := by
          omega
        dsimp only
        rw [hlast, hcandle]
        exact ⟨_, rfl⟩
  obtain ⟨final, hfinal⟩ := hend
  have hflags : regimeFlags (probe closeAt origin n) (plainCandidate config family) =
      .ok none := rfl
  unfold runRedesignBacktest
  rw [hflags]
  dsimp only [bind, Except.bind]
  rw [hloop]
  dsimp only
  rw [hfinal]
  exact ⟨_, rfl⟩

variable {features : RedesignFeatures}

theorem openTrade_probe (horigin : (n : Int) ≤ origin) (hi : i < n) (hneed : config.need = i)
    (family : RedesignEntryFamily)
    (hfeatures : featuresAt (probe closeAt origin n) config i = .ok features) {s : RedesignState}
    (hs : stateBefore (probe closeAt origin n) (plainCandidate config family) {} (i + 1) =
      .ok s) :
    s.openTrade.map OpenRedesignTrade.side =
      (redesignEntryDecision family features true true false).entrySide.opened := by
  have hlength : min (i + 1) (probe closeAt origin n).candles.length = i + 1 := by
    simp [probe]
    omega
  have hsplit : indices 0 ((i + 1 : Nat) : Int) = indices 0 i ++ [(i : Int)] := by
    rw [@indices_split 0 i _ (by omega) (by omega)]
    congr 1
    have hone : (((i + 1 : Nat) : Int) - i).toNat = 1 := by omega
    rw [indices, hone]
    simp
  unfold stateBefore at hs
  obtain ⟨flags, hflags, hloop⟩ := bind_eq_ok hs
  obtain rfl : flags = none := (Except.ok.inj hflags).symm
  rw [hlength] at hloop
  have hwarmup : (probe closeAt origin n).warmupBars = 0 := rfl
  rw [hwarmup, hsplit, List.foldlM_append] at hloop
  obtain ⟨t, hfirst, hlast⟩ := bind_eq_ok hloop
  have hnone : t.openTrade = none :=
    (unready_same (fun j hj => by
      have hmem := mem_indices.mp hj
      show j < config.need
      omega) rfl hfirst hfirst).2
  obtain ⟨s', hs', hside⟩ := @redesignStep_probe closeAt origin n config family features t i hi
    horigin hnone hfeatures
  rw [List.foldlM_cons, hs'] at hlast
  obtain rfl : s' = s := Except.ok.inj hlast
  exact hside

theorem closes_probe : (probe closeAt origin n).candles.map BacktestCandleRecord.closeValue =
    (List.range n).map closeAt := by
  simp [probe, Function.comp_def]

theorem fastAt_probe {i missing : Nat} (hi : i < n) (hlong : (i : Int) + 2 ≤ config.smaFast)
    (hmissing : config.smaFast = n + missing) (hshort : missing ≤ i + 1) :
    fastAt (probe closeAt origin n) config i =
      mean ((List.range' (i + 1 - missing) missing).map closeAt) := by
  have hstart : Library.Series.bound n ((i : Int) - config.smaFast + 1) = i + 1 - missing := by
    unfold Library.Series.bound
    rw [if_neg (by omega)]
    omega
  have hstop : Library.Series.bound n ((i : Int) + 1) = i + 1 := by
    unfold Library.Series.bound
    rw [if_pos (by omega)]
    omega
  rw [fastAt, closes_probe]
  unfold Library.Series.slice
  rw [List.length_map, List.length_range, hstart, hstop, ← List.map_take, ← List.map_drop,
    List.take_range, min_eq_left (by omega), List.range_eq_range', List.drop_range',
    Nat.zero_add, Nat.mul_one, Nat.sub_sub_self hshort]

def twoBars (i : Nat) (before close : ℚ) (j : Nat) : ℚ :=
  if j = i then close else if j + 1 = i then before else 0

variable {close before : ℚ}

theorem slowAt_probe_zero (hi : i < n) (hslow : config.smaSlow ≤ i) (hone : config.smaSlow ≠ 1) :
    slowAt (probe (twoBars i (-close) close) origin n) config i = 0 := by
  rw [slowAt, closes_probe]
  by_cases hnone : config.smaSlow ≤ 0
  · rw [Library.Series.slice_eq_nil _ (by omega) (by omega)]
    rfl
  · obtain ⟨slow, hcast⟩ := Int.eq_ofNat_of_zero_le (by omega : 0 ≤ config.smaSlow - 2)
    have hstart : (i : Int) - config.smaSlow + 1 = ((i - 1 - slow : Nat) : Int) := by omega
    have hstop : (i : Int) + 1 = ((i + 1 : Nat) : Int) := by omega
    have hcount : i + 1 - (i - 1 - slow) = slow + 2 := by omega
    rw [hstart, hstop, slice_map_range (by omega), hcount, ← List.range'_append_1,
      List.map_append]
    have hzero : ((List.range' (i - 1 - slow) slow).map (twoBars i (-close) close)).sum = 0 := by
      refine List.sum_eq_zero fun x hx => ?_
      obtain ⟨j, hj, rfl⟩ := List.mem_map.mp hx
      rw [List.mem_range'_1] at hj
      unfold twoBars
      rw [if_neg (by omega), if_neg (by omega)]
    have hlast : List.range' (i - 1 - slow + slow) 2 = [i - 1, i] := by
      have hbefore : i - 1 - slow + slow = i - 1 := by omega
      have hnext : i - 1 + 1 = i := by omega
      rw [hbefore]
      simp [List.range'_succ, hnext]
    have hsum : [i - 1, i].map (twoBars i (-close) close) = [-close, close] := by
      have hbefore : i - 1 ≠ i := by omega
      have hnext : i - 1 + 1 = i := by omega
      simp [twoBars, hbefore, hnext]
    unfold mean
    rw [hlast, hsum, List.sum_append, hzero]
    simp

theorem slowAt_probe_one (hi : i < n) (hone : config.smaSlow = 1) :
    slowAt (probe closeAt origin n) config i = closeAt i := by
  refine slowAt_one hone (by omega) ?_
  rw [closes_probe, item_map_range _ (by omega) (by omega)]
  rfl

theorem decision_probe (hready : features.ready = true)
    (hatr : features.atrLike = 1) (family : RedesignEntryFamily) :
    redesignEntryDecision family features true true false = familyRule family features false := by
  unfold redesignEntryDecision
  rw [hready, hatr]
  simp

theorem opened_injective : Function.Injective RedesignEntrySide.opened := by
  intro a b h
  cases a <;> cases b <;> first | rfl | cases h

theorem looks_ahead_of_sides {family : RedesignEntryFamily} {fast missing i : Nat}
    {average slow : ℚ} (hbreakout : 0 < config.breakoutLookback)
    (hatr : 0 < config.atrLookback) (hmomentum : 0 ≤ config.momentumLookback)
    (hneed : config.need = i) (hlong : i + 2 ≤ fast) (hfast : config.smaFast = fast)
    (hmissing : missing ≤ i + 1) (hbars : i + missing < fast)
    (haverage : mean ((List.range' (i + 1 - missing) missing).map closeAt) = average)
    (hslow : ∀ {n}, i < n → slowAt (probe closeAt fast n) config i = slow)
    (hsides : ∀ {f g : RedesignFeatures}, f.trend = trendOf average slow config.trendMarginRatio →
      g.trend = trendOf 0 slow config.trendMarginRatio →
      f.overextension = overextensionOf (closeAt i - average) config.overextAtrMult 1 →
      g.overextension = overextensionOf (closeAt i) config.overextAtrMult 1 →
      ((∀ j < i, closeAt j + 1 < closeAt i) → f.breakout = .up ∧ g.breakout = .up) →
      (familyRule family f false).entrySide ≠ (familyRule family g false).entrySide) :
    ¬ NoLookAhead (plainCandidate config family) := by
  intro hno
  have hless : i < fast - missing := by omega
  obtain ⟨f, hf, hready₁, hatr₁, htrend₁, hover₁, hup₁⟩ :=
    @features_probe closeAt fast (fast - missing) config hbreakout i hneed.le hless (by omega)
  obtain ⟨g, hg, hready₂, hatr₂, htrend₂, hover₂, hup₂⟩ :=
    @features_probe closeAt fast fast config hbreakout i hneed.le (by omega) (by omega)
  obtain ⟨r₁, hrun₁⟩ := @run_probe_ok closeAt fast (fast - missing) config hbreakout
    hmomentum (by omega) (by omega) family
  obtain ⟨r₂, hrun₂⟩ := @run_probe_ok closeAt fast fast config hbreakout
    hmomentum (by omega) (by omega) family
  have hagree : (probe closeAt fast (fast - missing)).AgreeBefore (i + 1)
      (probe closeAt fast fast) := probe_agree (by omega) (by omega)
  obtain ⟨-, s₁, s₂, hs₁, hs₂, hopen⟩ := hno {} (probe closeAt fast (fast - missing))
    (probe closeAt fast fast) (i + 1) r₁ r₂ rfl hagree hrun₁ hrun₂
  have hside₁ := openTrade_probe (by omega) hless hneed family hf hs₁
  have hside₂ := openTrade_probe (by omega) (by omega) hneed family hg hs₂
  rw [decision_probe hready₁ (hatr₁ hatr)] at hside₁
  rw [decision_probe hready₂ (hatr₂ hatr)] at hside₂
  rw [hopen, hside₂] at hside₁
  have hfast₁ : fastAt (probe closeAt fast (fast - missing)) config i = average := by
    rw [← haverage]
    exact fastAt_probe hless (by omega) (by omega) hmissing
  have hfast₂ : fastAt (probe closeAt fast fast) config i = 0 :=
    @fastAt_probe closeAt fast fast config i 0 (by omega) (by omega) (by omega) (by omega)
  rw [hfast₁, hslow hless] at htrend₁
  rw [hfast₂, hslow (by omega)] at htrend₂
  rw [hfast₁, hatr₁ hatr, mul_one] at hover₁
  rw [hfast₂, hatr₂ hatr, mul_one, sub_zero] at hover₂
  exact hsides htrend₁ htrend₂ hover₁ hover₂ (fun hall => ⟨hup₁ hall, hup₂ hall⟩)
    (opened_injective hside₁).symm

theorem twoBars_self (i : Nat) (before close : ℚ) : twoBars i before close i = close :=
  if_pos rfl

theorem twoBars_lt (hbefore : before + 1 < close)
    (hclose : 1 < close) : ∀ j < i, twoBars i before close j + 1 < twoBars i before close i := by
  intro j hj
  rw [twoBars_self]
  unfold twoBars
  rw [if_neg (by omega)]
  split_ifs
  · exact hbefore
  · linarith

theorem mean_last : mean ((List.range' (i + 1 - 1) 1).map (twoBars i before close)) = close := by
  simp [mean, twoBars]

theorem reversion_side (htrend : features.trend = .range) :
    (familyRule .meanReversionRange features false).entrySide =
      match features.overextension with
      | .up => .redesignEntryShort
      | .down => .redesignEntryLong
      | _ => .redesignNoEntry := by
  simp only [familyRule, htrend]
  cases features.overextension <;> rfl

theorem breakout_side (hbreakout : features.breakout = .up) :
    (familyRule .breakout features false).entrySide =
      match features.trend with
      | .down => .redesignNoEntry
      | _ => .redesignEntryLong := by
  simp only [familyRule, hbreakout]
  cases features.trend <;> rfl

theorem reversion_looks_ahead (hbreakout : 0 < config.breakoutLookback)
    (hatr : 0 < config.atrLookback) (hmomentum : 0 ≤ config.momentumLookback)
    (hneed : config.need = i) (hlong : i + 2 ≤ fast) (hfast : config.smaFast = fast)
    (hone : config.smaSlow ≠ 1) : ¬ NoLookAhead (plainCandidate config .meanReversionRange) := by
  have hslow : config.smaSlow ≤ i := (lookbacks_of_ready hneed.le).1
  have hpos : 0 < |config.overextAtrMult| + 1 := by positivity
  refine @looks_ahead_of_sides (twoBars i (-(|config.overextAtrMult| + 1))
    (|config.overextAtrMult| + 1)) config .meanReversionRange fast 1 i _ 0 hbreakout hatr hmomentum
    hneed hlong hfast (by omega) (by omega) mean_last
    (fun hi => slowAt_probe_zero hi hslow hone) ?_
  intro f g htrend₁ htrend₂ hover₁ hover₂ _
  have hup : f.trend = .up := by
    rw [htrend₁, trendOf]
    exact if_pos (by simpa using hpos)
  have hrange : g.trend = .range := by
    rw [htrend₂]
    simp [trendOf]
  have hover : g.overextension = .up := by
    rw [hover₂, twoBars_self, overextensionOf, if_neg (by norm_num)]
    exact if_pos (lt_of_le_of_lt (le_abs_self _) (lt_add_one _))
  rw [reversion_side hrange, hover]
  simp [familyRule, hup, noEntry]

theorem wide_margin_looks_ahead (hbreakout : 0 < config.breakoutLookback)
    (hatr : 0 < config.atrLookback) (hmomentum : 0 ≤ config.momentumLookback)
    (hneed : config.need = i) (hlong : i + 2 ≤ fast) (hfast : config.smaFast = fast)
    (hone : config.smaSlow = 1) (hwide : 1 ≤ config.trendMarginRatio) :
    ¬ NoLookAhead (plainCandidate config .meanReversionRange) := by
  have hi : 0 < i := by
    have hneeds := lookbacks_of_ready hneed.le
    omega
  have hbars : i + 1 < fast := by omega
  obtain ⟨close, hclose⟩ : ∃ close : ℚ,
      close = if 0 ≤ config.overextAtrMult then config.overextAtrMult + 1
        else config.overextAtrMult - 1 := ⟨_, rfl⟩
  refine @looks_ahead_of_sides (twoBars i 0 close) config .meanReversionRange fast 1 i close close
    hbreakout hatr hmomentum hneed hlong hfast (by omega) hbars mean_last
    (fun hi => (slowAt_probe_one hi hone).trans (twoBars_self i 0 close)) ?_
  intro f g htrend₁ htrend₂ hover₁ hover₂ _
  have habs : |close| ≤ |close| * config.trendMarginRatio :=
    le_mul_of_one_le_right (abs_nonneg _) hwide
  have hle := le_abs_self close
  have hneg := neg_abs_le close
  have hnonneg := abs_nonneg close
  have hrange₁ : f.trend = .range := by
    rw [htrend₁, trendOf, if_neg (by linarith), if_neg (by linarith)]
  have hrange₂ : g.trend = .range := by
    rw [htrend₂, trendOf, if_neg (by linarith), if_neg (by linarith)]
  rw [twoBars_self] at hover₁ hover₂
  rw [sub_self] at hover₁
  rw [reversion_side hrange₁, reversion_side hrange₂]
  by_cases hmult : 0 ≤ config.overextAtrMult
  · rw [if_pos hmult] at hclose
    have hnone : f.overextension = .none := by
      rw [hover₁, overextensionOf, if_neg (by norm_num), if_neg (by linarith),
        if_neg (by linarith)]
    have hup : g.overextension = .up := by
      rw [hover₂, overextensionOf, if_neg (by norm_num), if_pos (by linarith)]
    rw [hnone, hup]
    decide
  · rw [if_neg hmult] at hclose
    push Not at hmult
    have hup : f.overextension = .up := by
      rw [hover₁, overextensionOf, if_neg (by norm_num), if_pos hmult]
    have hdown : g.overextension = .down := by
      rw [hover₂, overextensionOf, if_neg (by norm_num), if_neg (by linarith),
        if_pos (by linarith)]
    rw [hup, hdown]
    decide

theorem narrow_margin_looks_ahead (hbreakout : 0 < config.breakoutLookback)
    (hatr : 0 < config.atrLookback) (hmomentum : 0 ≤ config.momentumLookback)
    (hneed : config.need = i) (hlong : i + 2 ≤ fast) (hfast : config.smaFast = fast)
    (hone : config.smaSlow = 1) (hlow : -1 ≤ config.trendMarginRatio)
    (hnarrow : config.trendMarginRatio < 1) :
    ¬ NoLookAhead (plainCandidate config .breakout) := by
  have hbars : i + 1 < fast := by omega
  refine @looks_ahead_of_sides (twoBars i 0 2) config .breakout fast 1 i 2 2
    hbreakout hatr hmomentum hneed hlong hfast (by omega) hbars mean_last
    (fun hi => (slowAt_probe_one hi hone).trans (twoBars_self i 0 2)) ?_
  intro f g htrend₁ htrend₂ _ _ hup
  obtain ⟨hup₁, hup₂⟩ := hup (twoBars_lt (by norm_num) (by norm_num))
  rw [trendOf, abs_two] at htrend₁ htrend₂
  have hdown : g.trend = .down := by
    rw [htrend₂, if_neg (by linarith), if_pos (by linarith)]
  have hnot : f.trend ≠ .down := by
    rw [htrend₁]
    by_cases hneg : config.trendMarginRatio < 0
    · rw [if_pos (by linarith)]
      decide
    · rw [if_neg (by linarith), if_neg (by linarith)]
      decide
  rw [breakout_side hup₁, breakout_side hup₂, hdown]
  cases htrend : f.trend
  case down => exact absurd htrend hnot
  all_goals decide

theorem negative_margin_looks_ahead (hbreakout : 0 < config.breakoutLookback)
    (hatr : 0 < config.atrLookback) (hmomentum : 0 ≤ config.momentumLookback)
    (hneed : config.need = i) (hlong : i + 3 ≤ fast) (hfast : config.smaFast = fast)
    (hone : config.smaSlow = 1) (hnegative : config.trendMarginRatio < -1) :
    ¬ NoLookAhead (plainCandidate config .breakout) := by
  have hi : 0 < i := by
    have hneeds := lookbacks_of_ready hneed.le
    omega
  obtain ⟨before, hbefore⟩ : ∃ before : ℚ, before = 4 * (1 + config.trendMarginRatio) - 3 :=
    ⟨_, rfl⟩
  have hmean : mean ((List.range' (i + 1 - 2) 2).map (twoBars i before 2)) = (before + 2) / 2 := by
    obtain ⟨j, rfl⟩ := Nat.exists_eq_succ_of_ne_zero hi.ne'
    simp [mean, twoBars, List.range'_succ]
  have hmissing : 2 ≤ i + 1 := by omega
  have hbars : i + 2 < fast := by omega
  refine @looks_ahead_of_sides (twoBars i before 2) config .breakout fast 2 i _ 2
    hbreakout hatr hmomentum hneed (by omega) hfast hmissing hbars hmean
    (fun hi => (slowAt_probe_one hi hone).trans (twoBars_self i before 2)) ?_
  intro f g htrend₁ htrend₂ _ _ hup
  obtain ⟨hup₁, hup₂⟩ := hup (twoBars_lt (by linarith) (by norm_num))
  rw [trendOf, abs_two] at htrend₁ htrend₂
  have hdown : f.trend = .down := by
    rw [htrend₁, if_neg (by linarith), if_pos (by linarith)]
  have hupward : g.trend = .up := by
    rw [htrend₂, if_pos (by linarith)]
  rw [breakout_side hup₁, breakout_side hup₂, hdown, hupward]
  decide

theorem looks_ahead (hnot : ¬ config.Causal) :
    ∃ family, ¬ NoLookAhead (plainCandidate config family) := by
  unfold RedesignFeatureConfig.Causal RedesignFeatureConfig.FastFits
    RedesignFeatureConfig.AlwaysUp at hnot
  push Not at hnot
  obtain ⟨hbreakout, hmomentum, hatr, hfast, hup⟩ := hnot
  have hneeds := lookbacks_of_ready (le_refl config.need)
  obtain ⟨i, hneed⟩ := Int.eq_ofNat_of_zero_le (by omega : 0 ≤ config.need)
  obtain ⟨fast, hcast⟩ := Int.eq_ofNat_of_zero_le (by omega : 0 ≤ config.smaFast)
  by_cases hone : config.smaSlow = 1
  · rcases lt_or_ge config.trendMarginRatio (-1) with hnegative | hlow
    · have hlonger := hup hone hnegative
      exact ⟨_, negative_margin_looks_ahead hbreakout hatr hmomentum hneed (by omega) hcast hone
        hnegative⟩
    · rcases lt_or_ge config.trendMarginRatio 1 with hnarrow | hwide
      · exact ⟨_, narrow_margin_looks_ahead hbreakout hatr hmomentum hneed (by omega) hcast hone
          hlow hnarrow⟩
      · exact ⟨_, wide_margin_looks_ahead hbreakout hatr hmomentum hneed (by omega) hcast hone
          hwide⟩
  · exact ⟨_, reversion_looks_ahead hbreakout hatr hmomentum hneed (by omega) hcast hone⟩

end Probe

/-- **The candidates with a configuration do not look ahead exactly if the configuration is
causal.** -/
theorem no_look_ahead_iff (config : RedesignFeatureConfig) :
    (∀ candidate : RedesignCandidate, candidate.featureConfig = config →
      NoLookAhead candidate) ↔ config.Causal := by
  constructor
  · intro hall
    by_contra hnot
    obtain ⟨family, hlooks⟩ := looks_ahead hnot
    exact hlooks (hall _ rfl)
  · rintro hcausal candidate rfl
    exact no_look_ahead hcausal

def slowedConfig : RedesignFeatureConfig := { smaFast := 30 }

/-- **Some candidate looks ahead**: a fast average longer than every other lookback. -/
theorem slowed_looks_ahead : ¬ ∀ candidate : RedesignCandidate, NoLookAhead candidate := by
  intro hall
  exact reversion_looks_ahead (by decide) (by decide) (by decide) (rfl : slowedConfig.need = (20 : Nat))
    (by decide : 20 + 2 ≤ 30) rfl (by decide) (hall _)

end FxStrategyLab.Redesign
