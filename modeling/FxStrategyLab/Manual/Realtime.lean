import FxStrategyLab.Contracts
import FxStrategyLab.Library.Spans

/-!
# Rolling candles of the every-second samples

The realtime estimate reads 31 candles that end at the latest one-second sample.  Each bar is
checked for itself: enough samples, and no two neighbours too far apart.  What lies between the
last sample of a bar and the first one of the next is not checked.

**Results.** `buildRollingFeatureFrame_native` for the ready frame, and `no_hidden_hole_iff`.
-/

namespace FxStrategyLab.Manual
namespace Realtime

open Library.Ranks

def rollingWindowSeconds : Int := 60

def rollingBarCount : Nat := 31

def minSamplesPerRollingBar : Nat := 45

def maxSampleGapSeconds : Int := 5

structure FrameCandle where
  timeUtc : Instant
  openPrice : ℚ
  high : ℚ
  low : ℚ
  close : ℚ

/-- A row of the tick table; a cell that cannot be read as an instant or a number is empty. -/
structure TickRow where
  sampleTimeUtc : Option Instant
  bid : Option ℚ

/-- The tick table, whose key is the instant of the sample. -/
structure TickTable where
  hasColumns : Bool
  rows : List TickRow
  distinct : (rows.filterMap TickRow.sampleTimeUtc).Nodup

/-- A sample with both cells. -/
structure TickSample where
  sampleTimeUtc : Instant
  bid : ℚ
deriving DecidableEq

structure RollingFrameResult where
  frame : List FrameCandle
  tickNativeWindowReady : Bool
  sampleCount : Nat
  coverageSeconds : Int

/-- Source `_candle`; the prices are never empty. -/
def candle (timeUtc : Instant) (prices : List ℚ) : FrameCandle where
  timeUtc := timeUtc
  openPrice := prices.head?.getD 0
  high := prices.max?.getD 0
  low := prices.min?.getD 0
  close := prices.getLast?.getD 0

def TickRow.sample (row : TickRow) : Option TickSample :=
  match row.sampleTimeUtc, row.bid with
  | some sampleTimeUtc, some bid => some ⟨sampleTimeUtc, bid⟩
  | _, _ => none

def keepLast : List TickSample → List TickSample
  | [] => []
  | sample :: later =>
      if ∃ other ∈ later, other.sampleTimeUtc = sample.sampleTimeUtc then keepLast later
      else sample :: keepLast later

def normalizedTicks (ticks : TickTable) : List TickSample :=
  if ticks.rows.isEmpty ∨ ¬ ticks.hasColumns then []
  else
    keepLast ((ticks.rows.filterMap TickRow.sample).insertionSort
      fun first second => first.sampleTimeUtc ≤ second.sampleTimeUtc)

def barEnd (latest : Instant) (offset : Nat) : Instant :=
  latest - offset * wallSeconds rollingWindowSeconds

/-- The samples after the start of the bar up to its end. -/
def rollingWindow (normalized : List TickSample) (latest : Instant) (offset : Nat) :
    List TickSample :=
  let stop := barEnd latest offset
  let start := stop - wallSeconds rollingWindowSeconds
  normalized.filter fun sample => start < sample.sampleTimeUtc ∧ sample.sampleTimeUtc ≤ stop

/-- The differences of neighbouring samples. -/
def sampleGaps : List TickSample → List Int
  | first :: second :: rest =>
      (second.sampleTimeUtc - first.sampleTimeUtc) :: sampleGaps (second :: rest)
  | _ => []

/-- The native rows of the bars at these offsets, as long as every bar is covered. -/
def nativeRows (normalized : List TickSample) (latest : Instant) :
    List Nat → Option (List FrameCandle)
  | [] => some []
  | offset :: offsets =>
      let window := rollingWindow normalized latest offset
      if window.length < minSamplesPerRollingBar then none
      else if ∃ largest ∈ (sampleGaps window).max?, wallSeconds maxSampleGapSeconds < largest then
        none
      else
        (nativeRows normalized latest offsets).map fun rows =>
          candle (barEnd latest offset) (window.map TickSample.bid) :: rows

def buildRollingFeatureFrame (m1 : List FrameCandle) (ticks : TickTable) : RollingFrameResult :=
  let normalized := normalizedTicks ticks
  match normalized.head?, normalized.getLast? with
  | some first, some last =>
      let latest := last.sampleTimeUtc
      let coverageSeconds := max 0 ((latest - first.sampleTimeUtc) / wallSeconds 1 + 1)
      match nativeRows normalized latest (List.range rollingBarCount).reverse with
      | some rows => ⟨rows, true, normalized.length, coverageSeconds⟩
      | none =>
          let latestWindow := normalized.filter fun sample =>
            latest - wallSeconds rollingWindowSeconds < sample.sampleTimeUtc
          if latestWindow.isEmpty ∨ m1.isEmpty then
            ⟨[], false, normalized.length, coverageSeconds⟩
          else
            let history := m1.drop (m1.length - 90)
            let rollingRow := candle latest (latestWindow.map TickSample.bid)
            ⟨history ++ [rollingRow], false, normalized.length, coverageSeconds⟩
  | _, _ => ⟨[], false, 0, 0⟩

/-- The bar has enough samples and no neighbours too far apart. -/
structure BarCovered (normalized : List TickSample) (latest : Instant) (offset : Nat) : Prop where
  enough : minSamplesPerRollingBar ≤ (rollingWindow normalized latest offset).length
  close : (rollingWindow normalized latest offset).IsChain fun first second =>
    second.sampleTimeUtc - first.sampleTimeUtc ≤ wallSeconds maxSampleGapSeconds

variable {normalized samples : List TickSample}

theorem barCovered_iff {latest : Instant} {offset : Nat} :
    BarCovered normalized latest offset ↔
      minSamplesPerRollingBar ≤ (rollingWindow normalized latest offset).length ∧
        (rollingWindow normalized latest offset).IsChain fun first second =>
          second.sampleTimeUtc - first.sampleTimeUtc ≤ wallSeconds maxSampleGapSeconds :=
  ⟨fun h => ⟨h.enough, h.close⟩, fun h => ⟨h.1, h.2⟩⟩

instance (normalized : List TickSample) (latest : Instant) (offset : Nat) :
    Decidable (BarCovered normalized latest offset) :=
  decidable_of_iff _ barCovered_iff.symm

/-- The samples of the 31 minutes that end at the latest one. -/
def nativeSpan (normalized : List TickSample) (latest : Instant) : List TickSample :=
  normalized.filter fun sample =>
    barEnd latest rollingBarCount < sample.sampleTimeUtc ∧ sample.sampleTimeUtc ≤ latest

/-- Nothing is missing in the span: its neighbours are close, it begins with a sample, and each
sample belongs to one candle. -/
structure SpanCovered (normalized : List TickSample) (latest : Instant)
    (frame : List FrameCandle) : Prop where
  close : (nativeSpan normalized latest).IsChain fun first second =>
    second.sampleTimeUtc - first.sampleTimeUtc ≤ wallSeconds maxSampleGapSeconds
  begins : ∀ first ∈ (nativeSpan normalized latest).head?,
    first.sampleTimeUtc - barEnd latest rollingBarCount ≤ wallSeconds maxSampleGapSeconds
  candles : frame = (List.range rollingBarCount).reverse.map fun offset =>
    candle (barEnd latest offset) ((rollingWindow normalized latest offset).map TickSample.bid)
  one_bar : ∀ sample ∈ nativeSpan normalized latest,
    ∃! offset, offset < rollingBarCount ∧ sample ∈ rollingWindow normalized latest offset

def NoHiddenHole (m1 : List FrameCandle) (ticks : TickTable) : Prop :=
  (buildRollingFeatureFrame m1 ticks).tickNativeWindowReady = true →
    ∃ latest ∈ (normalizedTicks ticks).getLast?,
      SpanCovered (normalizedTicks ticks) latest.sampleTimeUtc
        (buildRollingFeatureFrame m1 ticks).frame

/-- No hole between two bars, and none at the start of the oldest one. -/
structure EdgesCovered (normalized : List TickSample) (latest : Instant) : Prop where
  between : ∀ offset, offset + 1 < rollingBarCount →
    ∀ last ∈ (rollingWindow normalized latest (offset + 1)).getLast?,
      ∀ first ∈ (rollingWindow normalized latest offset).head?,
        first.sampleTimeUtc - last.sampleTimeUtc ≤ wallSeconds maxSampleGapSeconds
  oldest : ∀ first ∈ (rollingWindow normalized latest (rollingBarCount - 1)).head?,
    first.sampleTimeUtc - barEnd latest rollingBarCount ≤ wallSeconds maxSampleGapSeconds

theorem keepLast_sublist (samples : List TickSample) : (keepLast samples).Sublist samples := by
  induction samples with
  | nil => exact .slnil
  | cons sample later ih =>
      unfold keepLast
      split_ifs
      · exact ih.cons sample
      · exact ih.cons_cons sample

theorem keepLast_increasing
    (h : samples.Pairwise fun first second => first.sampleTimeUtc ≤ second.sampleTimeUtc) :
    Increasing TickSample.sampleTimeUtc (keepLast samples) := by
  induction samples with
  | nil => exact .nil
  | cons sample later ih =>
      obtain ⟨hfirst, hlater⟩ := List.pairwise_cons.mp h
      unfold keepLast
      split_ifs with hrepeated
      · exact ih hlater
      · refine List.pairwise_cons.mpr ⟨?_, ih hlater⟩
        intro other hother
        have hmem : other ∈ later := (keepLast_sublist later).subset hother
        refine lt_of_le_of_ne (hfirst other hmem) fun heq => ?_
        exact hrepeated ⟨other, hmem, heq.symm⟩

theorem normalizedTicks_increasing (ticks : TickTable) :
    Increasing TickSample.sampleTimeUtc (normalizedTicks ticks) := by
  unfold normalizedTicks
  split_ifs
  · exact .nil
  · apply keepLast_increasing
    have htotal : Std.Total fun first second : TickSample =>
        first.sampleTimeUtc ≤ second.sampleTimeUtc :=
      ⟨fun first second => le_total first.sampleTimeUtc second.sampleTimeUtc⟩
    have htrans : IsTrans TickSample fun first second =>
        first.sampleTimeUtc ≤ second.sampleTimeUtc :=
      ⟨fun _ _ _ hab hbc => le_trans hab hbc⟩
    exact List.pairwise_insertionSort _ _

section Bars

variable {normalized : List TickSample} {latest : Instant}

theorem sampleGaps_le_iff (samples : List TickSample) (limit : Int) :
    (∀ gap ∈ sampleGaps samples, gap ≤ limit) ↔
      samples.IsChain fun first second =>
        second.sampleTimeUtc - first.sampleTimeUtc ≤ limit := by
  induction samples with
  | nil => simp [sampleGaps]
  | cons first rest ih =>
      cases rest with
      | nil => simp [sampleGaps]
      | cons second rest =>
          rw [sampleGaps, List.forall_mem_cons, ih, List.isChain_cons_cons]

theorem largest_le_iff (gaps : List Int) (limit : Int) :
    (¬ ∃ largest ∈ gaps.max?, limit < largest) ↔ ∀ gap ∈ gaps, gap ≤ limit := by
  cases hmax : gaps.max? with
  | none => simp [List.max?_eq_none_iff.mp hmax]
  | some largest =>
      simp only [Option.mem_some_iff, exists_eq_left', not_lt]
      exact List.max?_le_iff hmax

/-- **The native rows are the candles of the bars, when every bar is covered.** -/
theorem nativeRows_eq_some_iff {offsets : List Nat} {rows : List FrameCandle} :
    nativeRows normalized latest offsets = some rows ↔
      (∀ offset ∈ offsets, BarCovered normalized latest offset) ∧
        rows = offsets.map fun offset =>
          candle (barEnd latest offset)
            ((rollingWindow normalized latest offset).map TickSample.bid) := by
  induction offsets generalizing rows with
  | nil => simp [nativeRows, eq_comm]
  | cons offset offsets ih =>
      have hgaps := (largest_le_iff (sampleGaps (rollingWindow normalized latest offset))
        (wallSeconds maxSampleGapSeconds)).trans (sampleGaps_le_iff _ _)
      rw [List.forall_mem_cons, List.map_cons]
      unfold nativeRows
      by_cases hfew : (rollingWindow normalized latest offset).length < minSamplesPerRollingBar
      · have hnot : ¬ BarCovered normalized latest offset := fun hcovered =>
          absurd hcovered.enough (not_le.mpr hfew)
        simp [hfew, hnot]
      · by_cases hwide : ∃ largest ∈ (sampleGaps (rollingWindow normalized latest offset)).max?,
            wallSeconds maxSampleGapSeconds < largest
        · have hnot : ¬ BarCovered normalized latest offset := fun hcovered =>
            hgaps.mpr hcovered.close hwide
          simp only [hfew, if_false, if_pos hwide, hnot, false_and, reduceCtorEq]
        · have hcovered : BarCovered normalized latest offset :=
            ⟨not_lt.mp hfew, hgaps.mp hwide⟩
          simp only [hfew, if_false, if_neg hwide, hcovered, true_and, Option.map_eq_some_iff]
          constructor
          · rintro ⟨rest, hrest, rfl⟩
            obtain ⟨hbars, rfl⟩ := ih.mp hrest
            exact ⟨hbars, rfl⟩
          · rintro ⟨hbars, rfl⟩
            exact ⟨_, ih.mpr ⟨hbars, rfl⟩, rfl⟩

end Bars

section Frame

variable {m1 : List FrameCandle} {ticks : TickTable}

def nativeCandles (normalized : List TickSample) (latest : Instant) : List FrameCandle :=
  (List.range rollingBarCount).reverse.map fun offset =>
    candle (barEnd latest offset) ((rollingWindow normalized latest offset).map TickSample.bid)

theorem nativeRows_all_iff {normalized : List TickSample} {latest : Instant}
    {rows : List FrameCandle} :
    nativeRows normalized latest (List.range rollingBarCount).reverse = some rows ↔
      (∀ offset < rollingBarCount, BarCovered normalized latest offset) ∧
        rows = nativeCandles normalized latest := by
  rw [nativeRows_eq_some_iff, nativeCandles]
  simp only [List.mem_reverse, List.mem_range]

variable (m1) in
/-- **A frame is reported ready exactly when there is a latest sample and every bar is covered;
its rows are then the candles of the bars.** -/
theorem buildRollingFeatureFrame_native {latest : TickSample}
    (hlatest : latest ∈ (normalizedTicks ticks).getLast?) :
    ((buildRollingFeatureFrame m1 ticks).tickNativeWindowReady = true ↔
      ∀ offset < rollingBarCount,
        BarCovered (normalizedTicks ticks) latest.sampleTimeUtc offset) ∧
    ((buildRollingFeatureFrame m1 ticks).tickNativeWindowReady = true →
      (buildRollingFeatureFrame m1 ticks).frame =
        nativeCandles (normalizedTicks ticks) latest.sampleTimeUtc) := by
  obtain ⟨first, hfirst⟩ : ∃ first, (normalizedTicks ticks).head? = some first := by
    cases hticks : normalizedTicks ticks with
    | nil => simp [hticks] at hlatest
    | cons first rest => exact ⟨first, rfl⟩
  unfold buildRollingFeatureFrame
  simp only [hfirst, Option.mem_def.mp hlatest]
  cases hrows : nativeRows (normalizedTicks ticks) latest.sampleTimeUtc
      (List.range rollingBarCount).reverse with
  | some rows =>
      obtain ⟨hcovered, rfl⟩ := nativeRows_all_iff.mp hrows
      exact ⟨iff_of_true rfl hcovered, fun _ => rfl⟩
  | none =>
      have hnot : ¬ ∀ offset < rollingBarCount,
          BarCovered (normalizedTicks ticks) latest.sampleTimeUtc offset := by
        intro hcovered
        rw [nativeRows_all_iff.mpr ⟨hcovered, rfl⟩] at hrows
        simp at hrows
      simp only
      split_ifs <;> exact ⟨iff_of_false (by simp) hnot, by simp⟩

theorem latest_of_ready
    (hready : (buildRollingFeatureFrame m1 ticks).tickNativeWindowReady = true) :
    ∃ latest, latest ∈ (normalizedTicks ticks).getLast? := by
  cases hticks : normalizedTicks ticks with
  | nil => simp [buildRollingFeatureFrame, hticks] at hready
  | cons first rest => exact ⟨_, List.getLast?_cons⟩

end Frame

section Bars

variable {normalized : List TickSample} {latest : Instant}

theorem barEnd_succ (latest : Instant) (offset : Nat) :
    barEnd latest (offset + 1) = barEnd latest offset - wallSeconds rollingWindowSeconds := by
  unfold barEnd
  push_cast
  ring

theorem barEnd_antitone (latest : Instant) : Antitone (barEnd latest) := by
  apply antitone_nat_of_succ_le
  intro offset
  rw [barEnd_succ]
  exact sub_le_self _ (by decide)

theorem rollingWindow_eq_tile (normalized : List TickSample) (latest : Instant) (offset : Nat) :
    rollingWindow normalized latest offset =
      tile TickSample.sampleTimeUtc normalized (barEnd latest) offset := by
  simp [rollingWindow, tile, span, barEnd_succ]

theorem nativeSpan_eq_span (normalized : List TickSample) (latest : Instant) :
    nativeSpan normalized latest =
      span TickSample.sampleTimeUtc normalized (barEnd latest rollingBarCount)
        (barEnd latest 0) := by
  have hlatest : barEnd latest 0 = latest := by simp [barEnd]
  rw [hlatest]
  rfl

theorem BarCovered.tile_ne_nil {offset : Nat} (h : BarCovered normalized latest offset) :
    tile TickSample.sampleTimeUtc normalized (barEnd latest) offset ≠ [] := by
  rw [← rollingWindow_eq_tile]
  intro hempty
  have henough := h.enough
  rw [hempty] at henough
  exact absurd henough (by decide)

/-- **The span over covered bars has no hole exactly when there is none at the edges.** -/
theorem spanCovered_iff (hticks : Increasing TickSample.sampleTimeUtc normalized)
    (hbars : ∀ offset < rollingBarCount, BarCovered normalized latest offset) :
    SpanCovered normalized latest (nativeCandles normalized latest) ↔
      EdgesCovered normalized latest := by
  have hfull : ∀ offset < rollingBarCount,
      tile TickSample.sampleTimeUtc normalized (barEnd latest) offset ≠ [] :=
    fun offset hoffset => (hbars offset hoffset).tile_ne_nil
  have hchain := isChain_span_iff hticks (barEnd_antitone latest)
    (R := fun first second =>
      second.sampleTimeUtc - first.sampleTimeUtc ≤ wallSeconds maxSampleGapSeconds) hfull
  simp only [← rollingWindow_eq_tile, ← nativeSpan_eq_span] at hchain
  have hhead : (nativeSpan normalized latest).head? =
      (rollingWindow normalized latest (rollingBarCount - 1)).head? := by
    rw [nativeSpan_eq_span, rollingWindow_eq_tile]
    exact head?_span hticks (barEnd_antitone latest) (hfull 30 (by decide))
  constructor
  · intro h
    exact ⟨(hchain.mp h.close).2, hhead ▸ h.begins⟩
  · intro h
    refine ⟨hchain.mpr ⟨fun offset hoffset => (hbars offset hoffset).close, h.between⟩,
      hhead ▸ h.oldest, rfl, ?_⟩
    intro sample hsample
    rw [nativeSpan_eq_span] at hsample
    simp only [rollingWindow_eq_tile]
    exact existsUnique_tile (barEnd_antitone latest) hsample

end Bars

/-- **A window that is reported ready has no hidden hole exactly when, if its bars are covered,
their edges are.** -/
theorem no_hidden_hole_iff (m1 : List FrameCandle) (ticks : TickTable) :
    NoHiddenHole m1 ticks ↔
      ∀ latest ∈ (normalizedTicks ticks).getLast?,
        (∀ offset < rollingBarCount,
          BarCovered (normalizedTicks ticks) latest.sampleTimeUtc offset) →
          EdgesCovered (normalizedTicks ticks) latest.sampleTimeUtc := by
  have hticks := normalizedTicks_increasing ticks
  constructor
  · intro hnone latest hlatest hbars
    obtain ⟨hready, hframe⟩ := buildRollingFeatureFrame_native m1 hlatest
    obtain ⟨other, hother, hspan⟩ := hnone (hready.mpr hbars)
    obtain rfl : other = latest := Option.mem_unique hother hlatest
    rw [hframe (hready.mpr hbars)] at hspan
    exact (spanCovered_iff hticks hbars).mp hspan
  · intro hedges hready
    obtain ⟨latest, hlatest⟩ := latest_of_ready hready
    obtain ⟨hcovered, hframe⟩ := buildRollingFeatureFrame_native m1 hlatest
    have hbars := hcovered.mp hready
    refine ⟨latest, hlatest, ?_⟩
    rw [hframe hready]
    exact (spanCovered_iff hticks hbars).mpr (hedges latest hlatest hbars)

theorem keepLast_of_increasing
    (h : Increasing TickSample.sampleTimeUtc samples) : keepLast samples = samples := by
  induction samples with
  | nil => rfl
  | cons sample later ih =>
      obtain ⟨hfirst, hlater⟩ := List.pairwise_cons.mp h
      have hnew : ¬ ∃ other ∈ later, other.sampleTimeUtc = sample.sampleTimeUtc := by
        rintro ⟨other, hother, heq⟩
        exact absurd heq (hfirst other hother).ne'
      rw [keepLast, if_neg hnew, ih hlater]

/-- The feed gives a sample each second from the 16th to the 60th of every minute. -/
def restingSamples : List TickSample :=
  (List.range 1395).map fun n =>
    ⟨wallSeconds (60 * (n / 45) + n % 45 + 16 : Nat), 150⟩

theorem restingSamples_increasing : Increasing TickSample.sampleTimeUtc restingSamples := by
  refine List.pairwise_map.mpr (List.pairwise_lt_range.imp ?_)
  intro n m hlt
  have hseconds : 60 * (n / 45) + n % 45 + 16 < 60 * (m / 45) + m % 45 + 16 := by omega
  exact mul_lt_mul_of_pos_right (Int.ofNat_lt.mpr hseconds) (by decide)

def restingFeed : TickTable where
  hasColumns := true
  rows := restingSamples.map fun sample => ⟨some sample.sampleTimeUtc, some sample.bid⟩
  distinct := by
    have hinstants : (restingSamples.map fun sample => sample.sampleTimeUtc).Nodup :=
      List.pairwise_map.mpr (restingSamples_increasing.imp ne_of_lt)
    simpa [List.filterMap_map, Function.comp_def] using hinstants

theorem normalizedTicks_restingFeed : normalizedTicks restingFeed = restingSamples := by
  have hsamples : restingFeed.rows.filterMap TickRow.sample = restingSamples := by
    simp [restingFeed, List.filterMap_map, Function.comp_def, TickRow.sample]
  have hsorted : restingSamples.insertionSort
      (fun first second => first.sampleTimeUtc ≤ second.sampleTimeUtc) = restingSamples :=
    List.Pairwise.insertionSort_eq (restingSamples_increasing.imp le_of_lt)
  unfold normalizedTicks
  rw [hsamples, hsorted, keepLast_of_increasing restingSamples_increasing, if_neg]
  simp [restingFeed, restingSamples]

def latestResting : TickSample :=
  ⟨wallSeconds 1860, 150⟩

/-- The resting feed covers every bar and gives nothing for 15 seconds between two of them. -/
theorem resting_feed_is_ready :
    (buildRollingFeatureFrame [] restingFeed).tickNativeWindowReady = true ∧
      ¬ NoHiddenHole [] restingFeed := by
  have hlatest : latestResting ∈ (normalizedTicks restingFeed).getLast? := by
    rw [normalizedTicks_restingFeed]
    decide +kernel
  have hready := (buildRollingFeatureFrame_native [] hlatest).1
  have hbars : ∀ offset < rollingBarCount,
      BarCovered restingSamples latestResting.sampleTimeUtc offset := by
    decide +kernel
  rw [normalizedTicks_restingFeed] at hready
  refine ⟨hready.mpr hbars, fun hnone => ?_⟩
  obtain ⟨latest, hmem, hspan⟩ := hnone (hready.mpr hbars)
  obtain rfl : latest = latestResting := Option.mem_unique hmem hlatest
  rw [normalizedTicks_restingFeed] at hspan
  have hhole : ¬ (nativeSpan restingSamples latestResting.sampleTimeUtc).IsChain fun first second =>
      second.sampleTimeUtc - first.sampleTimeUtc ≤ wallSeconds maxSampleGapSeconds := by
    decide +kernel
  exact hhole hspan.close

end Realtime
end FxStrategyLab.Manual
