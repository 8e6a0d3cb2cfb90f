import FxStrategyLab.Redesign.Engine

/-!
# The slices that an evaluation runs on

This file embeds `build_walk_forward_windows` and `_window_slice` of
`gmo_strategy_evaluation_hardening.py`, `_slice` and `build_redesign_split_datasets` of
`gmo_strategy_redesign.py`, and `ChronologicalSplit`.
-/

namespace FxStrategyLab.Redesign

open Backtest (BacktestDataset)
open Library.Series (slice)

def redesignSliceLeadInBars : Int := 40

structure WalkForwardWindow where
  index : Int
  sliceStart : Int
  tradedStart : Int
  tradedEnd : Int
deriving DecidableEq

/-- The loop of `build_walk_forward_windows`, with the number of windows still allowed. -/
def walkForwardFrom (totalBars windowBars lead : Int) : Nat → Int → List WalkForwardWindow
  | 0, _ => []
  | allowed + 1, index =>
      let tradedStart := lead + index * windowBars
      let tradedEnd := tradedStart + windowBars
      if totalBars < tradedEnd then []
      else
        { index, sliceStart := tradedStart - lead, tradedStart, tradedEnd } ::
          walkForwardFrom totalBars windowBars lead allowed (index + 1)

def buildWalkForwardWindows (totalBars windowBars lead maxWindows : Int) :
    List WalkForwardWindow :=
  if windowBars ≤ 0 ∨ lead < 0 then []
  else walkForwardFrom totalBars windowBars lead maxWindows.toNat 0

/-- Source `_slice`. -/
def sliceOf (dataset : BacktestDataset) (start stop warmup : Int) : BacktestDataset :=
  { dataset with
    candles := slice dataset.candles start stop
    spreads := slice dataset.spreads start stop
    sessions := slice dataset.sessions start stop
    warmupBars := warmup }

def windowSlice (dataset : BacktestDataset) (window : WalkForwardWindow) (lead : Int) :
    BacktestDataset :=
  sliceOf dataset window.sliceStart window.tradedEnd lead

theorem mem_walkForwardFrom {totalBars windowBars lead index : Int} {allowed : Nat}
    {window : WalkForwardWindow}
    (h : window ∈ walkForwardFrom totalBars windowBars lead allowed index) :
    ∃ k : Nat, k < allowed ∧ window.index = index + k ∧
      window.sliceStart = (index + k) * windowBars ∧
      window.tradedEnd = lead + (index + k) * windowBars + windowBars ∧
      window.tradedEnd ≤ totalBars := by
  induction allowed generalizing index with
  | zero => cases h
  | succ allowed ih =>
      unfold walkForwardFrom at h
      dsimp only at h
      split_ifs at h with hend
      · cases h
      · rcases List.mem_cons.mp h with rfl | hmem
        · exact ⟨0, by omega, by simp, by simp, by simp, by simpa using hend⟩
        · obtain ⟨k, hk, hindex, hstart, hstop, hle⟩ := ih hmem
          have hshift : index + 1 + (k : Int) = index + (k + 1 : Nat) := by omega
          rw [hshift] at hindex hstart hstop
          exact ⟨k + 1, by omega, hindex, hstart, hstop, hle⟩

theorem mem_buildWalkForwardWindows {totalBars windowBars lead maxWindows : Int}
    {window : WalkForwardWindow}
    (h : window ∈ buildWalkForwardWindows totalBars windowBars lead maxWindows) :
    0 < windowBars ∧ 0 ≤ lead ∧ ∃ k : Nat, k < maxWindows.toNat ∧ window.index = k ∧
      window.sliceStart = k * windowBars ∧
      window.tradedEnd = lead + k * windowBars + windowBars ∧ window.tradedEnd ≤ totalBars := by
  unfold buildWalkForwardWindows at h
  split_ifs at h with hbad
  · cases h
  · push Not at hbad
    obtain ⟨k, hk, hindex, hstart, hstop, hle⟩ := mem_walkForwardFrom h
    simp only [zero_add] at hindex hstart hstop
    exact ⟨hbad.1, hbad.2, k, hk, hindex, hstart, hstop, hle⟩

/-- Source `ChronologicalSplit`: ranges in strict chronological order. -/
structure ChronologicalSplit where
  warmupEnd : Int
  trainEnd : Int
  validationEnd : Int
  oosEnd : Int
  ordered : 0 ≤ warmupEnd ∧ warmupEnd < trainEnd ∧ trainEnd < validationEnd ∧
    validationEnd < oosEnd

structure NamedSlice where
  name : String
  start : Int
  dataset : BacktestDataset

def buildRedesignSplitDatasets (dataset : BacktestDataset) (split : ChronologicalSplit)
    (lead : Int) : List NamedSlice :=
  [{ name := "TRAIN"
     start := 0
     dataset := sliceOf dataset 0 split.trainEnd lead },
   { name := "VALIDATION"
     start := max 0 (split.trainEnd - lead)
     dataset := sliceOf dataset (max 0 (split.trainEnd - lead)) split.validationEnd
       (min lead split.trainEnd) },
   { name := "OOS"
     start := max 0 (split.validationEnd - lead)
     dataset := sliceOf dataset (max 0 (split.validationEnd - lead)) split.oosEnd
       (min lead split.validationEnd) }]

end FxStrategyLab.Redesign
