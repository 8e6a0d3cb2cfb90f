import FxStrategyLab.H11.Features

/-!
# The features of H-11 and the history that was loaded

Every column of `compute_features` but one reaches back over a fixed number of rows.  The bars
since the last breakout are counted from the start of the arrays; where the count is known it
is known from a breakout inside the window, and more history does not change it.

**Results.** `barsSince_settled`, `axes_agree`, `experts_agree`, `short_columns_agree` and
`features_independent_of_history`.
-/

namespace FxStrategyLab.H11

open Library.Columns

section Entries

variable {K : Type} {numeric : Numeric K}

theorem reach_highs : Reach 0 (highs (K := K)) := reach_map _

theorem reach_lows : Reach 0 (lows (K := K)) := reach_map _

theorem reach_closes : Reach 0 (closes (K := K)) := reach_map _

theorem reach_logCloses : Reach 0 (logCloses numeric) := reach_map _

theorem reach_prior {column : List (H11Bar K) → List (Option K)} (f : List K → K)
    (h : Reach 0 column) : Reach 24 fun bars => lag 1 (rolling f 24 (column bars)) :=
  ((reach_lag 1).comp ((reach_rolling f 24).comp h)).mono (by omega)

theorem reach_shortCloses : Reach 0 (shortCloses (K := K)) := reach_map _

end Entries

section Differences

variable {K : Type} [Field K] {numeric : Numeric K}

theorem reach_sub {α : Type} {r s : Nat} {xs ys : List α → List (Option K)} (hx : Reach r xs)
    (hy : Reach s ys) : Reach (max r s) fun rows => sub (xs rows) (ys rows) :=
  hx.zipWith _ hy

theorem blank_sub (k : Nat) (xs : List (Option K)) : blank k (sub xs (roll xs k)) =
    sub xs (lag k xs) := by
  refine blank_zipWith (fun x => ?_) k (by simp [roll])
  cases x <;> rfl

theorem reach_retOver (k : Nat) : Reach k fun bars => retOver numeric bars k := by
  have hlag : Reach (0 + k) fun bars => lag k (logCloses numeric bars) :=
    (reach_lag k).comp reach_logCloses
  simp only [retOver, blank_sub]
  exact (reach_sub reach_logCloses hlag).mono (by omega)

theorem reach_overMean (window : Nat) :
    Reach (window - 1) fun (bars : List (H11Bar K)) => overMean bars window := by
  have hmean : Reach (0 + (window - 1)) fun (bars : List (H11Bar K)) =>
      rollingMean window (closes bars) := (reach_rolling _ window).comp reach_closes
  exact (reach_sub reach_closes hmean).mono (by omega)

theorem closeChanges_eq (bars : List (H11Bar K)) :
    closeChanges bars = sub (closes bars) (lag 1 (closes bars)) := by
  unfold closeChanges sub
  refine List.ext_getElem? fun i => ?_
  rw [List.getElem?_zipWith, List.getElem?_zipWith]
  by_cases hi : i < (closes bars).length
  · rw [getElem?_lag hi]
    cases i with
    | zero => simp
    | succ i => simp
  · rw [List.getElem?_eq_none (not_lt.mp hi)]

theorem reach_closeChanges : Reach 1 (closeChanges (K := K)) := by
  have hprev : Reach (0 + 1) fun (bars : List (H11Bar K)) => lag 1 (closes bars) :=
    (reach_lag 1).comp reach_closes
  have heq : closeChanges (K := K) = fun bars => sub (closes bars) (lag 1 (closes bars)) :=
    funext closeChanges_eq
  rw [heq]
  exact (reach_sub reach_closes hprev).mono (by omega)

theorem reach_diff (k : Nat) : Reach k fun frame => diff k (shortLogCloses numeric frame) := by
  have hlogs : Reach 0 (shortLogCloses numeric) := reach_map _
  exact (reach_sub hlogs ((reach_lag k).comp hlogs)).mono (by omega)

theorem reach_volatility10 : Reach 10 (volatility10 numeric) :=
  ((reach_rolling _ 10).comp (reach_diff 1)).mono (by omega)

end Differences

variable {K : Type} [Field K] [LinearOrder K] {numeric : Numeric K}

theorem reach_ratio {α : Type} {r s : Nat} {xs ys : List α → List (Option K)} (hx : Reach r xs)
    (hy : Reach s ys) : Reach (max r s) fun rows => ratio (xs rows) (ys rows) :=
  hx.zipWith _ hy

theorem reach_zscore : Reach 499 (rollingZscore numeric) := by
  have hmean : Reach 499 (rollingMean (K := K) zscoreWindowBars) := reach_rolling _ 500
  have hstd : Reach 499 (rollingStd numeric zscoreWindowBars) := reach_rolling _ 500
  exact ((reach_ratio (reach_sub reach_id hmean) hstd).map _).mono (by omega)

section Columns

theorem reach_trueRanges : Reach 1 (trueRanges (K := K)) := by
  have hprev : Reach (0 + 1) fun (bars : List (H11Bar K)) => lag 1 (closes bars) :=
    (reach_lag 1).comp reach_closes
  have hups := (reach_sub reach_highs hprev).map (Option.map abs)
  have hdowns := (reach_sub reach_lows hprev).map (Option.map abs)
  have hspans := reach_sub reach_highs (reach_lows (K := K))
  exact (hspans.zipWith (Option.map₂ max) (hups.zipWith (Option.map₂ max) hdowns)).mono (by omega)

theorem reach_atr (window : Nat) (h : 1 ≤ window) :
    Reach window fun (bars : List (H11Bar K)) => atr bars window :=
  ((reach_rolling _ window).comp reach_trueRanges).mono (by omega)

theorem reach_rsi : Reach 28 (rsi (K := K)) := by
  have hmean : Reach (14 - 1) (rollingMean (K := K) 14) := reach_rolling _ 14
  have hgains := hmean.comp (reach_closeChanges.map gainOf)
  have hlosses := hmean.comp (reach_closeChanges.map lossOf)
  exact ((reach_blank 14).comp (hgains.zipWith rsiOf hlosses)).mono (by omega)

theorem reach_bollPos : Reach 19 (bollPos numeric) := by
  have hstd : Reach (0 + (20 - 1)) fun (bars : List (H11Bar K)) =>
      rollingStd numeric 20 (closes bars) := (reach_rolling _ 20).comp reach_closes
  exact (reach_ratio (reach_overMean 20) (hstd.map _)).mono (by omega)

theorem reach_compression : Reach 96 (compression (K := K)) :=
  (reach_ratio (reach_atr 14 (by omega)) (reach_atr 96 (by omega))).mono (by omega)

theorem reach_breakoutDist : Reach 24 (breakoutDist (K := K)) := by
  have hup := reach_ratio (reach_sub reach_closes (reach_prior maxOf (reach_highs (K := K))))
    (reach_atr 24 (by omega))
  have hdown := reach_ratio (reach_sub reach_closes (reach_prior minOf (reach_lows (K := K))))
    (reach_atr 24 (by omega))
  exact (hup.zipWith breakoutOf hdown).mono (by omega)

end Columns

section Since

variable {bars pre : List (H11Bar K)} {i : Nat}

theorem breakoutDist_early (hi : i < 24) {d : Option K}
    (hd : (breakoutDist bars)[i]? = some d) : d = none := by
  obtain ⟨up, down, hup, -, rfl⟩ := List.getElem?_zipWith_eq_some.mp hd
  obtain ⟨gap, range, hgap, -, rfl⟩ := List.getElem?_zipWith_eq_some.mp hup
  obtain ⟨close, prior, hclose, hprior, rfl⟩ := List.getElem?_zipWith_eq_some.mp hgap
  have hlength : i < (rollingMax 24 (highs bars)).length := by
    have hlt := (List.getElem?_eq_some_iff.mp hprior).1
    rwa [length_lag] at hlt
  have hnone : prior = none := by
    rw [getElem?_lag hlength] at hprior
    split_ifs at hprior with hfirst
    · exact (Option.some.inj hprior).symm
    · have hbars : i - 1 < (highs bars).length := by
        simp only [rollingMax, (reach_rolling _ _).length_eq] at hlength
        omega
      rw [rollingMax, getElem?_rolling _ _ hbars, if_pos (by omega)] at hprior
      exact (Option.some.inj hprior).symm
  subst hnone
  cases close <;> rfl

theorem causal_barsSince : Causal (barsSince (K := K)) :=
  (reach_map _).toCausal.comp (countSince_causal.comp (reach_breakoutDist.map broke).toCausal)

theorem causal_zscore_barsSince (numeric : Numeric K) :
    Causal fun bars => rollingZscore numeric (barsSince bars) :=
  reach_zscore.toCausal.comp causal_barsSince

/-- **Bars since a breakout that are known in a window are the same with more history.** -/
theorem barsSince_settled (hi : 24 ≤ i) {c : K} (h : (barsSince bars)[i]? = some (some c)) :
    (barsSince (pre ++ bars))[pre.length + i]? = some (some c) := by
  have hlength : ∀ (bars : List (H11Bar K)), (breakoutDist bars).length = bars.length :=
    reach_breakoutDist.length_eq
  have hbound : i < bars.length := by
    have hlt := (List.getElem?_eq_some_iff.mp h).1
    rwa [causal_barsSince.length_eq] at hlt
  -- the marks of the window and those of the longer series agree from row 24 on
  obtain ⟨marks, hmarks⟩ : ∃ marks, marks = ((breakoutDist bars).drop 24).map broke := ⟨_, rfl⟩
  have hfront : (breakoutDist bars).map broke =
      ((breakoutDist bars).take 24).map broke ++ marks := by
    rw [hmarks, ← List.map_append, List.take_append_drop]
  have hlong : (breakoutDist (pre ++ bars)).map broke =
      ((breakoutDist (pre ++ bars)).take (pre.length + 24)).map broke ++ marks := by
    rw [hmarks, ← reach_breakoutDist.settled pre bars, ← List.map_append, List.take_append_drop]
  have hunmarked : ∀ mark ∈ ((breakoutDist bars).take 24).map broke, mark = false := by
    intro mark hmark
    obtain ⟨d, hd, rfl⟩ := List.mem_map.mp hmark
    obtain ⟨j, hj⟩ := List.mem_iff_getElem?.mp hd
    have hlt : j < 24 := by
      have hlt := (List.getElem?_eq_some_iff.mp hj).1
      rw [List.length_take] at hlt
      omega
    rw [List.getElem?_take_of_lt hlt] at hj
    rw [breakoutDist_early hlt hj]
    rfl
  unfold barsSince at h ⊢
  rw [List.getElem?_map, Option.map_eq_some_iff] at h ⊢
  obtain ⟨count, hcount, hc⟩ := h
  cases count with
  | none => simp at hc
  | some n =>
      refine ⟨some n, ?_, hc⟩
      rw [hfront] at hcount
      have hsize : (((breakoutDist bars).take 24).map broke).length = 24 := by
        rw [List.length_map, List.length_take, hlength]
        omega
      have hlongSize : (((breakoutDist (pre ++ bars)).take (pre.length + 24)).map broke).length =
          pre.length + 24 := by
        rw [List.length_map, List.length_take, hlength, List.length_append]
        omega
      rw [show i = (((breakoutDist bars).take 24).map broke).length + (i - 24) by omega] at hcount
      have hknown := countSince_of_known
        (((breakoutDist (pre ++ bars)).take (pre.length + 24)).map broke) hunmarked hcount
      rw [hlongSize, ← hlong] at hknown
      rwa [show pre.length + 24 + (i - 24) = pre.length + i by omega] at hknown

theorem known_of_zscore {xs : List (Option K)} {z : K}
    (h : (rollingZscore numeric xs)[i]? = some (some z)) : ∀ x ∈ window 499 xs i, x ≠ none := by
  unfold rollingZscore at h
  rw [List.getElem?_map, Option.map_eq_some_iff] at h
  obtain ⟨quotient, hquotient, hz⟩ := h
  obtain ⟨gap, std, -, hstd, rfl⟩ := List.getElem?_zipWith_eq_some.mp hquotient
  cases std with
  | none => cases gap <;> simp [finiteRatio] at hz
  | some s =>
      have hall := known_of_rolling hstd
      rwa [show zscoreWindowBars - 1 = 499 from rfl] at hall

theorem zscore_barsSince_settled (hi : 523 ≤ i)
    {z : K} (h : (rollingZscore numeric (barsSince bars))[i]? = some (some z)) :
    (rollingZscore numeric (barsSince (pre ++ bars)))[pre.length + i]? =
      (rollingZscore numeric (barsSince bars))[i]? := by
  have hbound : i < (barsSince bars).length := by
    have hlt := (List.getElem?_eq_some_iff.mp h).1
    rwa [reach_zscore.length_eq] at hlt
  have hlong : (barsSince (pre ++ bars)).length = pre.length + (barsSince bars).length := by
    rw [causal_barsSince.length_eq, causal_barsSince.length_eq, List.length_append]
  refine reach_zscore.congr_window (by omega) (by omega) (by omega) hbound ?_
  have hknown := known_of_zscore h
  refine List.ext_getElem? fun j => ?_
  rw [getElem?_window (by omega), getElem?_window (by omega)]
  split_ifs with hj
  · have hentry : i - 499 + j < (barsSince bars).length := by omega
    have hmem : (barsSince bars)[i - 499 + j] ∈ window 499 (barsSince bars) i := by
      refine List.mem_of_getElem? (i := j) ?_
      rw [getElem?_window (by omega), if_pos hj, List.getElem?_eq_getElem hentry]
    obtain ⟨c, hc⟩ := Option.ne_none_iff_exists'.mp (hknown _ hmem)
    have hshort : (barsSince bars)[i - 499 + j]? = some (some c) := by
      rw [List.getElem?_eq_getElem hentry, hc]
    rw [hshort, show pre.length + i - 499 + j = pre.length + (i - 499 + j) by omega]
    exact barsSince_settled (by omega) hshort
  · rfl

end Since

section Rows

variable {β : Type}

theorem length_stack (n : Nat) (columns : List (List β)) : (stack n columns).length = n := by
  simp [stack]

def SameEntries {β : Type} (columns others : List (List β)) (i j : Nat) : Prop :=
  List.Forall₂ (fun column other => column[i]? = other[j]?) columns others

variable {n m i j : Nat}

theorem stack_congr {columns others : List (List β)} (hi : i < n)
    (hj : j < m) (h : SameEntries columns others i j) :
    (stack n columns)[i]? = (stack m others)[j]? := by
  have hrow : columns.filterMap (fun column => column[i]?) =
      others.filterMap fun other => other[j]? := by
    induction h with
    | nil => rfl
    | cons hentry _ ih => rw [List.filterMap_cons, List.filterMap_cons, hentry, ih]
  simp [stack, hi, hj, hrow]

variable {bars other : List (H11Bar K)}

/-- **Rows of the regime axes agree where columns with their reach do.** -/
theorem axes_agree (h : ∀ column : List (H11Bar K) → List (Option K), Reach 649 column →
      (column bars)[i]? = (column other)[j]?) :
    SameEntries (regimeColumns numeric bars) (regimeColumns numeric other) i j := by
  refine List.Forall₂.cons ?_ <| .cons ?_ <| .cons ?_ <| .cons ?_ <| .cons ?_ .nil
  · exact h _ ((reach_zscore.comp ((reach_overMean 120).map (Option.map abs))).mono (by omega))
  · exact h _ ((reach_zscore.comp (reach_atr 24 (by omega))).mono (by omega))
  · exact h _ ((reach_zscore.comp reach_compression).mono (by omega))
  · exact h _ ((reach_map _).mono (by omega))
  · exact h _ ((reach_map _).mono (by omega))

/-- **So do rows of the expert features where the bars since a breakout agree as well.** -/
theorem experts_agree (hi : i < bars.length) (hj : j < other.length)
    (h : ∀ column : List (H11Bar K) → List (Option K), Reach 649 column →
      (column bars)[i]? = (column other)[j]?)
    (hsince : (rollingZscore numeric (barsSince bars))[i]? =
      (rollingZscore numeric (barsSince other))[j]?) :
    SameEntries ((expertColumns numeric bars).map (stack bars.length))
      ((expertColumns numeric other).map (stack other.length)) i j := by
  refine List.Forall₂.cons (stack_congr hi hj ?trend) <|
    .cons (stack_congr hi hj ?reversion) <| .cons (stack_congr hi hj ?breakout) .nil
  case trend =>
    refine List.Forall₂.cons ?_ <| .cons ?_ <| .cons ?_ .nil
    · exact h _ ((reach_zscore.comp (reach_retOver predictionHorizonBars)).mono (by decide))
    · exact h _ ((reach_zscore.comp (reach_retOver maxFeatureLookbackBars)).mono (by decide))
    · exact h _ ((reach_zscore.comp (reach_overMean 120)).mono (by omega))
  case reversion =>
    refine List.Forall₂.cons ?_ <| .cons ?_ <| .cons ?_ .nil
    · exact h _ ((reach_zscore.comp (reach_overMean 24)).mono (by omega))
    · exact h _ ((reach_zscore.comp reach_rsi).mono (by omega))
    · exact h _ ((reach_bollPos.map _).mono (by omega))
  case breakout =>
    refine List.Forall₂.cons ?_ <| .cons ?_ <| .cons hsince .nil
    · exact h _ ((reach_zscore.comp reach_compression).mono (by omega))
    · exact h _ ((reach_breakoutDist.map _).mono (by omega))

theorem mem_of_stack {columns : List (List β)} {row column : List β} {x : β}
    (hrow : (stack n columns)[i]? = some row) (hcolumn : column ∈ columns)
    (hx : column[i]? = some x) : x ∈ row := by
  have hi : i < n := by
    have hlt := (List.getElem?_eq_some_iff.mp hrow).1
    rwa [length_stack] at hlt
  have hvalue : columns.filterMap (fun column => column[i]?) = row := by
    simpa [stack, hi] using hrow
  rw [← hvalue]
  exact List.mem_filterMap.mpr ⟨column, hcolumn, hx⟩

theorem known_of_eligible {features : H11FeatureMatrix K}
    (h : computeFeatures numeric bars = .ok features)
    (heligible : features.eligible[i]? = some true) :
    ∃ z, (rollingZscore numeric (barsSince bars))[i]? = some (some z) := by
  unfold computeFeatures at h
  split_ifs at h with hempty
  obtain rfl := Except.ok.inj h
  obtain ⟨experts, axes, hexperts, -, hfinite⟩ := List.getElem?_zipWith_eq_some.mp heligible
  have hi : i < bars.length := by
    have hlt := (List.getElem?_eq_some_iff.mp hexperts).1
    rwa [length_stack] at hlt
  have hentry : i < (rollingZscore numeric (barsSince bars)).length := by
    rw [reach_zscore.length_eq, causal_barsSince.length_eq]
    exact hi
  have hgroup : i < (stack bars.length
      [rollingZscore numeric (compression bars),
        (breakoutDist bars).map (Option.map (clip 4)),
        rollingZscore numeric (barsSince bars)]).length := by
    rw [length_stack]
    exact hi
  have hrow := mem_of_stack hexperts
    (List.mem_map_of_mem (show _ ∈ expertColumns numeric bars from
      List.mem_cons_of_mem _ (List.mem_cons_of_mem _ List.mem_cons_self)))
    (List.getElem?_eq_getElem hgroup)
  have hvalue := mem_of_stack (List.getElem?_eq_getElem hgroup)
    (List.mem_cons_of_mem _ (List.mem_cons_of_mem _ List.mem_cons_self))
    (List.getElem?_eq_getElem hentry)
  have hall := List.all_eq_true.mp (Bool.and_eq_true_iff.mp hfinite).1 _ hrow
  have hsome := List.all_eq_true.mp hall _ hvalue
  obtain ⟨z, hz⟩ := Option.isSome_iff_exists.mp hsome
  exact ⟨z, by rw [List.getElem?_eq_getElem hentry, hz]⟩

end Rows

section Short

theorem reach_volatility30 : Reach 30 (volatility30 numeric) :=
  (((reach_rolling _ 30).comp (reach_diff 1)).map _).mono (by omega)

theorem reach_retNorm {k : Nat} (hk : k ≤ 30) : Reach 30 fun frame => retNorm numeric frame k :=
  (reach_ratio (reach_diff k) (reach_volatility30.map _)).mono (by omega)

theorem reach_smaDistanceNorm {window : Nat} (h : window ≤ 30) :
    Reach 30 fun frame => smaDistanceNorm numeric frame window := by
  have hmean : Reach (0 + (window - 1)) fun (frame : List (ShortRow K)) =>
      rollingMean window (shortCloses frame) := (reach_rolling _ window).comp reach_shortCloses
  exact (reach_ratio ((reach_ratio reach_shortCloses hmean).map _) reach_volatility30).mono
    (by omega)

theorem short_columns_agree {frame other : List (ShortRow K)} {i j : Nat}
    (h : ∀ column : List (ShortRow K) → List (Option K), Reach 30 column →
      (column frame)[i]? = (column other)[j]?) :
    SameEntries ((shortColumns numeric frame).map (List.map (Option.map (clip 8))))
      ((shortColumns numeric other).map (List.map (Option.map (clip 8)))) i j := by
  refine List.Forall₂.cons ?_ <| .cons ?_ <| .cons ?_ <| .cons ?_ <| .cons ?_ <| .cons ?_ <|
    .cons ?_ <| .cons ?_ <| .cons ?_ .nil
  · exact h _ (((reach_ratio (reach_diff 1) reach_volatility30).mono (by omega)).map _)
  · exact h _ ((reach_retNorm (by omega)).map _)
  · exact h _ ((reach_retNorm (by omega)).map _)
  · exact h _ ((reach_retNorm (by omega)).map _)
  · exact h _ ((reach_smaDistanceNorm (by omega)).map _)
  · exact h _ ((reach_smaDistanceNorm (by omega)).map _)
  · exact h _ ((((reach_ratio reach_volatility10 reach_volatility30).mono
      (by omega)).map _).map _)
  · exact h _ (((reach_map _).mono (by omega)).map _)
  · exact h _ (((reach_map _).mono (by omega)).map _)

end Short

def H11FeatureMatrix.LastEligible (features : H11FeatureMatrix K) : Prop :=
  features.eligible.getLast? = some true

/-- The features do not depend on how much history was loaded, and never look ahead. -/
structure HistoryIndependent (numeric : Numeric K) : Prop where
  regime : ∀ (bars : List (H11Bar K)) (start start' : Nat) features features',
    650 ≤ (bars.drop start).length → 650 ≤ (bars.drop start').length →
    computeFeatures numeric (bars.drop start) = .ok features →
    computeFeatures numeric (bars.drop start') = .ok features' →
    features.LastEligible → features'.LastEligible →
    features.expertFeatures.getLast? = features'.expertFeatures.getLast? ∧
      features.regimeAxes.getLast? = features'.regimeAxes.getLast?
  short : ∀ (frame : List (ShortRow K)) (start start' : Nat),
    31 ≤ (frame.drop start).length → 31 ≤ (frame.drop start').length →
    (computeShortFeatures numeric (frame.drop start)).getLast? =
      (computeShortFeatures numeric (frame.drop start')).getLast?
  regime_causal : ∀ (bars more : List (H11Bar K)) features features',
    computeFeatures numeric bars = .ok features →
    computeFeatures numeric (bars ++ more) = .ok features' →
    ∀ t < bars.length, features'.expertFeatures[t]? = features.expertFeatures[t]? ∧
      features'.regimeAxes[t]? = features.regimeAxes[t]?
  short_causal : ∀ (frame more : List (ShortRow K)), ∀ t < frame.length,
    (computeShortFeatures numeric (frame ++ more))[t]? = (computeShortFeatures numeric frame)[t]?

theorem computeFeatures_ok {bars : List (H11Bar K)} {features : H11FeatureMatrix K}
    (h : computeFeatures numeric bars = .ok features) :
    features.expertFeatures =
        stack bars.length ((expertColumns numeric bars).map (stack bars.length)) ∧
      features.regimeAxes = stack bars.length (regimeColumns numeric bars) ∧
      features.eligible.length = bars.length := by
  unfold computeFeatures at h
  split_ifs at h with hempty
  obtain rfl := Except.ok.inj h
  simp [length_stack]

theorem last_row_settled {pre bars : List (H11Bar K)} {long features : H11FeatureMatrix K}
    (hlength : 650 ≤ bars.length) (hlong : computeFeatures numeric (pre ++ bars) = .ok long)
    (hshort : computeFeatures numeric bars = .ok features) (heligible : features.LastEligible) :
    long.expertFeatures.getLast? = features.expertFeatures.getLast? ∧
      long.regimeAxes.getLast? = features.regimeAxes.getLast? := by
  obtain ⟨hexperts, haxes, heligibles⟩ := computeFeatures_ok hshort
  obtain ⟨hexperts', haxes', -⟩ := computeFeatures_ok hlong
  have hlast : features.eligible[bars.length - 1]? = some true := by
    rw [← heligible, List.getLast?_eq_getElem?, heligibles]
  obtain ⟨z, hz⟩ := known_of_eligible hshort hlast
  have hagree : ∀ column : List (H11Bar K) → List (Option K), Reach 649 column →
      (column (pre ++ bars))[pre.length + (bars.length - 1)]? = (column bars)[bars.length - 1]? :=
    fun column h => h.getElem?_settled pre bars (by omega)
  have hindex : (pre ++ bars).length - 1 = pre.length + (bars.length - 1) := by
    rw [List.length_append]
    omega
  have hbound : pre.length + (bars.length - 1) < (pre ++ bars).length := by
    rw [List.length_append]
    omega
  rw [List.getLast?_eq_getElem?, List.getLast?_eq_getElem?, List.getLast?_eq_getElem?,
    List.getLast?_eq_getElem?, hexperts, haxes, hexperts', haxes', length_stack, length_stack,
    length_stack, length_stack, hindex]
  constructor
  · exact stack_congr hbound (by omega) (experts_agree hbound (by omega) hagree
      (zscore_barsSince_settled (by omega) hz))
  · exact stack_congr hbound (by omega) (axes_agree hagree)

theorem last_short_row_settled (pre : List (ShortRow K)) {frame : List (ShortRow K)}
    (hlength : 31 ≤ frame.length) :
    (computeShortFeatures numeric (pre ++ frame)).getLast? =
      (computeShortFeatures numeric frame).getLast? := by
  have hindex : (pre ++ frame).length - 1 = pre.length + (frame.length - 1) := by
    rw [List.length_append]
    omega
  unfold computeShortFeatures
  rw [List.getLast?_eq_getElem?, List.getLast?_eq_getElem?, length_stack, length_stack, hindex]
  refine stack_congr (by rw [List.length_append]; omega) (by omega) ?_
  exact short_columns_agree fun column h => h.getElem?_settled pre frame (by omega)

theorem drop_eq_append {α : Type} (xs : List α) {start later : Nat} (hle : start ≤ later) :
    ∃ pre, xs.drop start = pre ++ xs.drop later := by
  refine ⟨(xs.drop start).take (later - start), ?_⟩
  have hdrop : xs.drop later = (xs.drop start).drop (later - start) := by
    rw [List.drop_drop, Nat.add_sub_cancel' hle]
  rw [hdrop, List.take_append_drop]

/-- **The features of H-11 do not depend on how much history was loaded, and never look
ahead.** -/
theorem features_independent_of_history (numeric : Numeric K) : HistoryIndependent numeric := by
  constructor
  case regime =>
    intro bars start start' features features' hlength hlength' h h' heligible heligible'
    rcases le_total start start' with hle | hle
    · obtain ⟨pre, hpre⟩ := drop_eq_append bars hle
      exact last_row_settled hlength' (hpre ▸ h) h' heligible'
    · obtain ⟨pre, hpre⟩ := drop_eq_append bars hle
      obtain ⟨hexperts, haxes⟩ := last_row_settled hlength (hpre ▸ h') h heligible
      exact ⟨hexperts.symm, haxes.symm⟩
  case short =>
    intro frame start start' hlength hlength'
    rcases le_total start start' with hle | hle
    · obtain ⟨pre, hpre⟩ := drop_eq_append frame hle
      rw [hpre]
      exact last_short_row_settled pre hlength'
    · obtain ⟨pre, hpre⟩ := drop_eq_append frame hle
      rw [hpre]
      exact (last_short_row_settled pre hlength).symm
  case regime_causal =>
    intro bars more features features' h h' t ht
    obtain ⟨hexperts, haxes, -⟩ := computeFeatures_ok h
    obtain ⟨hexperts', haxes', -⟩ := computeFeatures_ok h'
    have hlong : t < (bars ++ more).length := by
      rw [List.length_append]
      omega
    have hagree : ∀ column : List (H11Bar K) → List (Option K), Reach 649 column →
        (column (bars ++ more))[t]? = (column bars)[t]? :=
      fun column hreach => hreach.getElem?_append bars more ht
    have hsince := (causal_zscore_barsSince numeric).getElem?_append bars more ht
    rw [hexperts, haxes, hexperts', haxes']
    exact ⟨stack_congr hlong ht (experts_agree hlong ht hagree hsince),
      stack_congr hlong ht (axes_agree hagree)⟩
  case short_causal =>
    intro frame more t ht
    refine stack_congr (by rw [List.length_append]; omega) ht ?_
    exact short_columns_agree fun column h => h.getElem?_append frame more ht

end FxStrategyLab.H11
