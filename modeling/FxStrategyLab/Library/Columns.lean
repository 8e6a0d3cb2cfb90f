import FxStrategyLab.Library.Decide

/-!
# Columns over rows

A column is worked out from the rows of a table, one entry for each row.  It has a reach when
no entry looks at later rows, and when the entries with enough rows in front of them do not
change with the rows before those.  Columns with a reach are closed under what array programs
are made of: maps, zips, compositions, lags and rolling windows.

**Results.** `Reach.comp`, `Reach.zipWith`, `reach_lag`, `reach_rolling`, `Reach.congr_window`
and `countSince_of_known`.
-/

namespace FxStrategyLab.Library
namespace Columns

variable {α β γ δ : Type}

/-- A column with an entry for each row that never looks ahead. -/
structure Causal (column : List α → List β) : Prop where
  length_eq : ∀ xs, (column xs).length = xs.length
  causal : ∀ xs ys, column xs <+: column (xs ++ ys)

/-- A causal column that looks no further back than `reach` rows. -/
structure Reach (reach : Nat) (column : List α → List β) : Prop extends Causal column where
  settled : ∀ xs ys, (column (xs ++ ys)).drop (xs.length + reach) = (column ys).drop reach

section Rules

variable {r s : Nat} {column : List α → List β}

theorem Causal.comp {outer : List β → List γ} (houter : Causal outer) (h : Causal column) :
    Causal fun xs => outer (column xs) := by
  refine ⟨fun xs => by rw [houter.length_eq, h.length_eq], fun xs ys => ?_⟩
  obtain ⟨rest, hrest⟩ := h.causal xs ys
  rw [← hrest]
  exact houter.causal _ _

theorem Causal.zipWith {other : List α → List γ} (f : β → γ → δ) (h : Causal column)
    (hother : Causal other) : Causal fun xs => List.zipWith f (column xs) (other xs) := by
  refine ⟨fun xs => by simp [h.length_eq, hother.length_eq], fun xs ys => ?_⟩
  obtain ⟨rest, hrest⟩ := h.causal xs ys
  obtain ⟨rest', hrest'⟩ := hother.causal xs ys
  rw [← hrest, ← hrest', List.zipWith_append (by rw [h.length_eq, hother.length_eq])]
  exact List.prefix_append _ _

variable {i k j : Nat}

theorem Causal.getElem?_append (h : Causal column) (xs ys : List α)
    (hi : i < xs.length) : (column (xs ++ ys))[i]? = (column xs)[i]? := by
  obtain ⟨rest, hrest⟩ := h.causal xs ys
  rw [← hrest, List.getElem?_append_left (by rw [h.length_eq]; exact hi)]

variable {xs ys : List α}

theorem Causal.congr_take (h : Causal column)
    (hagree : xs.take k = ys.take k) (hi : i < k) : (column xs)[i]? = (column ys)[i]? := by
  have hshort : ∀ zs : List α, (column zs)[i]? = (column (zs.take k))[i]? := by
    intro zs
    by_cases hlong : i < (zs.take k).length
    · have happend := h.getElem?_append (zs.take k) (zs.drop k) hlong
      rwa [List.take_append_drop] at happend
    · have hsmall : zs.take k = zs := by
        rw [List.length_take] at hlong
        exact List.take_of_length_le (by omega)
      rw [hsmall]
  rw [hshort xs, hagree, ← hshort ys]

theorem Reach.mono (h : Reach r column) (hle : r ≤ s) : Reach s column := by
  refine ⟨h.toCausal, fun xs ys => ?_⟩
  have hdrop := congrArg (List.drop (s - r)) (h.settled xs ys)
  rw [List.drop_drop, List.drop_drop] at hdrop
  rw [show xs.length + s = xs.length + r + (s - r) by omega, show s = r + (s - r) by omega]
  rw [show r + (s - r) - r = s - r by omega]
  exact hdrop

theorem Reach.comp {outer : List β → List γ} (houter : Reach r outer) (h : Reach s column) :
    Reach (s + r) fun xs => outer (column xs) := by
  refine ⟨houter.toCausal.comp h.toCausal, fun xs ys => ?_⟩
  by_cases hshort : ys.length ≤ s
  · rw [List.drop_eq_nil_of_le (by rw [houter.length_eq, h.length_eq, List.length_append]; omega),
      List.drop_eq_nil_of_le (by rw [houter.length_eq, h.length_eq]; omega)]
  · -- behind the reach of the inner column both inputs of the outer one are the same
    have hlong := houter.settled ((column (xs ++ ys)).take (xs.length + s))
      ((column (xs ++ ys)).drop (xs.length + s))
    have hsmall := houter.settled ((column ys).take s) ((column ys).drop s)
    rw [List.take_append_drop, List.length_take, h.length_eq, List.length_append] at hlong
    rw [List.take_append_drop, List.length_take, h.length_eq] at hsmall
    rw [Nat.min_eq_left (by omega)] at hlong hsmall
    rw [← Nat.add_assoc, hlong, h.settled xs ys, hsmall]

theorem reach_id : Reach 0 fun (xs : List α) => xs :=
  ⟨⟨fun _ => rfl, fun _ _ => List.prefix_append _ _⟩, fun _ _ => List.drop_length_add_append 0⟩

theorem reach_map (f : α → β) : Reach 0 (List.map f) := by
  refine ⟨⟨by simp, fun xs ys => ?_⟩, fun xs ys => by simp⟩
  rw [List.map_append]
  exact List.prefix_append _ _

theorem Reach.map (h : Reach r column) (f : β → γ) : Reach r fun xs => (column xs).map f := by
  simpa using (reach_map f).comp h

theorem Reach.zipWith {other : List α → List γ} (f : β → γ → δ) (h : Reach r column)
    (hother : Reach s other) :
    Reach (max r s) fun xs => List.zipWith f (column xs) (other xs) := by
  have h' := h.mono (Nat.le_max_left r s)
  have hother' := hother.mono (Nat.le_max_right r s)
  refine ⟨h.toCausal.zipWith f hother.toCausal, fun xs ys => ?_⟩
  rw [List.drop_zipWith, List.drop_zipWith, h'.settled, hother'.settled]

theorem Reach.getElem?_settled (h : Reach r column) (xs ys : List α) (hi : r ≤ i) :
    (column (xs ++ ys))[xs.length + i]? = (column ys)[i]? := by
  have hdrop := congrArg (fun zs => zs[i - r]?) (h.settled xs ys)
  simp only [List.getElem?_drop] at hdrop
  rwa [show xs.length + r + (i - r) = xs.length + i by omega,
    show r + (i - r) = i by omega] at hdrop

def window (reach : Nat) (xs : List α) (i : Nat) : List α :=
  (xs.take (i + 1)).drop (i - reach)

theorem getElem?_window (hr : r ≤ i) (j : Nat) :
    (window r xs i)[j]? = if j ≤ r then xs[i - r + j]? else none := by
  rw [window, List.getElem?_drop, List.getElem?_take]
  split_ifs with h h' h'
  · rfl
  · omega
  · omega
  · rfl

theorem Reach.getElem?_window (h : Reach r column) (hr : r ≤ i)
    (hi : i < xs.length) : (column xs)[i]? = (column (window r xs i))[r]? := by
  have hfirst := h.toCausal.getElem?_append (xs.take (i + 1)) (xs.drop (i + 1))
    (show i < (xs.take (i + 1)).length by rw [List.length_take]; omega)
  have hrest := h.getElem?_settled ((xs.take (i + 1)).take (i - r))
    ((xs.take (i + 1)).drop (i - r)) (le_refl r)
  rw [List.take_append_drop] at hfirst hrest
  rw [window, ← hrest, hfirst, List.length_take, List.length_take]
  congr 1
  omega

/-- **Entries are equal where the rows that they look at are.** -/
theorem Reach.congr_window (h : Reach r column) (hi : r ≤ i)
    (hj : r ≤ j) (hix : i < xs.length) (hjy : j < ys.length)
    (hwindow : window r xs i = window r ys j) : (column xs)[i]? = (column ys)[j]? := by
  rw [h.getElem?_window hi hix, h.getElem?_window hj hjy, hwindow]

end Rules

/-- The entries are rolled towards the end, and what leaves the end comes in at the front. -/
def roll (xs : List α) (k : Nat) : List α :=
  xs.rotate (xs.length - k % xs.length)

def blank (k : Nat) (xs : List (Option α)) : List (Option α) :=
  List.replicate (min k xs.length) none ++ xs.drop k

/-- The entries of `k` rows ago, unknown in the first rows. -/
def lag (k : Nat) (xs : List (Option α)) : List (Option α) :=
  blank k (roll xs k)

variable {k i r size j v : Nat}

theorem getElem?_blank {xs : List (Option α)} (hi : i < xs.length) :
    (blank k xs)[i]? = if i < k then some none else xs[i]? := by
  unfold blank
  split_ifs with hk
  · rw [List.getElem?_append_left (by rw [List.length_replicate]; omega)]
    exact List.getElem?_replicate_of_lt (by omega)
  · rw [List.getElem?_append_right (by rw [List.length_replicate]; omega),
      List.length_replicate, List.getElem?_drop, Nat.min_eq_left (by omega),
      show k + (i - k) = i by omega]

theorem getElem?_lag {xs : List (Option α)} (hi : i < xs.length) :
    (lag k xs)[i]? = if i < k then some none else xs[i - k]? := by
  have hrolled : i < (roll xs k).length := by rwa [roll, List.length_rotate]
  unfold lag
  rw [getElem?_blank hrolled]
  split_ifs with hk
  · rfl
  · have hmod : k % xs.length = k := Nat.mod_eq_of_lt (by omega)
    have hindex : (i + (xs.length - k)) % xs.length = i - k := by
      rw [show i + (xs.length - k) = i - k + xs.length by omega, Nat.add_mod_right]
      exact Nat.mod_eq_of_lt (by omega)
    rw [roll, List.getElem?_rotate hi, hmod, hindex]

theorem length_lag (k : Nat) (xs : List (Option α)) : (lag k xs).length = xs.length := by
  simp only [lag, blank, roll, List.length_append, List.length_replicate, List.length_drop,
    List.length_rotate]
  omega

theorem reach_of_getElem? {column : List α → List β}
    (hlength : ∀ xs, (column xs).length = xs.length)
    (hcausal : ∀ xs ys i, i < xs.length → (column (xs ++ ys))[i]? = (column xs)[i]?)
    (hsettled : ∀ xs ys i, r ≤ i → i < ys.length →
      (column (xs ++ ys))[xs.length + i]? = (column ys)[i]?) : Reach r column := by
  refine ⟨⟨hlength, fun xs ys => ?_⟩, fun xs ys => List.ext_getElem? fun i => ?_⟩
  · rw [List.prefix_iff_getElem?]
    intro i hi
    rw [hlength] at hi
    rw [hcausal xs ys i hi, List.getElem?_eq_getElem]
  · rw [List.getElem?_drop, List.getElem?_drop, Nat.add_assoc]
    by_cases hi : r + i < ys.length
    · exact hsettled xs ys (r + i) (by omega) hi
    · rw [List.getElem?_eq_none (by rw [hlength, List.length_append]; omega),
        List.getElem?_eq_none (by rw [hlength]; omega)]

/-- **A lag reaches back as far as it lags.** -/
theorem reach_lag (k : Nat) : Reach k fun (xs : List (Option α)) => lag k xs := by
  refine reach_of_getElem? (length_lag k) (fun xs ys i hi => ?_) fun xs ys i hk hi => ?_
  · rw [getElem?_lag (by rw [List.length_append]; omega), getElem?_lag hi]
    split_ifs with hlt
    · rfl
    · exact List.getElem?_append_left (by omega)
  · rw [getElem?_lag (by rw [List.length_append]; omega), getElem?_lag hi, if_neg (by omega),
      if_neg (by omega), show xs.length + i - k = xs.length + (i - k) by omega,
      List.getElem?_append_right (by omega), Nat.add_sub_cancel_left]

theorem reach_blank (k : Nat) : Reach k fun (xs : List (Option α)) => blank k xs := by
  refine reach_of_getElem? (fun xs => by simp [blank]; omega) (fun xs ys i hi => ?_)
    fun xs ys i hk hi => ?_
  · rw [getElem?_blank (by rw [List.length_append]; omega), getElem?_blank hi,
      List.getElem?_append_left hi]
  · rw [getElem?_blank (by rw [List.length_append]; omega), getElem?_blank hi,
      if_neg (by omega), if_neg (by omega), List.getElem?_append_right (by omega),
      Nat.add_sub_cancel_left]

variable {xs : List (Option β)}

theorem blank_zipWith {f : Option β → Option γ → Option δ} (hf : ∀ x, f x none = none) (k : Nat)
    {ys : List (Option γ)} (hlength : xs.length = ys.length) :
    blank k (List.zipWith f xs ys) = List.zipWith f xs (blank k ys) := by
  have hsplit : xs = xs.take k ++ xs.drop k := (List.take_append_drop k xs).symm
  unfold blank
  conv_rhs => rw [hsplit]
  rw [List.zipWith_append (by simp [hlength]), List.drop_zipWith, List.length_zipWith]
  congr 1
  refine List.ext_getElem? fun i => ?_
  by_cases hi : i < min k ys.length
  · have hx : i < (xs.take k).length := by
      rw [List.length_take]
      omega
    rw [List.getElem?_replicate_of_lt (by omega), List.getElem?_zipWith,
      List.getElem?_replicate_of_lt hi, List.getElem?_eq_getElem hx]
    simp [hf]
  · rw [List.getElem?_eq_none (by simp; omega), List.getElem?_eq_none (by simp; omega)]

/-- A function of the last `size` entries, unknown while one of them is. -/
def rolling (f : List β → γ) (size : Nat) (xs : List (Option β)) : List (Option γ) :=
  (List.range xs.length).map fun i =>
    if i + 1 < size then none else ((window (size - 1) xs i).mapM id).map f

theorem getElem?_rolling (f : List β → γ) (size : Nat) (hi : i < xs.length) :
    (rolling f size xs)[i]? =
      some (if i + 1 < size then none else ((window (size - 1) xs i).mapM id).map f) := by
  simp [rolling, hi]

theorem window_append {xs ys : List β} (r : Nat) (hi : i < xs.length) :
    window r (xs ++ ys) i = window r xs i := by
  unfold window
  rw [List.take_append_of_le_length (by omega)]

theorem window_settled (xs ys : List β) (hr : r ≤ i) :
    window r (xs ++ ys) (xs.length + i) = window r ys i := by
  unfold window
  rw [show xs.length + i + 1 = xs.length + (i + 1) by omega, List.take_length_add_append,
    show xs.length + i - r = xs.length + (i - r) by omega, List.drop_length_add_append]

/-- **A rolling window reaches back over its size.** -/
theorem reach_rolling (f : List β → γ) (size : Nat) : Reach (size - 1) (rolling f size) := by
  refine reach_of_getElem? (by simp [rolling]) (fun xs ys i hi => ?_) fun xs ys i hk hi => ?_
  · rw [getElem?_rolling f size (by rw [List.length_append]; omega), getElem?_rolling f size hi,
      window_append _ hi]
  · rw [getElem?_rolling f size (by rw [List.length_append]; omega), getElem?_rolling f size hi,
      window_settled xs ys hk, if_neg (by omega), if_neg (by omega)]

theorem map_some_of_mapM {values : List β}
    (h : xs.mapM id = some values) : xs = values.map some := by
  induction xs generalizing values with
  | nil => cases h; rfl
  | cons x xs ih =>
      cases x with
      | none => simp [List.mapM_cons] at h
      | some value =>
          cases hrest : xs.mapM id with
          | none => simp [List.mapM_cons, hrest] at h
          | some rest =>
              simp only [List.mapM_cons, hrest, id_eq, bind, Option.bind, pure,
                Option.some.injEq] at h
              subst h
              rw [ih hrest, List.map_cons]

theorem known_of_rolling {f : List β → γ} {c : γ} (h : (rolling f size xs)[i]? = some (some c)) :
    ∀ x ∈ window (size - 1) xs i, x ≠ none := by
  have hi : i < xs.length := by
    have hlt := (List.getElem?_eq_some_iff.mp h).1
    simpa [rolling] using hlt
  rw [getElem?_rolling f size hi] at h
  split_ifs at h with hshort
  · simp at h
  · rintro x hx rfl
    obtain ⟨values, hvalues, -⟩ := Option.map_eq_some_iff.mp (Option.some.inj h)
    rw [map_some_of_mapM hvalues] at hx
    simp at hx

/-- The rows since the last mark, counted up to a cap from the row at an index. -/
def countFrom (cap i : Nat) (last : Option Nat) : List Bool → List (Option Nat)
  | [] => []
  | mark :: marks =>
      let last' := if mark then some i else last
      last'.map (fun (l : Nat) => min (i - l) cap) :: countFrom cap (i + 1) last' marks

def countSince (cap : Nat) (marks : List Bool) : List (Option Nat) :=
  countFrom cap 0 none marks

def lastMark (i : Nat) (last : Option Nat) : List Bool → Option Nat
  | [] => last
  | mark :: marks => lastMark (i + 1) (if mark then some i else last) marks

variable {cap : Nat}

theorem length_countFrom (i : Nat) (last : Option Nat) (marks : List Bool) :
    (countFrom cap i last marks).length = marks.length := by
  induction marks generalizing i last with
  | nil => rfl
  | cons mark marks ih => simp [countFrom, ih]

theorem countFrom_append (i : Nat) (last : Option Nat) (marks marks' : List Bool) :
    countFrom cap i last (marks ++ marks') =
      countFrom cap i last marks ++
        countFrom cap (i + marks.length) (lastMark i last marks) marks' := by
  induction marks generalizing i last with
  | nil => rfl
  | cons mark marks ih =>
      simp only [List.cons_append, countFrom, lastMark, ih, List.length_cons]
      rw [show i + 1 + marks.length = i + (marks.length + 1) by omega]

variable {marks front : List Bool}

theorem lastMark_unmarked (i : Nat) (h : ∀ mark ∈ marks, mark = false) :
    lastMark i none marks = none := by
  induction marks generalizing i with
  | nil => rfl
  | cons mark marks ih =>
      rw [lastMark, h mark List.mem_cons_self]
      exact ih (i + 1) fun m hm => h m (List.mem_cons_of_mem _ hm)

theorem countFrom_of_known {last last' : Option Nat}
    (hlast : ∀ l, last = some l → ∃ l', last' = some l' ∧ l ≤ i ∧ l' ≤ j ∧ i - l = j - l')
    (h : (countFrom cap i last marks)[k]? = some (some v)) :
    (countFrom cap j last' marks)[k]? = some (some v) := by
  induction marks generalizing i j k last last' with
  | nil => simp [countFrom] at h
  | cons mark marks ih =>
      simp only [countFrom] at h ⊢
      cases mark with
      | true =>
          cases k with
          | zero => simpa using h
          | succ k =>
              simp only [if_true, List.getElem?_cons_succ] at h ⊢
              exact ih (fun l hl => ⟨j, rfl, by cases hl; omega⟩) h
      | false =>
          simp only [Bool.false_eq_true, if_false] at h ⊢
          cases k with
          | zero =>
              simp only [List.getElem?_cons_zero, Option.some.injEq,
                Option.map_eq_some_iff] at h ⊢
              obtain ⟨l, hl, hv⟩ := h
              obtain ⟨l', hl', -, -, heq⟩ := hlast l hl
              exact ⟨l', hl', by rw [← heq]; exact hv⟩
          | succ k =>
              simp only [List.getElem?_cons_succ] at h ⊢
              refine ih (fun l hl => ?_) h
              obtain ⟨l', hl', hi, hj, heq⟩ := hlast l hl
              exact ⟨l', hl', by omega, by omega, by omega⟩

/-- **A distance that is known behind rows without a mark is the same behind any rows.** -/
theorem countSince_of_known (front' : List Bool) (hfront : ∀ mark ∈ front, mark = false)
    (h : (countSince cap (front ++ marks))[front.length + k]? = some (some v)) :
    (countSince cap (front' ++ marks))[front'.length + k]? = some (some v) := by
  unfold countSince at h ⊢
  rw [countFrom_append, List.getElem?_append_right (by rw [length_countFrom]; omega),
    length_countFrom, Nat.add_sub_cancel_left, lastMark_unmarked 0 hfront] at h
  rw [countFrom_append, List.getElem?_append_right (by rw [length_countFrom]; omega),
    length_countFrom, Nat.add_sub_cancel_left]
  exact countFrom_of_known (by simp) h

theorem countSince_causal : Causal (countSince cap) := by
  refine ⟨fun marks => length_countFrom 0 none marks, fun marks marks' => ?_⟩
  unfold countSince
  rw [countFrom_append]
  exact List.prefix_append _ _

end Columns
end FxStrategyLab.Library
