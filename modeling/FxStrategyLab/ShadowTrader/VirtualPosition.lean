import FxStrategyLab.Library.Decide

/-!
# The virtual position of a shadow trader

A position is a book of signed units and an average price.  A fill in its direction is averaged
in, a fill against it leaves the average of what stays open, and a fill through zero starts a
new book at its own price.  So the average weighs each fill that opened or increased the
position by the part of it that is still open: a partial reduction takes the same share of each.

**Results.** `applyFill_book`, `average_of_openEntries` and `virtual_position_book`.
-/

namespace FxStrategyLab.ShadowTrader

inductive Side
  | buy
  | sell

inductive PositionSide
  | long
  | short
  | flat
deriving DecidableEq

/-- Source `VirtualOrder`, which refuses units that are not positive. -/
structure VirtualOrder where
  side : Side
  units : Int
  price : ℚ
  positive : 0 < units

structure VirtualPosition where
  symbol : String
  side : PositionSide := .flat
  units : Int := 0
  avgPrice : ℚ := 0

/-- `signed` of a fill. -/
def VirtualOrder.signed (order : VirtualOrder) : Int :=
  match order.side with
  | .buy => order.units
  | .sell => -order.units

namespace VirtualPosition

variable (position : VirtualPosition)

/-- `current` of a position. -/
def current : Int :=
  match position.side with
  | .long => position.units
  | .short => -position.units
  | .flat => 0

def sideOf (net : Int) : PositionSide :=
  if 0 < net then .long else if net < 0 then .short else .flat

def averageAfter (order : VirtualOrder) : ℚ :=
  let signed := order.signed
  let current := position.current
  let net := current + signed
  if current ≠ 0 ∧ ((0 < current) ↔ (0 < signed)) then
    (position.avgPrice * |current| + order.price * |signed|) / ((|current| + |signed| : Int) : ℚ)
  else if net = 0 then 0
  else if ¬ ((0 < net) ↔ (0 < current)) ∨ current = 0 then order.price
  else position.avgPrice

def applyFill (order : VirtualOrder) : VirtualPosition :=
  let net := position.current + order.signed
  { position with
    side := sideOf net
    units := |net|
    avgPrice := if sideOf net = .flat then 0 else position.averageAfter order }

def unrealizedPnl (price : ℚ) : ℚ :=
  match position.side with
  | .long => (price - position.avgPrice) * position.units
  | .short => (position.avgPrice - price) * position.units
  | .flat => 0

def afterFills (fills : List VirtualOrder) : VirtualPosition :=
  fills.foldl applyFill position

end VirtualPosition

open VirtualPosition

variable (fills : List VirtualOrder)

def netUnits : Int :=
  (fills.map VirtualOrder.signed).sum

def cashFlow : ℚ :=
  (fills.map fun order => -((order.signed : ℚ) * order.price)).sum

/-- A size at a price. -/
structure Entry where
  size : ℚ
  price : ℚ

def totalSize (entries : List Entry) : ℚ :=
  (entries.map Entry.size).sum

def totalCost (entries : List Entry) : ℚ :=
  (entries.map fun entry => entry.size * entry.price).sum

def weightedAverage (entries : List Entry) : ℚ :=
  totalCost entries / totalSize entries

def scaled (share : ℚ) (entries : List Entry) : List Entry :=
  entries.map fun entry => { entry with size := share * entry.size }

/-- The entries behind a fill that finds signed units: it opens, increases, closes, reduces or
flips the position.  A reduction keeps of the entries what `keep` says. -/
def entriesAfter (keep : ℚ → List Entry → List Entry) (net : Int) (entries : List Entry)
    (order : VirtualOrder) : List Entry :=
  let net' := net + order.signed
  if net' = 0 then []
  else if 0 ≤ net * order.signed then entries ++ [⟨|order.signed|, order.price⟩]
  else if 0 < net * net' then keep (|net'| / |net|) entries
  else [⟨|net'|, order.price⟩]

def runEntries (keep : ℚ → List Entry → List Entry) (fills : List VirtualOrder) :
    Int × List Entry :=
  fills.foldl
    (fun state order => (state.1 + order.signed, entriesAfter keep state.1 state.2 order)) (0, [])

/-- The fills that opened or increased the position since it was last flat or flipped, each with
the part of it that is still open. -/
def openEntries : List Entry :=
  (runEntries scaled fills).2

/-- The fills that opened or increased the position since it was last flat or flipped, each with
its whole size. -/
def enteredFills : List Entry :=
  (runEntries (fun _ entries => entries) fills).2

/-- What a fill realises against a position. -/
def realizedBy (position : VirtualPosition) (order : VirtualOrder) : ℚ :=
  if position.current * order.signed < 0 then
    let closed := min position.units order.units
    match position.side with
    | .long => closed * (order.price - position.avgPrice)
    | .short => closed * (position.avgPrice - order.price)
    | .flat => 0
  else 0

/-- What fills realise one after the other. -/
def realizedPnl : VirtualPosition → List VirtualOrder → ℚ
  | _, [] => 0
  | position, order :: fills =>
      realizedBy position order + realizedPnl (position.applyFill order) fills

variable (symbol : String)

/-- The position of signed units at an average price. -/
def book (net : Int) (avgPrice : ℚ) : VirtualPosition where
  symbol := symbol
  side := sideOf net
  units := |net|
  avgPrice := avgPrice

/-- The average price behind a fill that finds signed units at an average price. -/
def nextAverage (net : Int) (avgPrice : ℚ) (order : VirtualOrder) : ℚ :=
  let net' := net + order.signed
  if net' = 0 then 0
  else if 0 ≤ net * order.signed then
    (avgPrice * |net| + order.price * |order.signed|) / |net'|
  else if 0 < net * net' then avgPrice
  else order.price

theorem signed_ne_zero (order : VirtualOrder) : order.signed ≠ 0 := by
  have hpositive := order.positive
  unfold VirtualOrder.signed
  cases order.side <;> dsimp only <;> omega

theorem abs_signed (order : VirtualOrder) : |order.signed| = order.units := by
  have hpositive := order.positive
  unfold VirtualOrder.signed
  cases order.side with
  | buy => exact abs_of_pos hpositive
  | sell => simpa using hpositive.le

@[simp] theorem book_current (net : Int) (avgPrice : ℚ) :
    (book symbol net avgPrice).current = net := by
  rcases lt_trichotomy net 0 with hneg | rfl | hpos
  · simp [book, current, sideOf, hneg, not_lt.mpr hneg.le, abs_of_neg hneg]
  · simp [book, current, sideOf]
  · simp [book, current, sideOf, hpos, abs_of_pos hpos]

variable {net signed : Int}

@[simp] theorem sideOf_eq_flat : sideOf net = .flat ↔ net = 0 := by
  unfold sideOf
  split_ifs <;> simp <;> omega

theorem abs_add_of_same (h : 0 ≤ net * signed) : |net + signed| = |net| + |signed| :=
  (abs_add_eq_add_abs_iff net signed).mpr (by
    rcases mul_nonneg_iff.mp h with hpos | hneg
    · exact Or.inl hpos
    · exact Or.inr hneg)

/-- **A fill of the code is a fill of the book.** -/
theorem applyFill_book (net : Int) (avgPrice : ℚ) (order : VirtualOrder) :
    (book symbol net avgPrice).applyFill order =
      book symbol (net + order.signed) (nextAverage net avgPrice order) := by
  have hne := signed_ne_zero order
  have haverage : net + order.signed ≠ 0 →
      (book symbol net avgPrice).averageAfter order = nextAverage net avgPrice order := by
    intro hnet
    simp only [averageAfter, nextAverage, book_current, if_neg hnet]
    by_cases hzero : net = 0
    · subst hzero
      simp only [zero_add] at hnet ⊢
      simp [hne]
    · by_cases hsame : (0 < net) ↔ (0 < order.signed)
      · have hnonneg : 0 ≤ net * order.signed := by
          rcases lt_or_gt_of_ne hzero with hneg | hpos
          · exact mul_nonneg_of_nonpos_of_nonpos hneg.le (by omega)
          · exact mul_nonneg hpos.le (by omega)
        rw [if_pos ⟨hzero, hsame⟩, if_pos hnonneg, abs_add_of_same hnonneg]
        rfl
      · have hopposite : ¬ 0 ≤ net * order.signed := by
          rw [not_le]
          rcases lt_or_gt_of_ne hzero with hneg | hpos
          · exact mul_neg_of_neg_of_pos hneg (by omega)
          · exact mul_neg_of_pos_of_neg hpos (by omega)
        rw [if_neg (fun h => hsame h.2), if_neg hopposite]
        have hthrough : (¬ ((0 < net + order.signed) ↔ (0 < net)) ∨ net = 0) ↔
            ¬ 0 < net * (net + order.signed) := by
          rcases lt_or_gt_of_ne hzero with hneg | hpos
          · have hbelow : ¬ 0 < net := not_lt.mpr hneg.le
            simp only [mul_pos_iff, hneg, hbelow, hzero, false_and, false_or, true_and, or_false,
              iff_false, not_not]
            omega
          · rw [mul_pos_iff_of_pos_left hpos]
            omega
        by_cases hkeep : 0 < net * (net + order.signed)
        · rw [if_pos hkeep, if_neg (fun h => hthrough.mp h hkeep)]
          rfl
        · rw [if_neg hkeep, if_pos (hthrough.mpr hkeep)]
  unfold applyFill
  simp only [book_current]
  by_cases hnet : net + order.signed = 0
  · simp [book, hnet, nextAverage]
  · have hside : sideOf (net + order.signed) ≠ .flat := fun h => hnet (sideOf_eq_flat.mp h)
    rw [haverage hnet, if_neg hside]
    rfl

@[simp] theorem totalSize_append (entries entries' : List Entry) :
    totalSize (entries ++ entries') = totalSize entries + totalSize entries' := by
  simp [totalSize]

@[simp] theorem totalCost_append (entries entries' : List Entry) :
    totalCost (entries ++ entries') = totalCost entries + totalCost entries' := by
  simp [totalCost]

theorem totalSize_scaled (share : ℚ) (entries : List Entry) :
    totalSize (scaled share entries) = share * totalSize entries := by
  induction entries with
  | nil => simp [totalSize, scaled]
  | cons entry entries ih =>
      simp only [totalSize, scaled, List.map_cons, List.sum_cons] at ih ⊢
      rw [ih]
      ring

theorem totalCost_scaled (share : ℚ) (entries : List Entry) :
    totalCost (scaled share entries) = share * totalCost entries := by
  induction entries with
  | nil => simp [totalCost, scaled]
  | cons entry entries ih =>
      simp only [totalCost, scaled, List.map_cons, List.sum_cons] at ih ⊢
      rw [ih]
      ring

/-- Entries stand behind signed units at an average price. -/
structure Backs (entries : List Entry) (net : Int) (avgPrice : ℚ) : Prop where
  size : totalSize entries = (|net| : Int)
  cost : totalCost entries = avgPrice * (|net| : Int)
  flat : net = 0 → avgPrice = 0

theorem average_of_openEntries {entries : List Entry} {avgPrice : ℚ}
    (h : Backs entries net avgPrice) (hnet : net ≠ 0) : avgPrice = weightedAverage entries := by
  have habs : ((|net| : Int) : ℚ) ≠ 0 := by exact_mod_cast abs_ne_zero.mpr hnet
  rw [weightedAverage, h.size, h.cost, mul_div_cancel_right₀ _ habs]

/-- **Behind a fill, the entries stand behind the book.** -/
theorem Backs.step {entries : List Entry} {avgPrice : ℚ}
    (h : Backs entries net avgPrice) (order : VirtualOrder) :
    Backs (entriesAfter scaled net entries order) (net + order.signed)
      (nextAverage net avgPrice order) := by
  unfold entriesAfter nextAverage
  dsimp only
  by_cases hclosed : net + order.signed = 0
  · simp only [hclosed, if_true]
    exact ⟨by simp [totalSize], by simp [totalCost], fun _ => rfl⟩
  · have hnet' : ((|net + order.signed| : Int) : ℚ) ≠ 0 := by
      exact_mod_cast abs_ne_zero.mpr hclosed
    simp only [hclosed, if_false]
    by_cases hsame : 0 ≤ net * order.signed
    · have hadd := abs_add_of_same hsame
      have hadd' : ((|net + order.signed| : Int) : ℚ) = (|net| : Int) + (|order.signed| : Int) := by
        exact_mod_cast hadd
      simp only [hsame, if_true]
      refine ⟨?_, ?_, fun hzero => absurd hzero hclosed⟩
      · rw [totalSize_append, h.size, hadd']
        simp [totalSize]
      · rw [totalCost_append, h.cost, div_mul_cancel₀ _ hnet']
        simp [totalCost]
        ring
    · simp only [hsame, if_false]
      have hnet : ((|net| : Int) : ℚ) ≠ 0 := by
        have : net ≠ 0 := fun hzero => hsame (by simp [hzero])
        exact_mod_cast abs_ne_zero.mpr this
      by_cases hkeep : 0 < net * (net + order.signed)
      · simp only [hkeep, if_true]
        refine ⟨?_, ?_, fun hzero => absurd hzero hclosed⟩
        · rw [totalSize_scaled, h.size, div_mul_cancel₀ _ hnet]
        · rw [totalCost_scaled, h.cost]
          field_simp
      · simp only [hkeep, if_false]
        refine ⟨?_, ?_, fun hzero => absurd hzero hclosed⟩
        · simp [totalSize]
        · simp [totalCost, mul_comm]

/-- What a fill realises is its cash, and what it changes of the value at the average prices. -/
theorem realizedBy_book (net : Int) (avgPrice : ℚ) (order : VirtualOrder) :
    realizedBy (book symbol net avgPrice) order + net * avgPrice =
      -(order.signed * order.price) +
        ((net + order.signed : Int) : ℚ) * nextAverage net avgPrice order := by
  have habs := abs_signed order
  unfold realizedBy nextAverage
  simp only [book_current]
  by_cases hsame : 0 ≤ net * order.signed
  · rw [if_neg (not_lt.mpr hsame)]
    by_cases hclosed : net + order.signed = 0
    · have hzero : net = 0 := by
        have hback : order.signed = -net := by omega
        rw [hback] at hsame
        nlinarith
      have := signed_ne_zero order
      omega
    · have hne : (net : ℚ) + order.signed ≠ 0 := by exact_mod_cast hclosed
      rw [if_neg hclosed, if_pos hsame]
      rcases mul_nonneg_iff.mp hsame with ⟨hn, hs⟩ | ⟨hn, hs⟩
      · rw [abs_of_nonneg hn, abs_of_nonneg hs, abs_of_nonneg (add_nonneg hn hs)]
        push_cast
        field_simp
        ring
      · rw [abs_of_nonpos hn, abs_of_nonpos hs, abs_of_nonpos (add_nonpos hn hs)]
        push_cast
        rw [div_neg]
        field_simp
        ring
  · rw [if_pos (not_le.mp hsame), if_neg hsame]
    rcases mul_neg_iff.mp (not_le.mp hsame) with ⟨hn, hs⟩ | ⟨hn, hs⟩
    · -- a sale out of a long position
      have hunits : order.units = -order.signed := by rw [← habs, abs_of_neg hs]
      simp only [book, sideOf, hn, if_true, abs_of_pos hn, hunits]
      by_cases hclosed : net + order.signed = 0
      · have hback : order.signed = -net := by omega
        simp [hback]
        ring
      · by_cases hkeep : 0 < net * (net + order.signed)
        · have hpart : -order.signed ≤ net := by
            have := (mul_pos_iff_of_pos_left hn).mp hkeep
            omega
          simp only [hclosed, hkeep, if_false, if_true, min_eq_right hpart]
          push_cast
          ring
        · have hall : net ≤ -order.signed := by
            have := (mul_pos_iff_of_pos_left hn).not.mp hkeep
            omega
          simp only [hclosed, hkeep, if_false, min_eq_left hall]
          push_cast
          ring
    · -- a buy against a short position
      have hbelow : ¬ 0 < net := not_lt.mpr hn.le
      have hunits : order.units = order.signed := by rw [← habs, abs_of_pos hs]
      simp only [book, sideOf, hn, hbelow, if_true, if_false, abs_of_neg hn, hunits]
      by_cases hclosed : net + order.signed = 0
      · have hback : order.signed = -net := by omega
        simp [hback]
        ring
      · by_cases hkeep : 0 < net * (net + order.signed)
        · have hpart : order.signed ≤ -net := by
            have := (mul_pos_iff.mp hkeep).resolve_left fun h => hbelow h.1
            omega
          simp only [hclosed, hkeep, if_false, if_true, min_eq_right hpart]
          push_cast
          ring
        · have hall : -net ≤ order.signed := by
            by_contra hpart
            exact hkeep (mul_pos_of_neg_of_neg hn (by omega))
          simp only [hclosed, hkeep, if_false, min_eq_left hall]
          push_cast
          ring

section Runs

variable (symbol : String) (fills : List VirtualOrder)

theorem realizedPnl_append (position : VirtualPosition) (order : VirtualOrder) :
    realizedPnl position (fills ++ [order]) =
      realizedPnl position fills + realizedBy (position.afterFills fills) order := by
  induction fills generalizing position with
  | nil => simp [realizedPnl, afterFills]
  | cons first fills ih =>
      simp only [List.cons_append, realizedPnl, ih, afterFills, List.foldl_cons]
      ring

theorem runEntries_units (keep : ℚ → List Entry → List Entry) :
    (runEntries keep fills).1 = netUnits fills := by
  induction fills using List.reverseRecOn with
  | nil => rfl
  | append_singleton fills order ih =>
      simp only [runEntries, netUnits] at ih ⊢
      simp [ih]

/-- A run of fills from a flat position keeps a book: its entries stand behind the units, and
what was realised is the cash with the value at the average price. -/
structure KeepsBook (avgPrice : ℚ) : Prop where
  position : ({ symbol } : VirtualPosition).afterFills fills =
    book symbol (netUnits fills) avgPrice
  backs : Backs (openEntries fills) (netUnits fills) avgPrice
  realized : realizedPnl { symbol } fills = cashFlow fills + netUnits fills * avgPrice

/-- **Every run of fills keeps a book.** -/
theorem keepsBook : ∃ avgPrice, KeepsBook symbol fills avgPrice := by
  induction fills using List.reverseRecOn with
  | nil =>
      refine ⟨0, ⟨rfl, ⟨?_, ?_, fun _ => rfl⟩, ?_⟩⟩
      · simp [openEntries, runEntries, totalSize, netUnits]
      · simp [openEntries, runEntries, totalCost, netUnits]
      · simp [realizedPnl, cashFlow, netUnits]
  | append_singleton fills order ih =>
      obtain ⟨avgPrice, hposition, hbacks, hrealized⟩ := ih
      have hnet : netUnits (fills ++ [order]) = netUnits fills + order.signed := by
        simp [netUnits]
      refine ⟨nextAverage (netUnits fills) avgPrice order, ⟨?_, ?_, ?_⟩⟩
      · rw [hnet, ← applyFill_book, ← hposition]
        simp [afterFills]
      · have hstep := hbacks.step order
        have hentries : openEntries (fills ++ [order]) =
            entriesAfter scaled (netUnits fills) (openEntries fills) order := by
          have hunits := runEntries_units fills scaled
          simp only [openEntries, runEntries] at hunits ⊢
          simp [hunits]
        rw [hnet, hentries]
        exact hstep
      · have hfill := realizedBy_book symbol (netUnits fills) avgPrice order
        rw [realizedPnl_append, hposition, hrealized, hnet]
        have hcash : cashFlow (fills ++ [order]) =
            cashFlow fills + -(order.signed * order.price) := by
          simp [cashFlow]
        rw [hcash]
        linarith

theorem unrealizedPnl_book (net : Int) (avgPrice price : ℚ) :
    (book symbol net avgPrice).unrealizedPnl price = net * (price - avgPrice) := by
  rcases lt_trichotomy net 0 with hneg | rfl | hpos
  · simp only [book, unrealizedPnl, sideOf, hneg, not_lt.mpr hneg.le, if_true, if_false,
      abs_of_neg hneg]
    push_cast
    ring
  · simp [book, unrealizedPnl, sideOf]
  · simp only [book, unrealizedPnl, sideOf, hpos, if_true, abs_of_pos hpos]
    ring

/-- **A virtual position is an average-cost book of its fills**: its units are those of the
fills, its average price weighs the fills that opened or increased it by what is still open of
them, and what is realised and unrealised at a price is the cash and the value at that price. -/
theorem virtual_position_book : let position := ({ symbol } : VirtualPosition).afterFills fills
    position.current = netUnits fills ∧ position.units = |netUnits fills| ∧
      position.side = sideOf (netUnits fills) ∧
      (netUnits fills = 0 → position.avgPrice = 0) ∧
      (netUnits fills ≠ 0 → position.avgPrice = weightedAverage (openEntries fills)) ∧
      totalSize (openEntries fills) = |netUnits fills| ∧
      ∀ price, realizedPnl { symbol } fills + position.unrealizedPnl price =
        cashFlow fills + netUnits fills * price := by
  obtain ⟨avgPrice, hposition, hbacks, hrealized⟩ := keepsBook symbol fills
  dsimp only
  rw [hposition]
  refine ⟨book_current _ _ _, rfl, rfl, hbacks.flat, average_of_openEntries hbacks, ?_,
    fun price => ?_⟩
  · exact_mod_cast hbacks.size
  · rw [hrealized, unrealizedPnl_book]
    ring

end Runs

def reducedThenIncreased : List VirtualOrder :=
  [⟨.buy, 2, 100, by decide⟩, ⟨.sell, 1, 110, by decide⟩, ⟨.buy, 1, 200, by decide⟩]

/-- A reduction leaves the average of what stays, not that of the whole fills. -/
theorem reduced_then_increased :
    netUnits reducedThenIncreased ≠ 0 ∧
      (({ symbol := "USD_JPY" } : VirtualPosition).afterFills reducedThenIncreased).avgPrice ≠
        weightedAverage (enteredFills reducedThenIncreased) := by
  decide +kernel

end FxStrategyLab.ShadowTrader
