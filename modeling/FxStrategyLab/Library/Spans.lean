import FxStrategyLab.Library.Ranks

/-!
# Spans of increasing lists

A half-open span of keys cuts a piece out of a list whose keys increase.  Adjacent spans give
adjacent pieces, so a span that is tiled by smaller ones is the concatenation of their pieces:
every row lies in one tile, and a relation of neighbours holds along the span exactly when it
holds along the tiles and across their edges.

**Results.** `span_append`, `existsUnique_tile` and `isChain_span_iff`.
-/

namespace FxStrategyLab.Library
namespace Ranks

universe u v

variable {ρ : Type u} {τ : Type v} [LinearOrder τ] {key : ρ → τ} {rows : List ρ}

/-- The rows with a key after `low` and up to `high`. -/
def span (key : ρ → τ) (rows : List ρ) (low high : τ) : List ρ :=
  rows.filter fun row => low < key row ∧ key row ≤ high

@[simp]
theorem mem_span {low high : τ} {row : ρ} :
    row ∈ span key rows low high ↔ row ∈ rows ∧ low < key row ∧ key row ≤ high := by
  simp [span]

theorem span_append (h : Increasing key rows) {low middle high : τ} (hlow : low ≤ middle)
    (hhigh : middle ≤ high) :
    span key rows low high = span key rows low middle ++ span key rows middle high := by
  induction rows with
  | nil => rfl
  | cons row rows ih =>
      obtain ⟨hlater, hrows⟩ := List.pairwise_cons.mp h
      have hrest := ih hrows
      unfold span at hrest ⊢
      by_cases hmiddle : key row ≤ middle
      · have hbelow : key row ≤ high := hmiddle.trans hhigh
        by_cases hafter : low < key row
        · simpa [List.filter_cons, hmiddle, hbelow, hafter, not_lt.mpr hmiddle] using hrest
        · simpa [List.filter_cons, hafter, not_lt.mpr hmiddle] using hrest
      · -- nothing after a row above the middle lies below it
        have hempty : (rows.filter fun other => low < key other ∧ key other ≤ middle) = [] := by
          rw [List.filter_eq_nil_iff]
          intro other hother
          have hgreater := (not_le.mp hmiddle).trans (hlater other hother)
          simp [not_le.mpr hgreater]
        have hafter : middle < key row := not_le.mp hmiddle
        have hlowRow : low < key row := hlow.trans_lt hafter
        simp only [List.filter_cons, hmiddle, hafter, hlowRow, and_false, true_and, decide_false,
          Bool.false_eq_true, if_false, hempty, List.nil_append]
        rw [hempty, List.nil_append] at hrest
        rw [hrest]

theorem upTo_append (h : Increasing key rows) (limit : τ) :
    rows = (rows.filter fun row => key row ≤ limit) ++
      rows.filter fun row => limit < key row := by
  induction rows with
  | nil => rfl
  | cons row rows ih =>
      obtain ⟨hlater, hrows⟩ := List.pairwise_cons.mp h
      by_cases hrow : key row ≤ limit
      · simpa [List.filter_cons, hrow, not_lt.mpr hrow] using ih hrows
      · have hafter : limit < key row := not_le.mp hrow
        have hnone : (rows.filter fun other => key other ≤ limit) = [] := by
          rw [List.filter_eq_nil_iff]
          intro other hother
          have hgreater := hafter.trans (hlater other hother)
          simp [not_le.mpr hgreater]
        have hall : (rows.filter fun other => limit < key other) = rows := by
          rw [List.filter_eq_self]
          intro other hother
          have hgreater := hafter.trans (hlater other hother)
          simp [hgreater]
        simp [List.filter_cons, hrow, hafter, hnone, hall]

section Tiles

/-! ## Tiles

The bounds come in descending order: tile `k` lies between bound `k + 1` and bound `k`. -/

variable {bound : Nat → τ}

def tile (key : ρ → τ) (rows : List ρ) (bound : Nat → τ) (k : Nat) : List ρ :=
  span key rows (bound (k + 1)) (bound k)

theorem span_succ (h : Increasing key rows) (hbound : Antitone bound) (n : Nat) :
    span key rows (bound (n + 1)) (bound 0) =
      tile key rows bound n ++ span key rows (bound n) (bound 0) :=
  span_append h (hbound n.le_succ) (hbound n.zero_le)

/-- **Every row of a tiled span lies in exactly one tile.** -/
theorem existsUnique_tile (hbound : Antitone bound) {n : Nat} {row : ρ}
    (hrow : row ∈ span key rows (bound n) (bound 0)) :
    ∃! k, k < n ∧ row ∈ tile key rows bound k := by
  obtain ⟨hmem, hlow, hhigh⟩ := mem_span.mp hrow
  have hexists : ∃ k, bound (k + 1) < key row := by
    cases n with
    | zero => exact absurd hhigh (not_le.mpr hlow)
    | succ n => exact ⟨n, hlow⟩
  classical
  -- the first bound below the row
  let k := Nat.find hexists
  have hbelow : bound (k + 1) < key row := Nat.find_spec hexists
  have hup : ∀ j, j ≤ k → key row ≤ bound j := by
    intro j hj
    cases j with
    | zero => exact hhigh
    | succ j => exact not_lt.mp (Nat.find_min hexists hj)
  refine ⟨k, ⟨?_, mem_span.mpr ⟨hmem, hbelow, hup k le_rfl⟩⟩, ?_⟩
  · by_contra hge
    exact absurd (hup n (not_lt.mp hge)) (not_le.mpr hlow)
  · rintro other ⟨-, hother⟩
    obtain ⟨-, hotherLow, hotherHigh⟩ := mem_span.mp hother
    rcases lt_trichotomy other k with hless | heq | hmore
    · exact absurd (hup (other + 1) hless) (not_le.mpr hotherLow)
    · exact heq
    · exact absurd (hotherHigh.trans (hbound hmore)) (not_le.mpr hbelow)

theorem head?_span (h : Increasing key rows) (hbound : Antitone bound) {n : Nat}
    (hfull : tile key rows bound n ≠ []) :
    (span key rows (bound (n + 1)) (bound 0)).head? = (tile key rows bound n).head? := by
  rw [span_succ h hbound, List.head?_append_of_ne_nil _ hfull]

/-- **Neighbours are related along a tiled span exactly when they are along every tile and
across the edges.** -/
theorem isChain_span_iff (h : Increasing key rows) (hbound : Antitone bound)
    {R : ρ → ρ → Prop} {n : Nat} (hfull : ∀ k < n, tile key rows bound k ≠ []) :
    (span key rows (bound n) (bound 0)).IsChain R ↔
      (∀ k < n, (tile key rows bound k).IsChain R) ∧
        ∀ k, k + 1 < n → ∀ last ∈ (tile key rows bound (k + 1)).getLast?,
          ∀ first ∈ (tile key rows bound k).head?, R last first := by
  induction n with
  | zero =>
      have hempty : span key rows (bound 0) (bound 0) = [] := by
        rw [List.eq_nil_iff_forall_not_mem]
        intro row hrow
        obtain ⟨-, hlow, hhigh⟩ := mem_span.mp hrow
        exact absurd hhigh (not_le.mpr hlow)
      simp [hempty]
  | succ n ih =>
      rw [span_succ h hbound, List.isChain_append, ih fun k hk => hfull k (by omega),
        Nat.forall_lt_succ_right]
      constructor
      · rintro ⟨htile, ⟨htiles, hedges⟩, hedge⟩
        refine ⟨⟨htiles, htile⟩, fun k hk last hlast first hfirst => ?_⟩
        rcases Nat.lt_succ_iff_lt_or_eq.mp hk with hless | rfl
        · exact hedges k hless last hlast first hfirst
        · rw [head?_span h hbound (hfull k (by omega))] at hedge
          exact hedge last hlast first hfirst
      · rintro ⟨⟨htiles, htile⟩, hedges⟩
        refine ⟨htile, ⟨htiles, fun k hk => hedges k (by omega)⟩, ?_⟩
        cases n with
        | zero =>
            intro last hlast first hfirst
            obtain ⟨-, hlow, hhigh⟩ := mem_span.mp (List.mem_of_head? hfirst)
            exact absurd hhigh (not_le.mpr hlow)
        | succ k =>
            rw [head?_span h hbound (hfull k (by omega))]
            exact hedges k (by omega)

end Tiles

end Ranks
end FxStrategyLab.Library
