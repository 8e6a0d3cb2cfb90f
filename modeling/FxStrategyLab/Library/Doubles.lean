import FxStrategyLab.Library.Rounding

/-!
# Doubles

A number in double precision by its exact value, with the infinities and the value that is no
number.  Signed zeros are not kept apart.

**Results.** `sub_nonneg`.
-/

namespace FxStrategyLab.Library
namespace Doubles

open Rounding (roundHalfEven)

/-- A double: no number, an infinity by its sign, or a finite value. -/
inductive Double
  | nan
  | infinite (negative : Bool)
  | finite (value : ℚ)
deriving DecidableEq

/-- The exponent of the last place of a value: 52 places behind the first one, and none behind
the last place of the least doubles. -/
def lastPlace (x : ℚ) : Int :=
  max (Int.log 2 |x| - 52) (-1074)

def roundToPlace (x : ℚ) : ℚ :=
  roundHalfEven (x / 2 ^ lastPlace x) * 2 ^ lastPlace x

def Double.ofRat (x : ℚ) : Double :=
  if 2 ^ 1024 ≤ |roundToPlace x| then .infinite (decide (x < 0)) else .finite (roundToPlace x)

/-- The order of doubles; nothing is below or above what is no number. -/
def Double.lt : Double → Double → Bool
  | .nan, _ => false
  | _, .nan => false
  | .finite x, .finite y => x < y
  | .infinite negative, .infinite negative' => negative && !negative'
  | .infinite negative, .finite _ => negative
  | .finite _, .infinite negative => !negative

/-- The difference of doubles. -/
def Double.sub : Double → Double → Double
  | .nan, _ => .nan
  | _, .nan => .nan
  | .finite x, .finite y => .ofRat (x - y)
  | .infinite negative, .infinite negative' =>
      if negative = negative' then .nan else .infinite negative
  | .infinite negative, .finite _ => .infinite negative
  | .finite _, .infinite negative => .infinite (!negative)

def Double.valueOrZero : Double → ℚ
  | .finite x => x
  | _ => 0

def Double.IsFinite (d : Double) : Prop :=
  ∃ x, d = .finite x

theorem Double.IsFinite.finite_valueOrZero {d : Double} (h : d.IsFinite) :
    .finite d.valueOrZero = d := by
  obtain ⟨x, rfl⟩ := h
  rfl

@[simp] theorem lt_finite (x y : ℚ) : (Double.finite x).lt (.finite y) = decide (x < y) := rfl

theorem roundToPlace_nonneg {x : ℚ} (h : 0 ≤ x) : 0 ≤ roundToPlace x := by
  have hplace : (0 : ℚ) < 2 ^ lastPlace x := by positivity
  have hfloor : (0 : Int) ≤ (x / 2 ^ lastPlace x).floor :=
    Rat.le_floor_iff.mpr (by push_cast; positivity)
  have hround : (0 : ℚ) ≤ roundHalfEven (x / 2 ^ lastPlace x) := by
    exact_mod_cast hfloor.trans (Rounding.floor_le_roundHalfEven _)
  exact mul_nonneg hround hplace.le

/-- **A finite difference to a double that is not above is not negative.** -/
theorem sub_nonneg {a b : Double} {x : ℚ} (h : a.lt b = false) (hsub : a.sub b = .finite x) :
    0 ≤ x := by
  cases a with
  | nan => cases b <;> simp [Double.sub] at hsub
  | infinite negative =>
      cases b with
      | nan => simp [Double.sub] at hsub
      | infinite negative' =>
          simp only [Double.sub] at hsub
          split_ifs at hsub
      | finite y => simp [Double.sub] at hsub
  | finite y =>
      cases b with
      | nan => simp [Double.sub] at hsub
      | infinite negative => simp [Double.sub] at hsub
      | finite z =>
          have hle : z ≤ y := by simpa using h
          simp only [Double.sub, Double.ofRat] at hsub
          split_ifs at hsub
          rw [← Double.finite.inj hsub]
          exact roundToPlace_nonneg (by linarith)

end Doubles
end FxStrategyLab.Library
