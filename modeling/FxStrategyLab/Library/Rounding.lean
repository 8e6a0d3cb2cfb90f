import FxStrategyLab.Library.Decide

/-!
# Rounding to decimal places

Python's `round` of an exact value: to the nearest multiple of a power of ten, a tie to the
even one.  It keeps the order of values, so a strict order of rounded values is one of the
values themselves.
-/

namespace FxStrategyLab.Library
namespace Rounding

def roundHalfEven (x : ℚ) : Int :=
  let rest := x - x.floor
  if rest < 1 / 2 then x.floor
  else if 1 / 2 < rest then x.floor + 1
  else if x.floor % 2 = 0 then x.floor
  else x.floor + 1

/-- Python's `round(x, digits)`. -/
def round (x : ℚ) (digits : Nat) : ℚ :=
  roundHalfEven (x * 10 ^ digits) / 10 ^ digits

theorem floor_le_roundHalfEven (x : ℚ) : x.floor ≤ roundHalfEven x := by
  unfold roundHalfEven
  dsimp only
  split_ifs <;> omega

theorem roundHalfEven_le_floor_add_one (x : ℚ) : roundHalfEven x ≤ x.floor + 1 := by
  unfold roundHalfEven
  dsimp only
  split_ifs <;> omega

variable {x y : ℚ}

theorem roundHalfEven_mono (h : x ≤ y) : roundHalfEven x ≤ roundHalfEven y := by
  rcases lt_or_eq_of_le (Rat.floor_monotone h) with hlt | heq
  · have hx := roundHalfEven_le_floor_add_one x
    have hy := floor_le_roundHalfEven y
    omega
  · unfold roundHalfEven
    rw [heq]
    have hrest : x - y.floor ≤ y - y.floor := by linarith
    dsimp only
    split_ifs <;> first | omega | (exfalso; linarith)

theorem roundHalfEven_near (x : ℚ) : |(roundHalfEven x : ℚ) - x| ≤ 1 / 2 := by
  have hlow : (x.floor : ℚ) ≤ x := Rat.floor_le x
  have hhigh : x < (x.floor : ℚ) + 1 := by
    simpa using Rat.lt_floor_add_one x
  rw [abs_le]
  unfold roundHalfEven
  dsimp only
  split_ifs <;> push_cast <;> constructor <;> linarith

theorem round_near_half (x : ℚ) (digits : Nat) :
    |round x digits - x| ≤ 1 / (2 * 10 ^ digits) := by
  have hpow : (0 : ℚ) < 10 ^ digits := by positivity
  have hnear := roundHalfEven_near (x * 10 ^ digits)
  have hscaled : round x digits - x =
      (roundHalfEven (x * 10 ^ digits) - x * 10 ^ digits) / 10 ^ digits := by
    unfold round
    field_simp
  rw [hscaled, abs_div, abs_of_pos hpow, div_le_div_iff₀ hpow (by positivity)]
  linarith [mul_le_mul_of_nonneg_right hnear hpow.le]

theorem round_near (x : ℚ) (digits : Nat) : |round x digits - x| ≤ 1 / 10 ^ digits := by
  have hpow : (0 : ℚ) < 10 ^ digits := by positivity
  have hlow : ((x * 10 ^ digits).floor : ℚ) ≤ x * 10 ^ digits := Rat.floor_le _
  have hhigh : x * 10 ^ digits < ((x * 10 ^ digits).floor : ℚ) + 1 := by
    simpa using Rat.lt_floor_add_one (x * 10 ^ digits)
  have hdown : ((x * 10 ^ digits).floor : ℚ) ≤ roundHalfEven (x * 10 ^ digits) := by
    exact_mod_cast floor_le_roundHalfEven (x * 10 ^ digits)
  have hup : (roundHalfEven (x * 10 ^ digits) : ℚ) ≤ (x * 10 ^ digits).floor + 1 := by
    exact_mod_cast roundHalfEven_le_floor_add_one (x * 10 ^ digits)
  have hscaled : round x digits - x =
      (roundHalfEven (x * 10 ^ digits) - x * 10 ^ digits) / 10 ^ digits := by
    rw [round, sub_div, mul_div_cancel_right₀ _ hpow.ne']
  rw [hscaled, abs_div, abs_of_pos hpow]
  refine div_le_div_of_nonneg_right (abs_le.mpr ⟨?_, ?_⟩) hpow.le
  · linarith
  · linarith

theorem round_mono (h : x ≤ y) (digits : Nat) : round x digits ≤ round y digits := by
  have hpow : (0 : ℚ) < 10 ^ digits := by positivity
  have hscaled : x * 10 ^ digits ≤ y * 10 ^ digits := mul_le_mul_of_nonneg_right h hpow.le
  have hrounded : ((roundHalfEven (x * 10 ^ digits) : Int) : ℚ) ≤
      (roundHalfEven (y * 10 ^ digits) : Int) := by
    exact_mod_cast roundHalfEven_mono hscaled
  exact div_le_div_of_nonneg_right hrounded hpow.le

theorem lt_of_round_lt {digits : Nat} (h : round x digits < round y digits) : x < y := by
  by_contra hle
  exact absurd (round_mono (not_lt.mp hle) digits) (not_le.mpr h)

theorem round_of_multiple (n : Int) (digits : Nat) :
    round (n / 10 ^ digits) digits = n / 10 ^ digits := by
  have hpow : (10 : ℚ) ^ digits ≠ 0 := by positivity
  have hscaled : (n : ℚ) / 10 ^ digits * 10 ^ digits = n := div_mul_cancel₀ _ hpow
  have hround : roundHalfEven (n : ℚ) = n := by
    simp [roundHalfEven, Rat.floor_intCast]
  rw [round, hscaled, hround]

theorem round_of_int (n : Int) (digits : Nat) : round n digits = n := by
  have hpow : (10 : ℚ) ^ digits ≠ 0 := by positivity
  have h := round_of_multiple (n * 10 ^ digits) digits
  rwa [Int.cast_mul, Int.cast_pow, Int.cast_ofNat, mul_div_cancel_right₀ _ hpow] at h

theorem round_round (x : ℚ) (digits : Nat) : round (round x digits) digits = round x digits :=
  round_of_multiple _ _

end Rounding
end FxStrategyLab.Library
