import FxStrategyLab.Library.Decide

/-!
# Written numbers

Natural numbers padded with zeros, as in the fields of a date, and decimals in fixed-point
notation.  A padded number can be read back whatever its width; a decimal can be read back with
its sign, its coefficient and its number of places, so two spellings of one value differ.

**Results.** `padded_injective`, `length_padded` and `fixedPoint_injective`.
-/

namespace FxStrategyLab.Library
namespace Numerals

def padded (width n : Nat) : List Char :=
  List.replicate (width - (Nat.toDigits 10 n).length) '0' ++ Nat.toDigits 10 n

theorem ofDigitChars_padded (width n : Nat) : Nat.ofDigitChars 10 (padded width n) 0 = n := by
  simp [padded, Nat.ofDigitChars_append, Nat.ofDigitChars_replicate_zero,
    Nat.ofDigitChars_ten_toDigits]

variable {v w n m width k c p d q : Nat}

theorem padded_injective (h : padded v n = padded w m) : n = m := by
  rw [← ofDigitChars_padded v n, h, ofDigitChars_padded]

theorem width_le_length (width n : Nat) : width ≤ (padded width n).length := by
  simp [padded]
  omega

theorem isDigit_of_mem_padded {c : Char} (h : c ∈ padded width n) : c.isDigit = true := by
  rcases List.mem_append.mp h with hzero | hdigit
  · rw [(List.mem_replicate.mp hzero).2]
    decide
  · exact Nat.isDigit_of_mem_toDigits (by decide) (by decide) hdigit

theorem notMem_padded {c : Char} (hc : c.isDigit = false) : c ∉ padded width n := by
  intro h
  rw [isDigit_of_mem_padded h] at hc
  cases hc

/-- The digits in front of the point, and the point with those behind it. -/
def pointed (coefficient places : Nat) : List Char :=
  let digits := padded (places + 1) coefficient
  let whole := digits.take (digits.length - places)
  let fraction := digits.drop (digits.length - places)
  whole ++ if places = 0 then [] else '.' :: fraction

def fixedPoint (negative : Bool) (coefficient places : Nat) : List Char :=
  (if negative then ['-'] else []) ++ pointed coefficient places

theorem point_notMem_take : '.' ∉ (padded width n).take k :=
  fun h => notMem_padded (by decide) (List.mem_of_mem_take h)

theorem point_notMem_drop : '.' ∉ (padded width n).drop k :=
  fun h => notMem_padded (by decide) (List.mem_of_mem_drop h)

theorem length_fraction (coefficient places : Nat) :
    ((padded (places + 1) coefficient).drop
      ((padded (places + 1) coefficient).length - places)).length = places := by
  have hwidth := width_le_length (places + 1) coefficient
  rw [List.length_drop]
  omega

theorem pointed_injective (h : pointed c p = pointed d q) : c = d ∧ p = q := by
  unfold pointed at h
  dsimp only at h
  by_cases hp : p = 0
  · by_cases hq : q = 0
    · subst hp hq
      simp only [if_true, List.append_nil, Nat.sub_zero, List.take_length] at h
      exact ⟨padded_injective h, rfl⟩
    · -- only one of the texts has a point
      simp only [hp, hq, if_true, if_false, List.append_nil] at h
      have hpoint : '.' ∈ (padded (0 + 1) c).take ((padded (0 + 1) c).length - 0) := by
        rw [h]
        exact List.mem_append_right _ List.mem_cons_self
      exact absurd hpoint point_notMem_take
  · by_cases hq : q = 0
    · simp only [hp, hq, if_true, if_false, List.append_nil] at h
      have hpoint : '.' ∈ (padded (0 + 1) d).take ((padded (0 + 1) d).length - 0) := by
        rw [← h]
        exact List.mem_append_right _ List.mem_cons_self
      exact absurd hpoint point_notMem_take
    · simp only [hp, hq, if_false] at h
      obtain ⟨hwhole, -, hfraction⟩ :=
        (List.append_cons_inj_of_notMem point_notMem_take point_notMem_drop).mp h
      have hplaces := congrArg List.length hfraction
      rw [length_fraction, length_fraction] at hplaces
      have hdigits := congrArg₂ (· ++ ·) hwhole hfraction
      simp only [List.take_append_drop] at hdigits
      exact ⟨padded_injective hdigits, hplaces⟩

theorem minus_notMem_pointed (coefficient places : Nat) : '-' ∉ pointed coefficient places := by
  intro h
  unfold pointed at h
  dsimp only at h
  rcases List.mem_append.mp h with hwhole | hrest
  · exact notMem_padded (by decide) (List.mem_of_mem_take hwhole)
  · split_ifs at hrest with hplaces
    · simp at hrest
    · rcases List.mem_cons.mp hrest with heq | hfraction
      · exact absurd heq (by decide)
      · exact notMem_padded (by decide) (List.mem_of_mem_drop hfraction)

/-- **A decimal in fixed-point notation is read back with its sign, its coefficient and its
number of places.** -/
theorem fixedPoint_injective {s t : Bool}
    (h : fixedPoint s c p = fixedPoint t d q) : s = t ∧ c = d ∧ p = q := by
  unfold fixedPoint at h
  cases s with
  | false =>
      cases t with
      | false => exact ⟨rfl, pointed_injective (by simpa using h)⟩
      | true =>
          have htext : pointed c p = '-' :: pointed d q := by simpa using h
          have hminus : '-' ∈ pointed c p := htext ▸ List.mem_cons_self
          exact absurd hminus (minus_notMem_pointed c p)
  | true =>
      cases t with
      | false =>
          have htext : '-' :: pointed c p = pointed d q := by simpa using h
          have hminus : '-' ∈ pointed d q := htext ▸ List.mem_cons_self
          exact absurd hminus (minus_notMem_pointed d q)
      | true => exact ⟨rfl, pointed_injective (by simpa using h)⟩

end Numerals
end FxStrategyLab.Library
