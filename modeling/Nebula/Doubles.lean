import Mathlib.Algebra.Order.Ring.Nat

/-!
# Rounding to doubles

A quotient of two naturals rounded to the nearest double, half to even. Doubles are whole numbers
here: a caller measures in a unit so small that the quotient has 53 bits before the point, or is 0.
-/

namespace Nebula.Doubles

def roundDiv (num den : Nat) : Nat :=
  if den < 2 * (num % den) ∨ den = 2 * (num % den) ∧ num / den % 2 = 1 then num / den + 1
  else num / den

/-- To 53 significant bits. -/
def nearest (num den : Nat) : Nat :=
  let last := 2 ^ (Nat.log2 (num / den) - 52)
  roundDiv num (den * last) * last

theorem roundDiv_bounds (num : Nat) {den : Nat} (positive : 0 < den) :
    2 * (den * roundDiv num den) ≤ 2 * num + den ∧
      2 * num ≤ 2 * (den * roundDiv num den) + den := by
  have whole := Nat.div_add_mod num den
  have rest := Nat.mod_lt num positive
  unfold roundDiv
  split
  · rw [Nat.mul_add_one]
    omega
  · omega

theorem roundDiv_eq {num den value : Nat} (above : 2 * num < 2 * (den * value) + den)
    (below : 2 * (den * value) < 2 * num + den) : roundDiv num den = value := by
  have positive : 0 < den := by omega
  obtain ⟨upper, lower⟩ := roundDiv_bounds num positive
  rcases Nat.lt_trichotomy (roundDiv num den) value with less | same | more
  · have := Nat.mul_le_mul_left den (Nat.succ_le_of_lt less)
    rw [Nat.mul_succ] at this
    omega
  · exact same
  · have := Nat.mul_le_mul_left den (Nat.succ_le_of_lt more)
    rw [Nat.mul_succ] at this
    omega

/-- Below `2 ^ (53 + bits)` the error is at most half of `2 ^ bits`. -/
theorem nearest_bounds {num den bits : Nat} (positive : 0 < den)
    (small : num < den * 2 ^ (53 + bits)) :
    2 * (den * nearest num den) ≤ 2 * num + den * 2 ^ bits ∧
      2 * num ≤ 2 * (den * nearest num den) + den * 2 ^ bits := by
  have length : Nat.log2 (num / den) < 53 + bits := by
    by_cases zero : num / den = 0
    · rw [zero, Nat.log2_zero]
      omega
    · exact (Nat.log2_lt zero).mpr (Nat.div_lt_of_lt_mul small)
  have last : 2 ^ (Nat.log2 (num / den) - 52) ≤ 2 ^ bits :=
    Nat.pow_le_pow_right (by decide) (by omega)
  have error := Nat.mul_le_mul_left den last
  obtain ⟨upper, lower⟩ := roundDiv_bounds num
    (Nat.mul_pos positive (Nat.two_pow_pos (Nat.log2 (num / den) - 52)))
  rw [Nat.mul_assoc, Nat.mul_comm (2 ^ _) (roundDiv _ _)] at upper lower
  simp only [nearest]
  omega

end Nebula.Doubles
