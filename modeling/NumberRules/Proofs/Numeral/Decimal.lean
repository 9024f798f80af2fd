import Mathlib
import NumberRules.Numeral
import NumberRules.Proofs.Double.Nearest
import NumberRules.Proofs.Text.Digits

/-! # Exact values of written decimals

A decimal has an exact rational value, of which the digits before the point are the floor and the
digits after it the rest.  Moving the point multiplies the value by a power of ten and leaves as
many digits after the point as the move demands.
-/

namespace NumberRules.Decimal
set_option autoImplicit false

/-- The value that a decimal denotes. -/
def exact (d : Decimal) : ℚ := d.scaled / 10 ^ d.fraction.length

theorem exact_isNearest (d : Decimal) : Double.IsNearest d.exact d.toDouble := by
  have hpos : 0 < 10 ^ d.fraction.length := by positivity
  have h := Double.isNearest_ofQuotient d.scaled hpos
  push_cast at h
  exact h

/-! ## Both sides of the point -/

theorem exact_eq (d : Decimal) : d.exact =
    Digits.value d.integer + Digits.value d.fraction / 10 ^ d.fraction.length := by
  have hpos : (0 : ℚ) < 10 ^ d.fraction.length := by positivity
  rw [exact, scaled, Digits.value_append]
  push_cast
  rw [add_div, mul_div_assoc, div_self hpos.ne', mul_one]

/-- The digits before the point are the floor. -/
theorem floor_exact (d : Decimal) : ⌊d.exact⌋ = (Digits.value d.integer : Int) := by
  have hpos : (0 : ℚ) < 10 ^ d.fraction.length := by positivity
  have hlt : (Digits.value d.fraction : ℚ) < 10 ^ d.fraction.length := by
    exact_mod_cast Digits.value_lt d.fraction
  rw [Int.floor_eq_iff, exact_eq]
  push_cast
  constructor
  · have : (0 : ℚ) ≤ Digits.value d.fraction / 10 ^ d.fraction.length := by positivity
    linarith
  · have : (Digits.value d.fraction : ℚ) / 10 ^ d.fraction.length < 1 := (div_lt_one hpos).2 hlt
    linarith

/-- The digits after the point are what is above the floor, in units of the last place. -/
theorem fract_exact (d : Decimal) :
    (d.exact - ⌊d.exact⌋) * 10 ^ d.fraction.length = Digits.value d.fraction := by
  have hpos : (0 : ℚ) < 10 ^ d.fraction.length := by positivity
  rw [floor_exact, exact_eq]
  push_cast
  rw [add_sub_cancel_left, div_mul_cancel₀ _ hpos.ne']

/-! ## Moving the point -/

variable (d : Decimal) (exponent : Int)

theorem length_digits :
    ((d.integer ++ d.fraction).length : Int) = d.integer.length + d.fraction.length := by
  rw [List.length_append]
  push_cast
  rfl

theorem length_fraction_shift :
    (d.shift exponent).fraction.length = ((d.fraction.length : Int) - exponent).toNat := by
  have hlength := length_digits d
  unfold shift
  dsimp only
  split
  · rename_i hzero
    rw [hzero]
    omega
  · split
    · simp only [List.length_append, List.length_replicate]
      omega
    · split
      · simp only [List.length_nil]
        omega
      · rw [List.length_drop]
        omega

/-- The digits stay what they are, up to the zeros behind them that the move adds. -/
theorem scaled_shift : (d.shift exponent).scaled =
    d.scaled * 10 ^ (exponent - d.fraction.length).toNat := by
  have hlength := length_digits d
  unfold shift
  dsimp only
  split
  · rename_i hzero
    have hpower : (exponent - d.fraction.length).toNat = 0 := by omega
    rw [hpower, pow_zero, Nat.mul_one]
  · split
    · -- The point lies in front of all digits.
      have hfront : Digits.value [0] = 0 := rfl
      have hpower : (exponent - d.fraction.length).toNat = 0 := by omega
      rw [hpower, pow_zero, Nat.mul_one, scaled, scaled, Digits.value_append, hfront,
        Digits.value_append _ (d.integer ++ d.fraction), Digits.value_replicate_zero,
        Nat.zero_mul, Nat.zero_mul, Nat.zero_add, Nat.zero_add]
    · split
      · -- The point lies behind all digits.
        have hpower : (exponent - d.fraction.length).toNat =
            (d.integer.length + exponent).toNat - (d.integer ++ d.fraction).length := by omega
        rw [hpower, scaled, scaled, List.append_nil, Digits.value_append,
          Digits.value_replicate_zero, List.length_replicate, Nat.add_zero]
      · -- The point lies among the digits.
        have hpower : (exponent - d.fraction.length).toNat = 0 := by omega
        rw [hpower, pow_zero, Nat.mul_one, scaled, scaled, List.take_append_drop]

theorem exact_shift : (d.shift exponent).exact = d.exact * 10 ^ exponent := by
  have hten : (10 : ℚ) ≠ 0 := by norm_num
  have hpower : (10 : ℚ) ^ (exponent - d.fraction.length).toNat /
      10 ^ ((d.fraction.length : Int) - exponent).toNat =
        10 ^ exponent / 10 ^ d.fraction.length := by
    rw [← zpow_natCast, ← zpow_natCast, ← zpow_natCast, ← zpow_sub₀ hten, ← zpow_sub₀ hten]
    congr 1
    omega
  rw [exact, exact, scaled_shift, length_fraction_shift]
  push_cast
  rw [mul_div_assoc, hpower]
  ring

end NumberRules.Decimal
