import Mathlib
import NumberRules.Double.Basic

/-! # Rounding to the grid of doubles

`nearestEven` misses a quotient by at most one half, and by exactly one half only when it is even.
`roundUnits` does the same on the grid that belongs to the size of the quotient, so it misses by at
most half a gap and leaves every count alone that is on its own grid.
-/

namespace NumberRules
set_option autoImplicit false

/-! ## Rounding a quotient -/

variable {num den : Nat}

theorem nearestEven_of_dvd (h : den ∣ num) : nearestEven num den = num / den := by
  have hrest : num % den = 0 := Nat.mod_eq_zero_of_dvd h
  unfold nearestEven
  dsimp only
  rw [hrest]
  rcases Nat.eq_zero_or_pos den with h0 | hpos
  · have hnum : num = 0 := Nat.eq_zero_of_zero_dvd (h0 ▸ h)
    simp [h0, hnum]
  · rw [if_pos (by omega)]

theorem le_nearestEven (num den : Nat) : num / den ≤ nearestEven num den := by
  unfold nearestEven
  dsimp only
  split
  · exact Nat.le_refl _
  · split <;> omega

/-- The rounded quotient is too large by at most one half. -/
theorem two_mul_nearestEven_le (num : Nat) (hden : 0 < den) :
    2 * (nearestEven num den * den) ≤ 2 * num + den := by
  have hsplit : den * (num / den) + num % den = num := Nat.div_add_mod num den
  have hrest : num % den < den := Nat.mod_lt num hden
  have hcomm : num / den * den = den * (num / den) := Nat.mul_comm _ _
  unfold nearestEven
  dsimp only
  split
  · omega
  · split
    · rw [Nat.add_mul, Nat.one_mul]
      omega
    · rcases Nat.mod_two_eq_zero_or_one (num / den) with h | h
      · rw [h, Nat.add_zero]
        omega
      · rw [h, Nat.add_mul, Nat.one_mul]
        omega

/-- The rounded quotient is too small by at most one half. -/
theorem le_two_mul_nearestEven (num : Nat) (hden : 0 < den) :
    2 * num ≤ 2 * (nearestEven num den * den) + den := by
  have hsplit : den * (num / den) + num % den = num := Nat.div_add_mod num den
  have hrest : num % den < den := Nat.mod_lt num hden
  have hcomm : num / den * den = den * (num / den) := Nat.mul_comm _ _
  unfold nearestEven
  dsimp only
  split
  · omega
  · split
    · rw [Nat.add_mul, Nat.one_mul]
      omega
    · rw [Nat.add_mul]
      omega

/-- Of two integers equally near to a quotient the even one is taken. -/
theorem nearestEven_even_of_tie (hden : 0 < den)
    (h : 2 * num = 2 * (nearestEven num den * den) + den ∨
      2 * (nearestEven num den * den) = 2 * num + den) : nearestEven num den % 2 = 0 := by
  have hsplit : den * (num / den) + num % den = num := Nat.div_add_mod num den
  have hrest : num % den < den := Nat.mod_lt num hden
  have hcomm : num / den * den = den * (num / den) := Nat.mul_comm _ _
  unfold nearestEven at h ⊢
  dsimp only at h ⊢
  split at h
  · omega
  · split at h
    · rw [Nat.add_mul, Nat.one_mul] at h
      omega
    · rename_i hlow hhigh
      rw [if_neg hlow, if_neg hhigh]
      omega

theorem nearestEven_mul_right {c : Nat} (hc : 0 < c) :
    nearestEven (num * c) (den * c) = nearestEven num den := by
  unfold nearestEven
  dsimp only
  rw [Nat.mul_div_mul_right _ _ hc, Nat.mul_mod_mul_right, ← Nat.mul_assoc]
  simp only [Nat.mul_lt_mul_right hc]

namespace Double

/-! ## Rounding to the grid -/

theorem gap_eq_one {units : Nat} (h : units < 2 ^ 53) : gap units = 1 := by
  rcases Nat.eq_zero_or_pos units with h0 | hpos
  · rw [h0]
    rfl
  · have hlog : units.log2 < 53 := (Nat.log2_lt (Nat.ne_of_gt hpos)).2 h
    rw [gap, show units.log2 - 52 = 0 by omega, pow_zero]

/-- The gap at a size of 53 bits or more is at most the `2 ^ 52`th part of the size. -/
theorem gap_mul_le {units : Nat} (h : 2 ^ 52 ≤ units) : gap units * 2 ^ 52 ≤ units := by
  have hne : units ≠ 0 := by
    rintro rfl
    simp at h
  have hlog : 52 ≤ units.log2 := (Nat.le_log2 hne).2 h
  calc gap units * 2 ^ 52 = 2 ^ units.log2 := by
        rw [gap, ← Nat.pow_add, Nat.sub_add_cancel hlog]
    _ ≤ units := Nat.log2_self_le hne

theorem roundUnits_mul_right {c : Nat} (hc : 0 < c) :
    roundUnits (num * c) (den * c) = roundUnits num den := by
  unfold roundUnits
  dsimp only
  rw [Nat.mul_div_mul_right _ _ hc, Nat.mul_right_comm, nearestEven_mul_right hc]

theorem roundUnits_le (num : Nat) (hden : 0 < den) :
    2 * (den * roundUnits num den) ≤ 2 * num + den * gap (num / den) := by
  have h := two_mul_nearestEven_le num (Nat.mul_pos hden (gap_pos (num / den)))
  rw [roundUnits, Nat.mul_left_comm den]
  exact h

theorem le_roundUnits (num : Nat) (hden : 0 < den) :
    2 * num ≤ 2 * (den * roundUnits num den) + den * gap (num / den) := by
  have h := le_two_mul_nearestEven num (Nat.mul_pos hden (gap_pos (num / den)))
  rw [roundUnits, Nat.mul_left_comm den]
  exact h

/-- A count on its own grid is not changed by rounding. -/
theorem roundUnits_of_dvd {units : Nat} (hden : 0 < den) (h : gap units ∣ units) :
    roundUnits (units * den) den = units := by
  have hdiv : units * den / den = units := Nat.mul_div_cancel units hden
  have hdvd : den * gap units ∣ units * den := by
    rw [Nat.mul_comm units]
    exact Nat.mul_dvd_mul_left den h
  unfold roundUnits
  dsimp only
  rw [hdiv, nearestEven_of_dvd hdvd, Nat.mul_comm units, Nat.mul_div_mul_left _ _ hden,
    Nat.div_mul_cancel h]

/-! ## Numbers from counts of units -/

theorem finite_congr {negative : Bool} {u v : Nat} {hu : Representable u} {hv : Representable v}
    (h : u = v) : finite negative u hu = finite negative v hv := by
  subst h
  rfl

theorem ofUnits_of_lt {negative : Bool} (h : roundUnits num den < unitLimit) :
    ofUnits negative num den =
      .finite negative (roundUnits num den) (representable_roundUnits h) := by
  rw [ofUnits, dif_pos h]

/-- A representable count is not changed on its way into a number. -/
theorem ofUnits_of_representable {negative : Bool} {units : Nat} (h : Representable units) :
    ofUnits negative units 1 = .finite negative units h := by
  have hround : roundUnits units 1 = units := by
    have := roundUnits_of_dvd Nat.one_pos h.2
    rwa [Nat.mul_one] at this
  have hlt : roundUnits units 1 < unitLimit := by
    rw [hround]
    exact h.1
  rw [ofUnits_of_lt hlt]
  exact finite_congr hround

end Double

end NumberRules
