import Mathlib
import NumberRules.Proofs.Double.NearestWhole

/-! # Whole numbers as doubles

Every natural number below `2 ^ 53` is a double, as it is.  On such numbers the operations that
spelling needs are those of the natural numbers: order, the floor of a quotient, and the remainder.
For the quotient this is not immediate, since it is rounded before the floor is taken; the rounding
misses by less than one part in `2 ^ 53`, which is too little to reach the next whole number.
-/

namespace NumberRules.Double
set_option autoImplicit false

variable {m n d : Nat}

/-! ## The numbers -/

theorem lt_unitLimit {units : Nat} (h : units ≤ 2 ^ 53 * unitsPerOne) : units < unitLimit := by
  have hlt : 2 ^ 53 * unitsPerOne < unitLimit := by
    rw [unitsPerOne, unitLimit, ← Nat.pow_add]
    exact Nat.pow_lt_pow_right (by omega) (by decide)
  exact Nat.lt_of_le_of_lt h hlt

theorem fits_of_lt (h : n < 2 ^ 53) : Fits n where
  onGrid := by
    rw [gap_eq_one h]
    exact one_dvd n
  le := by omega

theorem representable_whole (h : n < 2 ^ 53) : Representable (n * unitsPerOne) :=
  (fits_of_lt h).representable

/-- A whole number below `2 ^ 53` is a double. -/
theorem ofNat_eq (h : n < 2 ^ 53) :
    ofNat n = .finite false (n * unitsPerOne) (representable_whole h) :=
  (fits_of_lt h).ofNat_eq

theorem rank_ofNat (h : n < 2 ^ 53) : (ofNat n).rank = some ((n * unitsPerOne : Nat) : Int) :=
  (fits_of_lt h).rank_eq

theorem ofNat_ne_nan (h : n < 2 ^ 53) : ofNat n ≠ .nan := by
  rw [ofNat_eq h]
  simp

theorem le_ofNat (hm : m < 2 ^ 53) (hn : n < 2 ^ 53) :
    (ofNat m).le (ofNat n) = decide (m ≤ n) :=
  le_of_fits (fits_of_lt hm) (fits_of_lt hn)

theorem lt_ofNat (hm : m < 2 ^ 53) (hn : n < 2 ^ 53) :
    (ofNat m).lt (ofNat n) = decide (m < n) :=
  lt_of_fits (fits_of_lt hm) (fits_of_lt hn)

/-- Larger numbers are rounded, but not to below `2 ^ 53`. -/
theorem exists_rank_ofNat (h : 2 ^ 53 ≤ m) :
    ∃ r : Int, (ofNat m).rank = some r ∧ ((2 ^ 53 * unitsPerOne : Nat) : Int) ≤ r := by
  have hgrid : gap (2 ^ 53 * unitsPerOne) ∣ 2 ^ 53 * unitsPerOne := by
    rw [unitsPerOne, ← Nat.pow_add]
    exact gap_dvd_pow _
  have hround : 2 ^ 53 * unitsPerOne ≤ roundUnits (m * unitsPerOne) 1 := by
    refine le_roundUnits_of_le _ Nat.one_pos hgrid ?_
    rw [Nat.mul_one]
    exact Nat.mul_le_mul_right _ h
  by_cases hlt : roundUnits (m * unitsPerOne) 1 < unitLimit
  · refine ⟨(roundUnits (m * unitsPerOne) 1 : Nat), ?_, Int.ofNat_le.2 hround⟩
    rw [ofNat, ofQuotient, ofUnits_of_lt hlt]
    rfl
  · refine ⟨(unitLimit : Nat), ?_, Int.ofNat_le.2 (Nat.le_of_lt (lt_unitLimit (Nat.le_refl _)))⟩
    rw [ofNat, ofQuotient, ofUnits, dif_neg hlt]
    rfl

/-- Rounding does not bring a number under a smaller one below `2 ^ 53`. -/
theorem le_of_ofNat_le (hn : n < 2 ^ 53) (h : (ofNat m).le (ofNat n) = true) : m ≤ n := by
  by_cases hm : m < 2 ^ 53
  · rw [le_ofNat hm hn] at h
    exact of_decide_eq_true h
  · obtain ⟨r, hr, hle⟩ := exists_rank_ofNat (Nat.le_of_not_lt hm)
    have hbelow : n * unitsPerOne < 2 ^ 53 * unitsPerOne :=
      Nat.mul_lt_mul_of_pos_right hn unitsPerOne_pos
    rw [le, hr, rank_ofNat hn] at h
    have hrank : r ≤ ((n * unitsPerOne : Nat) : Int) := of_decide_eq_true h
    omega

theorem zero_eq_ofNat : zero = ofNat 0 := by
  rw [ofNat_eq (by norm_num)]
  exact finite_congr (Nat.zero_mul unitsPerOne).symm

theorem isNegative_ofNat (hn : n < 2 ^ 53) : (ofNat n).isNegative = false := by
  rw [isNegative, zero_eq_ofNat, lt_ofNat hn (by norm_num)]
  simp

theorem isWhole_ofNat (hn : n < 2 ^ 53) : (ofNat n).isWhole = true := (fits_of_lt hn).isWhole

/-! ## Quotients -/

/-- At the size of a quotient of whole numbers, the gap is below the `den`th part of two. -/
theorem mul_gap_lt (hn : n < 2 ^ 53) (hd : d < 2 ^ 53) :
    d * gap (n * unitsPerOne / d) < 2 * unitsPerOne := by
  by_cases hsize : 2 ^ 52 ≤ n * unitsPerOne / d
  · have hgap := gap_mul_le hsize
    have hmul : d * gap (n * unitsPerOne / d) * 2 ^ 52 ≤ n * unitsPerOne := by
      calc d * gap (n * unitsPerOne / d) * 2 ^ 52
          = d * (gap (n * unitsPerOne / d) * 2 ^ 52) := Nat.mul_assoc _ _ _
        _ ≤ d * (n * unitsPerOne / d) := Nat.mul_le_mul_left d hgap
        _ ≤ n * unitsPerOne := Nat.mul_div_le _ _
    have hlt : n * unitsPerOne < 2 ^ 53 * unitsPerOne :=
      Nat.mul_lt_mul_of_pos_right hn unitsPerOne_pos
    omega
  · have hgap : gap (n * unitsPerOne / d) = 1 := gap_eq_one (by omega)
    have hunit : 2 ^ 53 ≤ unitsPerOne := Nat.pow_le_pow_right (by omega) (by decide)
    rw [hgap]
    omega

/-- Rounding a quotient of whole numbers does not change its whole part. -/
theorem roundUnits_div (hn : n < 2 ^ 53) (hpos : 0 < d) (hd : d < 2 ^ 53) :
    roundUnits (n * unitsPerOne) d / unitsPerOne = n / d := by
  have hsplit : d * (n / d) + n % d = n := Nat.div_add_mod n d
  have hrest : n % d < d := Nat.mod_lt n hpos
  have hgap := mul_gap_lt hn hd
  have hupper : d * roundUnits (n * unitsPerOne) d < d * ((n / d + 1) * unitsPerOne) := by
    have hround := roundUnits_le (n * unitsPerOne) hpos
    calc d * roundUnits (n * unitsPerOne) d < (n + 1) * unitsPerOne := by
          rw [Nat.add_mul, Nat.one_mul]
          omega
      _ ≤ d * (n / d + 1) * unitsPerOne := by
          refine Nat.mul_le_mul_right _ ?_
          rw [Nat.mul_add, Nat.mul_one]
          omega
      _ = d * ((n / d + 1) * unitsPerOne) := Nat.mul_assoc _ _ _
  have hlower : d * (n / d * unitsPerOne) ≤ d * roundUnits (n * unitsPerOne) d := by
    by_cases hzero : n % d = 0
    · -- The quotient is whole, so it lies on the grid.
      have hn' : n * unitsPerOne = n / d * unitsPerOne * d := by
        rw [Nat.mul_right_comm, Nat.div_mul_cancel (Nat.dvd_of_mod_eq_zero hzero)]
      have hq : n / d < 2 ^ 53 := Nat.lt_of_le_of_lt (Nat.div_le_self n d) hn
      rw [hn', roundUnits_of_dvd hpos (representable_whole hq).2]
    · have hround := le_roundUnits (n * unitsPerOne) hpos
      have hmul : d * (n / d * unitsPerOne) + unitsPerOne ≤ n * unitsPerOne := by
        calc d * (n / d * unitsPerOne) + unitsPerOne = (d * (n / d) + 1) * unitsPerOne := by ring
          _ ≤ n * unitsPerOne := Nat.mul_le_mul_right _ (by omega)
      omega
  have hlt := Nat.lt_of_mul_lt_mul_left hupper
  have hle := Nat.le_of_mul_le_mul_left hlower hpos
  exact Nat.div_eq_of_lt_le hle hlt

/-- The whole part of a quotient of whole numbers is exact. -/
theorem floor_div_ofNat (hn : n < 2 ^ 53) (hpos : 0 < d) (hd : d < 2 ^ 53) :
    ((ofNat n).div (ofNat d)).floor = ofNat (n / d) := by
  have hnonzero := mul_unitsPerOne_ne_zero hpos
  have hscale : roundUnits (n * unitsPerOne * unitsPerOne) (d * unitsPerOne) =
      roundUnits (n * unitsPerOne) d := roundUnits_mul_right unitsPerOne_pos
  have hdiv := roundUnits_div hn hpos hd
  have hlt : roundUnits (n * unitsPerOne * unitsPerOne) (d * unitsPerOne) < unitLimit := by
    rw [hscale]
    refine lt_unitLimit (Nat.le_of_lt ?_)
    have hq : n / d < 2 ^ 53 := Nat.lt_of_le_of_lt (Nat.div_le_self n d) hn
    rw [← hdiv] at hq
    exact (Nat.div_lt_iff_lt_mul unitsPerOne_pos).1 hq
  rw [ofNat_eq hn, ofNat_eq hd, div, if_neg hnonzero, Bool.xor_false, ofUnits_of_lt hlt, floor,
    hscale, hdiv]
  rfl

/-! ## Remainders -/

/-- The remainder of whole numbers is exact. -/
theorem rem_ofNat (hn : n < 2 ^ 53) (hpos : 0 < d) (hd : d < 2 ^ 53) :
    (ofNat n).rem (ofNat d) = ofNat (n % d) :=
  rem_of_fits (fits_of_lt hn) (fits_of_lt hd) hpos

end NumberRules.Double
