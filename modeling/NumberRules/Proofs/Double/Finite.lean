import Mathlib
import NumberRules.Proofs.Double.Floor
import NumberRules.Proofs.Double.Order

/-! # Operations that stay finite

A finite double divided by a whole number from one to `2 ^ 64` stays finite, as does what is left of
it, its floor and its opposite: none of them is larger in size than the double itself, up to the
next whole number.
-/

namespace NumberRules.Double
set_option autoImplicit false

variable {x : Double} {n : Nat}

theorem exists_of_isFinite (h : x.isFinite = true) :
    ∃ negative units, ∃ hunits : Representable units, x = finite negative units hunits := by
  cases x with
  | nan => cases h
  | inf negative => cases h
  | finite negative units hunits => exact ⟨negative, units, hunits, rfl⟩

/-- What is at most a double before rounding is finite after it. -/
theorem isFinite_ofUnits {num den v : Nat} (negative : Bool) (hden : 0 < den)
    (hv : Representable v) (h : num ≤ v * den) : (ofUnits negative num den).isFinite = true := by
  have hlt : roundUnits num den < unitLimit :=
    (roundUnits_le_of_le num hden hv.2 h).trans_lt hv.1
  rw [ofUnits_of_lt hlt]
  rfl

/-! ## Whole numbers -/

theorem isFinite_ofNat (h : n ≤ 2 ^ 64) : (ofNat n).isFinite = true := by
  rw [ofNat_eq_ofNat_nearestWhole h, (fits_nearestWhole h).ofNat_eq]
  rfl

theorem exists_ofNat_eq (hpos : 0 < n) (h : n ≤ 2 ^ 64) : ∃ units, unitsPerOne ≤ units ∧
    ∃ hunits : Representable units, ofNat n = finite false units hunits := by
  have hfits := fits_nearestWhole h
  have hone : 1 ≤ nearestWhole n := by
    refine le_roundUnits_of_le n Nat.one_pos (gap_dvd_pow 0) ?_
    rwa [Nat.mul_one]
  refine ⟨nearestWhole n * unitsPerOne, Nat.le_mul_of_pos_left _ hone, hfits.representable, ?_⟩
  rw [ofNat_eq_ofNat_nearestWhole h, hfits.ofNat_eq]

theorem zero_lt_ofNat (hpos : 0 < n) (h : n ≤ 2 ^ 64) : zero.lt (ofNat n) = true := by
  obtain ⟨units, hle, hunits, heq⟩ := exists_ofNat_eq hpos h
  have hunit := unitsPerOne_pos
  have hlt : (0 : Int) < units := by omega
  rw [heq, lt_iff]
  exact ⟨0, units, rfl, rfl, hlt⟩

/-! ## Operations -/

theorem isFinite_neg (h : x.isFinite = true) : x.neg.isFinite = true := by
  obtain ⟨negative, units, hunits, rfl⟩ := exists_of_isFinite h
  rfl

theorem isFinite_abs (h : x.isFinite = true) : x.abs.isFinite = true := by
  obtain ⟨negative, units, hunits, rfl⟩ := exists_of_isFinite h
  rfl

theorem isFinite_floor (h : x.isFinite = true) : x.floor.isFinite = true := by
  obtain ⟨negative, units, hunits, rfl⟩ := exists_of_isFinite h
  rw [floor_finite]
  rfl

theorem isFinite_div (hx : x.isFinite = true) (hpos : 0 < n) (hn : n ≤ 2 ^ 64) :
    (x.div (ofNat n)).isFinite = true := by
  obtain ⟨negative, units, hunits, rfl⟩ := exists_of_isFinite hx
  obtain ⟨divisor, hle, hdivisor, heq⟩ := exists_ofNat_eq hpos hn
  have hunit := unitsPerOne_pos
  rw [heq, div, if_neg (by omega)]
  exact isFinite_ofUnits _ (by omega) hunits (Nat.mul_le_mul_left units hle)

theorem isFinite_rem (hx : x.isFinite = true) (hpos : 0 < n) (hn : n ≤ 2 ^ 64) :
    (x.rem (ofNat n)).isFinite = true := by
  obtain ⟨negative, units, hunits, rfl⟩ := exists_of_isFinite hx
  obtain ⟨divisor, hle, hdivisor, heq⟩ := exists_ofNat_eq hpos hn
  have hunit := unitsPerOne_pos
  rw [heq, rem, if_neg (by omega)]
  refine isFinite_ofUnits _ Nat.one_pos hunits ?_
  rw [Nat.mul_one]
  exact Nat.mod_le units divisor

end NumberRules.Double
