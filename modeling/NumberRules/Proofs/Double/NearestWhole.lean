import Mathlib
import NumberRules.Double.Arithmetic
import NumberRules.Proofs.Double.Nearest

/-! # Whole numbers of any size as doubles

A whole number beyond `2 ^ 53` that is no double becomes the nearest one that is: `nearestWhole`.
The whole numbers that are doubles, `Fits`, are closed under remainders, so on them equality, order
and remainder of doubles are those of the natural numbers.
-/

namespace NumberRules.Double
set_option autoImplicit false

variable {m n : Nat}

theorem unitsPerOne_pos : 0 < unitsPerOne := Nat.two_pow_pos unitBits

theorem mul_unitsPerOne_ne_zero (h : 0 < n) : n * unitsPerOne ≠ 0 :=
  Nat.ne_of_gt (Nat.mul_pos h unitsPerOne_pos)

/-! ## The nearest whole number -/

/-- The whole number with 53 significant bits that is nearest, of two such the even one. -/
def nearestWhole (n : Nat) : Nat := roundUnits n 1

theorem nearest_nearestWhole (n : Nat) : Nearest n (nearestWhole n) := by
  have h := nearest_roundUnits n Nat.one_pos
  rwa [Nat.cast_one, div_one] at h

theorem nearestWhole_of_dvd (h : gap n ∣ n) : nearestWhole n = n := by
  have hround := roundUnits_of_dvd Nat.one_pos h
  rwa [Nat.mul_one] at hround

theorem nearestWhole_eq (h : n ≤ 2 ^ 53) : nearestWhole n = n := by
  refine nearestWhole_of_dvd ?_
  rcases Nat.lt_or_eq_of_le h with hlt | rfl
  · rw [gap_eq_one hlt]
    exact one_dvd n
  · exact gap_dvd_pow 53

/-- Where whole numbers have 53 bits or more, units and whole numbers have the same grid. -/
theorem gap_mul_unitsPerOne (h : 2 ^ 52 ≤ n) : gap (n * unitsPerOne) = gap n * unitsPerOne := by
  have hn : n ≠ 0 := by
    rintro rfl
    simp at h
  have hlog : 52 ≤ n.log2 := (Nat.le_log2 hn).2 h
  have hlower : 2 ^ (n.log2 + unitBits) ≤ n * unitsPerOne := by
    rw [Nat.pow_add, unitsPerOne]
    exact Nat.mul_le_mul_right _ (Nat.log2_self_le hn)
  have hupper : n * unitsPerOne < 2 ^ (n.log2 + unitBits + 1) := by
    rw [Nat.add_right_comm, Nat.pow_add, unitsPerOne]
    exact Nat.mul_lt_mul_of_pos_right Nat.lt_log2_self (Nat.two_pow_pos _)
  have hlog2 : (n * unitsPerOne).log2 = n.log2 + unitBits :=
    (Nat.log2_eq_iff (Nat.mul_ne_zero hn unitsPerOne_pos.ne')).2 ⟨hlower, hupper⟩
  rw [gap, gap, hlog2, unitsPerOne, ← Nat.pow_add, Nat.sub_add_comm hlog]

theorem roundUnits_mul_unitsPerOne (n : Nat) :
    roundUnits (n * unitsPerOne) 1 = nearestWhole n * unitsPerOne := by
  -- Below `2 ^ 53` nothing is rounded; from there on both roundings cut off the same digits.
  rcases Nat.lt_or_ge n (2 ^ 53) with hlt | hge
  · have hround := roundUnits_of_dvd Nat.one_pos (gap_dvd_of_lt (e := unitBits) hlt)
    rw [Nat.mul_one] at hround
    change roundUnits (n * unitsPerOne) 1 = n * unitsPerOne at hround
    rw [hround, nearestWhole_eq hlt.le]
  · have hgap := gap_mul_unitsPerOne (n := n) (by omega)
    rw [nearestWhole, roundUnits, roundUnits]
    rw [Nat.div_one, Nat.div_one, Nat.one_mul, Nat.one_mul, hgap,
      nearestEven_mul_right unitsPerOne_pos, Nat.mul_assoc]

/-! ## Whole numbers that are doubles -/

/-- The whole number is a double, and not beyond the words of 64 bits. -/
structure Fits (n : Nat) : Prop where
  onGrid : gap n ∣ n
  le : n ≤ 2 ^ 64

theorem Fits.representable (h : Fits n) : Representable (n * unitsPerOne) := by
  constructor
  · have hlt : 2 ^ 64 * unitsPerOne < unitLimit := by
      rw [unitsPerOne, unitLimit, ← Nat.pow_add]
      exact Nat.pow_lt_pow_right (by omega) (by decide)
    exact (Nat.mul_le_mul_right _ h.le).trans_lt hlt
  · have hsplit : n * unitsPerOne = n / gap n * 2 ^ (n.log2 - 52 + unitBits) := by
      conv_lhs => rw [← Nat.div_mul_cancel h.onGrid]
      rw [gap, unitsPerOne, Nat.mul_assoc, ← Nat.pow_add]
    rw [hsplit]
    exact gap_dvd_of_lt (div_gap_lt n)

theorem fits_nearestWhole (h : n ≤ 2 ^ 64) : Fits (nearestWhole n) where
  onGrid := gap_dvd_roundUnits n 1
  le := roundUnits_le_of_le n Nat.one_pos (gap_dvd_pow 64) (by rwa [Nat.mul_one])

theorem fits_zero : Fits 0 := ⟨Nat.dvd_zero _, Nat.zero_le _⟩

/-- Below a divisor on the grid, a remainder is on the grid too. -/
theorem gap_dvd_mod (hm : gap m ∣ m) (hn : gap n ∣ n) (hpos : 0 < n) : gap (m % n) ∣ m % n := by
  rcases Nat.lt_or_ge m n with hlt | hge
  · rw [Nat.mod_eq_of_lt hlt]
    exact hm
  · have hdvd : gap n ∣ m % n := (Nat.dvd_mod_iff hn).2 ((gap_dvd_gap hge).trans hm)
    exact (gap_dvd_gap (Nat.mod_lt m hpos).le).trans hdvd

theorem Fits.mod (hm : Fits m) (hn : Fits n) (hpos : 0 < n) : Fits (m % n) where
  onGrid := gap_dvd_mod hm.onGrid hn.onGrid hpos
  le := (Nat.mod_le m n).trans hm.le

theorem Fits.ofNat_eq (h : Fits n) : ofNat n = finite false (n * unitsPerOne) h.representable := by
  rw [ofNat, ofQuotient, ofUnits_of_representable h.representable]

/-- Every word of 64 bits becomes the double of the nearest whole number. -/
theorem ofNat_eq_ofNat_nearestWhole (h : n ≤ 2 ^ 64) : ofNat n = ofNat (nearestWhole n) := by
  have hfits := fits_nearestWhole h
  have hround := roundUnits_mul_unitsPerOne n
  have hlt : roundUnits (n * unitsPerOne) 1 < unitLimit := by
    rw [hround]
    exact hfits.representable.1
  rw [hfits.ofNat_eq, ofNat, ofQuotient, ofUnits_of_lt hlt]
  exact finite_congr hround

/-! ## Operations -/

theorem Fits.rank_eq (h : Fits n) : (ofNat n).rank = some ((n * unitsPerOne : Nat) : Int) := by
  rw [h.ofNat_eq]
  rfl

theorem Fits.floor_eq (h : Fits n) : (ofNat n).floor = ofNat n := by
  have hdiv : n * unitsPerOne / unitsPerOne = n := Nat.mul_div_cancel n unitsPerOne_pos
  rw [h.ofNat_eq, floor, hdiv, ofUnits_of_representable h.representable]

theorem Fits.isWhole (h : Fits n) : (ofNat n).isWhole = true := by
  rw [Double.isWhole, h.floor_eq, eq, h.rank_eq]
  exact decide_eq_true rfl

section

variable (hm : Fits m) (hn : Fits n)
include hm hn

theorem eq_of_fits : (ofNat m).eq (ofNat n) = decide (m = n) := by
  have hiff : ((m * unitsPerOne : Nat) : Int) = ((n * unitsPerOne : Nat) : Int) ↔ m = n := by
    rw [Int.ofNat_inj]
    exact Nat.mul_left_inj unitsPerOne_pos.ne'
  rw [eq, hm.rank_eq, hn.rank_eq]
  simp only [hiff]

theorem le_of_fits : (ofNat m).le (ofNat n) = decide (m ≤ n) := by
  have hiff : ((m * unitsPerOne : Nat) : Int) ≤ ((n * unitsPerOne : Nat) : Int) ↔ m ≤ n := by
    rw [Int.ofNat_le]
    exact Nat.mul_le_mul_right_iff unitsPerOne_pos
  rw [le, hm.rank_eq, hn.rank_eq]
  simp only [hiff]

theorem lt_of_fits : (ofNat m).lt (ofNat n) = decide (m < n) := by
  have hiff : ((m * unitsPerOne : Nat) : Int) < ((n * unitsPerOne : Nat) : Int) ↔ m < n := by
    rw [Int.ofNat_lt]
    exact Nat.mul_lt_mul_right unitsPerOne_pos
  rw [lt, hm.rank_eq, hn.rank_eq]
  simp only [hiff]

theorem rem_of_fits (hpos : 0 < n) : (ofNat m).rem (ofNat n) = ofNat (m % n) := by
  have hfits := hm.mod hn hpos
  rw [hm.ofNat_eq, hn.ofNat_eq, rem, if_neg (mul_unitsPerOne_ne_zero hpos), Nat.mul_mod_mul_right,
    ofUnits_of_representable hfits.representable, hfits.ofNat_eq]

end

/-! ## Remainders that there are none of -/

theorem rem_zero (x : Double) : x.rem (ofNat 0) = .nan := by
  rw [fits_zero.ofNat_eq]
  cases x with
  | finite negative units h =>
    rw [rem, if_pos (Nat.zero_mul _)]
  | nan => rfl
  | inf negative => rfl

theorem rem_nan_right (x : Double) : x.rem .nan = .nan := by
  cases x <;> rfl

theorem rem_nan_left (x : Double) : nan.rem x = .nan := rfl

end NumberRules.Double
