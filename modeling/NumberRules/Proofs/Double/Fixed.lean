import Mathlib
import NumberRules.Proofs.Double.NearestWhole
import NumberRules.Proofs.Numeral.Decimal

/-! # Doubles with a fixed number of places

`Decimal.IsRounding q places d` says that no decimal with as many places after the point is nearer
to `q` than `d` is, and that `d` is even in its last place if another one is as near.  What
`Double.fixed` gives is this decimal for the exact value of the double.
-/

namespace NumberRules
set_option autoImplicit false

/-! ## Rounding to decimal places -/

namespace Digits

theorem length_prependPadded (places n : Nat) (ds : List Digit) :
    (prependPadded places n ds).length = places + ds.length := by
  induction places generalizing n ds with
  | zero => rw [prependPadded, Nat.zero_add]
  | succ places ih =>
    rw [prependPadded, ih, List.length_cons]
    omega

theorem length_padded (places n : Nat) : (padded places n).length = places :=
  length_prependPadded places n []

end Digits

namespace Decimal

/-- The decimal with a number of places that is nearest to `q`; of two such decimals the even one.
It has no zeros in front but a single one before the point. -/
structure IsRounding (q : ℚ) (places : Nat) (d : Decimal) : Prop where
  integer_eq : d.integer = Digits.ofNat (Digits.value d.integer)
  length_eq : d.fraction.length = places
  least : ∀ e : Decimal, e.fraction.length = places → |q - d.exact| ≤ |q - e.exact|
  /-- If another one is as near, the digits as a whole are an even number. -/
  even : ∀ e : Decimal, e.fraction.length = places → e.exact ≠ d.exact →
    |q - e.exact| = |q - d.exact| → Even d.scaled

theorem scaled_ofScaled (places n : Nat) : (ofScaled places n).scaled = n := by
  rw [scaled, ofScaled, Digits.value_append, Digits.value_ofNat, Digits.length_padded,
    Digits.value_padded, Nat.mod_mod]
  exact Nat.div_add_mod' n _

theorem length_fraction_ofScaled (places n : Nat) : (ofScaled places n).fraction.length = places :=
  Digits.length_padded places _

/-- Distances of decimals, in units of their last place. -/
theorem abs_sub_exact (q : ℚ) {places : Nat} {d : Decimal} (h : d.fraction.length = places) :
    |q - d.exact| = |q * 10 ^ places - d.scaled| / 10 ^ places := by
  have hpos : (0 : ℚ) < 10 ^ places := by positivity
  rw [exact, h, ← abs_of_pos hpos, ← abs_div, abs_of_pos hpos, sub_div, mul_div_assoc,
    div_self hpos.ne', mul_one]

theorem isRounding_ofScaled (num : Nat) {den : Nat} (hden : 0 < den) (places : Nat) :
    IsRounding (num / den) places (ofScaled places (nearestEven (num * 10 ^ places) den)) := by
  have hpos : (0 : ℚ) < 10 ^ places := by positivity
  have hscaled := scaled_ofScaled places (nearestEven (num * 10 ^ places) den)
  have hlength := length_fraction_ofScaled places (nearestEven (num * 10 ^ places) den)
  have hq : (num : ℚ) / den * 10 ^ places = (num * 10 ^ places : Nat) / den := by
    push_cast
    ring
  have hhalf := abs_sub_nearestEven_le (num * 10 ^ places) hden
  refine ⟨?_, hlength, fun e he => ?_, fun e he hne htie => ?_⟩
  · rw [ofScaled, Digits.value_ofNat]
  · rw [abs_sub_exact _ he, abs_sub_exact _ hlength, div_le_div_iff_of_pos_right hpos, hscaled, hq]
    by_cases hsame : e.scaled = nearestEven (num * 10 ^ places) den
    · rw [hsame]
    · exact hhalf.trans (half_le_abs_sub hsame hhalf)
  · rw [hscaled]
    have hother : e.scaled ≠ nearestEven (num * 10 ^ places) den := by
      intro hsame
      rw [exact, exact, he, hlength, hscaled, hsame] at hne
      exact hne rfl
    rw [abs_sub_exact _ he, abs_sub_exact _ hlength, div_left_inj' hpos.ne', hscaled, hq] at htie
    refine nearestEven_even hden (le_antisymm hhalf ?_)
    rw [← htie]
    exact half_le_abs_sub hother hhalf

end Decimal

/-! ## Exact values -/

namespace Double

/-- The exact value of a finite number. -/
def toRat : Double → ℚ
  | finite negative units _ =>
    if negative then -(units / unitsPerOne : ℚ) else (units / unitsPerOne : ℚ)
  | _ => 0

variable {negative : Bool} {units : Nat}

theorem abs_toRat_finite (h : Representable units) :
    |(finite negative units h).toRat| = units / unitsPerOne := by
  have hnonneg : (0 : ℚ) ≤ units / unitsPerOne := by positivity
  cases negative with
  | true => rw [toRat, if_pos rfl, abs_neg, abs_of_nonneg hnonneg]
  | false => rw [toRat, if_neg Bool.false_ne_true, abs_of_nonneg hnonneg]

theorem toRat_finite_neg_iff (h : Representable units) :
    (finite negative units h).toRat < 0 ↔ negative = true ∧ units ≠ 0 := by
  have hnonneg : (0 : ℚ) ≤ units / unitsPerOne := by positivity
  have hone : (0 : ℚ) < unitsPerOne := Nat.cast_pos.2 unitsPerOne_pos
  cases negative with
  | true =>
    rw [toRat, if_pos rfl, neg_lt_zero, div_pos_iff_of_pos_right hone, Nat.cast_pos,
      Nat.pos_iff_ne_zero, and_iff_right rfl]
  | false =>
    rw [toRat, if_neg Bool.false_ne_true]
    exact iff_of_false (not_lt.2 hnonneg) fun h => Bool.false_ne_true h.1

theorem isRounding_fixed (places : Nat) (h : Representable units) :
    (fixed places units).IsRounding |(finite negative units h).toRat| places := by
  rw [abs_toRat_finite]
  exact Decimal.isRounding_ofScaled units unitsPerOne_pos places

end Double

end NumberRules
