import Mathlib
import NumberRules.Proofs.Double.Whole

/-! # The floor of a double, and doubles with a fraction

From `2 ^ 52` on every double is whole, and up to `2 ^ 53` every whole number is a double.  So the
floor of a finite double is a double, and taking it does not round.  A finite double differs from
its floor exactly if its units do not fill whole ones: `HasFraction`.
-/

namespace NumberRules.Double
set_option autoImplicit false

variable {negative : Bool} {units q : Nat}

/-! ## Counts of units -/

theorem unitsPerOne_dvd (h : Representable units) (hle : 2 ^ 52 * unitsPerOne ≤ units) :
    unitsPerOne ∣ units := by
  have hpos : 0 < 2 ^ 52 * unitsPerOne := Nat.mul_pos (by norm_num) unitsPerOne_pos
  have hsplit : 2 ^ 52 * unitsPerOne = 2 ^ (52 + unitBits) := by
    rw [unitsPerOne, ← Nat.pow_add]
  have hpow : 2 ^ (52 + unitBits) ≤ units := hsplit ▸ hle
  have hlog : 52 + unitBits ≤ units.log2 := (Nat.le_log2 (by omega)).2 hpow
  have hgap : unitsPerOne ∣ gap units := by
    rw [unitsPerOne, gap]
    exact Nat.pow_dvd_pow 2 (by omega)
  exact hgap.trans h.2

/-- The whole part of a number with a fraction is below `2 ^ 52`. -/
theorem div_unitsPerOne_lt (h : Representable units) (hfraction : ¬unitsPerOne ∣ units) :
    units / unitsPerOne < 2 ^ 52 := by
  refine (Nat.div_lt_iff_lt_mul unitsPerOne_pos).2 ?_
  by_contra hle
  exact hfraction (unitsPerOne_dvd h (Nat.le_of_not_lt hle))

theorem representable_mul_unitsPerOne (hq : q ≤ 2 ^ 53) : Representable (q * unitsPerOne) := by
  rcases Nat.lt_or_eq_of_le hq with hlt | rfl
  · exact representable_whole hlt
  · refine ⟨lt_unitLimit (Nat.le_refl _), ?_⟩
    rw [unitsPerOne, ← Nat.pow_add]
    exact gap_dvd_pow _

/-- The units of the floor of a number with the given sign and units. -/
def floorUnits : Bool → Nat → Nat
  | false, units => units / unitsPerOne * unitsPerOne
  | true, units => (units + (unitsPerOne - 1)) / unitsPerOne * unitsPerOne

theorem floorUnits_of_dvd (h : unitsPerOne ∣ units) : floorUnits negative units = units := by
  cases negative with
  | false => rw [floorUnits, Nat.div_mul_cancel h]
  | true =>
    obtain ⟨k, hk⟩ := exists_eq_mul_right_of_dvd h
    have hrest : (unitsPerOne - 1) / unitsPerOne = 0 :=
      Nat.div_eq_of_lt (Nat.sub_lt unitsPerOne_pos Nat.one_pos)
    rw [floorUnits, hk, Nat.mul_add_div unitsPerOne_pos, hrest, Nat.add_zero, Nat.mul_comm]

theorem floorUnits_eq_iff (negative : Bool) :
    floorUnits negative units = units ↔ unitsPerOne ∣ units := by
  refine ⟨fun h => ?_, floorUnits_of_dvd⟩
  cases negative with
  | false => exact Dvd.intro_left _ h
  | true => exact Dvd.intro_left _ h

/-- The floor of a number with a fraction is its whole part, or one more if it is below zero. -/
theorem floorUnits_of_not_dvd (negative : Bool) (hfraction : ¬unitsPerOne ∣ units) :
    floorUnits negative units =
      (units / unitsPerOne + if negative then 1 else 0) * unitsPerOne := by
  cases negative with
  | false => rfl
  | true =>
    have hsplit : unitsPerOne * (units / unitsPerOne) + units % unitsPerOne = units :=
      Nat.div_add_mod units unitsPerOne
    have hrest : units % unitsPerOne ≠ 0 := fun h0 => hfraction (Nat.dvd_of_mod_eq_zero h0)
    have hlt : units % unitsPerOne < unitsPerOne := Nat.mod_lt units unitsPerOne_pos
    have hup : (units + (unitsPerOne - 1)) / unitsPerOne = units / unitsPerOne + 1 := by
      refine Nat.div_eq_of_lt_le ?_ ?_
      · rw [Nat.add_mul, Nat.one_mul, Nat.mul_comm]
        omega
      · rw [Nat.add_mul, Nat.add_mul, Nat.one_mul, Nat.mul_comm]
        omega
    rw [floorUnits, hup]
    rfl

theorem representable_floorUnits (negative : Bool) (h : Representable units) :
    Representable (floorUnits negative units) := by
  by_cases hdvd : unitsPerOne ∣ units
  · rw [floorUnits_of_dvd hdvd]
    exact h
  · have hlt := div_unitsPerOne_lt h hdvd
    rw [floorUnits_of_not_dvd negative hdvd]
    refine representable_mul_unitsPerOne ?_
    split <;> omega

/-! ## The floor -/

theorem floor_finite (h : Representable units) : (finite negative units h).floor =
    .finite negative (floorUnits negative units) (representable_floorUnits negative h) := by
  cases negative with
  | false => exact ofUnits_of_representable (representable_floorUnits false h)
  | true => exact ofUnits_of_representable (representable_floorUnits true h)

theorem isWhole_finite (negative : Bool) (h : Representable units) :
    (finite negative units h).isWhole = true ↔ unitsPerOne ∣ units := by
  rw [isWhole, floor_finite, ← floorUnits_eq_iff negative]
  cases negative with
  | false =>
    simp only [eq, rank, Bool.false_eq_true, if_false, decide_eq_true_eq, Int.ofNat_inj]
    exact eq_comm
  | true =>
    simp only [eq, rank, if_true, decide_eq_true_eq, Int.neg_inj, Int.ofNat_inj]
    exact eq_comm

/-! ## Fractions -/

/-- The number is finite and not whole. -/
def HasFraction : Double → Prop
  | .finite _ units _ => ¬unitsPerOne ∣ units
  | _ => False

instance (x : Double) : Decidable x.HasFraction :=
  match x with
  | .finite _ units _ => inferInstanceAs (Decidable (¬unitsPerOne ∣ units))
  | .nan => .isFalse id
  | .inf _ => .isFalse id

theorem hasFraction_iff {x : Double} :
    x.HasFraction ↔ x.isFinite = true ∧ x.isWhole = false := by
  cases x with
  | nan => simp [HasFraction, isFinite]
  | inf negative => simp [HasFraction, isFinite]
  | finite negative units h =>
    rw [HasFraction, ← isWhole_finite negative h, Bool.not_eq_true]
    simp [isFinite]

theorem HasFraction.ne_nan {x : Double} (h : x.HasFraction) : x ≠ .nan := by
  rintro rfl
  exact h

theorem HasFraction.ne_inf {x : Double} {negative : Bool} (h : x.HasFraction) :
    x ≠ .inf negative := by
  rintro rfl
  exact h

end NumberRules.Double
