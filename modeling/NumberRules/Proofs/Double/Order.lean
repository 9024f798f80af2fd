import Mathlib
import NumberRules.Proofs.Double.Whole

/-! # The order of doubles

Apart from NaN, doubles are compared by their ranks on the integer line, so their order is linear.
-/

namespace NumberRules.Double
set_option autoImplicit false

variable {x y z : Double}

theorem exists_rank (h : x ≠ .nan) : ∃ r, x.rank = some r := by
  cases x with
  | nan => exact absurd rfl h
  | inf negative => exact ⟨_, rfl⟩
  | finite negative units _ => exact ⟨_, rfl⟩

theorem ne_nan_of_rank {a : Int} (h : x.rank = some a) : x ≠ .nan := by
  rintro rfl
  cases h

theorem lt_iff : x.lt y = true ↔ ∃ a b, x.rank = some a ∧ y.rank = some b ∧ a < b := by
  rw [lt]
  cases x.rank <;> cases y.rank <;> simp

theorem le_iff : x.le y = true ↔ ∃ a b, x.rank = some a ∧ y.rank = some b ∧ a ≤ b := by
  rw [le]
  cases x.rank <;> cases y.rank <;> simp

theorem ne_nan_of_lt (h : x.lt y = true) : x ≠ .nan ∧ y ≠ .nan := by
  obtain ⟨a, b, ha, hb, -⟩ := lt_iff.1 h
  exact ⟨ne_nan_of_rank ha, ne_nan_of_rank hb⟩

theorem ne_nan_of_le (h : x.le y = true) : x ≠ .nan ∧ y ≠ .nan := by
  obtain ⟨a, b, ha, hb, -⟩ := le_iff.1 h
  exact ⟨ne_nan_of_rank ha, ne_nan_of_rank hb⟩

theorem eq_nan_right (x : Double) : x.eq .nan = false := by
  rw [eq]
  cases x.rank <;> rfl

theorem le_nan_right (x : Double) : x.le .nan = false := by
  rw [le]
  cases x.rank <;> rfl

theorem lt_or_le (hx : x ≠ .nan) (hy : y ≠ .nan) : x.lt y = true ∨ y.le x = true := by
  obtain ⟨a, ha⟩ := exists_rank hx
  obtain ⟨b, hb⟩ := exists_rank hy
  rcases lt_or_ge a b with h | h
  · exact .inl (lt_iff.2 ⟨a, b, ha, hb, h⟩)
  · exact .inr (le_iff.2 ⟨b, a, hb, ha, h⟩)

theorem lt_trans (hxy : x.lt y = true) (hyz : y.lt z = true) : x.lt z = true := by
  obtain ⟨a, b, ha, hb, hab⟩ := lt_iff.1 hxy
  obtain ⟨b', c, hb', hc, hbc⟩ := lt_iff.1 hyz
  obtain rfl : b = b' := Option.some.inj (hb.symm.trans hb')
  exact lt_iff.2 ⟨a, c, ha, hc, hab.trans hbc⟩

theorem lt_irrefl (x : Double) : ¬x.lt x = true := by
  intro h
  obtain ⟨a, b, ha, hb, hab⟩ := lt_iff.1 h
  rw [ha] at hb
  exact absurd (Option.some.inj hb) hab.ne

theorem lt_asymm (h : x.lt y = true) : y.lt x = false := by
  rw [← Bool.not_eq_true]
  exact fun hback => lt_irrefl x (lt_trans h hback)

theorem ofUnits_ne_nan (negative : Bool) (num den : Nat) : ofUnits negative num den ≠ .nan := by
  unfold ofUnits
  split <;> exact fun h => by cases h

/-- A natural number beyond the range gives an infinity. -/
theorem ofNat_ne_nan_always (n : Nat) : ofNat n ≠ .nan := by
  rw [ofNat, ofQuotient]
  exact ofUnits_ne_nan false _ _

theorem zero_ne_nan : zero ≠ .nan := fun h => by cases h

theorem zero_lt_one : zero.lt (.ofNat 1) = true := by
  rw [zero_eq_ofNat, lt_ofNat (by norm_num) (by norm_num)]
  exact decide_eq_true Nat.one_pos

end NumberRules.Double
