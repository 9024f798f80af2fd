import Mathlib
import NumberRules.Double.Text
import NumberRules.Proofs.Double.Floor
import NumberRules.Proofs.Text.Digits

/-! # Shortest decimals

Whatever the scan for the shortest decimal of a double returns reads back as that double.  From this
and from the order of rounding follow the two sides of the point: the decimal of a number with a
fraction has the whole part of the number before the point and digits after it, and a whole number
is written without a point.

A grid that is finer than half a gap has a neighbour that reads back, so the scan ends there or
before.  This bounds the significant digits, and with them the fraction read as a whole number.
-/

namespace NumberRules.Double
set_option autoImplicit false

variable {units v q s step : Nat}

/-! ## Reading back -/

theorem fivePow_pos : 0 < 5 ^ exactPlaces := Nat.pow_pos (by omega)

theorem tenPow_pos : 0 < 10 ^ exactPlaces := Nat.pow_pos (by omega)

theorem readsBack_iff :
    readsBack units s = true ↔ roundUnits s (5 ^ exactPlaces) = units := by
  rw [readsBack, decide_eq_true_eq]

theorem readsBack_exactScaled (h : gap units ∣ units) :
    readsBack units (exactScaled units) = true :=
  readsBack_iff.2 (roundUnits_of_dvd fivePow_pos h)

theorem exactScaled_mul_unitsPerOne (q : Nat) :
    exactScaled (q * unitsPerOne) = q * 10 ^ exactPlaces := by
  rw [exactScaled, Nat.mul_assoc, unitsPerOne, exactPlaces, ← Nat.mul_pow]

/-- What reads back is above the doubles below. -/
theorem exactScaled_lt_of_readsBack (h : readsBack units s = true) (hv : gap v ∣ v)
    (hlt : v < units) : exactScaled v < s := by
  by_contra hle
  have hround := roundUnits_le_of_le s fivePow_pos hv (Nat.le_of_not_lt hle)
  rw [readsBack_iff.1 h] at hround
  omega

/-- What reads back is below the doubles above. -/
theorem lt_exactScaled_of_readsBack (h : readsBack units s = true) (hv : gap v ∣ v)
    (hlt : units < v) : s < exactScaled v := by
  by_contra hle
  have hround := le_roundUnits_of_le s fivePow_pos hv (Nat.le_of_not_lt hle)
  rw [readsBack_iff.1 h] at hround
  omega

/-! ## One grid -/

-- An equation of functions, because the definition applied to arguments is compared by running its
-- tests, which is slow.
theorem nearestOnGrid_eq : nearestOnGrid = fun units step =>
    match readsBack units (exactScaled units / step * step),
        readsBack units (exactScaled units / step * step + step) with
    | true, true =>
      some (if exactScaled units - exactScaled units / step * step <
          exactScaled units / step * step + step - exactScaled units
        then exactScaled units / step * step else exactScaled units / step * step + step)
    | true, false => some (exactScaled units / step * step)
    | false, true => some (exactScaled units / step * step + step)
    | false, false => none := by
  delta nearestOnGrid
  rfl

theorem eq_of_nearestOnGrid (h : nearestOnGrid units step = some s) :
    readsBack units s = true ∧ (s = exactScaled units / step * step ∨
      s = exactScaled units / step * step + step) := by
  rw [nearestOnGrid_eq] at h
  beta_reduce at h
  cases hlower : readsBack units (exactScaled units / step * step) <;>
    cases hupper : readsBack units (exactScaled units / step * step + step) <;>
    simp only [hlower, hupper, Option.some.injEq, reduceCtorEq] at h
  · exact h ▸ ⟨hupper, .inr rfl⟩
  · exact h ▸ ⟨hlower, .inl rfl⟩
  · split at h
    · exact h ▸ ⟨hlower, .inl rfl⟩
    · exact h ▸ ⟨hupper, .inr rfl⟩

theorem nearestOnGrid_ne_none
    (h : readsBack units (exactScaled units / step * step + step) = true) :
    nearestOnGrid units step ≠ none := by
  rw [nearestOnGrid_eq]
  beta_reduce
  cases readsBack units (exactScaled units / step * step) <;> simp [h]

theorem nearestOnGrid_of_dvd (hgrid : gap units ∣ units) (hstep : 0 < step)
    (h : step ∣ exactScaled units) : nearestOnGrid units step = some (exactScaled units) := by
  rw [nearestOnGrid_eq]
  beta_reduce
  rw [Nat.div_mul_cancel h, readsBack_exactScaled hgrid]
  cases readsBack units (exactScaled units + step) <;> simp [hstep]

/-! ## All grids -/

theorem readsBack_coarsest (h : gap units ∣ units) (exponent : Nat) :
    readsBack units (coarsest units exponent) = true := by
  induction exponent with
  | zero => exact readsBack_exactScaled h
  | succ exponent ih =>
    rw [coarsest]
    cases hnearest : nearestOnGrid units (10 ^ (exponent + 1)) with
    | none => exact ih
    | some s => exact (eq_of_nearestOnGrid hnearest).1

theorem readsBack_shortestScaled (h : gap units ∣ units) :
    readsBack units (shortestScaled units) = true :=
  readsBack_coarsest h _

/-! ## Both sides of the point -/

theorem fraction_shortest (units : Nat) : (shortest units).fraction =
    Digits.dropTrailingZeros
      (Digits.padded exactPlaces (shortestScaled units % 10 ^ exactPlaces)) := by
  rw [shortest, Decimal.trimmed, Decimal.ofScaled]

theorem integer_shortest (units : Nat) :
    (shortest units).integer = Digits.ofNat (shortestScaled units / 10 ^ exactPlaces) := by
  rw [shortest, Decimal.trimmed, Decimal.ofScaled]

theorem value_padded_shortestScaled (units : Nat) :
    Digits.value (Digits.padded exactPlaces (shortestScaled units % 10 ^ exactPlaces)) =
      shortestScaled units % 10 ^ exactPlaces := by
  rw [Digits.value_padded, Nat.mod_mod]

/-! ## Numbers with a fraction -/

theorem shortestScaled_between (h : Representable units) (hfraction : ¬unitsPerOne ∣ units) :
    units / unitsPerOne * 10 ^ exactPlaces < shortestScaled units ∧
      shortestScaled units < (units / unitsPerOne + 1) * 10 ^ exactPlaces := by
  have hpos := unitsPerOne_pos
  have hsize := div_unitsPerOne_lt h hfraction
  have hsplit : unitsPerOne * (units / unitsPerOne) + units % unitsPerOne = units :=
    Nat.div_add_mod units unitsPerOne
  have hrest : units % unitsPerOne ≠ 0 := fun h0 => hfraction (Nat.dvd_of_mod_eq_zero h0)
  have hlt : units % unitsPerOne < unitsPerOne := Nat.mod_lt units hpos
  have hcomm : units / unitsPerOne * unitsPerOne = unitsPerOne * (units / unitsPerOne) :=
    Nat.mul_comm _ _
  have hback := readsBack_shortestScaled h.2
  -- The two whole numbers are doubles, and the decimal reads back as a double between them.
  constructor
  · rw [← exactScaled_mul_unitsPerOne]
    refine exactScaled_lt_of_readsBack hback (representable_mul_unitsPerOne ?_).2 ?_ <;> omega
  · rw [← exactScaled_mul_unitsPerOne]
    refine lt_exactScaled_of_readsBack hback (representable_mul_unitsPerOne (by omega)).2 ?_
    rw [Nat.add_mul, Nat.one_mul]
    omega

/-- The whole part of a number with a fraction stands before the point. -/
theorem integer_shortest_of_fraction (h : Representable units)
    (hfraction : ¬unitsPerOne ∣ units) :
    (shortest units).integer = Digits.ofNat (units / unitsPerOne) := by
  obtain ⟨hlower, hupper⟩ := shortestScaled_between h hfraction
  rw [integer_shortest, Nat.div_eq_of_lt_le hlower.le hupper]

theorem fraction_shortest_ne_nil (h : Representable units) (hfraction : ¬unitsPerOne ∣ units) :
    (shortest units).fraction ≠ [] := by
  obtain ⟨hlower, hupper⟩ := shortestScaled_between h hfraction
  rw [fraction_shortest, ne_eq, Digits.dropTrailingZeros_eq_nil_iff, value_padded_shortestScaled]
  intro hzero
  obtain ⟨k, hk⟩ := Nat.dvd_of_mod_eq_zero hzero
  rw [hk, Nat.mul_comm _ k] at hlower hupper
  have hbelow := Nat.lt_of_mul_lt_mul_right hlower
  have habove := Nat.lt_of_mul_lt_mul_right hupper
  omega

/-! ## Whole numbers -/

/-- On a grid that a whole number does not lie on, no neighbour reads back as it. -/
theorem nearestOnGrid_whole (hq : q < 2 ^ 53) (exponent : Nat) :
    nearestOnGrid (q * unitsPerOne) (10 ^ exponent) = none ∨
      nearestOnGrid (q * unitsPerOne) (10 ^ exponent) = some (exactScaled (q * unitsPerOne)) := by
  have hpos : 0 < 10 ^ exponent := Nat.pow_pos (by omega)
  by_cases hdvd : 10 ^ exponent ∣ exactScaled (q * unitsPerOne)
  · exact .inr (nearestOnGrid_of_dvd (representable_whole hq).2 hpos hdvd)
  · left
    cases hnearest : nearestOnGrid (q * unitsPerOne) (10 ^ exponent) with
    | none => rfl
    | some s =>
      obtain ⟨hback, hgrid⟩ := eq_of_nearestOnGrid hnearest
      -- The grid is coarser than one, so `s` is another whole number.
      have hcoarse : 10 ^ exactPlaces ∣ 10 ^ exponent := by
        refine Nat.pow_dvd_pow 10 ?_
        by_contra hfine
        refine hdvd ?_
        rw [exactScaled_mul_unitsPerOne]
        exact Dvd.dvd.mul_left (Nat.pow_dvd_pow 10 (by omega)) q
      have hmultiple : 10 ^ exponent ∣ s := by
        rcases hgrid with hs | hs
        · exact hs ▸ Nat.dvd_mul_left _ _
        · exact hs ▸ Nat.dvd_add (Nat.dvd_mul_left _ _) (Nat.dvd_refl _)
      obtain ⟨k, hk⟩ := hcoarse.trans hmultiple
      rw [Nat.mul_comm, ← exactScaled_mul_unitsPerOne] at hk
      rw [hk] at hback hmultiple
      rcases Nat.lt_trichotomy k q with hlt | heq | hgt
      · have hk := exactScaled_lt_of_readsBack hback
          (representable_mul_unitsPerOne (q := k) (by omega)).2
          (Nat.mul_lt_mul_of_pos_right hlt unitsPerOne_pos)
        exact absurd hk (Nat.lt_irrefl _)
      · exact absurd (heq ▸ hmultiple) hdvd
      · have hk := lt_exactScaled_of_readsBack hback
          (representable_mul_unitsPerOne (q := q + 1) (by omega)).2
          (Nat.mul_lt_mul_of_pos_right (Nat.lt_succ_self q) unitsPerOne_pos)
        rw [exactScaled_mul_unitsPerOne, exactScaled_mul_unitsPerOne] at hk
        have := Nat.lt_of_mul_lt_mul_right hk
        omega

theorem coarsest_whole (hq : q < 2 ^ 53) (exponent : Nat) :
    coarsest (q * unitsPerOne) exponent = exactScaled (q * unitsPerOne) := by
  induction exponent with
  | zero => rw [coarsest]
  | succ exponent ih =>
    rw [coarsest]
    rcases nearestOnGrid_whole hq (exponent + 1) with h | h
    · rw [h, Option.getD_none, ih]
    · rw [h, Option.getD_some]

/-- A whole number is written without a point. -/
theorem shortest_whole (hq : q < 2 ^ 53) :
    shortest (q * unitsPerOne) = ⟨Digits.ofNat q, []⟩ := by
  have hscaled : shortestScaled (q * unitsPerOne) = q * 10 ^ exactPlaces :=
    (coarsest_whole hq _).trans (exactScaled_mul_unitsPerOne q)
  have hdiv : q * 10 ^ exactPlaces / 10 ^ exactPlaces = q := Nat.mul_div_cancel q tenPow_pos
  have hfraction : (shortest (q * unitsPerOne)).fraction = [] := by
    rw [fraction_shortest, Digits.dropTrailingZeros_eq_nil_iff, value_padded_shortestScaled,
      hscaled, Nat.mul_mod_left]
  have hinteger : (shortest (q * unitsPerOne)).integer = Digits.ofNat q := by
    rw [integer_shortest, hscaled, hdiv]
  rw [← hinteger, ← hfraction]

/-! ## Significant digits -/

/-- The decimal is on a grid at least as coarse as one that has a neighbour that reads back. -/
theorem coarsest_on_grid {i exponent : Nat} (hle : i ≤ exponent)
    (h : i ≠ 0 → nearestOnGrid units (10 ^ i) ≠ none) :
    ∃ j m, i ≤ j ∧ coarsest units exponent = m * 10 ^ j ∧ m ≤ exactScaled units / 10 ^ j + 1 := by
  induction exponent with
  | zero =>
    refine ⟨0, exactScaled units, hle, ?_, ?_⟩
    · rw [coarsest, pow_zero, Nat.mul_one]
    · rw [pow_zero, Nat.div_one]
      exact Nat.le_succ _
  | succ exponent ih =>
    rw [coarsest]
    cases hnearest : nearestOnGrid units (10 ^ (exponent + 1)) with
    | some s =>
      obtain ⟨-, hs | hs⟩ := eq_of_nearestOnGrid hnearest
      · exact ⟨exponent + 1, _, hle, hs, Nat.le_succ _⟩
      · refine ⟨exponent + 1, exactScaled units / 10 ^ (exponent + 1) + 1, hle, ?_, Nat.le_refl _⟩
        rw [Nat.add_mul, Nat.one_mul]
        exact hs
    | none =>
      refine ih ?_
      by_contra hgt
      obtain rfl : i = exponent + 1 := by omega
      exact h (by omega) hnearest

theorem nearestOnGrid_ne_none_of_lt (hgrid : gap units ∣ units) (hstep : 0 < step)
    (h : 2 * step < 5 ^ exactPlaces * gap units) : nearestOnGrid units step ≠ none := by
  have hsplit : step * (exactScaled units / step) + exactScaled units % step = exactScaled units :=
    Nat.div_add_mod _ _
  have hlt : exactScaled units % step < step := Nat.mod_lt _ hstep
  have hcomm : exactScaled units / step * step = step * (exactScaled units / step) :=
    Nat.mul_comm _ _
  have hexact : exactScaled units = units * 5 ^ exactPlaces := rfl
  -- The upper neighbour is above the exact value by less than half a gap.
  refine nearestOnGrid_ne_none (readsBack_iff.2 ?_)
  refine roundUnits_of_near _ fivePow_pos hgrid ?_ ?_ <;> omega

theorem lt_pow_length_ofNat (n : Nat) : n < 10 ^ (Digits.ofNat n).length := by
  have h := Digits.value_lt (Digits.ofNat n)
  rwa [Digits.value_ofNat] at h

/-- A power of ten that is below half of a width, but not by a factor of ten. -/
theorem exists_pow_lt_half {width : Nat} (h : 3 ≤ width) :
    ∃ i, 2 * 10 ^ i < width ∧ width ≤ 20 * 10 ^ i := by
  have hhalf : (width - 1) / 2 ≠ 0 := by omega
  have hfine := Nat.pow_log_le_self 10 hhalf
  have hcoarse := Nat.lt_pow_succ_log_self (b := 10) (by omega) ((width - 1) / 2)
  rw [pow_succ] at hcoarse
  exact ⟨Nat.log 10 ((width - 1) / 2), by omega, by omega⟩

theorem exactScaled_eq (hgrid : gap units ∣ units) :
    exactScaled units = units / gap units * (5 ^ exactPlaces * gap units) := by
  conv_lhs => rw [exactScaled, ← Nat.div_mul_cancel hgrid]
  ring

/-- The shortest decimal of a double has at most 18 significant digits. -/
theorem exists_shortestScaled_eq (hgrid : gap units ∣ units) :
    ∃ m i, shortestScaled units = m * 10 ^ i ∧ m < 10 ^ 18 := by
  rcases Nat.eq_zero_or_pos units with rfl | hpos
  · refine ⟨0, 0, ?_, by norm_num⟩
    have hwhole := coarsest_whole (q := 0) (by norm_num)
      ((Digits.ofNat (exactScaled (0 * unitsPerOne))).length - 1)
    rw [Nat.zero_mul] at hwhole
    rw [shortestScaled, hwhole, exactScaled, Nat.zero_mul, Nat.zero_mul]
  · have hgap := gap_pos units
    have hfive : 5 ≤ 5 ^ exactPlaces := Nat.le_self_pow (by decide) 5
    have hwidth : 5 ≤ 5 ^ exactPlaces * gap units := hfive.trans (Nat.le_mul_of_pos_right _ hgap)
    -- On the coarsest grid below half a gap a neighbour reads back.  Counted in its steps the number
    -- is at most twenty times the significand.
    obtain ⟨i, hfine, hcoarse⟩ := exists_pow_lt_half (by omega : 3 ≤ 5 ^ exactPlaces * gap units)
    have hstep : 0 < 10 ^ i := Nat.pow_pos (by omega)
    have hexponent : i ≤ (Digits.ofNat (exactScaled units)).length - 1 := by
      have hlength := lt_pow_length_ofNat (exactScaled units)
      have hle : 5 ^ exactPlaces * gap units ≤ exactScaled units := by
        rw [exactScaled_eq hgrid]
        exact Nat.le_mul_of_pos_left _ (Nat.div_pos (Nat.le_of_dvd hpos hgrid) hgap)
      have hlt : 10 ^ i < 10 ^ (Digits.ofNat (exactScaled units)).length := by omega
      have := (Nat.pow_lt_pow_iff_right (by omega)).1 hlt
      omega
    have hbound : exactScaled units / 10 ^ i < 2 ^ 53 * 20 := by
      rw [Nat.div_lt_iff_lt_mul hstep, exactScaled_eq hgrid]
      calc units / gap units * (5 ^ exactPlaces * gap units)
          < 2 ^ 53 * (5 ^ exactPlaces * gap units) :=
            Nat.mul_lt_mul_of_pos_right (div_gap_lt units) (by omega)
        _ ≤ 2 ^ 53 * (20 * 10 ^ i) := Nat.mul_le_mul_left _ hcoarse
        _ = 2 ^ 53 * 20 * 10 ^ i := by rw [Nat.mul_assoc]
    obtain ⟨j, m, hij, hm, hle⟩ := coarsest_on_grid hexponent
      fun _ => nearestOnGrid_ne_none_of_lt hgrid hstep hfine
    have hquotient : exactScaled units / 10 ^ j ≤ exactScaled units / 10 ^ i :=
      Nat.div_le_div_left (Nat.pow_le_pow_right (by omega) hij) hstep
    exact ⟨m, j, hm, by omega⟩

theorem value_fraction_shortest_lt (hgrid : gap units ∣ units) :
    Digits.value (shortest units).fraction < 10 ^ 18 := by
  obtain ⟨m, i, hscaled, hm⟩ := exists_shortestScaled_eq hgrid
  have hrest : ∃ m', m' ≤ m ∧ shortestScaled units % 10 ^ exactPlaces = m' * 10 ^ i := by
    rcases Nat.le_total i exactPlaces with hle | hge
    · refine ⟨m % 10 ^ (exactPlaces - i), Nat.mod_le _ _, ?_⟩
      have hsplit : 10 ^ exactPlaces = 10 ^ (exactPlaces - i) * 10 ^ i := by
        rw [← Nat.pow_add, Nat.sub_add_cancel hle]
      rw [hscaled, hsplit, Nat.mul_mod_mul_right]
    · refine ⟨0, Nat.zero_le _, ?_⟩
      rw [hscaled, Nat.zero_mul]
      exact Nat.mod_eq_zero_of_dvd (Dvd.dvd.mul_left (Nat.pow_dvd_pow 10 hge) m)
  obtain ⟨m', hm', hvalue⟩ := hrest
  rw [← value_padded_shortestScaled] at hvalue
  rw [fraction_shortest]
  exact ((Digits.value_dropTrailingZeros_le hvalue).trans hm').trans_lt hm

end NumberRules.Double
