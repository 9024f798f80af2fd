import Mathlib
import NumberRules.Spelling.Rule
import NumberRules.Proofs.Double.Whole

/-! # The search for a divisor

A numeric rule divides by the largest power of its radix that is not above its base value.  The
powers are searched from one on, in 64 bits; `Climbs` counts the turns of this search.  A product
that does not fit in 64 bits is above every base value too, so the search halts where it would among
the natural numbers.  Whole numbers from the base value on and below `2 ^ 53` are split exactly.
-/

namespace NumberRules.Spelling
set_option autoImplicit false

/-! ## One turn -/

theorem product?_eq_some_iff {a b c : UInt64} :
    product? a b = some c ↔ c.toNat = a.toNat * b.toNat := by
  have hc := c.toNat_lt_size
  unfold product?
  split
  · rename_i hfits
    have hproduct : (a * b).toNat = a.toNat * b.toNat := by
      rw [UInt64.toNat_mul]
      exact Nat.mod_eq_of_lt hfits
    rw [Option.some_inj, ← UInt64.toNat_inj, hproduct, eq_comm]
  · simp only [reduceCtorEq, false_iff]
    omega

theorem nextPower?_eq_some_iff {radix limit power next : UInt64} :
    nextPower? radix limit power = some next ↔
      next.toNat = power.toNat * radix.toNat ∧ next.toNat ≤ limit.toNat := by
  rw [nextPower?, Option.filter_eq_some_iff, product?_eq_some_iff, decide_eq_true_iff,
    UInt64.le_iff_toNat_le]

/-- A product that does not fit is above the limit as well. -/
theorem nextPower?_eq_none_iff {radix limit power : UInt64} :
    nextPower? radix limit power = none ↔ limit.toNat < power.toNat * radix.toNat := by
  have hlimit := limit.toNat_lt_size
  rw [← not_iff_not, ← ne_eq, Option.ne_none_iff_exists', Nat.not_lt]
  constructor
  · rintro ⟨next, hnext⟩
    obtain ⟨hproduct, hle⟩ := nextPower?_eq_some_iff.1 hnext
    omega
  · intro hle
    have hfits : power.toNat * radix.toNat < UInt64.size := by omega
    have hnat := UInt64.toNat_ofNat_of_lt' hfits
    refine ⟨UInt64.ofNat (power.toNat * radix.toNat), nextPower?_eq_some_iff.2 ⟨hnat, ?_⟩⟩
    rwa [hnat]

/-! ## The search -/

/-- The search goes on for some turns after `power` and then halts at `last`. -/
def Climbs (radix limit : UInt64) : Nat → UInt64 → UInt64 → Prop
  | 0, power, last => power = last ∧ nextPower? radix limit power = none
  | turns + 1, power, last =>
    ∃ next, nextPower? radix limit power = some next ∧ Climbs radix limit turns next last

section

variable {radix limit power last : UInt64} {turns : Nat}

theorem Climbs.last_eq (h : Climbs radix limit turns power last) :
    last.toNat = power.toNat * radix.toNat ^ turns := by
  induction turns generalizing power with
  | zero => rw [h.1, pow_zero, mul_one]
  | succ turns ih =>
    obtain ⟨next, hnext, hrest⟩ := h
    rw [ih hrest, (nextPower?_eq_some_iff.1 hnext).1, pow_succ', mul_assoc]

theorem Climbs.lt (h : Climbs radix limit turns power last) :
    limit.toNat < last.toNat * radix.toNat := by
  induction turns generalizing power with
  | zero => exact nextPower?_eq_none_iff.1 (h.1 ▸ h.2)
  | succ turns ih =>
    obtain ⟨next, -, hrest⟩ := h
    exact ih hrest

theorem Climbs.le {bound : Nat} (h : Climbs radix limit turns power last)
    (hpower : power.toNat ≤ bound) (hlimit : limit.toNat ≤ bound) : last.toNat ≤ bound := by
  induction turns generalizing power with
  | zero => exact h.1 ▸ hpower
  | succ turns ih =>
    obtain ⟨next, hnext, hrest⟩ := h
    exact ih hrest ((nextPower?_eq_some_iff.1 hnext).2.trans hlimit)

theorem le_lastPower (radix limit power : UInt64) :
    power.toNat ≤ (lastPower radix limit power).toNat := by
  fun_induction lastPower radix limit power with
  | case1 power next hnext hlt ih => exact (UInt64.lt_iff_toNat_lt.1 hlt).le.trans ih
  | case2 power next hnext hlt => exact Nat.le_refl _
  | case3 power hnone => exact Nat.le_refl _

/-- From two on every power is above the one before, so the search comes to an end. -/
theorem climbs_lastPower (hradix : 2 ≤ radix.toNat) (limit : UInt64) (hpower : 0 < power.toNat) :
    ∃ turns, Climbs radix limit turns power (lastPower radix limit power) := by
  fun_induction lastPower radix limit power with
  | case1 power next hnext hlt ih =>
    obtain ⟨turns, hrest⟩ := ih (hpower.trans (UInt64.lt_iff_toNat_lt.1 hlt))
    exact ⟨turns + 1, next, hnext, hrest⟩
  | case2 power next hnext hlt =>
    have hgrows : power.toNat * 2 ≤ power.toNat * radix.toNat := Nat.mul_le_mul_left _ hradix
    rw [UInt64.lt_iff_toNat_lt, (nextPower?_eq_some_iff.1 hnext).1] at hlt
    omega
  | case3 power hnone => exact ⟨0, rfl, hnone⟩

end

/-! ## Divisors -/

theorem divisorFor_pos (base : BaseValue) (radix : UInt32) : 0 < divisorFor base radix := by
  cases base with
  | number n => exact le_lastPower radix.toUInt64 n 1
  | _ => exact Nat.one_pos

theorem divisorFor_le (base : BaseValue) (radix : UInt32) : divisorFor base radix ≤ 2 ^ 64 := by
  cases base with
  | number n => exact (UInt64.toNat_lt _).le
  | _ => exact Nat.one_le_two_pow

section

variable {radix : UInt32} (hradix : 2 ≤ radix.toNat)

include hradix

/-- The divisor of a number is the last power of the radix up to it. -/
theorem exists_climbs (n : UInt64) :
    ∃ turns last, Climbs radix.toUInt64 n turns 1 last ∧
      divisorFor (.number n) radix = last.toNat ∧ last.toNat = radix.toNat ^ turns ∧
      last.toNat ≤ max n.toNat 1 ∧ n.toNat < radix.toNat ^ (turns + 1) := by
  have hword : radix.toUInt64.toNat = radix.toNat := UInt32.toNat_toUInt64 radix
  have hone : (1 : UInt64).toNat = 1 := rfl
  obtain ⟨turns, hclimbs⟩ := climbs_lastPower (hword ▸ hradix) n (hone ▸ Nat.one_pos)
  have hlast := hclimbs.last_eq
  have hlt := hclimbs.lt
  rw [hone, Nat.one_mul, hword] at hlast
  rw [hlast, hword, ← pow_succ] at hlt
  have hle := hclimbs.le (Nat.le_max_right n.toNat 1) (Nat.le_max_left n.toNat 1)
  exact ⟨turns, _, hclimbs, rfl, hlast, hle, hlt⟩

theorem le_divisorFor {n : UInt64} (h : radix.toNat ≤ n.toNat) :
    radix.toNat ≤ divisorFor (.number n) radix := by
  obtain ⟨turns, last, -, hdivisor, hlast, -, hlt⟩ := exists_climbs hradix n
  rw [hdivisor, hlast]
  refine Nat.le_self_pow ?_ _
  rintro rfl
  rw [Nat.zero_add, pow_one] at hlt
  omega

theorem divisorFor_le_max (n : UInt64) : divisorFor (.number n) radix ≤ max n.toNat 1 := by
  obtain ⟨turns, last, -, hdivisor, -, hle, -⟩ := exists_climbs hradix n
  rwa [hdivisor]

theorem divisorFor_self {n : UInt64} (h : n.toNat = radix.toNat) :
    divisorFor (.number n) radix = radix.toNat := by
  have hle := divisorFor_le_max hradix n
  have hge := le_divisorFor hradix h.ge
  omega

end

/-! ## Splitting numbers -/

/-- The quotient and the remainder that spelling derives from a number are whole, and they divide
it as natural numbers do. -/
structure SplitsInto (divisor n quotient rest : Nat) : Prop where
  quotient_eq : (Operation.quotient divisor).apply (.ofNat n) = .ofNat quotient
  rest_eq : (Operation.remainder divisor).apply (.ofNat n) = .ofNat rest
  sum_eq : quotient * divisor + rest = n
  rest_lt : rest < divisor

theorem splitsInto_div_mod {divisor n : Nat} (hpos : 0 < divisor) (hdivisor : divisor < 2 ^ 53)
    (hn : n < 2 ^ 53) : SplitsInto divisor n (n / divisor) (n % divisor) where
  quotient_eq := by rw [Operation.apply, Double.floor_div_ofNat hn hpos hdivisor]
  rest_eq := by rw [Operation.apply, Double.rem_ofNat hn hpos hdivisor]
  sum_eq := Nat.div_add_mod' n divisor
  rest_lt := Nat.mod_lt n hpos

/-- The search for the divisor of a numeric rule halts at the largest power of the radix that is not
above the base value, and at one for the base value zero; all numbers below `2 ^ 53` that the rule
can apply to are split by it. -/
theorem divisorFor_largestPower_splits {radix : UInt32} (hradix : 2 ≤ radix.toNat)
    (base : UInt64) :
    ∃ turns last, Climbs radix.toUInt64 base turns 1 last ∧
      divisorFor (.number base) radix = last.toNat ∧ last.toNat = radix.toNat ^ turns ∧
      radix.toNat ^ turns ≤ max base.toNat 1 ∧ base.toNat < radix.toNat ^ (turns + 1) ∧
      ∀ n, base.toNat ≤ n → n < 2 ^ 53 → ∃ quotient rest,
        SplitsInto (divisorFor (.number base) radix) n quotient rest ∧
          (1 ≤ base.toNat → 1 ≤ quotient) := by
  obtain ⟨turns, last, hclimbs, hdivisor, hlast, hle, hlt⟩ := exists_climbs hradix base
  refine ⟨turns, last, hclimbs, hdivisor, hlast, hlast ▸ hle, hlt, fun n hbase hn => ?_⟩
  have hpos := divisorFor_pos (.number base) radix
  have hmax := divisorFor_le_max hradix base
  refine ⟨_, _, splitsInto_div_mod hpos (by omega) hn, fun hone => Nat.div_pos ?_ hpos⟩
  omega

/-- The largest base value, where the next power does not fit in 64 bits, and the largest number
that a rule for scores is sure to split. -/
theorem divisorFor_largestBase_scores :
    2 ≤ (10 : UInt32).toNat ∧
      divisorFor (.number 18446744073709551615) 10 = 10000000000000000000 ∧
    2 ≤ (20 : UInt32).toNat ∧ (60 : UInt64).toNat ≤ 2 ^ 53 - 1 ∧ 2 ^ 53 - 1 < 2 ^ 53 ∧
      ∃ quotient rest, SplitsInto (divisorFor (.number 60) 20) (2 ^ 53 - 1) quotient rest ∧
        1 ≤ quotient := by
  have hten : 2 ≤ (10 : UInt32).toNat := by decide
  have htwenty : 2 ≤ (20 : UInt32).toNat := by decide
  obtain ⟨turns, last, -, hdivisor, hlast, hle, hlt, -⟩ :=
    divisorFor_largestPower_splits hten 18446744073709551615
  obtain ⟨-, -, -, -, -, -, -, hsplits⟩ := divisorFor_largestPower_splits htwenty 60
  obtain ⟨quotient, rest, hsplit, hone⟩ := hsplits (2 ^ 53 - 1) (by decide) (by decide)
  have hnineteen : turns = 19 := by
    have hradix : (10 : UInt32).toNat = 10 := rfl
    have hbase : (18446744073709551615 : UInt64).toNat = 18446744073709551615 := rfl
    rw [hradix, hbase] at hle hlt
    have hupper : 10 ^ turns < 10 ^ 20 := by omega
    have hlower : 10 ^ 19 < 10 ^ (turns + 1) := by omega
    have := (Nat.pow_lt_pow_iff_right (by decide)).1 hupper
    have := (Nat.pow_lt_pow_iff_right (by decide)).1 hlower
    omega
  refine ⟨hten, ?_, htwenty, by decide, by decide, quotient, rest, hsplit, hone (by decide)⟩
  rw [hdivisor, hlast, hnineteen]
  rfl

end NumberRules.Spelling
