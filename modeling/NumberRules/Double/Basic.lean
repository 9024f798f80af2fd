import NumberRules.Text.Digits

/-! # Double-precision numbers

`Double` holds the binary64 numbers exactly: a finite one is a sign and a count of *units*, a unit
being the smallest positive double `2 ^ -1074`.  Not every count occurs: consecutive doubles are
`gap` units apart, and `Representable` says that a count is a multiple of the gap at its own size
and below the range limit.

Arithmetic elsewhere in the library computes exactly and then rounds once, with `ofQuotient`: to
the nearest representable count, a tie to the even neighbour.  Order and equality are those of
`rank`, which places every number except NaN on the integer line.
-/

namespace NumberRules
set_option autoImplicit false

-- Powers of natural numbers are those of the core library here, whatever else is imported.
attribute [local instance (high)] instPowNat

/-! ## Rounding to the nearest -/

/-- The natural number nearest to `num / den`; a tie goes to the even neighbour. -/
def nearestEven (num den : Nat) : Nat :=
  let quotient := num / den
  let rest := num % den
  if 2 * rest < den then quotient
  else if den < 2 * rest then quotient + 1
  else quotient + quotient % 2

theorem nearestEven_le (num den : Nat) : nearestEven num den ≤ num / den + 1 := by
  unfold nearestEven
  dsimp only
  split
  · omega
  · split <;> omega

namespace Double

/-- The binary places of a double: all doubles are multiples of `2 ^ -1074`. -/
def unitBits : Nat := 1074

/-- The bits of a count of units in the finite range, which ends at `2 ^ 1024`. -/
def rangeBits : Nat := unitBits + 1024

def unitsPerOne : Nat := 2 ^ unitBits

/-- The least count of units beyond the finite range. -/
def unitLimit : Nat := 2 ^ rangeBits

/-- The distance between neighbouring doubles at the size of `units`: 53 significant bits. -/
def gap (units : Nat) : Nat := 2 ^ (units.log2 - 52)

/-- The counts of units that a finite double can have. -/
def Representable (units : Nat) : Prop := units < unitLimit ∧ gap units ∣ units

instance (units : Nat) : Decidable (Representable units) :=
  inferInstanceAs (Decidable (_ ∧ _))

theorem gap_pos (units : Nat) : 0 < gap units := Nat.two_pow_pos _

/-- `num / den` units rounded to the nearest multiple of the gap at their size. -/
def roundUnits (num den : Nat) : Nat :=
  let step := gap (num / den)
  nearestEven num (den * step) * step

/-- Fewer than `2 ^ 53` multiples of a power of two are a multiple of their own gap. -/
theorem gap_dvd_of_lt {m e : Nat} (hm : m < 2 ^ (53 : Nat)) : gap (m * 2 ^ e) ∣ m * 2 ^ e := by
  refine Nat.dvd_trans (Nat.pow_dvd_pow 2 ?_) (Nat.dvd_mul_left _ _)
  rcases Nat.eq_zero_or_pos m with h | h
  · subst h
    simp
  · have hlt : m * 2 ^ e < 2 ^ (53 + e) := by
      rw [Nat.pow_add]
      exact Nat.mul_lt_mul_of_pos_right hm (Nat.two_pow_pos e)
    have := (Nat.log2_lt (Nat.mul_ne_zero (by omega) (Nat.ne_of_gt (Nat.two_pow_pos e)))).2 hlt
    omega

theorem gap_dvd_pow (e : Nat) : gap (2 ^ e) ∣ 2 ^ e := by
  refine Nat.pow_dvd_pow 2 ?_
  rw [Nat.log2_two_pow]
  omega

theorem div_gap_lt (units : Nat) : units / gap units < 2 ^ (53 : Nat) := by
  have hlt : units < 2 ^ (units.log2 + 1) := Nat.lt_log2_self
  refine (Nat.div_lt_iff_lt_mul (gap_pos units)).2 (Nat.lt_of_lt_of_le hlt ?_)
  rw [gap, ← Nat.pow_add]
  exact Nat.pow_le_pow_right (by omega) (by omega)

theorem gap_dvd_roundUnits (num den : Nat) : gap (roundUnits num den) ∣ roundUnits num den := by
  unfold roundUnits
  dsimp only
  have hle : nearestEven num (den * gap (num / den)) ≤ 2 ^ 53 := by
    refine Nat.le_trans (nearestEven_le _ _) ?_
    rw [← Nat.div_div_eq_div_mul]
    exact div_gap_lt (num / den)
  rcases Nat.lt_or_eq_of_le hle with h | h
  · exact gap_dvd_of_lt h
  · rw [h, show gap (num / den) = 2 ^ ((num / den).log2 - 52) from rfl, ← Nat.pow_add]
    exact gap_dvd_pow _

theorem unitLimit_pos : 0 < unitLimit := Nat.two_pow_pos rangeBits

theorem representable_zero : Representable 0 := ⟨unitLimit_pos, Nat.dvd_zero _⟩

theorem representable_roundUnits {num den : Nat} (h : roundUnits num den < unitLimit) :
    Representable (roundUnits num den) :=
  ⟨h, gap_dvd_roundUnits num den⟩

end Double

/-! ## The numbers -/

inductive Double where
  | nan
  /-- Beyond the finite range, on either side. -/
  | inf (negative : Bool)
  /-- A count of units of `2 ^ -1074`, with a sign; zero has both signs. -/
  | finite (negative : Bool) (units : Nat) (representable : Double.Representable units)
  deriving DecidableEq

namespace Double

/-- The double nearest to `num / den` units, negated on request; beyond the range, an infinity. -/
def ofUnits (negative : Bool) (num den : Nat) : Double :=
  if h : roundUnits num den < unitLimit then
    .finite negative (roundUnits num den) (representable_roundUnits h)
  else .inf negative

/-- The double nearest to the fraction `num / den`. -/
def ofQuotient (num den : Nat) : Double := ofUnits false (num * unitsPerOne) den

def ofNat (n : Nat) : Double := ofQuotient n 1

def ofInt (z : Int) : Double := ofUnits (z < 0) (z.natAbs * unitsPerOne) 1

/-- Positive zero.  Negative zero differs from it as data, not as a number. -/
def zero : Double := .finite false 0 representable_zero

instance : Inhabited Double := ⟨zero⟩

/-! ## Order -/

/-- The place of a number on the integer line: its signed units, with the infinities at the range
limit on either side; NaN has none. -/
def rank : Double → Option Int
  | .nan => none
  | .inf negative => some (if negative then -unitLimit else unitLimit)
  | .finite negative units _ => some (if negative then -units else units)

/-- Numeric equality: both zeros are equal, and NaN equals nothing. -/
def eq (x y : Double) : Bool :=
  match x.rank, y.rank with
  | some a, some b => a = b
  | _, _ => false

/-- Numeric strict order, false if either side is NaN. -/
def lt (x y : Double) : Bool :=
  match x.rank, y.rank with
  | some a, some b => a < b
  | _, _ => false

/-- Numeric order, false if either side is NaN. -/
def le (x y : Double) : Bool :=
  match x.rank, y.rank with
  | some a, some b => a ≤ b
  | _, _ => false

def isFinite : Double → Bool
  | .finite .. => true
  | _ => false

end Double

end NumberRules
