import NumberRules.Double.Arithmetic

/-! # Written decimals

A `Decimal` is an unsigned number as it is written: the digits before the point and the digits
after it.  Trailing zeros after the point count, so `1.50` and `1.5` are different decimals with
the same value.  `toDouble` rounds the value once.
-/

namespace NumberRules
set_option autoImplicit false

-- Powers of natural numbers are those of the core library here, whatever else is imported.
attribute [local instance (high)] instPowNat

structure Decimal where
  integer : List Digit
  fraction : List Digit
  deriving DecidableEq

namespace Decimal

/-- The value in units of the last written place. -/
def scaled (d : Decimal) : Nat := Digits.value (d.integer ++ d.fraction)

/-- The double nearest to the value. -/
def toDouble (d : Decimal) : Double := Double.ofQuotient d.scaled (10 ^ d.fraction.length)

/-- The decimal with `places` digits after the point that is `n` units of its last place. -/
def ofScaled (places n : Nat) : Decimal where
  integer := Digits.ofNat (n / 10 ^ places)
  fraction := Digits.padded places (n % 10 ^ places)

/-- The decimal without the trailing zeros of its fraction. -/
def trimmed (d : Decimal) : Decimal :=
  { d with fraction := Digits.dropTrailingZeros d.fraction }

/-- The text of a decimal; without a fraction there is no point. -/
def toChars (d : Decimal) : List Char :=
  Digits.toChars d.integer ++
    (if d.fraction.isEmpty then [] else '.' :: Digits.toChars d.fraction)

end Decimal

end NumberRules
