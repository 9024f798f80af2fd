import NumberRules.Decimal

/-! # Doubles as decimal text

A finite double is an exact decimal with at most 1074 places, and `2 ^ -1074` is `5 ^ 1074` units of
the last of them.  Two ways of writing it are needed:

* `shortest`: the fewest significant digits that read back as the same double.  The search goes
  from coarse decimal grids to fine ones and takes the first on which a neighbour of the exact
  value reads back; of two such neighbours the nearer, and of two equally near ones the upper.
* `fixed`: a given number of places after the point, rounded to the nearest, a tie to even.

Neither uses an exponent.  `Double.ofScientific` reads in the other direction.
-/

namespace NumberRules.Double
set_option autoImplicit false

-- Powers of natural numbers are those of the core library here, whatever else is imported.
attribute [local instance (high)] instPowNat

/-! ## Shortest text -/

/-- The places of an exact decimal: a unit is a whole number of units of the last place. -/
def exactPlaces : Nat := unitBits

/-- A count of units in units of the last exact decimal place. -/
def exactScaled (units : Nat) : Nat := units * 5 ^ exactPlaces

/-- Whether a decimal, in units of the last exact place, is rounded to the given count of units. -/
def readsBack (units scaled : Nat) : Bool := roundUnits scaled (5 ^ exactPlaces) = units

/-- The multiple of `step` next to the exact value that reads back, if one does. -/
def nearestOnGrid (units step : Nat) : Option Nat :=
  let exact := exactScaled units
  let lower := exact / step * step
  let upper := lower + step
  match readsBack units lower, readsBack units upper with
  | true, true => some (if exact - lower < upper - exact then lower else upper)
  | true, false => some lower
  | false, true => some upper
  | false, false => none

/-- The first neighbour that reads back on the grids of `10 ^ exponent` and finer; the exact value
always reads back. -/
def coarsest (units : Nat) : Nat → Nat
  | 0 => exactScaled units
  | exponent + 1 =>
    (nearestOnGrid units (10 ^ (exponent + 1))).getD (coarsest units exponent)

/-- The shortest decimal that reads back, in units of the last exact place. -/
def shortestScaled (units : Nat) : Nat :=
  coarsest units ((Digits.ofNat (exactScaled units)).length - 1)

/-- The shortest decimal that reads back as the given count of units. -/
def shortest (units : Nat) : Decimal :=
  (Decimal.ofScaled exactPlaces (shortestScaled units)).trimmed

/-- The shortest decimal of the magnitude of a finite number. -/
def decimal? : Double → Option Decimal
  | .finite _ units _ => some (shortest units)
  | _ => none

/-- The digits after the point of the shortest decimal; none for infinities and NaN. -/
def fractionDigits (x : Double) : List Digit :=
  match x.decimal? with
  | some d => d.fraction
  | none => []

/-- The shortest decimal text of a finite number, with a minus sign for negative ones, zero
included. -/
def decimalText? : Double → Option String
  | .finite negative units _ =>
    some (String.ofList ((if negative then ['-'] else []) ++ (shortest units).toChars))
  | _ => none

def text : Double → String
  | .nan => "NaN"
  | .inf negative => if negative then "-inf" else "inf"
  | .finite negative units _ =>
    String.ofList ((if negative then ['-'] else []) ++ (shortest units).toChars)

/-! ## Fixed places -/

/-- The decimal with `places` places that is nearest to a count of units. -/
def fixed (places units : Nat) : Decimal :=
  Decimal.ofScaled places (nearestEven (units * 10 ^ places) unitsPerOne)

/-! ## Reading -/

/-- Powers of ten beyond this one leave the range of doubles on either side. -/
def exponentLimit : Int := 400

/-- The double nearest to `m * 10 ^ exponent`, with a sign. -/
def ofScientific (negative : Bool) (m : Nat) (exponent : Int) : Double :=
  let size : Int := (Digits.ofNat m).length + exponent
  if m = 0 then .finite negative 0 representable_zero
  else if exponentLimit < size then .inf negative
  else if size < -exponentLimit then .finite negative 0 representable_zero
  else if 0 ≤ exponent then ofUnits negative (m * 10 ^ exponent.toNat * unitsPerOne) 1
  else ofUnits negative (m * unitsPerOne) (10 ^ (-exponent).toNat)

end NumberRules.Double
