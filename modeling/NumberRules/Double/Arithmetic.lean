import NumberRules.Double.Basic

/-! # Arithmetic on doubles

The operations that number spelling needs: sign changes, the floor, and the quotient and the
remainder of two numbers.  Each computes its exact result on counts of units and rounds once.
The floor and the remainder are always representable, so for them the rounding changes nothing.
-/

namespace NumberRules.Double
set_option autoImplicit false

def neg : Double → Double
  | .nan => .nan
  | .inf negative => .inf (!negative)
  | .finite negative units h => .finite (!negative) units h

def abs : Double → Double
  | .nan => .nan
  | .inf _ => .inf false
  | .finite _ units h => .finite false units h

/-- Whether the number is below zero; both zeros and NaN are not. -/
def isNegative (x : Double) : Bool := x.lt zero

/-- The largest whole number that is not above the given one; zeros, infinities and NaN stay. -/
def floor : Double → Double
  | .finite false units _ => ofUnits false (units / unitsPerOne * unitsPerOne) 1
  | .finite true units _ =>
    ofUnits true ((units + (unitsPerOne - 1)) / unitsPerOne * unitsPerOne) 1
  | x => x

/-- The quotient, rounded once. -/
def div : Double → Double → Double
  | .nan, _ => .nan
  | _, .nan => .nan
  | .inf _, .inf _ => .nan
  | .inf a, .finite b _ _ => .inf (a ^^ b)
  | .finite a _ _, .inf b => .finite (a ^^ b) 0 representable_zero
  | .finite a m _, .finite b n _ =>
    if n = 0 then (if m = 0 then .nan else .inf (a ^^ b))
    else ofUnits (a ^^ b) (m * unitsPerOne) n

/-- What is left of the first number after taking away the second a whole number of times, with
the sign of the first.  There is none for an infinite first or a zero second number. -/
def rem : Double → Double → Double
  | .nan, _ => .nan
  | _, .nan => .nan
  | .inf _, _ => .nan
  | .finite a m h, .inf _ => .finite a m h
  | .finite a m _, .finite _ n _ => if n = 0 then .nan else ofUnits a (m % n) 1

/-- Whether the number is whole; the infinities count as whole, NaN does not. -/
def isWhole (x : Double) : Bool := x.eq x.floor

end NumberRules.Double
