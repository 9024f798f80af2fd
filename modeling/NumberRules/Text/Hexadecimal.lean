/-! # Hexadecimal digits

`hexDigit?` gives the value of a hexadecimal digit, whose letters may be of either case.
-/

namespace NumberRules.Text
set_option autoImplicit false

def hexDigit? (c : Char) : Option Nat :=
  if '0' ≤ c ∧ c ≤ '9' then some (c.toNat - '0'.toNat)
  else if 'a' ≤ c ∧ c ≤ 'f' then some (c.toNat - 'a'.toNat + 10)
  else if 'A' ≤ c ∧ c ≤ 'F' then some (c.toNat - 'A'.toNat + 10)
  else none

end NumberRules.Text
