import NumberRules.Numeral
import NumberRules.Error

/-! # Operands of decimal text

`Operands.ofText` derives operand values from decimal text and refuses text that is no numeral.
-/

namespace NumberRules.Operands
set_option autoImplicit false

/-- The operands of a numeral that belong to `used`.  The text is read in full even if `used` is
empty. -/
def ofText (text : String) (used : OperandSet) : Except EvalError Operands :=
  match Numeral.ofChars? text.toList with
  | some x => .ok (ofNumeral x used)
  | none => .error (.invalidNumeral text)

end NumberRules.Operands
