import NumberRules.Text.Blank
import NumberRules.Double.Text
import NumberRules.Operand

/-! # Numerals and their operands

A numeral is decimal text such as `1.50`, `-3` or `1.2c6`.  Reading one gives the digits on both
sides of the point, after the exponent has moved it, and the exponent itself.  The operands are
functions of these, so trailing zeros count and the sign does not: `1.50` and `1.5` have the same
`n` and different `v`, `f` and `t`.

`Operands` is a table of operand values in which those that nobody asked for are absent.
-/

namespace NumberRules
set_option autoImplicit false

/-! ## Reading decimals -/

/-- A text without its sign, if it begins with one. -/
def dropSign : List Char → List Char
  | '-' :: rest => rest
  | '+' :: rest => rest
  | cs => cs

namespace Decimal

/-- Digits with at most one point among them and at least one digit. -/
def ofChars? (cs : List Char) : Option Decimal := do
  let integer ← Digits.ofChars? (cs.takeWhile (· ≠ '.'))
  let fraction ← Digits.ofChars? ((cs.dropWhile (· ≠ '.')).drop 1)
  if integer.isEmpty && fraction.isEmpty then none else some ⟨integer, fraction⟩

/-- The decimal with its point moved to the right, or to the left by a negative amount.  Moving
the point by nothing leaves even an empty integer part as it is. -/
def shift (d : Decimal) (exponent : Int) : Decimal :=
  let digits := d.integer ++ d.fraction
  let point : Int := d.integer.length + exponent
  if exponent = 0 then d
  else if point ≤ 0 then ⟨[0], List.replicate point.natAbs 0 ++ digits⟩
  else if digits.length ≤ point then
    ⟨digits ++ List.replicate (point.toNat - digits.length) 0, []⟩
  else ⟨digits.take point.toNat, digits.drop point.toNat⟩

end Decimal

/-! ## Numerals -/

/-- A decimal numeral: the decimal after its exponent has been applied, and the exponent. -/
structure Numeral where
  /-- The digits with the point where the exponent puts it. -/
  decimal : Decimal
  /-- The written exponent, zero if there is none. -/
  exponent : Int
  deriving DecidableEq

namespace Numeral

/-- The largest magnitude of a written exponent. -/
def exponentLimit : Nat := 1024

/-- Whether a character announces an exponent. -/
def isExponentMark (c : Char) : Bool := c = 'e' || c = 'E' || c = 'c' || c = 'C'

/-- An optional sign and at least one digit. -/
def exponentOfChars? (cs : List Char) : Option Int := do
  let digits ← Digits.ofChars? (dropSign cs)
  if digits.isEmpty then none
  else some (if cs.head? = some '-' then -(Digits.value digits : Int) else Digits.value digits)

/-- The exponent that follows a mantissa: zero if nothing follows it. -/
def exponentAfter? : List Char → Option Int
  | [] => some 0
  | _ :: rest => do
    let exponent ← exponentOfChars? rest
    if exponent.natAbs ≤ exponentLimit then some exponent else none

/-- The numeral in a text, blanks around it allowed. -/
def ofChars? (cs : List Char) : Option Numeral := do
  let unsigned := dropSign (Text.trim cs)
  let exponent ← exponentAfter? (unsigned.dropWhile (!isExponentMark ·))
  let decimal ← Decimal.ofChars? (unsigned.takeWhile (!isExponentMark ·))
  some ⟨decimal.shift exponent, exponent⟩

/-- The value of an operand, rounded once from the exact one. -/
def operand (x : Numeral) : Operand → Double
  | .n => x.decimal.toDouble
  | .i => .ofNat (Digits.value x.decimal.integer)
  | .v => .ofNat x.decimal.fraction.length
  | .w => .ofNat x.decimal.trimmed.fraction.length
  | .f => .ofNat (Digits.value x.decimal.fraction)
  | .t => .ofNat (Digits.value x.decimal.trimmed.fraction)
  | .e | .c => .ofInt x.exponent

end Numeral

/-! ## Tables of operand values -/

/-- Operand values; an operand that was not derived has none. -/
@[ext] structure Operands where
  get : Operand → Option Double

namespace Operands

/-- The operands of a numeral that belong to `used`. -/
def ofNumeral (x : Numeral) (used : OperandSet) : Operands where
  get o := if used.contains o then some (x.operand o) else none

def computed (os : Operands) : OperandSet := ⟨fun o => (os.get o).isSome⟩

end Operands

end NumberRules
