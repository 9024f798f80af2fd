import Mathlib
import NumberRules.Double.Text
import NumberRules.Plural.Rules
import NumberRules.Proofs.Numeral.Layout

/-! # Written numbers as numerals

The text of a whole number and the decimal text of a double are numerals: a sign, digits and perhaps
a point with digits.  What is read from them are these digits, with no exponent.
-/

namespace NumberRules
set_option autoImplicit false

/-! ## Decimals -/

namespace Decimal

/-- The mantissa of a decimal as it is written: without a fraction there is no point. -/
def mantissa (d : Decimal) (h : d.integer ≠ []) : Mantissa where
  integer := d.integer
  fraction := if d.fraction.isEmpty then none else some d.fraction
  digits_ne := by simp [h]

variable (d : Decimal) (h : d.integer ≠ [])

theorem chars_mantissa : (d.mantissa h).chars = d.toChars := by
  obtain ⟨integer, fraction⟩ := d
  cases fraction <;> rfl

theorem decimal_mantissa : (d.mantissa h).decimal = d := by
  obtain ⟨integer, fraction⟩ := d
  cases fraction <;> rfl

end Decimal

namespace Numeral

theorem ofChars?_decimal (s : Sign) (d : Decimal) (h : d.integer ≠ []) :
    ofChars? (s.chars ++ d.toChars) = some ⟨d, 0⟩ := by
  have hblank : Text.Blank [] := fun c hc => absurd hc List.not_mem_nil
  have hread := ofChars?_chars ⟨[], s, d.mantissa h, none, [], hblank, Nat.zero_le _, hblank⟩
  simp only [Layout.chars, Layout.core, exponentChars, List.nil_append, List.append_nil,
    d.chars_mantissa h] at hread
  rw [hread, Layout.numeral, d.decimal_mantissa h]
  rfl

end Numeral

/-! ## Whole numbers -/

/-- The sign in front of the text of a number. -/
def signOf (negative : Bool) : Sign := if negative then .minus else .absent

theorem chars_signOf (negative : Bool) :
    (signOf negative).chars = if negative then ['-'] else [] := by
  cases negative <;> rfl

theorem toList_intText (z : Int) : (intText z).toList =
    (signOf (z < 0)).chars ++ Digits.toChars (Digits.ofNat z.natAbs) := by
  rw [chars_signOf, intText, natText, String.toList_append, String.toList_ofList]
  by_cases hz : z < 0
  · rw [if_pos hz, if_pos (decide_eq_true hz)]
    rfl
  · rw [if_neg hz, if_neg (by simpa using hz)]
    rfl

/-- The sign of an integer does not count. -/
theorem Operands.ofText_intText (z : Int) (used : OperandSet) :
    ofText (intText z) used = .ok (ofNumeral ⟨⟨Digits.ofNat z.natAbs, []⟩, 0⟩ used) := by
  have hread := Numeral.ofChars?_decimal (signOf (z < 0)) ⟨Digits.ofNat z.natAbs, []⟩
    (Digits.ofNat_ne_nil _)
  rw [ofText, toList_intText]
  simp only [Decimal.toChars, List.isEmpty_nil, if_true, List.append_nil] at hread
  rw [hread]

/-! ## Doubles -/

namespace Double

variable {negative : Bool} {units : Nat}

theorem decimalText?_finite (h : Representable units) : (finite negative units h).decimalText? =
    some (String.ofList ((signOf negative).chars ++ (shortest units).toChars)) := by
  rw [decimalText?, chars_signOf]

theorem text_finite (h : Representable units) : (finite negative units h).text =
    String.ofList ((signOf negative).chars ++ (shortest units).toChars) := by
  rw [text, chars_signOf]

theorem integer_shortest_ne_nil (units : Nat) : (shortest units).integer ≠ [] := by
  rw [shortest, Decimal.trimmed, Decimal.ofScaled]
  exact Digits.ofNat_ne_nil _

/-- The text of a finite double is a numeral. -/
theorem ofText_text (h : Representable units) (used : OperandSet) :
    Operands.ofText (finite negative units h).text used =
      .ok (.ofNumeral ⟨shortest units, 0⟩ used) := by
  rw [Operands.ofText, text_finite, String.toList_ofList,
    Numeral.ofChars?_decimal _ _ (integer_shortest_ne_nil units)]

end Double

end NumberRules
