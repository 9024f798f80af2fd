import Mathlib
import NumberRules.Operands
import NumberRules.Proofs.Numeral.Decimal
import NumberRules.Proofs.Numeral.Layout

/-! # Operands from exact values

The operands of a numeral are defined by arithmetic on the rational number that is written: its
floor, what is above the floor, and the count of digits that this takes.  What is derived from the
text by moving its point is each of these rounded once.
-/

namespace NumberRules
set_option autoImplicit false

namespace Layout

/-! ## Exact values -/

/-- The digits after the point, none if there is no point. -/
def fraction (t : Layout) : List Digit := t.mantissa.fraction.getD []

/-- The number that is written, without its sign. -/
def value (t : Layout) : ℚ :=
  (Digits.value t.mantissa.integer + Digits.value t.fraction / 10 ^ t.fraction.length) *
    10 ^ t.exponentValue

/-- The count of visible fraction digits, zero if the exponent is not below the digits written. -/
def visible (t : Layout) : Nat := ((t.fraction.length : Int) - t.exponentValue).toNat

/-- The visible fraction digits as a whole number. -/
def visibleValue (t : Layout) : ℚ := (t.value - ⌊t.value⌋) * 10 ^ t.visible

/-- The count of visible fraction digits in front of the trailing zeros. -/
def significant (t : Layout) : Nat :=
  t.visible - Digits.trailingZeros (Digits.padded t.visible ⌊t.visibleValue⌋₊)

/-- The exact value of an operand. -/
def exact (t : Layout) : Operand → ℚ
  | .n => t.value
  | .i => ⌊t.value⌋
  | .v => t.visible
  | .w => t.significant
  | .f => t.visibleValue
  | .t => t.visibleValue / 10 ^ (t.visible - t.significant)
  | .e | .c => t.exponentValue

/-! ## The point moved -/

variable (t : Layout)

theorem exact_decimal : t.numeral.decimal.exact = t.value := by
  rw [numeral, Decimal.exact_shift, Decimal.exact_eq]
  rfl

theorem length_fraction : t.numeral.decimal.fraction.length = t.visible := by
  rw [numeral, Decimal.length_fraction_shift]
  rfl

theorem floor_value : ⌊t.value⌋ = (Digits.value t.numeral.decimal.integer : Int) := by
  rw [← exact_decimal, Decimal.floor_exact]

theorem visibleValue_eq : t.visibleValue = Digits.value t.numeral.decimal.fraction := by
  rw [visibleValue, ← exact_decimal, ← length_fraction, Decimal.fract_exact]

/-- The visible fraction digits are those behind the moved point. -/
theorem padded_visibleValue :
    Digits.padded t.visible ⌊t.visibleValue⌋₊ = t.numeral.decimal.fraction := by
  rw [visibleValue_eq, Nat.floor_natCast, ← length_fraction, Digits.padded_value]

theorem significant_eq : t.significant = t.numeral.decimal.trimmed.fraction.length := by
  have htrimmed := Digits.length_dropTrailingZeros t.numeral.decimal.fraction
  rw [length_fraction] at htrimmed
  rw [significant, padded_visibleValue]
  exact htrimmed.symm

theorem visible_sub_significant :
    t.visible - t.significant = Digits.trailingZeros t.numeral.decimal.fraction := by
  have hle := Digits.trailingZeros_le t.numeral.decimal.fraction
  rw [length_fraction] at hle
  rw [significant, padded_visibleValue]
  omega

theorem visibleValue_div :
    t.visibleValue / 10 ^ (t.visible - t.significant) =
      Digits.value t.numeral.decimal.trimmed.fraction := by
  have hpow : (10 : ℚ) ^ Digits.trailingZeros t.numeral.decimal.fraction ≠ 0 := by positivity
  have hvalue := Digits.value_dropTrailingZeros t.numeral.decimal.fraction
  rw [visible_sub_significant, visibleValue_eq, div_eq_iff hpow]
  exact_mod_cast hvalue.symm

/-- Each operand of a numeral is its exact value, rounded once. -/
theorem isNearest_operand (o : Operand) : Double.IsNearest (t.exact o) (t.numeral.operand o) := by
  cases o with
  | n =>
    rw [exact, ← exact_decimal]
    exact Decimal.exact_isNearest _
  | i =>
    rw [exact, floor_value, Int.cast_natCast]
    exact Double.isNearest_ofNat _
  | v =>
    rw [exact, ← length_fraction]
    exact Double.isNearest_ofNat _
  | w =>
    rw [exact, significant_eq]
    exact Double.isNearest_ofNat _
  | f =>
    rw [exact, visibleValue_eq]
    exact Double.isNearest_ofNat _
  | t =>
    rw [exact, visibleValue_div]
    exact Double.isNearest_ofNat _
  | e => exact Double.isNearest_ofInt _
  | c => exact Double.isNearest_ofInt _

end Layout

/-! ## Operands of texts -/

namespace Operands

theorem ofText_chars (t : Layout) (used : OperandSet) :
    ofText (String.ofList t.chars) used = .ok (ofNumeral t.numeral used) := by
  rw [ofText, String.toList_ofList, Numeral.ofChars?_chars]

theorem get_ofNumeral_full (x : Numeral) (o : Operand) :
    (ofNumeral x .full).get o = some (x.operand o) := rfl

/-- The texts that are accepted are those with a layout.  Their operands are its exact values, each
rounded once, and another sign gives the same operands. -/
theorem ofText_isNearest (text : String) :
    (∀ os, ofText text .full = .ok os → ∃ t : Layout, text.toList = t.chars) ∧
      ∀ t : Layout, text.toList = t.chars → ∃ os, ofText text .full = .ok os ∧
        (∀ o, ∃ x, os.get o = some x ∧ Double.IsNearest (t.exact o) x) ∧
          ∀ s, ofText (String.ofList (t.withSign s).chars) .full = .ok os := by
  constructor
  · intro os h
    unfold ofText at h
    split at h
    · rename_i x hx
      exact Numeral.exists_layout hx
    · simp at h
  · intro t ht
    have htext : text = String.ofList t.chars := by
      rw [← ht, String.ofList_toList]
    refine ⟨ofNumeral t.numeral .full, ?_, ?_, ?_⟩
    · rw [htext, ofText_chars]
    · intro o
      exact ⟨_, get_ofNumeral_full _ _, t.isNearest_operand o⟩
    · intro s
      rw [ofText_chars, Layout.numeral_withSign]

/-- The layout of `-12.3450e1`, which is `123.450` below zero. -/
def pointInside : Layout where
  before := []
  sign := .minus
  mantissa := ⟨[1, 2], some [3, 4, 5, 0], by decide⟩
  exponent := some ⟨'e', by decide, .absent, [1], by decide⟩
  after := []
  before_blank := fun c hc => absurd hc List.not_mem_nil
  exponent_le := by decide
  after_blank := fun c hc => absurd hc List.not_mem_nil

/-- Two of the four digits after the point of `-12.3450e1` count for `t`. -/
theorem ofText_pointInside : ∃ os, ofText "-12.3450e1" .full = .ok os ∧
    (∃ x, os.get .i = some x ∧ Double.IsNearest 123 x) ∧
    (∃ x, os.get .f = some x ∧ Double.IsNearest 450 x) ∧
    (∃ x, os.get .t = some x ∧ Double.IsNearest 45 x) ∧
    ofText "+12.3450e1" .full = .ok os := by
  have htext : "-12.3450e1".toList = pointInside.chars := by decide
  obtain ⟨os, hos, hget, hsign⟩ := (ofText_isNearest "-12.3450e1").2 pointInside htext
  have hi : pointInside.exact .i = 123 := by
    rw [Layout.exact, Layout.floor_value,
      show Digits.value pointInside.numeral.decimal.integer = 123 by decide]
    norm_num
  have hf : pointInside.exact .f = 450 := by
    rw [Layout.exact, Layout.visibleValue_eq,
      show Digits.value pointInside.numeral.decimal.fraction = 450 by decide]
    norm_num
  have ht : pointInside.exact .t = 45 := by
    rw [Layout.exact, Layout.visibleValue_div,
      show Digits.value pointInside.numeral.decimal.trimmed.fraction = 45 by decide]
    norm_num
  refine ⟨os, hos, hi ▸ hget .i, hf ▸ hget .f, ht ▸ hget .t, ?_⟩
  have hplus : String.ofList (pointInside.withSign .plus).chars = "+12.3450e1" := by decide
  exact hplus ▸ hsign .plus

end Operands

end NumberRules
