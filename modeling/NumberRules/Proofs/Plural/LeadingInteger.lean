import Mathlib
import NumberRules.Proofs.Plural.Integers

/-! # Texts classified by the integer at their front

Of a text only the integer is read that it begins with, perhaps after blanks: a `LeadingInteger` is
such a text, cut into its parts.  Its operands are those of the magnitude of the integer, so neither
the sign nor zeros in front of the digits count.  Every other text is of the category `other`.
-/

namespace NumberRules
set_option autoImplicit false

/-! ## Whole numerals -/

/-- Zeros in front of the digits of an integer change no operand. -/
theorem Numeral.operand_whole (ds : List Digit) (o : Operand) :
    (⟨⟨ds, []⟩, 0⟩ : Numeral).operand o =
      (⟨⟨Digits.ofNat (Digits.value ds), []⟩, 0⟩ : Numeral).operand o := by
  cases o with
  | n =>
    simp only [operand, Decimal.toDouble, Decimal.scaled, List.append_nil, Digits.value_ofNat]
  | i => simp only [operand, Digits.value_ofNat]
  | v | w | f | t | e | c => rfl

theorem Operands.ofNumeral_whole (ds : List Digit) (used : OperandSet) :
    ofNumeral ⟨⟨ds, []⟩, 0⟩ used = ofNumeral ⟨⟨Digits.ofNat (Digits.value ds), []⟩, 0⟩ used := by
  ext1
  simp only [ofNumeral, Numeral.operand_whole ds]

theorem Operands.ofText_signed (s : Sign) {ds : List Digit} (hne : ds ≠ []) (used : OperandSet) :
    ofText (String.ofList (s.chars ++ Digits.toChars ds)) used =
      .ok (ofNumeral ⟨⟨ds, []⟩, 0⟩ used) := by
  have hread := Numeral.ofChars?_decimal s ⟨ds, []⟩ hne
  simp only [Decimal.toChars, List.isEmpty_nil, if_true, List.append_nil] at hread
  rw [ofText, String.toList_ofList, hread]

namespace Plural

/-! ## Integers at the front of texts -/

/-- Blanks, perhaps a sign, digits, and what does not go on with a digit. -/
structure LeadingInteger where
  before : List Char
  sign : Sign
  digits : List Digit
  after : List Char
  before_blank : Text.Blank before
  digits_ne : digits ≠ []
  after_stops : Digits.Stops after

namespace LeadingInteger

/-- The sign and the digits. -/
def core (t : LeadingInteger) : List Char := t.sign.chars ++ Digits.toChars t.digits

def chars (t : LeadingInteger) : List Char := t.before ++ (t.core ++ t.after)

theorem core_ne_nil (t : LeadingInteger) : t.core ≠ [] :=
  List.append_ne_nil_of_right_ne_nil _ (Digits.toChars_ne_nil t.digits_ne)

theorem solid_core (t : LeadingInteger) : Text.Solid t.core :=
  Text.solid_append t.sign.solid_chars (Text.solid_toChars t.digits)

end LeadingInteger

namespace Input

theorem integerPrefix?_chars (t : LeadingInteger) : integerPrefix? t.chars = some t.core := by
  have htrim : Text.trimStart t.chars = t.core ++ t.after := by
    rw [LeadingInteger.chars, Text.trimStart_append t.before_blank,
      Text.trimStart_solid_append t.after t.core_ne_nil t.solid_core]
  have hfree : Sign.Free (Digits.toChars t.digits ++ t.after) :=
    Sign.free_append (Digits.toChars_ne_nil t.digits_ne) (fun c hc =>
      ⟨Digits.ne_of_mem_toChars hc (by decide), Digits.ne_of_mem_toChars hc (by decide)⟩) t.after
  have hunsigned : dropSign (t.core ++ t.after) = Digits.toChars t.digits ++ t.after := by
    rw [LeadingInteger.core, List.append_assoc, t.sign.dropSign_append hfree]
  have hdigits := Digits.takeLeading_toChars_append t.digits t.after_stops
  have hempty : t.digits.isEmpty = false := by simpa using t.digits_ne
  have hlength : (t.core ++ t.after).length - (Digits.toChars t.digits ++ t.after).length +
      t.digits.length = t.core.length := by
    simp only [LeadingInteger.core, Digits.toChars, List.length_append, List.length_map]
    omega
  simp only [integerPrefix?, htrim, hunsigned, hdigits, hempty, hlength, Bool.false_eq_true,
    if_false, List.take_left]

theorem exists_leadingInteger {cs core : List Char} (h : integerPrefix? cs = some core) :
    ∃ t : LeadingInteger, cs = t.chars := by
  obtain ⟨before, hbefore, hcs⟩ := Text.exists_trimStart cs
  obtain ⟨s, hsign, -⟩ := Sign.exists_dropSign (Text.trimStart cs)
  have hdigits := Digits.takeLeading_append (dropSign (Text.trimStart cs))
  unfold integerPrefix? at h
  dsimp only at h
  split at h
  · cases h
  · rename_i hne
    refine ⟨⟨before, s, _, _, hbefore, by simpa using hne,
      Digits.stops_takeLeading (dropSign (Text.trimStart cs))⟩, ?_⟩
    rw [LeadingInteger.chars, LeadingInteger.core, List.append_assoc, hdigits, ← hsign]
    exact hcs

theorem numeral_ofText_chars {text : String} {t : LeadingInteger} (h : text.toList = t.chars) :
    (ofText text).numeral = some (String.ofList t.core) := by
  rw [ofText, h, integerPrefix?_chars]
  rfl

theorem numeral_ofText_eq_none {text : String}
    (h : ¬∃ t : LeadingInteger, text.toList = t.chars) : (ofText text).numeral = none := by
  cases hread : integerPrefix? text.toList with
  | none =>
    rw [ofText, hread]
    rfl
  | some core => exact absurd (exists_leadingInteger hread) h

end Input

/-! ## Classification -/

namespace Rules

variable (rs : Rules)

theorem select_ofInt_natAbs (z : Int) : rs.select (.ofInt z) = rs.select (.ofInt z.natAbs) := by
  have hz : (Input.ofInt z).numeral = some (intText z) := rfl
  have habs : (Input.ofInt z.natAbs).numeral = some (intText z.natAbs) := rfl
  rw [select_of_numeral hz, select_of_numeral habs, Operands.ofText_intText,
    Operands.ofText_intText, Int.natAbs_natCast]

/-- A text that begins with an integer is classified as the magnitude of that integer. -/
theorem select_ofText_chars {text : String} {t : LeadingInteger} (h : text.toList = t.chars) :
    rs.select (.ofText text) =
      .ok (rs.selectOperands (wholeOperands (Digits.value t.digits))) := by
  have hagree := Operands.ofNumeral_agreeOn_full
    ⟨⟨Digits.ofNat (Digits.value t.digits), []⟩, 0⟩ rs.used
  rw [select_of_numeral (Input.numeral_ofText_chars h), LeadingInteger.core,
    Operands.ofText_signed _ t.digits_ne, Operands.ofNumeral_whole]
  exact congrArg Except.ok (selectOperands_eq_of_agreeOn hagree)

theorem select_ofText_of_not {text : String} (h : ¬∃ t : LeadingInteger, text.toList = t.chars) :
    rs.select (.ofText text) = .ok other := by
  rw [select, operandsFor, Input.numeral_ofText_eq_none h]
  rfl

theorem exists_natAbs_toInt (j : Int64) : ∃ k : UInt64, k.toNat = j.toInt.natAbs := by
  have hlow := j.le_toInt
  have hhigh := j.toInt_lt
  refine ⟨UInt64.ofNat j.toInt.natAbs, UInt64.toNat_ofNat_of_lt' ?_⟩
  rw [UInt64.size]
  omega

/-- Every text is classified: by its sign and digits, as if these were all, if it begins with an
integer, and as `other` if it does not.  So an integer in words of 64 bits gets the category of its
magnitude, from whatever text around it and with whatever zeros in front of it. -/
theorem select_ofText_leadingInteger :
    (∀ text, ∃ category, rs.select (.ofText text) = .ok category) ∧
    (∀ (text : String) (t : LeadingInteger), text.toList = t.chars →
      (∃ full, Operands.ofText (String.ofList t.core) .full = .ok full ∧
        rs.select (.ofText text) = .ok (rs.selectOperands full)) ∧
      ∀ k : UInt64, Digits.value t.digits = k.toNat →
        rs.select (.ofText text) = rs.select (.ofInt k.toNat)) ∧
    (∀ text : String, (¬∃ t : LeadingInteger, text.toList = t.chars) →
      rs.select (.ofText text) = .ok other) ∧
    ∀ j : Int64, ∃ k : UInt64, (k.toNat : Int) = |j.toInt| ∧
      rs.select (.ofInt j.toInt) = rs.select (.ofInt k.toNat) := by
  refine ⟨fun text => ?_, fun text t htext => ⟨?_, fun k hk => ?_⟩, fun text => ?_, fun j => ?_⟩
  · by_cases hinteger : ∃ t : LeadingInteger, text.toList = t.chars
    · obtain ⟨t, htext⟩ := hinteger
      exact ⟨_, rs.select_ofText_chars htext⟩
    · exact ⟨_, rs.select_ofText_of_not hinteger⟩
  · have hfull := Operands.ofText_signed t.sign t.digits_ne .full
    rw [Operands.ofNumeral_whole] at hfull
    exact ⟨_, hfull, rs.select_ofText_chars htext⟩
  · rw [rs.select_ofText_chars htext, hk, rs.select_ofInt]
  · exact rs.select_ofText_of_not
  · obtain ⟨k, hk⟩ := exists_natAbs_toInt j
    exact ⟨k, by rw [hk, Int.natCast_natAbs], by rw [rs.select_ofInt_natAbs, hk]⟩

/-- The number 23 with blanks, a sign and zeros in front of it and words after it. -/
def paddedScore : LeadingInteger where
  before := [' ', '\t']
  sign := .minus
  digits := [0, 0, 2, 3]
  after := " pages".toList
  before_blank := by
    intro c hc
    rw [List.mem_pair] at hc
    rcases hc with rfl | rfl <;> decide
  digits_ne := by decide
  after_stops := by
    intro c hc
    cases hc
    decide

/-- What stands around the number does not count, a blank after the sign leaves no number, and the
least integer of 64 bits has a magnitude. -/
theorem select_paddedScore :
    scoreRules.select (.ofText " \t-0023 pages") = scoreRules.select (.ofInt 23) ∧
      scoreRules.select (.ofText "- 23") = .ok other ∧
      scoreRules.select (.ofInt Int64.minValue.toInt) = scoreRules.select (.ofInt (2 ^ 63)) := by
  obtain ⟨-, hinteger, hother, hsigned⟩ := select_ofText_leadingInteger scoreRules
  have htext : " \t-0023 pages".toList = paddedScore.chars := by decide
  have hvalue : Digits.value paddedScore.digits = (23 : UInt64).toNat := by decide
  have hnone : ¬∃ t : LeadingInteger, "- 23".toList = t.chars := by
    rintro ⟨t, ht⟩
    have hread := Input.integerPrefix?_chars t
    have hnothing : Input.integerPrefix? "- 23".toList = none := by decide
    rw [← ht, hnothing] at hread
    cases hread
  obtain ⟨k, hk, hleast⟩ := hsigned Int64.minValue
  have hmagnitude : (k.toNat : Int) = 2 ^ 63 := hk.trans (by decide)
  rw [hmagnitude] at hleast
  exact ⟨(hinteger _ _ htext).2 23 hvalue, hother _ hnone, hleast⟩

end Rules

end Plural

end NumberRules
