import Mathlib
import NumberRules.Proofs.Numeral.Layout
import NumberRules.Proofs.Plural.Used

/-! # Which texts are numerals

`IsNumeral` says it of the characters alone: a sign or none, digits and at most one point with a
digit on one of its sides, and perhaps an exponent within the limit.  Exactly such texts, with
blanks around them, have operands.
-/

namespace NumberRules
set_option autoImplicit false

theorem Digits.count_point (ds : List Digit) : (toChars ds).count '.' = 0 :=
  List.count_eq_zero.2 fun h => ne_of_mem_toChars h (by decide) rfl

/-! ## The grammar -/

/-- Digits with at most one point among them, and at least one digit. -/
structure IsMantissa (cs : List Char) : Prop where
  digit_or_point : ∀ c ∈ cs, c.isDigit = true ∨ c = '.'
  points_le : cs.count '.' ≤ 1
  exists_digit : ∃ c ∈ cs, c.isDigit = true

/-- A numeral without blanks around it; what follows the mark of the exponent, if there is one, is a
sign or none and a number of digits. -/
def IsNumeral (cs : List Char) : Prop :=
  ∃ (s : Sign) (mantissa : List Char) (x : Option Exponent),
    cs = s.chars ++ (mantissa ++ Numeral.exponentChars x) ∧ IsMantissa mantissa ∧
      -1024 ≤ Numeral.exponentValue x ∧ Numeral.exponentValue x ≤ 1024

namespace Mantissa

theorem isMantissa_chars (m : Mantissa) : IsMantissa m.chars where
  digit_or_point c hc := (mem_chars hc).symm.imp_left Digit.isDigit_iff.2
  points_le := by
    rw [chars, List.count_append, Digits.count_point, Nat.zero_add]
    cases m.fraction with
    | none => exact Nat.zero_le 1
    | some ds => rw [pointChars, List.count_cons_self, Digits.count_point]
  exists_digit := by
    obtain ⟨d, ds, hdigits⟩ := List.exists_cons_of_ne_nil m.digits_ne
    have hd : d ∈ m.integer ++ m.fraction.getD [] := hdigits ▸ List.mem_cons_self
    refine ⟨d.toChar, ?_, Digit.isDigit_iff.2 ⟨d, rfl⟩⟩
    rcases List.mem_append.1 hd with hinteger | hfraction
    · exact List.mem_append_left _ (List.mem_map_of_mem hinteger)
    · refine List.mem_append_right _ ?_
      cases h : m.fraction with
      | none =>
        rw [h] at hfraction
        cases hfraction
      | some ds =>
        rw [h] at hfraction
        exact List.mem_cons_of_mem _ (List.mem_map_of_mem hfraction)

theorem exists_of_isMantissa {cs : List Char} (h : IsMantissa cs) :
    ∃ m : Mantissa, cs = m.chars := by
  have hdigits {as : List Char} (hsub : as ⊆ cs) (hpoint : '.' ∉ as) :
      ∃ ds, as = Digits.toChars ds := by
    refine Digits.exists_toChars fun c hc => (h.digit_or_point c (hsub hc)).resolve_right ?_
    rintro rfl
    exact hpoint hc
  obtain ⟨c, hc, hdigit⟩ := h.exists_digit
  by_cases hpoint : '.' ∈ cs
  · obtain ⟨before, after, rfl⟩ := List.append_of_mem hpoint
    have hcount := h.points_le
    rw [List.count_append, List.count_cons_self] at hcount
    obtain ⟨integer, rfl⟩ := hdigits (List.subset_append_left _ _)
      (List.count_eq_zero.1 (by omega : before.count '.' = 0))
    obtain ⟨fraction, rfl⟩ := hdigits
      (fun c hc => List.mem_append_right _ (List.mem_cons_of_mem _ hc))
      (List.count_eq_zero.1 (by omega : after.count '.' = 0))
    refine ⟨⟨integer, some fraction, ?_⟩, rfl⟩
    intro hnil
    obtain ⟨rfl, hfraction⟩ := List.append_eq_nil_iff.1 hnil
    obtain rfl : fraction = [] := hfraction
    rw [List.mem_singleton.1 hc] at hdigit
    revert hdigit
    decide
  · obtain ⟨integer, rfl⟩ := hdigits (fun c hc => hc) hpoint
    refine ⟨⟨integer, none, ?_⟩, (List.append_nil _).symm⟩
    rintro hnil
    obtain rfl : integer = [] := by simpa using hnil
    cases hc

end Mantissa

namespace Numeral

/-- A text is read if what is left of it without blanks is in the grammar. -/
theorem exists_ofChars?_iff {cs : List Char} :
    (∃ x, ofChars? cs = some x) ↔ IsNumeral (Text.trim cs) := by
  constructor
  · rintro ⟨x, hx⟩
    obtain ⟨t, rfl⟩ := exists_layout hx
    have hlimit := t.exponent_le
    exact ⟨t.sign, t.mantissa.chars, t.exponent, t.trim_chars, t.mantissa.isMantissa_chars,
      by omega, by omega⟩
  · rintro ⟨s, mantissa, exponent, htrim, hmantissa, hlow, hhigh⟩
    obtain ⟨m, rfl⟩ := Mantissa.exists_of_isMantissa hmantissa
    obtain ⟨before, after, hbefore, hafter, hcs⟩ := Text.exists_trim cs
    have hlimit : (exponentValue exponent).natAbs ≤ 1024 := by
      omega
    have hread := ofChars?_chars ⟨before, s, m, exponent, after, hbefore, hlimit, hafter⟩
    rw [Layout.chars, Layout.core, ← htrim, ← hcs] at hread
    exact ⟨_, hread⟩

end Numeral

/-! ## Operands of texts -/

namespace Operands

/-- Texts in the grammar, blanks around them apart, have operands, and all others are refused as
they stand, whichever operands are asked for.  What is derived are the operands that were asked for,
with the values that they have among all eight. -/
theorem ofText_iff_isNumeral (text : String) :
    (∀ used, (∃ os, ofText text used = .ok os) ↔ IsNumeral (Text.trim text.toList)) ∧
    (∀ used, ofText text used = .error (.invalidNumeral text) ↔
      ¬IsNumeral (Text.trim text.toList)) ∧
    ∀ used os, ofText text used = .ok os → os.computed = used ∧
      ∃ full, ofText text .full = .ok full ∧ full.computed = .full ∧ AgreeOn used os full := by
  rw [← Numeral.exists_ofChars?_iff]
  cases hread : Numeral.ofChars? text.toList with
  | none => simp [ofText, hread]
  | some x =>
    have hok (used : OperandSet) : ofText text used = .ok (ofNumeral x used) := by
      rw [ofText, hread]
    refine ⟨fun used => by simp [hok], fun used => by simp [hok], fun used os hos => ?_⟩
    rw [hok, Except.ok.injEq] at hos
    subst hos
    exact ⟨computed_ofNumeral x used, _, hok .full, computed_ofNumeral x .full,
      ofNumeral_agreeOn_full x used⟩

theorem isNumeral_pointFirst : IsNumeral (Text.trim "\u00a0-.5C-2\n".toList) := by
  have hmantissa : IsMantissa ['.', '5'] :=
    Mantissa.isMantissa_chars ⟨[], some [5], by decide⟩
  exact ⟨.minus, _, some ⟨'C', by decide, .minus, [2], by decide⟩, by decide, hmantissa,
    by decide, by decide⟩

/-- A point in front of all digits and an exponent below zero, with two operands asked for; a second
point, with none. -/
theorem ofText_pointFirst :
    (∃ os, ofText "\u00a0-.5C-2\n" (.ofList [.v, .t]) = .ok os ∧ os.computed = .ofList [.v, .t] ∧
      ∃ full, ofText "\u00a0-.5C-2\n" .full = .ok full ∧ os.get .t = full.get .t) ∧
    ofText "1.2.3" .empty = .error (.invalidNumeral "1.2.3") := by
  obtain ⟨haccepts, -, hderives⟩ := ofText_iff_isNumeral "\u00a0-.5C-2\n"
  obtain ⟨os, hos⟩ := (haccepts (.ofList [.v, .t])).2 isNumeral_pointFirst
  obtain ⟨hcomputed, full, hfull, -, hagree⟩ := hderives _ os hos
  have hnot : ¬IsNumeral (Text.trim "1.2.3".toList) := by
    have hread : Numeral.ofChars? "1.2.3".toList = none := by decide
    rw [← Numeral.exists_ofChars?_iff, hread]
    simp
  exact ⟨⟨os, hos, hcomputed, full, hfull, hagree .t (by decide)⟩,
    ((ofText_iff_isNumeral "1.2.3").2.1 .empty).2 hnot⟩

end Operands

end NumberRules
