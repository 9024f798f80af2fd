import Mathlib
import NumberRules.Proofs.Spelling.Keys
import NumberRules.Proofs.Numeral.Grammar

/-! # Texts of base values

`Denotes` says of the characters alone which base value a text without blanks around it stands for:
six texts are special, and any other is digits and commas with a digit among them, whose number is
in the range of 64 bits.  Exactly such texts are read, and the text that a base value has itself,
with a radix behind it or not, gives it back.
-/

namespace NumberRules.Spelling
set_option autoImplicit false

namespace BaseValue

/-! ## Digits and commas -/

/-- Digits, which commas may group in any way. -/
structure IsGrouped (cs : List Char) : Prop where
  digit_or_comma : ∀ c ∈ cs, c.isDigit = true ∨ c = ','
  exists_digit : ∃ c ∈ cs, c.isDigit = true

/-- The number in a text of digits and commas. -/
def groupedValue (cs : List Char) : Nat :=
  (cs.filter (· ≠ ',')).foldl (fun n c => 10 * n + (c.toNat - '0'.toNat)) 0

theorem groupedValue_eq {cs : List Char} {ds : List Digit}
    (h : cs.filter (· ≠ ',') = Digits.toChars ds) : groupedValue cs = Digits.value ds := by
  rw [groupedValue, h]
  exact Digits.ofDigitChars_toChars ds

/-- Without its commas such a text is a run of digits, and not the empty one. -/
theorem isGrouped_iff {cs : List Char} :
    IsGrouped cs ↔ ∃ ds, ds ≠ [] ∧ cs.filter (· ≠ ',') = Digits.toChars ds := by
  constructor
  · rintro ⟨hform, c, hc, hdigit⟩
    have hdigits : ∀ c ∈ cs.filter (· ≠ ','), c.isDigit = true := by
      intro c hc
      obtain ⟨hmem, hcomma⟩ := List.mem_filter.1 hc
      exact (hform c hmem).resolve_right (of_decide_eq_true hcomma)
    obtain ⟨ds, hds⟩ := Digits.exists_toChars hdigits
    refine ⟨ds, ?_, hds⟩
    rintro rfl
    have hcomma : c = ',' := by simpa using List.filter_eq_nil_iff.1 hds c hc
    subst hcomma
    revert hdigit
    decide
  · rintro ⟨ds, hne, hds⟩
    have hdigit : ∀ c ∈ cs.filter (· ≠ ','), c.isDigit = true := by
      intro c hc
      exact Digit.isDigit_iff.2 (Digits.mem_toChars (hds ▸ hc))
    obtain ⟨c, hc⟩ := List.exists_mem_of_ne_nil _ (hds ▸ Digits.toChars_ne_nil hne)
    refine ⟨fun c hc => ?_, c, List.mem_of_mem_filter hc, hdigit c hc⟩
    by_cases hcomma : c = ','
    · exact .inr hcomma
    · exact .inl (hdigit c (List.mem_filter.2 ⟨hc, decide_eq_true hcomma⟩))

/-! ## What texts denote -/

/-- A text, without blanks around it, stands for a base value. -/
inductive Denotes : List Char → BaseValue → Prop
  | negative : Denotes ['-', 'x'] .negative
  | improper : Denotes ['x', '.', 'x'] .improper
  | proper : Denotes ['0', '.', 'x'] .proper
  | master : Denotes ['x', '.', '0'] .master
  | infinity : Denotes ['I', 'n', 'f'] .infinity
  | nan : Denotes ['N', 'a', 'N'] .nan
  | number {cs : List Char} {n : UInt64} (form : IsGrouped cs)
      (value : groupedValue cs = n.toNat) : Denotes cs (.number n)

theorem denotes_number_iff {cs : List Char} {n : UInt64} :
    Denotes cs (.number n) ↔ ∃ ds, ds ≠ [] ∧ cs.filter (· ≠ ',') = Digits.toChars ds ∧
      Digits.value ds = n.toNat := by
  constructor
  · intro h
    cases h with
    | number hform hvalue =>
      obtain ⟨ds, hne, hds⟩ := isGrouped_iff.1 hform
      exact ⟨ds, hne, hds, groupedValue_eq hds ▸ hvalue⟩
  · rintro ⟨ds, hne, hds, hvalue⟩
    exact .number (isGrouped_iff.2 ⟨ds, hne, hds⟩) (groupedValue_eq hds ▸ hvalue)

theorem denotes_special_iff {cs : List Char} {base : BaseValue} (h : base ∈ special) :
    Denotes cs base ↔ cs = base.text.toList := by
  constructor
  · intro hdenotes
    cases hdenotes with
    | number hform hvalue => simp [special] at h
    | _ => rfl
  · rintro rfl
    cases base with
    | number n => simp [special] at h
    | negative => exact .negative
    | improper => exact .improper
    | proper => exact .proper
    | master => exact .master
    | infinity => exact .infinity
    | nan => exact .nan

theorem mem_special_or_number (base : BaseValue) : base ∈ special ∨ ∃ n, base = .number n := by
  cases base with
  | number n => exact .inr ⟨n, rfl⟩
  | _ => exact .inl (by decide)

theorem exists_denotes_iff {cs : List Char} :
    (∃ base, Denotes cs base) ↔
      String.ofList cs ∈ ["-x", "x.x", "0.x", "x.0", "Inf", "NaN"] ∨
        IsGrouped cs ∧ groupedValue cs < 2 ^ 64 := by
  have htexts : ["-x", "x.x", "0.x", "x.0", "Inf", "NaN"] = special.map text := rfl
  have hspecial : String.ofList cs ∈ special.map text ↔
      ∃ base ∈ special, cs = base.text.toList := by
    rw [List.mem_map]
    refine exists_congr fun base => and_congr_right fun _ => ?_
    rw [← String.toList_inj, String.toList_ofList, eq_comm]
  rw [htexts, hspecial]
  constructor
  · rintro ⟨base, hbase⟩
    rcases mem_special_or_number base with h | ⟨n, rfl⟩
    · exact .inl ⟨base, h, (denotes_special_iff h).1 hbase⟩
    · cases hbase with
      | number hform hvalue => exact .inr ⟨hform, hvalue ▸ n.toNat_lt⟩
  · rintro (⟨base, h, hcs⟩ | ⟨hform, hlt⟩)
    · exact ⟨base, (denotes_special_iff h).2 hcs⟩
    · exact ⟨_, .number hform (UInt64.toNat_ofNat_of_lt' hlt).symm⟩

/-! ## Reading -/

theorem find?_special_eq_some_iff {cs : List Char} {base : BaseValue} :
    special.find? (·.text.toList = cs) = some base ↔ base ∈ special ∧ cs = base.text.toList := by
  have hdistinct : ∀ a ∈ special, ∀ b ∈ special, a.text.toList = b.text.toList → a = b := by
    decide
  constructor
  · intro h
    have htext : base.text.toList = cs := by simpa using List.find?_some h
    exact ⟨List.mem_of_find?_eq_some h, htext.symm⟩
  · rintro ⟨hbase, rfl⟩
    cases hfind : special.find? (fun b => decide (b.text.toList = base.text.toList)) with
    | none => simpa using List.find?_eq_none.1 hfind base hbase
    | some found =>
      have htext : found.text.toList = base.text.toList := by simpa using List.find?_some hfind
      rw [hdistinct found (List.mem_of_find?_eq_some hfind) base hbase htext]

theorem exists_number_of_numberOfChars? {cs : List Char} {base : BaseValue}
    (h : numberOfChars? cs = some base) : ∃ n, base = .number n := by
  unfold numberOfChars? at h
  obtain ⟨ds, -, h⟩ := Option.bind_eq_some_iff.1 h
  split at h
  · cases h
  · split at h
    · cases h
      exact ⟨_, rfl⟩
    · cases h

theorem ofChars?_eq_special_iff {cs : List Char} {base : BaseValue} (h : base ∈ special) :
    ofChars? cs = some base ↔ Text.trim cs = base.text.toList := by
  have hfind := @find?_special_eq_some_iff (Text.trim cs) base
  rw [ofChars?]
  constructor
  · intro hread
    split at hread
    · rename_i found hfound
      cases hread
      exact (hfind.1 hfound).2
    · obtain ⟨n, rfl⟩ := exists_number_of_numberOfChars? hread
      simp [special] at h
  · intro htext
    simp only [hfind.2 ⟨h, htext⟩]

theorem ofChars?_eq_some_iff_denotes {cs : List Char} {base : BaseValue} :
    ofChars? cs = some base ↔ Denotes (Text.trim cs) base := by
  rcases mem_special_or_number base with h | ⟨n, rfl⟩
  · rw [ofChars?_eq_special_iff h, denotes_special_iff h]
  · rw [ofChars?_eq_number_iff, denotes_number_iff]

theorem parse_text (base : BaseValue) : parse base.text = .ok base := by
  cases base with
  | number n =>
    have hread := parse_natText n.toNat_lt_size
    rwa [UInt64.ofNat_toNat] at hread
  | _ => rfl

end BaseValue

/-- A base value is read back from its text.  A key is read if what is left of it without blanks is
special or a number of 64 bits in digits and commas, and then as what it denotes.  A number and a
radix with a slash between them are read as these. -/
theorem Key.parse_exactly_denoted (base : BaseValue) (key : String) (n : UInt64)
    (radix : UInt32) :
    BaseValue.parse base.text = .ok base ∧
    (BaseValue.parse key = .ok base ↔ BaseValue.Denotes (Text.trim key.toList) base) ∧
    ((∃ read, BaseValue.parse key = .ok read) ↔
      String.ofList (Text.trim key.toList) ∈ ["-x", "x.x", "0.x", "x.0", "Inf", "NaN"] ∨
        BaseValue.IsGrouped (Text.trim key.toList) ∧
          BaseValue.groupedValue (Text.trim key.toList) < 2 ^ 64) ∧
    Key.parse ((BaseValue.number n).text ++ "/" ++ natText radix.toNat) =
      .ok ⟨.number n, radix⟩ := by
  have hread {base : BaseValue} :
      BaseValue.parse key = .ok base ↔ BaseValue.Denotes (Text.trim key.toList) base := by
    rw [BaseValue.parse_eq_ok_iff, BaseValue.ofChars?_eq_some_iff_denotes]
  refine ⟨BaseValue.parse_text base, hread, ?_, ?_⟩
  · simp only [hread, BaseValue.exists_denotes_iff]
  · have hparsed := parse_withRadix n.toNat_lt_size radix.toNat_lt_size
    rwa [UInt64.ofNat_toNat, UInt32.ofNat_toNat] at hparsed

end NumberRules.Spelling
