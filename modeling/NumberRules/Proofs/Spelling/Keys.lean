import Mathlib
import NumberRules.Spelling.BaseValue
import NumberRules.Proofs.Except
import NumberRules.Proofs.Text.Digits
import NumberRules.Proofs.Text.Blank

/-! # Numeric keys

A key of digits denotes the number of these digits, and a key of digits, a slash and digits denotes
a number with its radix.  Special keys are never in the way, since each of them has a character that
is no digit.  Blanks, commas, leading zeros and the radix make no difference to the number.
-/

namespace NumberRules
set_option autoImplicit false

/-! ## Digits in texts -/

namespace Digits

theorem trim_toChars {ds : List Digit} (h : ds ≠ []) : Text.trim (toChars ds) = toChars ds := by
  have hnil : Text.Blank [] := fun c hc => absurd hc List.not_mem_nil
  have htrim := Text.trim_append hnil (Text.solid_toChars ds) (toChars_ne_nil h) hnil
  rwa [List.nil_append, List.append_nil] at htrim

end Digits

theorem toList_natText (n : Nat) : (natText n).toList = Digits.toChars (Digits.ofNat n) := by
  rw [natText, String.toList_ofList]

namespace Spelling

/-! ## Base values -/

namespace BaseValue

theorem special_not_digits : ∀ base ∈ special, Digits.ofChars? base.text.toList = none := by
  decide

theorem find?_special_toChars (ds : List Digit) :
    special.find? (fun base => decide (base.text.toList = Digits.toChars ds)) = none := by
  rw [List.find?_eq_none]
  intro base hbase htext
  have hnone := special_not_digits base hbase
  rw [of_decide_eq_true htext, Digits.ofChars?_toChars] at hnone
  simp at hnone

theorem numberOfChars?_toChars {ds : List Digit} (hne : ds ≠ [])
    (h : Digits.value ds < UInt64.size) :
    numberOfChars? (Digits.toChars ds) = some (number (UInt64.ofNat (Digits.value ds))) := by
  have hfilter : (Digits.toChars ds).filter (fun c => decide (c ≠ ',')) = Digits.toChars ds := by
    rw [List.filter_eq_self]
    intro c hc
    exact decide_eq_true (Digits.ne_of_mem_toChars hc (by decide))
  have hempty : ds.isEmpty = false := by simpa using hne
  rw [numberOfChars?, hfilter]
  simp only [Digits.ofChars?_toChars, Option.bind_eq_bind, Option.bind_some, hempty, if_pos h,
    Bool.false_eq_true, if_false]

theorem parse_natText {n : Nat} (h : n < UInt64.size) :
    parse (natText n) = .ok (number (UInt64.ofNat n)) := by
  have hne := Digits.ofNat_ne_nil n
  have hvalue := Digits.value_ofNat n
  have hnumber := numberOfChars?_toChars hne (by rwa [hvalue])
  rw [hvalue] at hnumber
  rw [parse, ofChars?, toList_natText, Digits.trim_toChars hne]
  simp only [find?_special_toChars, hnumber]

theorem special_not_grouped :
    ∀ base ∈ special, Digits.ofChars? (base.text.toList.filter (· ≠ ',')) = none := by
  decide

theorem numberOfChars?_eq_some_iff {cs : List Char} {n : UInt64} :
    numberOfChars? cs = some (number n) ↔
      ∃ ds, ds ≠ [] ∧ cs.filter (· ≠ ',') = Digits.toChars ds ∧ Digits.value ds = n.toNat := by
  unfold numberOfChars?
  constructor
  · intro h
    obtain ⟨ds, hds, h⟩ := Option.bind_eq_some_iff.1 h
    split at h
    · cases h
    · rename_i hne
      split at h
      · rename_i hlt
        cases h
        refine ⟨ds, by simpa using hne, Digits.ofChars?_eq_some_iff.1 hds, ?_⟩
        exact (UInt64.toNat_ofNat_of_lt' hlt).symm
      · cases h
  · rintro ⟨ds, hne, hcs, hvalue⟩
    have hempty : ds.isEmpty = false := by simpa using hne
    have hlt : Digits.value ds < UInt64.size := hvalue ▸ n.toNat_lt_size
    simp only [hcs, Digits.ofChars?_toChars, Option.bind_eq_bind, Option.bind_some, hempty,
      if_pos hlt, Bool.false_eq_true, if_false]
    rw [hvalue, UInt64.ofNat_toNat]

theorem ofChars?_eq_number_iff {cs : List Char} {n : UInt64} :
    ofChars? cs = some (number n) ↔ ∃ ds, ds ≠ [] ∧
      (Text.trim cs).filter (· ≠ ',') = Digits.toChars ds ∧ Digits.value ds = n.toNat := by
  rw [ofChars?, ← numberOfChars?_eq_some_iff]
  split
  · rename_i base hbase
    have hmem := List.mem_of_find?_eq_some hbase
    have htext : base.text.toList = Text.trim cs := by simpa using List.find?_some hbase
    refine iff_of_false ?_ ?_
    · rintro ⟨⟩
      simp [special] at hmem
    · rw [numberOfChars?_eq_some_iff]
      rintro ⟨ds, -, hds, -⟩
      have hnone := special_not_grouped base hmem
      rw [htext, hds, Digits.ofChars?_toChars] at hnone
      cases hnone
  · rfl

theorem parse_eq_ok_iff {key : String} {base : BaseValue} :
    parse key = .ok base ↔ ofChars? key.toList = some base := by
  unfold parse
  cases ofChars? key.toList <;> simp

end BaseValue

/-! ## Keys -/

namespace Key

/-- The text in front of the radix, blanks around it and commas in it aside, is digits of the
number. -/
def Writes (text : String) (n : Nat) : Prop :=
  ∃ ds, ds ≠ [] ∧ Digits.value ds = n ∧
    (Text.trim (text.toList.takeWhile (· ≠ '/'))).filter (· ≠ ',') = Digits.toChars ds

/-- The base value is read from the text in front of the radix. -/
theorem ofChars?_of_parse {text : String} {key : Key} (h : parse text = .ok key) :
    BaseValue.ofChars? (text.toList.takeWhile (· ≠ '/')) = some key.base := by
  unfold parse at h
  split at h
  · rename_i hdrop
    obtain ⟨base, hbase, h⟩ := bind_eq_ok_iff.1 h
    cases h
    have hall : text.toList.takeWhile (· ≠ '/') = text.toList := by
      rw [List.takeWhile_eq_self_iff]
      exact List.dropWhile_eq_nil_iff.1 hdrop
    rw [hall]
    exact BaseValue.parse_eq_ok_iff.1 hbase
  · split at h
    · cases h
    · obtain ⟨base, hbase, h⟩ := bind_eq_ok_iff.1 h
      cases h
      have hread := BaseValue.parse_eq_ok_iff.1 hbase
      rwa [String.toList_ofList] at hread

theorem base_eq_number_iff {text : String} {key : Key} (h : parse text = .ok key) {n : UInt64} :
    key.base = .number n ↔ Writes text n.toNat := by
  have hread := ofChars?_of_parse h
  rw [← Option.some_inj, ← hread, BaseValue.ofChars?_eq_number_iff, Writes]
  exact exists_congr fun ds => and_congr_right fun _ => and_comm

theorem radixOfChars?_toChars {ds : List Digit} (hne : ds ≠ [])
    (h : Digits.value ds < UInt32.size) :
    radixOfChars? (Digits.toChars ds) = some (UInt32.ofNat (Digits.value ds)) := by
  have hempty : ds.isEmpty = false := by simpa using hne
  unfold radixOfChars?
  split
  · rename_i rest hplus
    have hmem : '+' ∈ Digits.toChars ds := by
      rw [hplus]
      exact List.mem_cons_self
    exact absurd rfl (Digits.ne_of_mem_toChars hmem (by decide))
  · simp only [Digits.ofChars?_toChars, Option.bind_eq_bind, Option.bind_some, hempty, if_pos h,
      Bool.false_eq_true, if_false]

theorem ne_slash_of_mem {ds : List Digit} {c : Char} (h : c ∈ Digits.toChars ds) :
    decide (c ≠ '/') = true :=
  decide_eq_true (Digits.ne_of_mem_toChars h (by decide))

/-- A key of digits has the default radix. -/
theorem parse_natText {n : Nat} (h : n < UInt64.size) :
    parse (natText n) = .ok ⟨.number (UInt64.ofNat n), defaultRadix⟩ := by
  have hdrop : (natText n).toList.dropWhile (fun c => decide (c ≠ '/')) = [] := by
    rw [toList_natText, List.dropWhile_eq_nil_iff]
    exact fun c hc => ne_slash_of_mem hc
  rw [parse, hdrop]
  dsimp only
  rw [BaseValue.parse_natText h, bind_ok]

/-- A radix stands after a slash. -/
theorem parse_withRadix {n radix : Nat} (hn : n < UInt64.size) (hradix : radix < UInt32.size) :
    parse (natText n ++ "/" ++ natText radix) =
      .ok ⟨.number (UInt64.ofNat n), UInt32.ofNat radix⟩ := by
  have htext : (natText n ++ "/" ++ natText radix).toList =
      (natText n).toList ++ '/' :: (natText radix).toList := by
    rw [String.toList_append, String.toList_append, List.append_assoc]
    rfl
  have hslash : ∀ c ∈ (natText n).toList, decide (c ≠ '/') = true := by
    rw [toList_natText]
    exact fun c hc => ne_slash_of_mem hc
  have hdrop : (natText n ++ "/" ++ natText radix).toList.dropWhile (fun c => decide (c ≠ '/')) =
      '/' :: (natText radix).toList := by
    rw [htext, Text.dropWhile_append_stop hslash (by simp)]
  have htake : (natText n ++ "/" ++ natText radix).toList.takeWhile (fun c => decide (c ≠ '/')) =
      (natText n).toList := by
    rw [htext, Text.takeWhile_append_stop hslash (by simp)]
  have hne := Digits.ofNat_ne_nil radix
  have hvalue := Digits.value_ofNat radix
  have hparsed := radixOfChars?_toChars hne (by rwa [hvalue])
  rw [hvalue] at hparsed
  rw [parse, hdrop, htake]
  dsimp only
  rw [toList_natText radix, Digits.trim_toChars hne, hparsed]
  dsimp only
  rw [String.ofList_toList, BaseValue.parse_natText hn, bind_ok]

end Key

end Spelling

end NumberRules
