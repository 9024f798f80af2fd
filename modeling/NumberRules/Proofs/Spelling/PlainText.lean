import Mathlib
import NumberRules.Spelling.Pattern
import NumberRules.Proofs.Double.Fixed

/-! # Numbers written by patterns

A pattern asks for a number of places, for zeros at either end of the digits, and for groups.
`Padded` and `Trimmed` say which zeros are written, and `Grouped` where the commas stand: in front of
the digits from which on the groups come out even.  What is written by a pattern is the number rounded
to its places, laid out so.
-/

namespace NumberRules
set_option autoImplicit false

namespace Digits

theorem value_replicate_append (n : Nat) (ds : List Digit) :
    value (List.replicate n 0 ++ ds) = value ds := by
  rw [value_append, value_replicate_zero, Nat.zero_mul, Nat.zero_add]

theorem value_dropLeadingZeros (ds : List Digit) : value (dropLeadingZeros ds) = value ds := by
  induction ds with
  | nil => rfl
  | cons d ds ih =>
    by_cases hd : d = 0
    · rw [dropLeadingZeros, List.dropWhile_cons_of_pos (by simpa using hd)]
      rw [hd, value_cons, Fin.val_zero, Nat.zero_mul, Nat.zero_add]
      exact ih
    · rw [dropLeadingZeros, List.dropWhile_cons_of_neg (by simpa using hd)]

theorem getLast?_dropTrailingZeros_ne {ds : List Digit} {d : Digit}
    (h : (dropTrailingZeros ds).getLast? = some d) : d ≠ 0 := by
  have hhead := List.head?_dropWhile_not (fun d : Digit => decide (d = 0)) ds.reverse
  rw [dropTrailingZeros, List.getLast?_reverse, dropLeadingZeros] at h
  rw [h] at hhead
  simpa using hhead

end Digits

namespace Spelling.Pattern

/-! ## Zeros at both ends -/

/-- Zeros stand in front of the digits up to the least number, and no further ones. -/
structure Padded (least : Nat) (ds padded : List Digit) : Prop where
  zeros : ∃ n, padded = List.replicate n 0 ++ ds
  least_le : least ≤ padded.length
  no_more : padded = ds ∨ padded.length = least

/-- Zeros at the end of the digits are left out down to the least number, and no other digits. -/
structure Trimmed (least : Nat) (ds trimmed : List Digit) : Prop where
  zeros : ∃ n, ds = trimmed ++ List.replicate n 0
  least_le : least ≤ trimmed.length
  no_fewer : trimmed.length = least ∨ ∃ d, trimmed.getLast? = some d ∧ d ≠ 0

theorem padded_leftpad (least : Nat) (ds : List Digit) :
    Padded least ds (List.replicate (least - ds.length) 0 ++ ds) where
  zeros := ⟨_, rfl⟩
  least_le := by
    rw [List.length_append, List.length_replicate]
    omega
  no_more := by
    rw [List.length_append, List.length_replicate]
    by_cases hle : least ≤ ds.length
    · left
      rw [Nat.sub_eq_zero_of_le hle, List.replicate_zero, List.nil_append]
    · right
      omega

theorem padded_padInteger (least : Nat) (ds : List Digit) :
    Padded least (if least = 0 then Digits.dropLeadingZeros ds else ds) (padInteger least ds) :=
  padded_leftpad least _

theorem trimmed_trimFraction {least : Nat} {ds : List Digit} (h : least ≤ ds.length) :
    Trimmed least ds (trimFraction least ds) where
  zeros := by
    refine ⟨Digits.trailingZeros (ds.drop least), ?_⟩
    rw [trimFraction, List.append_assoc, Digits.dropTrailingZeros_append, List.take_append_drop]
  least_le := by
    rw [trimFraction, List.length_append, List.length_take_of_le h]
    omega
  no_fewer := by
    rw [trimFraction, List.length_append, List.length_take_of_le h]
    cases hlast : (Digits.dropTrailingZeros (ds.drop least)).getLast? with
    | none =>
      rw [List.getLast?_eq_none_iff] at hlast
      rw [hlast]
      exact .inl rfl
    | some d =>
      refine .inr ⟨d, ?_, Digits.getLast?_dropTrailingZeros_ne hlast⟩
      rw [List.getLast?_append, hlast]
      rfl

theorem Padded.value_eq {least : Nat} {ds padded : List Digit} (h : Padded least ds padded) :
    Digits.value padded = Digits.value ds := by
  obtain ⟨n, rfl⟩ := h.zeros
  exact Digits.value_replicate_append n ds

/-- Zeros at the end of a fraction do not change its value. -/
theorem Trimmed.value_div_eq {least : Nat} {ds trimmed : List Digit}
    (h : Trimmed least ds trimmed) :
    (Digits.value trimmed : ℚ) / 10 ^ trimmed.length = Digits.value ds / 10 ^ ds.length := by
  obtain ⟨n, rfl⟩ := h.zeros
  have hpos : (10 : ℚ) ^ n ≠ 0 := by positivity
  rw [Digits.value_append, Digits.value_replicate_zero, List.length_append, List.length_replicate,
    pow_add, Nat.add_zero, Nat.cast_mul, Nat.cast_pow, Nat.cast_ofNat,
    mul_div_mul_right _ _ hpos]

/-- The value of a decimal is the same with other zeros at both ends. -/
theorem exact_eq_of_padded_of_trimmed {leastInteger leastFraction : Nat} {d written : Decimal}
    (hinteger : Padded leastInteger
      (if leastInteger = 0 then Digits.dropLeadingZeros d.integer else d.integer) written.integer)
    (hfraction : Trimmed leastFraction d.fraction written.fraction) : written.exact = d.exact := by
  rw [Decimal.exact_eq, Decimal.exact_eq, hinteger.value_eq, hfraction.value_div_eq]
  split
  · rw [Digits.value_dropLeadingZeros]
  · rfl

/-! ## Groups -/

/-- A text of digits with commas.  A comma stands in front of a digit exactly if that is not the
first digit and the number of digits from it to the end is a multiple of the size. -/
structure Grouped (size : Nat) (ds : List Digit) (cs : List Char) : Prop where
  size_pos : 0 < size
  digits : cs.filter (· ≠ ',') = Digits.toChars ds
  comma_iff : ∀ before c after, cs = before ++ c :: after → c ≠ ',' →
    (before.getLast? = some ',' ↔
      (∃ d ∈ before, d ≠ ',') ∧ size ∣ (c :: after).countP (· ≠ ','))
  /-- Nothing else has a comma in front of it. -/
  before_digit : ∀ before after, cs = before ++ ',' :: after → ∃ c ∈ after.head?, c ≠ ','

/-- The comma, if there is one, in front of so many digits. -/
def separator (size count : Nat) : List Char := if count % size = 0 then [','] else []

variable {size : Nat} {x y c : Char} {cs rest before after : List Char}

theorem group_cons_cons (size : Nat) (x y : Char) (rest : List Char) :
    group size (x :: y :: rest) =
      x :: (separator size (rest.length + 1) ++ group size (y :: rest)) := by
  rw [group, separator]
  split <;> rfl

theorem exists_group_cons (size : Nat) (y : Char) (rest : List Char) :
    ∃ tail, group size (y :: rest) = y :: tail := by
  cases rest with
  | nil => exact ⟨[], rfl⟩
  | cons z rest => exact ⟨_, group_cons_cons size y z rest⟩

theorem separator_cases (size count : Nat) :
    separator size count = [','] ∧ size ∣ count ∨ separator size count = [] ∧ ¬size ∣ count := by
  rw [separator, Nat.dvd_iff_mod_eq_zero]
  split <;> simp_all

theorem filter_separator (size count : Nat) : (separator size count).filter (· ≠ ',') = [] := by
  rcases separator_cases size count with ⟨h, -⟩ | ⟨h, -⟩ <;> rw [h] <;> rfl

theorem getLast?_separator_iff (hx : x ≠ ',') (size count : Nat) :
    (x :: separator size count).getLast? = some ',' ↔ size ∣ count := by
  rcases separator_cases size count with ⟨hcomma, hdvd⟩ | ⟨hnone, hdvd⟩
  · simp [hcomma, hdvd]
  · simp [hnone, hdvd, hx]

/-- Without its commas a grouped text is what it was. -/
theorem filter_group (h : ',' ∉ cs) : (group size cs).filter (· ≠ ',') = cs := by
  induction cs with
  | nil => rfl
  | cons x rest ih =>
    rw [List.mem_cons, not_or] at h
    have hx : x ≠ ',' := Ne.symm h.1
    cases rest with
    | nil => simp [group, hx]
    | cons y rest =>
      rw [group_cons_cons, List.filter_cons_of_pos (by simpa using hx), List.filter_append,
        filter_separator, ih h.2, List.nil_append]

theorem countP_group (h : ',' ∉ cs) : (group size cs).countP (· ≠ ',') = cs.length := by
  rw [List.countP_eq_length_filter, filter_group h]

/-- A place in a grouped text is at the first digit, at the comma after it, or in the rest. -/
theorem cases_of_group (h : group size (x :: y :: rest) = before ++ c :: after) :
    before = [] ∧ c = x ∨
    before = [x] ∧ c = ',' ∧ after = group size (y :: rest) ∨
    ∃ front, before = x :: (separator size (rest.length + 1) ++ front) ∧
      group size (y :: rest) = front ++ c :: after := by
  rw [group_cons_cons] at h
  cases before with
  | nil => exact .inl ⟨rfl, (List.cons.inj h).1.symm⟩
  | cons b before =>
    obtain ⟨rfl, htail⟩ := List.cons.inj h
    clear h
    rcases separator_cases size (rest.length + 1) with ⟨hcomma, -⟩ | ⟨hnone, -⟩
    · rw [hcomma, List.singleton_append] at htail
      rw [hcomma]
      cases before with
      | nil =>
        obtain ⟨rfl, rfl⟩ := List.cons.inj htail
        exact .inr (.inl ⟨rfl, rfl, rfl⟩)
      | cons b before =>
        obtain ⟨rfl, hrest⟩ := List.cons.inj htail
        exact .inr (.inr ⟨before, rfl, hrest⟩)
    · rw [hnone, List.nil_append] at htail
      rw [hnone]
      exact .inr (.inr ⟨before, rfl, htail⟩)

/-- A comma stands in front of a digit if a whole number of groups begins with it. -/
theorem getLast?_eq_comma_iff (hcs : ',' ∉ cs) (h : group size cs = before ++ c :: after)
    (hc : c ≠ ',') : before.getLast? = some ',' ↔
      (∃ d ∈ before, d ≠ ',') ∧ size ∣ (c :: after).countP (· ≠ ',') := by
  induction cs generalizing before with
  | nil => simp [group] at h
  | cons x rest ih =>
    rw [List.mem_cons, not_or] at hcs
    have hx : x ≠ ',' := Ne.symm hcs.1
    cases rest with
    | nil =>
      -- The only digit is the first one.
      obtain rfl : before = [] := by
        cases before with
        | nil => rfl
        | cons b before => simp [group] at h
      simp
    | cons y rest =>
      rcases cases_of_group h with ⟨rfl, -⟩ | ⟨-, rfl, -⟩ | ⟨front, rfl, hrest⟩
      · simp
      · exact absurd rfl hc
      · have hfirst : ∃ d ∈ x :: (separator size (rest.length + 1) ++ front), d ≠ ',' :=
          ⟨x, List.mem_cons_self, hx⟩
        obtain ⟨tail, htail⟩ := exists_group_cons size y rest
        rw [and_iff_right hfirst]
        cases front with
        | nil =>
          -- The digit is the second one, and the comma in question the separator.
          have hcount : (c :: after).countP (· ≠ ',') = rest.length + 1 := by
            rw [← List.nil_append (c :: after), ← hrest, countP_group hcs.2, List.length_cons]
          rw [hcount, List.append_nil, getLast?_separator_iff hx]
        | cons z front =>
          obtain ⟨rfl, -⟩ := List.cons.inj (htail.symm.trans hrest)
          have hsecond : ∃ d ∈ y :: front, d ≠ ',' := by
            refine ⟨y, List.mem_cons_self, ?_⟩
            rintro rfl
            exact hcs.2 List.mem_cons_self
          have hrec := ih hcs.2 hrest
          rw [and_iff_right hsecond] at hrec
          rw [← hrec, ← List.cons_append,
            List.getLast?_append_of_ne_nil _ (List.cons_ne_nil y front)]

theorem exists_head?_of_group (hcs : ',' ∉ cs) (h : group size cs = before ++ ',' :: after) :
    ∃ c ∈ after.head?, c ≠ ',' := by
  induction cs generalizing before with
  | nil => simp [group] at h
  | cons x rest ih =>
    rw [List.mem_cons, not_or] at hcs
    cases rest with
    | nil =>
      have hmem : ',' ∈ [x] := by
        rw [show [x] = before ++ ',' :: after from h]
        simp
      exact absurd (List.mem_singleton.1 hmem) hcs.1
    | cons y rest =>
      rcases cases_of_group h with ⟨-, hx⟩ | ⟨-, -, rfl⟩ | ⟨front, -, hrest⟩
      · exact absurd hx hcs.1
      · obtain ⟨tail, htail⟩ := exists_group_cons size y rest
        refine ⟨y, by simp [htail], ?_⟩
        rintro rfl
        exact hcs.2 List.mem_cons_self
      · exact ih hcs.2 hrest

theorem grouped_group (hsize : 0 < size) (ds : List Digit) :
    Grouped size ds (group size (Digits.toChars ds)) := by
  have hdigits : ',' ∉ Digits.toChars ds := fun h => Digits.ne_of_mem_toChars h (by decide) rfl
  exact ⟨hsize, filter_group hdigits, fun before c after => getLast?_eq_comma_iff hdigits,
    fun before after => exists_head?_of_group hdigits⟩

/-! ## Reading a pattern -/

/-- What stands before the first point of a pattern. -/
def integerPart (pattern : String) : List Char := pattern.toList.takeWhile (· ≠ '.')

/-- What stands after the first point of a pattern. -/
def fractionPart (pattern : String) : List Char := (pattern.toList.dropWhile (· ≠ '.')).drop 1

/-- The size of the groups for what stands after the last comma before the point. -/
def sizeFor (lastGroup : List Char) : Nat :=
  let places := lastGroup.countP fun c => c = '#' || c = '0'
  if places = 0 then 3 else places

theorem sizeFor_pos (lastGroup : List Char) : 0 < sizeFor lastGroup := by
  rw [sizeFor]
  split
  · decide
  · omega

/-- Digits in the groups for which the part of a pattern before the point asks. -/
inductive InGroups (front : List Char) (ds : List Digit) : List Char → Prop
  | none : ',' ∉ front → InGroups front ds (Digits.toChars ds)
  | some {before lastGroup cs : List Char} : front = before ++ ',' :: lastGroup →
    ',' ∉ lastGroup → Grouped (sizeFor lastGroup) ds cs → InGroups front ds cs

theorem exists_last_comma {front : List Char} (h : ',' ∈ front) :
    ∃ before lastGroup, front = before ++ ',' :: lastGroup ∧ ',' ∉ lastGroup := by
  obtain ⟨as, bs, hsplit, hfree⟩ := List.eq_append_cons_of_mem (List.mem_reverse.2 h)
  refine ⟨bs.reverse, as.reverse, ?_, by rwa [List.mem_reverse]⟩
  rw [← List.reverse_reverse front, hsplit]
  simp

theorem groupingOf_eq_none {front : List Char} (h : ',' ∉ front) : groupingOf front = none := by
  rw [groupingOf, if_neg (by simpa using h)]

theorem groupingOf_append {before lastGroup : List Char} (h : ',' ∉ lastGroup) :
    groupingOf (before ++ ',' :: lastGroup) = some (sizeFor lastGroup) := by
  have hdigits : ∀ c ∈ lastGroup.reverse, decide (c ≠ ',') = true := fun c hc =>
    decide_eq_true (ne_of_mem_of_not_mem (List.mem_reverse.1 hc) h)
  have htake : (before ++ ',' :: lastGroup).reverse.takeWhile (· ≠ ',') = lastGroup.reverse := by
    rw [List.reverse_append, List.reverse_cons, List.append_assoc]
    exact Text.takeWhile_append_stop hdigits (by simp)
  rw [groupingOf, if_pos (by simp), htake, List.countP_reverse]
  rfl

theorem inGroups_groupedChars (front : List Char) (ds : List Digit) :
    InGroups front ds (groupedChars (groupingOf front) ds) := by
  by_cases hcomma : ',' ∈ front
  · obtain ⟨before, lastGroup, rfl, hfree⟩ := exists_last_comma hcomma
    rw [groupingOf_append hfree]
    exact .some rfl hfree (grouped_group (sizeFor_pos lastGroup) ds)
  · rw [groupingOf_eq_none hcomma]
    exact .none hcomma

end Spelling.Pattern

/-! ## The written number -/

namespace Spelling

open Pattern

/-- What a finite number is written as by a pattern: it is rounded to the places of the pattern, and
zeros, groups and the sign are laid out without changing the value that is written. -/
theorem plainText_layout {x : Double} (hx : x.isFinite = true) (pattern : String) :
    ∃ (rounded written : Decimal) (groups : List Char),
      rounded.IsRounding |x.toRat|
        ((fractionPart pattern).count '0' + (fractionPart pattern).count '#') ∧
      Padded ((integerPart pattern).count '0')
        (if (integerPart pattern).count '0' = 0 then Digits.dropLeadingZeros rounded.integer
          else rounded.integer) written.integer ∧
      Trimmed ((fractionPart pattern).count '0') rounded.fraction written.fraction ∧
      written.exact = rounded.exact ∧
      InGroups (integerPart pattern) written.integer groups ∧
      (plainText x pattern).toList = (if x.toRat < 0 then ['-'] else []) ++ (groups ++
        if written.fraction = [] then [] else '.' :: Digits.toChars written.fraction) := by
  cases x with
  | nan => cases hx
  | inf negative => cases hx
  | finite negative units h =>
    let rounded := Double.fixed (Pattern.parse pattern).maxFraction units
    have hround := @Double.isRounding_fixed negative units (Pattern.parse pattern).maxFraction h
    have hlength : (fractionPart pattern).count '0' ≤ rounded.fraction.length := by
      rw [hround.length_eq]
      exact Nat.le_add_right _ _
    have hpad := padded_padInteger ((integerPart pattern).count '0') rounded.integer
    have htrim := trimmed_trimFraction hlength
    refine ⟨rounded, ⟨padInteger _ _, trimFraction _ _⟩, _, hround, hpad, htrim,
      exact_eq_of_padded_of_trimmed hpad htrim, inGroups_groupedChars _ _, ?_⟩
    rw [plainText, String.toList_ofList]
    congr 1
    · simp only [Bool.and_eq_true, decide_eq_true_eq, Double.toRat_finite_neg_iff]
    · rw [layOut]
      simp only [List.isEmpty_iff]
      rfl

theorem plainText_grouped : (Double.ofInt (-1234567)).isFinite = true ∧
    (plainText (Double.ofInt (-1234567)) "#,##0.0#").toList = "-1,234,567.0".toList ∧
    ∃ (rounded written : Decimal) (groups : List Char),
      rounded.IsRounding |(Double.ofInt (-1234567)).toRat| 2 ∧
      Padded 1 rounded.integer written.integer ∧ Trimmed 1 rounded.fraction written.fraction ∧
      written.exact = rounded.exact ∧ InGroups "#,##0".toList written.integer groups ∧
      (plainText (Double.ofInt (-1234567)) "#,##0.0#").toList =
        (if (Double.ofInt (-1234567)).toRat < 0 then ['-'] else []) ++ (groups ++
          if written.fraction = [] then [] else '.' :: Digits.toChars written.fraction) :=
  ⟨by decide +kernel, by decide +kernel,
    plainText_layout (by decide +kernel) "#,##0.0#"⟩

end Spelling

end NumberRules
