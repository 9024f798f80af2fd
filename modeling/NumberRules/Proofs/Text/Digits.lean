import Mathlib
import NumberRules.Text.Digits

/-! # Runs of digits and the numbers they denote

`value` is place notation: appending runs shifts the first by the length of the second.  From this
follow the round trips: `value` undoes `ofNat`, `padded` undoes `value` at the length of the run,
and `ofChars?` accepts exactly the texts that `toChars` writes.  `takeLeading` splits a text after
its longest leading run.
-/

namespace NumberRules
set_option autoImplicit false

/-! ## Leading runs of characters -/

namespace Text

variable {p : Char → Bool} {run rest : List Char}

/-- A run that is not continued by what follows is the longest one. -/
theorem takeWhile_append_stop (hrun : ∀ c ∈ run, p c = true)
    (hstop : ∀ c ∈ rest.head?, p c = false) : (run ++ rest).takeWhile p = run := by
  rw [List.takeWhile_append_of_pos hrun]
  cases rest with
  | nil => simp
  | cons c rest =>
    have hc : p c = false := hstop c (by simp)
    simp [hc]

theorem dropWhile_append_stop (hrun : ∀ c ∈ run, p c = true)
    (hstop : ∀ c ∈ rest.head?, p c = false) : (run ++ rest).dropWhile p = rest := by
  rw [List.dropWhile_append_of_pos hrun]
  cases rest with
  | nil => rfl
  | cons c rest =>
    have hc : p c = false := hstop c (by simp)
    simp [hc]

end Text

/-! ## Single digits -/

namespace Digit

theorem ofChar?_toChar (d : Digit) : ofChar? d.toChar = some d := by
  revert d
  decide

theorem eq_toChar_of_ofChar? {c : Char} {d : Digit} (h : ofChar? c = some d) : c = d.toChar := by
  unfold ofChar? at h
  split at h
  · rename_i hc
    have h0 : '0'.toNat = 48 := rfl
    have hd : d.val = c.toNat - 48 := by
      rw [← Option.some.inj h]
      rfl
    have hsum : 48 + d.val = c.toNat := by omega
    rw [toChar, h0, hsum, Char.ofNat_toNat]
  · simp at h

theorem toChar_ne {c : Char} (h : ofChar? c = none) (d : Digit) : d.toChar ≠ c := by
  rintro rfl
  rw [ofChar?_toChar] at h
  simp at h

theorem isDigit_toChar (d : Digit) : d.toChar.isDigit = true := by
  revert d
  decide

theorem isDigit_iff {c : Char} : c.isDigit = true ↔ ∃ d : Digit, c = d.toChar := by
  constructor
  · intro h
    have hrange : '0'.toNat ≤ c.toNat ∧ c.toNat ≤ '9'.toNat := by
      simp only [Char.isDigit, Bool.and_eq_true, decide_eq_true_eq, ge_iff_le,
        UInt32.le_iff_toNat_le] at h
      exact h
    exact ⟨_, eq_toChar_of_ofChar? (dif_pos hrange)⟩
  · rintro ⟨d, rfl⟩
    exact isDigit_toChar d

theorem isDigit_eq_false_iff {c : Char} : c.isDigit = false ↔ ofChar? c = none := by
  rw [← Bool.not_eq_true, isDigit_iff, Option.eq_none_iff_forall_not_mem, not_exists]
  refine forall_congr' fun d => not_congr ⟨?_, eq_toChar_of_ofChar?⟩
  rintro rfl
  exact ofChar?_toChar d

end Digit

namespace Digits

/-! ## Place notation -/

@[simp] theorem value_nil : value [] = 0 := rfl

theorem foldl_eq (ds : List Digit) (n : Nat) :
    ds.foldl (fun n d => 10 * n + d.val) n = n * 10 ^ ds.length + value ds := by
  induction ds generalizing n with
  | nil => simp
  | cons d ds ih =>
    rw [value, List.foldl_cons, List.foldl_cons, ih, ih (10 * 0 + d.val), List.length_cons,
      pow_succ]
    ring

theorem value_append (as bs : List Digit) :
    value (as ++ bs) = value as * 10 ^ bs.length + value bs := by
  have h := foldl_eq bs (value as)
  rwa [value, ← List.foldl_append] at h

theorem value_cons (d : Digit) (ds : List Digit) :
    value (d :: ds) = d.val * 10 ^ ds.length + value ds := by
  have h := value_append [d] ds
  rwa [List.singleton_append, show value [d] = d.val by simp [value]] at h

theorem value_concat (ds : List Digit) (d : Digit) : value (ds ++ [d]) = 10 * value ds + d.val := by
  rw [value_append, value_cons]
  simp
  ring

theorem value_lt (ds : List Digit) : value ds < 10 ^ ds.length := by
  induction ds using List.reverseRecOn with
  | nil => simp
  | append_singleton ds d ih =>
    rw [value_concat, List.length_append, List.length_singleton, pow_succ]
    have := d.isLt
    omega

@[simp] theorem value_replicate_zero (n : Nat) : value (List.replicate n 0) = 0 := by
  induction n with
  | zero => rfl
  | succ n ih => rw [List.replicate_succ, value_cons, ih]; simp

/-! ## From numbers to digits and back -/

theorem value_prepend (n : Nat) (ds : List Digit) :
    value (prepend n ds) = n * 10 ^ ds.length + value ds := by
  fun_induction prepend n ds with
  | case1 n ds h =>
    rw [value_cons]
    congr 2
    exact Nat.mod_eq_of_lt h
  | case2 n ds h ih =>
    rw [ih, value_cons, List.length_cons, pow_succ]
    have hmod : (Fin.ofNat 10 n).val = n % 10 := rfl
    rw [hmod]
    have hn : n = 10 * (n / 10) + n % 10 := (Nat.div_add_mod n 10).symm
    calc n / 10 * (10 ^ ds.length * 10) + (n % 10 * 10 ^ ds.length + value ds)
        = (10 * (n / 10) + n % 10) * 10 ^ ds.length + value ds := by ring
      _ = n * 10 ^ ds.length + value ds := by rw [← hn]

@[simp] theorem value_ofNat (n : Nat) : value (ofNat n) = n := by
  rw [ofNat, value_prepend]
  simp

theorem prepend_ne_nil (n : Nat) (ds : List Digit) : prepend n ds ≠ [] := by
  fun_induction prepend n ds with
  | case1 n ds h => simp
  | case2 n ds h ih => exact ih

theorem ofNat_ne_nil (n : Nat) : ofNat n ≠ [] := prepend_ne_nil n []

theorem prependPadded_value (ds es : List Digit) :
    prependPadded ds.length (value ds) es = ds ++ es := by
  induction ds using List.reverseRecOn generalizing es with
  | nil => rfl
  | append_singleton ds d ih =>
    have hlt := d.isLt
    rw [List.length_append, List.length_singleton, prependPadded, value_concat]
    have hdiv : (10 * value ds + d.val) / 10 = value ds := by omega
    have hmod : Fin.ofNat 10 (10 * value ds + d.val) = d := by
      apply Fin.ext
      simp only [Fin.val_ofNat]
      omega
    rw [hdiv, hmod, ih, List.append_assoc, List.singleton_append]

/-- A run of digits is determined by its length and its value. -/
theorem padded_value (ds : List Digit) : padded ds.length (value ds) = ds := by
  rw [padded, prependPadded_value, List.append_nil]

theorem value_prependPadded (places n : Nat) (ds : List Digit) :
    value (prependPadded places n ds) = n % 10 ^ places * 10 ^ ds.length + value ds := by
  induction places generalizing n ds with
  | zero => simp [prependPadded, Nat.mod_one]
  | succ places ih =>
    have hmod : (Fin.ofNat 10 n).val = n % 10 := rfl
    rw [prependPadded, ih, value_cons, hmod, List.length_cons, pow_succ' 10 places, Nat.mod_mul]
    ring

/-- The digits beyond the given places are left out. -/
theorem value_padded (places n : Nat) : value (padded places n) = n % 10 ^ places := by
  rw [padded, value_prependPadded]
  simp

/-! ## Trailing zeros -/

/-- The number of zeros at the end of a run of digits. -/
def trailingZeros (ds : List Digit) : Nat := (ds.reverse.takeWhile (· = 0)).length

theorem dropTrailingZeros_append (ds : List Digit) :
    dropTrailingZeros ds ++ List.replicate (trailingZeros ds) 0 = ds := by
  have hzeros : ds.reverse.takeWhile (· = 0) = List.replicate (trailingZeros ds) 0 := by
    rw [List.eq_replicate_iff]
    refine ⟨rfl, fun d hd => ?_⟩
    simpa using List.mem_takeWhile_imp hd
  have hsplit := List.takeWhile_append_dropWhile (p := fun d : Digit => decide (d = 0))
    (l := ds.reverse)
  rw [hzeros] at hsplit
  have h := congrArg List.reverse hsplit
  rw [List.reverse_append, List.reverse_replicate, List.reverse_reverse] at h
  exact h

theorem length_dropTrailingZeros (ds : List Digit) :
    (dropTrailingZeros ds).length = ds.length - trailingZeros ds := by
  have h := congrArg List.length (dropTrailingZeros_append ds)
  rw [List.length_append, List.length_replicate] at h
  omega

theorem trailingZeros_le (ds : List Digit) : trailingZeros ds ≤ ds.length := by
  have h := congrArg List.length (dropTrailingZeros_append ds)
  rw [List.length_append, List.length_replicate] at h
  omega

theorem value_dropTrailingZeros (ds : List Digit) :
    value (dropTrailingZeros ds) * 10 ^ trailingZeros ds = value ds := by
  have h := congrArg value (dropTrailingZeros_append ds)
  rwa [value_append, List.length_replicate, value_replicate_zero, Nat.add_zero] at h

theorem dropTrailingZeros_eq_nil_iff {ds : List Digit} :
    dropTrailingZeros ds = [] ↔ value ds = 0 := by
  constructor
  · intro h
    have hvalue := value_dropTrailingZeros ds
    rw [h, value_nil, Nat.zero_mul] at hvalue
    exact hvalue.symm
  · intro h
    have hzeros : ds = List.replicate ds.length 0 := by
      have hpadded := padded_value ds
      have hzero := padded_value (List.replicate ds.length 0)
      rw [value_replicate_zero, List.length_replicate] at hzero
      rw [h, hzero] at hpadded
      exact hpadded.symm
    rw [hzeros, dropTrailingZeros, dropLeadingZeros, List.reverse_replicate]
    simp

/-- Without trailing zeros the last digit is not zero. -/
theorem value_dropTrailingZeros_mod {ds : List Digit} (h : dropTrailingZeros ds ≠ []) :
    value (dropTrailingZeros ds) % 10 ≠ 0 := by
  have hhead := List.head?_dropWhile_not (fun d : Digit => decide (d = 0)) ds.reverse
  unfold dropTrailingZeros dropLeadingZeros at h ⊢
  cases hdrop : ds.reverse.dropWhile (fun d => decide (d = 0)) with
  | nil =>
    rw [hdrop] at h
    exact absurd rfl h
  | cons d rest =>
    rw [hdrop] at hhead
    have hd : d ≠ 0 := by simpa using hhead
    have hval : d.val ≠ 0 := fun h0 => hd (Fin.ext h0)
    have hlt := d.isLt
    rw [List.reverse_cons, value_concat]
    omega

/-- Zeros that are part of the value are trailing zeros. -/
theorem value_dropTrailingZeros_le {ds : List Digit} {m i : Nat} (h : value ds = m * 10 ^ i) :
    value (dropTrailingZeros ds) ≤ m := by
  by_cases hnil : dropTrailingZeros ds = []
  · rw [hnil, value_nil]
    exact Nat.zero_le m
  · have hlast := value_dropTrailingZeros_mod hnil
    have hvalue := value_dropTrailingZeros ds
    rw [h] at hvalue
    rcases Nat.lt_or_ge (trailingZeros ds) i with hlt | hle
    · -- The last digit would be zero.
      obtain ⟨k, rfl⟩ := Nat.exists_eq_add_of_lt hlt
      have hpos : 0 < 10 ^ trailingZeros ds := by positivity
      have hten : value (dropTrailingZeros ds) = 10 * (m * 10 ^ k) := by
        refine Nat.eq_of_mul_eq_mul_right hpos (hvalue.trans ?_)
        ring
      omega
    · obtain ⟨k, hk⟩ := Nat.exists_eq_add_of_le hle
      have hpos : 0 < 10 ^ i := by positivity
      have hm : m = value (dropTrailingZeros ds) * 10 ^ k := by
        refine Nat.eq_of_mul_eq_mul_right hpos (hvalue.symm.trans ?_)
        rw [hk]
        ring
      rw [hm]
      exact Nat.le_mul_of_pos_right _ (by positivity)

/-! ## Digits as text -/

theorem ofChars?_toChars (ds : List Digit) : ofChars? (toChars ds) = some ds := by
  induction ds with
  | nil => rfl
  | cons d ds ih =>
    simp only [ofChars?, toChars] at ih
    simp [ofChars?, toChars, Digit.ofChar?_toChar, ih]

theorem eq_toChars_of_ofChars? {cs : List Char} {ds : List Digit} (h : ofChars? cs = some ds) :
    cs = toChars ds := by
  induction cs generalizing ds with
  | nil =>
    simp only [ofChars?, List.mapM_nil, Option.pure_def, Option.some.injEq] at h
    rw [← h]
    rfl
  | cons c cs ih =>
    simp only [ofChars?, List.mapM_cons, Option.pure_def, Option.bind_eq_bind,
      Option.bind_eq_some_iff, Option.some.injEq] at h
    obtain ⟨d, hd, ds', hds, rfl⟩ := h
    rw [Digit.eq_toChar_of_ofChar? hd, ih hds]
    rfl

theorem ofChars?_eq_some_iff {cs : List Char} {ds : List Digit} :
    ofChars? cs = some ds ↔ cs = toChars ds :=
  ⟨eq_toChars_of_ofChars?, fun h => h ▸ ofChars?_toChars ds⟩

theorem mem_toChars {c : Char} {ds : List Digit} (h : c ∈ toChars ds) :
    ∃ d : Digit, c = d.toChar := by
  obtain ⟨d, -, hd⟩ := List.mem_map.1 h
  exact ⟨d, hd.symm⟩

theorem ne_of_mem_toChars {c d : Char} {ds : List Digit} (h : c ∈ toChars ds)
    (hd : Digit.ofChar? d = none) : c ≠ d := by
  obtain ⟨digit, rfl⟩ := mem_toChars h
  exact Digit.toChar_ne hd digit

theorem toChars_ne_nil {ds : List Digit} (h : ds ≠ []) : toChars ds ≠ [] := by
  simpa [toChars] using h

theorem exists_toChars {cs : List Char} (h : ∀ c ∈ cs, c.isDigit = true) :
    ∃ ds, cs = toChars ds := by
  induction cs with
  | nil => exact ⟨[], rfl⟩
  | cons c cs ih =>
    rw [List.forall_mem_cons] at h
    obtain ⟨d, rfl⟩ := Digit.isDigit_iff.1 h.1
    obtain ⟨ds, rfl⟩ := ih h.2
    exact ⟨d :: ds, rfl⟩

/-- The value of a run of digits is that of its text. -/
theorem ofDigitChars_toChars (ds : List Digit) : Nat.ofDigitChars 10 (toChars ds) 0 = value ds := by
  have hval : ∀ d : Digit, d.toChar.toNat - '0'.toNat = d.val := by decide
  rw [Nat.ofDigitChars, toChars, List.foldl_map, value]
  simp only [hval]

/-- A text does not go on with a digit. -/
def Stops (cs : List Char) : Prop := ∀ c ∈ cs.head?, Digit.ofChar? c = none

theorem takeLeading_of_stops {cs : List Char} (h : Stops cs) : takeLeading cs = ([], cs) := by
  cases cs with
  | nil => rfl
  | cons c cs =>
    have hc : Digit.ofChar? c = none := h c (by simp)
    simp [takeLeading, hc]

theorem takeLeading_toChars_append (ds : List Digit) {cs : List Char} (h : Stops cs) :
    takeLeading (toChars ds ++ cs) = (ds, cs) := by
  induction ds with
  | nil => exact takeLeading_of_stops h
  | cons d ds ih =>
    have hcons : toChars (d :: ds) ++ cs = d.toChar :: (toChars ds ++ cs) := rfl
    rw [hcons, takeLeading, Digit.ofChar?_toChar]
    simp only [ih]

theorem takeLeading_append (cs : List Char) :
    toChars (takeLeading cs).1 ++ (takeLeading cs).2 = cs := by
  induction cs with
  | nil => rfl
  | cons c cs ih =>
    unfold takeLeading
    split
    · rename_i d hd
      rw [Digit.eq_toChar_of_ofChar? hd]
      exact congrArg _ ih
    · rfl

theorem stops_takeLeading (cs : List Char) : Stops (takeLeading cs).2 := by
  induction cs with
  | nil => simp [takeLeading, Stops]
  | cons c cs ih =>
    unfold takeLeading
    split
    · exact ih
    · rename_i hc
      simpa [Stops] using hc

end Digits

end NumberRules
