import Mathlib
import NumberRules.Proofs.Text.Bytes

/-! # Lines

A character below 128 is one byte, which no other character has among its bytes.  So the line ends
of a text can be seen in its bytes, and a text is taken apart at its first line feed.
-/

namespace NumberRules.Text
set_option autoImplicit false

/-! ## Bytes -/

def bytes (text : String) : List UInt8 := text.toByteArray.data.toList

theorem length_bytes (text : String) : (bytes text).length = text.utf8ByteSize := rfl

@[simp] theorem bytes_append (s t : String) : bytes (s ++ t) = bytes s ++ bytes t := by
  simp [bytes]

theorem bytes_eq_flatMap (text : String) :
    bytes text = text.toList.flatMap String.utf8EncodeChar := by
  rw [bytes, ← String.utf8Encode_toList, List.utf8Encode, List.data_toByteArray]

theorem utf8EncodeChar_of_ascii {a : Char} (ha : a.toNat < 128) :
    String.utf8EncodeChar a = [a.toUInt8] := by
  have hle : a.val.toNat ≤ 127 := Nat.le_of_lt_succ ha
  rw [String.utf8EncodeChar, if_pos hle]
  rfl

theorem toNat_toUInt8 {a : Char} (ha : a.toNat < 128) : a.toUInt8.toNat = a.toNat :=
  Nat.mod_eq_of_lt (Nat.lt_trans ha (by decide))

/-- The bytes of a character from 128 on have their first bit set. -/
theorem le_of_mem_utf8EncodeChar {c : Char} (hc : 128 ≤ c.toNat) :
    ∀ b ∈ String.utf8EncodeChar c, 128 ≤ b.toNat := by
  have hbyte : ∀ n, 128 ≤ n → n < 256 → 128 ≤ (UInt8.ofNat n).toNat := by
    intro n hn hlt
    rwa [UInt8.toNat_ofNat_of_lt' hlt]
  have hone : ¬c.val.toNat ≤ 127 := Nat.not_le.2 hc
  simp only [String.utf8EncodeChar, if_neg hone]
  split_ifs
  · simp only [List.forall_mem_cons]
    exact ⟨hbyte _ (by omega) (by omega), hbyte _ (by omega) (by omega), nofun⟩
  · simp only [List.forall_mem_cons]
    exact ⟨hbyte _ (by omega) (by omega), hbyte _ (by omega) (by omega),
      hbyte _ (by omega) (by omega), nofun⟩
  · simp only [List.forall_mem_cons]
    exact ⟨hbyte _ (by omega) (by omega), hbyte _ (by omega) (by omega),
      hbyte _ (by omega) (by omega), hbyte _ (by omega) (by omega), nofun⟩

/-- A byte below 128 stands for the character of its number. -/
theorem eq_of_mem_utf8EncodeChar {a c : Char} (ha : a.toNat < 128)
    (h : a.toUInt8 ∈ String.utf8EncodeChar c) : c = a := by
  rcases Nat.lt_or_ge c.toNat 128 with hc | hc
  · rw [utf8EncodeChar_of_ascii hc, List.mem_singleton] at h
    have hnat := congrArg UInt8.toNat h
    rw [toNat_toUInt8 ha, toNat_toUInt8 hc] at hnat
    exact Char.ext (UInt32.toNat_inj.1 hnat.symm)
  · have hle := le_of_mem_utf8EncodeChar hc _ h
    rw [toNat_toUInt8 ha] at hle
    exact absurd ha (Nat.not_lt.2 hle)

theorem mem_bytes_iff {a : Char} (ha : a.toNat < 128) {text : String} :
    a.toUInt8 ∈ bytes text ↔ a ∈ text.toList := by
  rw [bytes_eq_flatMap, List.mem_flatMap]
  constructor
  · rintro ⟨c, hc, hmem⟩
    exact eq_of_mem_utf8EncodeChar ha hmem ▸ hc
  · intro h
    exact ⟨a, h, by simp [utf8EncodeChar_of_ascii ha]⟩

theorem getLast?_bytes_iff {a : Char} (ha : a.toNat < 128) {text : String} :
    (bytes text).getLast? = some a.toUInt8 ↔ text.toList.getLast? = some a := by
  rw [bytes_eq_flatMap]
  rcases List.eq_nil_or_concat text.toList with hnil | ⟨cs, c, hlast⟩
  · simp [hnil]
  · have hends : (text.toList.flatMap String.utf8EncodeChar).getLast? =
        (String.utf8EncodeChar c).getLast? := by
      rw [hlast, List.concat_eq_append, List.flatMap_append, List.flatMap_singleton,
        List.getLast?_append_of_ne_nil _ String.utf8EncodeChar_ne_nil]
    have hchar : text.toList.getLast? = some c := by simp [hlast]
    rw [hends, hchar, Option.some.injEq]
    refine ⟨fun h => eq_of_mem_utf8EncodeChar ha (List.mem_of_getLast? h), ?_⟩
    rintro rfl
    rw [utf8EncodeChar_of_ascii ha, List.getLast?_singleton]

/-! ## Lines -/

/-- A line without a carriage return at its end. -/
def dropReturn (line : List Char) : List Char :=
  if line.getLast? = some '\r' then line.dropLast else line

theorem dropReturn_cons {c : Char} {line : List Char} (h : line ≠ [] ∨ c ≠ '\r') :
    dropReturn (c :: line) = c :: dropReturn line := by
  cases line with
  | nil => simp_all [dropReturn]
  | cons d line =>
    simp only [dropReturn, List.getLast?_cons_cons, List.dropLast_cons_cons]
    split <;> rfl

theorem utf8Length_dropReturn (line : List Char) :
    utf8Length (dropReturn line) + (if line.getLast? = some '\r' then 1 else 0) =
      utf8Length line := by
  unfold dropReturn
  split
  · rename_i h
    conv_rhs => rw [← List.dropLast_append_getLast? '\r' h]
    simp
    decide
  · rfl

theorem lines_append {line : List Char} (h : '\n' ∉ line) (rest : List Char) :
    lines (line ++ '\n' :: rest) = dropReturn line :: lines rest := by
  induction line with
  | nil => simp [lines, dropReturn]
  | cons c line ih =>
    obtain ⟨hc, hline⟩ := not_or.1 (mt List.mem_cons.2 h)
    by_cases hreturn : line = [] ∧ c = '\r'
    · obtain ⟨rfl, rfl⟩ := hreturn
      simp [lines, dropReturn]
    · rw [dropReturn_cons (by tauto), List.cons_append, lines, ih hline]
      · rintro more rfl heq
        cases line with
        | nil => exact hreturn ⟨rfl, rfl⟩
        | cons d line =>
          rw [List.cons_append, List.cons.injEq] at heq
          exact hline (heq.1 ▸ List.mem_cons_self)
      · rintro rfl
        exact hc rfl

/-- Induction over the lines of a text. -/
@[elab_as_elim]
theorem line_induction {motive : String → Prop} (last : ∀ line, '\n' ∉ line.toList → motive line)
    (line : ∀ line rest, '\n' ∉ line.toList → motive rest → motive (line ++ "\n" ++ rest))
    (text : String) : motive text := by
  induction hn : text.length using Nat.strong_induction_on generalizing text with
  | _ n ih =>
    by_cases h : '\n' ∈ text.toList
    · obtain ⟨front, rest, htext, hfront⟩ := List.eq_append_cons_of_mem h
      have hsplit : text = String.ofList front ++ "\n" ++ String.ofList rest := by
        rw [← String.toList_inj]
        simp [htext]
      have hlength := congrArg List.length htext
      rw [String.length_toList, List.length_append, List.length_cons] at hlength
      rw [hsplit]
      refine line _ _ (by simpa using hfront) (ih _ ?_ _ rfl)
      rw [String.length_ofList]
      omega
    · exact last text h

end NumberRules.Text
