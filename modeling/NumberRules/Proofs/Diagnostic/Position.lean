import Mathlib
import NumberRules.Diagnostic
import NumberRules.Proofs.Text.Lines

/-! # Labels of rules files

The label of a rules file is put where the lines before it, each with one byte for its end, and the
column say.  A line end of two bytes therefore moves every later label one byte to the front: the
label misses a position by as many bytes as line ends with a carriage return are before it.
-/

namespace NumberRules.Diagnostic
set_option autoImplicit false

open Text (bytes dropReturn utf8Length)

/-! ## Lines and columns -/

/-- The line of a byte position; lines are counted from one. -/
def lineAt (text : String) (p : Nat) : Nat := 1 + ((bytes text).take p).count 10

/-- The column of a byte position, which is the number of the byte in its line. -/
def columnAt (text : String) (p : Nat) : Nat :=
  1 + (((bytes text).take p).rtakeWhile (· ≠ 10)).length

/-- The number of line ends that are made of two bytes. -/
def returns : List UInt8 → Nat
  | [] => 0
  | b :: rest => returns rest + if b = 13 ∧ rest.head? = some 10 then 1 else 0

theorem returns_eq_zero_iff {bs : List UInt8} : returns bs = 0 ↔ ¬[13, 10] <:+: bs := by
  induction bs with
  | nil => simp [returns]
  | cons b rest ih =>
    have hhead : [13, 10] <+: b :: rest ↔ b = 13 ∧ rest.head? = some 10 := by
      cases rest with
      | nil => simp
      | cons c rest => simp [eq_comm]
    rw [returns, List.infix_cons_iff, hhead, not_or, ← ih, Nat.add_eq_zero_iff]
    split <;> simp_all

theorem returns_of_not_mem {bs : List UInt8} (h : 10 ∉ bs) : returns bs = 0 := by
  rw [returns_eq_zero_iff]
  exact fun hoccurs => h (hoccurs.subset (by simp))

theorem returns_append_feed {bs : List UInt8} (h : 10 ∉ bs) (cs : List UInt8) :
    returns (bs ++ 10 :: cs) = returns cs + if bs.getLast? = some 13 then 1 else 0 := by
  induction bs with
  | nil => simp [returns]
  | cons b bs ih =>
    obtain ⟨-, hbs⟩ := not_or.1 (mt List.mem_cons.2 h)
    rw [List.cons_append, returns, ih hbs]
    cases bs with
    | nil => simp
    | cons d bs =>
      have hd : d ≠ 10 := fun heq => hbs (heq ▸ List.mem_cons_self)
      simp [hd]

theorem rtakeWhile_append_feed (bs cs : List UInt8) :
    (bs ++ 10 :: cs).rtakeWhile (· ≠ 10) = cs.rtakeWhile (· ≠ 10) := by
  induction cs using List.reverseRecOn with
  | nil => exact List.rtakeWhile_concat_neg _ _ _ (by decide)
  | append_singleton cs c ih =>
    rw [← List.cons_append, ← List.append_assoc, List.rtakeWhile_concat, List.rtakeWhile_concat, ih]

/-! ## Lines of a text -/

theorem offsetOf_eq_sum (content : String) (row column : Nat) :
    offsetOf content row column = column - 1 +
      (((Text.lines content.toList).take (row - 1)).map fun l => utf8Length l + 1).sum := by
  rw [offsetOf]
  generalize column - 1 = n
  induction (Text.lines content.toList).take (row - 1) generalizing n with
  | nil => rfl
  | cons l ls ih =>
    rw [List.foldl_cons, ih, List.map_cons, List.sum_cons]
    omega

theorem lineAt_pos (text : String) (p : Nat) : 0 < lineAt text p := by
  rw [lineAt]
  omega

section

variable {line : String} (hline : '\n' ∉ line.toList)

include hline

theorem feed_not_mem_bytes : 10 ∉ bytes line := fun h =>
  hline ((Text.mem_bytes_iff (a := '\n') (by decide)).1 h)

theorem place_in_first_line {p : Nat} (hp : p ≤ line.utf8ByteSize) (tail : String) :
    lineAt (line ++ tail) p = 1 ∧ columnAt (line ++ tail) p = p + 1 ∧
      returns ((bytes (line ++ tail)).take p) = 0 := by
  rw [← Text.length_bytes] at hp
  have hfront : (bytes (line ++ tail)).take p = (bytes line).take p := by
    rw [Text.bytes_append, List.take_append_of_le_length hp]
  have hfeed : 10 ∉ (bytes line).take p := mt List.mem_of_mem_take (feed_not_mem_bytes hline)
  have hcolumn : ((bytes line).take p).rtakeWhile (· ≠ 10) = (bytes line).take p :=
    List.rtakeWhile_eq_self_iff.2 fun b hb => decide_eq_true (ne_of_mem_of_not_mem hb hfeed)
  refine ⟨?_, ?_, ?_⟩
  · rw [lineAt, hfront, List.count_eq_zero_of_not_mem hfeed]
  · rw [columnAt, hfront, hcolumn, List.length_take_of_le hp, Nat.add_comm]
  · rw [hfront, returns_of_not_mem hfeed]

theorem place_behind_first_line (rest : String) (q : Nat) :
    lineAt (line ++ "\n" ++ rest) (line.utf8ByteSize + 1 + q) = lineAt rest q + 1 ∧
      columnAt (line ++ "\n" ++ rest) (line.utf8ByteSize + 1 + q) = columnAt rest q ∧
      returns ((bytes (line ++ "\n" ++ rest)).take (line.utf8ByteSize + 1 + q)) =
        returns ((bytes rest).take q) + if line.toList.getLast? = some '\r' then 1 else 0 := by
  have hfeed := feed_not_mem_bytes hline
  have hfront : (bytes (line ++ "\n" ++ rest)).take (line.utf8ByteSize + 1 + q) =
      bytes line ++ 10 :: (bytes rest).take q := by
    have hbytes : bytes "\n" = [10] := rfl
    rw [Text.bytes_append, Text.bytes_append, hbytes, List.append_assoc, Nat.add_assoc,
      ← Text.length_bytes, List.take_length_add_append, Nat.add_comm, List.singleton_append,
      List.take_succ_cons]
  have hreturn : (bytes line).getLast? = some 13 ↔ line.toList.getLast? = some '\r' :=
    Text.getLast?_bytes_iff (a := '\r') (by decide)
  refine ⟨?_, ?_, ?_⟩
  · rw [lineAt, lineAt, hfront, List.count_append, List.count_eq_zero_of_not_mem hfeed,
      List.count_cons_self, Nat.zero_add, Nat.add_assoc]
  · rw [columnAt, columnAt, hfront, rtakeWhile_append_feed]
  · rw [hfront, returns_append_feed hfeed]
    simp only [hreturn]

theorem offsetOf_append (rest : String) {row : Nat} (hrow : 0 < row) (column : Nat) :
    offsetOf (line ++ "\n" ++ rest) (row + 1) column =
      utf8Length (dropReturn line.toList) + 1 + offsetOf rest row column := by
  have htext : (line ++ "\n" ++ rest).toList = line.toList ++ '\n' :: rest.toList := by simp
  obtain ⟨n, rfl⟩ := Nat.exists_eq_add_of_lt hrow
  rw [offsetOf_eq_sum, offsetOf_eq_sum, htext, Text.lines_append hline]
  simp only [Nat.add_sub_cancel, List.take_succ_cons, List.map_cons, List.sum_cons]
  omega

end

/-! ## Labels -/

theorem offsetOf_add_returns (content : String) {p : Nat} (hp : p ≤ content.utf8ByteSize) :
    offsetOf content (lineAt content p) (columnAt content p) +
      returns ((bytes content).take p) = p := by
  -- Line by line: the sum over the lines counts one byte for a line end, and the returns the other.
  induction content using Text.line_induction generalizing p with
  | last line hline =>
    obtain ⟨hrow, hcolumn, hreturns⟩ := place_in_first_line hline hp ""
    rw [String.append_empty] at hrow hcolumn hreturns
    rw [hrow, hcolumn, hreturns]
    simp [offsetOf]
  | line line rest hline ih =>
    by_cases hfirst : p ≤ line.utf8ByteSize
    · obtain ⟨hrow, hcolumn, hreturns⟩ := place_in_first_line hline hfirst ("\n" ++ rest)
      rw [← String.append_assoc] at hrow hcolumn hreturns
      rw [hrow, hcolumn, hreturns]
      simp [offsetOf]
    · obtain ⟨q, rfl⟩ := Nat.exists_eq_add_of_le (Nat.lt_of_not_le hfirst)
      have hq : q ≤ rest.utf8ByteSize := by
        have hfeed : "\n".utf8ByteSize = 1 := rfl
        rw [String.utf8ByteSize_append, String.utf8ByteSize_append, hfeed] at hp
        omega
      obtain ⟨hrow, hcolumn, hreturns⟩ := place_behind_first_line hline rest q
      have hlength := Text.utf8Length_dropReturn line.toList
      have hrest := ih hq
      rw [Text.utf8Length_toList] at hlength
      rw [hrow, hcolumn, hreturns, offsetOf_append hline rest (lineAt_pos rest q)]
      omega

/-- Of the line and column of a byte position, the label is put in front of that position by the
number of line ends of two bytes before it, hence at it exactly if there are none. -/
theorem offset_add_returns {content : String} {p : Nat} (hp : p ≤ content.utf8ByteSize)
    (path reason : String) :
    ∃ d, ofLoadError? (.invalid path (lineAt content p) (columnAt content p) reason content) =
        some d ∧
      d.text = content ∧ d.offset + returns ((bytes content).take p) = p ∧
      (d.offset = p ↔ ¬[13, 10] <:+: (bytes content).take p) := by
  have hsum := offsetOf_add_returns content hp
  have hclamp : min (offsetOf content (lineAt content p) (columnAt content p))
      content.utf8ByteSize = offsetOf content (lineAt content p) (columnAt content p) :=
    Nat.min_eq_left (by omega)
  refine ⟨_, rfl, rfl, ?_, ?_⟩
  · rw [hclamp, hsum]
  · rw [hclamp, ← returns_eq_zero_iff]
    dsimp only
    omega

/-- A letter of two bytes does no harm, two line ends of two bytes move the label. -/
theorem offset_add_returns_numbers :
    (lineAt "[\"é\",\n2 3]" 9 = 2 ∧ columnAt "[\"é\",\n2 3]" 9 = 3 ∧
      ∃ d, ofLoadError? (.invalid "p" 2 3 "m" "[\"é\",\n2 3]") = some d ∧ d.offset = 9) ∧
    lineAt "[1,\r\n\r\n2 3]" 7 = 3 ∧ columnAt "[1,\r\n\r\n2 3]" 7 = 1 ∧
      ∃ d, ofLoadError? (.invalid "p" 3 1 "m" "[1,\r\n\r\n2 3]") = some d ∧ d.offset = 5 := by
  have hletter : 9 ≤ "[\"é\",\n2 3]".utf8ByteSize := by decide
  have hbehind : 7 ≤ "[1,\r\n\r\n2 3]".utf8ByteSize := by decide
  have hreturns : returns ((bytes "[1,\r\n\r\n2 3]").take 7) = 2 := by decide
  obtain ⟨d, hd, -, -, hiff⟩ := offset_add_returns hletter "p" "m"
  obtain ⟨d', hd', -, hsum, -⟩ := offset_add_returns hbehind "p" "m"
  refine ⟨⟨by decide, by decide, d, hd, hiff.2 (by decide)⟩, by decide, by decide, d', hd', ?_⟩
  omega

/-- The end of a text that is one line end of two bytes is labelled inside that line end. -/
theorem offset_ne_of_return :
    2 ≤ "\r\n".utf8ByteSize ∧ lineAt "\r\n" 2 = 2 ∧ columnAt "\r\n" 2 = 1 ∧
      ∃ d, ofLoadError? (.invalid "p" 2 1 "m" "\r\n") = some d ∧ d.offset = 1 :=
  ⟨by decide, by decide, by decide, _, rfl, by decide⟩

end NumberRules.Diagnostic
