import Mathlib
import NumberRules.Numeral
import NumberRules.Proofs.Text.Blank
import NumberRules.Proofs.Text.Digits

/-! # The layout of numerals

A `Layout` is a numeral as it is written: blanks, a sign, digits with at most one point among them,
an exponent and blanks.  `Numeral.ofChars?` reads exactly the texts that have a layout, and what it
reads is what the layout says.
-/

namespace NumberRules
set_option autoImplicit false

/-! ## Signs -/

inductive Sign where
  | absent
  /-- `+` -/
  | plus
  /-- `-` -/
  | minus
  deriving DecidableEq

namespace Sign

def chars : Sign → List Char
  | absent => []
  | plus => ['+']
  | minus => ['-']

/-- A number with a sign in front of it. -/
def apply (s : Sign) (n : Nat) : Int := if s = minus then -n else n

/-- A text does not begin with a sign. -/
def Free (cs : List Char) : Prop := ∀ c ∈ cs.head?, c ≠ '-' ∧ c ≠ '+'

theorem dropSign_append (s : Sign) {cs : List Char} (h : Free cs) :
    dropSign (s.chars ++ cs) = cs := by
  cases s with
  | absent =>
    cases cs with
    | nil => rfl
    | cons c cs =>
      obtain ⟨hminus, hplus⟩ := h c (Option.mem_some_self _)
      rw [chars, List.nil_append]
      unfold dropSign
      split
      · rename_i heq
        exact absurd (List.cons.inj heq).1 hminus
      · rename_i heq
        exact absurd (List.cons.inj heq).1 hplus
      · rfl
  | plus => rfl
  | minus => rfl

/-- Whatever `dropSign` drops is a sign. -/
theorem exists_dropSign (cs : List Char) :
    ∃ s : Sign, cs = s.chars ++ dropSign cs ∧ (cs.head? = some '-' ↔ s = minus) := by
  unfold dropSign
  split
  · exact ⟨minus, rfl, by simp⟩
  · exact ⟨plus, rfl, by simp⟩
  · rename_i hminus hplus
    refine ⟨absent, rfl, ?_⟩
    constructor
    · intro hhead
      obtain ⟨rest, hrest⟩ := List.head?_eq_some_iff.1 hhead
      exact absurd hrest (hminus rest)
    · intro h
      simp at h

theorem head?_append_eq_minus (s : Sign) {cs : List Char} (h : Free cs) :
    (s.chars ++ cs).head? = some '-' ↔ s = minus := by
  cases s with
  | absent =>
    constructor
    · intro hhead
      exact absurd rfl (h '-' hhead).1
    · intro hs
      simp at hs
  | plus => simp [chars]
  | minus => simp [chars]

theorem free_append {cs : List Char} (hne : cs ≠ []) (h : ∀ c ∈ cs, c ≠ '-' ∧ c ≠ '+')
    (rest : List Char) : Free (cs ++ rest) := by
  obtain ⟨d, ds, rfl⟩ := List.exists_cons_of_ne_nil hne
  intro c hc
  rw [List.cons_append, List.head?_cons, Option.mem_some_iff] at hc
  exact hc ▸ h d List.mem_cons_self

theorem free_toChars {ds : List Digit} (hne : ds ≠ []) : Free (Digits.toChars ds) := by
  have hfree := free_append (Digits.toChars_ne_nil hne) (fun c hc =>
    ⟨Digits.ne_of_mem_toChars hc (by decide), Digits.ne_of_mem_toChars hc (by decide)⟩) []
  rwa [List.append_nil] at hfree

theorem solid_chars (s : Sign) : Text.Solid s.chars := by
  cases s with
  | absent => exact fun c hc => absurd hc List.not_mem_nil
  | plus =>
    intro c hc
    rw [List.mem_singleton.1 hc]
    decide
  | minus =>
    intro c hc
    rw [List.mem_singleton.1 hc]
    decide

end Sign

/-! ## Exponents -/

structure Exponent where
  mark : Char
  isMark : mark ∈ ['e', 'E', 'c', 'C']
  sign : Sign
  digits : List Digit
  digits_ne : digits ≠ []

namespace Exponent

def chars (x : Exponent) : List Char := x.mark :: (x.sign.chars ++ Digits.toChars x.digits)

def value (x : Exponent) : Int := x.sign.apply (Digits.value x.digits)

end Exponent

namespace Numeral

theorem isExponentMark_iff {c : Char} : isExponentMark c = true ↔ c ∈ ['e', 'E', 'c', 'C'] := by
  simp [isExponentMark, or_assoc]

theorem exponentOfChars?_append (s : Sign) {ds : List Digit} (hne : ds ≠ []) :
    exponentOfChars? (s.chars ++ Digits.toChars ds) = some (s.apply (Digits.value ds)) := by
  have hfree := Sign.free_toChars hne
  have hempty : ds.isEmpty = false := by simpa using hne
  simp only [exponentOfChars?, s.dropSign_append hfree, Digits.ofChars?_toChars,
    Option.bind_eq_bind, Option.bind_some, hempty, Bool.false_eq_true, if_false,
    s.head?_append_eq_minus hfree]
  rfl

theorem exists_of_exponentOfChars? {cs : List Char} {e : Int} (h : exponentOfChars? cs = some e) :
    ∃ (s : Sign) (ds : List Digit), ds ≠ [] ∧ cs = s.chars ++ Digits.toChars ds ∧
      e = s.apply (Digits.value ds) := by
  simp only [exponentOfChars?, Option.bind_eq_bind, Option.bind_eq_some_iff] at h
  obtain ⟨ds, hds, h⟩ := h
  obtain ⟨s, hsplit, hminus⟩ := Sign.exists_dropSign cs
  rw [Digits.ofChars?_eq_some_iff] at hds
  split at h
  · simp at h
  · rename_i hempty
    refine ⟨s, ds, by simpa using hempty, ?_, ?_⟩
    · rw [← hds]
      exact hsplit
    · simp only [hminus, Option.some.injEq] at h
      exact h.symm

/-- The text of an exponent that may be missing. -/
def exponentChars : Option Exponent → List Char
  | none => []
  | some x => x.chars

/-- The value of an exponent that may be missing. -/
def exponentValue : Option Exponent → Int
  | none => 0
  | some x => x.value

theorem exponentAfter?_exponentChars {x : Option Exponent}
    (h : (exponentValue x).natAbs ≤ exponentLimit) :
    exponentAfter? (exponentChars x) = some (exponentValue x) := by
  cases x with
  | none => rfl
  | some x =>
    have hread : exponentOfChars? (x.sign.chars ++ Digits.toChars x.digits) = some x.value :=
      exponentOfChars?_append x.sign x.digits_ne
    simp only [exponentValue] at h
    simp only [exponentChars, Exponent.chars, exponentAfter?, hread, Option.bind_eq_bind,
      Option.bind_some, if_pos h, exponentValue]

/-- What follows the mantissa and is read as an exponent is the text of one. -/
theorem exists_of_exponentAfter? {cs : List Char} {e : Int}
    (hmark : ∀ c ∈ cs.head?, isExponentMark c = true) (h : exponentAfter? cs = some e) :
    ∃ x : Option Exponent, cs = exponentChars x ∧ e = exponentValue x ∧
      (exponentValue x).natAbs ≤ exponentLimit := by
  cases cs with
  | nil =>
    refine ⟨none, rfl, ?_, Nat.zero_le _⟩
    exact (Option.some.inj h).symm
  | cons c cs =>
    simp only [exponentAfter?, Option.bind_eq_bind, Option.bind_eq_some_iff] at h
    obtain ⟨read, hread, h⟩ := h
    obtain ⟨s, ds, hne, hcs, hvalue⟩ := exists_of_exponentOfChars? hread
    split at h
    · rename_i hlimit
      have hletter := isExponentMark_iff.1 (hmark c (Option.mem_some_self _))
      refine ⟨some ⟨c, hletter, s, ds, hne⟩, ?_, ?_, ?_⟩
      · rw [hcs]
        rfl
      · rw [← Option.some.inj h]
        exact hvalue
      · rw [hvalue] at hlimit
        exact hlimit
    · simp at h

end Numeral

/-! ## Mantissas -/

/-- The digits of a numeral as written. -/
structure Mantissa where
  integer : List Digit
  /-- The digits after the point, if there is a point. -/
  fraction : Option (List Digit)
  digits_ne : integer ++ fraction.getD [] ≠ []

namespace Mantissa

/-- A point with digits after it, if there is one. -/
def pointChars : Option (List Digit) → List Char
  | none => []
  | some ds => '.' :: Digits.toChars ds

def chars (m : Mantissa) : List Char := Digits.toChars m.integer ++ pointChars m.fraction

def decimal (m : Mantissa) : Decimal := ⟨m.integer, m.fraction.getD []⟩

/-- A mantissa consists of digits and points. -/
theorem mem_chars {m : Mantissa} {c : Char} (h : c ∈ m.chars) :
    c = '.' ∨ ∃ d : Digit, c = d.toChar := by
  rcases List.mem_append.1 h with hdigit | hpoint
  · exact .inr (Digits.mem_toChars hdigit)
  · cases hfraction : m.fraction with
    | none =>
      rw [hfraction] at hpoint
      exact absurd hpoint List.not_mem_nil
    | some ds =>
      rw [hfraction] at hpoint
      rcases List.mem_cons.1 hpoint with hdot | hdigit
      · exact .inl hdot
      · exact .inr (Digits.mem_toChars hdigit)

theorem chars_ne_nil (m : Mantissa) : m.chars ≠ [] := by
  intro hnil
  obtain ⟨hinteger, hpoint⟩ := List.append_eq_nil_iff.1 hnil
  refine m.digits_ne ?_
  cases hfraction : m.fraction with
  | none =>
    rw [Option.getD_none, List.append_nil]
    exact List.map_eq_nil_iff.1 hinteger
  | some ds =>
    rw [hfraction] at hpoint
    simp [pointChars] at hpoint

theorem free_chars_append (m : Mantissa) (cs : List Char) : Sign.Free (m.chars ++ cs) := by
  refine Sign.free_append m.chars_ne_nil (fun c hc => ?_) cs
  rcases mem_chars hc with rfl | ⟨digit, rfl⟩
  · decide
  · exact ⟨digit.toChar_ne (by decide), digit.toChar_ne (by decide)⟩

theorem not_isExponentMark {m : Mantissa} {c : Char} (h : c ∈ m.chars) :
    (!Numeral.isExponentMark c) = true := by
  have hplain : ∀ d : Digit, (!Numeral.isExponentMark d.toChar) = true := by decide
  rcases mem_chars h with rfl | ⟨digit, rfl⟩
  · decide
  · exact hplain digit

theorem solid_chars (m : Mantissa) : Text.Solid m.chars := by
  intro c hc
  rcases mem_chars hc with rfl | ⟨digit, rfl⟩
  · decide
  · exact Text.isBlank_toChar digit

end Mantissa

namespace Decimal

theorem ofChars?_chars (m : Mantissa) : ofChars? m.chars = some m.decimal := by
  have hdot : ∀ c ∈ Digits.toChars m.integer, decide (c ≠ '.') = true := by
    intro c hc
    exact decide_eq_true (Digits.ne_of_mem_toChars hc (by decide))
  have hstop : ∀ c ∈ (Mantissa.pointChars m.fraction).head?, decide (c ≠ '.') = false := by
    cases m.fraction <;> simp [Mantissa.pointChars]
  have htake : m.chars.takeWhile (fun c => decide (c ≠ '.')) = Digits.toChars m.integer :=
    Text.takeWhile_append_stop hdot hstop
  have hdrop : (m.chars.dropWhile (fun c => decide (c ≠ '.'))).drop 1 =
      Digits.toChars (m.fraction.getD []) := by
    rw [Mantissa.chars, Text.dropWhile_append_stop hdot hstop]
    cases m.fraction <;> rfl
  have hempty : (m.integer.isEmpty && (m.fraction.getD []).isEmpty) = false := by
    simpa using m.digits_ne
  rw [ofChars?, htake, hdrop]
  simp only [Digits.ofChars?_toChars, Option.bind_eq_bind, Option.bind_some, hempty,
    Bool.false_eq_true, if_false]
  rfl

/-- What is read as a decimal is the text of a mantissa. -/
theorem exists_of_ofChars? {cs : List Char} {d : Decimal} (h : ofChars? cs = some d) :
    ∃ m : Mantissa, cs = m.chars ∧ d = m.decimal := by
  simp only [ofChars?, Option.bind_eq_bind, Option.bind_eq_some_iff] at h
  obtain ⟨integer, hinteger, fraction, hfraction, h⟩ := h
  rw [Digits.ofChars?_eq_some_iff] at hinteger hfraction
  split at h
  · simp at h
  · rename_i hempty
    have hne : integer ++ fraction ≠ [] := by simpa using hempty
    have hsplit : integer.map Digit.toChar ++ cs.dropWhile (fun c => decide (c ≠ '.')) = cs := by
      rw [show integer.map Digit.toChar = Digits.toChars integer from rfl, ← hinteger]
      exact List.takeWhile_append_dropWhile
    cases hrest : cs.dropWhile (fun c => decide (c ≠ '.')) with
    | nil =>
      rw [hrest] at hfraction hsplit
      obtain rfl : fraction = [] := List.map_eq_nil_iff.1 hfraction.symm
      refine ⟨⟨integer, none, hne⟩, hsplit.symm, ?_⟩
      rw [← Option.some.inj h]
      rfl
    | cons c rest =>
      have hc : c = '.' := by
        have hhead := List.head?_dropWhile_not (fun c => decide (c ≠ '.')) cs
        rw [hrest] at hhead
        simpa using hhead
      rw [hrest, hc] at hsplit
      rw [hrest, List.drop_one, List.tail_cons] at hfraction
      refine ⟨⟨integer, some fraction, hne⟩, ?_, ?_⟩
      · rw [← hsplit, hfraction]
        rfl
      · rw [← Option.some.inj h]
        rfl

end Decimal

/-! ## Numerals -/

structure Layout where
  before : List Char
  sign : Sign
  mantissa : Mantissa
  exponent : Option Exponent
  after : List Char
  before_blank : Text.Blank before
  exponent_le : (Numeral.exponentValue exponent).natAbs ≤ 1024
  after_blank : Text.Blank after

namespace Layout

/-- The text of a numeral without the blanks around it. -/
def core (t : Layout) : List Char :=
  t.sign.chars ++ (t.mantissa.chars ++ Numeral.exponentChars t.exponent)

def chars (t : Layout) : List Char := t.before ++ (t.core ++ t.after)

/-- The written exponent, zero if there is none. -/
def exponentValue (t : Layout) : Int := Numeral.exponentValue t.exponent

/-- The numeral that a layout describes. -/
def numeral (t : Layout) : Numeral := ⟨t.mantissa.decimal.shift t.exponentValue, t.exponentValue⟩

/-- The same numeral with another sign. -/
def withSign (t : Layout) (s : Sign) : Layout := { t with sign := s }

@[simp] theorem numeral_withSign (t : Layout) (s : Sign) : (t.withSign s).numeral = t.numeral := rfl

theorem core_ne_nil (t : Layout) : t.core ≠ [] := by
  simp [core, t.mantissa.chars_ne_nil]

theorem isBlank_exponentMark {c : Char} (h : c ∈ ['e', 'E', 'c', 'C']) :
    Text.isBlank c = false := by
  simp only [List.mem_cons, List.not_mem_nil, or_false] at h
  rcases h with rfl | rfl | rfl | rfl <;> decide

theorem solid_exponentChars (x : Option Exponent) : Text.Solid (Numeral.exponentChars x) := by
  cases x with
  | none => exact fun c hc => absurd hc List.not_mem_nil
  | some x =>
    refine Text.solid_cons (isBlank_exponentMark x.isMark) ?_
    exact Text.solid_append x.sign.solid_chars (Text.solid_toChars x.digits)

theorem solid_core (t : Layout) : Text.Solid t.core :=
  Text.solid_append t.sign.solid_chars
    (Text.solid_append t.mantissa.solid_chars (solid_exponentChars t.exponent))

theorem trim_chars (t : Layout) : Text.trim t.chars = t.core :=
  Text.trim_append t.before_blank t.solid_core t.core_ne_nil t.after_blank

end Layout

namespace Numeral

theorem head?_exponentChars (x : Option Exponent) :
    ∀ c ∈ (exponentChars x).head?, (!isExponentMark c) = false := by
  cases x with
  | none => simp [exponentChars]
  | some x => simp [exponentChars, Exponent.chars, isExponentMark_iff.2 x.isMark]

theorem takeWhile_mark (m : Mantissa) (x : Option Exponent) :
    (m.chars ++ exponentChars x).takeWhile (fun c => !isExponentMark c) = m.chars :=
  Text.takeWhile_append_stop (fun _ hc => m.not_isExponentMark hc) (head?_exponentChars x)

theorem dropWhile_mark (m : Mantissa) (x : Option Exponent) :
    (m.chars ++ exponentChars x).dropWhile (fun c => !isExponentMark c) = exponentChars x :=
  Text.dropWhile_append_stop (fun _ hc => m.not_isExponentMark hc) (head?_exponentChars x)

/-- A text with a layout is read as the layout says. -/
theorem ofChars?_chars (t : Layout) : ofChars? t.chars = some t.numeral := by
  have hunsigned : dropSign t.core = t.mantissa.chars ++ exponentChars t.exponent :=
    t.sign.dropSign_append (t.mantissa.free_chars_append _)
  rw [ofChars?, t.trim_chars]
  simp only [hunsigned, takeWhile_mark, dropWhile_mark, exponentAfter?_exponentChars t.exponent_le,
    Decimal.ofChars?_chars, Option.bind_eq_bind, Option.bind_some]
  rfl

/-- A text that is read has a layout. -/
theorem exists_layout {cs : List Char} {x : Numeral} (h : ofChars? cs = some x) :
    ∃ t : Layout, cs = t.chars := by
  simp only [ofChars?, Option.bind_eq_bind, Option.bind_eq_some_iff] at h
  obtain ⟨e, he, d, hd, -⟩ := h
  obtain ⟨before, after, hbefore, hafter, hcs⟩ := Text.exists_trim cs
  obtain ⟨s, hsign, -⟩ := Sign.exists_dropSign (Text.trim cs)
  obtain ⟨m, hm, -⟩ := Decimal.exists_of_ofChars? hd
  have hmark : ∀ c ∈ ((dropSign (Text.trim cs)).dropWhile (fun c => !isExponentMark c)).head?,
      isExponentMark c = true := by
    intro c hc
    have hhead := List.head?_dropWhile_not (fun c => !isExponentMark c) (dropSign (Text.trim cs))
    rw [Option.mem_def.1 hc] at hhead
    simpa using hhead
  obtain ⟨exponent, hexponent, -, hlimit⟩ := exists_of_exponentAfter? hmark he
  refine ⟨⟨before, s, m, exponent, after, hbefore, hlimit, hafter⟩, ?_⟩
  have hunsigned : dropSign (Text.trim cs) = m.chars ++ exponentChars exponent := by
    rw [← hm, ← hexponent]
    exact List.takeWhile_append_dropWhile.symm
  rw [Layout.chars, Layout.core, ← hunsigned, ← hsign]
  exact hcs

end Numeral

end NumberRules
