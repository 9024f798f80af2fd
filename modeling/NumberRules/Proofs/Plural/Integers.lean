import Mathlib
import NumberRules.Proofs.Double.Floor
import NumberRules.Proofs.Double.Order
import NumberRules.Proofs.Except
import NumberRules.Proofs.Numeral.Written
import NumberRules.Proofs.Plural.Used

/-! # Integers classified

For an integer the operands `n` and `i` are the integer and all others are zero.  The conditions are
then decided by arithmetic on natural numbers, in which a remainder by zero has no value: a relation
on it is false, and its negation true.  Doubles decide them in the same way, after the integer and
the numbers of the conditions have each been rounded once.  So the classification is exact when all
of these are doubles, and in particular up to `2 ^ 53`.
-/

namespace NumberRules.Plural
set_option autoImplicit false

/-! ## Natural numbers -/

/-- The value of an operand for the integer `k`, where `read` says how numbers are read. -/
def operandWhole (read : Nat → Nat) (k : Nat) : Operand → Nat
  | .n | .i => read k
  | .v | .w | .f | .t | .e | .c => 0

/-- The value of an expression for the integer `k`; none if a remainder by zero occurs in it. -/
def Expr.whole? (read : Nat → Nat) (k : Nat) : Expr → Option Nat
  | literal value => some (read value.toNat)
  | operand o => some (operandWhole read k o)
  | mod lhs rhs =>
    match lhs.whole? read k, rhs.whole? read k with
    | some a, some b => if b = 0 then none else some (a % b)
    | _, _ => none

def RangeItem.containsWhole (read : Nat → Nat) (a : Nat) : RangeItem → Bool
  | value n => a = read n.toNat
  | range low high => read low.toNat ≤ a && a ≤ read high.toNat

/-- Whether both sides have values and these are equal. -/
def equalWhole (a b : Option Nat) : Bool :=
  match a, b with
  | some a, some b => a = b
  | _, _ => false

/-- Whether a condition holds for the integer `k`.  A natural number is whole, so there is one way of
looking it up in a range list. -/
def Condition.holdsWhole (read : Nat → Nat) (k : Nat) : Condition → Bool
  | is negated lhs rhs => negated ^^ equalWhole (lhs.whole? read k) (rhs.whole? read k)
  | member _ negated subject items =>
    negated ^^ (subject.whole? read k).any fun a => items.any (·.containsWhole read a)
  | and lhs rhs => lhs.holdsWhole read k && rhs.holdsWhole read k
  | or lhs rhs => lhs.holdsWhole read k || rhs.holdsWhole read k
  | not inner => !inner.holdsWhole read k

/-- The category of the first rule whose condition holds for the integer `k`. -/
def Rules.selectWhole (read : Nat → Nat) (rs : Rules) (k : Nat) : String :=
  match rs.rules.find? (·.condition.holdsWhole read k) with
  | some rule => rule.category
  | none => other

/-! ## Operands of an integer -/

/-- The operands of the text of the integer `k`. -/
def wholeOperands (k : Nat) : Operands := .ofNumeral ⟨⟨Digits.ofNat k, []⟩, 0⟩ .full

/-- The double for a natural number, and NaN for none. -/
def doubleOf : Option Nat → Double
  | some a => .ofNat a
  | none => .nan

variable {k : Nat}

theorem get_wholeOperands (hk : k ≤ 2 ^ 64) (o : Operand) :
    (wholeOperands k).get o = some (.ofNat (operandWhole Double.nearestWhole k o)) := by
  have hround := Double.ofNat_eq_ofNat_nearestWhole hk
  have hdecimal : (⟨Digits.ofNat k, []⟩ : Decimal).toDouble = .ofNat k := by
    rw [Decimal.toDouble, Decimal.scaled, List.append_nil, Digits.value_ofNat]
    rfl
  rw [wholeOperands, Operands.get_ofNumeral_full]
  cases o with
  | n => rw [Numeral.operand, hdecimal, hround]; rfl
  | i => rw [Numeral.operand, Digits.value_ofNat, hround]; rfl
  | v => rfl
  | w => rfl
  | f => rfl
  | t => rfl
  | e => rfl
  | c => rfl

theorem fits_operandWhole (hk : k ≤ 2 ^ 64) (o : Operand) :
    Double.Fits (operandWhole Double.nearestWhole k o) := by
  cases o with
  | n => exact Double.fits_nearestWhole hk
  | i => exact Double.fits_nearestWhole hk
  | v => exact Double.fits_zero
  | w => exact Double.fits_zero
  | f => exact Double.fits_zero
  | t => exact Double.fits_zero
  | e => exact Double.fits_zero
  | c => exact Double.fits_zero

theorem toNat_le (n : UInt64) : n.toNat ≤ 2 ^ 64 := n.toNat_lt.le

/-! ## Conditions on doubles -/

theorem Expr.fits_of_whole? (hk : k ≤ 2 ^ 64) {e : Expr} {a : Nat}
    (h : e.whole? Double.nearestWhole k = some a) : Double.Fits a := by
  induction e generalizing a with
  | literal value =>
    rw [whole?, Option.some.injEq] at h
    exact h ▸ Double.fits_nearestWhole (toNat_le value)
  | operand o =>
    rw [whole?, Option.some.injEq] at h
    exact h ▸ fits_operandWhole hk o
  | mod lhs rhs ihl ihr =>
    rw [whole?] at h
    split at h
    · rename_i b c hb hc
      split at h
      · cases h
      · rename_i hne
        rw [Option.some.injEq] at h
        exact h ▸ (ihl hb).mod (ihr hc) (Nat.pos_of_ne_zero hne)
    · cases h

/-- The double that an expression denotes is that of its natural number, NaN if there is none. -/
theorem Expr.value?_wholeOperands (hk : k ≤ 2 ^ 64) (e : Expr) :
    e.value? (wholeOperands k) = some (doubleOf (e.whole? Double.nearestWhole k)) := by
  induction e with
  | literal value =>
    rw [value?, whole?, doubleOf, Double.ofNat_eq_ofNat_nearestWhole (toNat_le value)]
  | operand o => exact get_wholeOperands hk o
  | mod lhs rhs ihl ihr =>
    rw [value?, whole?, ihl, ihr]
    -- NaN arises from a zero on the right, and is passed on from either side.
    cases hl : lhs.whole? Double.nearestWhole k with
    | none => simp only [doubleOf, Double.rem_nan_left]
    | some a =>
      cases hr : rhs.whole? Double.nearestWhole k with
      | none => simp only [doubleOf, Double.rem_nan_right]
      | some b =>
        by_cases hb : b = 0
        · simp only [hb, if_true, doubleOf, Double.rem_zero]
        · have hrem := Double.rem_of_fits (fits_of_whole? hk hl) (fits_of_whole? hk hr)
            (Nat.pos_of_ne_zero hb)
          simp only [if_neg hb, doubleOf, hrem]

theorem equal_doubleOf {a b : Option Nat} (ha : ∀ x, a = some x → Double.Fits x)
    (hb : ∀ x, b = some x → Double.Fits x) :
    Condition.equal (some (doubleOf a)) (some (doubleOf b)) = equalWhole a b := by
  cases a with
  | none => rfl
  | some a =>
    cases b with
    | none => simp only [doubleOf, Condition.equal, equalWhole, Double.eq_nan_right]
    | some b =>
      simp only [doubleOf, Condition.equal, equalWhole, Double.eq_of_fits (ha a rfl) (hb b rfl)]

theorem RangeItem.contains_ofNat {a : Nat} (ha : Double.Fits a) (item : RangeItem) :
    item.contains (.ofNat a) = item.containsWhole Double.nearestWhole a := by
  cases item with
  | value n =>
    rw [contains, containsWhole, Double.ofNat_eq_ofNat_nearestWhole (toNat_le n)]
    exact Double.eq_of_fits ha (Double.fits_nearestWhole (toNat_le n))
  | range low high =>
    rw [contains, containsWhole, Double.ofNat_eq_ofNat_nearestWhole (toNat_le low),
      Double.ofNat_eq_ofNat_nearestWhole (toNat_le high),
      Double.le_of_fits (Double.fits_nearestWhole (toNat_le low)) ha,
      Double.le_of_fits ha (Double.fits_nearestWhole (toNat_le high))]

theorem RangeItem.contains_nan (item : RangeItem) : item.contains .nan = false := by
  cases item with
  | value n => rfl
  | range low high => rw [contains, Double.le_nan_right, Bool.false_and]

theorem Membership.holds_doubleOf {a : Option Nat} (ha : ∀ x, a = some x → Double.Fits x)
    (membership : Membership) (items : List RangeItem) :
    membership.holds items (doubleOf a) =
      a.any fun a => items.any (·.containsWhole Double.nearestWhole a) := by
  cases a with
  | none =>
    have hany : items.any (·.contains .nan) = false := by
      simp [RangeItem.contains_nan]
    cases membership with
    | whole => rfl
    | within => exact hany
  | some a =>
    have hfits := ha a rfl
    have hany : items.any (·.contains (.ofNat a)) =
        items.any (·.containsWhole Double.nearestWhole a) := by
      simp only [RangeItem.contains_ofNat hfits]
    cases membership with
    | whole => rw [holds, doubleOf, hfits.isWhole, Bool.true_and, hany, Option.any_some]
    | within => exact hany

theorem Condition.holds_wholeOperands (hk : k ≤ 2 ^ 64) (c : Condition) :
    c.holds (wholeOperands k) = c.holdsWhole Double.nearestWhole k := by
  induction c with
  | is negated lhs rhs =>
    rw [holds, holdsWhole, lhs.value?_wholeOperands hk, rhs.value?_wholeOperands hk,
      equal_doubleOf (fun _ => Expr.fits_of_whole? hk) fun _ => Expr.fits_of_whole? hk]
  | member membership negated subject items =>
    rw [holds, holdsWhole, subject.value?_wholeOperands hk, Option.any_some,
      Membership.holds_doubleOf fun _ => Expr.fits_of_whole? hk]
  | and lhs rhs ihl ihr => rw [holds, holdsWhole, ihl, ihr]
  | or lhs rhs ihl ihr => rw [holds, holdsWhole, ihl, ihr]
  | not inner ih => rw [holds, holdsWhole, ih]

/-! ## Rule sets -/

namespace Rules

variable (rs : Rules)

theorem selectOperands_wholeOperands (hk : k ≤ 2 ^ 64) :
    rs.selectOperands (wholeOperands k) = rs.selectWhole Double.nearestWhole k := by
  have hsame : ∀ rule ∈ rs.rules, rule.condition.holds (wholeOperands k) =
      rule.condition.holdsWhole Double.nearestWhole k :=
    fun rule _ => rule.condition.holds_wholeOperands hk
  rw [selectOperands, List.find?_congr hsame]
  rfl

theorem select_ofInt (k : Nat) :
    rs.select (.ofInt k) = .ok (rs.selectOperands (wholeOperands k)) := by
  have hnumeral : (Input.ofInt k).numeral = some (intText k) := rfl
  have hagree := Operands.ofNumeral_agreeOn_full ⟨⟨Digits.ofNat k, []⟩, 0⟩ rs.used
  rw [select_of_numeral hnumeral, Operands.ofText_intText, Int.natAbs_natCast]
  exact congrArg Except.ok (selectOperands_eq_of_agreeOn hagree)

end Rules

/-! ## Exact classification -/

/-- The numbers in a condition: literals, single values and ends of ranges. -/
def Expr.numbers : Expr → List UInt64
  | literal value => [value]
  | operand _ => []
  | mod lhs rhs => lhs.numbers ++ rhs.numbers

def RangeItem.numbers : RangeItem → List UInt64
  | value n => [n]
  | range low high => [low, high]

def Condition.numbers : Condition → List UInt64
  | is _ lhs rhs => lhs.numbers ++ rhs.numbers
  | member _ _ subject items => subject.numbers ++ items.flatMap RangeItem.numbers
  | and lhs rhs => lhs.numbers ++ rhs.numbers
  | or lhs rhs => lhs.numbers ++ rhs.numbers
  | not inner => inner.numbers

def Rules.numbers (rs : Rules) : List UInt64 := rs.rules.flatMap (·.condition.numbers)

section

variable {read read' : Nat → Nat} (hk : read k = read' k)
include hk

theorem Expr.whole?_congr {e : Expr} (h : ∀ n ∈ e.numbers, read n.toNat = read' n.toNat) :
    e.whole? read k = e.whole? read' k := by
  induction e with
  | literal value => rw [whole?, whole?, h value List.mem_cons_self]
  | operand o => cases o <;> simp only [whole?, operandWhole, hk]
  | mod lhs rhs ihl ihr =>
    rw [whole?, whole?, ihl fun n hn => h n (List.mem_append_left _ hn),
      ihr fun n hn => h n (List.mem_append_right _ hn)]

omit hk in
theorem RangeItem.containsWhole_congr {item : RangeItem} (a : Nat)
    (h : ∀ n ∈ item.numbers, read n.toNat = read' n.toNat) :
    item.containsWhole read a = item.containsWhole read' a := by
  cases item with
  | value n => rw [containsWhole, containsWhole, h n List.mem_cons_self]
  | range low high =>
    rw [containsWhole, containsWhole, h low List.mem_cons_self,
      h high (List.mem_cons_of_mem low List.mem_cons_self)]

theorem Condition.holdsWhole_congr {c : Condition}
    (h : ∀ n ∈ c.numbers, read n.toNat = read' n.toNat) :
    c.holdsWhole read k = c.holdsWhole read' k := by
  induction c with
  | is negated lhs rhs =>
    rw [holdsWhole, holdsWhole, Expr.whole?_congr hk fun n hn => h n (List.mem_append_left _ hn),
      Expr.whole?_congr hk fun n hn => h n (List.mem_append_right _ hn)]
  | member membership negated subject items =>
    have hitems (a : Nat) :
        items.any (·.containsWhole read a) = items.any (·.containsWhole read' a) := by
      rw [Bool.eq_iff_iff, List.any_eq_true, List.any_eq_true]
      refine exists_congr fun item => and_congr_right fun hitem => ?_
      rw [item.containsWhole_congr a fun n hn => h n (List.mem_append_right _ ?_)]
      exact List.mem_flatMap.2 ⟨item, hitem, hn⟩
    rw [holdsWhole, holdsWhole, Expr.whole?_congr hk fun n hn => h n (List.mem_append_left _ hn)]
    simp only [hitems]
  | and lhs rhs ihl ihr =>
    rw [holdsWhole, holdsWhole, ihl fun n hn => h n (List.mem_append_left _ hn),
      ihr fun n hn => h n (List.mem_append_right _ hn)]
  | or lhs rhs ihl ihr =>
    rw [holdsWhole, holdsWhole, ihl fun n hn => h n (List.mem_append_left _ hn),
      ihr fun n hn => h n (List.mem_append_right _ hn)]
  | not inner ih => rw [holdsWhole, holdsWhole, ih h]

theorem Rules.selectWhole_congr {rs : Rules} (h : ∀ n ∈ rs.numbers, read n.toNat = read' n.toNat) :
    rs.selectWhole read k = rs.selectWhole read' k := by
  have hsame : ∀ rule ∈ rs.rules,
      rule.condition.holdsWhole read k = rule.condition.holdsWhole read' k := by
    intro rule hrule
    refine Condition.holdsWhole_congr hk fun n hn => h n ?_
    exact List.mem_flatMap.2 ⟨rule, hrule, hn⟩
  rw [selectWhole, selectWhole, List.find?_congr hsame]

end

/-- A word of 64 bits gets the category of the first rule whose condition holds for it by arithmetic
on natural numbers, after the word and the numbers of the conditions have each been rounded to the
nearest double, of two such to the one with the even significand.  If this changes none of them, and
so if none is above `2 ^ 53`, the classification is exact. -/
theorem Rules.select_ofInt_eq_selectWhole (rs : Rules) (k : UInt64) :
    rs.select (.ofInt k.toNat) = .ok (rs.selectWhole Double.nearestWhole k.toNat) ∧
    (∀ n ∈ k :: rs.numbers, Double.Nearest n.toNat (Double.nearestWhole n.toNat)) ∧
    ((∀ n ∈ k :: rs.numbers, Double.nearestWhole n.toNat = n.toNat) →
      rs.select (.ofInt k.toNat) = .ok (rs.selectWhole id k.toNat)) ∧
    ((∀ n ∈ k :: rs.numbers, n.toNat ≤ 2 ^ 53) →
      rs.select (.ofInt k.toNat) = .ok (rs.selectWhole id k.toNat)) := by
  have hrounded : rs.select (.ofInt k.toNat) =
      .ok (rs.selectWhole Double.nearestWhole k.toNat) := by
    rw [rs.select_ofInt, rs.selectOperands_wholeOperands (toNat_le k)]
  have hexact : (∀ n ∈ k :: rs.numbers, Double.nearestWhole n.toNat = n.toNat) →
      rs.select (.ofInt k.toNat) = .ok (rs.selectWhole id k.toNat) := by
    intro h
    rw [List.forall_mem_cons] at h
    have hid : Double.nearestWhole k.toNat = id k.toNat := h.1
    rw [hrounded, Rules.selectWhole_congr hid h.2]
  exact ⟨hrounded, fun n _ => Double.nearest_nearestWhole n.toNat, hexact,
    fun h => hexact fun n hn => Double.nearestWhole_eq (h n hn)⟩

/-- Odd numbers, and numbers with a remainder by zero. -/
def oddRules : Rules where
  rules := [⟨"odd", .member .whole false (.mod (.operand .n) (.literal 2)) [.value 1]⟩,
    ⟨"none", .member .whole true (.mod (.operand .i) (.operand .v)) [.range 0 9]⟩]
  classes := ["odd", "none", other]

theorem compile_oddRules :
    Rules.compile [("odd", "n % 2 = 1"), ("none", "i % v != 0..9")] = .ok oddRules := by
  have hcompile : (Rules.compile
      [("odd", "n % 2 = 1"), ("none", "i % v != 0..9")]).toOption = some oddRules := by
    decide +kernel
  exact toOption_eq_some_iff.1 hcompile

/-- The first odd number beyond `2 ^ 53` is rounded to an even one. -/
theorem selectWhole_nearestWhole_oddRules :
    oddRules.selectWhole Double.nearestWhole (9007199254740993 : UInt64).toNat = "none" := by
  decide +kernel

/-- Seven is classified exactly, and the first odd number beyond `2 ^ 53` as an even one. -/
theorem select_oddRules :
    (∀ n ∈ 7 :: oddRules.numbers, n.toNat ≤ 2 ^ 53) ∧
    oddRules.select (.ofInt (7 : UInt64).toNat) = .ok "odd" ∧
    oddRules.select (.ofInt (9007199254740993 : UInt64).toNat) = .ok "none" := by
  have hnumbers : ∀ n ∈ 7 :: oddRules.numbers, n.toNat ≤ 2 ^ 53 := by
    rw [show oddRules.numbers = [2, 1, 0, 9] from rfl]
    simp
  have hseven : oddRules.selectWhole id (7 : UInt64).toNat = "odd" := by decide +kernel
  obtain ⟨-, -, -, hsmall⟩ := Rules.select_ofInt_eq_selectWhole oddRules 7
  obtain ⟨hlarge, -⟩ := Rules.select_ofInt_eq_selectWhole oddRules 9007199254740993
  refine ⟨hnumbers, ?_, ?_⟩
  · rw [hsmall hnumbers, hseven]
  · rw [hlarge, selectWhole_nearestWhole_oddRules]

/-- Exact arithmetic would classify that number as odd. -/
theorem select_ne_selectWhole_oddRules :
    Rules.compile [("odd", "n % 2 = 1"), ("none", "i % v != 0..9")] = .ok oddRules ∧
    oddRules.selectWhole id (9007199254740993 : UInt64).toNat = "odd" ∧
    oddRules.select (.ofInt (9007199254740993 : UInt64).toNat) = .ok "none" := by
  refine ⟨compile_oddRules, by decide +kernel, ?_⟩
  rw [Rules.select_ofInt, Rules.selectOperands_wholeOperands oddRules (toNat_le _),
    selectWhole_nearestWhole_oddRules]

end NumberRules.Plural
