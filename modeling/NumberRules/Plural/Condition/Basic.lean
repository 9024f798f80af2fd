import NumberRules.Numeral

/-! # Plural conditions

A condition is a Boolean combination of relations on operands.  `Condition.holds` gives its truth
for a table of operand values, `Condition.operands` the operands it reads.  A relation on an
absent operand is false, and so is the relation under a negated one, which is then true.
-/

namespace NumberRules.Plural
set_option autoImplicit false

/-! ## Expressions -/

inductive Expr where
  | literal (value : UInt64)
  | operand (o : Operand)
  /-- What is left of the first expression after division by the second. -/
  | mod (lhs rhs : Expr)
  deriving DecidableEq

namespace Expr

/-- The value of an expression, if all its operands have values. -/
def value? (os : Operands) : Expr → Option Double
  | literal value => some (.ofNat value.toNat)
  | operand o => os.get o
  | mod lhs rhs =>
    match lhs.value? os, rhs.value? os with
    | some x, some y => some (x.rem y)
    | _, _ => none

def operands : Expr → OperandSet
  | literal _ => .empty
  | operand o => .singleton o
  | mod lhs rhs => lhs.operands ∪ rhs.operands

end Expr

/-! ## Lists of values and ranges -/

inductive RangeItem where
  | value (n : UInt64)
  /-- Everything from the first value to the second, both included. -/
  | range (low high : UInt64)
  deriving DecidableEq

/-- Whether a number equals the value or lies in the range. -/
def RangeItem.contains (x : Double) : RangeItem → Bool
  | value n => x.eq (.ofNat n.toNat)
  | range low high => (Double.ofNat low.toNat).le x && x.le (.ofNat high.toNat)

/-! ## Conditions -/

/-- How a number is looked up in a range list. -/
inductive Membership where
  | whole
  | within
  deriving DecidableEq

/-- Whether a number is a member of a range list. -/
def Membership.holds (membership : Membership) (items : List RangeItem) (x : Double) : Bool :=
  match membership with
  | whole => x.isWhole && items.any (·.contains x)
  | within => items.any (·.contains x)

inductive Condition where
  /-- Equality of two expressions, possibly negated. -/
  | is (negated : Bool) (lhs rhs : Expr)
  /-- Membership of an expression in a range list, possibly negated. -/
  | member (membership : Membership) (negated : Bool) (subject : Expr) (items : List RangeItem)
  | and (lhs rhs : Condition)
  | or (lhs rhs : Condition)
  | not (inner : Condition)
  deriving DecidableEq

namespace Condition

/-- Whether both sides have values and these are equal. -/
def equal (x y : Option Double) : Bool :=
  match x, y with
  | some a, some b => a.eq b
  | _, _ => false

/-- Whether a condition holds for the given operand values. -/
def holds (os : Operands) : Condition → Bool
  | is negated lhs rhs => negated ^^ equal (lhs.value? os) (rhs.value? os)
  | member membership negated subject items =>
    negated ^^ (subject.value? os).any (membership.holds items)
  | and lhs rhs => lhs.holds os && rhs.holds os
  | or lhs rhs => lhs.holds os || rhs.holds os
  | not inner => !inner.holds os

def operands : Condition → OperandSet
  | is _ lhs rhs => lhs.operands ∪ rhs.operands
  | member _ _ subject _ => subject.operands
  | and lhs rhs => lhs.operands ∪ rhs.operands
  | or lhs rhs => lhs.operands ∪ rhs.operands
  | not inner => inner.operands

end Condition

end NumberRules.Plural
