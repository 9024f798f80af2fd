/-! # Plural operands

The eight quantities a plural condition may test, and sets of them.  An `OperandSet` is its
membership function; two sets are equal when they have the same members.  Listings of a set follow
the order of `Operand.all`.
-/

namespace NumberRules
set_option autoImplicit false

inductive Operand where
  /-- The absolute value of the number. -/
  | n
  /-- Its integer digits. -/
  | i
  /-- The count of visible fraction digits, with trailing zeros. -/
  | v
  /-- The count of visible fraction digits, without trailing zeros. -/
  | w
  /-- The visible fraction digits as an integer, with trailing zeros. -/
  | f
  /-- The visible fraction digits as an integer, without trailing zeros. -/
  | t
  /-- The decimal exponent. -/
  | e
  /-- The compact decimal exponent, which always equals `e`. -/
  | c
  deriving DecidableEq

namespace Operand

/-- Every operand, in the order of listings. -/
def all : List Operand := [n, i, v, w, f, t, e, c]

theorem mem_all (o : Operand) : o ∈ all := by
  cases o <;> decide

def letter : Operand → Char
  | n => 'n'
  | i => 'i'
  | v => 'v'
  | w => 'w'
  | f => 'f'
  | t => 't'
  | e => 'e'
  | c => 'c'

def ofLetter? (x : Char) : Option Operand := all.find? (·.letter = x)

theorem ofLetter?_letter (o : Operand) : ofLetter? o.letter = some o := by
  cases o <;> decide

end Operand

@[ext] structure OperandSet where
  /-- Membership. -/
  contains : Operand → Bool

namespace OperandSet

def empty : OperandSet := ⟨fun _ => false⟩

def full : OperandSet := ⟨fun _ => true⟩

def singleton (o : Operand) : OperandSet := ⟨fun x => x = o⟩

def union (a b : OperandSet) : OperandSet := ⟨fun o => a.contains o || b.contains o⟩

instance : Union OperandSet := ⟨union⟩

def ofList (os : List Operand) : OperandSet := ⟨fun o => os.contains o⟩

/-- The members in the order of `Operand.all`. -/
def toList (s : OperandSet) : List Operand := Operand.all.filter s.contains

def size (s : OperandSet) : Nat := s.toList.length

def isEmpty (s : OperandSet) : Bool := s.toList.isEmpty

instance : DecidableEq OperandSet := fun a b =>
  if h : ∀ o ∈ Operand.all, a.contains o = b.contains o then
    isTrue (OperandSet.ext (funext fun o => h o (Operand.mem_all o)))
  else isFalse fun hab => h fun _ _ => by rw [hab]

/-- The letters of the members, joined by commas. -/
def text (s : OperandSet) : String :=
  ",".intercalate (s.toList.map (·.letter.toString))

def bracedText (s : OperandSet) : String :=
  "\x7b" ++ ", ".intercalate (s.toList.map (·.letter.toUpper.toString)) ++ "\x7d"

end OperandSet

end NumberRules
