/-! # Sets of characters

A `Charset` is a set of characters as inclusive ranges of code points, in ascending order and
without neighbours that touch each other, so that every set is written in one way.
`Charset.contains` says which characters are in it.
-/

namespace NumberRules.Regex
set_option autoImplicit false

structure Charset where
  ranges : List (Nat × Nat)
  deriving DecidableEq

namespace Charset

def contains (a : Charset) (c : Char) : Bool :=
  a.ranges.any fun r => r.1 ≤ c.toNat && c.toNat ≤ r.2

/-! ## Single ranges -/

def none : Charset := ⟨[]⟩

def range (first last : Char) : Charset := ⟨[(first.toNat, last.toNat)]⟩

def single (c : Char) : Charset := range c c

def single? (a : Charset) : Option Char :=
  match a.ranges with
  | [(first, last)] => if first = last then some (Char.ofNat first) else Option.none
  | _ => Option.none

/-! ## Operations -/

/-- A range and ascending ones after it, with those that touch made one. -/
def join (r : Nat × Nat) : List (Nat × Nat) → List (Nat × Nat)
  | [] => [r]
  | s :: rest =>
    if s.1 ≤ r.2 + 1 then join (r.1, max r.2 s.2) rest else r :: join s rest

def ofRanges (ranges : List (Nat × Nat)) : Charset :=
  match ranges.mergeSort fun r s => r.1 ≤ s.1 with
  | [] => none
  | r :: rest => ⟨join r rest⟩

def union (a b : Charset) : Charset := ofRanges (a.ranges ++ b.ranges)

def inter (a b : Charset) : Charset :=
  ⟨a.ranges.flatMap fun r => b.ranges.filterMap fun s =>
    if max r.1 s.1 ≤ min r.2 s.2 then some (max r.1 s.1, min r.2 s.2) else Option.none⟩

def lastPoint : Nat := 0x10FFFF

/-- The code point after one; surrogates are left out. -/
def after (n : Nat) : Nat := if n = 0xD7FF then 0xE000 else n + 1

/-- The code point before one; surrogates are left out. -/
def before (n : Nat) : Nat := if n = 0xE000 then 0xD7FF else n - 1

/-- The ranges from a code point on that ascending ranges leave free. -/
def gaps (first : Nat) : List (Nat × Nat) → List (Nat × Nat)
  | [] => if first ≤ lastPoint then [(first, lastPoint)] else []
  | r :: rest =>
    (if first < r.1 then [(first, before r.1)] else []) ++ gaps (after r.2) rest

def complement (a : Charset) : Charset := ⟨gaps 0 a.ranges⟩

/-- The characters of the first set that are not of the second. -/
def diff (a b : Charset) : Charset := inter a (complement b)

def symmDiff (a b : Charset) : Charset := diff (union a b) (inter a b)

/-- The part of a set between two letters of one case, with all letters moved to the other case. -/
def moved (a : Charset) (first last : Char) (move : Nat → Nat) : Charset :=
  ⟨(a.inter (range first last)).ranges.map fun r => (move r.1, move r.2)⟩

/-- The characters of a set, its ASCII letters in either case. -/
def folded (a : Charset) : Charset :=
  union a (union (a.moved 'a' 'z' (· - 32)) (a.moved 'A' 'Z' (· + 32)))

/-- The set, or its complement. -/
def negateIf (negated : Bool) (a : Charset) : Charset := if negated then complement a else a

/-- The set, or the set with its letters in either case. -/
def foldIf (anyCase : Bool) (a : Charset) : Charset := if anyCase then folded a else a

def all : Charset := complement none

def isAscii (a : Charset) : Bool := a.ranges.all (·.2 < 0x80)

/-! ## ASCII classes -/

/-- The set of the characters from first to last characters. -/
def ofEnds (ends : List (Char × Char)) : Charset :=
  ofRanges (ends.map fun r => (r.1.toNat, r.2.toNat))

def digit : Charset := range '0' '9'

def word : Charset := ofEnds [('0', '9'), ('A', 'Z'), ('_', '_'), ('a', 'z')]

def blank : Charset := ofEnds [('\t', '\r'), (' ', ' ')]

def classes : List (String × Charset) :=
  [("alnum", ofEnds [('0', '9'), ('A', 'Z'), ('a', 'z')]),
   ("alpha", ofEnds [('A', 'Z'), ('a', 'z')]), ("ascii", range '\x00' '\x7f'),
   ("blank", ofEnds [('\t', '\t'), (' ', ' ')]),
   ("cntrl", ofEnds [('\x00', '\x1f'), ('\x7f', '\x7f')]), ("digit", digit),
   ("graph", range '!' '~'), ("lower", range 'a' 'z'), ("print", range ' ' '~'),
   ("punct", ofEnds [('!', '/'), (':', '@'), ('[', '\x60'), ('\x7b', '~')]),
   ("space", blank), ("upper", range 'A' 'Z'), ("word", word),
   ("xdigit", ofEnds [('0', '9'), ('A', 'F'), ('a', 'f')])]

end Charset

end NumberRules.Regex
