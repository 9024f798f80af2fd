import NumberRules.Double.Text

/-! # Decimal patterns

A pattern such as `#,##0.0#` says how a number is written with digits: the zeros before the first
point are the least number of integer digits, the last comma before it gives the size of digit
groups, and the zeros and number signs after it are the least and the further fraction places.
Every other character is ignored.

`plainText` writes a number by a pattern with `,` between groups and `.` before the fraction.
-/

namespace NumberRules.Spelling
set_option autoImplicit false

structure Pattern where
  minInteger : Nat
  /-- The size of digit groups, if digits are grouped. -/
  grouping : Option Nat
  minFraction : Nat
  maxFraction : Nat
  deriving DecidableEq

namespace Pattern

/-- The size of groups where a pattern gives none: no digits follow its last comma. -/
def defaultGrouping : Nat := 3

/-- The size of the groups that the integer part of a pattern asks for. -/
def groupingOf (integer : List Char) : Option Nat :=
  if integer.contains ',' then
    let size := (integer.reverse.takeWhile (· ≠ ',')).countP fun c => c = '#' || c = '0'
    some (if size = 0 then defaultGrouping else size)
  else none

def parse (text : String) : Pattern :=
  let integer := text.toList.takeWhile (· ≠ '.')
  let fraction := (text.toList.dropWhile (· ≠ '.')).drop 1
  { minInteger := integer.count '0'
    grouping := groupingOf integer
    minFraction := fraction.count '0'
    maxFraction := fraction.count '0' + fraction.count '#' }

/-! ## Digits by a pattern -/

/-- Integer digits with zeros in front up to the least number; if that is zero, leading zeros are
dropped. -/
def padInteger (minInteger : Nat) (ds : List Digit) : List Digit :=
  let ds := if minInteger = 0 then Digits.dropLeadingZeros ds else ds
  List.replicate (minInteger - ds.length) 0 ++ ds

/-- Fraction digits without trailing zeros, but with at least the given number of places. -/
def trimFraction (minFraction : Nat) (ds : List Digit) : List Digit :=
  ds.take minFraction ++ Digits.dropTrailingZeros (ds.drop minFraction)

/-- Text with a comma in front of every character after which a whole number of groups follows
up to the end, itself included. -/
def group (size : Nat) : List Char → List Char
  | [] => []
  | [c] => [c]
  | c :: d :: rest =>
    if (rest.length + 1) % size = 0 then c :: ',' :: group size (d :: rest)
    else c :: group size (d :: rest)

def groupedChars (grouping : Option Nat) (ds : List Digit) : List Char :=
  match grouping with
  | some size => group size (Digits.toChars ds)
  | none => Digits.toChars ds

def layOut (p : Pattern) (d : Decimal) : List Char :=
  let fraction := trimFraction p.minFraction d.fraction
  groupedChars p.grouping (padInteger p.minInteger d.integer) ++
    (if fraction.isEmpty then [] else '.' :: Digits.toChars fraction)

end Pattern

/-- A number written by a pattern: rounded to the places that the pattern allows, with a minus sign
if it is below zero. -/
def plainText (x : Double) (pattern : String) : String :=
  match x with
  | .nan => "NaN"
  | .inf negative => if negative then "-∞" else "∞"
  | .finite negative units _ =>
    let p := Pattern.parse pattern
    String.ofList ((if negative && units ≠ 0 then ['-'] else []) ++
      p.layOut (Double.fixed p.maxFraction units))

end NumberRules.Spelling
