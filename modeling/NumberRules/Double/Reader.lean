import NumberRules.Double.Text

/-! # Reading doubles

A number is an optional sign and either a word (`inf`, `infinity` or `nan`, in any case) or a
decimal with an optional exponent: digits with at most one point among them and at least one digit,
then perhaps `e` or `E`, an optional sign and at least one digit.  Nothing else is allowed, blanks
included.
-/

namespace NumberRules.Double
set_option autoImplicit false

/-- The sign at the front of a text and the text after it. -/
def splitSign : List Char → Bool × List Char
  | '-' :: rest => (true, rest)
  | '+' :: rest => (false, rest)
  | cs => (false, cs)

/-- The exponent that follows a mantissa: zero if nothing follows it. -/
def exponentAfter? : List Char → Option Int
  | [] => some 0
  | c :: rest =>
    if c = 'e' || c = 'E' then
      let (negative, cs) := splitSign rest
      match Digits.takeLeading cs with
      | ([], _) => none
      | (ds, []) => some (if negative then -(Digits.value ds : Int) else Digits.value ds)
      | _ => none
    else none

/-- The digits after a point at the front of a text, if there is one, and what follows. -/
def fractionAfter : List Char → List Digit × List Char
  | '.' :: rest => Digits.takeLeading rest
  | cs => ([], cs)

/-- The double nearest to an unsigned decimal with an optional exponent, with a given sign. -/
def ofDecimal? (negative : Bool) (cs : List Char) : Option Double :=
  let (integer, rest) := Digits.takeLeading cs
  let (fraction, rest) := fractionAfter rest
  if integer.isEmpty && fraction.isEmpty then none
  else
    (exponentAfter? rest).map fun exponent =>
      ofScientific negative (Digits.value (integer ++ fraction)) (exponent - fraction.length)

def ofText? (text : String) : Option Double :=
  let (negative, cs) := splitSign text.toList
  let word := String.ofList (cs.map Char.toLower)
  if word = "nan" then some .nan
  else if word = "inf" || word = "infinity" then some (.inf negative)
  else ofDecimal? negative cs

end NumberRules.Double
