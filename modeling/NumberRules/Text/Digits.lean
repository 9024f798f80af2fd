/-! # Decimal digits

A run of decimal digits is a list over `Digit`, most significant first.  `value` reads such a run
as a natural number, `ofNat` writes a natural number without leading zeros, and `padded` writes it
in a given number of places.  `ofChars?` and `toChars` connect runs of digits with text.
-/

namespace NumberRules
set_option autoImplicit false

abbrev Digit := Fin 10

-- Without a name of its own, every module would find this fact for its numerals anew.
instance Digit.neZero : @NeZero Nat Zero.ofOfNat0 10 := ⟨by decide⟩

namespace Digit

def toChar (d : Digit) : Char := Char.ofNat ('0'.toNat + d.val)

def ofChar? (c : Char) : Option Digit :=
  if h : '0'.toNat ≤ c.toNat ∧ c.toNat ≤ '9'.toNat then
    some ⟨c.toNat - '0'.toNat, by
      have h9 : '9'.toNat = 57 := rfl
      have h0 : '0'.toNat = 48 := rfl
      omega⟩
  else none

end Digit

namespace Digits

/-- The number a run of digits denotes; the empty run denotes zero. -/
def value (ds : List Digit) : Nat := ds.foldl (fun n d => 10 * n + d.val) 0

/-- The digits of `n` without leading zeros, in front of `ds`. -/
def prepend (n : Nat) (ds : List Digit) : List Digit :=
  if n < 10 then Fin.ofNat 10 n :: ds else prepend (n / 10) (Fin.ofNat 10 n :: ds)
termination_by n

/-- The digits of `n`, without leading zeros; zero is written as one digit. -/
def ofNat (n : Nat) : List Digit := prepend n []

/-- The `places` lowest digits of `n`, in front of `ds`. -/
def prependPadded : Nat → Nat → List Digit → List Digit
  | 0, _, ds => ds
  | places + 1, n, ds => prependPadded places (n / 10) (Fin.ofNat 10 n :: ds)

/-- The `places` lowest digits of `n`, with leading zeros. -/
def padded (places n : Nat) : List Digit := prependPadded places n []

/-- `ds` without its leading zeros. -/
def dropLeadingZeros (ds : List Digit) : List Digit := ds.dropWhile (· = 0)

/-- `ds` without its trailing zeros. -/
def dropTrailingZeros (ds : List Digit) : List Digit := (dropLeadingZeros ds.reverse).reverse

/-! ## Digits as text -/

/-- The digits a text consists of, if it holds ASCII digits only. -/
def ofChars? (cs : List Char) : Option (List Digit) := cs.mapM Digit.ofChar?

def toChars (ds : List Digit) : List Char := ds.map Digit.toChar

/-- The longest leading run of ASCII digits of `cs`, and what follows it. -/
def takeLeading : List Char → List Digit × List Char
  | [] => ([], [])
  | c :: rest =>
    match Digit.ofChar? c with
    | some d => ((d :: (takeLeading rest).1), (takeLeading rest).2)
    | none => ([], c :: rest)

theorem length_takeLeading_le (cs : List Char) : (takeLeading cs).2.length ≤ cs.length := by
  induction cs with
  | nil => exact Nat.le_refl _
  | cons c rest ih =>
    unfold takeLeading
    split
    · exact Nat.le_succ_of_le ih
    · exact Nat.le_refl _

end Digits

/-- The decimal text of a natural number, without leading zeros. -/
def natText (n : Nat) : String := String.ofList (Digits.toChars (Digits.ofNat n))

/-- The decimal text of an integer: a minus sign for negative ones, then the magnitude. -/
def intText (z : Int) : String := (if z < 0 then "-" else "") ++ natText z.natAbs

end NumberRules
