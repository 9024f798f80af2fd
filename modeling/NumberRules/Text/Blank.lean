import NumberRules.Text.Range

/-! # Blank characters

`isBlank` is Unicode's `White_Space` property, given by its ranges.  On top of it stand the three
ways in which this library skips blanks: dropping them at the ends of a text (`trim`), taking the
maximal runs without them (`words`), and writing those runs with one space between (`collapse`).
-/

namespace NumberRules.Text
set_option autoImplicit false

/-- The inclusive ranges of the `White_Space` property, in ascending order. -/
def blankRanges : List (Nat × Nat) :=
  [(0x09, 0x0D), (0x20, 0x20), (0x85, 0x85), (0xA0, 0xA0), (0x1680, 0x1680), (0x2000, 0x200A),
   (0x2028, 0x2029), (0x202F, 0x202F), (0x205F, 0x205F), (0x3000, 0x3000)]

/-- Whether `c` has the `White_Space` property. -/
def isBlank (c : Char) : Bool := inRanges blankRanges c

/-- The blanks that separate parts of a plural selector: space, tab, line feed, form feed and
carriage return. -/
def isSpacing (c : Char) : Bool :=
  c = ' ' || c = '\t' || c = '\n' || c = '\x0c' || c = '\r'

/-! ## Trimming -/

/-- `cs` without its leading blanks. -/
def trimStart (cs : List Char) : List Char := cs.dropWhile isBlank

/-- `cs` without its leading and trailing blanks. -/
def trim (cs : List Char) : List Char := (trimStart (trimStart cs).reverse).reverse

/-! ## Words -/

/-- The stretches of `cs` between blanks, empty ones included. -/
def stretches (cs : List Char) : List (List Char) :=
  cs.foldr
    (fun c parts =>
      if isBlank c then [] :: parts
      else match parts with
        | [] => [[c]]
        | part :: rest => (c :: part) :: rest)
    [[]]

/-- The maximal runs of `cs` without blanks, in order. -/
def words (cs : List Char) : List (List Char) := (stretches cs).filter (!·.isEmpty)

/-- The words of `cs` with one space between neighbours. -/
def collapse (cs : List Char) : List Char := [' '].intercalate (words cs)

end NumberRules.Text
