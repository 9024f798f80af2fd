import NumberRules.Text.Blank
import NumberRules.Error

/-! # Keys of spelling rules

A rule is registered under a base value: the least number it applies to, or one of six special
keys.  A numeric key may carry a radix after a slash.  `BaseValue.place` gives the order in which a
rule set lists its rules: special keys first, then numbers from the highest down.
-/

namespace NumberRules.Spelling
set_option autoImplicit false

/-! ## Base values -/

inductive BaseValue where
  /-- Numbers from this one up to the next numeric rule. -/
  | number (n : UInt64)
  /-- `-x`: numbers below zero. -/
  | negative
  /-- `x.x`: numbers with a fraction. -/
  | improper
  /-- `0.x`: numbers between zero and one. -/
  | proper
  /-- `x.0`: numbers with a fraction, before every other rule. -/
  | master
  /-- `Inf`: positive infinity. -/
  | infinity
  /-- `NaN`: not a number. -/
  | nan
  deriving DecidableEq, Hashable

namespace BaseValue

def special : List BaseValue := [negative, improper, proper, master, infinity, nan]

def text : BaseValue → String
  | number n => natText n.toNat
  | negative => "-x"
  | improper => "x.x"
  | proper => "0.x"
  | master => "x.0"
  | infinity => "Inf"
  | nan => "NaN"

/-- Whether the substitutions of a rule work on the integer and the fraction of a number. -/
def isFraction : BaseValue → Bool
  | improper | proper | master => true
  | _ => false

def isConstant : BaseValue → Bool
  | infinity | nan => true
  | _ => false

/-- The place of a base value in listings. -/
def place : BaseValue → Nat
  | negative => 0
  | improper => 1
  | proper => 2
  | master => 3
  | infinity => 4
  | nan => 5
  | number n => 5 + (UInt64.size - n.toNat)

/-- The number in a text of digits, in which commas may group them. -/
def numberOfChars? (cs : List Char) : Option BaseValue := do
  let digits ← Digits.ofChars? (cs.filter (· ≠ ','))
  if digits.isEmpty then none
  else if Digits.value digits < UInt64.size then some (number (UInt64.ofNat (Digits.value digits)))
  else none

/-- The base value a key denotes, blanks around it allowed. -/
def ofChars? (cs : List Char) : Option BaseValue :=
  let key := Text.trim cs
  match special.find? (·.text.toList = key) with
  | some base => some base
  | none => numberOfChars? key

def parse (key : String) : Except CompileError BaseValue :=
  match ofChars? key.toList with
  | some base => .ok base
  | none => .error (.invalidBaseValue key)

end BaseValue

/-! ## Keys with a radix -/

/-- A base value and the radix that its divisor is a power of. -/
structure Key where
  base : BaseValue
  radix : UInt32
  deriving DecidableEq

namespace Key

/-- The radix of a key that does not name one. -/
def defaultRadix : UInt32 := 10

/-- A radix in a text: digits, perhaps after a plus sign. -/
def radixOfChars? (cs : List Char) : Option UInt32 := do
  let digits ← Digits.ofChars? (match cs with | '+' :: rest => rest | cs => cs)
  if digits.isEmpty then none
  else if Digits.value digits < UInt32.size then some (UInt32.ofNat (Digits.value digits))
  else none

/-- The key in a text.  The radix stands after the first slash and is read first. -/
def parse (key : String) : Except CompileError Key :=
  match key.toList.dropWhile (· ≠ '/') with
  | [] => do
    let base ← BaseValue.parse key
    .ok ⟨base, defaultRadix⟩
  | _ :: radixText =>
    match radixOfChars? (Text.trim radixText) with
    | none => .error (.invalidBaseValue key)
    | some radix => do
      let base ← BaseValue.parse (String.ofList (key.toList.takeWhile (· ≠ '/')))
      .ok ⟨base, radix⟩

end Key

end NumberRules.Spelling
