import NumberRules.Json.Basic
import NumberRules.Text.Bytes
import NumberRules.Text.Hexadecimal

/-! # Reading JSON

A reader returns a value and the text after it, or the text from the place on where it cannot go on.
Strings may hold any escaped surrogates; two that form a pair become one code point.  Numbers may
have any size.
-/

namespace NumberRules.Json
set_option autoImplicit false

/-- Reads an `α` off the front of a text. -/
abbrev Reader (α : Type) := List Char → Except (List Char) (α × List Char)

/-- Whether a character may stand between the parts of a value. -/
def isGap (c : Char) : Bool := c = ' ' || c = '\t' || c = '\n' || c = '\r'

def skipGap (cs : List Char) : List Char := cs.dropWhile isGap

/-! ## Strings -/

def hexQuad? (a b c d : Char) : Option Nat := do
  let a ← Text.hexDigit? a
  let b ← Text.hexDigit? b
  let c ← Text.hexDigit? c
  let d ← Text.hexDigit? d
  some (((a * 16 + b) * 16 + c) * 16 + d)

/-- The character that a single letter after a backslash stands for. -/
def escaped? (c : Char) : Option Char :=
  match c with
  | '"' => some '"'
  | '\\' => some '\\'
  | '/' => some '/'
  | 'b' => some '\x08'
  | 'f' => some '\x0c'
  | 'n' => some '\n'
  | 'r' => some '\r'
  | 't' => some '\t'
  | _ => none

/-- Whether a code point is the first half of a surrogate pair. -/
def isHigh (point : Nat) : Bool := 0xD800 ≤ point && point ≤ 0xDBFF

/-- Whether a code point is the second half of a surrogate pair. -/
def isLow (point : Nat) : Bool := 0xDC00 ≤ point && point ≤ 0xDFFF

def pairPoint (high low : Nat) : Nat := 0x10000 + (high - 0xD800) * 0x400 + (low - 0xDC00)

def joinPairs : List Nat → List Nat
  | high :: low :: rest =>
    if isHigh high && isLow low then pairPoint high low :: joinPairs rest
    else high :: joinPairs (low :: rest)
  | points => points

/-- Reads the units of a string after its opening quotation mark. -/
def readUnits : Reader (List Nat)
  | [] => .error []
  | '"' :: rest => .ok ([], rest)
  | '\\' :: 'u' :: a :: b :: c :: d :: rest =>
    match hexQuad? a b c d with
    | some unit => do
      let (units, after) ← readUnits rest
      .ok (unit :: units, after)
    | none => .error ('\\' :: 'u' :: a :: b :: c :: d :: rest)
  | '\\' :: c :: rest =>
    match escaped? c with
    | some e => do
      let (units, after) ← readUnits rest
      .ok (e.toNat :: units, after)
    | none => .error ('\\' :: c :: rest)
  | c :: rest =>
    if c = '\\' || c.toNat < 0x20 then .error (c :: rest)
    else do
      let (units, after) ← readUnits rest
      .ok (c.toNat :: units, after)

def readString : Reader (List Nat) := fun cs => do
  let (units, after) ← readUnits cs
  .ok (joinPairs units, after)

/-! ## Numbers and words -/

def readDigits : Reader (List Char) := fun cs =>
  if (cs.takeWhile Char.isDigit).isEmpty then .error cs
  else .ok (cs.takeWhile Char.isDigit, cs.dropWhile Char.isDigit)

/-- Reads the digits before the point: zero, or digits without a leading zero. -/
def readWhole : Reader (List Char)
  | '0' :: rest => .ok (['0'], rest)
  | cs => readDigits cs

/-- Reads a point and the digits after it, if there is a point. -/
def readFraction : Reader (List Char)
  | '.' :: rest => do
    let (ds, after) ← readDigits rest
    .ok ('.' :: ds, after)
  | cs => .ok ([], cs)

/-- Splits an optional sign off the front of a text. -/
def splitSign : List Char → List Char × List Char
  | '-' :: rest => (['-'], rest)
  | '+' :: rest => (['+'], rest)
  | cs => ([], cs)

/-- Reads an exponent, if there is one. -/
def readExponent : Reader (List Char)
  | [] => .ok ([], [])
  | c :: rest =>
    if c = 'e' || c = 'E' then do
      let (sign, rest) := splitSign rest
      let (ds, after) ← readDigits rest
      .ok (c :: (sign ++ ds), after)
    else .ok ([], c :: rest)

def readNumber : Reader Json := fun cs => do
  let (sign, rest) := match cs with
    | '-' :: rest => (['-'], rest)
    | cs => ([], cs)
  let (whole, rest) ← readWhole rest
  let (fraction, rest) ← readFraction rest
  let (exponent, rest) ← readExponent rest
  .ok (.number (sign ++ whole ++ fraction ++ exponent), rest)

def readPlain : Reader Json
  | 'n' :: 'u' :: 'l' :: 'l' :: rest => .ok (.null, rest)
  | 't' :: 'r' :: 'u' :: 'e' :: rest => .ok (.bool true, rest)
  | 'f' :: 'a' :: 'l' :: 's' :: 'e' :: rest => .ok (.bool false, rest)
  | cs => readNumber cs

/-! ## Values -/

mutual

/-- Reads a value in at most `fuel` nested steps. -/
def readValue : Nat → Reader Json
  | 0, cs => .error cs
  | fuel + 1, cs =>
    match skipGap cs with
    | '[' :: rest =>
      match skipGap rest with
      | ']' :: rest => .ok (.array [], rest)
      | cs => do
        let (items, rest) ← readItems fuel cs
        .ok (.array items, rest)
    | '{' :: rest =>
      match skipGap rest with
      | '}' :: rest => .ok (.object [], rest)
      | cs => do
        let (fields, rest) ← readFields fuel cs
        .ok (.object fields, rest)
    | '"' :: rest => do
      let (points, rest) ← readString rest
      .ok (.string points, rest)
    | cs => readPlain cs

/-- Reads one or more items and the bracket after them. -/
def readItems : Nat → Reader (List Json)
  | 0, cs => .error cs
  | fuel + 1, cs => do
    let (item, rest) ← readValue fuel cs
    match skipGap rest with
    | ',' :: rest => do
      let (items, rest) ← readItems fuel rest
      .ok (item :: items, rest)
    | ']' :: rest => .ok ([item], rest)
    | rest => .error rest

/-- Reads one or more fields and the brace after them. -/
def readFields : Nat → Reader (List (List Nat × Json))
  | 0, cs => .error cs
  | fuel + 1, cs =>
    match skipGap cs with
    | '"' :: rest => do
      let (name, rest) ← readString rest
      match skipGap rest with
      | ':' :: rest => do
        let (value, rest) ← readValue fuel rest
        match skipGap rest with
        | ',' :: rest => do
          let (fields, rest) ← readFields fuel rest
          .ok ((name, value) :: fields, rest)
        | '}' :: rest => .ok ([(name, value)], rest)
        | rest => .error rest
      | rest => .error rest
    | rest => .error rest

end

/-- The value of a whole text, or the rest of it from the place on where it is none.  Two steps to a
character are more than a value can take. -/
def parse (cs : List Char) : Except (List Char) Json := do
  let (value, rest) ← readValue (2 * cs.length + 2) cs
  match skipGap rest with
  | [] => .ok value
  | rest => .error rest

/-! ## Places -/

/-- The line of a place in a text, counted from one. -/
def lineOf (cs rest : List Char) : Nat :=
  (cs.take (cs.length - rest.length)).count '\n' + 1

/-- The byte column of a place in a text, counted from one. -/
def columnOf (cs rest : List Char) : Nat :=
  Text.utf8Length (((cs.take (cs.length - rest.length)).reverse).takeWhile (· ≠ '\n')) + 1

end NumberRules.Json
