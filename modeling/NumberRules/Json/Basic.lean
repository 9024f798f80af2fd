import NumberRules.Text.Digits

/-! # JSON values

A JSON string is a list of code points, which may hold surrogates without a partner; such a string
has no text.  Numbers are kept as written, and objects keep every field in order, repeated ones
included.
-/

namespace NumberRules
set_option autoImplicit false

inductive Json where
  /-- `null` -/
  | null
  /-- `true` or `false` -/
  | bool (value : Bool)
  | number (text : List Char)
  | string (points : List Nat)
  | array (items : List Json)
  | object (fields : List (List Nat × Json))

namespace Json

def pointsOf (text : String) : List Nat := text.toList.map Char.toNat

def ofText (text : String) : Json := .string (pointsOf text)

/-- A text or `null`. -/
def ofText? (text : Option String) : Json :=
  match text with
  | some text => ofText text
  | none => .null

def ofTexts (texts : List String) : Json := .array (texts.map ofText)

def ofFields (fields : List (String × Json)) : Json :=
  .object (fields.map fun field => (pointsOf field.1, field.2))

/-- The character of a code point; surrogates have none. -/
def charOf? (point : Nat) : Option Char :=
  if h : point.isValidChar then some (Char.ofNatAux point h) else none

/-- The text of code points, if all of them are characters. -/
def textOf? (points : List Nat) : Option String := (points.mapM charOf?).map String.ofList

end Json

end NumberRules
