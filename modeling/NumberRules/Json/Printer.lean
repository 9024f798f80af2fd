import NumberRules.Json.Basic

/-! # Writing JSON

Values are laid out with one field or item to a line, indented by two spaces for every level; empty
arrays and objects take one line.  In strings, quotation marks, backslashes, control characters and
unpaired surrogates are escaped, and nothing else.
-/

namespace NumberRules.Json
set_option autoImplicit false

/-- A number below `2 ^ 16` as four hexadecimal digits. -/
def hexQuad (n : Nat) : List Char :=
  [n / 4096, n / 256 % 16, n / 16 % 16, n % 16].map Nat.digitChar

def pointChars (point : Nat) : List Char :=
  match charOf? point with
  | none => '\\' :: 'u' :: hexQuad point
  | some c =>
    if c = '"' || c = '\\' then ['\\', c]
    else if c = '\n' then ['\\', 'n']
    else if c = '\r' then ['\\', 'r']
    else if c = '\t' then ['\\', 't']
    else if c = '\x08' then ['\\', 'b']
    else if c = '\x0c' then ['\\', 'f']
    else if point < 0x20 then '\\' :: 'u' :: hexQuad point
    else [c]

def stringChars (points : List Nat) : List Char := '"' :: (points.flatMap pointChars ++ ['"'])

def newLine (level : Nat) : List Char := '\n' :: List.replicate (2 * level) ' '

/-- Entries between brackets, one to a line. -/
def bracketed (opening closing : Char) (level : Nat) (entries : List (List Char)) : List Char :=
  if entries.isEmpty then [opening, closing]
  else
    opening :: ([','].intercalate (entries.map (newLine (level + 1) ++ ·)) ++
      (newLine level ++ [closing]))

mutual

def prettyAt (level : Nat) : Json → List Char
  | null => "null".toList
  | bool value => (if value then "true" else "false").toList
  | number text => text
  | string points => stringChars points
  | array items => bracketed '[' ']' level (prettyItems (level + 1) items)
  | object fields => bracketed '{' '}' level (prettyFields (level + 1) fields)

def prettyItems (level : Nat) : List Json → List (List Char)
  | [] => []
  | item :: rest => prettyAt level item :: prettyItems level rest

/-- Fields at a level of indentation, each with its name. -/
def prettyFields (level : Nat) : List (List Nat × Json) → List (List Char)
  | [] => []
  | (name, value) :: rest =>
    (stringChars name ++ (':' :: ' ' :: prettyAt level value)) :: prettyFields level rest

end

def pretty (j : Json) : String := String.ofList (prettyAt 0 j)

end NumberRules.Json
