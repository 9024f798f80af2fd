/-! # Byte positions

Positions in text are counted in bytes of its UTF-8 encoding, as editors and terminals expect them.
`utf8Length` is the length of a text in bytes, `utf8Find?` the position of the first occurrence of
another text, and `lines` cuts a text at its line ends.
-/

namespace NumberRules.Text
set_option autoImplicit false

def utf8Length (cs : List Char) : Nat := cs.foldl (fun n c => n + c.utf8Size) 0

/-- The byte position of the first occurrence of `sought`. -/
def utf8Find? (sought : List Char) : List Char → Option Nat
  | [] => if sought.isEmpty then some 0 else none
  | c :: rest =>
    if sought.isPrefixOf (c :: rest) then some 0
    else (utf8Find? sought rest).map (c.utf8Size + ·)

/-- The lines of a text without their ends, which are line feeds, perhaps after a carriage return.
A line end at the end of the text begins no further line. -/
def lines : List Char → List (List Char)
  | [] => []
  | '\r' :: '\n' :: rest => [] :: lines rest
  | '\n' :: rest => [] :: lines rest
  | c :: rest =>
    match lines rest with
    | [] => [[c]]
    | line :: more => (c :: line) :: more

def occursIn (sought cs : List Char) : Bool := (utf8Find? sought cs).isSome

end NumberRules.Text
