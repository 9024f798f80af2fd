/-! # Suggestions for misspelled names

`editDistance` counts the single-character insertions, deletions and replacements that lead from
one name to another, row by row of the table of distances between their prefixes.  `suggestions`
lists the names within reach of a key, closest first.
-/

namespace NumberRules
set_option autoImplicit false

/-! ## Edit distance -/

/-- The rest of a table row, from the row above.  `corner` stands above and to the left of the next
cell, `left` beside it. -/
def nextCells (c : Char) : List Char → List Nat → Nat → Nat → List Nat
  | d :: ds, above :: row, corner, left =>
    let cell := min (min (above + 1) (left + 1)) (corner + if c = d then 0 else 1)
    cell :: nextCells c ds row above cell
  | _, _, _, _ => []

/-- The table row after one more character of the source. -/
def nextRow (target : List Char) (row : List Nat) (c : Char) : List Nat :=
  match row with
  | corner :: above => (corner + 1) :: nextCells c target above corner (corner + 1)
  | [] => []

/-- The least number of edits that turn one list of characters into the other. -/
def editDistance (source target : List Char) : Nat :=
  (source.foldl (nextRow target) (List.range (target.length + 1))).getLastD 0

/-! ## Suggestions -/

/-- The longest key, in bytes, that counts as short. -/
def shortKey : Nat := 3

/-- The number of edits that a key tolerates. -/
def tolerance (key : String) : Nat := if key.utf8ByteSize ≤ shortKey then 1 else 2

/-- The most names that are suggested. -/
def suggestionLimit : Nat := 3

/-- Whether a name at a distance is worth suggesting; the key itself is not. -/
def isClose (key : String) (distance : Nat) : Bool := 0 < distance && distance ≤ tolerance key

/-- The available names closest to a key; names at the same distance stay in order. -/
def suggestions (key : String) (available : List String) : List String :=
  let measured := available.map fun name => (editDistance key.toList name.toList, name)
  let close := measured.filter fun entry => isClose key entry.1
  ((close.mergeSort fun a b => a.1 ≤ b.1).take suggestionLimit).map Prod.snd

end NumberRules
