import NumberRules.Text.Display

/-! # Breaking lines

A line that is too wide for a column is broken at its spaces, and a word that is too wide for a line
of its own is broken where the line is full.  Characters that are drawn as one stay together.  A
line with almost no room left is not filled up further.
-/

namespace NumberRules.Text
set_option autoImplicit false

/-! ## Breaking words -/

/-- Whether a character is drawn as one with the character before it.  Of that one, `isHalf` says
whether it is an indicator that waits for the other half of a flag. -/
def attaches (before c : Char) (isHalf : Bool) : Bool :=
  !isPlain c && (isWeightless c || isModifier c || (before = joiner && (isEmoji c || isStyled c)) ||
    (isHalf && isIndicator c))

/-- A word that is being split: what is left of the width, the part that fits into it, and a cluster
of characters that are drawn as one, both with their last character first. -/
structure Split where
  room : Nat
  front : List Char := []
  cluster : List Char
  /-- Whether the last character waits for the other half of a flag. -/
  isHalf : Bool

namespace Split

def clusterWidth (split : Split) : Nat := displayWidth (String.ofList split.cluster.reverse)

/-- The word split where its next cluster does not fit, with what follows the cluster under way. -/
def finish (split : Split) : List Char → List Char × List Char
  | [] =>
    if split.clusterWidth ≤ split.room then ((split.cluster ++ split.front).reverse, [])
    else (split.front.reverse, split.cluster.reverse)
  | c :: rest =>
    if attaches (split.cluster.headD c) c split.isHalf then
      finish { split with cluster := c :: split.cluster, isHalf := false } rest
    else if split.clusterWidth ≤ split.room then
      finish
        ⟨split.room - split.clusterWidth, split.cluster ++ split.front, [c], isIndicator c⟩ rest
    else (split.front.reverse, split.cluster.reverse ++ c :: rest)

end Split

/-- The part of a word that fits into a width, and the part after it.  At the beginning of a line
the first part has one character at least. -/
def splitWord (width : Nat) (atStart : Bool) : List Char → List Char × List Char
  | [] => ([], [])
  | c :: rest =>
    let (front, after) := (⟨width, [], [c], isIndicator c⟩ : Split).finish rest
    if atStart && front.isEmpty then ([c], rest) else (front, after)

/-! ## Filling lines -/

structure Line where
  text : String := ""
  width : Nat := 0
  deriving DecidableEq

namespace Line

/-- The columns in which a line is not filled up further. -/
def spare : Nat := 2

/-- A line with one more word, after a space unless it is the first. -/
def add (line : Line) (word : List Char) : Line :=
  let word := String.ofList word
  if line.text.isEmpty then ⟨word, displayWidth word⟩
  else ⟨line.text ++ " " ++ word, line.width + displayWidth (" " ++ word)⟩

/-- The lines of a line under way and the words after it, none of them wider than `width`.  Every
step takes up a word, completes a line or breaks off a part of a word, so there are fewer than three
steps for each character. -/
def fill (width : Nat) : Nat → Line → List (List Char) → List String
  | 0, line, _ => [line.text]
  | _ + 1, line, [] => if line.text.isEmpty then [] else [line.text]
  | fuel + 1, line, word :: rest =>
    let gap := if line.text.isEmpty then 0 else 1
    let own := displayWidth (String.ofList word)
    if own + line.width + gap ≤ width then
      let line := line.add word
      if width - spare < line.width then line.text :: fill width fuel {} rest
      else fill width fuel line rest
    else if gap = 1 && width - line.width - gap ≤ spare then
      line.text :: fill width fuel {} (word :: rest)
    else if width < own then
      let (front, after) := splitWord (width - line.width - gap) (gap = 0) word
      (line.add front).text :: fill width fuel {} (after :: rest)
    else
      let next := ({} : Line).add word
      if width - spare < next.width then line.text :: next.text :: fill width fuel {} rest
      else line.text :: fill width fuel next rest

end Line

/-- A text as lines that are not wider than a width. -/
def wrap (width : Nat) (text : String) : List String :=
  if displayWidth text ≤ width then [text]
  else Line.fill width (3 * text.length + 3) {} ((text.splitOn " ").map String.toList)

end NumberRules.Text
