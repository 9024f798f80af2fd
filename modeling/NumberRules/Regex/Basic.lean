import NumberRules.Regex.Charset

/-! # Regular expressions

A regular expression says which stretches of a text match it.  A match begins and ends at a place
between characters, and a set of places is a number whose binary digits tell which places are in it.
`Regex.advance` takes the places where matches may begin to those where they can end, so matching is
arithmetic on such numbers.
-/

namespace NumberRules
set_option autoImplicit false

namespace Regex

/-! ## Places -/

/-- What is required of a place, from the characters on either side.  Words are runs of ASCII
letters, digits and underscores. -/
inductive Anchor where
  | textStart
  | textEnd
  /-- The beginning of a line; with `crlf`, carriage returns and line feeds end lines. -/
  | lineStart (crlf : Bool)
  | lineEnd (crlf : Bool)
  | edge
  | noEdge
  | wordStart
  | wordEnd
  | noWordBefore
  | noWordAfter
  deriving DecidableEq

namespace Anchor

/-- Whether there is a character of a word on one side of a place. -/
def isWord (c : Option Char) : Bool := c.any Charset.word.contains

/-- Whether a place between two characters, or at an end of the text, is as required. -/
def holds (anchor : Anchor) (before after : Option Char) : Bool :=
  match anchor with
  | textStart => before.isNone
  | textEnd => after.isNone
  | lineStart false => before.isNone || before = some '\n'
  | lineEnd false => after.isNone || after = some '\n'
  | lineStart true =>
    before.isNone || before = some '\n' || (before = some '\r' && after ≠ some '\n')
  | lineEnd true => after.isNone || after = some '\r' || (after = some '\n' && before ≠ some '\r')
  | edge => isWord before ≠ isWord after
  | noEdge => isWord before = isWord after
  | wordStart => !isWord before && isWord after
  | wordEnd => isWord before && !isWord after
  | noWordBefore => !isWord before
  | noWordAfter => !isWord after

end Anchor

/-- The places with given marks, the mark of the first place first, as a number. -/
def ofMarks : List Bool → Nat
  | [] => 0
  | mark :: rest => mark.toNat + 2 * ofMarks rest

/-- The characters on either side of every place of a text. -/
def gaps (before : Option Char) : List Char → List (Option Char × Option Char)
  | [] => [(before, none)]
  | c :: rest => (before, some c) :: gaps (some c) rest

def everywhere (text : List Char) : Nat := ofMarks (true :: text.map fun _ => true)

/-- The result of a function that is applied a number of times, but not again once it changes
nothing. -/
def iterate (f : Nat → Nat) : Nat → Nat → Nat
  | 0, places => places
  | k + 1, places => if f places = places then places else iterate f k (f places)

end Regex

/-! ## Expressions -/

/-- A regular expression.  A sequence of several expressions has all but the first in its second
part, and so have alternatives. -/
inductive Regex where
  | empty
  /-- One text, which is not empty. -/
  | text (cs : List Char)
  /-- A character of a set that has none or several. -/
  | char (set : Regex.Charset)
  | anchor (a : Regex.Anchor)
  | seq (r s : Regex)
  | alt (r s : Regex)
  /-- An expression a number of times: at least `least`, and at most `most` if that is given.  Of
  several matches `greedy` prefers the longest. -/
  | repeated (r : Regex) (least : Nat) (most : Option Nat) (greedy : Bool)
  /-- A group with its number, which matches what its expression does. -/
  | group (number : Nat) (r : Regex)
  deriving DecidableEq

namespace Regex

/-- Where the matches of a character that is in a set can end. -/
def advanceChar (text : List Char) (contains : Char → Bool) (places : Nat) : Nat :=
  2 * (places &&& ofMarks (text.map contains))

/-- Where the matches can end that begin at some places of a text. -/
def advance (text : List Char) : Regex → Nat → Nat
  | empty, places => places
  | .text cs, places => cs.foldl (fun places c => advanceChar text (· = c) places) places
  | char set, places => advanceChar text set.contains places
  | anchor a, places => places &&& ofMarks ((gaps none text).map fun gap => a.holds gap.1 gap.2)
  | seq r s, places => advance text s (advance text r places)
  | alt r s, places => advance text r places ||| advance text s places
  | repeated r least most _, places =>
    iterate (fun reached => reached ||| advance text r reached)
      (match most with | some most => most - least | none => text.length + 1)
      (iterate (advance text r) least places)
  | group _ r, places => advance text r places

def occursIn (r : Regex) (text : String) : Bool :=
  advance text.toList r (everywhere text.toList) ≠ 0

/-! ## Building expressions -/

def ofSet (set : Charset) : Regex :=
  match set.single? with
  | some c => .text [c]
  | none => char set

def isVoid : Regex → Bool
  | empty => true
  | .text _ => false
  | char _ => false
  | anchor _ => true
  | seq r s => r.isVoid && s.isVoid
  | alt r s => r.isVoid && s.isVoid
  | repeated r _ _ _ => r.isVoid
  | group _ r => r.isVoid

/-- An expression a number of times.  An expression for the empty stretch is no other when it is
there several times, and no times are the empty stretch. -/
def times (r : Regex) (least : Nat) (most : Option Nat) (greedy : Bool) : Regex :=
  let (least, most) := if r.isVoid then (min least 1, some (min (most.getD 1) 1)) else (least, most)
  if most = some 0 then empty
  else if least = 1 && most = some 1 then r
  else repeated r least most greedy

def parts : Regex → List Regex
  | empty => []
  | seq r s => r :: s.parts
  | r => [r]

def joinTexts : List Regex → List Regex
  | [] => []
  | r :: rest =>
    match r, joinTexts rest with
    | .text cs, .text ds :: others => .text (cs ++ ds) :: others
    | r, others => r :: others

def chain : List Regex → Regex
  | [] => empty
  | [r] => r
  | r :: rest => seq r (chain rest)

def ofParts (rs : List Regex) : Regex := chain (joinTexts (rs.flatMap parts))

def alternatives : Regex → List Regex
  | alt r s => r :: s.alternatives
  | r => [r]

def choice : List Regex → Regex
  | [] => char .none
  | [r] => r
  | r :: rest => alt r (choice rest)

def set? : Regex → Option Charset
  | .text [c] => some (.single c)
  | char set => some set
  | _ => none

def commonPrefix : List Regex → List Regex → List Regex
  | r :: rs, s :: ss => if r = s then r :: commonPrefix rs ss else []
  | _, _ => []

/-- The beginning that some sequences share, none of them shorter than two. -/
def sharedParts : List Regex → List Regex
  | [] => []
  | r :: rest =>
    if (r :: rest).all (1 < ·.parts.length) then
      rest.foldl (fun shared s => commonPrefix shared s.parts) r.parts
    else []

def size : Regex → Nat
  | seq r s => r.size + s.size + 1
  | alt r s => r.size + s.size + 1
  | repeated r _ _ _ => r.size + 1
  | group _ r => r.size + 1
  | _ => 1

/-- Alternatives that are flat, with single characters made one set and a beginning that all share
put in front.  What is left behind a beginning is smaller, so `fuel` need not be more than the size
of all. -/
def ofAlternativesWith : Nat → List Regex → Regex
  | 0, rs => choice rs
  | fuel + 1, rs =>
    let flat := rs.flatMap alternatives
    match flat with
    | [r] => r
    | _ =>
      match flat.mapM set? with
      | some sets => ofSet (sets.foldl .union .none)
      | none =>
        let shared := sharedParts flat
        if shared.isEmpty then choice flat
        else
          let rests := flat.map fun r => chain (r.parts.drop shared.length)
          ofParts (shared ++ [ofAlternativesWith fuel rests])

/-- Expressions as alternatives of one another, in their simplest form. -/
def ofAlternatives (rs : List Regex) : Regex :=
  ofAlternativesWith (rs.foldl (fun n r => n + r.size) 1) rs

end Regex

end NumberRules
