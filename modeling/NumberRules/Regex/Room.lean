import NumberRules.Regex.Basic
import NumberRules.Text.Bytes

/-! # Room for automata

A regular expression is matched by an automaton on the bytes of a text, and by another one that
reads backwards.  `Regex.room` is the number of bytes that an automaton takes.

Every state takes 32 bytes.  A state that goes on by several ranges of bytes takes 8 more for each
range, and one that goes on without reading takes 4 more for each way.
-/

namespace NumberRules.Regex
set_option autoImplicit false

def stateSize : Nat := 32

/-- The bytes that a range of bytes takes in a state. -/
def rangeSize : Nat := 8

def waySize : Nat := 4

/-! ## Sequences of bytes -/

def bytesOf (n : Nat) : List Nat :=
  let tail (k : Nat) : Nat := 0x80 + (n >>> (6 * k)) % 64
  if n < 0x80 then [n]
  else if n < 0x800 then [0xC0 + (n >>> 6), tail 0]
  else if n < 0x10000 then [0xE0 + (n >>> 12), tail 1, tail 0]
  else [0xF0 + (n >>> 18), tail 2, tail 1, tail 0]

/-- The last code points that take one, two and three bytes. -/
def lengthEnds : List Nat := [0x7F, 0x7FF, 0xFFFF]

/-- Where a range of code points is to be cut, so that the bytes of a part range independently of
each other: behind the code point that is given. -/
def cut? (first last : Nat) : Option Nat :=
  match lengthEnds.find? (fun most => first ≤ most && most < last) with
  | some most => some most
  | none =>
    if last < 0x80 then none
    else
      [1 <<< 6, 1 <<< 12, 1 <<< 18].findSome? fun block =>
        if first / block = last / block then none
        else if first % block ≠ 0 then some (first / block * block + block - 1)
        else if last % block ≠ block - 1 then some (last / block * block - 1)
        else none

/-- The sequences of ranges of bytes for a range of code points.  No range is cut more often than
`fuel` says. -/
def sequences : Nat → Nat → Nat → List (List (Nat × Nat))
  | 0, _, _ => []
  | fuel + 1, first, last =>
    if last < first then []
    else if first < 0xE000 && 0xD7FF < last then
      sequences fuel first 0xD7FF ++ sequences fuel 0xE000 last
    else
      match cut? first last with
      | some most => sequences fuel first most ++ sequences fuel (most + 1) last
      | none => [(bytesOf first).zip (bytesOf last)]

/-- The sequences of ranges of bytes for a set of characters, in order. -/
def Charset.sequences (a : Charset) : List (List (Nat × Nat)) :=
  a.ranges.flatMap fun r => Regex.sequences 64 r.1 r.2

def continuations (start : List (Nat × Nat)) (all : List (List (Nat × Nat))) :
    List (List (Nat × Nat)) :=
  all.filterMap fun s => if start.isPrefixOf s then some (s.drop start.length) else none

/-- The beginnings of a sequence that it goes on from. -/
def beginnings (s : List (Nat × Nat)) : List (List (Nat × Nat)) :=
  (List.range s.length).map fun k => s.take k

/-- The bytes for a set of characters.  ASCII characters need one state; else, forwards, beginnings
that go on in the same way share a state, and backwards every beginning has one of its own. -/
def setRoom (backwards : Bool) (a : Charset) : Nat :=
  if a.isAscii then 2 * stateSize + a.ranges.length * rangeSize
  else
    let all := a.sequences
    if backwards then
      let read := (all.flatMap fun s => (beginnings s).drop 1 ++ [s]).eraseDups
      (2 + read.length) * stateSize + all.length * waySize
    else
      let states := ((all.flatMap beginnings).eraseDups.map (continuations · all)).eraseDups
      states.foldl (fun room s =>
        room + stateSize + (s.filterMap List.head?).eraseDups.length * rangeSize) stateSize

/-! ## Texts -/

/-- Words as runs of words that are not empty, with one more run for every empty word. -/
def runs (words : List (List Nat)) : List (List (List Nat)) :=
  match words with
  | [] => [[]]
  | word :: rest =>
    if word.isEmpty then [] :: runs rest
    else
      match runs rest with
      | [] => [[word]]
      | run :: others => (word :: run) :: others

def rests (byte : Nat) (words : List (List Nat)) : List (List Nat) :=
  words.filterMap fun word =>
    match word with
    | b :: rest => if b = byte then some rest else none
    | [] => none

/-- The bytes for the words that can follow a beginning.  A state chooses among the runs of words
and the end, at which a word may stop; every run has a state that reads the first byte.  No word has
as many bytes as `fuel`. -/
def branchRoom : Nat → List (List Nat) → Nat
  | 0, _ => 0
  | fuel + 1, words =>
    let runs := (runs (words.dropWhile List.isEmpty)).filter (!·.isEmpty)
    let stops := min 1 (words.takeWhile List.isEmpty).length +
      (words.dropWhile List.isEmpty).countP List.isEmpty
    let runRoom (run : List (List Nat)) : Nat :=
      let firsts := (run.filterMap List.head?).eraseDups
      firsts.foldl (fun room byte =>
        if (rests byte run).all List.isEmpty then room
        else room + branchRoom fuel (rests byte run))
        (stateSize + (if firsts.length = 1 then 0 else firsts.length * rangeSize))
    runs.foldl (fun room run => room + runRoom run)
      (stateSize + (runs.length + stops) * waySize)

/-- The bytes for one of several texts, which share their beginnings or, backwards, their ends. -/
def textsRoom (backwards : Bool) (texts : List (List Char)) : Nat :=
  let words := texts.map fun cs =>
    let bytes := cs.flatMap fun c => bytesOf c.toNat
    if backwards then bytes.reverse else bytes
  stateSize + branchRoom (words.foldl (fun n word => max n word.length) 0 + 1) words

/-- The texts of an expression that has only texts as alternatives. -/
def texts? : Regex → Option (List (List Char))
  | .text cs => some [cs]
  | .alt (.text cs) s => (texts? s).map (cs :: ·)
  | _ => none

/-! ## Expressions -/

/-- Whether no character of the empty set is in an expression. -/
def isPossible : Regex → Bool
  | .char set => !set.ranges.isEmpty
  | .seq r s | .alt r s => r.isPossible && s.isPossible
  | .repeated r _ _ _ | .group _ r => r.isPossible
  | _ => true

/-- Whether there can be matches and every one has a character, as far as the expression shows. -/
def isSolid : Regex → Bool
  | .text _ => true
  | .char set => !set.ranges.isEmpty
  | .seq r s => (r.isSolid && s.isPossible) || (r.isPossible && s.isSolid)
  | .alt r s => r.isSolid && s.isSolid
  | .repeated r least _ _ => r.isSolid && 0 < least
  | .group _ r => r.isSolid
  | _ => false

/-- The bytes for an expression.  `chained` is set for the second part of alternatives. -/
def partRoom (backwards chained : Bool) : Regex → Nat
  | .empty => stateSize
  | .text cs => Text.utf8Length cs * stateSize
  | .char set => setRoom backwards set
  | .anchor _ => stateSize
  | .seq r s => r.partRoom backwards false + s.partRoom backwards false
  | .alt r s =>
    match if chained then none else texts? (.alt r s) with
    | some texts => textsRoom backwards texts
    | none =>
      let ends := if chained then 0 else 2 * stateSize
      let ways := match s with | .alt _ _ => waySize | _ => 2 * waySize
      ends + ways + r.partRoom backwards false + s.partRoom backwards true
  | .repeated r least most _ =>
    let once := r.partRoom backwards false
    let choice := stateSize + 2 * waySize
    match least, most with
    | 0, some 1 => choice + once + stateSize
    | 0, none => if r.isSolid then choice + once else 2 * choice + once + stateSize
    | least, none => least * once + choice
    | least, some most =>
      if least = most then least * once
      else max stateSize (least * once) + stateSize + (most - least) * (choice + once)
  | .group _ r => r.partRoom backwards false + if backwards then 0 else 2 * stateSize

/-- Whether all matches begin at the beginning of the text, as far as the expression shows. -/
def startsText : Regex → Bool
  | .anchor a => a = .textStart
  | .seq r s => r.startsText || (r.isVoid && s.startsText)
  | .alt r s => r.startsText && s.startsText
  | .repeated r least _ _ => 0 < least && r.startsText
  | .group _ r => r.startsText
  | _ => false

/-- Whether all matches end at the end of the text, as far as the expression shows. -/
def endsText : Regex → Bool
  | .anchor a => a = .textEnd
  | .seq r s => s.endsText || (s.isVoid && r.endsText)
  | .alt r s => r.endsText && s.endsText
  | .repeated r least _ _ => 0 < least && r.endsText
  | .group _ r => r.endsText
  | _ => false

/-- The bytes for the automaton of an expression.  Unless matches can begin at one place only, it
begins with a loop over all bytes; it ends with one state, and forwards the whole match is kept. -/
def room (backwards : Bool) (r : Regex) : Nat :=
  let fixed := if backwards then r.endsText else r.startsText
  let loop := if fixed then stateSize else 3 * stateSize + rangeSize + 2 * waySize
  loop + (if backwards then 0 else 2 * stateSize) + r.partRoom backwards false + stateSize

end NumberRules.Regex
