import NumberRules.Regex.Fault
import NumberRules.Regex.Room
import NumberRules.Text.Blank
import NumberRules.Text.Hexadecimal
import NumberRules.Text.Letter

/-! # Reading regular expressions

`Regex.ofText?` reads a regular expression as it is written.  Groups may set modes for what follows
in them: letters in either case, `^` and `$` at lines, dots for line feeds too, blanks and comments
for readability, and classes for ASCII.  Classes of digits, blanks and words, the edges of words and
letters in either case are known for ASCII only, so without the last mode they are refused.

The reader keeps the open groups on a stack and takes up one item after the other.
-/

namespace NumberRules.Regex
set_option autoImplicit false

/-- Reads an `α` off the front of a text. -/
abbrev Reader (α : Type) := List Char → Except Fault (α × List Char)

/-! ## Modes -/

structure Mode where
  anyCase : Bool := false
  /-- `^` and `$` stand at the beginnings and ends of lines. -/
  byLine : Bool := false
  dotAll : Bool := false
  /-- Carriage returns end lines, too. -/
  crlf : Bool := false
  /-- Blanks and comments do not count. -/
  spaced : Bool := false
  ascii : Bool := false
  lazy : Bool := false
  deriving DecidableEq

namespace Mode

/-- The mode with one setting, given by its letter, turned on or off. -/
def set? (mode : Mode) (letter : Char) (on : Bool) : Option Mode :=
  match letter with
  | 'i' => some { mode with anyCase := on }
  | 'm' => some { mode with byLine := on }
  | 's' => some { mode with dotAll := on }
  | 'R' => some { mode with crlf := on }
  | 'x' => some { mode with spaced := on }
  | 'u' => some { mode with ascii := !on }
  | 'U' => some { mode with lazy := on }
  | _ => none

/-- Reads the letters of settings up to a colon or a closing parenthesis.  Letters after a minus
sign turn settings off. -/
def read (mode : Mode) (seen : List Char) : Reader (Mode × List Char)
  | [] => .error .openGroup
  | c :: rest =>
    if c = ':' || c = ')' then
      if seen.head? = some '-' then .error .danglingMinus else .ok ((mode, seen), c :: rest)
    else if seen.contains c then .error .repeatedMode
    else if c = '-' then mode.read (c :: seen) rest
    else
      match mode.set? c (!seen.contains '-') with
      | some mode => mode.read (c :: seen) rest
      | none => .error .unknownMode

end Mode

/-! ## Blanks and comments -/

/-- A text without the blanks and comments at its front; `comment` says whether a comment is already
under way. -/
def skipBlanks (comment : Bool) : List Char → List Char
  | [] => []
  | c :: rest =>
    if comment then skipBlanks (c ≠ '\n') rest
    else if Text.isBlank c then skipBlanks false rest
    else if c = '#' then skipBlanks true rest
    else c :: rest

def Mode.skip (mode : Mode) (cs : List Char) : List Char :=
  if mode.spaced then skipBlanks false cs else cs

/-- The character to come next, which in spaced mode is looked for behind blanks and one number
sign. -/
def Mode.peek (mode : Mode) (cs : List Char) : Option Char :=
  if mode.spaced then
    match cs.dropWhile Text.isBlank with
    | '#' :: rest => (rest.dropWhile Text.isBlank).head?
    | rest => rest.head?
  else cs.head?

/-- Reads a text up to a closing brace; `comment` says whether a comment is under way. -/
def Mode.readBraced (mode : Mode) (comment : Bool) : List Char → Option (List Char × List Char)
  | [] => none
  | c :: rest =>
    if comment then mode.readBraced (c ≠ '\n') rest
    else if mode.spaced && Text.isBlank c then mode.readBraced false rest
    else if mode.spaced && c = '#' then mode.readBraced true rest
    else if c = '\x7d' then some ([], rest)
    else (mode.readBraced false rest).map fun read => (c :: read.1, read.2)

/-! ## Counts -/

/-- Splits digits off the front of a text, with blanks and comments before, between and behind
them. -/
def splitSpacedDigits (comment : Bool) : List Char → List Char × List Char
  | [] => ([], [])
  | c :: rest =>
    if comment then splitSpacedDigits (c ≠ '\n') rest
    else if c.isDigit then
      let (digits, after) := splitSpacedDigits false rest
      (c :: digits, after)
    else if Text.isBlank c then splitSpacedDigits false rest
    else if c = '#' then splitSpacedDigits true rest
    else ([], c :: rest)

/-- Splits digits off the front of a text, with blanks on both sides of them. -/
def splitDigits (cs : List Char) : List Char × List Char :=
  let cs := cs.dropWhile Text.isBlank
  (cs.takeWhile Char.isDigit, (cs.dropWhile Char.isDigit).dropWhile Text.isBlank)

def readCount (mode : Mode) : Reader Nat := fun cs =>
  let (digits, rest) := if mode.spaced then splitSpacedDigits false cs else splitDigits cs
  let n := digits.foldl (fun n c => 10 * n + (c.toNat - '0'.toNat)) 0
  if digits.isEmpty || UInt32.size ≤ n then .error .badCount else .ok (n, rest)

/-- Reads the counts of a repetition after the opening brace: the least one and, if there is one,
the greatest one. -/
def readCounts (mode : Mode) : Reader (Nat × Option Nat) := fun cs => do
  let (least, rest) ← readCount mode (mode.skip cs)
  match rest with
  | '\x7d' :: rest => .ok ((least, some least), rest)
  | ',' :: rest =>
    match mode.skip rest with
    | '\x7d' :: rest => .ok ((least, none), rest)
    | rest =>
      let (most, rest) ← readCount mode rest
      match rest with
      | '\x7d' :: rest =>
        if least ≤ most then .ok ((least, some most), rest) else .error .reversedCounts
      | _ => .error .openCounts
  | _ => .error .openCounts

/-- Whether a repetition is one that prefers long matches, and the text behind the question mark
that turns its preference round. -/
def splitQuestion (mode : Mode) : List Char → Bool × List Char
  | '?' :: rest => (mode.lazy, rest)
  | cs => (!mode.lazy, cs)

/-! ## Escapes -/

inductive Escape where
  | char (c : Char)
  /-- A byte, by two hexadecimal digits. -/
  | byte (n : Nat)
  | set (s : Charset)
  | anchor (a : Anchor)
  | wordAnchor
  deriving DecidableEq

def hexValue? (digits : List Char) : Option Nat :=
  digits.foldlM (fun n c => (Text.hexDigit? c).map (16 * n + ·)) 0

def hexChar? (digits : List Char) : Option Char := do
  let n ← hexValue? digits
  if n.isValidChar && !digits.isEmpty then some (Char.ofNat n) else none

/-- Splits a number of characters off the front of a text. -/
def splitChars (mode : Mode) : Nat → List Char → Option (List Char × List Char)
  | 0, cs => some ([], cs)
  | k + 1, cs =>
    match mode.skip cs with
    | [] => none
    | c :: rest => (splitChars mode k rest).map fun split => (c :: split.1, split.2)

/-- Reads a character by its code point, which has a number of hexadecimal digits or stands in
braces. -/
def readCodePoint (mode : Mode) (digits : Nat) : Reader Escape := fun cs =>
  let split := match mode.skip cs with
    | '\x7b' :: rest => mode.readBraced false rest
    | rest => splitChars mode digits rest
  match split with
  | none => .error .cutEscape
  | some (written, rest) =>
    match hexChar? written with
    | none => .error .badCodePoint
    | some c =>
      if digits = 2 && (mode.skip cs).head? ≠ some '\x7b' then .ok (.byte c.toNat, rest)
      else .ok (.char c, rest)

def classOf? : Char → Option Charset
  | 'd' => some .digit
  | 's' => some .blank
  | 'w' => some .word
  | _ => none

/-- The character that a letter after a backslash stands for. -/
def control? : Char → Option Char
  | 'a' => some '\x07'
  | 'f' => some '\x0c'
  | 't' => some '\t'
  | 'n' => some '\n'
  | 'r' => some '\r'
  | 'v' => some '\x0b'
  | _ => none

/-- An anchor at words, which without the mode for ASCII is one at words of all letters. -/
def wordAnchor (mode : Mode) (a : Anchor) : Escape := if mode.ascii then .anchor a else .wordAnchor

def namedEdges : List (String × Anchor) :=
  [("start", .wordStart), ("end", .wordEnd), ("start-half", .noWordBefore),
   ("end-half", .noWordAfter)]

/-- Reads the rest of an anchor at the edge of a word: the name of a special one in braces, unless
what is in the braces cannot be a name. -/
def readEdge (mode : Mode) : Reader Escape := fun cs =>
  let plain := .ok (wordAnchor mode .edge, cs)
  match cs with
  | '\x7b' :: rest =>
    match mode.skip rest with
    | c :: _ =>
      if c.isAlpha || c = '-' then
        match mode.readBraced false rest with
        | some (name, rest) =>
          match namedEdges.lookup (String.ofList name) with
          | some a => .ok (wordAnchor mode a, rest)
          | none => .error .unknownEdge
        | none => .error .unknownEdge
      else plain
    | [] => plain
  | _ => plain

/-- Whether a character may stand for itself after a backslash: an ASCII character that is no
letter, no digit and no angle bracket. -/
def isEscapable (c : Char) : Bool := c.toNat < 0x80 && !c.isAlphanum && c ≠ '<' && c ≠ '>'

def readEscape (mode : Mode) : Reader Escape
  | [] => .error .cutEscape
  | c :: rest =>
    if c.isDigit then .error .backReference
    else if isEscapable c then .ok (.char c, rest)
    else if (classOf? c).isSome || (classOf? c.toLower).isSome then
      match classOf? c with
      | some s => if mode.ascii then .ok (.set s, rest) else .error .unknownClass
      | none => .error (if mode.ascii then .noText else .unknownClass)
    else
      match control? c with
      | some c => .ok (.char c, rest)
      | none =>
        match c with
        | 'x' => readCodePoint mode 2 rest
        | 'u' => readCodePoint mode 4 rest
        | 'U' => readCodePoint mode 8 rest
        | 'p' | 'P' => .error (if mode.ascii then .beyondAscii else .unknownProperty)
        | 'A' => .ok (.anchor .textStart, rest)
        | 'z' => .ok (.anchor .textEnd, rest)
        | 'b' => readEdge mode rest
        | 'B' => .ok (wordAnchor mode .noEdge, rest)
        | '<' => .ok (wordAnchor mode .wordStart, rest)
        | '>' => .ok (wordAnchor mode .wordEnd, rest)
        | _ => .error .unknownEscape

/-! ## Classes -/

structure Terms where
  set : Charset := .none
  count : Nat := 0
  depth : Nat := 0
  deriving DecidableEq

namespace Terms

def add (terms : Terms) (set : Charset) (depth : Nat) : Terms :=
  ⟨if terms.count = 0 then set else .union terms.set set, terms.count + 1, max terms.depth depth⟩

def wholeDepth (terms : Terms) : Nat := if terms.count < 2 then terms.depth else terms.depth + 1

end Terms

structure Bracket where
  negated : Bool
  terms : Terms := {}
  /-- What stands before the last operator, what that makes with the set after it, and the depth of
  what stands before. -/
  pending : Option (Charset × (Charset → Charset → Charset) × Nat) := none
  fresh : Bool := true

namespace Bracket

def add (b : Bracket) (set : Charset) (depth : Nat) : Bracket :=
  { b with terms := b.terms.add set depth, fresh := false }

/-- The set so far, and its depth. -/
def whole (mode : Mode) (b : Bracket) : Charset × Nat :=
  match b.pending with
  | none => (b.terms.set, b.terms.wholeDepth)
  | some (left, op, depth) =>
    (op (left.foldIf mode.anyCase) (b.terms.set.foldIf mode.anyCase),
      max depth b.terms.wholeDepth + 1)

def operate (mode : Mode) (op : Charset → Charset → Charset) (b : Bracket) : Bracket :=
  let (left, depth) := b.whole mode
  { b with terms := {}, pending := some (left, op, depth), fresh := false }

/-- The set of the class when it is closed, and its depth. -/
def close (mode : Mode) (b : Bracket) : Except Fault (Charset × Nat) :=
  let (set, depth) := b.whole mode
  if mode.ascii && b.negated then .error .noText
  else .ok ((set.foldIf mode.anyCase).negateIf b.negated, depth + 1)

end Bracket

def checkMember (mode : Mode) (c : Char) : Except Fault Char :=
  if mode.ascii then if c.toNat < 0x80 then .ok c else .error .beyondAscii
  else if mode.anyCase then .error .unknownCase
  else .ok c

/-- Reads a character of a class, or a class in it. -/
def readMember (mode : Mode) : Reader Escape
  | [] => .error .openClass
  | '\\' :: rest => readEscape mode rest
  | c :: rest => .ok (.char c, rest)

/-- The character that is a term of a class or the end of a range. -/
def charOf (mode : Mode) : Escape → Except Fault Char
  | .char c => checkMember mode c
  | .byte n => checkMember mode (Char.ofNat n)
  | _ => .error .badRange

def setOf (mode : Mode) : Escape → Except Fault Charset
  | .set s => .ok s
  | .anchor _ | .wordAnchor => .error .anchorInClass
  | e => (charOf mode e).map .single

/-- Reads a term of a class: a range, if there is a hyphen that neither closes the class nor is part
of an operator, or else a single one. -/
def readTerm (mode : Mode) : Reader Charset := fun cs => do
  let (first, rest) ← readMember mode cs
  match mode.skip rest with
  | '-' :: after =>
    if mode.peek after = some ']' || mode.peek after = some '-' then
      .ok (← setOf mode first, mode.skip rest)
    else
      let (last, rest) ← readMember mode (mode.skip after)
      let first ← charOf mode first
      let last ← charOf mode last
      if first ≤ last then .ok (.range first last, rest) else .error .reversedRange
  | rest => .ok (← setOf mode first, rest)

/-- Splits a class with a name off the front of a text after the opening bracket, and says whether
it stands for the characters outside. -/
def splitNamed? (cs : List Char) : Option ((Bool × Charset) × List Char) :=
  match cs with
  | ':' :: rest =>
    let (negated, rest) := match rest with
      | '^' :: rest => (true, rest)
      | rest => (false, rest)
    match rest.dropWhile (· ≠ ':') with
    | ':' :: ']' :: after =>
      (Charset.classes.lookup (String.ofList (rest.takeWhile (· ≠ ':')))).map fun set =>
        ((negated, set), after)
    | _ => none
  | _ => none

def namedSet (mode : Mode) (negated : Bool) (set : Charset) : Except Fault Charset :=
  if mode.ascii then
    if negated then .error .noText else .ok (set.foldIf mode.anyCase)
  else if mode.anyCase then .error .unknownCase
  else .ok (set.negateIf negated)

/-- A class after its opening bracket, and the text from where reading goes on. -/
def openBracket (mode : Mode) (cs : List Char) : Bracket × List Char :=
  match mode.skip cs with
  | '^' :: rest => (⟨true, {}, none, true⟩, rest)
  | rest => (⟨false, {}, none, true⟩, rest)

/-- Reads a class whose innermost bracket is open within other ones.  Every step reads a character,
so `fuel` is the length of the text at most. -/
def readClass (mode : Mode) : Nat → Bracket → List Bracket → Reader (Charset × Nat)
  | 0, _, _, _ => .error .openClass
  | fuel + 1, here, outer, cs =>
    match mode.skip cs with
    | [] => .error .openClass
    | c :: rest =>
      if here.fresh && (c = '-' || (c = ']' && here.terms.count = 0)) then do
        let member ← checkMember mode c
        let next := here.add (.single member) 0
        readClass mode fuel { next with fresh := c = '-' } outer rest
      else
        match c, rest with
        | '[', rest =>
          match splitNamed? rest with
          | some ((negated, set), after) => do
            let set ← namedSet mode negated set
            readClass mode fuel (here.add set 0) outer after
          | none =>
            let (inner, after) := openBracket mode rest
            readClass mode fuel inner ({ here with fresh := false } :: outer) after
        | ']', rest => do
          let (set, depth) ← here.close mode
          match outer with
          | [] => .ok ((set, depth), rest)
          | parent :: others => readClass mode fuel (parent.add set depth) others rest
        | '&', '&' :: rest => readClass mode fuel (here.operate mode .inter) outer rest
        | '-', '-' :: rest => readClass mode fuel (here.operate mode .diff) outer rest
        | '~', '~' :: rest => readClass mode fuel (here.operate mode .symmDiff) outer rest
        | c, rest => do
          let (set, after) ← readTerm mode (c :: rest)
          readClass mode fuel (here.add set 0) outer after

/-! ## Groups -/

structure Piece where
  expr : Regex
  /-- How deeply groups, classes and repetitions are nested in it. -/
  depth : Nat := 0
  /-- Whether an anchor at words of all letters is in it. -/
  wordy : Bool := false
  deriving DecidableEq

/-- What stands in a group: expressions and settings of the mode. -/
inductive Item where
  | piece (p : Piece)
  | modes
  deriving DecidableEq

def Item.piece? : Item → Option Piece
  | .piece p => some p
  | .modes => none

namespace Piece

def times (p : Piece) (least : Nat) (most : Option Nat) (greedy : Bool) : Piece :=
  ⟨p.expr.times least most greedy, p.depth + 1, p.wordy && most ≠ some 0⟩

/-- Pieces one after the other, of so many items. -/
def ofSeq (count : Nat) (pieces : List Piece) : Piece :=
  ⟨.ofParts (pieces.map Piece.expr),
   pieces.foldl (fun depth p => max depth p.depth) 0 + if count < 2 then 0 else 1,
   pieces.any Piece.wordy⟩

def ofAlternatives : List Piece → Piece
  | [] => ⟨.empty, 0, false⟩
  | [p] => p
  | p :: rest =>
    ⟨.ofAlternatives ((p :: rest).map Piece.expr),
     rest.foldl (fun depth p => max depth p.depth) p.depth + 1, (p :: rest).any Piece.wordy⟩

end Piece

structure Group where
  /-- The alternatives that are complete, the last one first. -/
  branches : List Piece := []
  /-- The items of the alternative under way, the last one first. -/
  items : List Item := []
  /-- The number of the group, if its match is kept. -/
  number : Option Nat := none
  outside : Mode := {}
  deriving DecidableEq

namespace Group

def add (g : Group) (item : Item) : Group := { g with items := item :: g.items }

def repeatLast (g : Group) (least : Nat) (most : Option Nat) (greedy : Bool) :
    Except Fault Group :=
  match g.items with
  | .piece p :: rest => .ok { g with items := .piece (p.times least most greedy) :: rest }
  | _ => .error .nothingToRepeat

def branch (g : Group) : Piece := .ofSeq g.items.length (g.items.reverse.filterMap Item.piece?)

def endBranch (g : Group) : Group := { g with branches := g.branch :: g.branches, items := [] }

def content (g : Group) : Piece := .ofAlternatives (g.branch :: g.branches).reverse

def close (g : Group) : Piece :=
  let p := g.content
  let expr := match g.number with
    | some number => .group number p.expr
    | none => p.expr
  { p with expr := expr, depth := p.depth + 1 }

end Group

structure Progress where
  /-- The innermost open group, or the expression itself. -/
  here : Group := {}
  outer : List Group := []
  mode : Mode := {}
  names : List (List Char) := []
  count : Nat := 0
  deriving DecidableEq

namespace Progress

def add (p : Progress) (piece : Piece) : Progress := { p with here := p.here.add (.piece piece) }

/-- The last item repeated, and the text behind. -/
def repeatLast (p : Progress) (least : Nat) (most : Option Nat) (rest : List Char) :
    Except Fault (Progress × List Char) := do
  let (greedy, rest) := splitQuestion p.mode rest
  .ok ({ p with here := ← p.here.repeatLast least most greedy }, rest)

/-- A new group, with a mode of its own. -/
def openGroup (p : Progress) (mode : Mode) : Progress :=
  { p with here := { outside := p.mode }, outer := p.here :: p.outer, mode := mode }

def openKept (p : Progress) : Progress :=
  { p with
    here := { number := some (p.count + 1), outside := p.mode }
    outer := p.here :: p.outer
    count := p.count + 1 }

def closeGroup (p : Progress) : Except Fault Progress :=
  match p.outer with
  | [] => .error .strayParenthesis
  | g :: outer =>
    .ok { p with here := g.add (.piece p.here.close), outer := outer, mode := p.here.outside }

/-- A character for itself, or its class if letters match in either case. -/
def addChar (p : Progress) (c : Char) : Except Fault Progress :=
  if !p.mode.anyCase then .ok (p.add ⟨.text [c], 0, false⟩)
  else if !p.mode.ascii then .error .unknownCase
  else .ok (p.add ⟨.ofSet (.folded (.single c)), 0, false⟩)

def addEscape (p : Progress) : Escape → Except Fault Progress
  | .char c => p.addChar c
  | .byte n =>
    if p.mode.ascii && 0x80 ≤ n then .error .noText else p.addChar (Char.ofNat n)
  | .set s => .ok (p.add ⟨.ofSet s, 0, false⟩)
  | .anchor a => .ok (p.add ⟨.anchor a, 0, false⟩)
  | .wordAnchor => .ok (p.add ⟨.anchor .edge, 0, true⟩)

def dot (mode : Mode) : Charset :=
  if mode.dotAll then .all
  else if mode.crlf then .complement (.ofEnds [('\n', '\n'), ('\r', '\r')])
  else .complement (.single '\n')

end Progress

/-- Whether a character may stand in the name of a group, at its beginning or further on. -/
def isNameChar (first : Bool) (c : Char) : Bool :=
  c = '_' || Text.isLetter c ||
    (!first && (c = '.' || c = '[' || c = ']' || Text.isNumeral c))

def isName : List Char → Bool
  | [] => false
  | c :: rest => isNameChar true c && rest.all (isNameChar false)

/-- Reads the name of a group and the angle bracket after it. -/
def readName (p : Progress) : Reader Progress := fun cs =>
  let name := cs.takeWhile (· ≠ '>')
  match cs.dropWhile (· ≠ '>') with
  | [] => .error .badName
  | _ :: rest =>
    if !isName name then .error .badName
    else if p.names.contains name then .error .repeatedName
    else .ok ({ p.openKept with names := name :: p.names }, rest)

/-- Reads what follows an opening parenthesis and says what kind of group that begins. -/
def readOpening (p : Progress) : Reader Progress := fun cs =>
  match p.mode.skip cs with
  | '?' :: '=' :: _ | '?' :: '!' :: _ | '?' :: '<' :: '=' :: _ | '?' :: '<' :: '!' :: _ =>
    .error .lookAround
  | '?' :: 'P' :: '<' :: rest | '?' :: '<' :: rest => readName p rest
  | '?' :: rest => do
    let ((mode, letters), rest) ← p.mode.read [] rest
    match rest with
    | ':' :: rest => .ok (p.openGroup mode, rest)
    | rest =>
      if letters.isEmpty then .error .nothingToRepeat
      else .ok ({ p with here := p.here.add .modes, mode := mode }, rest.drop 1)
  | rest => .ok (p.openKept, rest)

/-- Reads one item, of which the first character is given. -/
def readItem (p : Progress) (c : Char) : Reader Progress := fun rest =>
  match c with
  | '(' => readOpening p rest
  | ')' => do .ok (← p.closeGroup, rest)
  | '|' => .ok ({ p with here := p.here.endBranch }, rest)
  | '[' => do
    let (inner, rest) := openBracket p.mode rest
    let ((set, depth), rest) ← readClass p.mode (rest.length + 1) inner [] rest
    .ok (p.add ⟨.ofSet set, depth, false⟩, rest)
  | '?' => p.repeatLast 0 (some 1) rest
  | '*' => p.repeatLast 0 none rest
  | '+' => p.repeatLast 1 none rest
  | '\x7b' => do
    let ((least, most), rest) ← readCounts p.mode rest
    p.repeatLast least most (p.mode.skip rest)
  | '\\' => do
    let (escape, rest) ← readEscape p.mode rest
    .ok (← p.addEscape escape, rest)
  | '.' =>
    if p.mode.ascii then .error .noText
    else .ok (p.add ⟨.ofSet (Progress.dot p.mode), 0, false⟩, rest)
  | '^' =>
    .ok (p.add ⟨.anchor (if p.mode.byLine then .lineStart p.mode.crlf else .textStart), 0, false⟩,
      rest)
  | '$' =>
    .ok (p.add ⟨.anchor (if p.mode.byLine then .lineEnd p.mode.crlf else .textEnd), 0, false⟩, rest)
  | c => do .ok (← p.addChar c, rest)

/-- Reads items up to the end of a text.  Every one has a character, so `fuel` is the length of the
text at most. -/
def readItems : Nat → Progress → List Char → Except Fault Progress
  | 0, p, _ => .ok p
  | fuel + 1, p, cs =>
    match p.mode.skip cs with
    | [] => .ok p
    | c :: rest => do
      let (p, rest) ← readItem p c rest
      readItems fuel p rest

def ofText? (text : List Char) : Except Fault Regex := do
  let p ← readItems text.length {} text
  if !p.outer.isEmpty then .error .openGroup
  else
    let piece := p.here.content
    if depthLimit < piece.depth then .error .tooDeep
    else if piece.wordy then .error .unknownWords
    else if roomLimit < piece.expr.room false || roomLimit < piece.expr.room true then
      .error .tooBig
    else .ok piece.expr

end NumberRules.Regex
