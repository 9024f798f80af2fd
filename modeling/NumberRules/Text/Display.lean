import NumberRules.Text.Emoji
import NumberRules.Text.Ligature

/-! # Widths of texts

`displayWidth` counts the columns that a text takes in a terminal.  It is the sum of the widths of
its characters, except where neighbours are drawn as one: emoji with their selectors, modifiers and
joiners, flags, ligatures, composed vowels and line ends.  A text is read from its end: `step` gives
the columns that one more character in front adds, from what has been read just before.
-/

namespace NumberRules.Text
set_option autoImplicit false

/-! ## What follows a character -/

/-- The part of an emoji that stands after a joiner, with what has been read in front of the
joiner so far. -/
inductive Joined where
  | bare
  | keycap
  | oneIndicator
  | evenIndicators
  | oddIndicators
  /-- The end of a row of tags, and so many letters and digits in front of it. -/
  | tags (letters digits : Nat)
  deriving DecidableEq

/-- What follows a character, as far as it matters. -/
inductive Follower where
  | other
  | lineFeed
  | emoji
  | modifier
  | indicator
  | indicators
  | joined (before : Joined)
  | kiratRaiE
  /-- Kirat Rai vowel sign ai, as one sign or as two. -/
  | kiratRaiAi
  /-- The second letter of a ligature, perhaps with a joiner in front of it. -/
  | ligature (second : Ligature.Second) (isJoined : Bool)
  deriving DecidableEq

/-- What a selector asks of the character in front of it. -/
inductive Selector where
  | emoji
  | text
  | fullWidth
  deriving DecidableEq

def Selector.ofChar? (c : Char) : Option Selector :=
  if c = emojiSelector then some emoji
  else if c = textSelector then some text
  else if c = fullWidthSelector then some fullWidth
  else none

/-- Which selectors are still waiting for the character that they ask something of. -/
structure Selectors where
  emoji : Bool := false
  text : Bool := false
  fullWidth : Bool := false
  deriving DecidableEq

namespace Selectors

def none : Selectors := {}

def add (selectors : Selectors) : Selector → Selectors
  | .emoji => { selectors with emoji := true }
  | .text => { selectors with text := true }
  | .fullWidth => { selectors with fullWidth := true }

end Selectors

/-- What has been read of a text, from its end. -/
structure Tail where
  selectors : Selectors := .none
  follower : Follower := .other
  deriving DecidableEq

namespace Follower

/-- Whether an emoji in front would be joined with the follower. -/
def isJoined : Follower → Bool
  | joined _ => true
  | _ => false

/-- What a character is to the one in front of it. -/
def ofChar (c : Char) : Follower :=
  match if isPlain c then none else Ligature.Second.ofChar? c with
  | some second => ligature second false
  | none =>
    if isPlain c then other
    else if c = Char.ofNat 0x16D67 then kiratRaiE
    else if c = Char.ofNat 0x16D68 then kiratRaiAi
    else if isIndicator c then indicator
    else if isModifier c then modifier
    else if isEmoji c then emoji
    else other

end Follower

namespace Tail

/-- A tail with one more selector.  The selectors in front of a second letter gather; in front of
anything else the last one counts, and only the emoji style leaves a joined emoji in place. -/
def select (tail : Tail) (selector : Selector) : Tail :=
  match selector, tail.follower with
  | _, .ligature _ _ => { tail with selectors := tail.selectors.add selector }
  | .emoji, .joined .bare => ⟨Selectors.none.add selector, tail.follower⟩
  | .emoji, .joined .keycap => ⟨Selectors.none.add selector, tail.follower⟩
  | _, _ => ⟨Selectors.none.add selector, .other⟩

/-- A tail without the selectors for the emoji style, which found nothing to act on.  They leave a
second letter in place and nothing else. -/
def dropEmoji (tail : Tail) : Tail :=
  match tail.follower with
  | .ligature _ _ => { tail with selectors := { tail.selectors with emoji := false } }
  | _ => {}

end Tail

/-! ## Adding a character in front -/

/-- The columns that a character adds, and what it is to the one in front of it. -/
abbrev Added := Int × Follower

def alone (c : Char) : Added := (charWidth c, .ofChar c)

/-- A character in front of a joined emoji, if it belongs to it. -/
def joinedStep (c : Char) (before : Joined) : Option Added :=
  match before with
  | .bare =>
    if c = keycap then some (0, .joined .keycap)
    else if isIndicator c then some (1, .joined .oneIndicator)
    else if isModifier c then some (0, .modifier)
    else if c = tagEnd then some (0, .joined (.tags 0 0))
    else if isEmoji c then some (0, .emoji)
    else none
  | .keycap => none
  | .oneIndicator => if isIndicator c then some (-1, .joined .evenIndicators) else none
  | .evenIndicators =>
    if isIndicator c then some (3, .joined .oddIndicators)
    else if c = joiner then some (0, .joined .bare)
    else none
  | .oddIndicators =>
    if isIndicator c then some (-1, .joined .evenIndicators)
    else if c = joiner then some (0, .joined .bare)
    else none
  | .tags letters digits =>
    if isTagLetter c && digits = 0 && letters < 6 then
      some (0, .joined (.tags (letters + 1) digits))
    else if isTagDigit c && ((digits = 0 && letters ≤ 4) || digits = 1 || digits = 2) then
      some (0, .joined (.tags letters (digits + 1)))
    else if c = blackFlag && ((digits = 0 && 3 ≤ letters) || digits = 3) then some (0, .emoji)
    else none

/-- A character in front of a second letter, if it belongs to the ligature or does not come in
between. -/
def ligatureStep (c : Char) (second : Ligature.Second) (isJoined : Bool) : Option Added :=
  match second.meet isJoined c with
  | some (width, next) =>
    some (width, match next with | some second => .ligature second false | none => .other)
  | none =>
    if second.ignores c then some (0, .ligature second (isJoined || c = joiner)) else none

/-- A character in front of the Kirat Rai vowel sign e, if both compose. -/
def kiratRaiStep (c : Char) : Option Added :=
  if c = Char.ofNat 0x16D63 then some (0, .other)
  else if c = Char.ofNat 0x16D67 then some (0, .kiratRaiAi)
  else if c = Char.ofNat 0x16D68 then some (1, .kiratRaiE)
  else if c = Char.ofNat 0x16D69 then some (0, .other)
  else none

/-- A character in front of a follower, if both are drawn as one. -/
def together (c : Char) (follower : Follower) : Option Added :=
  match follower with
  | .other => none
  | .lineFeed => if c = '\r' then some (0, .other) else none
  | .emoji => if c = joiner then some (0, .joined .bare) else none
  | .modifier =>
    if isModifierBase c then some (0, .emoji)
    else if c = joiner then some (0, .joined .bare)
    else none
  | .indicator => if isIndicator c then some (1, .indicators) else none
  | .indicators =>
    if isIndicator c then some (1, .indicators)
    else if c = joiner then some (0, .joined .bare)
    else none
  | .joined before => joinedStep c before
  | .kiratRaiE => kiratRaiStep c
  | .kiratRaiAi => if c = Char.ofNat 0x16D63 then some (0, .other) else none
  | .ligature second isJoined => ligatureStep c second isJoined

/-- Whether a character is a quotation mark that has a full-width form. -/
def isQuotationMark (c : Char) : Bool :=
  c = '\u2018' || c = '\u2019' || c = '\u201c' || c = '\u201d'

/-- A character, which is no selector, in front of a tail: selectors for the text style and the
full-width form act on it if they can. -/
def shapedStep (c : Char) (tail : Tail) : Int × Tail :=
  if tail.selectors.text && isNarrowedByText c then (1, {})
  else if tail.selectors.fullWidth && isQuotationMark c then (2, {})
  else
    let (width, follower) := (together c tail.follower).getD (alone c)
    (width, ⟨.none, follower⟩)

/-- A character in front of a tail without a selector for the emoji style. -/
def plainStep (c : Char) (tail : Tail) : Int × Tail :=
  if c = '\n' then (1, ⟨.none, .lineFeed⟩)
  else
    match Selector.ofChar? c with
    | some selector => (0, tail.select selector)
    | none => shapedStep c tail

/-- A character in front of a tail: the columns that it adds, and the longer tail. -/
def step (c : Char) (tail : Tail) : Int × Tail :=
  if !tail.selectors.emoji then plainStep c tail
  else if isStyled c then (if tail.follower.isJoined then 0 else 2, ⟨.none, .emoji⟩)
  else plainStep c tail.dropEmoji

/-- The columns of a text, and the text as a tail. -/
def measure (cs : List Char) : Int × Tail :=
  cs.foldr
    (fun c measured =>
      let (width, tail) := step c measured.2
      (measured.1 + width, tail))
    (0, {})

def displayWidth (text : String) : Nat := (measure text.toList).1.toNat

end NumberRules.Text
