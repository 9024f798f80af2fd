import NumberRules.Text.Digits
import NumberRules.Operand

/-! # Tokens of plural conditions

`Token.lex` cuts the text of a condition into maximal ASCII words, maximal runs of digits and
symbols; spaces only separate.  Anything else is a stray token, which no rule of the grammar
takes.  A token carries the text from its own start on, so that an error can tell where it is.

`Token.render` writes a list of tokens as text: one space between neighbours, except inside
parentheses and around the punctuation of range lists.
-/

namespace NumberRules.Plural
set_option autoImplicit false

/-! ## Tokens -/

inductive Keyword where
  | and
  | or
  | not
  | is
  | isIn
  | within
  | mod
  deriving DecidableEq

namespace Keyword

def all : List Keyword := [and, or, not, is, isIn, within, mod]

def spelling : Keyword → List Char
  | and => ['a', 'n', 'd']
  | or => ['o', 'r']
  | not => ['n', 'o', 't']
  | is => ['i', 's']
  | isIn => ['i', 'n']
  | within => ['w', 'i', 't', 'h', 'i', 'n']
  | mod => ['m', 'o', 'd']

end Keyword

inductive Punctuation where
  | opening
  | closing
  | percent
  | equals
  | notEquals
  | comma
  | dots
  deriving DecidableEq

def Punctuation.spelling : Punctuation → List Char
  | opening => ['(']
  | closing => [')']
  | percent => ['%']
  | equals => ['=']
  | notEquals => ['!', '=']
  | comma => [',']
  | dots => ['.', '.']

inductive Token where
  /-- A run of digits, by its value. -/
  | number (value : Nat)
  | operand (o : Operand)
  | keyword (k : Keyword)
  | mark (p : Punctuation)
  | stray (text : List Char)
  deriving DecidableEq

/-- A token together with the text from its start on. -/
structure Located where
  token : Token
  rest : List Char
  deriving DecidableEq

namespace Token

def spelling : Token → List Char
  | number value => Digits.toChars (Digits.ofNat value)
  | operand o => [o.letter]
  | keyword k => k.spelling
  | mark p => p.spelling
  | stray text => text

/-! ## From text -/

/-- The token of a maximal word. -/
def ofWord (word : List Char) : Token :=
  match Keyword.all.find? (·.spelling = word), Operand.all.find? ([·.letter] = word) with
  | some k, _ => keyword k
  | none, some o => operand o
  | none, none => stray word

/-- The token that begins with `c`, and the text after it. -/
def next (c : Char) (rest : List Char) : Token × List Char :=
  match Digit.ofChar? c with
  | some d =>
    let (ds, after) := Digits.takeLeading rest
    (number (Digits.value (d :: ds)), after)
  | none =>
    if c.isAlpha then (ofWord (c :: rest.takeWhile Char.isAlpha), rest.dropWhile Char.isAlpha)
    else
      match c, rest with
      | '(', after => (mark .opening, after)
      | ')', after => (mark .closing, after)
      | '%', after => (mark .percent, after)
      | '=', after => (mark .equals, after)
      | '!', '=' :: after => (mark .notEquals, after)
      | ',', after => (mark .comma, after)
      | '.', '.' :: after => (mark .dots, after)
      | c, after => (stray [c], after)

theorem length_dropWhile_le (p : Char → Bool) (cs : List Char) :
    (cs.dropWhile p).length ≤ cs.length :=
  (List.dropWhile_suffix p).length_le

theorem length_next_le (c : Char) (rest : List Char) : (next c rest).2.length ≤ rest.length := by
  unfold next
  split
  · exact Digits.length_takeLeading_le rest
  · split
    · exact length_dropWhile_le _ _
    · split <;> simp only [List.length_cons] <;> omega

/-- The tokens of a text. -/
def lex : List Char → List Located
  | [] => []
  | c :: rest =>
    if c = ' ' then lex rest
    else ⟨(next c rest).1, c :: rest⟩ :: lex (next c rest).2
termination_by cs => cs.length
decreasing_by
  · simp
  · have := length_next_le c rest
    simp only [List.length_cons]
    omega

/-! ## To text -/

/-- Whether a space stands between two neighbouring tokens. -/
def spaced (a b : Token) : Bool :=
  !(a = mark .opening || a = mark .comma || a = mark .dots ||
    b = mark .closing || b = mark .comma || b = mark .dots)

/-- The text of a list of tokens. -/
def render : List Token → List Char
  | [] => []
  | [a] => a.spelling
  | a :: b :: rest => a.spelling ++ ((if spaced a b then [' '] else []) ++ render (b :: rest))

end Token

end NumberRules.Plural
