import NumberRules.Plural.Kind

/-! # Tokens of rule bodies

The body of a spelling rule is literal text with substitutions (`<…<`, `>…>`, `=…=`), plural
selectors (`$(cardinal,one{…}other{…})$`) and optional clauses (`[…]`).  Optional clauses do not
nest, so a body is a list of `Token`s over `Piece`s.  The tokens carry no numeric meaning yet: that
depends on the rule they stand in.
-/

namespace NumberRules.Spelling
set_option autoImplicit false

inductive Marker where
  /-- `<`, or an arrow to the left. -/
  | less
  /-- `>`, or an arrow to the right. -/
  | greater
  /-- `=` -/
  | equal
  deriving DecidableEq, Hashable

namespace Marker

def char : Marker → Char
  | less => '<'
  | greater => '>'
  | equal => '='

/-- The marker a character stands for, if it does. -/
def ofChar? (c : Char) : Option Marker :=
  if c = '<' || c = '←' then some less
  else if c = '>' || c = '→' then some greater
  else if c = '=' then some equal
  else none

end Marker

/-- A part of a body that may stand inside an optional clause. -/
inductive Piece where
  | text (cs : List Char)
  /-- A substitution with its target, if one is written. -/
  | substitution (marker : Marker) (target : Option (List Char))
  | selector (kind : Plural.Kind) (cases : List (List Char × List Char))
  deriving DecidableEq

inductive Token where
  /-- A part that may also stand in an optional clause. -/
  | piece (p : Piece)
  | optional (ps : List Piece)
  deriving DecidableEq

/-! ## Joining text -/

/-- A piece in front of others; two texts that meet become one. -/
def Piece.joined (p : Piece) (ps : List Piece) : List Piece :=
  match p, ps with
  | text a, text b :: rest => text (a ++ b) :: rest
  | p, ps => p :: ps

def Piece.joinTexts (ps : List Piece) : List Piece := ps.foldr Piece.joined []

/-- A token in front of others; two texts that meet become one. -/
def Token.joined (t : Token) (ts : List Token) : List Token :=
  match t, ts with
  | piece (.text a), piece (.text b) :: rest => piece (.text (a ++ b)) :: rest
  | t, ts => t :: ts

def Token.joinTexts (ts : List Token) : List Token := ts.foldr Token.joined []

/-! ## Reserved characters -/

/-- The characters that a body gives a meaning to, which an apostrophe takes away. -/
def reserved : List Char := ['\'', '<', '>', '=', '[', ']', '$', '←', '→']

/-- The characters that are not text unless an apostrophe precedes them. -/
def structural : List Char := ['<', '>', '=', '[', ']', '←', '→']

end NumberRules.Spelling
