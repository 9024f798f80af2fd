import NumberRules.Text.Blank
import NumberRules.Plural.SyntaxError
import NumberRules.Plural.Condition.Printer

/-! # Reading plural conditions

The grammar, loosest first:

* a condition is one or more conjunctions joined by `or`;
* a conjunction is one or more terms joined by `and`;
* a term is a parenthesized condition or a relation, either of them after an optional `not`;
* a relation compares two expressions with `is` or `is not`, or looks an expression up in a range
  list with `in`, `=`, `within`, `not in`, `!=` or `not within`;
* an expression is one or more numbers and operands joined by `mod` or `%`;
* a range list is one or more numbers and ranges `a..b`, separated by commas.

Joined parts nest to the left.  One token is enough to decide at every place but one: a comma
belongs to a range list only if a number follows it.  A reader returns what it has read and the
tokens after it, or the tokens from the first one that cannot be taken.
-/

namespace NumberRules.Plural
set_option autoImplicit false

/-- Reads an `α` off the front of a token list, or fails at a place in it. -/
abbrev Reader (α : Type) := List Located → Except (List Located) (α × List Located)

/-! ## Numbers and expressions -/

/-- The number of a digit run that fits a 64-bit word. -/
def Token.word? : Token → Option UInt64
  | number value => if value < UInt64.size then some (UInt64.ofNat value) else none
  | _ => none

def Token.primary? : Token → Option Expr
  | operand o => some (.operand o)
  | t => t.word?.map .literal

def Token.isMod (t : Token) : Bool := t = keyword .mod || t = mark .percent

namespace Expr

/-- Reads the parts that are joined to an expression by `mod` or `%`. -/
def readTail (lhs : Expr) : Reader Expr
  | [] => .ok (lhs, [])
  | [op] => if op.token.isMod then .error [] else .ok (lhs, [op])
  | op :: t :: rest =>
    if op.token.isMod then
      match t.token.primary? with
      | some rhs => readTail (.mod lhs rhs) rest
      | none => .error (t :: rest)
    else .ok (lhs, op :: t :: rest)

def read : Reader Expr
  | [] => .error []
  | t :: rest =>
    match t.token.primary? with
    | some first => readTail first rest
    | none => .error (t :: rest)

end Expr

/-! ## Range lists -/

namespace RangeItem

/-- Reads the rest of an entry that begins with the number `low`. -/
def readFrom (low : UInt64) : Reader RangeItem
  | ⟨.mark .dots, _⟩ :: rest =>
    match rest with
    | [] => .error []
    | t :: rest =>
      match t.token.word? with
      | some high => .ok (.range low high, rest)
      | none => .error (t :: rest)
  | ts => .ok (.value low, ts)

/-- Reads up to `count` more entries, each after a comma.  A comma without a number after it stays
unread. -/
def readMore : Nat → Reader (List RangeItem)
  | count + 1, ⟨.mark .comma, text⟩ :: t :: rest =>
    match t.token.word? with
    | some low => do
      let (item, rest) ← readFrom low rest
      let (items, rest) ← readMore count rest
      .ok (item :: items, rest)
    | none => .ok ([], ⟨.mark .comma, text⟩ :: t :: rest)
  | _, ts => .ok ([], ts)

def readList : Reader (List RangeItem)
  | [] => .error []
  | t :: rest =>
    match t.token.word? with
    | some low => do
      let (item, rest) ← readFrom low rest
      let (items, rest) ← readMore rest.length rest
      .ok (item :: items, rest)
    | none => .error (t :: rest)

end RangeItem

/-! ## Conditions -/

namespace Condition

def readComparison (negated : Bool) (lhs : Expr) : Reader Condition := fun ts => do
  let (rhs, ts) ← Expr.read ts
  .ok (.is negated lhs rhs, ts)

def readMembership (membership : Membership) (negated : Bool) (subject : Expr) :
    Reader Condition := fun ts => do
  let (items, ts) ← RangeItem.readList ts
  .ok (.member membership negated subject items, ts)

def readRelationTail (lhs : Expr) : Reader Condition
  | ⟨.keyword .is, _⟩ :: ⟨.keyword .not, _⟩ :: ts => readComparison true lhs ts
  | ⟨.keyword .is, _⟩ :: ts => readComparison false lhs ts
  | ⟨.keyword .isIn, _⟩ :: ts => readMembership .whole false lhs ts
  | ⟨.keyword .within, _⟩ :: ts => readMembership .within false lhs ts
  | ⟨.keyword .not, _⟩ :: ⟨.keyword .isIn, _⟩ :: ts => readMembership .whole true lhs ts
  | ⟨.keyword .not, _⟩ :: ⟨.keyword .within, _⟩ :: ts => readMembership .within true lhs ts
  | ⟨.mark .notEquals, _⟩ :: ts => readMembership .whole true lhs ts
  | ⟨.mark .equals, _⟩ :: ts => readMembership .whole false lhs ts
  | ts => .error ts

def readRelation : Reader Condition := fun ts => do
  let (lhs, ts) ← Expr.read ts
  readRelationTail lhs ts

/-- Reads what `inner` reads and the parenthesis that closes it. -/
def readClosed (inner : Reader Condition) : Reader Condition := fun ts => do
  let (c, ts) ← inner ts
  match ts with
  | ⟨.mark .closing, _⟩ :: ts => .ok (c, ts)
  | ts => .error ts

/-- Reads a term without `not` in front; `inner` reads what stands in parentheses. -/
def readPlain (inner : Reader Condition) : Reader Condition
  | ⟨.mark .opening, _⟩ :: ts => readClosed inner ts
  | ts => readRelation ts

def readTerm (inner : Reader Condition) : Reader Condition
  | ⟨.keyword .not, _⟩ :: ts => do
    let (c, ts) ← readPlain inner ts
    .ok (.not c, ts)
  | ts => readPlain inner ts

/-- Reads up to `count` more parts, each after the joining word, and joins them to `lhs`. -/
def readJoined (word : Keyword) (join : Condition → Condition → Condition)
    (part : Reader Condition) : Nat → Condition → Reader Condition
  | count + 1, lhs, t :: ts =>
    if t.token = .keyword word then do
      let (rhs, ts) ← part ts
      readJoined word join part count (join lhs rhs) ts
    else .ok (lhs, t :: ts)
  | _, lhs, ts => .ok (lhs, ts)

/-- Reads one or more parts with the joining word between them. -/
def readChain (word : Keyword) (join : Condition → Condition → Condition)
    (part : Reader Condition) : Reader Condition := fun ts => do
  let (first, ts) ← part ts
  readJoined word join part ts.length first ts

/-- Reads a condition whose parentheses are nested less than `depth` deep. -/
def readWithin : Nat → Reader Condition
  | 0 => .error
  | depth + 1 => readChain .or .or (readChain .and .and (readTerm (readWithin depth)))

/-- Reads a condition.  Parentheses cannot be nested deeper than there are tokens. -/
def read : Reader Condition := fun ts => readWithin (ts.length + 1) ts

/-! ## From text -/

/-- The text of a condition proper: what precedes the samples, with single spaces. -/
def normalize (text : String) : String :=
  String.ofList (Text.collapse (text.toList.takeWhile (· ≠ '@')))

/-- The text from a place in a token list on. -/
def textFrom : List Located → String
  | [] => ""
  | t :: _ => String.ofList t.rest

def parse (text : String) : Except SyntaxError Condition :=
  let rule := normalize text
  if rule.isEmpty then .error ⟨rule, .empty, rule⟩
  else
    match read (Token.lex rule.toList) with
    | .ok (c, []) => .ok c
    | .ok (_, ts) => .error ⟨rule, .leftover, textFrom ts⟩
    | .error ts => .error ⟨rule, .malformed, textFrom ts⟩

end Condition

end NumberRules.Plural
