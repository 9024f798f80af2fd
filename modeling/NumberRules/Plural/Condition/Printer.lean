import NumberRules.Plural.Condition.Basic
import NumberRules.Plural.Token

/-! # Canonical text of plural conditions

A condition is written with the reserved words alone (`mod`, `in`, `not in`), which the grammar
reads back.  The word `or` binds looser than `and`, so a disjunction inside a conjunction stands in
parentheses; a negated condition always does.
-/

namespace NumberRules.Plural
set_option autoImplicit false

def Expr.tokens : Expr → List Token
  | literal value => [.number value.toNat]
  | operand o => [.operand o]
  | mod lhs rhs => lhs.tokens ++ .keyword .mod :: rhs.tokens

def RangeItem.tokens : RangeItem → List Token
  | value n => [.number n.toNat]
  | range low high => [.number low.toNat, .mark .dots, .number high.toNat]

/-- The tokens of a range list, its entries separated by commas. -/
def rangeTokens : List RangeItem → List Token
  | [] => []
  | [item] => item.tokens
  | item :: rest => item.tokens ++ .mark .comma :: rangeTokens rest

def Membership.keyword : Membership → Keyword
  | whole => .isIn
  | within => .within

namespace Condition

/-- Tokens in parentheses, if asked for. -/
def parenthesized (wanted : Bool) (tokens : List Token) : List Token :=
  if wanted then .mark .opening :: (tokens ++ [.mark .closing]) else tokens

def isOr : Condition → Bool
  | or _ _ => true
  | _ => false

def tokens : Condition → List Token
  | is negated lhs rhs =>
    lhs.tokens ++ .keyword .is :: ((if negated then [.keyword .not] else []) ++ rhs.tokens)
  | member membership negated subject items =>
    subject.tokens ++ ((if negated then [.keyword .not] else []) ++
      .keyword membership.keyword :: rangeTokens items)
  | and lhs rhs =>
    parenthesized lhs.isOr lhs.tokens ++ .keyword .and :: parenthesized rhs.isOr rhs.tokens
  | or lhs rhs => lhs.tokens ++ .keyword .or :: rhs.tokens
  | not inner => .keyword .not :: parenthesized true inner.tokens

def text (c : Condition) : String := String.ofList (Token.render c.tokens)

end Condition

end NumberRules.Plural
