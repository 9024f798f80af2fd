import Std.Data.ExtTreeSet
import NumberRules.Spelling.BaseValue
import NumberRules.Spelling.Body.Lexer

/-! # Spelling rules

Compiling a body gives its tokens a meaning, which depends on the rule: its base value, its radix
and the rule set that contains it (`RuleContext`).  In a numeric rule `<<` stands for the quotient
by the rule's divisor and `>>` for the remainder; in a rule for fractions they stand for the integer
part and the fraction digits; in the rule for negative numbers `>>` stands for the opposite number.
-/

namespace NumberRules.Spelling
set_option autoImplicit false

/-! ## Operations and targets -/

/-- How a substitution derives its value from the number that is spelled. -/
inductive Operation where
  | quotient (divisor : Nat)
  | remainder (divisor : Nat)
  /-- The largest whole number that is not above the number. -/
  | integerPart
  /-- The fraction digits, read as one whole number. -/
  | fractionDigits
  /-- Every fraction digit, one at a time. -/
  | digitByDigit
  | negate
  | identity
  deriving DecidableEq

/-- The value an operation derives; for `digitByDigit`, that of all digits together. -/
def Operation.apply (op : Operation) (x : Double) : Double :=
  match op with
  | quotient divisor => (x.div (.ofNat divisor)).floor
  | remainder divisor => x.rem (.ofNat divisor)
  | integerPart => x.floor
  | fractionDigits | digitByDigit => .ofNat (Digits.value x.fractionDigits)
  | negate => x.neg
  | identity => x

inductive Target where
  | ruleSet (name : String)
  /-- To the number renderer, with a decimal pattern. -/
  | pattern (text : String)
  /-- Nowhere: its decimal text is written. -/
  | echo
  deriving DecidableEq

/-! ## Nodes -/

/-- A part of a compiled body that may stand in an optional clause. -/
inductive Part where
  | literal (text : String)
  /-- A derived value, spelled by its target. -/
  | substitution (marker : Marker) (op : Operation) (target : Target)
  /-- Text chosen by the plural category of the quotient by a divisor. -/
  | selector (kind : Plural.Kind) (cases : List (String × String)) (divisor : Nat)
  deriving DecidableEq

inductive Node where
  /-- A part that may also stand in an optional clause. -/
  | part (p : Part)
  /-- Parts that are left out at the boundaries of a rule. -/
  | optional (parts : List Part) (trigger : BaseValue) (divisor : Nat)
  deriving DecidableEq

def Part.references : Part → List String
  | substitution _ _ (.ruleSet name) => [name]
  | _ => []

def Node.references : Node → List String
  | part p => p.references
  | optional parts _ _ => parts.flatMap Part.references

structure Rule where
  base : BaseValue
  radix : UInt32
  divisor : Nat
  nodes : List Node
  deriving DecidableEq

namespace Rule

/-- The rule sets that a rule refers to, in the order of its body. -/
def references (rule : Rule) : List String := rule.nodes.flatMap Node.references

/-- The set of rule sets that a rule refers to. -/
def dependsOn (rule : Rule) : Std.ExtTreeSet String := .ofList rule.references

end Rule

/-! ## Divisors -/

/-- The product of two numbers, if it fits in 64 bits. -/
def product? (a b : UInt64) : Option UInt64 :=
  if a.toNat * b.toNat < UInt64.size then some (a * b) else none

/-- The power of `radix` after the given one, unless it does not fit or is above the limit. -/
def nextPower? (radix limit power : UInt64) : Option UInt64 :=
  (product? power radix).filter (· ≤ limit)

theorem le_of_nextPower? {radix limit power next : UInt64}
    (h : nextPower? radix limit power = some next) : next ≤ limit := by
  simpa using (Option.filter_eq_some_iff.1 h).2

/-- The last power of `radix` up to the limit, searched for from the given one on. -/
def lastPower (radix limit power : UInt64) : UInt64 :=
  match _h : nextPower? radix limit power with
  -- Powers of a radix below two do not grow; no rule has such a radix.
  | some next => if power < next then lastPower radix limit next else power
  | none => power
termination_by limit.toNat - power.toNat
decreasing_by
  have hle := UInt64.le_iff_toNat_le.1 (le_of_nextPower? _h)
  have hlt := UInt64.lt_iff_toNat_lt.1 ‹power < next›
  omega

/-- The divisor of a rule: a power of its radix if it is numeric, else one. -/
def divisorFor (base : BaseValue) (radix : UInt32) : Nat :=
  match base with
  | .number n => (lastPower radix.toUInt64 n 1).toNat
  | _ => 1

/-! ## Compiling -/

/-- The rule set that `<<` falls back to in a rule set for fractions. -/
def defaultRuleSet : String := "spellout-numbering"

structure RuleContext where
  base : BaseValue
  radix : UInt32 := Key.defaultRadix
  /-- The name of the rule set that contains the rule, without percent signs. -/
  ruleSet : String
  /-- Whether all rules of that rule set are rules for fractions. -/
  fractionRuleSet : Bool := false
  /-- The rule set that `<<` without a target falls back to in a rule set for fractions. -/
  defaultRuleSet : String := Spelling.defaultRuleSet
  deriving DecidableEq, Hashable

/-- A rule-set name without the percent signs in front. -/
def dropPercents (name : String) : String := String.ofList (name.toList.dropWhile (· = '%'))

namespace RuleContext

def divisor (context : RuleContext) : Nat := divisorFor context.base context.radix

/-- The rule set that contains the rule, as a target. -/
def containing (context : RuleContext) : Target := .ruleSet context.ruleSet

/-- The target of `<<` without a target in a rule for fractions. -/
def integerTarget (context : RuleContext) : Target :=
  if context.fractionRuleSet then .ruleSet context.defaultRuleSet else context.containing

/-- The meaning of a marker in the rule: the operation, and the target if none is written. -/
def meaning (context : RuleContext) (marker : Marker) (hasTarget : Bool) :
    Except Refusal (Operation × Option Target) :=
  if context.base.isConstant then .error .constantRule
  else
    match marker with
    | .less =>
      if context.base = .negative then .error .lessInNegativeRule
      else if context.base.isFraction then .ok (.integerPart, some context.integerTarget)
      else .ok (.quotient context.divisor, some context.containing)
    | .greater =>
      if context.base = .negative then .ok (.negate, some context.containing)
      else if context.base.isFraction then
        if hasTarget then .ok (.fractionDigits, none)
        else .ok (.digitByDigit, some context.containing)
      else .ok (.remainder context.divisor, some context.containing)
    | .equal => .ok (.identity, if context.base.isFraction then some .echo else none)

/-- The target that a text names: a rule set after percent signs, or a decimal pattern. -/
def targetOf (text : List Char) : Except Refusal Target :=
  match text with
  | '%' :: _ => .ok (.ruleSet (dropPercents (String.ofList text)))
  | '0' :: _ | '#' :: _ => .ok (.pattern (String.ofList text))
  | _ => .error .unknownTarget

def substitution (context : RuleContext) (marker : Marker) (target : Option (List Char)) :
    Except Refusal Part := do
  let (op, fallback) ← context.meaning marker target.isSome
  match target, fallback with
  | some text, _ => do
    let target ← targetOf text
    .ok (.substitution marker op target)
  | none, some target => .ok (.substitution marker op target)
  | none, none => .error .missingTarget

def part (context : RuleContext) : Piece → Except SyntaxFault Part
  | .text cs => .ok (.literal (String.ofList cs))
  | .substitution marker target =>
    (context.substitution marker target).mapError
      (.substitution marker (target.map String.ofList))
  | .selector kind cases =>
    .ok (.selector kind (cases.map fun c => (String.ofList c.1, String.ofList c.2))
      context.divisor)

def node (context : RuleContext) : Token → Except SyntaxFault Node
  | .piece p => (context.part p).map .part
  | .optional ps => do
    let parts ← ps.mapM context.part
    .ok (.optional parts context.base context.divisor)

def nodes (context : RuleContext) (body : String) : Except SyntaxFault (List Node) := do
  let ts ← Body.tokens body.toList
  ts.mapM context.node

end RuleContext

/-- The rule that a body gives in its context, or the reason why there is none. -/
def Rule.compile (body : String) (context : RuleContext) : Except CompileError Rule :=
  if context.radix < 2 then .error (.invalidRadix context.base.text context.radix)
  else
    match context.nodes body with
    | .ok nodes => .ok ⟨context.base, context.radix, context.divisor, nodes⟩
    | .error fault => .error (.bodySyntax ⟨body, fault⟩)

end NumberRules.Spelling
