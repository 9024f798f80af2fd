import NumberRules.Spelling.Registry

/-! # Spelling numbers

`Registry.spell` spells a number with a rule set: it chooses a rule and writes the rule's nodes one
after the other.  A substitution that targets a rule set spells its value with that set, so rule
sets may call each other and themselves; the number of calls that may still be nested goes down
with every one, and spelling fails when none is left.

The writing of nodes takes the callee as an argument, so the recursion is in `spell` alone.
-/

namespace NumberRules.Spelling
set_option autoImplicit false

/-- Whether an optional clause is left out.  In a numeric rule it is left out for the base value and
the multiples of the divisor, in a rule for fractions for whole numbers. -/
def isOmitted (x : Double) (trigger : BaseValue) (divisor : Nat) : Bool :=
  match trigger with
  | .number base =>
    x.eq (.ofNat base.toNat) || (x.rem (.ofNat divisor)).eq .zero
  | .improper | .proper | .master => x.isWhole
  | .negative | .infinity | .nan => false

/-- The text of the case for a category, or else of the case for `other`. -/
def chooseCase (cases : List (String × String)) (category : String) : String :=
  match cases.find? (·.1 = category) with
  | some c => c.2
  | none =>
    match cases.find? (·.1 = Plural.other) with
    | some c => c.2
    | none => ""

namespace Registry

/-- What a substitution needs to know about the rule set it stands in: the name of that set, and
how a value is spelled with another set. -/
structure Caller where
  name : String
  call : RuleSet → Double → Except EvalError String

def spellTarget (reg : Registry) (caller : Caller) (target : Target) (value : Double) :
    Except EvalError String :=
  match target with
  | .ruleSet name => do
    let set ← reg.lookup name caller.name
    caller.call set value
  | .pattern text => .ok (reg.renderer value text)
  | .echo => .ok value.text

/-- A selector of the rule set `name` spelled for a number: the text of a case. -/
def spellSelector (reg : Registry) (name : String) (x : Double) (kind : Plural.Kind)
    (cases : List (String × String)) (divisor : Nat) : Except EvalError String :=
  match reg.pluralRules kind with
  | none => .error (.missingPluralRules kind name)
  | some rules => do
    let category ← rules.select (.ofDouble (x.abs.div (.ofNat divisor)).floor)
    .ok (chooseCase cases category)

def spellPart (reg : Registry) (caller : Caller) (x : Double) :
    Part → Except EvalError String
  | .literal text => .ok text
  | .substitution _ .digitByDigit target => do
    let texts ← x.fractionDigits.mapM fun d => reg.spellTarget caller target (.ofNat d.val)
    .ok (" ".intercalate texts)
  | .substitution _ op target => reg.spellTarget caller target (op.apply x)
  | .selector kind cases divisor => reg.spellSelector caller.name x kind cases divisor

/-- Parts spelled for a number, one after the other. -/
def spellParts (reg : Registry) (caller : Caller) (x : Double) (parts : List Part) :
    Except EvalError String := do
  let texts ← parts.mapM (reg.spellPart caller x)
  .ok (String.join texts)

def spellNode (reg : Registry) (caller : Caller) (x : Double) : Node → Except EvalError String
  | .part p => reg.spellPart caller x p
  | .optional parts trigger divisor =>
    if isOmitted x trigger divisor then .ok "" else reg.spellParts caller x parts

/-- Nodes spelled for a number, one after the other. -/
def spellNodes (reg : Registry) (caller : Caller) (x : Double) (nodes : List Node) :
    Except EvalError String := do
  let texts ← nodes.mapM (reg.spellNode caller x)
  .ok (String.join texts)

/-- A number spelled with a rule set, called through `chain`, when `depth` more rule sets may be
entered.  That a rule applies is checked before the depth. -/
def spell (reg : Registry) : Nat → List String → RuleSet → Double → Except EvalError String
  | depth, chain, set, x =>
    match set.ruleFor x with
    | none => .error (.noApplicableRule set.name x)
    | some rule =>
      match depth with
      | 0 => .error (.tooDeep (chain ++ [set.name]))
      | depth + 1 =>
        reg.spellNodes ⟨set.name, spell reg depth (chain ++ [set.name])⟩ x rule.nodes

/-- A number spelled with a rule set, which need not be registered. -/
def formatWith (reg : Registry) (set : RuleSet) (x : Double) : Except EvalError String :=
  reg.spell reg.maxDepth [] set x

/-- A number spelled with the rule set of a name. -/
def format (reg : Registry) (name : String) (x : Double) : Except EvalError String := do
  let set ← reg.lookup name name
  reg.formatWith set x

end Registry

end NumberRules.Spelling
