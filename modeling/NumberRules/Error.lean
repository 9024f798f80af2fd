import NumberRules.Double.Text
import NumberRules.Plural.Kind
import NumberRules.Plural.SyntaxError
import NumberRules.Spelling.SyntaxError

/-! # Errors

A `CompileError` says why rule text was refused, an `EvalError` why a compiled rule set has no
answer for a number.  Both name their cause; `message` words it.  Errors inside a rule set wrap the
error of the rule, and `root` is the innermost one.
-/

namespace NumberRules
set_option autoImplicit false

/-! ## Compiling -/

inductive CompileError where
  | conditionSyntax (e : Plural.SyntaxError)
  /-- The body of a spelling rule cannot be read, or is not allowed in its rule. -/
  | bodySyntax (e : Spelling.SyntaxError)
  /-- A key is neither a number nor one of the special keys. -/
  | invalidBaseValue (key : String)
  | invalidRadix (key : String) (radix : UInt32)
  /-- Two rules of a set have the same base value. -/
  | duplicateRule (ruleSet key : String)
  | inPluralRule (category : String) (source : CompileError)
  | inSpellingRule (ruleSet key : String) (source : CompileError)
  deriving DecidableEq

namespace CompileError

def message : CompileError → String
  | conditionSyntax e => e.message
  | bodySyntax e => e.message
  | invalidBaseValue key => s!"invalid RBNF base value '{key}'"
  | invalidRadix key radix => s!"invalid RBNF radix {radix.toNat} for rule '{key}'"
  | duplicateRule ruleSet key => s!"duplicate rule '{key}' in rule set '{ruleSet}'"
  | inPluralRule category source =>
    s!"invalid plural rule '{category}': " ++ source.message
  | inSpellingRule ruleSet key source =>
    s!"invalid rule '{key}' in rule set '{ruleSet}': " ++ source.message

def root : CompileError → CompileError
  | inPluralRule _ source => source.root
  | inSpellingRule _ _ source => source.root
  | e => e

end CompileError

/-! ## Evaluating -/

inductive EvalError where
  | invalidNumeral (text : String)
  /-- A substitution names a rule set that is not registered. -/
  | unknownRuleSet (name referrer : String) (suggestions : List String)
  | noApplicableRule (ruleSet : String) (value : Double)
  /-- A plural selector needs plural rules that are not registered. -/
  | missingPluralRules (kind : Plural.Kind) (ruleSet : String)
  /-- Rule sets called each other too deeply; the chain ends with the call that was refused. -/
  | tooDeep (chain : List String)
  deriving DecidableEq

def EvalError.message : EvalError → String
  | invalidNumeral text => s!"invalid numeric input '{text}'"
  | unknownRuleSet name referrer suggestions =>
    s!"unknown rule set '%{name}' referenced from '{referrer}'" ++
      (if suggestions.isEmpty then ""
       else " (did you mean: " ++ ", ".intercalate suggestions ++ "?)")
  | noApplicableRule ruleSet value =>
    s!"no rule in rule set '{ruleSet}' applies to {value.text}"
  | missingPluralRules kind ruleSet =>
    s!"no {kind.name} plural rules registered for plural selector in '{ruleSet}'"
  | tooDeep chain => "maximum rule-set depth exceeded: " ++ " -> ".intercalate chain

end NumberRules
