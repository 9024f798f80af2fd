import NumberRules.Spelling.Body.Basic

/-! # Syntax errors of rule bodies

An error keeps the whole body and the cause.  Reading a body can stop at a place in it; a body that
reads well can still hold a substitution that its rule does not allow.
-/

namespace NumberRules.Spelling
set_option autoImplicit false

inductive Refusal where
  | constantRule
  | lessInNegativeRule
  /-- A target begins with `%`, `0` or `#`. -/
  | unknownTarget
  /-- Only rules for fractions can do without the target of `==`. -/
  | missingTarget
  deriving DecidableEq

def Refusal.message : Refusal → String
  | constantRule => "substitutions are not allowed in Inf and NaN rules"
  | lessInNegativeRule => "'<<' is not allowed in a negative-number rule"
  | unknownTarget => "unrecognized substitution target"
  | missingTarget => "'==' without a target is only allowed in master and fraction rules"

inductive SyntaxFault where
  | triple (marker : Char)
  /-- Reading stopped in front of a character that begins nothing. -/
  | unexpected (rest : String)
  /-- Reading stopped inside a substitution, clause or selector. -/
  | malformed (rest : String)
  | substitution (marker : Marker) (target : Option String) (refusal : Refusal)
  deriving DecidableEq

def SyntaxFault.message : SyntaxFault → String
  | triple _ => "triple substitutions are not supported"
  | unexpected _ => "unexpected character"
  | malformed _ => "malformed token"
  | substitution _ _ refusal => refusal.message

/-- The text from a place on, in words if there is none. -/
def restText (rest : String) : String := if rest.isEmpty then "end of input" else rest

def SyntaxFault.offending : SyntaxFault → String
  | triple marker => String.ofList [marker, marker, marker]
  | unexpected rest => restText rest
  | malformed rest => restText rest
  | substitution marker target _ =>
    marker.char.toString ++ target.getD "" ++ marker.char.toString

structure SyntaxError where
  body : String
  fault : SyntaxFault
  deriving DecidableEq

def SyntaxError.message (e : SyntaxError) : String :=
  s!"RBNF rule syntax error in '{e.body}': {e.fault.message} (near '{e.fault.offending}')"

end NumberRules.Spelling
