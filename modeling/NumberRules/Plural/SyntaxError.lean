/-! # Syntax errors of plural conditions

An error keeps the condition in its collapsed form, what is wrong, and the text that was left to
read.  Column and offending text are functions of these.
-/

namespace NumberRules.Plural
set_option autoImplicit false

inductive SyntaxFault where
  | empty
  | malformed
  | leftover
  deriving DecidableEq

def SyntaxFault.message : SyntaxFault → String
  | empty => "empty condition"
  | malformed => "malformed condition"
  | leftover => "unexpected input"

structure SyntaxError where
  rule : String
  fault : SyntaxFault
  rest : String
  deriving DecidableEq

namespace SyntaxError

/-- The byte column of the error, counted from one. -/
def column (e : SyntaxError) : Nat := e.rule.utf8ByteSize - e.rest.utf8ByteSize + 1

/-- The text from the error on, in words if there is none. -/
def offending (e : SyntaxError) : String := if e.rest.isEmpty then "end of input" else e.rest

def message (e : SyntaxError) : String :=
  s!"plural rule syntax error at column {e.column} in '{e.rule}': " ++
    s!"{e.fault.message} (near '{e.offending}')"

end SyntaxError

end NumberRules.Plural
