/-! # Kinds of plural rules

Cardinal rules classify amounts (`1 day`, `2 days`), ordinal rules classify ranks (`1st`, `2nd`).
-/

namespace NumberRules.Plural
set_option autoImplicit false

inductive Kind where
  | cardinal
  | ordinal
  deriving DecidableEq, Hashable

namespace Kind

/-- The word for a kind in rule bodies, rules files and messages. -/
def name : Kind → String
  | cardinal => "cardinal"
  | ordinal => "ordinal"

/-- Every kind, in the order in which a rules file is compiled. -/
def all : List Kind := [cardinal, ordinal]

def ofName? (s : String) : Option Kind := all.find? (·.name = s)

end Kind

end NumberRules.Plural
