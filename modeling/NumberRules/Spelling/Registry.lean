import Std.Data.ExtTreeMap
import NumberRules.Suggestion
import NumberRules.Text.Quoted
import NumberRules.Plural.Rules
import NumberRules.Spelling.Pattern
import NumberRules.Spelling.RuleSet

/-! # Registries

A registry holds what spelling a number needs: rule sets by name, plural rules for selectors, a
renderer for decimal patterns and a limit on nested rule-set calls.  Rule sets refer to each other
by name, and a name is looked up only when a number is spelled; `unresolvedReferences` finds the
names that would not be found.
-/

namespace NumberRules.Spelling
set_option autoImplicit false

def defaultMaxDepth : Nat := 64

/-- The rule sets of one locale and what they need. -/
structure Registry where
  sets : Std.ExtTreeMap String RuleSet := ∅
  cardinal : Option Plural.Rules := none
  ordinal : Option Plural.Rules := none
  renderer : Double → String → String := plainText
  /-- The number of rule sets that may be entered at the same time. -/
  maxDepth : Nat := defaultMaxDepth

namespace Registry

def empty : Registry := {}

/-! ## Contents -/

def pluralRules (reg : Registry) : Plural.Kind → Option Plural.Rules
  | .cardinal => reg.cardinal
  | .ordinal => reg.ordinal

def withPluralRules (reg : Registry) (kind : Plural.Kind) (rules : Plural.Rules) : Registry :=
  match kind with
  | .cardinal => { reg with cardinal := some rules }
  | .ordinal => { reg with ordinal := some rules }

/-- The registry with one more rule set, which takes the place of one with the same name. -/
def insert (reg : Registry) (set : RuleSet) : Registry :=
  { reg with sets := reg.sets.insert set.name set }

/-- The rule set of a name; percent signs in front of the name do not count. -/
def get? (reg : Registry) (name : String) : Option RuleSet := reg.sets[dropPercents name]?

def names (reg : Registry) : List String := reg.sets.keys

def size (reg : Registry) : Nat := reg.sets.size

/-- The rule set that `referrer` refers to by a name. -/
def lookup (reg : Registry) (name referrer : String) : Except EvalError RuleSet :=
  match reg.get? name with
  | some set => .ok set
  | none =>
    let name := dropPercents name
    .error (.unknownRuleSet name (dropPercents referrer) (suggestions name reg.names))

/-! ## References -/

/-- The references of one rule set to names that are not registered, in order. -/
def unresolvedOf (reg : Registry) (set : RuleSet) : List (String × String) :=
  (set.dependsOn.toList.filter fun name => !reg.sets.contains name).map fun name =>
    (set.name, name)

/-- The references to names that are not registered, as pairs of a rule set and a name, in
order. -/
def unresolvedReferences (reg : Registry) : List (String × String) :=
  reg.sets.values.flatMap reg.unresolvedOf

/-! ## Summary -/

def truthText (b : Bool) : String := if b then "true" else "false"

/-- One line about a registry: its names, whether it has plural rules of each kind, and its limit on
nested calls. -/
def summary (reg : Registry) : String :=
  "RbnfRegistry \x7b rule_sets: [" ++ ", ".intercalate (reg.names.map Text.quoted) ++
    "], cardinal: " ++ truthText reg.cardinal.isSome ++
    ", ordinal: " ++ truthText reg.ordinal.isSome ++
    ", max_depth: " ++ natText reg.maxDepth ++ ", .. \x7d"

end Registry

end NumberRules.Spelling
