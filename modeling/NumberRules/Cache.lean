import Std.Data.HashMap
import NumberRules.Plural.Rules
import NumberRules.Spelling.RuleSet

/-! # Compile caches

A cache remembers the conditions it has read, by their text, and the spelling rules it has compiled,
by body and context.  Failures are not remembered.  Compiling through a cache changes the cache also
when the compilation fails: what was compiled before the failure stays.
-/

namespace NumberRules
set_option autoImplicit false

structure Cache where
  conditions : Std.HashMap String Plural.Condition := ∅
  rules : Std.HashMap (String × Spelling.RuleContext) Spelling.Rule := ∅

namespace Cache

def empty : Cache := {}

def size (cache : Cache) : Nat := cache.conditions.size + cache.rules.size

abbrev Cached := ExceptT CompileError (StateM Cache)

def condition (text : String) : Cached Plural.Condition := do
  match (← get).conditions[text]? with
  | some c => pure c
  | none => do
    let c ← ExceptT.mk (pure (Plural.Condition.compile text))
    modify fun cache => { cache with conditions := cache.conditions.insert text c }
    pure c

def rule (body : String) (context : Spelling.RuleContext) : Cached Spelling.Rule := do
  match (← get).rules[(body, context)]? with
  | some r => pure r
  | none => do
    let r ← ExceptT.mk (pure (Spelling.Rule.compile body context))
    modify fun cache => { cache with rules := cache.rules.insert (body, context) r }
    pure r

/-- The plural rule set of `(category, condition)` entries. -/
def pluralRules (entries : List (String × String)) : Cached Plural.Rules :=
  Plural.Rules.compileM condition entries

/-- The spelling rule set of `(key, body)` pairs. -/
def ruleSet (name : String) (options : Spelling.RuleSet.Options)
    (pairs : List (String × String)) : Cached Spelling.RuleSet :=
  Spelling.RuleSet.compileM rule name options pairs

/-- Forgets everything. -/
def clear : Cached Unit := set Cache.empty

end Cache

end NumberRules
