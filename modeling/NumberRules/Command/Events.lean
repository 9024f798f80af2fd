import NumberRules.Command.Log
import NumberRules.RulesFile
import NumberRules.Spelling.Trace

/-! # What commands tell

The events of reading a rules file, of compiling what is in it, and of spelling numbers.  The events
of compiling follow the entries of a rule set one by one, with the cache that they are compiled with
and up to the first one that is refused.
-/

namespace NumberRules.Command
set_option autoImplicit false

/-! ## Single events -/

def loaded (path : String) : Event := ⟨.debug, .files, "loaded rules file " ++ path⟩

def recalledCondition (text : String) : Event :=
  ⟨.trace, .cache, s!"condition cache hit: '{text}'"⟩

def recalledRule (body : String) : Event := ⟨.trace, .cache, s!"rule cache hit: '{body}'"⟩

/-- An entry of plural rules without a condition was skipped. -/
def skipped (category : String) : Event :=
  ⟨.trace, .plurals, s!"skipping empty plural rule '{category}'"⟩

def compiledPlurals (rules : Plural.Rules) : Event :=
  ⟨.debug, .plurals, "compiled " ++ natText rules.rules.length ++
    " plural rules reading operands [" ++ rules.used.text ++ "]"⟩

/-- The number of rules of a set for numbers, apart from its special ones. -/
def numericCount (set : Spelling.RuleSet) : Nat :=
  set.rules.countP fun rule => match rule.base with | .number _ => true | _ => false

def compiledRuleSet (set : Spelling.RuleSet) : Event :=
  ⟨.debug, .ruleSets, s!"compiled rule set '{set.name}': " ++
    natText (numericCount set) ++ " numeric rules, " ++
    natText (set.rules.length - numericCount set) ++ " special rules, depends on \x7b" ++
    ", ".intercalate (set.dependsOn.toList.map Text.quoted) ++ "\x7d"⟩

def registered (set : Spelling.RuleSet) : Event :=
  ⟨.debug, .registry, s!"registered rule set '{set.name}'"⟩

def chosen (choice : Spelling.Choice) : Event :=
  ⟨.trace, .evaluation, s!"{choice.ruleSet}: rule {choice.rule.base.text} for {choice.value.text}"⟩

/-! ## Compiling -/

/-- What compiling entries of plural rules does, up to the first one that is refused. -/
def entryEvents (cache : Cache) : List (String × String) → List Event
  | [] => []
  | (category, text) :: rest =>
    if Plural.Rules.hasCondition (category, text) then
      match (Cache.condition text).run.run cache with
      | (.ok _, longer) =>
        (if cache.conditions.contains text then [recalledCondition text] else []) ++
          entryEvents longer rest
      | (.error _, _) => []
    else skipped category :: entryEvents cache rest

/-- What compiling the bodies of a rule set does, up to the first one that is refused. -/
def bodyEvents (contextOf : Spelling.RuleSet.Entry → Spelling.RuleContext) (cache : Cache) :
    List Spelling.RuleSet.Entry → List Event
  | [] => []
  | entry :: rest =>
    match (Cache.rule entry.body (contextOf entry)).run.run cache with
    | (.ok _, longer) =>
      (if cache.rules.contains (entry.body, contextOf entry) then [recalledRule entry.body]
        else []) ++ bodyEvents contextOf longer rest
    | (.error _, _) => []

/-- How far compiling what is in a file has come. -/
structure Compilation where
  events : List Event := []
  cache : Cache := .empty
  failed : Bool := false

def compilePluralsOf (file : RulesFile) (done : Compilation) (kind : Plural.Kind) : Compilation :=
  let events := done.events ++ entryEvents done.cache ((file.plurals? kind).getD [])
  match (file.compilePlurals kind).run.run done.cache with
  | (.ok rules, cache) => { done with events := events ++ [compiledPlurals rules], cache := cache }
  | (.error _, cache) => ⟨events, cache, true⟩

def compileRuleSetOf (file : RulesFile) (done : Compilation)
    (pairs : String × List (String × String)) : Compilation :=
  let name := Spelling.dropPercents pairs.1
  let bodies :=
    match Spelling.RuleSet.entriesFrom name [] pairs.2 with
    | .ok entries =>
      bodyEvents
        (·.context name ⟨file.defaultRuleSet⟩ (Spelling.RuleSet.isFractionSet entries))
        done.cache entries
    | .error _ => []
  let events := done.events ++ bodies
  match (file.compileRuleSet pairs.1 pairs.2).run.run done.cache with
  | (.ok set, cache) =>
    { done with events := events ++ [compiledRuleSet set, registered set], cache := cache }
  | (.error _, cache) => ⟨events, cache, true⟩

/-- What compiling the plural rules of a kind of a file does. -/
def pluralEvents (file : RulesFile) (kind : Plural.Kind) : List Event :=
  (compilePluralsOf file {} kind).events

/-- What compiling everything in a file does, whatever is refused or, if `thorough` is not set, up
to what is refused first. -/
def fileEvents (file : RulesFile) (thorough : Bool) : List Event :=
  let go {α : Type} (step : Compilation → α → Compilation) (done : Compilation) (a : α) :
      Compilation :=
    if done.failed && !thorough then done else step done a
  let done := file.kinds.foldl (go (compilePluralsOf file)) {}
  (file.ruleSets.toList.foldl (go (compileRuleSetOf file)) done).events

/-! ## Spelling -/

/-- What spelling a number with the rule set of a name does. -/
def spellEvents (reg : Spelling.Registry) (ruleSet : String) (x : Double) : List Event :=
  (reg.trace ruleSet x).choices.map chosen

end NumberRules.Command
