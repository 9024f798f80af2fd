import NumberRules.Cache
import NumberRules.Diagnostic
import NumberRules.Json.Reader
import NumberRules.Spelling.Evaluation

/-! # Rules files

A rules file is a JSON object with the rules of one locale: the name of the rule set that numbers
are spelled with by default, plural rules as `[category, condition]` pairs for each kind, and named
rule sets of `[key, body]` pairs.  Every field may be missing, and further ones are ignored.

`RulesFile.registry` compiles a file into a registry: cardinal rules, ordinal rules, then rule sets
in the order of their names, up to the first error.
-/

namespace NumberRules
set_option autoImplicit false

structure RulesFile where
  /-- The rule set that numbers are spelled with by default. -/
  defaultRuleSet : String := Spelling.defaultRuleSet
  cardinal : Option (List (String × String)) := none
  ordinal : Option (List (String × String)) := none
  ruleSets : Std.ExtTreeMap String (List (String × String)) := ∅

namespace RulesFile

/-! ## From JSON -/

def text? : Json → Option String
  | .string points => Json.textOf? points
  | _ => none

def pair? : Json → Option (String × String)
  | .array [a, b] => do
    let a ← text? a
    let b ← text? b
    some (a, b)
  | _ => none

def pairs? : Json → Option (List (String × String))
  | .array items => items.mapM pair?
  | _ => none

def withPlurals (file : RulesFile) (kind : Plural.Kind) (pairs : List (String × String)) :
    RulesFile :=
  match kind with
  | .cardinal => { file with cardinal := some pairs }
  | .ordinal => { file with ordinal := some pairs }

/-- The file with the plural rules of an object by kind; a later field replaces an earlier one. -/
def readPlurals (file : RulesFile) : Json → Option RulesFile
  | .object fields =>
    fields.foldlM
      (fun file field => do
        let kind ← (Json.textOf? field.1).bind Plural.Kind.ofName?
        let pairs ← pairs? field.2
        some (file.withPlurals kind pairs))
      file
  | _ => none

/-- The file with the rule sets of an object by name; a later field replaces an earlier one. -/
def readRuleSets (file : RulesFile) : Json → Option RulesFile
  | .object fields =>
    fields.foldlM
      (fun file field => do
        let name ← Json.textOf? field.1
        let pairs ← pairs? field.2
        some { file with ruleSets := file.ruleSets.insert name pairs })
      file
  | _ => none

def readDefault (file : RulesFile) (j : Json) : Option RulesFile := do
  let name ← text? j
  some { file with defaultRuleSet := name }

/-- How the fields of a file are read, by name and in the order of the array form. -/
def fieldReaders : List (String × (RulesFile → Json → Option RulesFile)) :=
  [("default_rule_set", readDefault), ("plurals", readPlurals), ("rule_sets", readRuleSets)]

/-- The file with the field of one name, which must not occur twice. -/
def readField (fields : List (List Nat × Json)) (file : RulesFile)
    (reader : String × (RulesFile → Json → Option RulesFile)) : Option RulesFile :=
  match fields.filter (·.1 = Json.pointsOf reader.1) with
  | [] => some file
  | [field] => reader.2 file field.2
  | _ => none

/-- The file of a JSON value: an object, or an array of the fields in order without names, of which
the last ones may be missing. -/
def ofJson? : Json → Option RulesFile
  | .object fields =>
    if fields.all fun field => (Json.textOf? field.1).isSome then
      fieldReaders.foldlM (readField fields) {}
    else none
  | .array items =>
    if items.length ≤ fieldReaders.length then
      (fieldReaders.zip items).foldlM (fun file (reader, j) => reader.2 file j) {}
    else none
  | _ => none

/-- The file with a given content, or the error that refuses it. -/
def parse (path content : String) : Except LoadError RulesFile :=
  match Json.parse content.toList with
  | .error rest =>
    .error (.invalid path (Json.lineOf content.toList rest) (Json.columnOf content.toList rest)
      "invalid JSON" content)
  | .ok j =>
    match ofJson? j with
    | some file => .ok file
    | none => .error (.invalid path 1 1 "not a rules file" content)

/-! ## Compiling -/

/-- The plural rules of a kind, if the file has them. -/
def plurals? (file : RulesFile) : Plural.Kind → Option (List (String × String))
  | .cardinal => file.cardinal
  | .ordinal => file.ordinal

def kinds (file : RulesFile) : List Plural.Kind :=
  Plural.Kind.all.filter fun kind => (file.plurals? kind).isSome

/-- The compiled plural rules of a kind; missing ones compile to an empty set. -/
def compilePlurals (file : RulesFile) (kind : Plural.Kind) : Cache.Cached Plural.Rules :=
  Cache.pluralRules ((file.plurals? kind).getD [])

def compileRuleSet (file : RulesFile) (name : String) (pairs : List (String × String)) :
    Cache.Cached Spelling.RuleSet :=
  Cache.ruleSet name ⟨file.defaultRuleSet⟩ pairs

/-- The registry of everything in the file, compiled with a cache. -/
def registryM (file : RulesFile) : Cache.Cached Spelling.Registry := do
  let reg ← file.kinds.foldlM
    (fun reg kind => do
      let rules ← file.compilePlurals kind
      pure (reg.withPluralRules kind rules))
    Spelling.Registry.empty
  file.ruleSets.toList.foldlM
    (fun reg entry => do
      let set ← file.compileRuleSet entry.1 entry.2
      pure (reg.insert set))
    reg

/-- The registry of everything in the file, or the first error. -/
def registry (file : RulesFile) : Except CompileError Spelling.Registry :=
  (file.registryM.run.run .empty).1

end RulesFile

end NumberRules
