import NumberRules.Command.Arguments
import NumberRules.Command.Events
import NumberRules.Command.Table
import NumberRules.Double.Reader
import NumberRules.Json.Printer

/-! # Running commands

A command reads files through a function it is given and answers with an `Outcome`: an exit code
and the texts for both output streams.  What it does on the way is told in a log in front of the
text for standard error, as far as the setting asks for that.  Nothing here touches the system.

The exit codes are those of `sysexits`: 65 for findings in the input, 70 if a command cannot do its
work at all, and 2 for wrong arguments.
-/

namespace NumberRules.Command
set_option autoImplicit false

/-! ## Outcomes -/

structure Outcome where
  exit : Nat
  output : String := ""
  errors : String := ""
  deriving DecidableEq

def exitOk : Nat := 0

def exitUsage : Nat := 2

def exitData : Nat := 65

def exitSoftware : Nat := 70

/-- The exit code of a command that has findings or not. -/
def exitOf (findings : Bool) : Nat := if findings then exitData else exitOk

/-- Gives the content of the file at a path, or the reason why there is none. -/
abbrev Contents := String → Except FileError String

def line (text : String) : String := text ++ "\n"

def jsonLine (j : Json) : String := line j.pretty

/-! ## Reading rules files -/

def load (contentOf : Contents) (path : String) : Except LoadError RulesFile :=
  match contentOf path with
  | .ok content => RulesFile.parse path content
  | .error e => .error (.unreadable path e)

/-- The outcome of a command that cannot do its work. -/
def failure (reason : String) : Outcome := ⟨exitSoftware, "", line reason⟩

/-! ## Checking -/

def styled (colour : String) (word : String) : String :=
  "\x1b[1m\x1b[" ++ colour ++ "m" ++ word ++ "\x1b[39m\x1b[0m"

def red : String := "31"

def green : String := "32"

def yellow : String := "33"

/-- An error of a rules file and the part of the file it is in. -/
structure Finding where
  origin : String
  error : CompileError
  deriving DecidableEq

/-- The findings in a rules file, and the references between its rule sets that lead nowhere. -/
structure Findings where
  errors : List Finding := []
  /-- The references as pairs of a rule set and a name. -/
  unresolved : List (String × String) := []
  deriving DecidableEq

/-- What checking a rules file has come to so far. -/
structure Progress where
  cache : Cache := .empty
  registry : Spelling.Registry := .empty
  failed : List String := []
  /-- The errors, in order. -/
  errors : List Finding := []

def checkPlurals (file : RulesFile) (progress : Progress) (kind : Plural.Kind) : Progress :=
  match (file.compilePlurals kind).run.run progress.cache with
  | (.ok _, cache) => { progress with cache := cache }
  | (.error e, cache) =>
    { progress with cache := cache, errors := progress.errors ++ [⟨"plurals." ++ kind.name, e⟩] }

def checkRuleSet (file : RulesFile) (progress : Progress)
    (entry : String × List (String × String)) : Progress :=
  match (file.compileRuleSet entry.1 entry.2).run.run progress.cache with
  | (.ok set, cache) =>
    { progress with
      cache := cache
      registry := progress.registry.insert set }
  | (.error e, cache) =>
    { progress with
      cache := cache
      failed := progress.failed ++ [Spelling.dropPercents entry.1]
      errors := progress.errors ++ [⟨"rule_sets." ++ entry.1, e⟩] }

/-- Compiles everything in a rules file, whatever fails.  References to rule sets that failed are no
findings of their own. -/
def checkFile (file : RulesFile) : Findings :=
  let progress := file.kinds.foldl (checkPlurals file) {}
  let progress := file.ruleSets.toList.foldl (checkRuleSet file) progress
  ⟨progress.errors,
    progress.registry.unresolvedReferences.filter fun r => !progress.failed.contains r.2⟩

structure Report where
  file : String
  errors : List String
  unresolved : List String
  /-- The lines for standard error, apart from warnings. -/
  details : String
  deriving DecidableEq

def referenceText (reference : String × String) : String :=
  reference.1 ++ " -> %" ++ reference.2

def loadDetails (e : LoadError) : String :=
  match Diagnostic.ofLoadError? e with
  | some d => d.render
  | none => line ("error: " ++ e.message)

/-- The report on a rules file that could be read. -/
def reportOnFile (json : Bool) (path : String) (file : RulesFile) : Report :=
  let findings := checkFile file
  let details := findings.errors.map fun f => (Diagnostic.ofCompileError f.origin f.error).render
  ⟨path, findings.errors.map fun f => f.origin ++ ": " ++ f.error.message,
    findings.unresolved.map referenceText, if json then "" else String.join details⟩

def reportOn (contentOf : Contents) (json : Bool) (path : String) : Report :=
  match load contentOf path with
  | .error e => ⟨path, [e.message], [], if json then "" else loadDetails e⟩
  | .ok file => reportOnFile json path file

def Report.warnings (r : Report) : String :=
  String.join (r.unresolved.map fun reference =>
    line (styled yellow "warning:" ++ " unresolved rule-set reference " ++ reference))

def Report.summary (r : Report) : String :=
  if r.errors.isEmpty then line (styled green "ok" ++ " " ++ r.file)
  else
    line (styled red "failed" ++ " " ++ r.file ++ " (" ++ natText r.errors.length ++ " error" ++
      (if r.errors.length = 1 then "" else "s") ++ ")")

def Report.toJson (r : Report) : Json :=
  .ofFields [("file", .ofText r.file), ("errors", .ofTexts r.errors),
    ("unresolved", .ofTexts r.unresolved)]

def Report.isBad (strict : Bool) (r : Report) : Bool :=
  !r.errors.isEmpty || (strict && !r.unresolved.isEmpty)

/-- Runs `check`. -/
def runCheck (contentOf : Contents) (files : List String) (json strict : Bool) : Outcome :=
  let reports := files.map (reportOn contentOf json)
  { exit := exitOf (reports.any (·.isBad strict))
    output := if json then jsonLine (.array (reports.map Report.toJson))
      else String.join (reports.map Report.summary)
    errors := String.join (reports.map fun r =>
      r.details ++ (if json then "" else r.warnings)) }

/-! ## Explaining -/

/-- Runs `explain`. -/
def runExplain (condition : String) (json : Bool) : Outcome :=
  match Plural.Condition.compile condition with
  | .error e =>
    if json then { exit := exitData, output := jsonLine (.ofFields [("error", .ofText e.message)]) }
    else { exit := exitData, errors := (Diagnostic.ofCompileError "condition" e).render }
  | .ok c =>
    if json then
      { exit := exitOk
        output := jsonLine (.ofFields [("canonical", .ofText c.text),
          ("operands", .ofTexts (c.operands.toList.map (·.letter.toString)))]) }
    else { exit := exitOk, output := line c.text ++ line ("operands: " ++ c.operands.text) }

/-! ## Numbers -/

/-- The answer for one number: a text, or the wording of an error. -/
structure Answer where
  number : String
  result : Except String String

namespace Answer

/-- Whether there is an error in place of a text. -/
def failed (a : Answer) : Bool :=
  match a.result with
  | .ok _ => false
  | .error _ => true

def row (a : Answer) : Row :=
  match a.result with
  | .ok text => ⟨a.number, text⟩
  | .error message => ⟨a.number, message⟩

/-- An answer as JSON, its text under a given name. -/
def toJson (name : String) (a : Answer) : Json :=
  match a.result with
  | .ok text => .ofFields [("number", .ofText a.number), (name, .ofText text), ("error", .null)]
  | .error message =>
    .ofFields [("number", .ofText a.number), (name, .null), ("error", .ofText message)]

end Answer

/-- The outcome of a command that answers numbers: a table under a header, or JSON with the answers
under a name. -/
def answersOutcome (header name : String) (json : Bool) (answers : List Answer) : Outcome :=
  { exit := exitOf (answers.any Answer.failed)
    output := if json then jsonLine (.array (answers.map (Answer.toJson name)))
      else line (table ⟨"Number", header⟩ (answers.map Answer.row)) }

def classify (rules : Plural.Rules) (number : String) : Answer :=
  ⟨number,
    match Operands.ofText number .full with
    | .ok os => .ok (rules.selectOperands os)
    | .error e => .error e.message⟩

/-- Runs `plural`. -/
def runPlural (contentOf : Contents) (path : String) (kind : Plural.Kind) (numbers : List String)
    (json : Bool) : Outcome :=
  match load contentOf path with
  | .error e => failure e.message
  | .ok file =>
    match ((file.compilePlurals kind).run.run .empty).1 with
    | .error e => failure e.message
    | .ok rules =>
      answersOutcome (kind.name ++ " category") "category" json (numbers.map (classify rules))

def spellNumber (reg : Spelling.Registry) (ruleSet number : String) : Answer :=
  ⟨number,
    match Double.ofText? number with
    | none => .error s!"'{number}' is not a number"
    | some x => (reg.format ruleSet x).mapError EvalError.message⟩

/-- Runs `spell`. -/
def runSpell (contentOf : Contents) (path : String) (ruleSet : Option String)
    (numbers : List String) (json : Bool) : Outcome :=
  match load contentOf path with
  | .error e => failure e.message
  | .ok file =>
    match file.registry with
    | .error e => failure e.message
    | .ok reg =>
      let ruleSet := ruleSet.getD file.defaultRuleSet
      answersOutcome ruleSet "text" json (numbers.map (spellNumber reg ruleSet))

/-! ## The program -/

def helpText : String :=
  "CLDR plural and RBNF rule tools

Usage: cldr-rules [OPTIONS] <COMMAND>

Commands:
  check    Compile every rule in a rules file
  explain  Print the canonical form of a plural condition
  plural   Classify numbers with a file's plural rules
  spell    Format numbers with a file's RBNF rule sets
"

def versionText : String := "cldr-rules 0.1.0\n"

/-- The name of the environment variable that presets the rule set of `spell`. -/
def ruleSetVariable : String := "CLDR_RULE_SET"

/-- The name of the environment variable that says which events are told. -/
def logVariable : String := "RUST_LOG"

structure Setting where
  contentOf : Contents
  /-- The preset rule set of `spell`. -/
  ruleSet : Option String := none
  /-- Which events are told, as text. -/
  log : Option String := none

/-- Which events are told: the important ones or, on request, nearly all, unless the setting says
otherwise. -/
def Setting.filter (setting : Setting) (verbose : Bool) : Filter :=
  let filter := Filter.ofLevel (if verbose then .debug else .warn)
  match setting.log with
  | some spec => filter.addSpec spec
  | none => filter

def runRequest (contentOf : Contents) : Request → Outcome
  | .check files json strict => runCheck contentOf files json strict
  | .explain condition json => runExplain condition json
  | .plural file kind numbers json => runPlural contentOf file kind numbers json
  | .spell file ruleSet numbers json => runSpell contentOf file ruleSet numbers json

/-- What spelling numbers with a rule set of a file does. -/
def numberEvents (file : RulesFile) (ruleSet : Option String) (numbers : List String) :
    List Event :=
  match file.registry with
  | .ok reg =>
    (numbers.filterMap Double.ofText?).flatMap
      (spellEvents reg (ruleSet.getD file.defaultRuleSet))
  | .error _ => []

/-- What reading the rules file at a path does, and what is done with it then. -/
def loadEvents (contentOf : Contents) (path : String) (eventsOf : RulesFile → List Event) :
    List Event :=
  match load contentOf path with
  | .ok file => loaded path :: eventsOf file
  | .error _ => []

/-- What carrying out a request does: the events up to a level. -/
def requestEvents (contentOf : Contents) (level : Level) : Request → List Event
  | .check files _ _ => files.flatMap fun path => loadEvents contentOf path (fileEvents · true)
  | .explain _ _ => []
  | .plural path kind _ _ => loadEvents contentOf path (pluralEvents · kind)
  | .spell path ruleSet numbers _ =>
    loadEvents contentOf path fun file =>
      fileEvents file false ++ if level = .trace then numberEvents file ruleSet numbers else []

/-- The log of carrying out a request.  Nothing is done to find events that are not told. -/
def requestLog (contentOf : Contents) (filter : Filter) (request : Request) : String :=
  if filter.reaches .trace then filter.log (requestEvents contentOf .trace request)
  else if filter.reaches .debug then filter.log (requestEvents contentOf .debug request)
  else ""

def run (setting : Setting) (args : List String) : Outcome :=
  match parse setting.ruleSet args with
  | .ok invocation =>
    let filter := setting.filter invocation.verbose
    let outcome := runRequest setting.contentOf invocation.request
    { outcome with
      errors := filter.warnings ++ requestLog setting.contentOf filter invocation.request ++
        outcome.errors }
  | .error .help => { exit := exitOk, output := helpText }
  | .error .version => { exit := exitOk, output := versionText }
  | .error (.usage reason) => { exit := exitUsage, errors := line ("error: " ++ reason) }

end NumberRules.Command
