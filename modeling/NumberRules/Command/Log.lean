import NumberRules.Regex.Parser

/-! # Logs

Commands tell what they do in events.  A `Filter` says which events are told: every directive gives
the least important level that is told about some topics, the directive that names a topic most
closely counts, and a level applies to topics that none names.  A filter is written as directives
with commas between them, `topic=level`, and perhaps a regular expression after a slash that the
text of every told event matches.
-/

namespace NumberRules.Command
set_option autoImplicit false

/-! ## Events -/

/-- How important an event is, or which events are told. -/
inductive Level where
  | off
  | error
  | warn
  | info
  | debug
  | trace
  deriving DecidableEq

namespace Level

/-- Every level, the most important events first. -/
def all : List Level := [off, error, warn, info, debug, trace]

def name : Level → String
  | off => "OFF"
  | error => "ERROR"
  | warn => "WARN"
  | info => "INFO"
  | debug => "DEBUG"
  | trace => "TRACE"

/-- The level of a name, in letters of either case. -/
def ofName? (name : String) : Option Level := all.find? (·.name = name.map Char.toUpper)

def rank (level : Level) : Nat := all.idxOf level

end Level

inductive Topic where
  | files
  | cache
  | plurals
  | ruleSets
  | registry
  | evaluation
  deriving DecidableEq

def Topic.name : Topic → String
  | files => "cldr_rules::rules_file"
  | cache => "cldr_rules::cache"
  | plurals => "cldr_rules::plural::rule_set"
  | ruleSets => "cldr_rules::rbnf::rule_set"
  | registry => "cldr_rules::rbnf::registry"
  | evaluation => "cldr_rules::rbnf::evaluator"

structure Event where
  level : Level
  topic : Topic
  text : String
  deriving DecidableEq

/-- An event as a line of a log, further lines of its text indented. -/
def Event.line (e : Event) : String :=
  s!"[{e.level.name} {e.topic.name}] " ++ "\n    ".intercalate (e.text.splitOn "\n") ++ "\n"

/-! ## Filters -/

/-- The least important level that is told about the topics whose names begin in some way. -/
structure Directive where
  topics : String
  level : Level
  deriving DecidableEq

structure Filter where
  fallback : Level
  /-- The directives, no two of them for the same beginning. -/
  directives : List Directive := []
  pattern : Option Regex := none
  /-- What is wrong with the text that the filter was read from. -/
  faults : List String := []
  deriving DecidableEq

namespace Filter

/-- The filter that tells all events up to a level. -/
def ofLevel (level : Level) : Filter := { fallback := level }

/-- One more directive, which takes the place of one for the same beginning. -/
def addDirective (filter : Filter) (d : Directive) : Filter :=
  { filter with directives := filter.directives.filter (·.topics ≠ d.topics) ++ [d] }

def addFault (filter : Filter) (fault : String) : Filter :=
  { filter with faults := filter.faults ++ [fault] }

def invalidText (text : String) : String := s!"invalid logging spec '{text}'"

/-- One more directive as text: a level for all topics, topics for all levels, or both. -/
def addText (filter : Filter) (text : String) : Filter :=
  match text.splitOn "=" with
  | [word] =>
    match Level.ofName? word with
    | some level => { filter with fallback := level }
    | none => filter.addDirective ⟨word, .trace⟩
  | [topics, word] =>
    let word := String.ofList (Text.trim word.toList)
    if word.isEmpty then filter.addDirective ⟨topics, .trace⟩
    else
      match Level.ofName? word with
      | some level => filter.addDirective ⟨topics, level⟩
      | none => filter.addFault (invalidText word)
  | _ => filter.addFault (invalidText text)

def directiveTexts (text : String) : List String :=
  ((text.splitOn ",").map fun part => String.ofList (Text.trim part.toList)).filter (!·.isEmpty)

def addPattern (filter : Filter) (text : String) : Filter :=
  match Regex.ofText? text.toList with
  | .ok pattern => { filter with pattern := some pattern }
  | .error fault => filter.addFault ("invalid regex filter - " ++ fault.message text.toList)

/-- The filter with the directives and the regular expression that a text asks for. -/
def addSpec (filter : Filter) (spec : String) : Filter :=
  match spec.splitOn "/" with
  | [directives] => (directiveTexts directives).foldl addText filter
  | [directives, pattern] =>
    ((directiveTexts directives).foldl addText filter).addPattern pattern
  | _ => filter.addFault (invalidText spec ++ " (too many '/'s)")

/-- The directive that counts for a topic: the one with the longest beginning of its name. -/
def directive? (filter : Filter) (topic : Topic) : Option Directive :=
  (filter.directives.filter fun d => topic.name.startsWith d.topics).foldl
    (fun best d =>
      match best with
      | some b => if b.topics.utf8ByteSize ≤ d.topics.utf8ByteSize then some d else best
      | none => some d)
    none

/-- The least important level that is told about a topic. -/
def levelFor (filter : Filter) (topic : Topic) : Level :=
  ((filter.directive? topic).map Directive.level).getD filter.fallback

/-- Whether events of a level are told about some topic, as far as the directives show. -/
def reaches (filter : Filter) (level : Level) : Bool :=
  (filter.fallback :: filter.directives.map Directive.level).any (level.rank ≤ ·.rank)

def tells (filter : Filter) (e : Event) : Bool :=
  e.level.rank ≤ (filter.levelFor e.topic).rank && filter.pattern.all (·.occursIn e.text)

/-- The warnings about the text that the filter was read from. -/
def warnings (filter : Filter) : String :=
  String.join (filter.faults.map fun fault => s!"warning: {fault}, ignoring it\n")

def log (filter : Filter) (events : List Event) : String :=
  String.join ((events.filter filter.tells).map Event.line)

end Filter

end NumberRules.Command
