import NumberRules.Plural.Kind

/-! # Command-line arguments

The program has four commands.  Its arguments are flags and operands: `Form` says which flags a
command knows and how many operands it takes, and `Form.scan` sorts the arguments out.

Flags may stand anywhere among the operands, and after `--` everything is an operand.  A command
that takes numbers gives up looking for flags with its first number, so that `-1` can be a number;
before it, an argument with a hyphen is a number only if it is no flag.
-/

namespace NumberRules.Command
set_option autoImplicit false

/-! ## Flags -/

inductive Flag where
  | color
  | verbose
  | json
  | strict
  | kind
  | ruleSet
  | help
  | version
  deriving DecidableEq

namespace Flag

/-- The name of a flag, to be written after two hyphens. -/
def long : Flag → String
  | color => "color"
  | verbose => "verbose"
  | json => "json"
  | strict => "strict"
  | kind => "type"
  | ruleSet => "rule-set"
  | help => "help"
  | version => "version"

/-- The letter of a flag, to be written after one hyphen. -/
def short? : Flag → Option Char
  | verbose => some 'v'
  | help => some 'h'
  | version => some 'V'
  | _ => none

def hasValue : Flag → Bool
  | color | kind | ruleSet => true
  | _ => false

def accepts (flag : Flag) (value : String) : Bool :=
  match flag with
  | color => ["auto", "always", "never"].contains value
  | kind => (Plural.Kind.ofName? value).isSome
  | _ => true

end Flag

inductive Refusal where
  | help
  | version
  | usage (reason : String)
  deriving DecidableEq

/-! ## Scanning -/

/-- What follows the operands that a command takes one by one. -/
inductive Further where
  | nothing
  | operands
  /-- Numbers, which may begin with a hyphen. -/
  | numbers
  /-- The name of a command; all arguments after it are its own. -/
  | command
  deriving DecidableEq

structure Form where
  flags : List Flag
  /-- The number of operands that are taken one by one. -/
  single : Nat
  further : Further
  /-- Whether the operand at a place is a path, which must not be empty. -/
  isPath : Nat → Bool

structure Taken where
  /-- The flags, the latest first, with their values. -/
  flags : List (Flag × String) := []
  operands : List String := []
  literal : Bool := false
  unscanned : List String := []

namespace Taken

def value? (taken : Taken) (flag : Flag) : Option String := taken.flags.lookup flag

def has (taken : Taken) (flag : Flag) : Bool := (taken.value? flag).isSome

def addFlag (taken : Taken) (flag : Flag) (value : String) : Except Refusal Taken :=
  if flag = .help then .error .help
  else if flag = .version then .error .version
  else if taken.has flag then .error (.usage s!"--{flag.long} cannot be used twice")
  else if !flag.accepts value then .error (.usage s!"invalid value '{value}' for --{flag.long}")
  else .ok { taken with flags := (flag, value) :: taken.flags }

end Taken

namespace Form

/-- Whether the next operand is a number, which may begin with a hyphen. -/
def expectsNumber (form : Form) (taken : Taken) : Bool :=
  form.further = .numbers && form.single ≤ taken.operands.length

/-- Whether numbers have begun, so that no flag can follow. -/
def inNumbers (form : Form) (taken : Taken) : Bool :=
  form.further = .numbers && form.single < taken.operands.length

def long? (form : Form) (name : String) : Option Flag := form.flags.find? (·.long = name)

def short? (form : Form) (c : Char) : Option Flag := form.flags.find? (·.short? = some c)

/-- The name in an argument that begins with two hyphens, up to an equals sign. -/
def longName (arg : String) : String :=
  String.ofList ((arg.toList.drop 2).takeWhile (· ≠ '='))

/-- The value in such an argument, after an equals sign. -/
def longValue? (arg : String) : Option String :=
  match (arg.toList.drop 2).dropWhile (· ≠ '=') with
  | [] => none
  | _ :: rest => some (String.ofList rest)

/-- Whether an argument is written as a flag with a name. -/
def isLong (arg : String) : Bool := ['-', '-'].isPrefixOf arg.toList

def isShort (arg : String) : Bool :=
  ['-'].isPrefixOf arg.toList && !isLong arg && arg ≠ "-"

def isKnown (form : Form) (arg : String) : Bool :=
  if isLong arg then (form.long? (longName arg)).isSome
  else (arg.toList.drop 1).all fun c => (form.short? c).isSome

/-- Whether an argument is an operand or a value although other arguments like it are flags. -/
def isOperand (form : Form) (taken : Taken) (arg : String) : Bool :=
  !(isLong arg || isShort arg) || (form.expectsNumber taken && !form.isKnown arg && arg ≠ "--")

def addOperand (form : Form) (taken : Taken) (arg : String) : Except Refusal Taken :=
  if form.further = .nothing && form.single ≤ taken.operands.length then
    .error (.usage s!"unexpected argument '{arg}'")
  else .ok { taken with operands := taken.operands ++ [arg] }

/-- The arguments, if no path among them is empty. -/
def checked (form : Form) (taken : Taken) : Except Refusal Taken :=
  if taken.operands.zipIdx.any fun operand => operand.1.isEmpty && form.isPath operand.2 then
    .error (.usage "a path must not be empty")
  else .ok taken

/-- One more flag; the paths in front of it are checked first. -/
def addFlag (form : Form) (taken : Taken) (flag : Flag) (value : String) :
    Except Refusal Taken := do
  let taken ← form.checked taken
  taken.addFlag flag value

/-- The flags of an argument that is written as letters. -/
def addShort (form : Form) (taken : Taken) (letters : List Char) : Except Refusal Taken :=
  letters.foldlM
    (fun taken c =>
      match form.short? c with
      | some flag => form.addFlag taken flag ""
      | none => .error (.usage s!"unexpected argument '-{c}'"))
    taken

def scan (form : Form) (taken : Taken) : List String → Except Refusal Taken
  | [] => form.checked taken
  | arg :: rest =>
    if taken.literal || form.inNumbers taken then do
      let taken ← form.addOperand taken arg
      scan form taken rest
    else if arg = "--" then
      if form.further = .command then .error (.usage "unexpected argument '--'")
      else scan form { taken with literal := true } rest
    else if form.isOperand taken arg then
      if form.further = .command then
        .ok { taken with operands := [arg], unscanned := rest }
      else do
        let taken ← form.addOperand taken arg
        scan form taken rest
    else if isLong arg then
      match form.long? (longName arg), longValue? arg with
      | none, _ => .error (.usage s!"unexpected argument '{arg}'")
      | some flag, some value =>
        if flag.hasValue then do
          let taken ← form.addFlag taken flag value
          scan form taken rest
        else .error (.usage s!"unexpected value for --{flag.long}")
      | some flag, none =>
        if flag.hasValue then
          match rest with
          | [] => .error (.usage s!"a value is required for --{flag.long}")
          | value :: rest =>
            if form.isOperand taken value then do
              let taken ← form.addFlag taken flag value
              scan form taken rest
            else .error (.usage s!"a value is required for --{flag.long}")
        else do
          let taken ← form.addFlag taken flag ""
          scan form taken rest
    else do
      let taken ← form.addShort taken (arg.toList.drop 1)
      scan form taken rest

end Form

/-! ## Requests -/

/-- A command with its arguments, ready to be run. -/
inductive Request where
  | check (files : List String) (json strict : Bool)
  | explain (condition : String) (json : Bool)
  | plural (file : String) (kind : Plural.Kind) (numbers : List String) (json : Bool)
  | spell (file : String) (ruleSet : Option String) (numbers : List String) (json : Bool)
  deriving DecidableEq

def Request.paths : Request → List String
  | check files _ _ => files
  | explain _ _ => []
  | plural file _ _ _ => [file]
  | spell file _ _ _ => [file]

structure Invocation where
  verbose : Bool
  request : Request
  deriving DecidableEq

def commonFlags : List Flag := [.color, .verbose, .help]

def globalForm : Form := ⟨.version :: commonFlags, 0, .command, fun _ => false⟩

/-- The arguments of `check`. -/
def checkForm : Form := ⟨.json :: .strict :: commonFlags, 0, .operands, fun _ => true⟩

/-- The arguments of `explain`. -/
def explainForm : Form := ⟨.json :: commonFlags, 1, .nothing, fun _ => false⟩

/-- The arguments of `plural`. -/
def pluralForm : Form := ⟨.kind :: .json :: commonFlags, 1, .numbers, (· = 0)⟩

/-- The arguments of `spell`. -/
def spellForm : Form := ⟨.ruleSet :: .json :: commonFlags, 1, .numbers, (· = 0)⟩

/-- The kind of plural rules that the flags ask for. -/
def kindOf (taken : Taken) : Plural.Kind :=
  ((taken.value? .kind).bind Plural.Kind.ofName?).getD .cardinal

/-- The request for `check` of scanned arguments. -/
def checkOf (taken : Taken) : Except Refusal Request :=
  if taken.operands.isEmpty then .error (.usage "check needs rules files")
  else .ok (.check taken.operands (taken.has .json) (taken.has .strict))

/-- The request for `explain` of scanned arguments. -/
def explainOf (taken : Taken) : Except Refusal Request :=
  match taken.operands with
  | [condition] => .ok (.explain condition (taken.has .json))
  | _ => .error (.usage "explain needs a plural condition")

/-- The request for `plural` of scanned arguments. -/
def pluralOf (taken : Taken) : Except Refusal Request :=
  match taken.operands with
  | file :: n :: numbers => .ok (.plural file (kindOf taken) (n :: numbers) (taken.has .json))
  | _ => .error (.usage "plural needs a rules file and numbers")

/-- The request for `spell` of scanned arguments; `preset` is the rule set if none is asked for. -/
def spellOf (preset : Option String) (taken : Taken) : Except Refusal Request :=
  match taken.operands with
  | file :: n :: numbers =>
    .ok (.spell file ((taken.value? .ruleSet).or preset) (n :: numbers) (taken.has .json))
  | _ => .error (.usage "spell needs a rules file and numbers")

/-- The form of a command and how scanned arguments make a request of it. -/
def commandOf? (preset : Option String) (name : String) :
    Option (Form × (Taken → Except Refusal Request)) :=
  if name = "check" then some (checkForm, checkOf)
  else if name = "explain" then some (explainForm, explainOf)
  else if name = "plural" then some (pluralForm, pluralOf)
  else if name = "spell" then some (spellForm, spellOf preset)
  else none

def helpName : String := "help"

def isCommand (name : String) : Bool := name = helpName || (commandOf? none name).isSome

/-- What the arguments of `help` ask for: help in general, or on the one command they name. -/
def helpOf : List String → Refusal
  | [] => .help
  | [name] => if isCommand name then .help else .usage s!"unrecognized command '{name}'"
  | name :: _ => .usage s!"unexpected argument after '{name}'"

def parse (preset : Option String) (args : List String) : Except Refusal Invocation := do
  let outer ← globalForm.scan {} args
  match outer.operands with
  | [] => .error (.usage "a command is required")
  | name :: _ =>
    match commandOf? preset name with
    | some (form, make) => do
      let inner ← form.scan {} outer.unscanned
      let request ← make inner
      .ok ⟨outer.has .verbose || inner.has .verbose, request⟩
    | none =>
      if name = helpName then .error (helpOf outer.unscanned)
      else .error (.usage s!"unrecognized command '{name}'")

def pathsOf (args : List String) : List String :=
  match parse none args with
  | .ok invocation => invocation.request.paths
  | .error _ => []

end NumberRules.Command
