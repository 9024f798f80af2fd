import NumberRules.Operands
import NumberRules.Plural.Condition.Parser

/-! # Plural rule sets

A rule set is an ordered list of conditions, each with the category it selects.  The first rule
whose condition holds gives the category of a number; if none holds, the category is `other`.
Entries without a condition declare a category and select nothing.

`Rules.compileM` compiles a set in any monad, so that the reader of conditions may remember what it
has read; `Rules.compile` reads every condition afresh.
-/

namespace NumberRules.Plural
set_option autoImplicit false

def other : String := "other"

/-! ## Numbers to classify -/

/-- A number to classify, as decimal text.  Text without a leading integer has no number. -/
structure Input where
  numeral : Option String
  deriving DecidableEq

namespace Input

/-- The sign and digits of the integer that a text begins with, after blanks. -/
def integerPrefix? (cs : List Char) : Option (List Char) :=
  let text := Text.trimStart cs
  let unsigned := dropSign text
  let digits := (Digits.takeLeading unsigned).1
  if digits.isEmpty then none
  else some (text.take (text.length - unsigned.length + digits.length))

/-- Text, read as the integer it begins with. -/
def ofText (text : String) : Input := ⟨(integerPrefix? text.toList).map String.ofList⟩

def ofInt (z : Int) : Input := ⟨some (intText z)⟩

/-- A double, by its shortest decimal text. -/
def ofDouble (x : Double) : Input := ⟨some x.text⟩

end Input

/-! ## Rule sets -/

structure Rule where
  category : String
  condition : Condition
  deriving DecidableEq

structure Rules where
  rules : List Rule
  /-- The declared categories in order of first appearance, and `other` at the end. -/
  classes : List String
  deriving DecidableEq

namespace Rules

def used (rs : Rules) : OperandSet :=
  rs.rules.foldl (fun used rule => used ∪ rule.condition.operands) .empty

def selectOperands (rs : Rules) (os : Operands) : String :=
  match rs.rules.find? (·.condition.holds os) with
  | some rule => rule.category
  | none => other

/-- The operands that classifying an input derives; none for an input without a number. -/
def operandsFor (rs : Rules) (input : Input) : Except EvalError (Option Operands) :=
  match input.numeral with
  | some text => (Operands.ofText text rs.used).map some
  | none => .ok none

def select (rs : Rules) (input : Input) : Except EvalError String := do
  match ← rs.operandsFor input with
  | some os => .ok (rs.selectOperands os)
  | none => .ok other

/-! ## Compiling -/

/-- The categories of a list of entries, each once, with `other` at the end. -/
def classesOf (entries : List (String × String)) : List String :=
  ((entries.map Prod.fst).filter (· ≠ other)).eraseDups ++ [other]

/-- Whether an entry has a condition, apart from samples and blanks. -/
def hasCondition (entry : String × String) : Bool := !(Condition.normalize entry.2).isEmpty

def compileEntry {m : Type → Type} [Monad m] (read : String → ExceptT CompileError m Condition)
    (entry : String × String) : ExceptT CompileError m Rule := do
  let condition ← ExceptT.adapt (.inPluralRule entry.1) (read entry.2)
  pure ⟨entry.1, condition⟩

/-- Compiles `(category, condition)` entries, up to the first refused one. -/
def compileM {m : Type → Type} [Monad m] (read : String → ExceptT CompileError m Condition)
    (entries : List (String × String)) : ExceptT CompileError m Rules := do
  let rules ← (entries.filter hasCondition).mapM (compileEntry read)
  pure ⟨rules, classesOf entries⟩

end Rules

/-- The condition of a text, or the error that refuses it. -/
def Condition.compile (text : String) : Except CompileError Condition :=
  (Condition.parse text).mapError .conditionSyntax

/-- The rule set of `(category, condition)` entries, or the error of the first refused one. -/
def Rules.compile (entries : List (String × String)) : Except CompileError Rules :=
  (Rules.compileM (m := Id) (fun text => ExceptT.mk (Condition.compile text)) entries).run

end NumberRules.Plural
