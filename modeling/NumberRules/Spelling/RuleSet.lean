import NumberRules.Spelling.Rule

/-! # Spelling rule sets

A rule set lists its rules by the place of their base values, which are all different.  Compiling
reads every key before it compiles the first body, since a body's meaning can depend on all keys of
the set: the set is one for fractions if every key is.

`RuleSet.ruleFor` chooses the rule that spells a number.
-/

namespace NumberRules.Spelling
set_option autoImplicit false

structure RuleSet where
  /-- The name, without percent signs. -/
  name : String
  rules : List Rule
  deriving DecidableEq

namespace RuleSet

def dependsOn (set : RuleSet) : Std.ExtTreeSet String :=
  .ofList (set.rules.flatMap Rule.references)

/-! ## Choosing a rule -/

def rule? (set : RuleSet) (base : BaseValue) : Option Rule := set.rules.find? (·.base = base)

/-- Whether the set has a rule of its own for numbers with a fraction. -/
def hasFractionRule (set : RuleSet) : Bool :=
  (set.rule? .improper).isSome || (set.rule? .master).isSome

/-- Whether a number lies strictly between zero and one. -/
def isProper (x : Double) : Bool := Double.zero.lt x && x.lt (.ofNat 1)

/-- Whether the set treats a number as one with a fraction. -/
def isFractional (set : RuleSet) (x : Double) : Bool :=
  set.hasFractionRule && x.isFinite && !x.isWhole

/-- Whether the `x.x` rule may spell a number: it lies above one, or no `0.x` rule is there to
spell it. -/
def isImproper (set : RuleSet) (x : Double) : Bool :=
  set.isFractional x && ((Double.ofNat 1).lt x || (isProper x && (set.rule? .proper).isNone))

/-- The special base values that a number may be spelled by, in the order in which they are
tried. -/
def candidates (set : RuleSet) (x : Double) : List BaseValue :=
  (if set.isFractional x then [.master] else []) ++
  (if x.isNegative then [.negative] else []) ++
  (if x = .inf false then [.infinity] else []) ++
  (if set.isImproper x then [.improper] else []) ++
  (if isProper x then [.proper] else [])

/-- Whether a numeric rule begins at or below a number. -/
def reaches (x : Double) (rule : Rule) : Bool :=
  match rule.base with
  | .number n => (Double.ofNat n.toNat).le x
  | _ => false

/-- The rule that spells a number: the first special one that is there, or else the numeric one
with the largest base value that is not above the number. -/
def ruleFor (set : RuleSet) (x : Double) : Option Rule :=
  if x = .nan then set.rule? .nan
  else
    match (set.candidates x).findSome? set.rule? with
    | some rule => some rule
    | none => set.rules.find? (reaches x)

/-! ## Compiling -/

structure Options where
  /-- The rule set that `<<` without a target falls back to in a rule set for fractions. -/
  defaultRuleSet : String := Spelling.defaultRuleSet
  deriving DecidableEq

structure Entry where
  text : String
  key : Key
  body : String
  deriving DecidableEq

/-- The entries of a list of `(key, body)` pairs; keys must denote base values that do not occur
among `seen` or twice. -/
def entriesFrom (name : String) :
    List BaseValue → List (String × String) → Except CompileError (List Entry)
  | _, [] => .ok []
  | seen, (text, body) :: rest => do
    let key ← (Key.parse text).mapError (.inSpellingRule name text)
    if seen.contains key.base then .error (.duplicateRule name text)
    else
      let entries ← entriesFrom name (key.base :: seen) rest
      .ok (⟨text, key, body⟩ :: entries)

/-- Whether there are entries and all of them are for fractions. -/
def isFractionSet (entries : List Entry) : Bool :=
  !entries.isEmpty && entries.all (·.key.base.isFraction)

def Entry.context (name : String) (options : Options) (fractionSet : Bool) (entry : Entry) :
    RuleContext where
  base := entry.key.base
  radix := entry.key.radix
  ruleSet := name
  fractionRuleSet := fractionSet
  defaultRuleSet := options.defaultRuleSet

def compileEntry {m : Type → Type} [Monad m]
    (compileRule : String → RuleContext → ExceptT CompileError m Rule)
    (name : String) (options : Options) (fractionSet : Bool) (entry : Entry) :
    ExceptT CompileError m Rule :=
  ExceptT.adapt (.inSpellingRule name entry.text)
    (compileRule entry.body (entry.context name options fractionSet))

def arrange (rules : List Rule) : List Rule :=
  rules.mergeSort fun a b => a.base.place ≤ b.base.place

/-- Compiles `(key, body)` pairs, up to the first refused one, with a given compiler of rules. -/
def compileM {m : Type → Type} [Monad m]
    (compileRule : String → RuleContext → ExceptT CompileError m Rule)
    (name : String) (options : Options) (pairs : List (String × String)) :
    ExceptT CompileError m RuleSet := do
  let name := dropPercents name
  let entries ← ExceptT.mk (pure (entriesFrom name [] pairs))
  let rules ← entries.mapM (compileEntry compileRule name options (isFractionSet entries))
  pure ⟨name, arrange rules⟩

/-- The rule set of `(key, body)` pairs, or the error of the first refused one. -/
def compile (name : String) (options : Options) (pairs : List (String × String)) :
    Except CompileError RuleSet :=
  (compileM (m := Id) (fun body context => ExceptT.mk (Rule.compile body context))
    name options pairs).run

end RuleSet

end NumberRules.Spelling
