import NumberRules.Spelling.Evaluation

/-! # Traces of spelling

Spelling a number chooses rules: one for the number itself and one for every value that is spelled
with a rule set on the way.  `Registry.trace` gives these choices in order, up to the place where
spelling fails if it does.  It takes the same way as `Registry.spell`.
-/

namespace NumberRules.Spelling
set_option autoImplicit false

structure Choice where
  ruleSet : String
  rule : Rule
  value : Double

/-- The choices of rules in order, and whether spelling came to its end. -/
structure Trace where
  choices : List Choice
  completed : Bool

namespace Trace

/-- No choices, and no failure. -/
def nothing : Trace := ⟨[], true⟩

def failure : Trace := ⟨[], false⟩

/-- The traces of some things one after the other, up to the first one that fails. -/
def follow {α : Type} (traceOf : α → Trace) : List α → Trace
  | [] => nothing
  | a :: rest =>
    let first := traceOf a
    if first.completed then
      let others := follow traceOf rest
      ⟨first.choices ++ others.choices, others.completed⟩
    else first

end Trace

namespace Registry

/-- What tracing a substitution needs to know about the rule set it stands in: the name of that set,
and the trace of a value that is spelled with another set. -/
structure Tracer where
  name : String
  /-- The trace of a value spelled with a rule set. -/
  call : RuleSet → Double → Trace

def traceTarget (reg : Registry) (tracer : Tracer) (target : Target) (value : Double) : Trace :=
  match target with
  | .ruleSet name =>
    match reg.lookup name tracer.name with
    | .ok set => tracer.call set value
    | .error _ => .failure
  | .pattern _ | .echo => .nothing

def tracePart (reg : Registry) (tracer : Tracer) (x : Double) : Part → Trace
  | .literal _ => .nothing
  | .substitution _ .digitByDigit target =>
    .follow (fun d : Digit => reg.traceTarget tracer target (.ofNat d.val)) x.fractionDigits
  | .substitution _ op target => reg.traceTarget tracer target (op.apply x)
  | .selector kind cases divisor =>
    match reg.spellSelector tracer.name x kind cases divisor with
    | .ok _ => .nothing
    | .error _ => .failure

def traceNode (reg : Registry) (tracer : Tracer) (x : Double) : Node → Trace
  | .part p => reg.tracePart tracer x p
  | .optional parts trigger divisor =>
    if isOmitted x trigger divisor then .nothing else .follow (reg.tracePart tracer x) parts

/-- The trace of a number spelled with a rule set, when `depth` more rule sets may be entered.  A
rule is chosen before the depth is checked. -/
def traceSet (reg : Registry) : Nat → RuleSet → Double → Trace
  | depth, set, x =>
    match set.ruleFor x with
    | none => .failure
    | some rule =>
      match depth with
      | 0 => ⟨[⟨set.name, rule, x⟩], false⟩
      | depth + 1 =>
        let inner := Trace.follow (reg.traceNode ⟨set.name, traceSet reg depth⟩ x) rule.nodes
        ⟨⟨set.name, rule, x⟩ :: inner.choices, inner.completed⟩

/-- The trace of a number spelled with the rule set of a name. -/
def trace (reg : Registry) (name : String) (x : Double) : Trace :=
  match reg.get? name with
  | some set => reg.traceSet reg.maxDepth set x
  | none => .failure

end Registry

end NumberRules.Spelling
