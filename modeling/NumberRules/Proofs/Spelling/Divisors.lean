import Mathlib
import NumberRules.Proofs.Spelling.Parts
import NumberRules.Proofs.Spelling.Powers
import NumberRules.Proofs.Spelling.Registered

/-! # Divisors

Every part of a compiled rule divides by the divisor of the rule, in optional clauses and outside,
and that divisor is from one on, so nothing is ever divided by zero.
-/

namespace NumberRules.Spelling
set_option autoImplicit false

/-- What an operation divides by. -/
def Operation.divisors : Operation → List Nat
  | .quotient d | .remainder d => [d]
  | _ => []

/-- What a part divides by. -/
def Part.divisors : Part → List Nat
  | .literal _ => []
  | .substitution _ op _ => op.divisors
  | .selector _ _ d => [d]

/-- What a node divides by, in an optional clause also to find out whether it is left out. -/
def Node.divisors : Node → List Nat
  | .part p => p.divisors
  | .optional parts _ d => d :: parts.flatMap Part.divisors

def Rule.divisors (rule : Rule) : List Nat := rule.nodes.flatMap Node.divisors

variable {context : RuleContext} {d : Nat}

namespace RuleContext

theorem Means.divisor_eq {marker : Marker} {written : Bool} {op : Operation}
    {fallback : Option Target} (h : context.Means marker written op fallback)
    (hd : d ∈ op.divisors) : d = context.divisor := by
  cases h with
  | quotient h => exact List.mem_singleton.1 hd
  | remainder h => exact List.mem_singleton.1 hd
  | _ => cases hd

theorem Yields.divisor_eq {piece : Piece} {p : Part} (h : context.Yields piece p)
    (hd : d ∈ p.divisors) : d = context.divisor := by
  cases h with
  | text cs => cases hd
  | substitution hmeans hgoal => exact hmeans.divisor_eq hd
  | selector kind cases => exact List.mem_singleton.1 hd

theorem YieldsNode.divisor_eq {token : Token} {node : Node} (h : context.YieldsNode token node)
    (hd : d ∈ node.divisors) : d = context.divisor := by
  cases h with
  | part h => exact h.divisor_eq hd
  | optional h =>
    rcases List.mem_cons.1 hd with rfl | hparts
    · rfl
    · obtain ⟨p, hp, hd⟩ := List.mem_flatMap.1 hparts
      obtain ⟨piece, -, hpiece⟩ := exists_of_forall₂ h hp
      exact hpiece.divisor_eq hd

end RuleContext

/-- A compiled rule divides by one number only. -/
theorem Rule.divisor_of_mem_divisors {body : String} {rule : Rule}
    (h : Rule.compile body context = .ok rule) (hd : d ∈ rule.divisors) :
    d = context.divisor := by
  obtain ⟨node, hnode, hd⟩ := List.mem_flatMap.1 hd
  obtain ⟨token, htoken⟩ := exists_token_of_compile h hnode
  exact htoken.divisor_eq hd

/-- The divisors of a rule set are from one on and in the range of the base values. -/
def RuleSet.Divides (set : RuleSet) : Prop :=
  ∀ rule ∈ set.rules, ∀ d ∈ rule.divisors, 0 < d ∧ d ≤ 2 ^ 64

theorem RuleSet.divides_of_compile {name : String} {options : Options}
    {pairs : List (String × String)} {set : RuleSet} (h : compile name options pairs = .ok set) :
    set.Divides := by
  intro rule hrule d hd
  obtain ⟨fractionSet, entry, hgives⟩ := exists_gives_of_compile h hrule
  rw [Rule.divisor_of_mem_divisors hgives hd]
  exact ⟨divisorFor_pos _ _, divisorFor_le _ _⟩

theorem Registry.Built.divides {reg : Registry} {allowed : RuleSet.Options → Prop}
    (h : reg.Built allowed) {key : String} {set : RuleSet} (hset : reg.sets[key]? = some set) :
    set.Divides := by
  obtain ⟨-, name, options, pairs, -, hcompile⟩ := h.compiled hset
  exact RuleSet.divides_of_compile hcompile

end NumberRules.Spelling
