import Mathlib
import NumberRules.Proofs.Spelling.Meaning

/-! # Parts of rules

The parts of a rule, in optional clauses or outside, are what it writes.  A substitution among them
may refer to a rule set, and then it calls that set for the value that it derives from the number:
`Rule.Calls`.  Every part of a compiled rule comes from a piece of its body.
-/

namespace NumberRules.Spelling
set_option autoImplicit false

def Node.parts : Node → List Part
  | .part p => [p]
  | .optional parts _ _ => parts

/-! ## References -/

theorem Part.mem_references {p : Part} {r : String} :
    r ∈ p.references ↔ ∃ marker op, p = .substitution marker op (.ruleSet r) := by
  constructor
  · intro h
    cases p with
    | substitution marker op target =>
      cases target with
      | ruleSet name => exact ⟨marker, op, by rw [List.mem_singleton.1 h]⟩
      | pattern text => cases h
      | echo => cases h
    | literal text => cases h
    | selector kind cases divisor => cases h
  · rintro ⟨marker, op, rfl⟩
    exact List.mem_cons_self

theorem Node.references_eq (node : Node) :
    node.references = node.parts.flatMap Part.references := by
  cases node with
  | part p => exact (List.flatMap_singleton Part.references p).symm
  | optional parts trigger divisor => rfl

/-- A substitution of the rule is spelled with the rule set `r`. -/
def Rule.Targets (rule : Rule) (r : String) : Prop :=
  ∃ node ∈ rule.nodes, ∃ marker op, .substitution marker op (.ruleSet r) ∈ node.parts

theorem Rule.mem_references {rule : Rule} {r : String} :
    r ∈ rule.references ↔ rule.Targets r := by
  rw [references, List.mem_flatMap]
  refine exists_congr fun node => and_congr_right fun _ => ?_
  rw [Node.references_eq, List.mem_flatMap]
  constructor
  · rintro ⟨p, hp, hr⟩
    obtain ⟨marker, op, rfl⟩ := Part.mem_references.1 hr
    exact ⟨marker, op, hp⟩
  · rintro ⟨marker, op, hp⟩
    exact ⟨_, hp, Part.mem_references.2 ⟨marker, op, rfl⟩⟩

/-! ## Calls -/

/-- To spell `x`, a part has `value` spelled with the rule set `r`. -/
inductive Part.Calls (x : Double) (r : String) : Part → Double → Prop where
  | value {marker : Marker} {op : Operation} (hop : op ≠ .digitByDigit) :
    Part.Calls x r (.substitution marker op (.ruleSet r)) (op.apply x)
  | digit {marker : Marker} {d : Digit} (hd : d ∈ x.fractionDigits) :
    Part.Calls x r (.substitution marker .digitByDigit (.ruleSet r)) (.ofNat d.val)

/-- To spell `x`, a rule has `value` spelled with the rule set `r`. -/
def Rule.Calls (rule : Rule) (x : Double) (r : String) (value : Double) : Prop :=
  ∃ node ∈ rule.nodes, ∃ p ∈ node.parts, p.Calls x r value

theorem Rule.Calls.targets {rule : Rule} {x value : Double} {r : String}
    (h : rule.Calls x r value) : rule.Targets r := by
  obtain ⟨node, hnode, p, hp, hcalls⟩ := h
  cases hcalls with
  | value hop => exact ⟨node, hnode, _, _, hp⟩
  | digit hd => exact ⟨node, hnode, _, _, hp⟩

theorem RuleSet.mem_dependsOn_of_calls {set : RuleSet} {rule : Rule} {x value : Double}
    {r : String} (hrule : set.ruleFor x = some rule) (h : rule.Calls x r value) :
    r ∈ set.dependsOn :=
  mem_dependsOn.2 ⟨rule, mem_of_ruleFor hrule, Rule.mem_references.2 h.targets⟩

/-! ## Parts of compiled rules -/

variable {context : RuleContext}

theorem RuleContext.YieldsNode.exists_piece {token : Token} {node : Node}
    (h : context.YieldsNode token node) {p : Part} (hp : p ∈ node.parts) :
    ∃ piece, context.Yields piece p := by
  cases h with
  | part h =>
    rw [List.mem_singleton.1 hp]
    exact ⟨_, h⟩
  | optional h =>
    obtain ⟨piece, -, hpiece⟩ := exists_of_forall₂ h hp
    exact ⟨piece, hpiece⟩

theorem Rule.exists_token_of_compile {body : String} {rule : Rule}
    (h : Rule.compile body context = .ok rule) {node : Node} (hnode : node ∈ rule.nodes) :
    ∃ token, context.YieldsNode token node := by
  obtain ⟨-, tokens, nodes, -, hnodes, rfl⟩ := Rule.compile_eq_ok_iff_yields.1 h
  obtain ⟨token, -, htoken⟩ := exists_of_forall₂ hnodes hnode
  exact ⟨token, htoken⟩

theorem Rule.exists_piece_of_compile {body : String} {rule : Rule}
    (h : Rule.compile body context = .ok rule) {node : Node} (hnode : node ∈ rule.nodes) {p : Part}
    (hp : p ∈ node.parts) : ∃ piece, context.Yields piece p := by
  obtain ⟨token, htoken⟩ := exists_token_of_compile h hnode
  exact htoken.exists_piece hp

end NumberRules.Spelling
