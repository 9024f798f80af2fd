import Mathlib
import NumberRules.Spelling.Evaluation
import NumberRules.Proofs.Plural.Used
import NumberRules.Proofs.Spelling.Parts
import NumberRules.Proofs.Spelling.Registered

/-! # What spelling asks of nested calls

A rule set spells a number by sequencing texts, selectors and the calls that its rule makes.  So a
relation between outcomes that sequencing keeps holds between two runs of a rule set as soon as it
holds between their selectors and between their calls: `spell_related` is that step.  The two runs
may use different registries and depths.  A property of one run is the relation that ignores the
other.
-/

namespace NumberRules.Spelling
set_option autoImplicit false

/-! ## Relations between outcomes -/

/-- A relation between outcomes of every type that sequencing keeps. -/
structure Sequential (R : (α : Type) → Except EvalError α → Except EvalError α → Prop) :
    Prop where
  ok {α : Type} (a : α) : R α (.ok a) (.ok a)
  bind {α β : Type} {x y : Except EvalError α} {f g : α → Except EvalError β} (hxy : R α x y)
    (hfg : ∀ a, R β (f a) (g a)) : R β (x >>= f) (y >>= g)

variable {R : (α : Type) → Except EvalError α → Except EvalError α → Prop}

theorem Sequential.mapM (hR : Sequential R) {α β : Type} {f g : α → Except EvalError β}
    {l : List α} (h : ∀ a ∈ l, R β (f a) (g a)) : R (List β) (l.mapM f) (l.mapM g) := by
  induction l with
  | nil =>
    rw [List.mapM_nil, List.mapM_nil]
    exact hR.ok []
  | cons a l ih =>
    have hrest := ih fun b hb => h b (List.mem_cons_of_mem a hb)
    rw [List.mapM_cons, List.mapM_cons]
    refine hR.bind (h a List.mem_cons_self) fun b => ?_
    exact hR.bind hrest fun bs => hR.ok (b :: bs)

/-- All errors of an outcome have a property, whatever the other outcome is. -/
def ErrorsSatisfy (P : EvalError → Prop) (α : Type) (x _ : Except EvalError α) : Prop :=
  ∀ e, x = .error e → P e

theorem sequential_errorsSatisfy (P : EvalError → Prop) : Sequential (ErrorsSatisfy P) where
  ok a e h := by cases h
  bind {α β x y f g} hxy hfg e h := by
    cases x with
    | ok a => exact hfg a e h
    | error e' => exact hxy e (congrArg Except.error (Except.error.inj h))

namespace Registry

variable {reg reg' : Registry} {set : RuleSet} {rule : Rule} {x : Double}
  {call call' : RuleSet → Double → Except EvalError String}

/-! ## Selectors -/

/-- A selector calls nothing, so its errors are about its own rule set or about a number. -/
theorem spellSelector_eq_error {name : String} {kind : Plural.Kind}
    {options : List (String × String)} {divisor : Nat} {e : EvalError}
    (h : reg.spellSelector name x kind options divisor = .error e) :
    e = .missingPluralRules kind name ∨ ∃ text, e = .invalidNumeral text := by
  rw [spellSelector] at h
  split at h
  · cases h
    exact .inl rfl
  · rename_i rules _
    right
    cases hselect : rules.select (.ofDouble (x.abs.div (.ofNat divisor)).floor) with
    | ok category =>
      rw [hselect] at h
      cases h
    | error e' =>
      rw [hselect] at h
      cases h
      exact Plural.Rules.exists_of_select_eq_error hselect

/-! ## Calls of other sets -/

theorem spellTarget_ruleSet_eq_error {name r : String} {value : Double} {e : EvalError}
    (h : reg.spellTarget ⟨name, call⟩ (.ruleSet r) value = .error e) :
    (reg.get? r = none ∧ e = .unknownRuleSet (dropPercents r) (dropPercents name)
        (suggestions (dropPercents r) reg.names)) ∨
      ∃ callee, reg.get? r = some callee ∧ call callee value = .error e := by
  rw [spellTarget, lookup] at h
  cases hcallee : reg.get? r with
  | none =>
    rw [hcallee] at h
    cases h
    exact .inl ⟨rfl, rfl⟩
  | some callee =>
    rw [hcallee] at h
    exact .inr ⟨callee, rfl, h⟩

/-! ## One body -/

/-- Two ways of calling other rule sets while `set` spells `x` are related: in the selectors, and in
the calls that the rule for `x` makes. -/
structure CallsRelated (R : (α : Type) → Except EvalError α → Except EvalError α → Prop)
    (reg reg' : Registry) (set : RuleSet) (x : Double)
    (call call' : RuleSet → Double → Except EvalError String) : Prop where
  renderer : reg.renderer = reg'.renderer
  selector : ∀ kind cases divisor, R String (reg.spellSelector set.name x kind cases divisor)
    (reg'.spellSelector set.name x kind cases divisor)
  target : ∀ rule, set.ruleFor x = some rule → ∀ r value, rule.Calls x r value →
    R String (reg.spellTarget ⟨set.name, call⟩ (.ruleSet r) value)
      (reg'.spellTarget ⟨set.name, call'⟩ (.ruleSet r) value)

namespace CallsRelated

theorem spellTarget (hR : Sequential R) (h : CallsRelated R reg reg' set x call call')
    (hrule : set.ruleFor x = some rule) {target : Target} {value : Double}
    (hcalls : ∀ r, target = .ruleSet r → rule.Calls x r value) :
    R String (reg.spellTarget ⟨set.name, call⟩ target value)
      (reg'.spellTarget ⟨set.name, call'⟩ target value) := by
  cases target with
  | ruleSet r => exact h.target rule hrule r value (hcalls r rfl)
  | pattern text =>
    rw [Registry.spellTarget, Registry.spellTarget, h.renderer]
    exact hR.ok _
  | echo => exact hR.ok _

theorem spellPart (hR : Sequential R) (h : CallsRelated R reg reg' set x call call')
    (hrule : set.ruleFor x = some rule) {p : Part}
    (hcalls : ∀ r value, p.Calls x r value → rule.Calls x r value) :
    R String (reg.spellPart ⟨set.name, call⟩ x p) (reg'.spellPart ⟨set.name, call'⟩ x p) := by
  cases p with
  | literal text => exact hR.ok text
  | selector kind cases divisor => exact h.selector kind cases divisor
  | substitution marker op target =>
    by_cases hop : op = .digitByDigit
    · subst hop
      refine hR.bind (hR.mapM fun d hd => h.spellTarget hR hrule ?_) fun texts => hR.ok _
      rintro r rfl
      exact hcalls r _ (.digit hd)
    · have hwhole : R String (reg.spellTarget ⟨set.name, call⟩ target (op.apply x))
          (reg'.spellTarget ⟨set.name, call'⟩ target (op.apply x)) := by
        refine h.spellTarget hR hrule ?_
        rintro r rfl
        exact hcalls r _ (.value hop)
      cases op with
      | digitByDigit => exact absurd rfl hop
      | quotient divisor => exact hwhole
      | remainder divisor => exact hwhole
      | integerPart => exact hwhole
      | fractionDigits => exact hwhole
      | negate => exact hwhole
      | identity => exact hwhole

theorem spellNode (hR : Sequential R) (h : CallsRelated R reg reg' set x call call')
    (hrule : set.ruleFor x = some rule) {node : Node} (hnode : node ∈ rule.nodes) :
    R String (reg.spellNode ⟨set.name, call⟩ x node) (reg'.spellNode ⟨set.name, call'⟩ x node) := by
  have hparts : ∀ p ∈ node.parts, R String (reg.spellPart ⟨set.name, call⟩ x p)
      (reg'.spellPart ⟨set.name, call'⟩ x p) := by
    intro p hp
    exact h.spellPart hR hrule fun r value hcalls => ⟨node, hnode, p, hp, hcalls⟩
  cases node with
  | part p => exact hparts p List.mem_cons_self
  | optional parts trigger divisor =>
    rw [Registry.spellNode, Registry.spellNode]
    split
    · exact hR.ok ""
    · exact hR.bind (hR.mapM hparts) fun texts => hR.ok _

theorem spellNodes (hR : Sequential R) (h : CallsRelated R reg reg' set x call call')
    (hrule : set.ruleFor x = some rule) :
    R String (reg.spellNodes ⟨set.name, call⟩ x rule.nodes)
      (reg'.spellNodes ⟨set.name, call'⟩ x rule.nodes) :=
  hR.bind (hR.mapM fun _ hnode => h.spellNode hR hrule hnode) fun _ => hR.ok _

end CallsRelated

/-! ## One call -/

/-- Two runs of a rule set are related if the calls that they make are, one level deeper. -/
theorem spell_related (hR : Sequential R) {depth depth' : Nat} {chain chain' : List String}
    (hnone : R String (.error (.noApplicableRule set.name x))
      (.error (.noApplicableRule set.name x)))
    (h : CallsRelated R reg reg' set x (reg.spell depth (chain ++ [set.name]))
      (reg'.spell depth' (chain' ++ [set.name]))) :
    R String (reg.spell (depth + 1) chain set x) (reg'.spell (depth' + 1) chain' set x) := by
  rw [spell, spell]
  cases hrule : set.ruleFor x with
  | none => exact hnone
  | some rule => exact h.spellNodes hR hrule

end Registry

end NumberRules.Spelling
