import Mathlib
import NumberRules.Plural.Rules
import NumberRules.Proofs.Double.Whole
import NumberRules.Proofs.Numeral.Exact

/-! # Operands that matter

A condition reads the operands of its own set and no others: two tables of values that agree on
these give it the same truth, whatever else they hold or lack.  A rule set derives the operands that
one of its conditions reads, so it classifies a number as if all eight had been derived.
-/

namespace NumberRules
set_option autoImplicit false

/-! ## Agreement -/

namespace Operands

/-- Two tables give every operand of a set the same value, or both none. -/
def AgreeOn (used : OperandSet) (os os' : Operands) : Prop :=
  ∀ o, used.contains o = true → os.get o = os'.get o

theorem AgreeOn.left {a b : OperandSet} {os os' : Operands} (h : AgreeOn (a ∪ b) os os') :
    AgreeOn a os os' := fun o ho => h o (Bool.or_eq_true_iff.2 (.inl ho))

theorem AgreeOn.right {a b : OperandSet} {os os' : Operands} (h : AgreeOn (a ∪ b) os os') :
    AgreeOn b os os' := fun o ho => h o (Bool.or_eq_true_iff.2 (.inr ho))

theorem ofNumeral_agreeOn_full (x : Numeral) (used : OperandSet) :
    AgreeOn used (ofNumeral x used) (ofNumeral x .full) := by
  intro o ho
  rw [get_ofNumeral_full]
  exact if_pos ho

theorem computed_ofNumeral (x : Numeral) (used : OperandSet) :
    (ofNumeral x used).computed = used := by
  ext o
  simp only [computed, ofNumeral]
  cases used.contains o <;> rfl

/-- Whether a text has operands does not depend on which of them are asked for. -/
theorem ofText_cases (text : String) :
    (∀ used, ofText text used = .error (.invalidNumeral text)) ∨
      ∃ x, ∀ used, ofText text used = .ok (ofNumeral x used) := by
  cases hx : Numeral.ofChars? text.toList with
  | none =>
    left
    intro used
    rw [ofText, hx]
  | some x =>
    right
    refine ⟨x, fun used => ?_⟩
    rw [ofText, hx]

end Operands

namespace Plural

/-! ## Conditions -/

theorem Expr.value?_eq_of_agreeOn {os os' : Operands} (e : Expr)
    (h : Operands.AgreeOn e.operands os os') : e.value? os = e.value? os' := by
  induction e with
  | literal value => rfl
  | operand o => exact h o (decide_eq_true rfl)
  | mod lhs rhs ihl ihr => rw [value?, value?, ihl h.left, ihr h.right]

theorem Condition.holds_eq_of_agreeOn {os os' : Operands} (c : Condition)
    (h : Operands.AgreeOn c.operands os os') : c.holds os = c.holds os' := by
  induction c with
  | is negated lhs rhs =>
    rw [holds, holds, lhs.value?_eq_of_agreeOn h.left, rhs.value?_eq_of_agreeOn h.right]
  | member membership negated subject items =>
    rw [holds, holds, subject.value?_eq_of_agreeOn h]
  | and lhs rhs ihl ihr => rw [holds, holds, ihl h.left, ihr h.right]
  | or lhs rhs ihl ihr => rw [holds, holds, ihl h.left, ihr h.right]
  | not inner ih => rw [holds, holds, ih h]

/-! ## Rule sets -/

namespace Rules

theorem contains_foldl_operands (rules : List Rule) (used : OperandSet) (o : Operand) :
    (rules.foldl (fun used rule => used ∪ rule.condition.operands) used).contains o = true ↔
      used.contains o = true ∨ ∃ rule ∈ rules, rule.condition.operands.contains o = true := by
  induction rules generalizing used with
  | nil => simp
  | cons rule rules ih =>
    have hunion : (used ∪ rule.condition.operands).contains o = true ↔
        used.contains o = true ∨ rule.condition.operands.contains o = true :=
      Bool.or_eq_true_iff
    rw [List.foldl_cons, ih, hunion, or_assoc, List.exists_mem_cons_iff]

/-- A rule set uses the operands that one of its conditions reads. -/
theorem contains_used_iff {rs : Rules} {o : Operand} :
    rs.used.contains o = true ↔
      ∃ rule ∈ rs.rules, rule.condition.operands.contains o = true := by
  have hempty : OperandSet.empty.contains o ≠ true := Bool.false_ne_true
  rw [used, contains_foldl_operands, or_iff_right hempty]

theorem selectOperands_eq_of_agreeOn {rs : Rules} {os os' : Operands}
    (h : Operands.AgreeOn rs.used os os') : rs.selectOperands os = rs.selectOperands os' := by
  have hholds : ∀ rule ∈ rs.rules, rule.condition.holds os = rule.condition.holds os' := by
    intro rule hrule
    refine rule.condition.holds_eq_of_agreeOn fun o ho => ?_
    exact h o (contains_used_iff.2 ⟨rule, hrule, ho⟩)
  rw [selectOperands, selectOperands, List.find?_congr hholds]

theorem operandsFor_of_numeral {rs : Rules} {input : Input} {text : String}
    (h : input.numeral = some text) :
    rs.operandsFor input = (Operands.ofText text rs.used).map some := by
  rw [operandsFor, h]

/-- Classifying an input derives the operands of its text and looks for a rule. -/
theorem select_of_numeral {rs : Rules} {input : Input} {text : String}
    (h : input.numeral = some text) :
    rs.select input = (Operands.ofText text rs.used).map rs.selectOperands := by
  rw [select, operandsFor_of_numeral h]
  cases Operands.ofText text rs.used <;> rfl

/-- Classifying fails only on the text of the number. -/
theorem exists_of_select_eq_error {rs : Rules} {input : Input} {e : EvalError}
    (h : rs.select input = .error e) : ∃ text, e = .invalidNumeral text := by
  cases htext : input.numeral with
  | none =>
    rw [select, operandsFor, htext] at h
    cases h
  | some text =>
    rw [select_of_numeral htext] at h
    rcases Operands.ofText_cases text with hbad | ⟨x, hx⟩
    · rw [hbad] at h
      exact ⟨text, (Except.error.inj h).symm⟩
    · rw [hx] at h
      cases h

/-- A number is classified as if every operand had been derived from its text, and an error of the
text is an error of the classification.  What is derived are the used operands, with the values that
they have among all eight.  No condition can tell, since its truth depends on its own operands. -/
theorem select_eq_selectOperands_full (rs : Rules) {input : Input} {text : String}
    (h : input.numeral = some text) :
    (∀ e, Operands.ofText text .full = .error e →
      rs.select input = .error e ∧ rs.operandsFor input = .error e) ∧
    (∀ full, Operands.ofText text .full = .ok full →
      rs.select input = .ok (rs.selectOperands full) ∧
      ∃ os, rs.operandsFor input = .ok (some os) ∧ os.computed = rs.used ∧
        Operands.AgreeOn rs.used os full) ∧
    ∀ (c : Condition) (os os' : Operands), Operands.AgreeOn c.operands os os' →
      c.holds os = c.holds os' := by
  refine ⟨?_, ?_, fun c os os' => c.holds_eq_of_agreeOn⟩
  · intro e he
    rcases Operands.ofText_cases text with hbad | ⟨x, hx⟩
    · rw [hbad] at he
      rw [select_of_numeral h, operandsFor_of_numeral h, hbad, ← Except.error.inj he]
      exact ⟨rfl, rfl⟩
    · rw [hx] at he
      cases he
  · intro full hfull
    rcases Operands.ofText_cases text with hbad | ⟨x, hx⟩
    · rw [hbad] at hfull
      cases hfull
    · rw [hx] at hfull
      have hagree : Operands.AgreeOn rs.used (Operands.ofNumeral x rs.used) full :=
        Except.ok.inj hfull ▸ Operands.ofNumeral_agreeOn_full x rs.used
      rw [select_of_numeral h, operandsFor_of_numeral h, hx, ← selectOperands_eq_of_agreeOn hagree]
      exact ⟨rfl, _, rfl, Operands.computed_ofNumeral x rs.used, hagree⟩

/-- A rule that reads two of the operands, one of them only to refuse it. -/
def scoreRules : Rules where
  rules := [⟨"score", .and (.member .within false (.operand .i) [.range 20 39])
    (.member .within true (.operand .v) [.range 1 9])⟩]
  classes := ["score", other]

theorem selectOperands_scoreRules :
    scoreRules.selectOperands (.ofNumeral ⟨⟨[2, 3], []⟩, 0⟩ .full) = "score" := by
  have hi : (Operands.ofNumeral ⟨⟨[2, 3], []⟩, 0⟩ .full).get .i = some (.ofNat 23) := rfl
  have hv : (Operands.ofNumeral ⟨⟨[2, 3], []⟩, 0⟩ .full).get .v = some (.ofNat 0) := rfl
  have hlow : (Double.ofNat 20).le (.ofNat 23) = true := Double.le_ofNat (by norm_num) (by norm_num)
  have hhigh : (Double.ofNat 23).le (.ofNat 39) = true :=
    Double.le_ofNat (by norm_num) (by norm_num)
  have hplaces : (Double.ofNat 1).le (.ofNat 0) = false :=
    Double.le_ofNat (by norm_num) (by norm_num)
  simp [scoreRules, selectOperands, Condition.holds, Expr.value?, hi, hv, Membership.holds,
    RangeItem.contains, hlow, hhigh, hplaces]

/-- The number at the beginning of a text, classified by two of its operands. -/
theorem select_scoreRules :
    (Input.ofText " -23 pages").numeral = some "-23" ∧
      scoreRules.select (.ofText " -23 pages") = .ok "score" ∧
      ∃ os, scoreRules.operandsFor (.ofText " -23 pages") = .ok (some os) ∧
        os.computed = .ofList [.i, .v] := by
  have htext : (Input.ofText " -23 pages").numeral = some "-23" := by cbv
  have hfull : Operands.ofText "-23" .full = .ok (.ofNumeral ⟨⟨[2, 3], []⟩, 0⟩ .full) := by
    have hread : Numeral.ofChars? "-23".toList = some ⟨⟨[2, 3], []⟩, 0⟩ := by decide
    rw [Operands.ofText, hread]
  obtain ⟨hselect, os, hos, hcomputed, -⟩ :=
    (select_eq_selectOperands_full scoreRules htext).2.1 _ hfull
  have hused : scoreRules.used = .ofList [.i, .v] := by decide
  exact ⟨htext, selectOperands_scoreRules ▸ hselect, os, hos, hused ▸ hcomputed⟩

end Rules

end Plural

end NumberRules
