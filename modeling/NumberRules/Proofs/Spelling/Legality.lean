import Mathlib
import NumberRules.Proofs.Spelling.Divisors

/-! # Legal bodies and well-formed rules

Which bodies a rule can have depends on its base value alone; `BaseValue.Allows` says what it allows
of one substitution.  The evaluator divides by the divisors that it finds and carries out the
operations that it finds.  It can do so without looking because compiled rules are well formed.
-/

namespace NumberRules.Spelling
set_option autoImplicit false

/-! ## Legal bodies -/

/-- A rule with the base value may have a substitution with the marker and the written target. -/
structure BaseValue.Allows (base : BaseValue) (marker : Marker) (target : Option (List Char)) :
    Prop where
  not_infinity : base ≠ .infinity
  not_nan : base ≠ .nan
  not_negative : marker = .less → base ≠ .negative
  begins : ∀ text, target = some text →
    ∃ c rest, text = c :: rest ∧ (c = '%' ∨ c = '0' ∨ c = '#')
  echoes : marker = .equal → target = none → base = .improper ∨ base = .proper ∨ base = .master

def Piece.Legal (base : BaseValue) : Piece → Prop
  | .substitution marker target => base.Allows marker target
  | _ => True

/-- The pieces of a token, in an optional clause or outside. -/
def Token.pieces : Token → List Piece
  | .piece p => [p]
  | .optional ps => ps

theorem BaseValue.isFraction_iff {base : BaseValue} :
    base.isFraction = true ↔ base = .improper ∨ base = .proper ∨ base = .master := by
  cases base <;> simp [isFraction]

namespace RuleContext

variable {context : RuleContext} {marker : Marker} {written : Bool} {op : Operation}

theorem Means.allowed {fallback : Option Target}
    (h : context.Means marker written op fallback) :
    context.base ≠ .infinity ∧ context.base ≠ .nan ∧
      (marker = .less → context.base ≠ .negative) := by
  cases h with
  | quotient h | remainder h | negate h => simp [h]
  | integerPart h | fractionDigits h | digitByDigit h | echo h =>
    rcases BaseValue.isFraction_iff.1 h with h | h | h <;> simp [h]
  | identity hconstant hfraction =>
    refine ⟨?_, ?_, fun hmarker => by cases hmarker⟩
    · rintro h
      simp [h, BaseValue.isConstant] at hconstant
    · rintro h
      simp [h, BaseValue.isConstant] at hconstant

theorem exists_means (hinfinity : context.base ≠ .infinity) (hnan : context.base ≠ .nan)
    (hless : marker = .less → context.base ≠ .negative) (written : Bool) :
    ∃ op fallback, context.Means marker written op fallback := by
  by_cases hfraction : context.base.isFraction = true
  · cases marker with
    | less => exact ⟨_, _, .integerPart hfraction⟩
    | equal => exact ⟨_, _, .echo hfraction⟩
    | greater =>
      cases written with
      | true => exact ⟨_, _, .fractionDigits hfraction⟩
      | false => exact ⟨_, _, .digitByDigit hfraction⟩
  · have hconstant : context.base.isConstant = false := by
      revert hinfinity hnan
      cases context.base <;> simp [BaseValue.isConstant]
    have hplain := BaseValue.eq_number_or_negative hconstant (by simpa using hfraction)
    cases marker with
    | less =>
      obtain ⟨n, hn⟩ := hplain.resolve_right (hless rfl)
      exact ⟨_, _, .quotient hn⟩
    | greater =>
      rcases hplain with ⟨n, hn⟩ | hnegative
      · exact ⟨_, _, .remainder hn⟩
      · exact ⟨_, _, .negate hnegative⟩
    | equal => exact ⟨_, _, .identity hconstant (by simpa using hfraction)⟩

/-- Without a written target there is one to fall back to, except after `=` in rules that are not
for fractions. -/
theorem Means.isSome_fallback {fallback : Option Target}
    (h : context.Means marker false op fallback)
    (hequal : marker = .equal → context.base.isFraction = true) : fallback.isSome = true := by
  cases h with
  | identity hconstant hfraction =>
    rw [hequal rfl] at hfraction
    cases hfraction
  | _ => rfl

theorem exists_yields_substitution_iff {target : Option (List Char)} :
    (∃ p, context.Yields (.substitution marker target) p) ↔ context.base.Allows marker target := by
  constructor
  · rintro ⟨_, h⟩
    cases h with
    | substitution hmeans hgoal =>
      obtain ⟨hinfinity, hnan, hless⟩ := hmeans.allowed
      refine ⟨hinfinity, hnan, hless, ?_, ?_⟩
      · rintro text rfl
        cases hgoal with
        | ruleSet text => exact ⟨_, text, rfl, .inl rfl⟩
        | pattern h text => exact ⟨_, text, rfl, .inr h⟩
      · rintro rfl rfl
        cases hgoal
        cases hmeans with
        | echo h => exact BaseValue.isFraction_iff.1 h
  · rintro ⟨hinfinity, hnan, hless, hbegins, hechoes⟩
    obtain ⟨op, fallback, hmeans⟩ := exists_means hinfinity hnan hless target.isSome
    cases target with
    | none =>
      obtain ⟨goal, rfl⟩ := Option.isSome_iff_exists.1
        (hmeans.isSome_fallback fun hmarker => BaseValue.isFraction_iff.2 (hechoes hmarker rfl))
      exact ⟨_, .substitution hmeans (.fallback goal)⟩
    | some text =>
      obtain ⟨c, rest, rfl, rfl | hpattern⟩ := hbegins text rfl
      · exact ⟨_, .substitution hmeans (.ruleSet rest fallback)⟩
      · exact ⟨_, .substitution hmeans (.pattern hpattern rest fallback)⟩

theorem exists_yields_iff {piece : Piece} :
    (∃ p, context.Yields piece p) ↔ piece.Legal context.base := by
  cases piece with
  | text cs => exact iff_of_true ⟨_, .text cs⟩ trivial
  | substitution marker target => exact exists_yields_substitution_iff
  | selector kind cases => exact iff_of_true ⟨_, .selector kind cases⟩ trivial

theorem exists_yieldsNode_iff {token : Token} :
    (∃ node, context.YieldsNode token node) ↔ ∀ piece ∈ token.pieces, piece.Legal context.base := by
  simp only [← exists_yields_iff]
  cases token with
  | piece piece =>
    rw [Token.pieces, List.forall_mem_singleton]
    constructor
    · rintro ⟨_, ⟨h⟩⟩
      exact ⟨_, h⟩
    · rintro ⟨p, h⟩
      exact ⟨_, .part h⟩
  | optional pieces =>
    rw [Token.pieces, ← exists_forall₂_iff]
    constructor
    · rintro ⟨_, _ | ⟨h⟩⟩
      exact ⟨_, h⟩
    · rintro ⟨parts, h⟩
      exact ⟨_, .optional h⟩

end RuleContext

/-- A rule has a body if its radix can be one and the body is one of legal tokens. -/
theorem Rule.exists_compile_iff {body : String} {context : RuleContext} :
    (∃ rule, Rule.compile body context = .ok rule) ↔ 2 ≤ context.radix.toNat ∧
      ∃ tokens, Body.tokens body.toList = .ok tokens ∧
        ∀ token ∈ tokens, ∀ piece ∈ token.pieces, piece.Legal context.base := by
  simp only [Rule.compile_eq_ok_iff_yields, ← RuleContext.exists_yieldsNode_iff,
    ← exists_forall₂_iff]
  constructor
  · rintro ⟨_, hradix, tokens, nodes, htokens, hnodes, -⟩
    exact ⟨hradix, tokens, htokens, nodes, hnodes⟩
  · rintro ⟨hradix, tokens, htokens, nodes, hnodes⟩
    exact ⟨_, hradix, tokens, nodes, htokens, hnodes, rfl⟩

/-! ## Well-formed rules -/

/-- The operations of rules with the base value and the divisor. -/
def BaseValue.operations (base : BaseValue) (divisor : Nat) : List Operation :=
  match base with
  | .number _ => [.quotient divisor, .remainder divisor, .identity]
  | .negative => [.negate, .identity]
  | .improper | .proper | .master => [.integerPart, .digitByDigit, .fractionDigits, .identity]
  | .infinity | .nan => []

/-- A part of a rule with the base value and the divisor. -/
inductive Part.WellFormed (base : BaseValue) (divisor : Nat) : Part → Prop
  | literal (text : String) : WellFormed base divisor (.literal text)
  | substitution (marker : Marker) {op : Operation} {target : Target}
      (hop : op ∈ base.operations divisor)
      (hecho : target = .echo → op = .identity ∧ base.isFraction = true) :
      WellFormed base divisor (.substitution marker op target)
  | selector (kind : Plural.Kind) (cases : List (String × String)) :
      WellFormed base divisor (.selector kind cases divisor)

/-- A node of a rule with the base value and the divisor. -/
inductive Node.WellFormed (base : BaseValue) (divisor : Nat) : Node → Prop
  | part {p : Part} (h : p.WellFormed base divisor) : WellFormed base divisor (.part p)
  | optional {parts : List Part} (h : ∀ p ∈ parts, p.WellFormed base divisor) :
      WellFormed base divisor (.optional parts base divisor)

structure Rule.WellFormed (rule : Rule) : Prop where
  divisor_pos : 0 < rule.divisor
  nodes : ∀ node ∈ rule.nodes, node.WellFormed rule.base rule.divisor

/-- What a piece leaves open is filled in: `<` and `>` without a target go to the rule set that
contains the rule or, for `<` in a rule set for fractions, to the default one. -/
inductive RuleContext.Completes (context : RuleContext) : Piece → Part → Prop
  | text (cs : List Char) : Completes context (.text cs) (.literal (String.ofList cs))
  | written (marker : Marker) {text : List Char} (op : Operation) {target : Target}
      (h : GoesTo (some text) none target) :
      Completes context (.substitution marker (some text)) (.substitution marker op target)
  | default (op : Operation) (hfraction : context.base.isFraction = true)
      (hset : context.fractionRuleSet = true) :
      Completes context (.substitution .less none)
        (.substitution .less op (.ruleSet context.defaultRuleSet))
  | containing {marker : Marker} (op : Operation) (hmarker : marker ≠ .equal)
      (h : ¬(marker = .less ∧ context.base.isFraction = true ∧ context.fractionRuleSet = true)) :
      Completes context (.substitution marker none)
        (.substitution marker op (.ruleSet context.ruleSet))
  | echo (op : Operation) :
      Completes context (.substitution .equal none) (.substitution .equal op .echo)
  | selector (kind : Plural.Kind) (cases : List (List Char × List Char)) (divisor : Nat) :
      Completes context (.selector kind cases)
        (.selector kind (cases.map fun c => (String.ofList c.1, String.ofList c.2)) divisor)

namespace RuleContext

variable {context : RuleContext} {marker : Marker} {written : Bool} {op : Operation}

theorem Means.mem_operations {fallback : Option Target}
    (h : context.Means marker written op fallback) :
    op ∈ context.base.operations context.divisor := by
  cases h with
  | quotient h | remainder h | negate h => simp [h, BaseValue.operations]
  | integerPart h | fractionDigits h | digitByDigit h | echo h =>
    rcases BaseValue.isFraction_iff.1 h with h | h | h <;> simp [h, BaseValue.operations]
  | identity hconstant hfraction =>
    revert hconstant hfraction
    cases context.base <;>
      simp [BaseValue.operations, BaseValue.isConstant, BaseValue.isFraction]

theorem Means.of_echo (h : context.Means marker written op (some .echo)) :
    op = .identity ∧ context.base.isFraction = true := by
  generalize hgoal : some Target.echo = fallback at h
  cases h with
  | echo h => exact ⟨rfl, h⟩
  | integerPart h =>
    rw [integerTarget] at hgoal
    split at hgoal <;> cases hgoal
  | _ => cases hgoal

theorem Yields.wellFormed {piece : Piece} {p : Part} (h : context.Yields piece p) :
    p.WellFormed context.base context.divisor := by
  cases h with
  | text cs => exact .literal _
  | selector kind cases => exact .selector kind _
  | substitution hmeans hgoal =>
    refine .substitution _ hmeans.mem_operations ?_
    rintro rfl
    cases hgoal
    exact hmeans.of_echo

theorem YieldsNode.wellFormed {token : Token} {node : Node} (h : context.YieldsNode token node) :
    node.WellFormed context.base context.divisor := by
  cases h with
  | part h => exact .part h.wellFormed
  | optional h =>
    refine .optional fun p hp => ?_
    obtain ⟨piece, -, hpiece⟩ := exists_of_forall₂ h hp
    exact hpiece.wellFormed

theorem Yields.completes {piece : Piece} {p : Part} (h : context.Yields piece p) :
    context.Completes piece p := by
  cases h with
  | text cs => exact .text cs
  | selector kind cases => exact .selector kind cases _
  | substitution hmeans hgoal =>
    cases hgoal with
    | ruleSet text => exact .written _ _ (.ruleSet text none)
    | pattern h text => exact .written _ _ (.pattern h text none)
    | fallback =>
      cases hmeans with
      | echo h => exact .echo _
      | integerPart h =>
        cases hset : context.fractionRuleSet with
        | true =>
          rw [integerTarget, if_pos hset]
          exact .default _ h hset
        | false =>
          rw [integerTarget, if_neg (by simp [hset])]
          exact .containing _ (by decide) (by simp [hset])
      | quotient h => exact .containing _ (by decide) (by simp [h, BaseValue.isFraction])
      | remainder h | negate h | digitByDigit h =>
        exact .containing _ (by decide) (by simp)

theorem YieldsNode.completes {token : Token} {node : Node} (h : context.YieldsNode token node) :
    List.Forall₂ context.Completes token.pieces node.parts := by
  cases h with
  | part h => exact .cons h.completes .nil
  | optional h => exact h.imp fun _ _ h => h.completes

end RuleContext

namespace Rule

/-- Exactly the legal bodies compile, and to well-formed rules. -/
theorem compile_legal (body : String) (context : RuleContext) :
    ((∃ rule, compile body context = .ok rule) ↔ 2 ≤ context.radix.toNat ∧
      ∃ tokens, Body.tokens body.toList = .ok tokens ∧
        ∀ token ∈ tokens, ∀ piece ∈ token.pieces, piece.Legal context.base) ∧
    ∀ rule, compile body context = .ok rule →
      rule.base = context.base ∧ rule.radix = context.radix ∧ rule.WellFormed ∧
      ∃ tokens, Body.tokens body.toList = .ok tokens ∧
        List.Forall₂ context.Completes (tokens.flatMap Token.pieces)
          (rule.nodes.flatMap Node.parts) := by
  refine ⟨exists_compile_iff, ?_⟩
  intro rule hrule
  obtain ⟨-, tokens, nodes, htokens, hnodes, rfl⟩ := compile_eq_ok_iff_yields.1 hrule
  refine ⟨rfl, rfl, ⟨divisorFor_pos _ _, ?_⟩, tokens, htokens, ?_⟩
  · intro node hnode
    obtain ⟨token, -, htoken⟩ := exists_of_forall₂ hnodes hnode
    exact htoken.wellFormed
  · exact List.rel_flatMap hnodes fun token node htoken => htoken.completes

def wholeAndDigits : Rule where
  base := .improper
  radix := 10
  divisor := 1
  nodes := [
    .part (.substitution .less .integerPart (.ruleSet "whole")),
    .optional [.literal " and ", .substitution .greater .digitByDigit (.ruleSet "parts")]
      .improper 1]

/-- `<<` goes to the default rule set of a set for fractions; the rule for negative numbers cannot
have it. -/
theorem wholeAndDigits_wellFormed :
    compile "<<[ and >>];" ⟨.improper, 10, "parts", true, "whole"⟩ = .ok wholeAndDigits ∧
      wholeAndDigits.WellFormed ∧
      ¬∃ rule, compile "minus <<;" ⟨.negative, 10, "parts", true, "whole"⟩ = .ok rule := by
  have hrule : compile "<<[ and >>];" ⟨.improper, 10, "parts", true, "whole"⟩ =
      .ok wholeAndDigits := by
    decide +kernel
  have hminus : Body.tokens "minus <<;".toList =
      .ok [.piece (.text "minus ".toList), .piece (.substitution .less none)] := by
    decide +kernel
  refine ⟨hrule, ((compile_legal _ _).2 wholeAndDigits hrule).2.2.1, ?_⟩
  rw [(compile_legal _ _).1]
  rintro ⟨-, tokens, htokens, hlegal⟩
  rw [hminus] at htokens
  cases htokens
  have hless := hlegal _ (List.mem_cons_of_mem _ List.mem_cons_self) _ List.mem_cons_self
  exact hless.not_negative rfl rfl

end Rule

end NumberRules.Spelling
