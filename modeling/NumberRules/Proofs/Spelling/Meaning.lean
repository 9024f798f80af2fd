import Mathlib
import NumberRules.Proofs.Except
import NumberRules.Proofs.Spelling.RuleSets

/-! # What tokens mean in a rule

`RuleContext.Means` is the table of the markers: in a rule of each kind it gives the operation and
the target of a substitution without one.  `GoesTo` says where a substitution goes, `Yields` and
`YieldsNode` what compiling makes of pieces and tokens.  A rule is compiled exactly if its radix is
from two on and each of its tokens yields a node.
-/

namespace NumberRules.Spelling
set_option autoImplicit false

theorem BaseValue.eq_number_or_negative {base : BaseValue} (hconstant : base.isConstant = false)
    (hfraction : base.isFraction = false) : (∃ n, base = .number n) ∨ base = .negative := by
  cases base with
  | number n => exact .inl ⟨n, rfl⟩
  | negative => exact .inr rfl
  | improper | proper | master => cases hfraction
  | infinity | nan => cases hconstant

namespace RuleContext

variable {context : RuleContext} {marker : Marker} {written : Bool} {op : Operation}

/-! ## Markers -/

/-- A marker, with or without a written target, stands for an operation and falls back to a
target. -/
inductive Means (context : RuleContext) : Marker → Bool → Operation → Option Target → Prop
  | quotient {n : UInt64} {written : Bool} (h : context.base = .number n) :
      Means context .less written (.quotient context.divisor) (some context.containing)
  | integerPart {written : Bool} (h : context.base.isFraction = true) :
      Means context .less written .integerPart (some context.integerTarget)
  | remainder {n : UInt64} {written : Bool} (h : context.base = .number n) :
      Means context .greater written (.remainder context.divisor) (some context.containing)
  | negate {written : Bool} (h : context.base = .negative) :
      Means context .greater written .negate (some context.containing)
  | fractionDigits (h : context.base.isFraction = true) :
      Means context .greater true .fractionDigits none
  | digitByDigit (h : context.base.isFraction = true) :
      Means context .greater false .digitByDigit (some context.containing)
  | echo {written : Bool} (h : context.base.isFraction = true) :
      Means context .equal written .identity (some .echo)
  | identity {written : Bool} (hconstant : context.base.isConstant = false)
      (hfraction : context.base.isFraction = false) : Means context .equal written .identity none

theorem meaning_of_means {fallback : Option Target} (h : context.Means marker written op fallback) :
    context.meaning marker written = .ok (op, fallback) := by
  have hfraction : context.base.isFraction = true →
      context.base.isConstant = false ∧ context.base ≠ .negative := by
    cases context.base <;> simp [BaseValue.isFraction, BaseValue.isConstant]
  cases h with
  | quotient h => simp [meaning, h, BaseValue.isConstant, BaseValue.isFraction]
  | integerPart h => simp [meaning, h, hfraction h]
  | remainder h => simp [meaning, h, BaseValue.isConstant, BaseValue.isFraction]
  | negate h => simp [meaning, h, BaseValue.isConstant]
  | fractionDigits h => simp [meaning, h, hfraction h]
  | digitByDigit h => simp [meaning, h, hfraction h]
  | echo h => simp [meaning, h, hfraction h]
  | identity hconstant hfraction => simp [meaning, hconstant, hfraction]

theorem means_of_meaning {fallback : Option Target}
    (h : context.meaning marker written = .ok (op, fallback)) :
    context.Means marker written op fallback := by
  unfold meaning at h
  split at h
  · cases h
  · rename_i hconstant
    rw [Bool.not_eq_true] at hconstant
    have hnumber (hnegative : context.base ≠ .negative) (hfraction : ¬context.base.isFraction) :
        ∃ n, context.base = .number n :=
      (BaseValue.eq_number_or_negative hconstant (by simpa using hfraction)).resolve_right hnegative
    cases marker with
    | less =>
      dsimp only at h
      split at h
      · cases h
      · rename_i hnegative
        split at h
        · rename_i hfraction
          cases h
          exact .integerPart hfraction
        · rename_i hfraction
          cases h
          obtain ⟨n, hn⟩ := hnumber hnegative hfraction
          exact .quotient hn
    | greater =>
      dsimp only at h
      split at h
      · rename_i hnegative
        cases h
        exact .negate hnegative
      · rename_i hnegative
        split at h
        · rename_i hfraction
          cases written with
          | true =>
            cases h
            exact .fractionDigits hfraction
          | false =>
            cases h
            exact .digitByDigit hfraction
        · rename_i hfraction
          cases h
          obtain ⟨n, hn⟩ := hnumber hnegative hfraction
          exact .remainder hn
    | equal =>
      dsimp only at h
      cases hfraction : context.base.isFraction with
      | true =>
        simp only [hfraction, if_true, Except.ok.injEq, Prod.mk.injEq] at h
        obtain ⟨rfl, rfl⟩ := h
        exact .echo hfraction
      | false =>
        simp only [hfraction, Bool.false_eq_true, if_false, Except.ok.injEq, Prod.mk.injEq] at h
        obtain ⟨rfl, rfl⟩ := h
        exact .identity hconstant hfraction

/-! ## Targets -/

/-- A written target is a rule set or a decimal pattern; without one the fallback is taken. -/
inductive GoesTo : Option (List Char) → Option Target → Target → Prop
  | ruleSet (text : List Char) (fallback : Option Target) :
      GoesTo (some ('%' :: text)) fallback
        (.ruleSet (dropPercents (String.ofList ('%' :: text))))
  | pattern {c : Char} (h : c = '0' ∨ c = '#') (text : List Char) (fallback : Option Target) :
      GoesTo (some (c :: text)) fallback (.pattern (String.ofList (c :: text)))
  | fallback (target : Target) : GoesTo none (some target) target

theorem targetOf_eq_ok_iff {text : List Char} {target : Target} (fallback : Option Target) :
    targetOf text = .ok target ↔ GoesTo (some text) fallback target := by
  constructor
  · intro h
    unfold targetOf at h
    split at h
    · cases h
      exact .ruleSet _ fallback
    · cases h
      exact .pattern (.inl rfl) _ fallback
    · cases h
      exact .pattern (.inr rfl) _ fallback
    · cases h
  · intro h
    cases h with
    | ruleSet text => rfl
    | pattern h text => rcases h with rfl | rfl <;> rfl

theorem substitution_eq_ok_iff {target : Option (List Char)} {p : Part} :
    context.substitution marker target = .ok p ↔ ∃ op fallback goal,
      context.Means marker target.isSome op fallback ∧ GoesTo target fallback goal ∧
        p = .substitution marker op goal := by
  rw [substitution, bind_eq_ok_iff]
  constructor
  · rintro ⟨⟨op, fallback⟩, hmeaning, h⟩
    refine ⟨op, fallback, ?_⟩
    cases target with
    | some text =>
      obtain ⟨goal, hgoal, h⟩ := bind_eq_ok_iff.1 h
      exact ⟨goal, means_of_meaning hmeaning, (targetOf_eq_ok_iff fallback).1 hgoal,
        (Except.ok.inj h).symm⟩
    | none =>
      cases fallback with
      | some goal =>
        exact ⟨goal, means_of_meaning hmeaning, .fallback goal, (Except.ok.inj h).symm⟩
      | none => cases h
  · rintro ⟨op, fallback, goal, hmeans, hgoal, rfl⟩
    refine ⟨(op, fallback), meaning_of_means hmeans, ?_⟩
    cases target with
    | some text => exact bind_eq_ok_iff.2 ⟨goal, (targetOf_eq_ok_iff fallback).2 hgoal, rfl⟩
    | none =>
      cases hgoal
      rfl

/-! ## Pieces and tokens -/

/-- What compiling makes of a piece. -/
inductive Yields (context : RuleContext) : Piece → Part → Prop
  | text (cs : List Char) : Yields context (.text cs) (.literal (String.ofList cs))
  | substitution {marker : Marker} {target : Option (List Char)} {op : Operation}
      {fallback : Option Target} {goal : Target}
      (hmeans : context.Means marker target.isSome op fallback)
      (hgoal : GoesTo target fallback goal) :
      Yields context (.substitution marker target) (.substitution marker op goal)
  | selector (kind : Plural.Kind) (cases : List (List Char × List Char)) :
      Yields context (.selector kind cases)
        (.selector kind (cases.map fun c => (String.ofList c.1, String.ofList c.2))
          context.divisor)

theorem part_eq_ok_iff {piece : Piece} {p : Part} :
    context.part piece = .ok p ↔ context.Yields piece p := by
  cases piece with
  | text cs =>
    constructor
    · rintro ⟨⟩
      exact .text cs
    · rintro ⟨⟩
      rfl
  | substitution marker target =>
    rw [part, mapError_eq_ok_iff, substitution_eq_ok_iff]
    constructor
    · rintro ⟨op, fallback, goal, hmeans, hgoal, rfl⟩
      exact .substitution hmeans hgoal
    · rintro (_ | ⟨hmeans, hgoal⟩)
      exact ⟨_, _, _, hmeans, hgoal, rfl⟩
  | selector kind cases =>
    constructor
    · rintro ⟨⟩
      exact .selector kind cases
    · rintro ⟨⟩
      rfl

/-- What compiling makes of a token; an optional clause remembers the base and the divisor. -/
inductive YieldsNode (context : RuleContext) : Token → Node → Prop
  | part {piece : Piece} {p : Part} (h : context.Yields piece p) :
      YieldsNode context (.piece piece) (.part p)
  | optional {pieces : List Piece} {parts : List Part}
      (h : List.Forall₂ context.Yields pieces parts) :
      YieldsNode context (.optional pieces) (.optional parts context.base context.divisor)

theorem node_eq_ok_iff {token : Token} {node : Node} :
    context.node token = .ok node ↔ context.YieldsNode token node := by
  cases token with
  | piece piece =>
    rw [RuleContext.node]
    constructor
    · intro h
      cases hpart : context.part piece with
      | error fault =>
        rw [hpart] at h
        cases h
      | ok p =>
        rw [hpart] at h
        cases h
        exact .part (part_eq_ok_iff.1 hpart)
    · rintro ⟨h⟩
      rw [part_eq_ok_iff.2 h]
      rfl
  | optional pieces =>
    rw [RuleContext.node, bind_eq_ok_iff]
    simp only [mapM_eq_ok_iff, part_eq_ok_iff]
    constructor
    · rintro ⟨parts, hparts, h⟩
      cases h
      exact .optional hparts
    · rintro (_ | ⟨hparts⟩)
      exact ⟨_, hparts, rfl⟩

end RuleContext

/-! ## Rules -/

/-- A body gives a rule if the radix can be one and every token yields a node. -/
theorem Rule.compile_eq_ok_iff_yields {body : String} {context : RuleContext} {rule : Rule} :
    Rule.compile body context = .ok rule ↔ 2 ≤ context.radix.toNat ∧
      ∃ tokens nodes, Body.tokens body.toList = .ok tokens ∧
        List.Forall₂ context.YieldsNode tokens nodes ∧
        rule = ⟨context.base, context.radix, context.divisor, nodes⟩ := by
  have hradix : ¬context.radix < 2 ↔ 2 ≤ context.radix.toNat := by
    rw [UInt32.lt_iff_toNat_lt, Nat.not_lt]
    rfl
  simp only [compile_eq_ok_iff, hradix, RuleContext.nodes, bind_eq_ok_iff, mapM_eq_ok_iff,
    RuleContext.node_eq_ok_iff]
  constructor
  · rintro ⟨hle, nodes, ⟨tokens, htokens, hnodes⟩, rfl⟩
    exact ⟨hle, tokens, nodes, htokens, hnodes, rfl⟩
  · rintro ⟨hle, tokens, nodes, htokens, hnodes, rfl⟩
    exact ⟨hle, nodes, ⟨tokens, htokens, hnodes⟩, rfl⟩

end NumberRules.Spelling
