import Mathlib
import NumberRules.Proofs.Plural.Classes
import NumberRules.Proofs.Spelling.Body.Stops
import NumberRules.Proofs.Spelling.Legality

/-! # Causes of errors

Compiling a condition, a rule or a set of either fails for one of five causes, which is the root of
the error however often that is wrapped: a condition that is not read, a body that is not read or
not allowed, a key without a base value, a radix below two, or a base value that a set has twice.
-/

namespace NumberRules
set_option autoImplicit false

namespace Spelling

/-! ## Bodies -/

theorem Rule.compile_eq_error_iff {body : String} {context : RuleContext} {e : CompileError} :
    Rule.compile body context = .error e ↔
      context.radix < 2 ∧ e = .invalidRadix context.base.text context.radix ∨
      ¬context.radix < 2 ∧
        ∃ fault, context.nodes body = .error fault ∧ e = .bodySyntax ⟨body, fault⟩ := by
  unfold Rule.compile
  split
  · rename_i hradix
    simp [hradix, eq_comm]
  · rename_i hradix
    cases context.nodes body with
    | ok nodes => simp [hradix]
    | error fault => simp [hradix, eq_comm]

namespace RuleContext

variable {context : RuleContext}

theorem exists_of_part_eq_error {p : Piece} {fault : SyntaxFault}
    (h : context.part p = .error fault) : ∃ marker target refusal,
      p = .substitution marker target ∧
        fault = .substitution marker (target.map String.ofList) refusal := by
  cases p with
  | text | selector => cases h
  | substitution marker target =>
    obtain ⟨refusal, -, hfault⟩ := mapError_eq_error_iff.1 h
    exact ⟨marker, target, refusal, rfl, hfault⟩

theorem exists_of_node_eq_error {t : Token} {fault : SyntaxFault}
    (h : context.node t = .error fault) : ∃ p ∈ t.pieces, context.part p = .error fault := by
  cases t with
  | piece p =>
    refine ⟨p, List.mem_cons_self, ?_⟩
    rw [node] at h
    cases hp : context.part p with
    | ok part => simp [hp, Except.map] at h
    | error source => simpa [hp, Except.map] using h
  | optional ps =>
    rcases bind_eq_error_iff.1 h with hparts | ⟨_, -, hpure⟩
    · obtain ⟨before, p, after, rfl, -, hp⟩ := exists_of_mapM_eq_error hparts
      exact ⟨p, by simp [Token.pieces], hp⟩
    · cases hpure

/-- A body gives no nodes if it is not read, or if a substitution in it is refused. -/
theorem nodes_eq_error_cases {body : String} {fault : SyntaxFault}
    (h : context.nodes body = .error fault) :
    Body.tokens body.toList = .error fault ∨
      ∃ ts t marker target refusal, Body.tokens body.toList = .ok ts ∧ t ∈ ts ∧
        .substitution marker target ∈ t.pieces ∧
        fault = .substitution marker (target.map String.ofList) refusal := by
  rcases bind_eq_error_iff.1 h with htokens | ⟨ts, htokens, hnodes⟩
  · exact .inl htokens
  · obtain ⟨before, t, after, rfl, -, ht⟩ := exists_of_mapM_eq_error hnodes
    obtain ⟨p, hmem, hp⟩ := exists_of_node_eq_error ht
    obtain ⟨marker, target, refusal, rfl, hfault⟩ := exists_of_part_eq_error hp
    exact .inr ⟨_, t, marker, target, refusal, htokens, by simp, hmem, hfault⟩

theorem nodes_of_tokens_eq_error {body : String} {fault : SyntaxFault}
    (h : Body.tokens body.toList = .error fault) : context.nodes body = .error fault := by
  rw [nodes, h]
  rfl

end RuleContext

/-! ## Keys -/

theorem Key.exists_of_parse_eq_error {text : String} {e : CompileError}
    (h : Key.parse text = .error e) : ∃ key, e = .invalidBaseValue key := by
  have hbase : ∀ key, BaseValue.parse key = .error e → ∃ key, e = .invalidBaseValue key := by
    intro key hkey
    rw [BaseValue.parse] at hkey
    split at hkey <;> cases hkey
    exact ⟨key, rfl⟩
  unfold Key.parse at h
  split at h
  · rcases bind_eq_error_iff.1 h with hkey | ⟨_, -, hpure⟩
    · exact hbase _ hkey
    · cases hpure
  · split at h
    · cases h
      exact ⟨text, rfl⟩
    · rcases bind_eq_error_iff.1 h with hkey | ⟨_, -, hpure⟩
      · exact hbase _ hkey
      · cases hpure

theorem RuleSet.root_of_entriesFrom_eq_error {name : String} {seen : List BaseValue}
    {pairs : List (String × String)} {e : CompileError}
    (h : entriesFrom name seen pairs = .error e) :
    (∃ key, e.root = .invalidBaseValue key) ∨ ∃ key, e.root = .duplicateRule name key := by
  induction pairs generalizing seen with
  | nil => cases h
  | cons pair pairs ih =>
    rcases bind_eq_error_iff.1 h with hunread | ⟨key, -, h⟩
    · obtain ⟨source, hsource, rfl⟩ := mapError_eq_error_iff.1 hunread
      obtain ⟨key, rfl⟩ := Key.exists_of_parse_eq_error hsource
      exact .inl ⟨key, rfl⟩
    · split at h
      · cases h
        exact .inr ⟨pair.1, rfl⟩
      · rcases bind_eq_error_iff.1 h with hrest | ⟨_, -, hpure⟩
        · exact ih hrest
        · cases hpure

end Spelling

namespace CompileError

/-! ## Errors -/

/-- An error of compiling something, perhaps inside further rule sets. -/
inductive Arises : CompileError → Prop
  | condition {text : String} {e : CompileError} (h : Plural.Condition.compile text = .error e) :
      Arises e
  | pluralRules {entries : List (String × String)} {e : CompileError}
      (h : Plural.Rules.compile entries = .error e) : Arises e
  | rule {body : String} {context : Spelling.RuleContext} {e : CompileError}
      (h : Spelling.Rule.compile body context = .error e) : Arises e
  | ruleSet {name : String} {options : Spelling.RuleSet.Options} {pairs : List (String × String)}
      {e : CompileError} (h : Spelling.RuleSet.compile name options pairs = .error e) : Arises e
  | inPluralRule (category : String) {e : CompileError} (h : Arises e) :
      Arises (.inPluralRule category e)
  | inSpellingRule (ruleSet key : String) {e : CompileError} (h : Arises e) :
      Arises (.inSpellingRule ruleSet key e)

inductive Cause : CompileError → Prop
  | condition {text : String} {err : Plural.SyntaxError}
      (h : Plural.Condition.parse text = .error err) : Cause (.conditionSyntax err)
  | body {context : Spelling.RuleContext} {err : Spelling.SyntaxError}
      (h : context.nodes err.body = .error err.fault) : Cause (.bodySyntax err)
  | invalidBaseValue (key : String) : Cause (.invalidBaseValue key)
  | invalidRadix (key : String) (radix : UInt32) : Cause (.invalidRadix key radix)
  | duplicateRule (ruleSet key : String) : Cause (.duplicateRule ruleSet key)

theorem cause_of_condition {text : String} {e : CompileError}
    (h : Plural.Condition.compile text = .error e) : Cause e.root := by
  obtain ⟨err, herr, rfl⟩ := mapError_eq_error_iff.1 h
  exact .condition herr

theorem cause_of_rule {body : String} {context : Spelling.RuleContext} {e : CompileError}
    (h : Spelling.Rule.compile body context = .error e) : Cause e.root := by
  rcases Spelling.Rule.compile_eq_error_iff.1 h with ⟨-, rfl⟩ | ⟨-, fault, hnodes, rfl⟩
  · exact .invalidRadix _ _
  · have hcause : Cause (.bodySyntax ⟨body, fault⟩) := .body hnodes
    exact hcause

theorem cause_of_ruleSet {name : String} {options : Spelling.RuleSet.Options}
    {pairs : List (String × String)} {e : CompileError}
    (h : Spelling.RuleSet.compile name options pairs = .error e) : Cause e.root := by
  rw [Spelling.RuleSet.compile_eq] at h
  rcases bind_eq_error_iff.1 h with hkeys | ⟨entries, -, h⟩
  · rcases Spelling.RuleSet.root_of_entriesFrom_eq_error hkeys with ⟨key, hroot⟩ | ⟨key, hroot⟩
    · exact hroot ▸ .invalidBaseValue key
    · exact hroot ▸ .duplicateRule _ key
  · rcases bind_eq_error_iff.1 h with hrules | ⟨_, -, hpure⟩
    · obtain ⟨_, entry, _, -, -, hentry⟩ := exists_of_mapM_eq_error hrules
      obtain ⟨source, hsource, rfl⟩ := mapError_eq_error_iff.1 hentry
      have hcause : Cause source.root := cause_of_rule hsource
      exact hcause
    · cases hpure

theorem Arises.cause {e : CompileError} (h : Arises e) : Cause e.root := by
  induction h with
  | condition h => exact cause_of_condition h
  | pluralRules h =>
    obtain ⟨_, _, _, source, -, -, -, hsource, rfl⟩ := Plural.Rules.compile_eq_error_iff.1 h
    have hcause : Cause source.root := cause_of_condition hsource
    exact hcause
  | rule h => exact cause_of_rule h
  | ruleSet h => exact cause_of_ruleSet h
  | inPluralRule _ _ ih | inSpellingRule _ _ _ ih => exact ih

end CompileError

end NumberRules
