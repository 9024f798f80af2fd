import Mathlib
import NumberRules.Proofs.Spelling.Calls

/-! # What a spelled number depends on

Spelling with a name comes to the set of that name, to the sets that this one refers to, and so on.
`Registry.Reachable` are the names met on the way, those without a set included.  Two registries
that agree on these names spell alike, whatever other sets they hold; only the names suggested for a
missing one come from the whole registry.
-/

namespace NumberRules
set_option autoImplicit false

/-- An error without the names that it suggests. -/
def EvalError.withoutSuggestions : EvalError → EvalError
  | unknownRuleSet name referrer _ => unknownRuleSet name referrer []
  | e => e

namespace Spelling

/-! ## Outcomes up to suggestions -/

/-- The same value, or the same error up to suggestions. -/
def SameOutcome (α : Type) (x y : Except EvalError α) : Prop :=
  x.mapError EvalError.withoutSuggestions = y.mapError EvalError.withoutSuggestions

theorem sequential_sameOutcome : Sequential SameOutcome where
  ok a := rfl
  bind {α β x y f g} hxy hfg := by
    cases x with
    | ok a =>
      cases y with
      | ok b =>
        cases hxy
        exact hfg a
      | error e => cases hxy
    | error e =>
      cases y with
      | ok b => cases hxy
      | error e' =>
        have he : e.withoutSuggestions = e'.withoutSuggestions := Except.error.inj hxy
        exact congrArg Except.error he

namespace Registry

/-! ## Reachable names -/

/-- The names that spelling with `name` can come to, without percent signs. -/
inductive Reachable (reg : Registry) (name : String) : String → Prop where
  | start : Reachable reg name (dropPercents name)
  /-- What the set of a reachable name refers to is reachable. -/
  | refer {r s : String} {set : RuleSet} (hr : Reachable reg name r)
    (hset : reg.get? r = some set) (hs : s ∈ set.dependsOn) : Reachable reg name (dropPercents s)

variable {reg reg' : Registry} {name : String}

theorem Reachable.get?_eq (hget : ∀ r, reg.Reachable name r → reg'.get? r = reg.get? r) {r : String}
    (hr : reg.Reachable name (dropPercents r)) : reg'.get? r = reg.get? r := by
  rw [← get?_dropPercents reg, ← get?_dropPercents reg']
  exact hget _ hr

/-! ## Two runs -/

/-- A reachable name is found by both registries or by neither. -/
theorem lookup_bind_sameOutcome {r : String} (h : reg'.get? r = reg.get? r) (referrer : String)
    {f g : RuleSet → Except EvalError String}
    (hfg : ∀ set, reg.get? r = some set → SameOutcome String (f set) (g set)) :
    SameOutcome String (reg.lookup r referrer >>= f) (reg'.lookup r referrer >>= g) := by
  rw [lookup, lookup, h]
  cases hset : reg.get? r with
  | none => rfl
  | some set => exact hfg set hset

theorem spell_sameOutcome (hplural : ∀ kind, reg'.pluralRules kind = reg.pluralRules kind)
    (hrenderer : reg'.renderer = reg.renderer)
    (hget : ∀ r, reg.Reachable name r → reg'.get? r = reg.get? r) (depth : Nat)
    (chain : List String) {set : RuleSet}
    (hset : ∀ r ∈ set.dependsOn, reg.Reachable name (dropPercents r)) (x : Double) :
    SameOutcome String (reg.spell depth chain set x) (reg'.spell depth chain set x) := by
  induction depth generalizing chain set x with
  | zero =>
    rw [spell, spell]
    rfl
  | succ depth ih =>
    refine spell_related sequential_sameOutcome rfl ⟨hrenderer.symm, ?_, ?_⟩
    · intro kind cases divisor
      rw [spellSelector, spellSelector, hplural]
      rfl
    · intro rule hrule r value hcalls
      -- The callee is reachable, and so is all that it refers to.
      have hreach := hset r (RuleSet.mem_dependsOn_of_calls hrule hcalls)
      refine lookup_bind_sameOutcome (Reachable.get?_eq hget hreach) set.name ?_
      intro callee hcallee
      rw [← get?_dropPercents] at hcallee
      exact ih _ (fun s hs => hreach.refer hcallee hs) value

/-- Registries with the same plural rules, renderer and limit that agree on the reachable names,
also on which of them are missing, spell every number alike. -/
theorem format_eq_of_reachable (hplural : ∀ kind, reg'.pluralRules kind = reg.pluralRules kind)
    (hrenderer : reg'.renderer = reg.renderer) (hdepth : reg'.maxDepth = reg.maxDepth)
    (hget : ∀ r, reg.Reachable name r → reg'.get? r = reg.get? r) (x : Double) :
    (reg.format name x).mapError EvalError.withoutSuggestions =
      (reg'.format name x).mapError EvalError.withoutSuggestions := by
  refine lookup_bind_sameOutcome (Reachable.get?_eq hget .start) name ?_
  intro set hset
  rw [← get?_dropPercents] at hset
  rw [formatWith, formatWith, hdepth]
  exact spell_sameOutcome hplural hrenderer hget _ [] (fun r hr => .refer .start hset hr) x

/-! ## An unreachable set -/

/-- A rule that spells every number from zero on with the set of another name. -/
def forwardingRule (target : String) : Rule :=
  ⟨.number 0, Key.defaultRadix, 1, [.part (.substitution .equal .identity (.ruleSet target))]⟩

def forwarding (name target : String) : RuleSet := ⟨name, [forwardingRule target]⟩

theorem mem_dependsOn_forwarding {name target r : String}
    (h : r ∈ (forwarding name target).dependsOn) : r = target := by
  obtain ⟨rule, hrule, hr⟩ := RuleSet.mem_dependsOn.1 h
  rw [List.mem_singleton.1 hrule] at hr
  exact List.mem_singleton.1 hr

/-- A set that refers to a missing one. -/
def narrow : Registry := empty.insert (forwarding "few" "tens")

/-- The same with a set that only a suggestion can name. -/
def wide : Registry := narrow.insert (forwarding "tenz" "few")

theorem get?_narrow (r : String) :
    narrow.get? r = if "few" = dropPercents r then some (forwarding "few" "tens") else none := by
  rw [narrow, get?_insert]
  rfl

theorem get?_wide {r : String} (h : "tenz" ≠ dropPercents r) : wide.get? r = narrow.get? r := by
  rw [wide, get?_insert]
  exact if_neg h

theorem reachable_narrow {r : String} (h : narrow.Reachable "few" r) : r = "few" ∨ r = "tens" := by
  induction h with
  | start => exact .inl (by decide)
  | refer _ hset hs _ =>
    rw [get?_narrow] at hset
    split at hset
    · rw [← Option.some.inj hset] at hs
      rw [mem_dependsOn_forwarding hs]
      exact .inr (by decide)
    · cases hset

theorem ruleFor_forwarding (name target : String) {n : Nat} (hn : n < 2 ^ 53) :
    (forwarding name target).ruleFor (.ofNat n) = some (forwardingRule target) := by
  have hreaches : RuleSet.reaches (.ofNat n) (forwardingRule target) = decide (0 ≤ n) :=
    RuleSet.reaches_ofNat (b := 0) rfl (by decide) hn
  rw [RuleSet.ruleFor_ofNat _ hn, forwarding, List.find?_cons_of_pos]
  rw [hreaches]
  exact decide_eq_true (Nat.zero_le n)

theorem format_forwarding {reg : Registry} {name target : String}
    (hset : reg.get? name = some (forwarding name target)) (hdepth : reg.maxDepth ≠ 0)
    (hmissing : reg.get? target = none) {n : Nat} (hn : n < 2 ^ 53) :
    reg.format name (.ofNat n) = .error (.unknownRuleSet (dropPercents target) (dropPercents name)
      (suggestions (dropPercents target) reg.names)) := by
  obtain ⟨depth, hdepth⟩ := Nat.exists_eq_succ_of_ne_zero hdepth
  rw [format, lookup, hset, bind_ok, formatWith, hdepth, spell, ruleFor_forwarding name target hn]
  simp only [forwardingRule, spellNodes, List.mapM_cons, spellNode, spellPart, spellTarget, lookup,
    hmissing]
  rfl

theorem get?_narrow_few : narrow.get? "few" = some (forwarding "few" "tens") := by
  rw [get?_narrow]
  exact if_pos (by decide)

theorem get?_narrow_tens : narrow.get? "tens" = none := by
  rw [get?_narrow]
  exact if_neg (by decide)

theorem format_narrow :
    narrow.format "few" (.ofNat 20) = .error (.unknownRuleSet "tens" "few" []) := by
  rw [format_forwarding get?_narrow_few (by decide) get?_narrow_tens (by norm_num)]
  cbv

/-- The two registries suggest different names, and agree otherwise. -/
theorem format_narrow_wide :
    (∀ r, narrow.Reachable "few" r → wide.get? r = narrow.get? r) ∧
      narrow.format "few" (.ofNat 20) = .error (.unknownRuleSet "tens" "few" []) ∧
      wide.format "few" (.ofNat 20) = .error (.unknownRuleSet "tens" "few" ["tenz"]) ∧
      (narrow.format "few" (.ofNat 20)).mapError EvalError.withoutSuggestions =
        (wide.format "few" (.ofNat 20)).mapError EvalError.withoutSuggestions := by
  have hget : ∀ r, narrow.Reachable "few" r → wide.get? r = narrow.get? r := by
    intro r hr
    refine get?_wide ?_
    rcases reachable_narrow hr with rfl | rfl <;> decide
  have hplural : ∀ kind, wide.pluralRules kind = narrow.pluralRules kind := by
    intro kind
    cases kind <;> rfl
  have hsame := format_eq_of_reachable hplural rfl rfl hget (.ofNat 20)
  have hset : wide.get? "few" = some (forwarding "few" "tens") := by
    rw [get?_wide (by decide), get?_narrow_few]
  have hmissing : wide.get? "tens" = none := by
    rw [get?_wide (by decide), get?_narrow_tens]
  have hwide := format_forwarding hset (by decide) hmissing (show 20 < 2 ^ 53 by norm_num)
  refine ⟨hget, format_narrow, hwide.trans ?_, hsame⟩
  cbv

end Registry

end Spelling

end NumberRules
