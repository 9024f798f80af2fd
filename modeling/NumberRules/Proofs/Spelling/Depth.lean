import Mathlib
import NumberRules.Proofs.Spelling.References

/-! # The limit on nested calls

Spelling fails with `tooDeep` when one more rule set would have to be entered than the limit allows.
A larger limit changes nothing else: it gives the same outcome unless the smaller one was too small.
The chain in the error is the path of the calls that were open, from the set that was asked for down
to the one that was refused.
-/

namespace NumberRules.Spelling
set_option autoImplicit false

/-! ## A larger limit -/

/-- The second outcome is the first one, unless the first one met the limit. -/
def CutShort (α : Type) (x y : Except EvalError α) : Prop :=
  (∃ chain, x = .error (.tooDeep chain)) ∨ x = y

theorem sequential_cutShort : Sequential CutShort where
  ok a := .inr rfl
  bind {α β x y f g} hxy hfg := by
    rcases hxy with ⟨chain, rfl⟩ | rfl
    · exact .inl ⟨chain, rfl⟩
    · cases x with
      | ok a => exact hfg a
      | error e => exact .inr rfl

namespace Registry

def limited (reg : Registry) (depth : Nat) : Registry := { reg with maxDepth := depth }

variable {reg : Registry} {allowed : RuleSet.Options → Prop} {name : String} {set : RuleSet}
  {x : Double} {d d' : Nat}

theorem spell_cutShort (reg : Registry) (d d' : Nat) {depth depth' : Nat} (h : depth ≤ depth')
    (chain : List String) (set : RuleSet) (x : Double) :
    CutShort String ((reg.limited d).spell depth chain set x)
      ((reg.limited d').spell depth' chain set x) := by
  induction depth generalizing depth' chain set x with
  | zero =>
    rw [spell, spell]
    cases set.ruleFor x with
    | none => exact .inr rfl
    | some rule => exact .inl ⟨_, rfl⟩
  | succ depth ih =>
    obtain ⟨deeper, rfl⟩ : ∃ deeper, depth' = deeper + 1 := ⟨depth' - 1, by omega⟩
    refine spell_related sequential_cutShort (.inr rfl) ⟨rfl, ?_, ?_⟩
    · intro kind cases divisor
      exact .inr rfl
    · intro rule hrule r value hcalls
      -- The limit plays no part in looking a name up.
      have hlookup : (reg.limited d').lookup r set.name = (reg.limited d).lookup r set.name := rfl
      rw [spellTarget, spellTarget, hlookup]
      exact sequential_cutShort.bind (.inr rfl) fun callee => ih (by omega) _ callee value

/-- A limit that is not met may be raised without any effect, and one that is met may be lowered
and is met again.  The rule set need not be registered. -/
theorem formatWith_limited_of_le (reg : Registry) (set : RuleSet) (x : Double) (h : d ≤ d') :
    ((∀ chain, (reg.limited d).formatWith set x ≠ .error (.tooDeep chain)) →
      (reg.limited d').formatWith set x = (reg.limited d).formatWith set x) ∧
    ∀ chain', (reg.limited d').formatWith set x = .error (.tooDeep chain') →
      ∃ chain, (reg.limited d).formatWith set x = .error (.tooDeep chain) := by
  have hcut : CutShort String ((reg.limited d).formatWith set x)
      ((reg.limited d').formatWith set x) := spell_cutShort reg d d' h [] set x
  constructor
  · intro hfree
    rcases hcut with ⟨chain, hdeep⟩ | hsame
    · exact absurd hdeep (hfree chain)
    · exact hsame.symm
  · intro chain' hdeep
    rcases hcut with hdeep' | hsame
    · exact hdeep'
    · exact ⟨chain', hsame.trans hdeep⟩

/-- Spells every number with the set `few`, and is in no registry. -/
def many : RuleSet := forwarding "many" "few"

/-- The missing set is reported under every limit that gets that far; the set that calls itself
meets every limit. -/
theorem formatWith_many :
    (2 ≤ 64 ∧ (narrow.limited 2).formatWith many (.ofNat 20) =
        .error (.unknownRuleSet "tens" "few" []) ∧
      (narrow.limited 64).formatWith many (.ofNat 20) =
        (narrow.limited 2).formatWith many (.ofNat 20)) ∧
    1 ≤ 2 ∧ (circular.limited 2).formatWith many (.ofNat 20) =
        .error (.tooDeep ["many", "few", "few"]) ∧
      ∃ chain, (circular.limited 1).formatWith many (.ofNat 20) = .error (.tooDeep chain) := by
  have hmissing : (narrow.limited 2).formatWith many (.ofNat 20) =
      .error (.unknownRuleSet "tens" "few" []) := by
    decide +kernel
  have hdeep : (circular.limited 2).formatWith many (.ofNat 20) =
      .error (.tooDeep ["many", "few", "few"]) := by
    decide +kernel
  have hraised := (formatWith_limited_of_le narrow many (.ofNat 20) (show 2 ≤ 64 by decide)).1
  have hlowered := (formatWith_limited_of_le circular many (.ofNat 20) (show 1 ≤ 2 by decide)).2
  refine ⟨⟨by decide, hmissing, hraised ?_⟩, by decide, hdeep, hlowered _ hdeep⟩
  intro chain
  rw [hmissing]
  simp

/-! ## The chain of open calls -/

/-- The set that is kept as `s` refers to `t`, percent signs in front of the reference left
aside. -/
def LeadsTo (reg : Registry) (s t : String) : Prop :=
  ∃ set, reg.sets[s]? = some set ∧ ∃ r ∈ set.dependsOn, dropPercents r = t

/-- Names of kept sets, each of which refers to the next one. -/
structure CallPath (reg : Registry) (path : List String) : Prop where
  registered : ∀ s ∈ path, s ∈ reg.names
  linked : path.IsChain reg.LeadsTo

/-- If the error is about the limit, its chain continues the open calls with `s` and then with as
many calls as were left. -/
def Overflows (reg : Registry) (depth : Nat) (chain : List String) (s : String) :
    EvalError → Prop
  | .tooDeep full => ∃ path, full = chain ++ s :: path ∧ path.length = depth ∧
      reg.CallPath (s :: path)
  | _ => True

theorem overflows_zero {s : String} (hs : s ∈ reg.names) (chain : List String) :
    reg.Overflows 0 chain s (.tooDeep (chain ++ [s])) := by
  refine ⟨[], rfl, rfl, ?_, .singleton s⟩
  intro t ht
  rwa [List.mem_singleton.1 ht]

theorem overflows_succ {depth : Nat} {chain : List String} {s t : String} {e : EvalError}
    (hs : s ∈ reg.names) (hst : reg.LeadsTo s t) (h : reg.Overflows depth (chain ++ [s]) t e) :
    reg.Overflows (depth + 1) chain s e := by
  cases e with
  | tooDeep full =>
    obtain ⟨path, rfl, hlength, hpath⟩ := h
    refine ⟨t :: path, ?_, ?_, ?_, .cons_cons hst hpath.linked⟩
    · rw [List.append_assoc, List.singleton_append]
    · rw [List.length_cons, hlength]
    · intro u hu
      rcases List.mem_cons.1 hu with rfl | hu
      · exact hs
      · exact hpath.registered u hu
  | invalidNumeral text => trivial
  | unknownRuleSet missing referrer suggested => trivial
  | noApplicableRule ruleSet value => trivial
  | missingPluralRules kind ruleSet => trivial

/-- What is open when the limit is met are the calls on the way from the first set, since each call
hands its own chain to the calls that it makes. -/
theorem spell_overflows (h : reg.Built allowed) (depth : Nat) (chain : List String)
    (hset : reg.sets[set.name]? = some set) (x : Double) :
    ErrorsSatisfy (reg.Overflows depth chain set.name) String (reg.spell depth chain set x)
      (reg.spell depth chain set x) := by
  have hname : set.name ∈ reg.names := mem_names.2 ⟨set, hset⟩
  induction depth generalizing chain set x with
  | zero =>
    intro e he
    rw [spell] at he
    split at he
    · cases he
      trivial
    · cases he
      exact overflows_zero hname chain
  | succ depth ih =>
    refine spell_related (sequential_errorsSatisfy _) ?_ ⟨rfl, ?_, ?_⟩
    · intro e he
      cases he
      trivial
    · intro kind cases divisor e he
      rcases spellSelector_eq_error he with rfl | ⟨text, rfl⟩ <;> trivial
    · intro rule hrule r value hcalls e he
      have hr := RuleSet.mem_dependsOn_of_calls hrule hcalls
      rcases spellTarget_ruleSet_eq_error he with ⟨-, rfl⟩ | ⟨callee, hcallee, he⟩
      · trivial
      · have hkept := h.getElem?_name hcallee
        have hleads : reg.LeadsTo set.name callee.name :=
          ⟨set, hset, r, hr, (h.name_eq hcallee).symm⟩
        exact overflows_succ hname hleads (ih _ hkept value (mem_names.2 ⟨callee, hkept⟩) e he)

/-- The chain in an error about the limit begins with the set that was asked for, has one name more
than calls are allowed, and goes from each registered set to one that it refers to. -/
theorem chain_of_format_tooDeep (h : reg.Built allowed) (hset : reg.get? name = some set)
    {chain : List String} (he : reg.format name x = .error (.tooDeep chain)) :
    chain.length = reg.maxDepth + 1 ∧ chain.head? = some set.name ∧
      (∀ s ∈ chain, s ∈ reg.names) ∧ chain.IsChain reg.LeadsTo := by
  rw [format, lookup, hset] at he
  obtain ⟨path, rfl, hlength, hpath⟩ :=
    spell_overflows h reg.maxDepth [] (h.getElem?_name hset) x _ he
  rw [List.nil_append]
  refine ⟨?_, rfl, hpath.registered, hpath.linked⟩
  rw [List.length_cons, hlength]

/-- A set for fractions and the set that it refers to with a percent sign; only one set may be
entered. -/
def shallow : Registry := ((empty.insert digits).insert decimals).limited 1

theorem built_shallow : shallow.Built (fun _ => True) :=
  .configure (.insert (.insert (.start rfl) trivial compile_digits) trivial compile_decimals) rfl

/-- The chain holds the names of the sets, however the references are written. -/
theorem chain_of_shallow :
    shallow.Built (fun _ => True) ∧ shallow.get? "%decimals" = some decimals ∧
      shallow.format "%decimals" (.ofQuotient 5 2) = .error (.tooDeep ["decimals", "digits"]) ∧
      ["decimals", "digits"].length = shallow.maxDepth + 1 ∧
      ["decimals", "digits"].head? = some decimals.name ∧
      (∀ s ∈ ["decimals", "digits"], s ∈ shallow.names) ∧
      ["decimals", "digits"].IsChain shallow.LeadsTo := by
  have hset : shallow.get? "%decimals" = some decimals := by
    decide +kernel
  have hdeep : shallow.format "%decimals" (.ofQuotient 5 2) =
      .error (.tooDeep ["decimals", "digits"]) := by
    decide +kernel
  exact ⟨built_shallow, hset, hdeep, chain_of_format_tooDeep built_shallow hset hdeep⟩

end Registry

end NumberRules.Spelling
