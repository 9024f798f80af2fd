import Mathlib
import NumberRules.Proofs.Double.Finite
import NumberRules.Proofs.Double.Shortest
import NumberRules.Proofs.Numeral.Written
import NumberRules.Proofs.Plural.Used
import NumberRules.Proofs.Spelling.Divisors
import NumberRules.Proofs.Spelling.Handing

/-! # Finite numbers stay finite

Every operation of a compiled rule gives a finite number for a finite one: divisors are from one on,
and the digits after a point are few enough to be read as one number.  So whatever is handed over
while a finite number is spelled is finite.  Plural rules then find a numeral in its text, and no
number is refused.
-/

namespace NumberRules.Spelling
set_option autoImplicit false

variable {x : Double}

/-! ## Operations -/

theorem isFinite_fractionDigits (hx : x.isFinite = true) :
    (Double.ofNat (Digits.value x.fractionDigits)).isFinite = true := by
  obtain ⟨negative, units, hunits, rfl⟩ := Double.exists_of_isFinite hx
  have hlt : Digits.value (Double.finite negative units hunits).fractionDigits < 10 ^ 18 :=
    Double.value_fraction_shortest_lt hunits.2
  exact Double.isFinite_ofNat (by omega)

theorem Operation.isFinite_apply (op : Operation) (hx : x.isFinite = true)
    (hdivisors : ∀ d ∈ op.divisors, 0 < d ∧ d ≤ 2 ^ 64) : (op.apply x).isFinite = true := by
  cases op with
  | quotient d =>
    obtain ⟨hpos, hle⟩ := hdivisors d List.mem_cons_self
    exact Double.isFinite_floor (Double.isFinite_div hx hpos hle)
  | remainder d =>
    obtain ⟨hpos, hle⟩ := hdivisors d List.mem_cons_self
    exact Double.isFinite_rem hx hpos hle
  | integerPart => exact Double.isFinite_floor hx
  | fractionDigits => exact isFinite_fractionDigits hx
  | digitByDigit => exact isFinite_fractionDigits hx
  | negate => exact Double.isFinite_neg hx
  | identity => exact hx

/-- Plural rules find a category for every finite number. -/
theorem exists_select_ofDouble (rules : Plural.Rules) (hx : x.isFinite = true) :
    ∃ category, rules.select (.ofDouble x) = .ok category := by
  obtain ⟨negative, units, hunits, rfl⟩ := Double.exists_of_isFinite hx
  have hnumeral : (Plural.Input.ofDouble (.finite negative units hunits)).numeral =
      some (Double.finite negative units hunits).text := rfl
  rw [Plural.Rules.select_of_numeral hnumeral, Double.ofText_text]
  exact ⟨_, rfl⟩

/-! ## Sound outcomes -/

namespace Logged

variable {α β : Type}

/-- What is handed over is finite, and no number is refused. -/
structure Sound (l : Logged α) : Prop where
  finite : ∀ h ∈ l.handings, h.value.isFinite = true
  accepted : ∀ text, l.outcome ≠ .error (.invalidNumeral text)

theorem sound_ok (a : α) : Sound (of (.ok a)) where
  finite h hmem := by cases hmem
  accepted text h := by cases h

theorem sound_error {e : EvalError} (h : ∀ text, e ≠ .invalidNumeral text) :
    Sound (of (.error e) : Logged α) where
  finite h hmem := by cases hmem
  accepted text heq := h text (Except.error.inj heq)

theorem Sound.handing {l : Logged α} (h : l.Sound) (receiver : Receiver)
    (hx : x.isFinite = true) : (l.handing receiver x).Sound where
  finite handing hmem := by
    rcases List.mem_cons.1 hmem with rfl | hrest
    · exact hx
    · exact h.finite handing hrest
  accepted := h.accepted

theorem Sound.andThen {l : Logged α} {f : α → Logged β} (hl : l.Sound)
    (hf : ∀ a, l.outcome = .ok a → (f a).Sound) : (l.andThen f).Sound := by
  rw [Logged.andThen]
  cases hout : l.outcome with
  | error e =>
    refine ⟨hl.finite, fun text heq => hl.accepted text ?_⟩
    rw [hout, Except.error.inj heq]
  | ok a =>
    have ha := hf a hout
    refine ⟨fun handing hmem => ?_, ha.accepted⟩
    rcases List.mem_append.1 hmem with hfirst | hrest
    · exact hl.finite handing hfirst
    · exact ha.finite handing hrest

theorem sound_each {f : α → Logged β} {l : List α} (h : ∀ a ∈ l, (f a).Sound) :
    (each f l).Sound := by
  induction l with
  | nil => exact sound_ok []
  | cons a l ih =>
    have hrest := ih fun b hb => h b (List.mem_cons_of_mem a hb)
    refine (h a List.mem_cons_self).andThen fun b _ => hrest.andThen fun bs _ => ?_
    exact sound_ok (b :: bs)

end Logged

/-! ## Spelling -/

namespace Registry

open Logged (Sound sound_ok sound_error sound_each)

variable {reg : Registry} {name : String} {call : LoggedCall}

theorem sound_lookup (r : String) : (Logged.of (reg.lookup r name)).Sound := by
  rw [lookup]
  cases reg.get? r with
  | some set => exact sound_ok set
  | none => exact sound_error fun text h => by cases h

theorem get?_of_lookup {r : String} {set : RuleSet} (h : reg.lookup r name = .ok set) :
    reg.get? r = some set := by
  rw [lookup] at h
  cases hset : reg.get? r with
  | some found =>
    rw [hset] at h
    cases h
    rfl
  | none =>
    rw [hset] at h
    cases h

/-- Calls of registered rule sets with finite numbers are sound. -/
def SoundCalls (reg : Registry) (call : LoggedCall) : Prop :=
  ∀ r set value, reg.get? r = some set → value.isFinite = true → (call set value).Sound

section

variable (hcall : reg.SoundCalls call) (hx : x.isFinite = true)
include hcall

theorem sound_targetLogged (target : Target) {value : Double} (hvalue : value.isFinite = true) :
    (reg.targetLogged name call target value).Sound := by
  cases target with
  | ruleSet r =>
    refine (sound_lookup r).andThen fun set hset => ?_
    exact (hcall r set value (get?_of_lookup hset) hvalue).handing (.ruleSet r) hvalue
  | pattern text => exact (sound_ok _).handing (.renderer text) hvalue
  | echo => exact (sound_ok _).handing .echo hvalue

include hx

omit hcall in
theorem sound_selectorLogged (kind : Plural.Kind) (options : List (String × String)) {d : Nat}
    (hpos : 0 < d) (hle : d ≤ 2 ^ 64) :
    (reg.selectorLogged name x kind options d).Sound := by
  rw [selectorLogged]
  cases reg.pluralRules kind with
  | none => exact sound_error fun text h => by cases h
  | some rules =>
    have hvalue : (x.abs.div (.ofNat d)).floor.isFinite = true :=
      Double.isFinite_floor (Double.isFinite_div (Double.isFinite_abs hx) hpos hle)
    obtain ⟨category, hcategory⟩ := exists_select_ofDouble rules hvalue
    dsimp only
    rw [hcategory]
    exact ((sound_ok category).handing (.plurals kind) hvalue).andThen fun _ _ => sound_ok _

theorem sound_partLogged {p : Part} (hdivisors : ∀ d ∈ p.divisors, 0 < d ∧ d ≤ 2 ^ 64) :
    (reg.partLogged name call x p).Sound := by
  cases p with
  | literal text => exact sound_ok text
  | selector kind options d =>
    obtain ⟨hpos, hle⟩ := hdivisors d List.mem_cons_self
    exact sound_selectorLogged hx kind options hpos hle
  | substitution marker op target =>
    have hvalue := op.isFinite_apply hx hdivisors
    cases op with
    | digitByDigit =>
      refine (sound_each fun d _ => ?_).andThen fun texts _ => sound_ok _
      have hdigit : d.val ≤ 2 ^ 64 := by
        have := d.isLt
        omega
      exact sound_targetLogged hcall target (Double.isFinite_ofNat hdigit)
    | _ => exact sound_targetLogged hcall target hvalue

theorem sound_nodeLogged {node : Node} (hdivisors : ∀ d ∈ node.divisors, 0 < d ∧ d ≤ 2 ^ 64) :
    (reg.nodeLogged name call x node).Sound := by
  cases node with
  | part p => exact sound_partLogged hcall hx hdivisors
  | optional parts trigger d =>
    rw [nodeLogged]
    split
    · exact sound_ok ""
    · refine (sound_each fun p hp => ?_).andThen fun texts _ => sound_ok _
      refine sound_partLogged hcall hx fun d' hd' => hdivisors d' ?_
      exact List.mem_cons_of_mem d (List.mem_flatMap.2 ⟨p, hp, hd'⟩)

end

theorem sound_spellLogged (hsets : ∀ r set, reg.get? r = some set → set.Divides) (depth : Nat)
    (chain : List String) {set : RuleSet} (hset : set.Divides) (hx : x.isFinite = true) :
    (reg.spellLogged depth chain set x).Sound := by
  induction depth generalizing chain set x with
  | zero =>
    rw [spellLogged]
    cases set.ruleFor x with
    | none => exact sound_error fun text h => by cases h
    | some rule => exact sound_error fun text h => by cases h
  | succ depth ih =>
    rw [spellLogged]
    cases hrule : set.ruleFor x with
    | none => exact sound_error fun text h => by cases h
    | some rule =>
      -- The calls of the rule have one level less, and go to compiled sets with finite numbers.
      have hcalls : reg.SoundCalls (reg.spellLogged depth (chain ++ [set.name])) :=
        fun r callee value hcallee hvalue => ih _ (hsets r callee hcallee) hvalue
      refine (sound_each fun node hnode => ?_).andThen fun texts _ => sound_ok _
      refine sound_nodeLogged hcalls hx fun d hd => ?_
      exact hset rule (RuleSet.mem_of_ruleFor hrule) d (List.mem_flatMap.2 ⟨node, hnode, hd⟩)

theorem sound_formatLogged {allowed : RuleSet.Options → Prop} (h : reg.Built allowed)
    (name : String) (hx : x.isFinite = true) : (reg.formatLogged name x).Sound := by
  refine (sound_lookup name).andThen fun set hset => ?_
  exact sound_spellLogged (fun r callee => h.divides) _ [] (h.divides (get?_of_lookup hset)) hx

/-- What a renderer and plural rules answer to infinities and to NaN makes no difference to a finite
number. -/
theorem format_eq_of_alike_on_finite {allowed : RuleSet.Options → Prop} {reg' : Registry}
    (h : reg.Built allowed) (hsame : SameSets reg reg')
    (halike : ∀ handing, handing.value.isFinite = true → AnsweredAlike reg reg' handing)
    (name : String) (hx : x.isFinite = true) : reg'.format name x = reg.format name x :=
  format_eq_of_answeredAlike hsame fun handing hmem =>
    halike handing ((sound_formatLogged h name hx).finite handing hmem)

/-- While a finite number is spelled with a registry of compiled sets, everything that is handed
over is finite, and no divisor in the registry is zero or rounds to zero.  No number is refused. -/
theorem format_stays_finite {allowed : RuleSet.Options → Prop} (h : reg.Built allowed)
    (name : String) (hx : x.isFinite = true) :
    (reg.formatLogged name x).outcome = reg.format name x ∧
    (∀ handing ∈ (reg.formatLogged name x).handings, handing.value.isFinite = true) ∧
    (∀ r set, reg.get? r = some set → ∀ rule ∈ set.rules, ∀ d ∈ rule.divisors,
      1 ≤ d ∧ Double.zero.lt (.ofNat d) = true ∧ (Double.ofNat d).isFinite = true) ∧
    ∀ text, reg.format name x ≠ .error (.invalidNumeral text) := by
  have houtcome := reg.outcome_formatLogged name x
  have hsound := sound_formatLogged h name hx
  refine ⟨houtcome, hsound.finite, ?_, houtcome ▸ hsound.accepted⟩
  intro r set hset rule hrule d hd
  obtain ⟨hpos, hle⟩ := h.divides hset rule hrule d hd
  exact ⟨hpos, Double.zero_lt_ofNat hpos hle, Double.isFinite_ofNat hle⟩

/-! ## Eggs -/

/-- A set with a selector, and an optional clause for fractions. -/
def eggs : RuleSet where
  name := "eggs"
  rules := [
    ⟨.improper, 10, 1, [.part (.substitution .less .integerPart (.ruleSet "eggs")),
      .optional [.literal " and ", .substitution .greater .digitByDigit (.ruleSet "eggs")]
        .improper 1]⟩,
    ⟨.number 0, 10, 1, [.part (.substitution .equal .identity (.pattern "0")), .part (.literal " "),
      .part (.selector .cardinal [("one", "egg"), ("other", "eggs")] 1)]⟩]

theorem compile_of_tokens (context : RuleContext) {body : String} {tokens : List Token}
    {nodes : List Node} (hradix : ¬context.radix < 2)
    (htokens : (Body.tokens body.toList).toOption = some tokens)
    (hnodes : tokens.mapM context.node = .ok nodes) :
    Rule.compile body context = .ok ⟨context.base, context.radix, context.divisor, nodes⟩ := by
  refine Rule.compile_eq_ok_iff.2 ⟨hradix, nodes, ?_, rfl⟩
  rw [RuleContext.nodes, toOption_eq_some_iff.1 htokens, bind_ok, hnodes]

theorem tokens_fraction : (Body.tokens "<<[ and >>];".toList).toOption =
    some [.piece (.substitution .less none),
      .optional [.text " and ".toList, .substitution .greater none]] := by
  decide +kernel

theorem tokens_eggs : (Body.tokens "=0= $(cardinal,one{egg}other{eggs})$;".toList).toOption =
    some [.piece (.substitution .equal (some ['0'])), .piece (.text [' ']),
      .piece (.selector .cardinal
        [("one".toList, "egg".toList), ("other".toList, "eggs".toList)])] := by
  decide +kernel

theorem compile_eggs : RuleSet.compile "eggs" {}
    [("x.x", "<<[ and >>];"), ("0", "=0= $(cardinal,one{egg}other{eggs})$;")] = .ok eggs := by
  have hname : dropPercents "eggs" = "eggs" := by decide
  have hfraction := compile_of_tokens ⟨.improper, 10, "eggs", false, defaultRuleSet⟩ (by decide)
    tokens_fraction rfl
  have hnumber := compile_of_tokens ⟨.number 0, 10, "eggs", false, defaultRuleSet⟩ (by decide)
    tokens_eggs rfl
  have hdivisor : RuleContext.divisor ⟨.number 0, 10, "eggs", false, defaultRuleSet⟩ = 1 := by cbv
  rw [hdivisor] at hnumber
  rw [RuleSet.compile_eq_ok_iff, hname]
  refine ⟨[⟨"x.x", ⟨.improper, 10⟩, "<<[ and >>];"⟩,
    ⟨"0", ⟨.number 0, 10⟩, "=0= $(cardinal,one{egg}other{eggs})$;"⟩], eggs.rules, ?_, ?_, ?_⟩
  · cbv
  · exact .cons hfraction (.cons hnumber .nil)
  · cbv

def basket : Registry :=
  (empty.insert eggs).withPluralRules .cardinal
    ⟨[⟨"one", .member .whole false (.operand .i) [.value 1]⟩], ["one", Plural.other]⟩

theorem built_basket : basket.Built (· = {}) :=
  .configure (.insert (.start rfl) rfl compile_eggs) rfl

/-- One and a half: a call, a text and a choice for each of the digits one and five. -/
theorem format_basket :
    (Double.ofQuotient 3 2).isFinite = true ∧
    (basket.formatLogged "eggs" (.ofQuotient 3 2)).handings.length = 6 ∧
    (∀ handing ∈ (basket.formatLogged "eggs" (.ofQuotient 3 2)).handings,
      handing.value.isFinite = true) ∧
    ∀ text, basket.format "eggs" (.ofQuotient 3 2) ≠ .error (.invalidNumeral text) := by
  have hx : (Double.ofQuotient 3 2).isFinite = true := by decide +kernel
  obtain ⟨-, hfinite, -, haccepted⟩ := format_stays_finite built_basket "eggs" hx
  exact ⟨hx, by decide +kernel, hfinite, haccepted⟩

end Registry

end NumberRules.Spelling
