import Mathlib
import NumberRules.Spelling.Evaluation

/-! # What is handed over while a number is spelled

To spell a number a registry hands values to other rule sets, to its renderer, to plural rules, or
writes them.  `Registry.formatLogged` spells in the same way and keeps a list of these values; its
outcome is that of `Registry.format`.  The list goes up to the place where spelling fails, if it
does.

Nothing is missing from the list: a registry with the same rule sets that answers to what is on it
in the same way gives the same outcome.
-/

namespace NumberRules.Spelling
set_option autoImplicit false

inductive Receiver where
  | ruleSet (name : String)
  /-- The number renderer, with a decimal pattern. -/
  | renderer (pattern : String)
  /-- The text, in which the value is written as it is. -/
  | echo
  | plurals (kind : Plural.Kind)

structure Handing where
  receiver : Receiver
  value : Double

/-- An outcome, and what was handed over on the way to it. -/
structure Logged (α : Type) where
  outcome : Except EvalError α
  handings : List Handing

/-! ## Sequencing -/

namespace Logged

variable {α β : Type}

/-- Nothing is handed over. -/
def of (x : Except EvalError α) : Logged α := ⟨x, []⟩

/-- Before everything else, a value is handed over. -/
def handing (receiver : Receiver) (value : Double) (l : Logged α) : Logged α :=
  ⟨l.outcome, ⟨receiver, value⟩ :: l.handings⟩

def andThen (l : Logged α) (f : α → Logged β) : Logged β :=
  match l.outcome with
  | .ok a => ⟨(f a).outcome, l.handings ++ (f a).handings⟩
  | .error e => ⟨.error e, l.handings⟩

def each (f : α → Logged β) : List α → Logged (List β)
  | [] => of (.ok [])
  | a :: rest => (f a).andThen fun b => (each f rest).andThen fun bs => of (.ok (b :: bs))

theorem outcome_andThen (l : Logged α) (f : α → Logged β) :
    (l.andThen f).outcome = l.outcome >>= fun a => (f a).outcome := by
  rw [andThen]
  cases l.outcome <;> rfl

theorem outcome_each (f : α → Logged β) (l : List α) :
    (each f l).outcome = l.mapM fun a => (f a).outcome := by
  induction l with
  | nil => rfl
  | cons a l ih =>
    rw [each, outcome_andThen, List.mapM_cons]
    refine bind_congr fun b => ?_
    rw [outcome_andThen, ih]
    rfl

end Logged

/-! ## Spelling -/

namespace Registry

open Logged (of each)

/-- How a value is spelled with another rule set. -/
abbrev LoggedCall := RuleSet → Double → Logged String

variable (reg : Registry) (name : String) (call : LoggedCall) (x : Double)

def targetLogged (target : Target) (value : Double) : Logged String :=
  match target with
  | .ruleSet r =>
    (of (reg.lookup r name)).andThen fun set => (call set value).handing (.ruleSet r) value
  | .pattern text => (of (.ok (reg.renderer value text))).handing (.renderer text) value
  | .echo => (of (.ok value.text)).handing .echo value

def selectorLogged (kind : Plural.Kind) (cases : List (String × String)) (divisor : Nat) :
    Logged String :=
  match reg.pluralRules kind with
  | none => of (.error (.missingPluralRules kind name))
  | some rules =>
    let value := (x.abs.div (.ofNat divisor)).floor
    ((of (rules.select (.ofDouble value))).handing (.plurals kind) value).andThen fun category =>
      of (.ok (chooseCase cases category))

def partLogged : Part → Logged String
  | .literal text => of (.ok text)
  | .substitution _ .digitByDigit target =>
    (each (fun d : Digit => reg.targetLogged name call target (.ofNat d.val))
      x.fractionDigits).andThen fun texts => of (.ok (" ".intercalate texts))
  | .substitution _ op target => reg.targetLogged name call target (op.apply x)
  | .selector kind cases divisor => reg.selectorLogged name x kind cases divisor

def nodeLogged : Node → Logged String
  | .part p => reg.partLogged name call x p
  | .optional parts trigger divisor =>
    if isOmitted x trigger divisor then of (.ok "")
    else (each (reg.partLogged name call x) parts).andThen fun texts => of (.ok (String.join texts))

def spellLogged : Nat → List String → RuleSet → Double → Logged String
  | depth, chain, set, x =>
    match set.ruleFor x with
    | none => of (.error (.noApplicableRule set.name x))
    | some rule =>
      match depth with
      | 0 => of (.error (.tooDeep (chain ++ [set.name])))
      | depth + 1 =>
        (each (reg.nodeLogged set.name (spellLogged depth (chain ++ [set.name])) x)
          rule.nodes).andThen fun texts => of (.ok (String.join texts))

def formatLogged : Logged String :=
  (of (reg.lookup name name)).andThen fun set => reg.spellLogged reg.maxDepth [] set x

/-! ## The same outcomes -/

/-- The caller that keeps no list. -/
def callerOf : Caller := ⟨name, fun set value => (call set value).outcome⟩

theorem outcome_targetLogged (target : Target) (value : Double) :
    (reg.targetLogged name call target value).outcome =
      reg.spellTarget (callerOf name call) target value := by
  cases target with
  | ruleSet r => exact Logged.outcome_andThen _ _
  | pattern text => rfl
  | echo => rfl

theorem outcome_selectorLogged (kind : Plural.Kind) (cases : List (String × String))
    (divisor : Nat) : (reg.selectorLogged name x kind cases divisor).outcome =
      reg.spellSelector name x kind cases divisor := by
  rw [selectorLogged, spellSelector]
  cases reg.pluralRules kind with
  | none => rfl
  | some rules => exact Logged.outcome_andThen _ _

theorem outcome_partLogged (p : Part) :
    (reg.partLogged name call x p).outcome = reg.spellPart (callerOf name call) x p := by
  cases p with
  | literal text => rfl
  | selector kind cases divisor => exact reg.outcome_selectorLogged name x kind cases divisor
  | substitution marker op target =>
    cases op with
    | digitByDigit =>
      rw [partLogged, spellPart, Logged.outcome_andThen, Logged.outcome_each]
      simp only [outcome_targetLogged]
      rfl
    | _ => exact reg.outcome_targetLogged name call target _

theorem outcome_nodeLogged (node : Node) :
    (reg.nodeLogged name call x node).outcome = reg.spellNode (callerOf name call) x node := by
  cases node with
  | part p => exact reg.outcome_partLogged name call x p
  | optional parts trigger divisor =>
    rw [nodeLogged, spellNode]
    split
    · rfl
    · rw [Logged.outcome_andThen, Logged.outcome_each, spellParts]
      simp only [outcome_partLogged]
      rfl

theorem outcome_spellLogged (depth : Nat) (chain : List String) (set : RuleSet) :
    (reg.spellLogged depth chain set x).outcome = reg.spell depth chain set x := by
  induction depth generalizing chain set x with
  | zero =>
    rw [spellLogged, spell]
    cases set.ruleFor x <;> rfl
  | succ depth ih =>
    rw [spellLogged, spell]
    cases set.ruleFor x with
    | none => rfl
    | some rule =>
      have hcall : (fun callee value =>
          (reg.spellLogged depth (chain ++ [set.name]) callee value).outcome) =
            reg.spell depth (chain ++ [set.name]) := by
        funext callee value
        exact ih value (chain ++ [set.name]) callee
      simp only [Logged.outcome_andThen, Logged.outcome_each, outcome_nodeLogged, callerOf, hcall]
      rfl

theorem outcome_formatLogged : (reg.formatLogged name x).outcome = reg.format name x := by
  rw [formatLogged, Logged.outcome_andThen, format]
  refine bind_congr fun set => ?_
  exact reg.outcome_spellLogged x reg.maxDepth [] set

end Registry

/-! ## Nothing is missing -/

namespace Logged

variable {α β : Type} {P : Handing → Prop} {l l' : Logged α} {f f' : α → Logged β}

/-- Another outcome is the same if all that is handed over on the way to the one has a property. -/
def Determines (P : Handing → Prop) (l l' : Logged α) : Prop :=
  (∀ h ∈ l.handings, P h) → l' = l

theorem Determines.handing {receiver : Receiver} {value : Double}
    (h : P ⟨receiver, value⟩ → Determines P l l') :
    Determines P (l.handing receiver value) (l'.handing receiver value) := by
  intro hall
  rw [h (hall _ List.mem_cons_self) fun other hother => hall other (List.mem_cons_of_mem _ hother)]

theorem Determines.andThen (h : Determines P l l')
    (hf : ∀ a, l.outcome = .ok a → Determines P (f a) (f' a)) :
    Determines P (l.andThen f) (l'.andThen f') := by
  intro hall
  rw [Logged.andThen] at hall ⊢
  rw [Logged.andThen]
  cases hout : l.outcome with
  | error e =>
    rw [hout] at hall
    rw [h hall, hout]
  | ok a =>
    rw [hout] at hall
    have hsame := h fun handing hmem => hall handing (List.mem_append_left _ hmem)
    have hrest := hf a hout fun handing hmem => hall handing (List.mem_append_right _ hmem)
    rw [hsame, hout]
    dsimp only
    rw [hrest]

theorem determines_each {l : List α} (h : ∀ a, Determines P (f a) (f' a)) :
    Determines P (each f l) (each f' l) := by
  induction l with
  | nil => exact fun _ => rfl
  | cons a l ih => exact (h a).andThen fun b _ => ih.andThen fun bs _ _ => rfl

end Logged

namespace Registry

open Logged (Determines determines_each)

/-- The other registry may differ in its renderer and in what its plural rules select. -/
structure SameSets (reg reg' : Registry) : Prop where
  sets : reg'.sets = reg.sets
  maxDepth : reg'.maxDepth = reg.maxDepth
  plurals (kind : Plural.Kind) : (reg'.pluralRules kind).isSome = (reg.pluralRules kind).isSome

/-- What is handed over is answered in the same way by the other registry. -/
def AnsweredAlike (reg reg' : Registry) : Handing → Prop
  | ⟨.renderer pattern, value⟩ => reg'.renderer value pattern = reg.renderer value pattern
  | ⟨.plurals kind, value⟩ => (reg'.pluralRules kind).map (·.select (.ofDouble value)) =
      (reg.pluralRules kind).map (·.select (.ofDouble value))
  | ⟨.ruleSet _, _⟩ => True
  | ⟨.echo, _⟩ => True

variable {reg reg' : Registry} {name : String} {call call' : LoggedCall} {x : Double}

section

variable (hsame : SameSets reg reg')
include hsame

theorem SameSets.lookup_eq (r referrer : String) :
    reg'.lookup r referrer = reg.lookup r referrer := by
  rw [lookup, lookup, get?, get?, names, names, hsame.sets]

theorem determines_selectorLogged (kind : Plural.Kind) (cases : List (String × String)) (d : Nat) :
    Determines (AnsweredAlike reg reg') (reg.selectorLogged name x kind cases d)
      (reg'.selectorLogged name x kind cases d) := by
  have hplurals := hsame.plurals kind
  rw [selectorLogged, selectorLogged]
  cases hrules : reg.pluralRules kind with
  | none =>
    rw [hrules, Option.isSome_none, Option.isSome_eq_false_iff] at hplurals
    rw [Option.isNone_iff_eq_none.1 hplurals]
    exact fun _ => rfl
  | some rules =>
    rw [hrules, Option.isSome_some, Option.isSome_iff_exists] at hplurals
    obtain ⟨rules', hrules'⟩ := hplurals
    rw [hrules']
    refine Determines.andThen (.handing fun halike _ => ?_) fun _ _ _ => rfl
    rw [AnsweredAlike, hrules, hrules'] at halike
    exact congrArg Logged.of (Option.some.inj halike)

variable (hcall : ∀ set value,
  Determines (AnsweredAlike reg reg') (call set value) (call' set value))
include hcall

theorem determines_targetLogged (target : Target) (value : Double) :
    Determines (AnsweredAlike reg reg') (reg.targetLogged name call target value)
      (reg'.targetLogged name call' target value) := by
  cases target with
  | ruleSet r =>
    rw [targetLogged, targetLogged, hsame.lookup_eq]
    exact Determines.andThen (fun _ => rfl) fun set _ => .handing fun _ => hcall set value
  | pattern text =>
    refine Determines.handing fun halike _ => ?_
    rw [AnsweredAlike] at halike
    rw [halike]
  | echo => exact fun _ => rfl

theorem determines_partLogged (p : Part) :
    Determines (AnsweredAlike reg reg') (reg.partLogged name call x p)
      (reg'.partLogged name call' x p) := by
  cases p with
  | literal text => exact fun _ => rfl
  | selector kind cases d => exact determines_selectorLogged hsame kind cases d
  | substitution marker op target =>
    cases op with
    | digitByDigit =>
      refine (determines_each fun d => ?_).andThen fun _ _ _ => rfl
      exact determines_targetLogged hsame hcall target (.ofNat d.val)
    | _ => exact determines_targetLogged hsame hcall target _

theorem determines_nodeLogged (node : Node) :
    Determines (AnsweredAlike reg reg') (reg.nodeLogged name call x node)
      (reg'.nodeLogged name call' x node) := by
  cases node with
  | part p => exact determines_partLogged hsame hcall p
  | optional parts trigger d =>
    rw [nodeLogged, nodeLogged]
    split
    · exact fun _ => rfl
    · exact (determines_each (determines_partLogged hsame hcall)).andThen fun _ _ _ => rfl

omit hcall in
theorem determines_spellLogged (depth : Nat) (chain : List String) (set : RuleSet) :
    Determines (AnsweredAlike reg reg') (reg.spellLogged depth chain set x)
      (reg'.spellLogged depth chain set x) := by
  induction depth generalizing chain set x with
  | zero =>
    rw [spellLogged, spellLogged]
    cases set.ruleFor x <;> exact fun _ => rfl
  | succ depth ih =>
    rw [spellLogged, spellLogged]
    cases set.ruleFor x with
    | none => exact fun _ => rfl
    | some rule =>
      refine (determines_each fun node => ?_).andThen fun _ _ _ => rfl
      exact determines_nodeLogged hsame (fun callee value => ih (chain ++ [set.name]) callee) node

omit hcall in
/-- The outcome depends on the renderer and on the plural rules through their answers to what is
handed over, and on nothing else of them. -/
theorem format_eq_of_answeredAlike
    (h : ∀ handing ∈ (reg.formatLogged name x).handings, AnsweredAlike reg reg' handing) :
    reg'.format name x = reg.format name x := by
  have hdetermines : Determines (AnsweredAlike reg reg') (reg.formatLogged name x)
      (reg'.formatLogged name x) := by
    rw [formatLogged, formatLogged, hsame.lookup_eq, hsame.maxDepth]
    exact Determines.andThen (fun _ => rfl) fun set _ => determines_spellLogged hsame _ [] set
  rw [← outcome_formatLogged, ← outcome_formatLogged, hdetermines h]

end

end Registry

end NumberRules.Spelling
