import Mathlib
import NumberRules.Proofs.Spelling.Reach

/-! # References that find no rule set

A missing rule set shows when a number is spelled, `Registry.unresolvedReferences` finds it before.
The list is complete: an error about a missing set has a reference in it to blame.  It looks
references up as they are written down, though, and spelling looks them up without percent signs.
The two differ only for a default rule set that is named with percent signs, since every other
reference of a compiled rule has none; a reference to such a default is listed even if it is found.
-/

namespace NumberRules.Spelling
set_option autoImplicit false

/-! ## References of compiled rules -/

namespace RuleContext

variable {context : RuleContext} {r : String}

/-- A rule may refer to names without percent signs, to the rule set that contains it and to the
default rule set. -/
def MayReferTo (context : RuleContext) (r : String) : Prop :=
  dropPercents r = r ∨ r = context.ruleSet ∨ r = context.defaultRuleSet

theorem Means.mayReferTo {marker : Marker} {written : Bool} {op : Operation}
    (h : context.Means marker written op (some (.ruleSet r))) : context.MayReferTo r := by
  right
  generalize hgoal : some (Target.ruleSet r) = fallback at h
  cases h with
  | integerPart h =>
    rw [integerTarget] at hgoal
    split at hgoal
    · cases hgoal
      exact .inr rfl
    · cases hgoal
      exact .inl rfl
  | quotient h | remainder h | negate h | digitByDigit h =>
    cases hgoal
    exact .inl rfl
  | fractionDigits h | echo h | identity hconstant hfraction => cases hgoal

theorem Yields.mayReferTo {piece : Piece} {p : Part} (h : context.Yields piece p)
    (hr : r ∈ p.references) : context.MayReferTo r := by
  cases h with
  | text cs => cases hr
  | selector kind cases => cases hr
  | substitution hmeans hgoal =>
    obtain ⟨_, _, ⟨⟩⟩ := Part.mem_references.1 hr
    cases hgoal with
    | ruleSet text => exact .inl (dropPercents_dropPercents _)
    | fallback => exact hmeans.mayReferTo

theorem mayReferTo_of_compile {body : String} {rule : Rule}
    (h : Rule.compile body context = .ok rule) (hr : r ∈ rule.references) :
    context.MayReferTo r := by
  obtain ⟨node, hnode, marker, op, hp⟩ := Rule.mem_references.1 hr
  obtain ⟨piece, hpiece⟩ := Rule.exists_piece_of_compile h hnode hp
  exact hpiece.mayReferTo List.mem_cons_self

end RuleContext

/-- A compiled set refers to names without percent signs and to the default rule set. -/
theorem RuleSet.dropPercents_of_mem_dependsOn {name : String} {options : Options}
    {pairs : List (String × String)} {set : RuleSet} (h : compile name options pairs = .ok set)
    {r : String} (hr : r ∈ set.dependsOn) : dropPercents r = r ∨ r = options.defaultRuleSet := by
  obtain ⟨rule, hrule, hr⟩ := mem_dependsOn.1 hr
  obtain ⟨fractionSet, entry, hgives⟩ := exists_gives_of_compile h hrule
  rcases RuleContext.mayReferTo_of_compile hgives hr with hplain | hown | hdefault
  · exact .inl hplain
  · left
    rw [hown]
    exact dropPercents_dropPercents name
  · exact .inr hdefault

namespace Registry

variable {reg : Registry} {allowed : RuleSet.Options → Prop} {name r s : String} {set : RuleSet}

/-- A rule of the set that is kept as `s` has a substitution with the target `r`. -/
def RefersTo (reg : Registry) (s r : String) : Prop :=
  ∃ set, reg.sets[s]? = some set ∧ ∃ rule ∈ set.rules, rule.Targets r

theorem refersTo_iff :
    reg.RefersTo s r ↔ ∃ set, reg.sets[s]? = some set ∧ r ∈ set.dependsOn := by
  simp only [RefersTo, RuleSet.mem_dependsOn, Rule.mem_references]

/-! ## The list of unresolved references -/

theorem sets_values_eq (reg : Registry) : reg.sets.values = reg.sets.toList.map Prod.snd := by
  -- The library knows the values of its maps only as those of the tree underneath.
  obtain ⟨⟨t⟩⟩ := reg.sets
  induction t using Quotient.inductionOn with
  | h t =>
    have h : t.inner.values = (Std.DTreeMap.Internal.Impl.Const.toList t.inner).map Prod.snd := by
      rw [Std.DTreeMap.Internal.Impl.values_eq_map_snd,
        Std.DTreeMap.Internal.Impl.Const.toList_eq_toListModel_map, List.map_map]
      rfl
    exact h

theorem mem_sets_values : set ∈ reg.sets.values ↔ ∃ key : String, reg.sets[key]? = some set := by
  rw [sets_values_eq, List.mem_map]
  constructor
  · rintro ⟨⟨key, set⟩, hmem, rfl⟩
    exact ⟨key, Std.ExtTreeMap.mem_toList_iff_getElem?_eq_some.1 hmem⟩
  · rintro ⟨key, hset⟩
    exact ⟨(key, set), Std.ExtTreeMap.mem_toList_iff_getElem?_eq_some.2 hset, rfl⟩

theorem mem_unresolvedOf :
    (s, r) ∈ reg.unresolvedOf set ↔ set.name = s ∧ r ∈ set.dependsOn ∧ reg.sets[r]? = none := by
  have hcontains : (!reg.sets.contains r) = true ↔ reg.sets[r]? = none := by
    rw [Std.ExtTreeMap.contains_eq_isSome_getElem?, Bool.not_eq_true', Option.isSome_eq_false_iff,
      Option.isNone_iff_eq_none]
  rw [unresolvedOf, List.mem_map]
  constructor
  · rintro ⟨r', hr', hpair⟩
    cases hpair
    obtain ⟨hmem, hmissing⟩ := List.mem_filter.1 hr'
    exact ⟨rfl, Std.ExtTreeSet.mem_toList.1 hmem, hcontains.1 hmissing⟩
  · rintro ⟨rfl, hmem, hmissing⟩
    exact ⟨r, List.mem_filter.2 ⟨Std.ExtTreeSet.mem_toList.2 hmem, hcontains.2 hmissing⟩, rfl⟩

/-- The list looks a reference up as it is written down. -/
theorem Built.mem_unresolvedReferences (h : reg.Built allowed) :
    (s, r) ∈ reg.unresolvedReferences ↔ reg.RefersTo s r ∧ reg.sets[r]? = none := by
  rw [unresolvedReferences, List.mem_flatMap, refersTo_iff]
  constructor
  · rintro ⟨set, hset, hpair⟩
    obtain ⟨rfl, hr, hmissing⟩ := mem_unresolvedOf.1 hpair
    obtain ⟨key, hset⟩ := mem_sets_values.1 hset
    rw [← h.name_eq hset] at hset
    exact ⟨⟨set, hset, hr⟩, hmissing⟩
  · rintro ⟨⟨set, hset, hr⟩, hmissing⟩
    exact ⟨set, mem_sets_values.2 ⟨s, hset⟩, mem_unresolvedOf.2 ⟨h.name_eq hset, hr, hmissing⟩⟩

theorem pairwise_unresolvedOf (reg : Registry) (set : RuleSet) :
    (reg.unresolvedOf set).Pairwise (Prod.Lex (· < ·) (· < ·)) := by
  rw [unresolvedOf, List.pairwise_map]
  refine (Std.ExtTreeSet.ordered_toList.filter _).imp fun hlt => ?_
  exact Prod.lex_def.2 (.inr ⟨rfl, compare_lt_iff_lt.1 hlt⟩)

/-- The list is in order, and no reference is in it twice. -/
theorem Built.pairwise_unresolvedReferences (h : reg.Built allowed) :
    reg.unresolvedReferences.Pairwise (Prod.Lex (· < ·) (· < ·)) := by
  rw [unresolvedReferences, sets_values_eq, List.flatMap_map, List.pairwise_flatMap]
  refine ⟨fun entry _ => reg.pairwise_unresolvedOf entry.2, ?_⟩
  refine Std.ExtTreeMap.ordered_keys_toList.imp_of_mem fun {a b} ha hb hlt => ?_
  rintro ⟨s, r⟩ hs ⟨s', r'⟩ hs'
  have hname := h.name_eq (Std.ExtTreeMap.mem_toList_iff_getElem?_eq_some.1 ha)
  have hname' := h.name_eq (Std.ExtTreeMap.mem_toList_iff_getElem?_eq_some.1 hb)
  obtain ⟨rfl, -, -⟩ := mem_unresolvedOf.1 hs
  obtain ⟨rfl, -, -⟩ := mem_unresolvedOf.1 hs'
  rw [hname, hname']
  exact Prod.lex_def.2 (.inl (compare_lt_iff_lt.1 hlt))

/-- A name with percent signs is never a key. -/
theorem Built.getElem?_eq_none_iff (h : reg.Built allowed) :
    reg.sets[r]? = none ↔ reg.get? r = none ∨ dropPercents r ≠ r := by
  constructor
  · intro hmissing
    by_cases hplain : dropPercents r = r
    · left
      rw [get?, hplain]
      exact hmissing
    · exact .inr hplain
  · intro hor
    by_contra hfound
    obtain ⟨set, hset⟩ := Option.ne_none_iff_exists'.1 hfound
    have hplain := h.dropPercents_key hset
    rcases hor with hmissing | hpercent
    · rw [get?, hplain] at hmissing
      exact hfound hmissing
    · exact hpercent hplain

/-! ## Errors about missing sets -/

/-- An error about a missing set comes from a reference that finds no set. -/
def Blamed (reg : Registry) : EvalError → Prop
  | .unknownRuleSet missing referrer _ =>
    ∃ r, dropPercents r = missing ∧ reg.RefersTo referrer r ∧ reg.get? r = none
  | _ => True

theorem spellSelector_blamed (reg : Registry) (name : String) (x : Double) (kind : Plural.Kind)
    (cases : List (String × String)) (divisor : Nat) (y : Except EvalError String) :
    ErrorsSatisfy reg.Blamed String (reg.spellSelector name x kind cases divisor) y := by
  intro e he
  rcases spellSelector_eq_error he with rfl | ⟨text, rfl⟩ <;> trivial

/-- Every set that is entered is kept under its own name, so its references are in the registry. -/
theorem spell_blamed (h : reg.Built allowed) (depth : Nat) (chain : List String)
    (hset : reg.sets[set.name]? = some set) (x : Double) :
    ErrorsSatisfy reg.Blamed String (reg.spell depth chain set x)
      (reg.spell depth chain set x) := by
  induction depth generalizing chain set x with
  | zero =>
    intro e he
    rw [spell] at he
    split at he <;> cases he <;> trivial
  | succ depth ih =>
    refine spell_related (sequential_errorsSatisfy reg.Blamed) ?_ ⟨rfl, ?_, ?_⟩
    · intro e he
      cases he
      trivial
    · intro kind cases divisor
      exact spellSelector_blamed reg set.name x kind cases divisor _
    · intro rule hrule r value hcalls e he
      have hr := RuleSet.mem_dependsOn_of_calls hrule hcalls
      rcases spellTarget_ruleSet_eq_error he with ⟨hmissing, rfl⟩ | ⟨callee, hcallee, he⟩
      · -- The error is about `r`, and its referrer is the key of `set`.
        refine ⟨r, rfl, ?_, hmissing⟩
        rw [h.dropPercents_key hset]
        exact refersTo_iff.2 ⟨set, hset, hr⟩
      · exact ih _ (h.getElem?_name hcallee) value e he

theorem format_blamed (h : reg.Built allowed) (hname : (reg.get? name).isSome) (x : Double)
    {e : EvalError} (he : reg.format name x = .error e) : reg.Blamed e := by
  obtain ⟨set, hset⟩ := Option.isSome_iff_exists.1 hname
  rw [format, lookup, hset] at he
  exact spell_blamed h _ _ (h.getElem?_name hset) x e he

theorem RefersTo.mem_names (h : reg.RefersTo s r) : s ∈ reg.names := by
  obtain ⟨set, hset, -⟩ := h
  exact Registry.mem_names.2 ⟨set, hset⟩

/-- In a registry of compiled sets, an error about a missing set names a registered set and a
reference of it that is listed as unresolved.  If none is listed, no registered name gives one. -/
theorem mem_unresolvedReferences_of_format (h : reg.Built allowed)
    (hname : (reg.get? name).isSome) :
    (∀ x missing referrer suggested,
      reg.format name x = .error (.unknownRuleSet missing referrer suggested) →
        referrer ∈ reg.names ∧
          ∃ r, dropPercents r = missing ∧ (referrer, r) ∈ reg.unresolvedReferences) ∧
    (reg.unresolvedReferences = [] → ∀ x missing referrer suggested,
      reg.format name x ≠ .error (.unknownRuleSet missing referrer suggested)) := by
  have hlisted : ∀ x missing referrer suggested,
      reg.format name x = .error (.unknownRuleSet missing referrer suggested) →
        referrer ∈ reg.names ∧
          ∃ r, dropPercents r = missing ∧ (referrer, r) ∈ reg.unresolvedReferences := by
    intro x missing referrer suggested he
    obtain ⟨r, hr, hrefers, hmissing⟩ := format_blamed h hname x he
    refine ⟨hrefers.mem_names, r, hr, h.mem_unresolvedReferences.2 ⟨hrefers, ?_⟩⟩
    exact h.getElem?_eq_none_iff.2 (.inl hmissing)
  refine ⟨hlisted, ?_⟩
  intro hnone x missing referrer suggested he
  obtain ⟨-, r, -, hmem⟩ := hlisted x missing referrer suggested he
  rw [hnone] at hmem
  cases hmem

theorem compile_few :
    RuleSet.compile "few" {} [("0", "=%tens=;")] = .ok (forwarding "few" "tens") := by
  cbv

theorem built_narrow : narrow.Built (· = {}) := .insert (.start rfl) rfl compile_few

/-- A set that calls itself refers to no missing one. -/
def circular : Registry := empty.insert (forwarding "few" "few")

theorem built_circular : circular.Built (· = {}) := by
  have hcompile : RuleSet.compile "few" {} [("0", "=%few=;")] = .ok (forwarding "few" "few") := by
    cbv
  exact .insert (.start rfl) rfl hcompile

/-- A missing set is reported when a number is spelled, and its reference is listed; the set that
calls itself gives no such report. -/
theorem unresolvedReferences_narrow :
    narrow.format "few" (.ofNat 20) = .error (.unknownRuleSet "tens" "few" []) ∧
      ("few" ∈ narrow.names ∧
        ∃ r, dropPercents r = "tens" ∧ ("few", r) ∈ narrow.unresolvedReferences) ∧
      circular.unresolvedReferences = [] ∧
      ∀ x missing referrer suggested,
        circular.format "few" x ≠ .error (.unknownRuleSet missing referrer suggested) := by
  have hnarrow : (narrow.get? "few").isSome := by
    rw [get?_narrow_few]
    rfl
  have hcircular : (circular.get? "few").isSome := by
    cbv
  have hnone : circular.unresolvedReferences = [] := by
    cbv
  have hlisted := (mem_unresolvedReferences_of_format built_narrow hnarrow).1
  have hnever := (mem_unresolvedReferences_of_format built_circular hcircular).2
  exact ⟨format_narrow, hlisted _ _ _ _ format_narrow, hnone, hnever hnone⟩

/-! ## False alarms -/

/-- The reference is one of a registered set, and spelling does not find its target. -/
def Fails (reg : Registry) (s r : String) : Prop := reg.RefersTo s r ∧ reg.get? r = none

/-- A listed reference fails unless it is written with percent signs and its set is found. -/
theorem Built.mem_unresolvedReferences_iff_fails (h : reg.Built allowed) :
    (s, r) ∈ reg.unresolvedReferences ↔
      reg.Fails s r ∨ reg.RefersTo s r ∧ dropPercents r ≠ r := by
  rw [h.mem_unresolvedReferences, h.getElem?_eq_none_iff, and_or_left, Fails]

theorem Built.plain_or_default (h : reg.Built allowed) (hr : reg.RefersTo s r) :
    dropPercents r = r ∨ ∃ options, allowed options ∧ r = options.defaultRuleSet := by
  obtain ⟨set, hset, hr⟩ := refersTo_iff.1 hr
  obtain ⟨-, name, options, pairs, hallowed, hcompile⟩ := h.compiled hset
  rcases RuleSet.dropPercents_of_mem_dependsOn hcompile hr with hplain | hdefault
  · exact .inl hplain
  · exact .inr ⟨options, hallowed, hdefault⟩

/-- No reference is listed that is found if and only if no found reference is written with percent
signs.  This is so if the default rule sets are named without percent signs. -/
theorem fails_of_mem_unresolvedReferences_iff (h : reg.Built allowed) :
    ((∀ s r, (s, r) ∈ reg.unresolvedReferences → reg.Fails s r) ↔
      ∀ s r, reg.RefersTo s r → dropPercents r ≠ r → reg.get? r = none) ∧
    ((∀ options, allowed options → dropPercents options.defaultRuleSet = options.defaultRuleSet) →
      ∀ s r, (s, r) ∈ reg.unresolvedReferences → reg.Fails s r) := by
  have hiff : (∀ s r, (s, r) ∈ reg.unresolvedReferences → reg.Fails s r) ↔
      ∀ s r, reg.RefersTo s r → dropPercents r ≠ r → reg.get? r = none := by
    constructor
    · intro hlisted s r hr hpercent
      exact (hlisted s r (h.mem_unresolvedReferences_iff_fails.2 (.inr ⟨hr, hpercent⟩))).2
    · intro hpercents s r hmem
      rcases h.mem_unresolvedReferences_iff_fails.1 hmem with hfails | ⟨hr, hpercent⟩
      · exact hfails
      · exact ⟨hr, hpercents s r hr hpercent⟩
  refine ⟨hiff, fun hplain => hiff.2 ?_⟩
  intro s r hr hpercent
  rcases h.plain_or_default hr with hr | ⟨options, hallowed, rfl⟩
  · exact absurd hr hpercent
  · exact absurd (hplain options hallowed) hpercent

/-- A set for fractions, whose default rule set is written with a percent sign. -/
def decimals : RuleSet where
  name := "decimals"
  rules := [⟨.improper, Key.defaultRadix, 1,
    [.part (.substitution .less .integerPart (.ruleSet "%digits"))]⟩]

theorem compile_decimals :
    RuleSet.compile "decimals" { defaultRuleSet := "%digits" } [("x.x", "<<;")] = .ok decimals := by
  cbv

/-- A default rule set that is missing is listed rightly, however it is written. -/
theorem fails_decimals :
    (empty.insert decimals).Built (fun _ => True) ∧ narrow.Built (· = {}) ∧
      (empty.insert decimals).unresolvedReferences = [("decimals", "%digits")] ∧
      (empty.insert decimals).Fails "decimals" "%digits" ∧
      narrow.unresolvedReferences = [("few", "tens")] ∧ narrow.Fails "few" "tens" := by
  have hbuilt : (empty.insert decimals).Built (fun _ => True) :=
    .insert (.start rfl) trivial compile_decimals
  have hdecimals : (empty.insert decimals).unresolvedReferences = [("decimals", "%digits")] := by
    cbv
  have hmissing : (empty.insert decimals).get? "%digits" = none := by
    cbv
  have hnarrow : narrow.unresolvedReferences = [("few", "tens")] := by
    cbv
  refine ⟨hbuilt, built_narrow, hdecimals, ?_, hnarrow, ?_⟩
  · have hiff := (fails_of_mem_unresolvedReferences_iff hbuilt).1
    refine hiff.2 ?_ _ _ (hdecimals ▸ List.mem_cons_self)
    intro s r hr hpercent
    have hmem := hbuilt.mem_unresolvedReferences_iff_fails.2 (.inr ⟨hr, hpercent⟩)
    rw [hdecimals] at hmem
    cases List.mem_singleton.1 hmem
    exact hmissing
  · have hplain := (fails_of_mem_unresolvedReferences_iff built_narrow).2
    refine hplain ?_ _ _ (hnarrow ▸ List.mem_cons_self)
    rintro options rfl
    cbv

/-- The set that the default rule set names. -/
def digits : RuleSet := ⟨"digits", [⟨.number 0, Key.defaultRadix, 1, [.part (.literal "zero")]⟩]⟩

theorem compile_digits : RuleSet.compile "digits" {} [("0", "zero;")] = .ok digits := by
  cbv

/-- A default rule set that is written with a percent sign is listed although it is registered. -/
theorem unresolvedReferences_decimals :
    ((empty.insert digits).insert decimals).Built (fun _ => True) ∧
      ((empty.insert digits).insert decimals).unresolvedReferences = [("decimals", "%digits")] ∧
      ((empty.insert digits).insert decimals).get? "%digits" = some digits ∧
      ¬ ∀ s r, (s, r) ∈ ((empty.insert digits).insert decimals).unresolvedReferences →
        ((empty.insert digits).insert decimals).Fails s r := by
  have hlisted : ((empty.insert digits).insert decimals).unresolvedReferences =
      [("decimals", "%digits")] := by
    cbv
  have hfound : ((empty.insert digits).insert decimals).get? "%digits" = some digits := by
    cbv
  refine ⟨.insert (.insert (.start rfl) trivial compile_digits) trivial compile_decimals,
    hlisted, hfound, ?_⟩
  intro hfails
  obtain ⟨-, hmissing⟩ := hfails "decimals" "%digits" (hlisted ▸ List.mem_cons_self)
  rw [hfound] at hmissing
  cases hmissing

end Registry

end NumberRules.Spelling
