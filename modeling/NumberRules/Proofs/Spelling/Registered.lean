import Mathlib
import NumberRules.Spelling.Registry
import NumberRules.Proofs.Spelling.RuleSets

/-! # Registered rule sets

A name is looked up without its percent signs, and a compiled set has none in its name.  So in a
registry of compiled sets, `Registry.Built`, each set is kept where its own name is looked up.
-/

namespace NumberRules.Spelling
set_option autoImplicit false

/-! ## Names -/

theorem dropPercents_dropPercents (name : String) :
    dropPercents (dropPercents name) = dropPercents name := by
  rw [dropPercents, dropPercents, String.toList_ofList, List.dropWhile_idempotent]

theorem RuleSet.name_of_compile {name : String} {options : Options} {pairs : List (String × String)}
    {set : RuleSet} (h : compile name options pairs = .ok set) : set.name = dropPercents name := by
  obtain ⟨entries, rules, -, -, rfl⟩ := compile_eq_ok_iff.1 h
  rfl

namespace Registry

variable {reg : Registry}

theorem get?_dropPercents (reg : Registry) (name : String) :
    reg.get? (dropPercents name) = reg.get? name := by
  rw [get?, get?, dropPercents_dropPercents]

theorem getElem?_insert (reg : Registry) (set : RuleSet) (key : String) :
    (reg.insert set).sets[key]? = if set.name = key then some set else reg.sets[key]? := by
  rw [insert, Std.ExtTreeMap.getElem?_insert]
  simp only [Std.compare_eq_iff_eq]

theorem get?_insert (reg : Registry) (set : RuleSet) (name : String) :
    (reg.insert set).get? name = if set.name = dropPercents name then some set else reg.get? name :=
  reg.getElem?_insert set (dropPercents name)

theorem mem_names {s : String} : s ∈ reg.names ↔ ∃ set, reg.sets[s]? = some set := by
  rw [names, Std.ExtTreeMap.mem_keys, Std.ExtTreeMap.mem_iff_isSome_getElem?,
    Option.isSome_iff_exists]

/-! ## Registries of compiled sets -/

/-- A registry in which every rule set has been compiled, with options that are allowed.  Plural
rules, renderer and limit are arbitrary and may change at any time. -/
inductive Built (allowed : RuleSet.Options → Prop) : Registry → Prop where
  | start {reg : Registry} (hsets : reg.sets = ∅) : Built allowed reg
  /-- A compiled set takes its place, perhaps that of another one. -/
  | insert {reg : Registry} {set : RuleSet} {name : String} {options : RuleSet.Options}
    {pairs : List (String × String)} (hreg : Built allowed reg) (hoptions : allowed options)
    (hset : RuleSet.compile name options pairs = .ok set) : Built allowed (reg.insert set)
  | configure {reg reg' : Registry} (hreg : Built allowed reg) (hsets : reg'.sets = reg.sets) :
    Built allowed reg'

variable {allowed : RuleSet.Options → Prop} {key : String} {set : RuleSet}

/-- A kept set has been compiled, and its key is its name. -/
theorem Built.compiled (h : reg.Built allowed) (hset : reg.sets[key]? = some set) :
    set.name = key ∧ ∃ name options pairs, allowed options ∧
      RuleSet.compile name options pairs = .ok set := by
  induction h with
  | start hsets =>
    rw [hsets, Std.ExtTreeMap.getElem?_empty] at hset
    cases hset
  | @insert reg inserted name options pairs _ hoptions hcompile ih =>
    rw [getElem?_insert] at hset
    split at hset
    · rename_i hkey
      rw [← Option.some.inj hset]
      exact ⟨hkey, name, options, pairs, hoptions, hcompile⟩
    · exact ih hset
  | configure _ hsets ih => exact ih (hsets ▸ hset)

theorem Built.name_eq (h : reg.Built allowed) (hset : reg.sets[key]? = some set) :
    set.name = key := (h.compiled hset).1

/-- Keys have no percent signs in front. -/
theorem Built.dropPercents_key (h : reg.Built allowed) (hset : reg.sets[key]? = some set) :
    dropPercents key = key := by
  obtain ⟨hname, name, options, pairs, -, hcompile⟩ := h.compiled hset
  rw [← hname, RuleSet.name_of_compile hcompile, dropPercents_dropPercents]

/-- A set that is found is the set of its own name. -/
theorem Built.getElem?_name (h : reg.Built allowed) {name : String}
    (hset : reg.get? name = some set) : reg.sets[set.name]? = some set := by
  rw [h.name_eq hset]
  exact hset

end Registry

end NumberRules.Spelling
