import Mathlib
import NumberRules.Proofs.Command.Checking

/-! # Which rule sets of a file are registered

A rules file has rule sets under names that differ as written.  In the registry percent signs in
front of a name do not count, and a later set takes the place of an earlier one.  So of several
names that agree apart from percent signs the last one in order survives, and none is lost exactly
if no two names agree.
-/

namespace NumberRules
set_option autoImplicit false

namespace RulesFile

open Spelling (Registry RuleSet dropPercents)
open Command (set? registryOf)

variable {file : RulesFile} {reg : Registry}

/-! ## Sets inserted one after the other -/

theorem getElem?_foldl_insert_eq (sets : List RuleSet) (s : String) :
    (sets.foldl Registry.insert .empty).sets[s]? = sets.reverse.find? (·.name = s) := by
  induction sets using List.reverseRecOn with
  | nil => simp [Registry.empty]
  | append_singleton sets last ih =>
    rw [List.foldl_append, List.foldl_cons, List.foldl_nil, Registry.getElem?_insert, ih,
      List.reverse_append, List.reverse_singleton, List.singleton_append, List.find?_cons]
    by_cases hname : last.name = s <;> simp [hname]

theorem sets_withPluralRules (kind : Plural.Kind) (rules : Plural.Rules) :
    (reg.withPluralRules kind rules).sets = reg.sets := by
  cases kind <;> rfl

theorem sets_insert {reg reg' : Registry} (h : reg.sets = reg'.sets) (set : RuleSet) :
    (reg.insert set).sets = (reg'.insert set).sets := by
  rw [Registry.insert, Registry.insert, h]

/-- What one item does to the rule sets of a registry. -/
theorem Item.sets_of_add {item : Item} {start : Registry} (h : item.add file start = .ok reg) :
    reg.sets = ((set? file item).toList.foldl Registry.insert start).sets := by
  obtain ⟨change, hchange, hreg⟩ := bind_eq_ok_iff.1 h
  cases item with
  | plurals kind =>
    obtain ⟨rules, -, hrules⟩ := bind_eq_ok_iff.1 hchange
    cases hrules
    cases hreg
    exact sets_withPluralRules kind rules
  | ruleSet name pairs =>
    obtain ⟨set, hset, hinsert⟩ := bind_eq_ok_iff.1 hchange
    cases hinsert
    cases hreg
    rw [set?, hset]
    rfl

theorem sets_of_foldlM_add {items : List Item} {start start' : Registry}
    (hstart : start.sets = start'.sets) (h : items.foldlM (Item.add file) start = .ok reg) :
    reg.sets = ((items.filterMap (set? file)).foldl Registry.insert start').sets := by
  -- The two starts agree in their sets only, since plural rules are left out on the right.
  induction items generalizing start start' with
  | nil =>
    cases h
    exact hstart
  | cons item items ih =>
    rw [List.foldlM_cons] at h
    obtain ⟨next, hnext, hrest⟩ := bind_eq_ok_iff.1 h
    have hsets := Item.sets_of_add hnext
    cases hset : set? file item with
    | none =>
      rw [hset] at hsets
      rw [List.filterMap_cons_none hset]
      exact ih (hsets.trans hstart) hrest
    | some set =>
      rw [hset] at hsets
      rw [List.filterMap_cons_some hset]
      exact ih (hsets.trans (sets_insert hstart set)) hrest

theorem sets_registry (h : file.registry = .ok reg) :
    reg.sets = (registryOf file file.items).sets := by
  rw [registry_eq] at h
  exact sets_of_foldlM_add rfl h

/-- A registry is there only if every rule set compiles. -/
theorem exists_compile_of_registry (h : file.registry = .ok reg) {name : String}
    {pairs : List (String × String)} (hpairs : file.ruleSets[name]? = some pairs) :
    ∃ set, RuleSet.compile name ⟨file.defaultRuleSet⟩ pairs = .ok set := by
  rw [registry_eq] at h
  rcases Command.foldlM_add_eq file .empty file.items with
    ⟨-, -, hclean⟩ | ⟨item, -, e, rest, herror, -, -⟩
  · have hnone := List.filterMap_eq_nil_iff.1 hclean _ (ruleSet_mem_items.2 hpairs)
    cases hresult : RuleSet.compile name ⟨file.defaultRuleSet⟩ pairs with
    | ok set => exact ⟨set, rfl⟩
    | error e =>
      rw [Command.finding?, Item.compile, hresult] at hnone
      cases hnone
  · rw [herror] at h
    cases h

/-! ## The survivors -/

/-- The last rule set of the file, in the order of names, whose name is `s` apart from percent
signs. -/
def survivor? (file : RulesFile) (s : String) : Option (String × List (String × String)) :=
  file.ruleSets.toList.reverse.find? fun entry => dropPercents entry.1 = s

theorem filterMap_set?_items (file : RulesFile) : file.items.filterMap (set? file) =
    file.ruleSets.toList.filterMap fun entry =>
      (RuleSet.compile entry.1 ⟨file.defaultRuleSet⟩ entry.2).toOption := by
  have hplurals : (file.kinds.map Item.plurals).filterMap (set? file) = [] := by
    rw [List.filterMap_map, List.filterMap_eq_nil_iff]
    exact fun kind _ => rfl
  rw [items, List.filterMap_append, hplurals, List.nil_append, List.filterMap_map]
  rfl

theorem getElem?_registry (h : file.registry = .ok reg) (s : String) :
    reg.sets[s]? = (file.survivor? s).bind fun entry =>
      (RuleSet.compile entry.1 ⟨file.defaultRuleSet⟩ entry.2).toOption := by
  rw [sets_registry h, registryOf, getElem?_foldl_insert_eq, filterMap_set?_items, survivor?,
    ← List.filterMap_reverse, List.find?_filterMap]
  congr 1
  refine List.find?_congr fun entry hentry => ?_
  rw [List.mem_reverse, Std.ExtTreeMap.mem_toList_iff_getElem?_eq_some] at hentry
  obtain ⟨set, hset⟩ := exists_compile_of_registry h hentry
  rw [hset]
  simp [Except.toOption, RuleSet.name_of_compile hset]

theorem of_survivor {s : String} {entry : String × List (String × String)}
    (h : file.survivor? s = some entry) :
    file.ruleSets[entry.1]? = some entry.2 ∧ dropPercents entry.1 = s := by
  rw [survivor?] at h
  have hmem := List.mem_of_find?_eq_some h
  have hname := List.find?_some h
  rw [List.mem_reverse] at hmem
  exact ⟨Std.ExtTreeMap.mem_toList_iff_getElem?_eq_some.1 hmem, of_decide_eq_true hname⟩

theorem isSome_survivor {name : String} (hname : name ∈ file.ruleSets) :
    (file.survivor? (dropPercents name)).isSome = true := by
  obtain ⟨pairs, hpairs⟩ := Option.isSome_iff_exists.1
    (Std.ExtTreeMap.mem_iff_isSome_getElem?.1 hname)
  rw [survivor?, List.find?_isSome]
  refine ⟨(name, pairs), ?_, decide_eq_true rfl⟩
  rw [List.mem_reverse]
  exact Std.ExtTreeMap.mem_toList_iff_getElem?_eq_some.2 hpairs

/-- Every name of the file finds a set: that of the survivor. -/
theorem exists_get?_registry (h : file.registry = .ok reg) {name : String}
    (hname : name ∈ file.ruleSets) :
    ∃ entry set, file.survivor? (dropPercents name) = some entry ∧
      RuleSet.compile entry.1 ⟨file.defaultRuleSet⟩ entry.2 = .ok set ∧
      reg.get? name = some set := by
  obtain ⟨entry, hentry⟩ := Option.isSome_iff_exists.1 (isSome_survivor hname)
  obtain ⟨set, hset⟩ := exists_compile_of_registry h (of_survivor hentry).1
  refine ⟨entry, set, hentry, hset, ?_⟩
  rw [Registry.get?, getElem?_registry h, hentry, Option.bind_some, hset]
  rfl

/-! ## How many there are -/

theorem mem_names_registry (h : file.registry = .ok reg) {s : String} :
    s ∈ reg.names ↔ s ∈ file.ruleSets.keys.map dropPercents := by
  rw [Registry.mem_names, List.mem_map]
  constructor
  · rintro ⟨set, hset⟩
    rw [getElem?_registry h, Option.bind_eq_some_iff] at hset
    obtain ⟨entry, hentry, -⟩ := hset
    obtain ⟨hpairs, hname⟩ := of_survivor hentry
    refine ⟨entry.1, ?_, hname⟩
    rw [Std.ExtTreeMap.mem_keys, Std.ExtTreeMap.mem_iff_isSome_getElem?, hpairs]
    rfl
  · rintro ⟨name, hname, rfl⟩
    obtain ⟨entry, set, -, -, hset⟩ := exists_get?_registry h (Std.ExtTreeMap.mem_keys.1 hname)
    exact ⟨set, hset⟩

theorem nodup_keys {β : Type} (t : Std.ExtTreeMap String β) : t.keys.Nodup := by
  have hdistinct := Std.ExtTreeMap.distinct_keys (t := t)
  exact hdistinct.imp fun hne heq => hne (Std.compare_eq_iff_eq.2 heq)

theorem size_registry (h : file.registry = .ok reg) :
    reg.size = (file.ruleSets.keys.map dropPercents).dedup.length := by
  have hperm : reg.names.Perm (file.ruleSets.keys.map dropPercents).dedup := by
    refine (List.perm_ext_iff_of_nodup (nodup_keys reg.sets) (List.nodup_dedup _)).2 fun s => ?_
    rw [List.mem_dedup]
    exact mem_names_registry h
  rw [Registry.size, ← Std.ExtTreeMap.length_keys]
  exact hperm.length_eq

/-! ## None is lost -/

/-- Every rule set of the file is found under its name, and there are as many as the file has. -/
def NoneLost (file : RulesFile) (reg : Registry) : Prop :=
  (∀ name pairs, file.ruleSets[name]? = some pairs → ∃ set,
    RuleSet.compile name ⟨file.defaultRuleSet⟩ pairs = .ok set ∧ reg.get? name = some set) ∧
  reg.size = file.ruleSets.size

theorem noneLost_of_nodup (h : file.registry = .ok reg)
    (hnodup : (file.ruleSets.keys.map dropPercents).Nodup) : NoneLost file reg := by
  constructor
  · intro name pairs hpairs
    obtain ⟨set, hset⟩ := exists_compile_of_registry h hpairs
    refine ⟨set, hset, ?_⟩
    rw [Registry.get?, sets_registry h]
    exact (Command.getElem?_registryOf hnodup).2 ⟨name, pairs, hpairs, rfl, hset⟩
  · rw [size_registry h, hnodup.dedup, List.length_map, Std.ExtTreeMap.length_keys]

theorem nodup_of_size_eq (h : file.registry = .ok reg) (hsize : reg.size = file.ruleSets.size) :
    (file.ruleSets.keys.map dropPercents).Nodup := by
  have hlength : (file.ruleSets.keys.map dropPercents).dedup.length =
      (file.ruleSets.keys.map dropPercents).length := by
    rw [← size_registry h, hsize, List.length_map, Std.ExtTreeMap.length_keys]
  have hsame := (List.dedup_sublist (file.ruleSets.keys.map dropPercents)).eq_of_length hlength
  exact hsame ▸ List.nodup_dedup _

/-- Of the rule sets whose names agree apart from percent signs the registry has one, the last in
the order of names, and every name of the file finds it.  All of them are there exactly if no two
names agree. -/
theorem registry_keeps_survivors (h : file.registry = .ok reg) :
    (∀ name ∈ file.ruleSets, ∃ entry set, file.survivor? (dropPercents name) = some entry ∧
      RuleSet.compile entry.1 ⟨file.defaultRuleSet⟩ entry.2 = .ok set ∧
      reg.get? name = some set) ∧
    reg.size = (file.ruleSets.keys.map dropPercents).dedup.length ∧
    (NoneLost file reg ↔ (file.ruleSets.keys.map dropPercents).Nodup) := by
  refine ⟨fun name hname => exists_get?_registry h hname, size_registry h, ?_, ?_⟩
  · exact fun hkept => nodup_of_size_eq h hkept.2
  · exact noneLost_of_nodup h

/-- A file with two names that agree apart from percent signs. -/
def clashing : RulesFile where
  ruleSets := Std.ExtTreeMap.ofList
    [("%words", [("0", "none;")]), ("words", [("0", "nothing;")])]

def wordSet (text : String) : RuleSet where
  name := "words"
  rules := [⟨.number 0, 10, 1, [.part (.literal text)]⟩]

theorem compile_words :
    RuleSet.compile "%words" {} [("0", "none;")] = .ok (wordSet "none") ∧
      RuleSet.compile "words" {} [("0", "nothing;")] = .ok (wordSet "nothing") := by
  constructor <;> cbv

theorem items_clashing : clashing.items =
    [.ruleSet "%words" [("0", "none;")], .ruleSet "words" [("0", "nothing;")]] := by
  cbv

def words : Registry := (Registry.empty.insert (wordSet "none")).insert (wordSet "nothing")

theorem registry_clashing : clashing.registry = .ok words := by
  have hmarked : (Item.ruleSet "%words" [("0", "none;")]).compile clashing =
      .ok (·.insert (wordSet "none")) := by
    change (RuleSet.compile "%words" {} [("0", "none;")] >>= fun set => _) = _
    rw [compile_words.1, bind_ok]
  have hplain : (Item.ruleSet "words" [("0", "nothing;")]).compile clashing =
      .ok (·.insert (wordSet "nothing")) := by
    change (RuleSet.compile "words" {} [("0", "nothing;")] >>= fun set => _) = _
    rw [compile_words.2, bind_ok]
  rw [registry_eq, items_clashing, List.foldlM_cons, Item.add, hmarked, bind_ok, bind_ok,
    List.foldlM_cons, Item.add, hplain]
  rfl

theorem keys_clashing : clashing.ruleSets.keys = ["%words", "words"] := by
  cbv

theorem mem_clashing : "%words" ∈ clashing.ruleSets := by
  rw [← Std.ExtTreeMap.mem_keys, keys_clashing]
  exact List.mem_cons_self

theorem dropPercents_clashing : clashing.ruleSets.keys.map dropPercents = ["words", "words"] := by
  rw [keys_clashing]
  decide

/-- The set under the marked name gives way to the one under the plain name. -/
theorem registry_keeps_words :
    clashing.registry = .ok words ∧ words.get? "%words" = some (wordSet "nothing") ∧
      words.size = 1 ∧ ¬NoneLost clashing words := by
  obtain ⟨hget, hsize, hiff⟩ := registry_keeps_survivors registry_clashing
  rw [dropPercents_clashing] at hsize hiff
  obtain ⟨entry, set, hentry, hset, hfound⟩ := hget "%words" mem_clashing
  have hsurvivor : clashing.survivor? (dropPercents "%words") =
      some ("words", [("0", "nothing;")]) := by
    cbv
  rw [hsurvivor, Option.some.injEq] at hentry
  subst hentry
  have hwords : set = wordSet "nothing" := Except.ok.inj (hset.symm.trans compile_words.2)
  refine ⟨registry_clashing, hwords ▸ hfound, hsize.trans (by decide), fun hkept => ?_⟩
  exact absurd (hiff.1 hkept) (by decide)

/-- The file has two rule sets and its registry one, so a set is lost. -/
theorem not_noneLost_clashing : clashing.registry = .ok words ∧ clashing.ruleSets.size = 2 ∧
    words.get? "%words" = some (wordSet "nothing") ∧ words.size = 1 ∧
    ¬NoneLost clashing words := by
  have hsize : clashing.ruleSets.size = 2 := by
    rw [← Std.ExtTreeMap.length_keys, keys_clashing]
    rfl
  have hone : words.size = 1 := by
    rw [size_registry registry_clashing, dropPercents_clashing]
    decide
  refine ⟨registry_clashing, hsize, ?_, hone, ?_⟩
  · rw [words, Registry.get?_insert]
    exact if_pos (by decide)
  · rintro ⟨-, hall⟩
    omega

end RulesFile

end NumberRules
