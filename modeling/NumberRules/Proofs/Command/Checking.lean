import Mathlib
import NumberRules.Command.Run
import NumberRules.Proofs.Cache
import NumberRules.Proofs.Spelling.Listing
import NumberRules.Proofs.Spelling.References

/-! # Two ways to load a rules file

A registry is made of everything in a rules file, up to the first error; a check goes on after errors
and collects them.  Both go through the items of the file in the same order and share a cache between
them, which changes no answer, `Cache.Transparent`.  So the error that stops the one is the first
finding of the other, and the check knows every rule set that the registry would have.
-/

namespace NumberRules
set_option autoImplicit false

/-! ## Transparent caches -/

namespace Cache

variable {α β γ : Type} {x : Cached α} {y : Except CompileError α}

/-- Through every cache of right answers, `x` answers `y` and leaves such a cache. -/
def Transparent (x : Cached α) (y : Except CompileError α) : Prop :=
  ∃ sources, Memoizes x y sources

def Valid (cache : Cache) : Prop := ∃ known, cache.Remembers known

theorem Transparent.run (h : Transparent x y) {cache : Cache} (hcache : cache.Valid) :
    ∃ next, x.run.run cache = (y, next) ∧ next.Valid := by
  obtain ⟨sources, hx⟩ := h
  obtain ⟨known, hknown⟩ := hcache
  obtain ⟨next, hrun, hnext⟩ := hx cache known hknown
  exact ⟨next, hrun, known ++ sources, hnext⟩

theorem Transparent.pure (a : α) : Transparent (pure a) (.ok a) := ⟨[], memoizes_mk (.ok a)⟩

theorem Transparent.bind {f : α → Cached β} {g : α → Except CompileError β}
    (hx : Transparent x y) (hf : ∀ a, Transparent (f a) (g a)) :
    Transparent (x >>= f) (y >>= g) := by
  obtain ⟨sources, hx⟩ := hx
  cases y with
  | error e => exact ⟨sources, hx.bind_error⟩
  | ok a =>
    obtain ⟨more, ha⟩ := hf a
    exact ⟨sources ++ more, hx.bind_ok ha⟩

theorem Transparent.foldlM {f : α → γ → Cached α} {g : α → γ → Except CompileError α}
    (hf : ∀ a c, Transparent (f a c) (g a c)) (l : List γ) (a : α) :
    Transparent (l.foldlM f a) (l.foldlM g a) := by
  induction l generalizing a with
  | nil => exact .pure a
  | cons c l ih => exact (hf a c).bind ih

theorem valid_empty : empty.Valid := ⟨[], remembers_empty⟩

end Cache

/-! ## Items of a rules file -/

namespace RulesFile

open Spelling (Registry RuleSet dropPercents)

/-- What a rules file has compiled as one piece. -/
inductive Item where
  | plurals (kind : Plural.Kind)
  | ruleSet (name : String) (pairs : List (String × String))

def items (file : RulesFile) : List Item :=
  file.kinds.map .plurals ++ file.ruleSets.toList.map fun entry => .ruleSet entry.1 entry.2

variable {file : RulesFile} {reg : Registry}

theorem ruleSet_mem_items {name : String} {pairs : List (String × String)} :
    .ruleSet name pairs ∈ file.items ↔ file.ruleSets[name]? = some pairs := by
  rw [← Std.ExtTreeMap.mem_toList_iff_getElem?_eq_some]
  simp [items]

namespace Item

/-- The place in the file that a finding names. -/
def origin : Item → String
  | plurals kind => "plurals." ++ kind.name
  | ruleSet name _ => "rule_sets." ++ name

/-- The item compiled without a cache, as what it does to a registry. -/
def compile (file : RulesFile) : Item → Except CompileError (Registry → Registry)
  | plurals kind => do
    let rules ← Plural.Rules.compile ((file.plurals? kind).getD [])
    .ok (·.withPluralRules kind rules)
  | ruleSet name pairs => do
    let set ← RuleSet.compile name ⟨file.defaultRuleSet⟩ pairs
    .ok (·.insert set)

def add (file : RulesFile) (reg : Registry) (item : Item) : Except CompileError Registry := do
  let change ← item.compile file
  .ok (change reg)

end Item

theorem transparent_compilePlurals (file : RulesFile) (kind : Plural.Kind) :
    Cache.Transparent (file.compilePlurals kind)
      (Plural.Rules.compile ((file.plurals? kind).getD [])) :=
  ⟨_, Cache.memoizes_pluralRules _⟩

theorem transparent_compileRuleSet (file : RulesFile) (name : String)
    (pairs : List (String × String)) :
    Cache.Transparent (file.compileRuleSet name pairs)
      (RuleSet.compile name ⟨file.defaultRuleSet⟩ pairs) :=
  ⟨_, Cache.memoizes_ruleSet _ _ _⟩

theorem registry_eq (file : RulesFile) :
    file.registry = file.items.foldlM (Item.add file) Registry.empty := by
  have hplurals : ∀ (reg : Registry) (kind : Plural.Kind),
      Cache.Transparent (do
        let rules ← file.compilePlurals kind
        pure (reg.withPluralRules kind rules)) (Item.add file reg (.plurals kind)) := by
    intro reg kind
    rw [Item.add, Item.compile, bind_assoc]
    exact (file.transparent_compilePlurals kind).bind fun rules => .pure _
  have hsets : ∀ (reg : Registry) (entry : String × List (String × String)),
      Cache.Transparent (do
        let set ← file.compileRuleSet entry.1 entry.2
        pure (reg.insert set)) (Item.add file reg (.ruleSet entry.1 entry.2)) := by
    intro reg entry
    rw [Item.add, Item.compile, bind_assoc]
    exact (file.transparent_compileRuleSet entry.1 entry.2).bind fun set => .pure _
  have hregistry := (Cache.Transparent.foldlM hplurals file.kinds Registry.empty).bind fun reg =>
    Cache.Transparent.foldlM hsets file.ruleSets.toList reg
  obtain ⟨next, hrun, -⟩ := hregistry.run Cache.valid_empty
  rw [registry, registryM, hrun, items, List.foldlM_append]
  simp only [List.foldlM_map]

end RulesFile

/-! ## Findings -/

namespace Command

open RulesFile (Item)
open Spelling (Registry RuleSet dropPercents)

variable {file : RulesFile} {progress : Progress} {before : List Item} {item : Item}

/-- The finding that is due for an item. -/
def finding? (file : RulesFile) (item : Item) : Option Finding :=
  match item.compile file with
  | .ok _ => none
  | .error e => some ⟨item.origin, e⟩

/-- The compiled set of an item, if it is one for a rule set. -/
def set? (file : RulesFile) : Item → Option RuleSet
  | .plurals _ => none
  | .ruleSet name pairs => (RuleSet.compile name ⟨file.defaultRuleSet⟩ pairs).toOption

/-- The name of a rule set that fails, without percent signs. -/
def failed? (file : RulesFile) : Item → Option String
  | .plurals _ => none
  | .ruleSet name pairs =>
    match RuleSet.compile name ⟨file.defaultRuleSet⟩ pairs with
    | .ok _ => none
    | .error _ => some (dropPercents name)

/-- The registry of the rule sets that compile. -/
def registryOf (file : RulesFile) (items : List Item) : Registry :=
  (items.filterMap (set? file)).foldl Registry.insert .empty

def checkItem (file : RulesFile) (progress : Progress) : Item → Progress
  | .plurals kind => checkPlurals file progress kind
  | .ruleSet name pairs => checkRuleSet file progress (name, pairs)

/-- The progress that is due after some items. -/
structure Progress.After (file : RulesFile) (before : List Item) (progress : Progress) : Prop where
  cache : progress.cache.Valid
  registry : progress.registry = registryOf file before
  failed : progress.failed = before.filterMap (failed? file)
  errors : progress.errors = before.filterMap (finding? file)

theorem after_nil (file : RulesFile) : Progress.After file [] {} where
  cache := Cache.valid_empty
  registry := rfl
  failed := rfl
  errors := rfl

theorem Progress.After.checkItem (h : progress.After file before) (item : Item) :
    (checkItem file progress item).After file (before ++ [item]) := by
  obtain ⟨hcache, hregistry, hfailed, herrors⟩ := h
  cases item with
  | plurals kind =>
    obtain ⟨next, hrun, hnext⟩ := (file.transparent_compilePlurals kind).run hcache
    rw [Command.checkItem, checkPlurals, hrun]
    cases hresult : Plural.Rules.compile ((file.plurals? kind).getD []) with
    | ok rules =>
      have hfinding : finding? file (.plurals kind) = none := by
        rw [finding?, Item.compile, hresult]
        rfl
      refine ⟨hnext, ?_, ?_, ?_⟩
      all_goals simp [List.filterMap_cons, registryOf, set?, failed?, hfinding, hregistry, hfailed,
        herrors]
    | error e =>
      have hfinding : finding? file (.plurals kind) = some ⟨"plurals." ++ kind.name, e⟩ := by
        rw [finding?, Item.compile, hresult]
        rfl
      refine ⟨hnext, ?_, ?_, ?_⟩
      all_goals simp [List.filterMap_cons, registryOf, set?, failed?, hfinding, hregistry, hfailed,
        herrors]
  | ruleSet name pairs =>
    obtain ⟨next, hrun, hnext⟩ := (file.transparent_compileRuleSet name pairs).run hcache
    rw [Command.checkItem, checkRuleSet, hrun]
    cases hresult : RuleSet.compile name ⟨file.defaultRuleSet⟩ pairs with
    | ok set =>
      have hfinding : finding? file (.ruleSet name pairs) = none := by
        rw [finding?, Item.compile, hresult]
        rfl
      refine ⟨hnext, ?_, ?_, ?_⟩
      all_goals simp [registryOf, set?, failed?, hresult, Except.toOption, hfinding, hregistry,
        hfailed, herrors]
    | error e =>
      have hfinding : finding? file (.ruleSet name pairs) = some ⟨"rule_sets." ++ name, e⟩ := by
        rw [finding?, Item.compile, hresult]
        rfl
      refine ⟨hnext, ?_, ?_, ?_⟩
      all_goals simp [registryOf, set?, failed?, hresult, Except.toOption, hfinding, hregistry,
        hfailed, herrors]

theorem after_foldl_checkItem (h : progress.After file before) (rest : List Item) :
    (rest.foldl (checkItem file) progress).After file (before ++ rest) := by
  induction rest generalizing progress before with
  | nil =>
    rw [List.append_nil]
    exact h
  | cons item rest ih =>
    have hall := ih (h.checkItem item)
    rw [List.append_assoc] at hall
    exact hall

theorem checkFile_eq (file : RulesFile) : checkFile file =
    ⟨file.items.filterMap (finding? file),
      (registryOf file file.items).unresolvedReferences.filter fun r =>
        !(file.items.filterMap (failed? file)).contains r.2⟩ := by
  have hafter := after_foldl_checkItem (after_nil file) file.items
  have hfold : file.items.foldl (checkItem file) {} =
      file.ruleSets.toList.foldl (checkRuleSet file) (file.kinds.foldl (checkPlurals file) {}) := by
    rw [RulesFile.items, List.foldl_append, List.foldl_map, List.foldl_map]
    rfl
  rw [List.nil_append, hfold] at hafter
  obtain ⟨-, hregistry, hfailed, herrors⟩ := hafter
  rw [checkFile, hregistry, hfailed, herrors]

/-! ## The first error -/

theorem foldlM_add_eq (file : RulesFile) (reg : Registry) (items : List Item) :
    (∃ reg', items.foldlM (Item.add file) reg = .ok reg' ∧ items.filterMap (finding? file) = []) ∨
      ∃ item ∈ items, ∃ e rest, items.foldlM (Item.add file) reg = .error e ∧
        item.compile file = .error e ∧
        items.filterMap (finding? file) = ⟨item.origin, e⟩ :: rest := by
  induction items generalizing reg with
  | nil => exact .inl ⟨reg, rfl, rfl⟩
  | cons item items ih =>
    rw [List.foldlM_cons, Item.add, List.filterMap_cons, finding?]
    cases hresult : item.compile file with
    | error e => exact .inr ⟨item, List.mem_cons_self, e, _, rfl, hresult, rfl⟩
    | ok change =>
      rcases ih (change reg) with hclean | ⟨other, hother, herror⟩
      · exact .inl hclean
      · exact .inr ⟨other, List.mem_cons_of_mem item hother, herror⟩

/-! ## Registered sets -/

theorem getElem?_foldl_insert {sets : List RuleSet} (h : (sets.map RuleSet.name).Nodup)
    {s : String} {set : RuleSet} :
    (sets.foldl Registry.insert .empty).sets[s]? = some set ↔ set ∈ sets ∧ set.name = s := by
  induction sets using List.reverseRecOn with
  | nil => simp [Registry.empty]
  | append_singleton sets last ih =>
    rw [List.map_append, List.map_singleton, List.nodup_append] at h
    obtain ⟨hnodup, -, hlast⟩ := h
    have hfresh : ∀ other ∈ sets, other.name ≠ last.name := fun other hother =>
      hlast _ (List.mem_map_of_mem hother) _ List.mem_cons_self
    rw [List.foldl_append, List.foldl_cons, List.foldl_nil, Registry.getElem?_insert,
      List.mem_append, List.mem_singleton]
    by_cases hname : last.name = s
    · rw [if_pos hname, Option.some.injEq]
      constructor
      · rintro rfl
        exact ⟨.inr rfl, hname⟩
      · rintro ⟨hmem | rfl, heq⟩
        · exact absurd (heq.trans hname.symm) (hfresh set hmem)
        · rfl
    · rw [if_neg hname, ih hnodup]
      constructor
      · rintro ⟨hmem, heq⟩
        exact ⟨.inl hmem, heq⟩
      · rintro ⟨hmem | rfl, heq⟩
        · exact ⟨hmem, heq⟩
        · exact absurd heq hname

theorem mem_filterMap_set? {set : RuleSet} : set ∈ file.items.filterMap (set? file) ↔
    ∃ name pairs, file.ruleSets[name]? = some pairs ∧
      RuleSet.compile name ⟨file.defaultRuleSet⟩ pairs = .ok set := by
  rw [List.mem_filterMap]
  constructor
  · rintro ⟨item, hitem, hset⟩
    cases item with
    | plurals kind => cases hset
    | ruleSet name pairs =>
      exact ⟨name, pairs, RulesFile.ruleSet_mem_items.1 hitem, toOption_eq_some_iff.1 hset⟩
  · rintro ⟨name, pairs, hitem, hset⟩
    exact ⟨.ruleSet name pairs, RulesFile.ruleSet_mem_items.2 hitem, toOption_eq_some_iff.2 hset⟩

theorem mem_filterMap_failed? {r : String} : r ∈ file.items.filterMap (failed? file) ↔
    ∃ name pairs e, file.ruleSets[name]? = some pairs ∧
      RuleSet.compile name ⟨file.defaultRuleSet⟩ pairs = .error e ∧ dropPercents name = r := by
  rw [List.mem_filterMap]
  constructor
  · rintro ⟨item, hitem, hfailed⟩
    cases item with
    | plurals kind => cases hfailed
    | ruleSet name pairs =>
      rw [RulesFile.ruleSet_mem_items] at hitem
      rw [failed?] at hfailed
      cases hresult : RuleSet.compile name ⟨file.defaultRuleSet⟩ pairs with
      | ok set =>
        rw [hresult] at hfailed
        cases hfailed
      | error e =>
        rw [hresult] at hfailed
        exact ⟨name, pairs, e, hitem, hresult, Option.some.inj hfailed⟩
  · rintro ⟨name, pairs, e, hitem, hresult, rfl⟩
    refine ⟨.ruleSet name pairs, RulesFile.ruleSet_mem_items.2 hitem, ?_⟩
    rw [failed?, hresult]

theorem nodup_map_name (h : (file.ruleSets.keys.map dropPercents).Nodup) :
    ((file.items.filterMap (set? file)).map RuleSet.name).Nodup := by
  have hplurals : (file.kinds.map Item.plurals).filterMap (set? file) = [] := by
    rw [List.filterMap_map, List.filterMap_eq_nil_iff]
    exact fun kind _ => rfl
  rw [← Std.ExtTreeMap.map_fst_toList_eq_keys, List.map_map, List.Nodup, List.pairwise_map] at h
  rw [RulesFile.items, List.filterMap_append, hplurals, List.nil_append, List.filterMap_map,
    List.Nodup, List.pairwise_map, List.pairwise_filterMap]
  refine h.imp fun {a b} hne set hset set' hset' => ?_
  have hname := RuleSet.name_of_compile (toOption_eq_some_iff.1 hset)
  have hname' := RuleSet.name_of_compile (toOption_eq_some_iff.1 hset')
  rw [hname, hname']
  exact hne

theorem getElem?_registryOf (h : (file.ruleSets.keys.map dropPercents).Nodup) {s : String}
    {set : RuleSet} : (registryOf file file.items).sets[s]? = some set ↔
      ∃ name pairs, file.ruleSets[name]? = some pairs ∧ dropPercents name = s ∧
        RuleSet.compile name ⟨file.defaultRuleSet⟩ pairs = .ok set := by
  rw [registryOf, getElem?_foldl_insert (nodup_map_name h), mem_filterMap_set?]
  constructor
  · rintro ⟨⟨name, pairs, hpairs, hset⟩, hname⟩
    rw [RuleSet.name_of_compile hset] at hname
    exact ⟨name, pairs, hpairs, hname, hset⟩
  · rintro ⟨name, pairs, hpairs, hname, hset⟩
    rw [← RuleSet.name_of_compile hset] at hname
    exact ⟨⟨name, pairs, hpairs, hset⟩, hname⟩

theorem built_foldl_insert {allowed : RuleSet.Options → Prop} {sets : List RuleSet}
    (h : ∀ set ∈ sets, ∃ name options pairs, allowed options ∧
      RuleSet.compile name options pairs = .ok set) :
    (sets.foldl Registry.insert .empty).Built allowed := by
  induction sets using List.reverseRecOn with
  | nil => exact .start rfl
  | append_singleton sets last ih =>
    rw [List.forall_mem_append, List.forall_mem_singleton] at h
    obtain ⟨hsets, name, options, pairs, hallowed, hlast⟩ := h
    rw [List.foldl_append]
    exact (ih hsets).insert hallowed hlast

theorem built_registryOf (file : RulesFile) :
    (registryOf file file.items).Built (· = ⟨file.defaultRuleSet⟩) := by
  refine built_foldl_insert fun set hset => ?_
  obtain ⟨name, pairs, -, hcompile⟩ := mem_filterMap_set?.1 hset
  exact ⟨name, _, pairs, rfl, hcompile⟩

/-! ## Names without percent signs -/

/-- A name and what is left of it without the percent signs in front. -/
structure Bare (name bare : String) : Prop where
  percents : ∃ n, name.toList = List.replicate n '%' ++ bare.toList
  head?_ne : bare.toList.head? ≠ some '%'

theorem bare_iff {name bare : String} : Bare name bare ↔ dropPercents name = bare := by
  constructor
  · rintro ⟨⟨n, hname⟩, hhead⟩
    have hpercents : ∀ c ∈ List.replicate n '%', decide (c = '%') = true := fun c hc =>
      decide_eq_true (List.eq_of_mem_replicate hc)
    have hstop : ∀ c ∈ bare.toList.head?, decide (c = '%') = false := fun c hc =>
      decide_eq_false fun heq => hhead (heq ▸ hc)
    rw [dropPercents, hname, Text.dropWhile_append_stop hpercents hstop, String.ofList_toList]
  · rintro rfl
    refine ⟨⟨(name.toList.takeWhile (· = '%')).length, ?_⟩, RuleSet.head?_dropPercents name⟩
    have hpercents : name.toList.takeWhile (· = '%') =
        List.replicate (name.toList.takeWhile (· = '%')).length '%' := by
      rw [List.eq_replicate_iff]
      exact ⟨rfl, fun c hc => by simpa using List.mem_takeWhile_imp hc⟩
    rw [← hpercents, dropPercents, String.toList_ofList, List.takeWhile_append_dropWhile]

theorem nodup_keys_of_bare (h : ∀ name ∈ file.ruleSets, ∀ other ∈ file.ruleSets, ∀ bare,
    Bare name bare → Bare other bare → name = other) :
    (file.ruleSets.keys.map dropPercents).Nodup := by
  refine List.Nodup.map_on (fun name hname other hother heq => ?_) Std.ExtTreeMap.nodup_keys
  rw [Std.ExtTreeMap.mem_keys] at hname hother
  exact h name hname other hother _ (bare_iff.2 heq) (bare_iff.2 rfl)

/-! ## Unresolved references -/

/-- The rule set that the file has under the name `s`, apart from percent signs, compiles and refers
to `r`. -/
def Refers (file : RulesFile) (s r : String) : Prop :=
  ∃ name pairs set, file.ruleSets[name]? = some pairs ∧ Bare name s ∧
    RuleSet.compile name ⟨file.defaultRuleSet⟩ pairs = .ok set ∧ r ∈ set.dependsOn

/-- A name is free if there is neither a set that compiles nor one that fails. -/
theorem getElem?_registryOf_eq_none_and_iff (h : (file.ruleSets.keys.map dropPercents).Nodup)
    {r : String} :
    (registryOf file file.items).sets[r]? = none ∧ r ∉ file.items.filterMap (failed? file) ↔
      ∀ name ∈ file.ruleSets, dropPercents name ≠ r := by
  have hmem : ∀ name, name ∈ file.ruleSets ↔ ∃ pairs, file.ruleSets[name]? = some pairs := by
    intro name
    rw [Std.ExtTreeMap.mem_iff_isSome_getElem?, Option.isSome_iff_exists]
  rw [Option.eq_none_iff_forall_ne_some, mem_filterMap_failed?]
  constructor
  · rintro ⟨hmissing, hnotfailed⟩ name hname hr
    obtain ⟨pairs, hpairs⟩ := (hmem name).1 hname
    cases hresult : RuleSet.compile name ⟨file.defaultRuleSet⟩ pairs with
    | ok set => exact hmissing set ((getElem?_registryOf h).2 ⟨name, pairs, hpairs, hr, hresult⟩)
    | error e => exact hnotfailed ⟨name, pairs, e, hpairs, hresult, hr⟩
  · intro hnone
    constructor
    · intro set hset
      obtain ⟨name, pairs, hpairs, hname, -⟩ := (getElem?_registryOf h).1 hset
      exact hnone name ((hmem name).2 ⟨pairs, hpairs⟩) hname
    · rintro ⟨name, pairs, e, hpairs, -, hname⟩
      exact hnone name ((hmem name).2 ⟨pairs, hpairs⟩) hname

theorem mem_unresolved_checkFile (h : (file.ruleSets.keys.map dropPercents).Nodup) {s r : String} :
    (s, r) ∈ (checkFile file).unresolved ↔
      Refers file s r ∧ ∀ name ∈ file.ruleSets, ¬Bare name r := by
  have hrefers : (registryOf file file.items).RefersTo s r ↔ Refers file s r := by
    rw [Registry.refersTo_iff]
    constructor
    · rintro ⟨set, hset, hr⟩
      obtain ⟨name, pairs, hpairs, hname, hcompile⟩ := (getElem?_registryOf h).1 hset
      exact ⟨name, pairs, set, hpairs, bare_iff.2 hname, hcompile, hr⟩
    · rintro ⟨name, pairs, set, hpairs, hname, hcompile, hr⟩
      exact ⟨set, (getElem?_registryOf h).2 ⟨name, pairs, hpairs, bare_iff.1 hname, hcompile⟩, hr⟩
  rw [checkFile_eq, List.mem_filter, (built_registryOf file).mem_unresolvedReferences, hrefers,
    and_assoc, Bool.not_eq_true', List.contains_eq_mem, decide_eq_false_iff_not,
    getElem?_registryOf_eq_none_and_iff h]
  simp only [bare_iff, ne_eq]

theorem pairwise_unresolved_checkFile (file : RulesFile) :
    (checkFile file).unresolved.Pairwise (Prod.Lex (· < ·) (· < ·)) := by
  rw [checkFile_eq]
  exact (built_registryOf file).pairwise_unresolvedReferences.filter _

theorem Refers.head?_ne (hdefault : file.defaultRuleSet.toList.head? ≠ some '%') {s r : String}
    (h : Refers file s r) : r.toList.head? ≠ some '%' := by
  obtain ⟨name, pairs, set, -, -, hcompile, hr⟩ := h
  rcases RuleSet.dropPercents_of_mem_dependsOn hcompile hr with hplain | rfl
  · exact hplain ▸ RuleSet.head?_dropPercents r
  · exact hdefault

/-- The report has no errors if and only if there is a registry, and its first error is the one there
is in place of a registry, behind the item it is in.  If the names of a file differ in more than the
percent signs in front, and there is none in front of the default one, it lists once, in order, the
references of rule sets that compile to names that no rule set of the file has without the percent
signs; and these names have none in front either. -/
theorem reportOnFile_agrees (json : Bool) (path : String) (file : RulesFile) :
    ((reportOnFile json path file).errors = [] ↔ ∃ reg, file.registry = .ok reg) ∧
    (∀ e, file.registry = .error e → ∃ item ∈ file.items, item.compile file = .error e ∧
      ∃ rest, (reportOnFile json path file).errors = (item.origin ++ ": " ++ e.message) :: rest) ∧
    ((∀ name ∈ file.ruleSets, ∀ other ∈ file.ruleSets, ∀ bare,
        Bare name bare → Bare other bare → name = other) →
      file.defaultRuleSet.toList.head? ≠ some '%' →
      ∃ references : List (String × String),
        (reportOnFile json path file).unresolved =
          references.map (fun (s, r) => s ++ " -> %" ++ r) ∧
        references.Pairwise (Prod.Lex (· < ·) (· < ·)) ∧
        (∀ s r, (s, r) ∈ references ↔
          Refers file s r ∧ ∀ name ∈ file.ruleSets, ¬Bare name r) ∧
        ∀ reference ∈ references, reference.2.toList.head? ≠ some '%') := by
  have herrors : (reportOnFile json path file).errors =
      (file.items.filterMap (finding? file)).map fun f => f.origin ++ ": " ++ f.error.message := by
    rw [reportOnFile, checkFile_eq]
  refine ⟨?_, ?_, ?_⟩
  · rw [herrors, RulesFile.registry_eq]
    rcases foldlM_add_eq file .empty file.items with
      ⟨reg, hreg, hnone⟩ | ⟨item, -, e, rest, hreg, -, hfindings⟩
    · simp [hreg, hnone]
    · simp [hreg, hfindings]
  · intro e he
    rw [RulesFile.registry_eq] at he
    rw [herrors]
    rcases foldlM_add_eq file .empty file.items with
      ⟨reg, hreg, -⟩ | ⟨item, hitem, e', rest, hreg, hcompile, hfindings⟩
    · rw [hreg] at he
      cases he
    · rw [hreg] at he
      cases he
      exact ⟨item, hitem, hcompile, _, by rw [hfindings, List.map_cons]⟩
  · intro hnames hdefault
    have hmem (s r : String) :=
      mem_unresolved_checkFile (nodup_keys_of_bare hnames) (s := s) (r := r)
    refine ⟨(checkFile file).unresolved, rfl, pairwise_unresolved_checkFile file, hmem, ?_⟩
    exact fun reference h => ((hmem _ _).1 h).1.head?_ne hdefault

/-- A file with a rule set that fails, one that refers to it and to a missing one, and plural
rules. -/
def faulty : RulesFile where
  ordinal := some [("one", "n = 1")]
  ruleSets := Std.ExtTreeMap.ofList
    [("%main", [("0", "=%broken=;"), ("10", "<%missing<0;")]), ("%broken", [("0", "<<<;")])]

theorem items_faulty : faulty.items = [.plurals .ordinal, .ruleSet "%broken" [("0", "<<<;")],
    .ruleSet "%main" [("0", "=%broken=;"), ("10", "<%missing<0;")]] := by
  cbv

def tripleError : CompileError := .inSpellingRule "broken" "0" (.bodySyntax ⟨"<<<;", .triple '<'⟩)

theorem compile_broken : RuleSet.compile "%broken" {} [("0", "<<<;")] = .error tripleError := by
  cbv

theorem registry_faulty : faulty.registry = .error tripleError := by
  have hisOk : (Plural.Rules.compile [("one", "n = 1")]).isOk = true := by
    decide +kernel
  obtain ⟨rules, hrules⟩ := isOk_iff.1 hisOk
  have hone : (Item.plurals .ordinal).compile faulty =
      .ok (·.withPluralRules .ordinal rules) := by
    change (Plural.Rules.compile [("one", "n = 1")] >>= fun rules => _) = _
    rw [hrules, bind_ok]
  have hbroken : (Item.ruleSet "%broken" [("0", "<<<;")]).compile faulty = .error tripleError := by
    change (RuleSet.compile "%broken" {} [("0", "<<<;")] >>= fun set => _) = _
    rw [compile_broken]
    rfl
  rw [RulesFile.registry_eq, items_faulty, List.foldlM_cons, Item.add, hone, bind_ok, bind_ok,
    List.foldlM_cons, Item.add, hbroken]
  rfl

def mainSet : RuleSet where
  name := "main"
  rules := [
    ⟨.number 10, 10, 10, [.part (.substitution .less (.quotient 10) (.ruleSet "missing")),
      .part (.literal "0")]⟩,
    ⟨.number 0, 10, 1, [.part (.substitution .equal .identity (.ruleSet "broken"))]⟩]

theorem compile_main :
    RuleSet.compile "%main" {} [("0", "=%broken=;"), ("10", "<%missing<0;")] = .ok mainSet := by
  cbv

theorem getElem?_ruleSets_faulty {name : String} {pairs : List (String × String)} :
    faulty.ruleSets[name]? = some pairs ↔
      name = "%broken" ∧ pairs = [("0", "<<<;")] ∨
      name = "%main" ∧ pairs = [("0", "=%broken=;"), ("10", "<%missing<0;")] := by
  have hlist : faulty.ruleSets.toList =
      [("%broken", [("0", "<<<;")]), ("%main", [("0", "=%broken=;"), ("10", "<%missing<0;")])] := by
    cbv
  rw [← Std.ExtTreeMap.mem_toList_iff_getElem?_eq_some, hlist]
  simp

theorem mem_dependsOn_mainSet {r : String} :
    r ∈ mainSet.dependsOn ↔ r = "broken" ∨ r = "missing" := by
  have hlist : mainSet.dependsOn.toList = ["broken", "missing"] := by
    decide +kernel
  rw [← Std.ExtTreeSet.mem_toList, hlist]
  simp

theorem refers_faulty_iff {s r : String} :
    Refers faulty s r ↔ s = "main" ∧ (r = "broken" ∨ r = "missing") := by
  rw [← mem_dependsOn_mainSet]
  constructor
  · rintro ⟨name, pairs, set, hpairs, hname, hcompile, hr⟩
    rcases getElem?_ruleSets_faulty.1 hpairs with ⟨rfl, rfl⟩ | ⟨rfl, rfl⟩
    · cases compile_broken.symm.trans hcompile
    · cases compile_main.symm.trans hcompile
      exact ⟨(bare_iff.1 hname).symm, hr⟩
  · rintro ⟨rfl, hr⟩
    exact ⟨"%main", _, mainSet, getElem?_ruleSets_faulty.2 (.inr ⟨rfl, rfl⟩), bare_iff.2 rfl,
      compile_main, hr⟩

theorem keys_faulty : faulty.ruleSets.keys = ["%broken", "%main"] := by
  cbv

/-- The reference to the missing set is the only one that is not to a set of the file. -/
theorem references_faulty {references : List (String × String)}
    (hpairwise : references.Pairwise (Prod.Lex (· < ·) (· < ·)))
    (hmem : ∀ s r, (s, r) ∈ references ↔
      Refers faulty s r ∧ ∀ name ∈ faulty.ruleSets, ¬Bare name r) :
    references = [("main", "missing")] := by
  have honly (p : String × String) : p ∈ references ↔ p ∈ [("main", "missing")] := by
    obtain ⟨s, r⟩ := p
    simp only [hmem, refers_faulty_iff, bare_iff, ← Std.ExtTreeMap.mem_keys, keys_faulty,
      List.mem_singleton, Prod.mk.injEq]
    constructor
    · rintro ⟨⟨hs, rfl | rfl⟩, hfree⟩
      · exact absurd (by decide) (hfree "%broken" List.mem_cons_self)
      · exact ⟨hs, rfl⟩
    · rintro ⟨rfl, rfl⟩
      exact ⟨⟨rfl, .inr rfl⟩, by decide⟩
  have hnodup : references.Nodup := by
    refine hpairwise.imp fun {a b} hlt heq => ?_
    subst heq
    exact irrefl_of (Prod.Lex (· < ·) (· < ·)) a hlt
  exact List.perm_singleton.1
    ((List.perm_ext_iff_of_nodup hnodup (List.nodup_singleton _)).2 honly)

/-- The set that fails stops the registry and is the first finding; only the reference to the missing
one is listed. -/
theorem reportOnFile_faulty :
    faulty.registry = .error tripleError ∧
    (reportOnFile true "rules.json" faulty).errors ≠ [] ∧
    (∃ item ∈ faulty.items, item.compile faulty = .error tripleError ∧ ∃ rest,
      (reportOnFile true "rules.json" faulty).errors =
        (item.origin ++ ": " ++ tripleError.message) :: rest) ∧
    (∀ name ∈ faulty.ruleSets, ∀ other ∈ faulty.ruleSets, ∀ bare,
      Bare name bare → Bare other bare → name = other) ∧
    faulty.defaultRuleSet.toList.head? ≠ some '%' ∧
    (reportOnFile true "rules.json" faulty).unresolved = ["main -> %missing"] := by
  obtain ⟨hclean, hfirst, hunresolved⟩ := reportOnFile_agrees true "rules.json" faulty
  have herrors : (reportOnFile true "rules.json" faulty).errors ≠ [] := by
    intro hnone
    obtain ⟨reg, hreg⟩ := hclean.1 hnone
    rw [registry_faulty] at hreg
    cases hreg
  have hnames : ∀ name ∈ faulty.ruleSets, ∀ other ∈ faulty.ruleSets, ∀ bare,
      Bare name bare → Bare other bare → name = other := by
    simp only [bare_iff, ← Std.ExtTreeMap.mem_keys, keys_faulty]
    rintro name hname other hother bare rfl heq
    revert name other
    decide
  have hdefault : faulty.defaultRuleSet.toList.head? ≠ some '%' := by
    decide
  obtain ⟨references, hlist, hpairwise, hmem, -⟩ := hunresolved hnames hdefault
  refine ⟨registry_faulty, herrors, hfirst _ registry_faulty, hnames, hdefault, ?_⟩
  rw [hlist, references_faulty hpairwise hmem]
  rfl

end Command

end NumberRules
