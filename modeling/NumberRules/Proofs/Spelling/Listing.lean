import Mathlib
import NumberRules.Proofs.Spelling.Keys
import NumberRules.Proofs.Spelling.RuleOrder

/-! # What a rule set lists

A compiled rule set has one rule for each pair it is compiled from, no other rule, and no base value
twice.  Special rules come first, in a fixed order, and numeric ones follow from the highest base
value down.  `RuleSet.WellFormed` states the order; choosing a rule relies on it.
-/

namespace NumberRules.Spelling
set_option autoImplicit false

/-! ## Base values in order -/

namespace BaseValue

theorem mem_special_iff {base : BaseValue} : base ∈ special ↔ base.place ≤ 5 := by
  cases base with
  | number n =>
    have hn := n.toNat_lt_size
    refine iff_of_false (by simp [special]) ?_
    simp only [place]
    omega
  | _ => exact iff_of_true (by decide) (by decide)

theorem sublist_special {bases : List BaseValue} (h : bases.Pairwise fun a b => a.place < b.place)
    (hspecial : ∀ base ∈ bases, base ∈ special) : bases.Sublist special := by
  have hsorted : special.Pairwise fun a b => a.place < b.place := by decide
  have hnodup : bases.Nodup := h.imp fun hlt heq => by simp [heq] at hlt
  have hfilter : bases = special.filter (· ∈ bases) := by
    refine List.Perm.eq_of_pairwise ?_ h (hsorted.filter _) ?_
    · intro a b _ _ hab hba
      omega
    · rw [List.perm_ext_iff_of_nodup hnodup ((by decide : special.Nodup).filter _)]
      intro base
      simpa using hspecial base
  rw [hfilter]
  exact List.filter_sublist

/-- Base values in the order of their places are special ones and then falling numbers. -/
theorem exists_split {bases : List BaseValue} (h : bases.Pairwise fun a b => a.place < b.place) :
    ∃ (specials : List BaseValue) (numbers : List UInt64), bases = specials ++ numbers.map number ∧
      (∀ base ∈ specials, base ∈ special) ∧ numbers.Pairwise (· > ·) := by
  induction bases with
  | nil => exact ⟨[], [], rfl, by simp, .nil⟩
  | cons base bases ih =>
    obtain ⟨hbase, hbases⟩ := List.pairwise_cons.1 h
    obtain ⟨specials, numbers, hsplit, hspecials, hnumbers⟩ := ih hbases
    by_cases hspecial : base ∈ special
    · refine ⟨base :: specials, numbers, by rw [hsplit, List.cons_append], ?_, hnumbers⟩
      exact List.forall_mem_cons.2 ⟨hspecial, hspecials⟩
    · cases base with
      | number n =>
        have hnil : specials = [] := by
          rw [List.eq_nil_iff_forall_not_mem]
          intro other hother
          have hle := mem_special_iff.1 (hspecials other hother)
          have hlt := hbase other (hsplit ▸ List.mem_append_left _ hother)
          rw [mem_special_iff] at hspecial
          omega
        subst hnil
        rw [List.nil_append] at hsplit
        refine ⟨[], n :: numbers, by rw [hsplit]; rfl, by simp, List.pairwise_cons.2 ⟨?_, hnumbers⟩⟩
        intro m hm
        have hlt := hbase (number m) (hsplit ▸ List.mem_map_of_mem hm)
        simp only [place] at hlt
        change m < n
        rw [UInt64.lt_iff_toNat_lt]
        omega
      | _ => exact absurd (by decide) hspecial

end BaseValue

/-! ## Well-formed sets -/

namespace RuleSet

/-- A rule set has a plain name, and lists each base value once and in order. -/
structure WellFormed (set : RuleSet) : Prop where
  plain : set.name.toList.head? ≠ some '%'
  nodup : (set.rules.map Rule.base).Nodup
  listed : ∃ (specials numerics : List Rule) (numbers : List UInt64),
    set.rules = specials ++ numerics ∧ (specials.map Rule.base).Sublist BaseValue.special ∧
    numerics.map Rule.base = numbers.map .number ∧ numbers.Pairwise (· > ·)

theorem head?_dropPercents (name : String) : (dropPercents name).toList.head? ≠ some '%' := by
  rw [dropPercents, String.toList_ofList, ← List.find?_not_eq_head?_dropWhile]
  intro hhead
  have hpercent := List.find?_some hhead
  simp at hpercent

theorem wellFormed_arrange (name : String) {rules : List Rule}
    (hnodup : (rules.map Rule.base).Nodup) : WellFormed ⟨dropPercents name, arrange rules⟩ := by
  have hbases : ((arrange rules).map Rule.base).Nodup :=
    ((List.mergeSort_perm rules _).map Rule.base).nodup_iff.2 hnodup
  have hplaces : ((arrange rules).map Rule.base).Pairwise fun a b => a.place < b.place := by
    have hle : ((arrange rules).map Rule.base).Pairwise fun a b => a.place ≤ b.place :=
      List.pairwise_map.2 (pairwise_arrange rules)
    refine (hle.and hbases).imp ?_
    rintro a b ⟨hle, hne⟩
    exact Nat.lt_of_le_of_ne hle (BaseValue.place_injective.ne hne)
  refine ⟨head?_dropPercents name, hbases, ?_⟩
  obtain ⟨specials, numbers, hsplit, hspecials, hnumbers⟩ := BaseValue.exists_split hplaces
  obtain ⟨front, back, hrules, rfl, hback⟩ := List.map_eq_append_iff.1 hsplit
  refine ⟨front, back, numbers, hrules, ?_, hback, hnumbers⟩
  rw [hsplit] at hplaces
  exact BaseValue.sublist_special (List.pairwise_append.1 hplaces).1 hspecials

/-! ## Pairs and rules -/

/-- The context of a rule in a set with the keys. -/
def contextIn (name : String) (options : Options) (keys : List Key) (key : Key) : RuleContext where
  base := key.base
  radix := key.radix
  ruleSet := dropPercents name
  fractionRuleSet := decide (keys ≠ [] ∧ ∀ other ∈ keys, other.base.isFraction = true)
  defaultRuleSet := options.defaultRuleSet

theorem Entry.context_eq (name : String) (options : Options) (entries : List Entry)
    (entry : Entry) : entry.context (dropPercents name) options (isFractionSet entries) =
      contextIn name options (entries.map Entry.key) entry.key := by
  have hfraction : isFractionSet entries =
      decide (entries.map Entry.key ≠ [] ∧
        ∀ other ∈ entries.map Entry.key, other.base.isFraction = true) := by
    rw [isFractionSet, Bool.eq_iff_iff]
    simp
  rw [contextIn, Entry.context, hfraction]

theorem exists_entries {pairs : List (String × String)} {keys : List Key}
    (h : List.Forall₂ (fun pair key => Key.parse pair.1 = .ok key) pairs keys) :
    ∃ entries : List Entry, pairs = entries.map Entry.pair ∧ keys = entries.map Entry.key ∧
      ∀ entry ∈ entries, Key.parse entry.text = .ok entry.key := by
  induction h with
  | nil => exact ⟨[], rfl, rfl, by simp⟩
  | @cons pair key pairs keys hkey _ ih =>
    obtain ⟨entries, rfl, rfl, hentries⟩ := ih
    exact ⟨⟨pair.1, key, pair.2⟩ :: entries, rfl, rfl, List.forall_mem_cons.2 ⟨hkey, hentries⟩⟩

/-- The key of a pair gives the rule's base value and radix, and its body the rule itself. -/
def Compiles (name : String) (options : Options) (keys : List Key) (pair : String × String)
    (rule : Rule) : Prop :=
  Key.parse pair.1 = .ok rule.key ∧
    Rule.compile pair.2 (contextIn name options keys rule.key) = .ok rule

theorem compiles_of_gives {name : String} {options : Options} {entries : List Entry}
    {rules : List Rule} (hkeys : ∀ entry ∈ entries, Key.parse entry.text = .ok entry.key)
    (h : List.Forall₂ (Entry.Gives (dropPercents name) options (isFractionSet entries))
      entries rules) :
    List.Forall₂ (Compiles name options (rules.map Rule.key)) (entries.map Entry.pair) rules := by
  rw [map_key_of_gives h, List.forall₂_map_left_iff]
  refine ((List.forall₂_and_left _ _).2 ⟨hkeys, h⟩).imp ?_
  rintro entry rule ⟨hkey, hgives⟩
  rw [Compiles, hgives.key_eq, ← Entry.context_eq]
  exact ⟨hkey, hgives⟩

/-- A list of pairs compiles if its keys can be read, are for different base values, and each body
compiles in the context that the keys give it. -/
theorem exists_compile_iff {name : String} {options : Options} {pairs : List (String × String)} :
    (∃ set, compile name options pairs = .ok set) ↔
      ∃ keys, List.Forall₂ (fun pair key => Key.parse pair.1 = .ok key) pairs keys ∧
        (keys.map Key.base).Nodup ∧
        List.Forall₂ (fun pair key => ∃ rule,
          Rule.compile pair.2 (contextIn name options keys key) = .ok rule) pairs keys := by
  constructor
  · rintro ⟨set, hset⟩
    obtain ⟨entries, rules, hentries, hrules, rfl⟩ := compile_eq_ok_iff.1 hset
    obtain ⟨rfl, hkeys, hnodup, -⟩ := entriesFrom_eq_ok_iff.1 hentries
    refine ⟨entries.map Entry.key, ?_, ?_, ?_⟩
    · rw [List.forall₂_map_left_iff, List.forall₂_map_right_iff, List.forall₂_same]
      exact hkeys
    · rwa [List.map_map]
    · rw [List.forall₂_map_left_iff, List.forall₂_map_right_iff, List.forall₂_same]
      intro entry hentry
      rw [← Entry.context_eq]
      exact exists_forall₂_iff.1 ⟨rules, hrules⟩ entry hentry
  · rintro ⟨keys, hparse, hnodup, hcompile⟩
    obtain ⟨entries, rfl, rfl, hkeys⟩ := exists_entries hparse
    rw [List.map_map] at hnodup
    rw [List.forall₂_map_left_iff, List.forall₂_map_right_iff, List.forall₂_same] at hcompile
    simp only [← Entry.context_eq] at hcompile
    obtain ⟨rules, hrules⟩ := exists_forall₂_iff.2 hcompile
    exact ⟨_, compile_map_pair hkeys hnodup hrules⟩

theorem mem_dependsOn_iff_rules {set : RuleSet} {r : String} :
    r ∈ set.dependsOn ↔ ∃ rule ∈ set.rules, r ∈ rule.dependsOn := by
  rw [mem_dependsOn]
  simp only [Rule.dependsOn, Std.ExtTreeSet.mem_ofList, List.contains_iff_mem]

/-- Nothing is lost in compiling, and nothing is added. -/
theorem compile_keeps_pairs (name : String) (options : Options) (pairs : List (String × String)) :
    ((∃ set, compile name options pairs = .ok set) ↔
      ∃ keys, List.Forall₂ (fun pair key => Key.parse pair.1 = .ok key) pairs keys ∧
        (keys.map Key.base).Nodup ∧
        List.Forall₂ (fun pair key => ∃ rule,
          Rule.compile pair.2 (contextIn name options keys key) = .ok rule) pairs keys) ∧
    (∀ text key n, Key.parse text = .ok key → (key.base = .number n ↔ Key.Writes text n.toNat)) ∧
    ∀ set, compile name options pairs = .ok set →
      set.WellFormed ∧ set.name = dropPercents name ∧
      (∀ r, r ∈ set.dependsOn ↔ ∃ rule ∈ set.rules, r ∈ rule.dependsOn) ∧
      ∃ rules, set.rules.Perm rules ∧
        List.Forall₂ (Compiles name options (rules.map Rule.key)) pairs rules := by
  refine ⟨exists_compile_iff, fun text key n h => Key.base_eq_number_iff h, ?_⟩
  intro set hset
  obtain ⟨entries, rules, hentries, hrules, rfl⟩ := compile_eq_ok_iff.1 hset
  obtain ⟨rfl, hkeys, hnodup, -⟩ := entriesFrom_eq_ok_iff.1 hentries
  rw [← map_base_of_gives hrules] at hnodup
  exact ⟨wellFormed_arrange name hnodup, rfl, fun r => mem_dependsOn_iff_rules, rules,
    List.mergeSort_perm rules _, compiles_of_gives hkeys hrules⟩

def counts : RuleSet where
  name := "counts"
  rules := [
    ⟨.negative, 10, 1, [.part (.literal "below zero")]⟩,
    ⟨.number 1000, 10, 1000, [.part (.literal "many")]⟩,
    ⟨.number 0, 10, 1, [.part (.literal "few")]⟩]

theorem compile_counts :
    compile "%counts" {} [("0", "few;"), ("1,000", "many;"), ("-x", "below zero;")] =
      .ok counts := by
  cbv

/-- However a base value is written, a second key for it is refused. -/
theorem counts_wellFormed :
    compile "%counts" {} [("0", "few;"), ("1,000", "many;"), ("-x", "below zero;")] = .ok counts ∧
      counts.WellFormed ∧
      ¬∃ set, compile "%counts" {} [("1,000", "many;"), (" 01000 / 20", "more;")] = .ok set := by
  have hgrouped : Key.parse "1,000" = .ok ⟨.number 1000, 10⟩ := by cbv
  have hradix : Key.parse " 01000 / 20" = .ok ⟨.number 1000, 20⟩ := by cbv
  refine ⟨compile_counts, ((compile_keeps_pairs _ _ _).2.2 counts compile_counts).1, ?_⟩
  rw [(compile_keeps_pairs _ _ _).1]
  rintro ⟨keys, hparse, hnodup, -⟩
  obtain _ | ⟨hfirst, _ | ⟨hsecond, -⟩⟩ := hparse
  rw [hgrouped] at hfirst
  rw [hradix] at hsecond
  cases hfirst
  cases hsecond
  simp at hnodup

end RuleSet

end NumberRules.Spelling
