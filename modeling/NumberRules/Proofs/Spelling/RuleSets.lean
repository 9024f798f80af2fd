import Mathlib
import NumberRules.Spelling.RuleSet
import NumberRules.Proofs.Except
import NumberRules.Proofs.Double.Whole

/-! # What compiling a rule set gives, and which rule is chosen

`entriesFrom` and `compile` succeed exactly if each key and each body does, and then the set holds
one rule for each pair.  Among numeric rules the one that spells a number is the reaching rule that
comes first in listings; the sorted order makes it the one with the largest base value.
-/

namespace NumberRules.Spelling
set_option autoImplicit false

/-! ## Rules -/

theorem Rule.compile_eq_ok_iff {body : String} {context : RuleContext} {rule : Rule} :
    Rule.compile body context = .ok rule ↔ ¬context.radix < 2 ∧
      ∃ nodes, context.nodes body = .ok nodes ∧
        rule = ⟨context.base, context.radix, context.divisor, nodes⟩ := by
  unfold Rule.compile
  split
  · rename_i hradix
    simp [hradix]
  · rename_i hradix
    cases hnodes : context.nodes body with
    | error fault => simp
    | ok nodes =>
      simp only [Except.ok.injEq, exists_eq_left']
      exact ⟨fun h => ⟨hradix, h.symm⟩, fun h => h.2.symm⟩

namespace RuleSet

/-! ## Entries -/

/-- The pair that an entry is read from. -/
def Entry.pair (entry : Entry) : String × String := (entry.text, entry.body)

/-- Entries with different base values are read from their pairs. -/
theorem entriesFrom_map_pair {name : String} {seen : List BaseValue} {entries : List Entry}
    (hkeys : ∀ entry ∈ entries, Key.parse entry.text = .ok entry.key)
    (hnodup : (entries.map (·.key.base)).Nodup)
    (hseen : ∀ entry ∈ entries, entry.key.base ∉ seen) :
    entriesFrom name seen (entries.map Entry.pair) = .ok entries := by
  induction entries generalizing seen with
  | nil => rfl
  | cons entry entries ih =>
    obtain ⟨hfresh, hnodup⟩ := List.nodup_cons.1 hnodup
    have hkey := hkeys entry List.mem_cons_self
    have hnot : seen.contains entry.key.base = false := by
      simpa using hseen entry List.mem_cons_self
    have hrest : ∀ other ∈ entries, other.key.base ∉ entry.key.base :: seen := by
      intro other hother
      rw [List.mem_cons, not_or]
      refine ⟨?_, hseen other (List.mem_cons_of_mem _ hother)⟩
      intro heq
      exact hfresh (List.mem_map.2 ⟨other, hother, heq⟩)
    have htail := ih (fun other h => hkeys other (List.mem_cons_of_mem _ h)) hnodup hrest
    rw [List.map_cons, Entry.pair, entriesFrom, hkey]
    simp only [Except.mapError, bind_ok, hnot, Bool.false_eq_true, if_false, htail]

theorem isFractionSet_eq_false {entries : List Entry}
    (h : ∀ entry ∈ entries, entry.key.base.isFraction = false) : isFractionSet entries = false := by
  cases entries with
  | nil => rfl
  | cons entry entries =>
    have hentry := h entry List.mem_cons_self
    simp [isFractionSet, hentry]

/-! ## Sets -/

/-- An entry gives a rule in its context. -/
def Entry.Gives (name : String) (options : Options) (fractionSet : Bool) (entry : Entry)
    (rule : Rule) : Prop :=
  Rule.compile entry.body (entry.context name options fractionSet) = .ok rule

/-- Compiling without a cache, in the monad of errors alone. -/
theorem compile_eq (name : String) (options : Options) (pairs : List (String × String)) :
    compile name options pairs = (do
      let entries ← entriesFrom (dropPercents name) [] pairs
      let rules ← entries.mapM fun entry =>
        (Rule.compile entry.body (entry.context (dropPercents name) options
          (isFractionSet entries))).mapError (.inSpellingRule (dropPercents name) entry.text)
      .ok ⟨dropPercents name, arrange rules⟩) := by
  rw [compile, compileM, run_bind]
  refine bind_congr fun entries => ?_
  rw [run_bind, run_mapM]
  rfl

/-- A list of pairs gives a set if it gives entries and each of them gives a rule. -/
theorem compile_eq_ok_iff {name : String} {options : Options} {pairs : List (String × String)}
    {set : RuleSet} :
    compile name options pairs = .ok set ↔
      ∃ entries rules, entriesFrom (dropPercents name) [] pairs = .ok entries ∧
        List.Forall₂ (Entry.Gives (dropPercents name) options (isFractionSet entries))
          entries rules ∧
        set = ⟨dropPercents name, arrange rules⟩ := by
  rw [compile_eq, bind_eq_ok_iff]
  simp only [bind_eq_ok_iff, mapM_eq_ok_iff, mapError_eq_ok_iff, Except.ok.injEq]
  constructor
  · rintro ⟨entries, hentries, rules, hrules, hset⟩
    exact ⟨entries, rules, hentries, hrules, hset.symm⟩
  · rintro ⟨entries, rules, hentries, hrules, hset⟩
    exact ⟨entries, hentries, rules, hrules, hset.symm⟩

/-- A set of entries that give rules holds these rules. -/
theorem compile_map_pair {name : String} {options : Options} {entries : List Entry}
    {rules : List Rule}
    (hkeys : ∀ entry ∈ entries, Key.parse entry.text = .ok entry.key)
    (hnodup : (entries.map (·.key.base)).Nodup)
    (hrules : List.Forall₂ (Entry.Gives (dropPercents name) options (isFractionSet entries))
      entries rules) :
    compile name options (entries.map Entry.pair) = .ok ⟨dropPercents name, arrange rules⟩ := by
  have hentries : entriesFrom (dropPercents name) [] (entries.map Entry.pair) = .ok entries :=
    entriesFrom_map_pair hkeys hnodup fun entry _ => List.not_mem_nil
  exact compile_eq_ok_iff.2 ⟨entries, rules, hentries, hrules, rfl⟩

theorem mem_arrange {rules : List Rule} {rule : Rule} : rule ∈ arrange rules ↔ rule ∈ rules := by
  rw [arrange, List.mem_mergeSort]

/-- Every rule of a compiled set comes from an entry. -/
theorem exists_gives_of_compile {name : String} {options : Options}
    {pairs : List (String × String)} {set : RuleSet} (h : compile name options pairs = .ok set)
    {rule : Rule} (hrule : rule ∈ set.rules) :
    ∃ fractionSet entry, Entry.Gives (dropPercents name) options fractionSet entry rule := by
  obtain ⟨entries, rules, -, hrules, rfl⟩ := compile_eq_ok_iff.1 h
  obtain ⟨entry, -, hgives⟩ := exists_of_forall₂ hrules (mem_arrange.1 hrule)
  exact ⟨_, entry, hgives⟩

theorem mem_dependsOn {set : RuleSet} {name : String} :
    name ∈ set.dependsOn ↔ ∃ rule ∈ set.rules, name ∈ rule.references := by
  rw [dependsOn, Std.ExtTreeSet.mem_ofList, List.contains_iff_mem, List.mem_flatMap]

/-! ## The order of rules -/

theorem pairwise_arrange (rules : List Rule) :
    (arrange rules).Pairwise fun a b => a.base.place ≤ b.base.place := by
  have hsorted : (arrange rules).Pairwise fun a b =>
      decide (a.base.place ≤ b.base.place) = true := by
    apply List.pairwise_mergeSort
    · intro a b c hab hbc
      simp only [decide_eq_true_eq] at hab hbc ⊢
      exact Nat.le_trans hab hbc
    · intro a b
      simp only [Bool.or_eq_true, decide_eq_true_eq]
      exact Nat.le_total _ _
  exact hsorted.imp of_decide_eq_true

/-- The first rule of a property is the one with the least place among those that have it. -/
theorem find?_arrange {rules : List Rule} {rule : Rule} {p : Rule → Bool} (hmem : rule ∈ rules)
    (hp : p rule = true)
    (hleast : ∀ other ∈ rules, p other = true → other ≠ rule → rule.base.place < other.base.place) :
    (arrange rules).find? p = some rule := by
  obtain ⟨found, hfound⟩ : ∃ found, (arrange rules).find? p = some found := by
    rw [← Option.isSome_iff_exists, List.find?_isSome]
    exact ⟨rule, mem_arrange.2 hmem, hp⟩
  obtain ⟨hpfound, before, after, hsplit, hbefore⟩ := List.find?_eq_some_iff_append.1 hfound
  have hfoundmem : found ∈ rules := mem_arrange.1 (List.mem_of_find?_eq_some hfound)
  by_cases heq : found = rule
  · rw [hfound, heq]
  · have hlt := hleast found hfoundmem hpfound heq
    have hrule : rule ∈ before ++ found :: after := hsplit ▸ mem_arrange.2 hmem
    have hsorted := hsplit ▸ pairwise_arrange rules
    rcases List.mem_append.1 hrule with hin | hin
    · have hnot := hbefore rule hin
      rw [hp] at hnot
      simp at hnot
    · rcases List.mem_cons.1 hin with hhead | htail
      · exact absurd hhead.symm heq
      · have hle := (List.pairwise_cons.1 (List.pairwise_append.1 hsorted).2.1).1 rule htail
        omega

/-! ## Choosing a rule -/

theorem mem_of_ruleFor {set : RuleSet} {rule : Rule} {x : Double}
    (h : set.ruleFor x = some rule) : rule ∈ set.rules := by
  unfold ruleFor at h
  split at h
  · exact List.mem_of_find?_eq_some h
  · split at h
    · rename_i found hfound
      obtain ⟨base, -, hbase⟩ := List.exists_of_findSome?_eq_some hfound
      rw [← Option.some.inj h]
      exact List.mem_of_find?_eq_some hbase
    · exact List.mem_of_find?_eq_some h

/-! ## Choosing a rule for a natural number -/

/-- Special rules are not for natural numbers. -/
theorem candidates_ofNat (set : RuleSet) {n : Nat} (hn : n < 2 ^ 53) :
    set.candidates (.ofNat n) = [] := by
  have hfractional : set.isFractional (.ofNat n) = false := by
    rw [isFractional, Double.isWhole_ofNat hn]
    simp
  have hproper : isProper (.ofNat n) = false := by
    rw [isProper, Double.zero_eq_ofNat, Double.lt_ofNat (by norm_num) hn,
      Double.lt_ofNat hn (by norm_num), ← Bool.decide_and]
    exact decide_eq_false (by omega)
  have hinf : Double.ofNat n ≠ .inf false := by
    rw [Double.ofNat_eq hn]
    simp
  simp [candidates, isImproper, hfractional, hproper, hinf, Double.isNegative_ofNat hn]

/-- A natural number is spelled by the first numeric rule that reaches it. -/
theorem ruleFor_ofNat (set : RuleSet) {n : Nat} (hn : n < 2 ^ 53) :
    set.ruleFor (.ofNat n) = set.rules.find? (reaches (.ofNat n)) := by
  rw [ruleFor, if_neg (Double.ofNat_ne_nan hn), candidates_ofNat set hn]
  rfl

theorem exists_base_of_ruleFor {set : RuleSet} {n : Nat} (hn : n < 2 ^ 53) {rule : Rule}
    (h : set.ruleFor (.ofNat n) = some rule) :
    ∃ b : UInt64, rule.base = .number b ∧ b.toNat ≤ n := by
  rw [ruleFor_ofNat set hn] at h
  have hreaches := List.find?_some h
  unfold reaches at hreaches
  split at hreaches
  · rename_i b hbase
    exact ⟨b, hbase, Double.le_of_ofNat_le hn hreaches⟩
  · cases hreaches

theorem reaches_ofNat {n : Nat} {b : UInt64} {rule : Rule} (hbase : rule.base = .number b)
    (hb : b.toNat < 2 ^ 53) (hn : n < 2 ^ 53) :
    reaches (.ofNat n) rule = decide (b.toNat ≤ n) := by
  unfold reaches
  rw [hbase]
  exact Double.le_ofNat hb hn

theorem place_number_lt {a b : UInt64} (h : a.toNat < b.toNat) :
    (BaseValue.number b).place < (BaseValue.number a).place := by
  have hb := b.toNat_lt_size
  simp only [BaseValue.place]
  omega

end RuleSet

end NumberRules.Spelling
