import Mathlib
import NumberRules.Proofs.Spelling.RuleSets

/-! # The order in which rules are written

Compiling reads the pairs of a rule set from first to last, but what comes out does not depend on
their order.  Keys are refused or repeated in any order alike, every rule is compiled in a context
that the pairs as a whole determine, and since base values are all different there is one way only
to arrange the rules by their places.
-/

namespace NumberRules.Spelling
set_option autoImplicit false

/-! ## Places -/

theorem BaseValue.place_injective : Function.Injective BaseValue.place := by
  intro a b h
  cases a with
  | number n =>
    have hn := n.toNat_lt_size
    cases b with
    | number m =>
      have hm := m.toNat_lt_size
      simp only [place] at h
      have heq : n.toNat = m.toNat := by omega
      rw [UInt64.toNat_inj.1 heq]
    | _ =>
      simp only [place] at h
      omega
  | _ =>
    cases b with
    | number m =>
      have hm := m.toNat_lt_size
      simp only [place] at h
      omega
    | _ =>
      revert h
      decide

/-- The key that a rule stands under. -/
def Rule.key (rule : Rule) : Key := ⟨rule.base, rule.radix⟩

namespace RuleSet

theorem arrange_eq_of_perm {rules rules' : List Rule} (h : rules.Perm rules')
    (hnodup : (rules.map Rule.base).Nodup) : arrange rules = arrange rules' := by
  have hperm : (arrange rules).Perm (arrange rules') :=
    (List.mergeSort_perm rules _).trans (h.trans (List.mergeSort_perm rules' _).symm)
  refine hperm.eq_of_pairwise ?_ (pairwise_arrange rules) (pairwise_arrange rules')
  intro a b ha hb hab hba
  have hbase : a.base = b.base := BaseValue.place_injective (Nat.le_antisymm hab hba)
  have hb' := h.mem_iff.2 (mem_arrange.1 hb)
  exact List.inj_on_of_nodup_map hnodup (mem_arrange.1 ha) hb' hbase

/-! ## Entries -/

theorem entriesFrom_eq_ok_iff {name : String} {seen : List BaseValue}
    {pairs : List (String × String)} {entries : List Entry} :
    entriesFrom name seen pairs = .ok entries ↔ pairs = entries.map Entry.pair ∧
      (∀ entry ∈ entries, Key.parse entry.text = .ok entry.key) ∧
      (entries.map (·.key.base)).Nodup ∧ ∀ entry ∈ entries, entry.key.base ∉ seen := by
  constructor
  · intro h
    induction pairs generalizing seen entries with
    | nil =>
      cases h
      simp
    | cons pair pairs ih =>
      obtain ⟨key, hkey, h⟩ := bind_eq_ok_iff.1 h
      split at h
      · cases h
      · rename_i hfresh
        obtain ⟨rest, hrest, h⟩ := bind_eq_ok_iff.1 h
        cases h
        obtain ⟨hpairs, hkeys, hnodup, hseen⟩ := ih hrest
        have hnew : ∀ entry ∈ rest, entry.key.base ≠ key.base ∧ entry.key.base ∉ seen := by
          intro entry hentry
          simpa [not_or] using hseen entry hentry
        refine ⟨?_, ?_, ?_, ?_⟩
        · rw [List.map_cons, ← hpairs, Entry.pair]
        · rw [List.forall_mem_cons]
          exact ⟨mapError_eq_ok_iff.1 hkey, hkeys⟩
        · refine List.nodup_cons.2 ⟨?_, hnodup⟩
          intro hmem
          obtain ⟨entry, hentry, hbase⟩ := List.mem_map.1 hmem
          exact (hnew entry hentry).1 hbase
        · rw [List.forall_mem_cons]
          refine ⟨?_, fun entry hentry => (hnew entry hentry).2⟩
          simpa using hfresh
  · rintro ⟨rfl, hkeys, hnodup, hseen⟩
    exact entriesFrom_map_pair hkeys hnodup hseen

theorem exists_entriesFrom_of_perm {name : String} {pairs pairs' : List (String × String)}
    {entries : List Entry} (h : pairs'.Perm pairs)
    (hentries : entriesFrom name [] pairs = .ok entries) :
    ∃ entries', entriesFrom name [] pairs' = .ok entries' ∧ entries'.Perm entries := by
  obtain ⟨rfl, hkeys, hnodup, -⟩ := entriesFrom_eq_ok_iff.1 hentries
  have hcomp : Relation.Comp (· = List.map Entry.pair ·) List.Perm pairs' entries := by
    rw [List.eq_map_comp_perm]
    exact h
  obtain ⟨entries', hpairs', hperm⟩ := hcomp
  refine ⟨entries', entriesFrom_eq_ok_iff.2 ⟨hpairs', ?_, ?_, ?_⟩, hperm⟩
  · exact fun entry hentry => hkeys entry (hperm.mem_iff.1 hentry)
  · exact (hperm.map _).nodup_iff.2 hnodup
  · exact fun entry _ => List.not_mem_nil

theorem isFractionSet_eq_of_perm {entries entries' : List Entry} (h : entries'.Perm entries) :
    isFractionSet entries' = isFractionSet entries := by
  rw [isFractionSet, isFractionSet, h.isEmpty_eq, h.all_eq]

/-! ## Rules -/

theorem Entry.Gives.key_eq {name : String} {options : Options} {fractionSet : Bool} {entry : Entry}
    {rule : Rule} (h : entry.Gives name options fractionSet rule) : rule.key = entry.key := by
  obtain ⟨-, nodes, -, rfl⟩ := Rule.compile_eq_ok_iff.1 h
  rfl

section Gives
variable {name : String} {options : Options} {fractionSet : Bool} {entries : List Entry}
  {rules : List Rule}

theorem map_key_of_gives (h : List.Forall₂ (Entry.Gives name options fractionSet) entries rules) :
    rules.map Rule.key = entries.map Entry.key := by
  induction h with
  | nil => rfl
  | cons hgives _ ih => rw [List.map_cons, List.map_cons, ih, hgives.key_eq]

theorem map_base_of_gives (h : List.Forall₂ (Entry.Gives name options fractionSet) entries rules) :
    rules.map Rule.base = entries.map (·.key.base) := by
  have hbases := congrArg (List.map Key.base) (map_key_of_gives h)
  rwa [List.map_map, List.map_map] at hbases

end Gives

/-! ## Sets -/

theorem compile_of_perm {name : String} {options : Options} {pairs pairs' : List (String × String)}
    {set : RuleSet} (h : pairs'.Perm pairs) (hset : compile name options pairs = .ok set) :
    compile name options pairs' = .ok set := by
  obtain ⟨entries, rules, hentries, hrules, rfl⟩ := compile_eq_ok_iff.1 hset
  obtain ⟨entries', hentries', hperm⟩ := exists_entriesFrom_of_perm h hentries
  obtain ⟨rules', hrules', hpermrules⟩ := List.perm_comp_forall₂ hperm hrules
  have hnodup : (rules'.map Rule.base).Nodup := by
    rw [map_base_of_gives hrules']
    exact (entriesFrom_eq_ok_iff.1 hentries').2.2.1
  rw [← isFractionSet_eq_of_perm hperm] at hrules'
  refine compile_eq_ok_iff.2 ⟨entries', rules', hentries', hrules', ?_⟩
  rw [arrange_eq_of_perm hpermrules hnodup]

/-- Two orders of the same pairs are both refused, or both give the same rule set. -/
theorem compile_perm (name : String) (options : Options) {pairs pairs' : List (String × String)}
    (h : pairs.Perm pairs') :
    (∃ e e', compile name options pairs = .error e ∧ compile name options pairs' = .error e') ∨
      ∃ set, compile name options pairs = .ok set ∧ compile name options pairs' = .ok set := by
  cases hset : compile name options pairs with
  | ok set => exact .inr ⟨set, rfl, compile_of_perm h.symm hset⟩
  | error e =>
    cases hset' : compile name options pairs' with
    | ok set' =>
      rw [compile_of_perm h hset'] at hset
      cases hset
    | error e' => exact .inl ⟨e, e', rfl, rfl⟩

def parts : RuleSet where
  name := "parts"
  rules := [
    ⟨.improper, 10, 1, [.part (.substitution .less .integerPart (.ruleSet "whole"))]⟩,
    ⟨.proper, 10, 1, [.part (.literal "part")]⟩]

theorem compile_parts :
    compile "parts" ⟨"whole"⟩ [("x.x", "<<;"), ("0.x", "part;")] = .ok parts := by
  cbv

theorem compile_twice : compile "tens" {} [("10", "ten;"), ("1,0", "ten;")] =
    .error (.duplicateRule "tens" "1,0") := by
  cbv

/-- The rules for fractions that make `<<` leave the set may stand in either order; a repeated base
value is refused in either order, though another pair is blamed then. -/
theorem compile_parts_reversed :
    [("x.x", "<<;"), ("0.x", "part;")].Perm [("0.x", "part;"), ("x.x", "<<;")] ∧
      compile "parts" ⟨"whole"⟩ [("0.x", "part;"), ("x.x", "<<;")] = .ok parts ∧
      [("10", "ten;"), ("1,0", "ten;")].Perm [("1,0", "ten;"), ("10", "ten;")] ∧
      ∃ e, compile "tens" {} [("1,0", "ten;"), ("10", "ten;")] = .error e := by
  have hparts : [("x.x", "<<;"), ("0.x", "part;")].Perm [("0.x", "part;"), ("x.x", "<<;")] :=
    .swap _ _ _
  have htwice : [("10", "ten;"), ("1,0", "ten;")].Perm [("1,0", "ten;"), ("10", "ten;")] :=
    .swap _ _ _
  refine ⟨hparts, ?_, htwice, ?_⟩
  · rcases compile_perm "parts" ⟨"whole"⟩ hparts with ⟨e, -, he, -⟩ | ⟨set, hset, hset'⟩
    · rw [compile_parts] at he
      cases he
    · rw [compile_parts] at hset
      rw [hset', ← hset]
  · rcases compile_perm "tens" {} htwice with ⟨-, e', -, he'⟩ | ⟨set, hset, -⟩
    · exact ⟨e', he'⟩
    · rw [compile_twice] at hset
      cases hset

end RuleSet

end NumberRules.Spelling
