import Mathlib
import NumberRules.Proofs.Spelling.Legality
import NumberRules.Proofs.Spelling.RuleOrder

/-! # Which pair is blamed

All keys of a rule set are read before the first body is compiled, so an error names the first pair
whose key is at fault and only without such a pair the first one whose body is refused.  That is the
first pair at fault unless a body in front of it is refused.
-/

namespace NumberRules
set_option autoImplicit false

/-- The key that an error of a rule set names. -/
def CompileError.ruleKey? : CompileError → Option String
  | duplicateRule _ key | inSpellingRule _ key _ => some key
  | _ => none

namespace Spelling

theorem Rule.exists_compile_congr {body : String} {context context' : RuleContext}
    (hbase : context.base = context'.base) (hradix : context.radix = context'.radix) :
    (∃ rule, Rule.compile body context = .ok rule) ↔
      ∃ rule, Rule.compile body context' = .ok rule := by
  rw [exists_compile_iff, exists_compile_iff, hbase, hradix]

namespace RuleSet

/-! ## Faults -/

/-- The key of a pair cannot be read, or denotes the base value of a pair before. -/
inductive KeyFault (before : List (String × String)) (pair : String × String) : Prop
  | unread (h : ∀ key, Key.parse pair.1 ≠ .ok key)
  | repeated {key otherKey : Key} {other : String × String} (hkey : Key.parse pair.1 = .ok key)
      (hmem : other ∈ before) (hother : Key.parse other.1 = .ok otherKey)
      (hbase : otherKey.base = key.base)

/-- The body of a pair gives no rule for its base value and radix, in whatever set it stands. -/
def BodyFault (pair : String × String) : Prop :=
  ∃ key, Key.parse pair.1 = .ok key ∧ ∀ context : RuleContext,
    context.base = key.base → context.radix = key.radix →
      ¬∃ rule, Rule.compile pair.2 context = .ok rule

def AtFault (before : List (String × String)) (pair : String × String) : Prop :=
  KeyFault before pair ∨ BodyFault pair

/-- No pair of the list has the fault after the pairs before it. -/
def FreeOf (fault : List (String × String) → String × String → Prop)
    (pairs : List (String × String)) : Prop :=
  ∀ before pair after, pairs = before ++ pair :: after → ¬fault before pair

theorem FreeOf.front {fault : List (String × String) → String × String → Prop}
    {front back : List (String × String)} (h : FreeOf fault (front ++ back)) :
    FreeOf fault front := by
  rintro before pair after rfl
  exact h before pair (after ++ back) (by simp)

/-! ## Keys -/

variable {name : String} {options : Options} {pairs : List (String × String)} {e : CompileError}

/-- Keys that are read are free of faults. -/
theorem free_keyFault {entries : List Entry} (h : entriesFrom name [] pairs = .ok entries) :
    FreeOf KeyFault pairs := by
  obtain ⟨rfl, hkeys, hnodup, -⟩ := entriesFrom_eq_ok_iff.1 h
  intro before pair after hsplit
  obtain ⟨front, rest, rfl, rfl, hrest⟩ := List.map_eq_append_iff.1 hsplit
  obtain ⟨entry, back, rfl, rfl, rfl⟩ := List.map_eq_cons_iff.1 hrest
  have hentry := hkeys entry (by simp)
  rintro (hunread | @⟨key, otherKey, _, hkey, hmem, hother, hbase⟩)
  · exact hunread _ hentry
  · obtain ⟨other, hfront, rfl⟩ := List.mem_map.1 hmem
    have hread := hkeys other (List.mem_append_left _ hfront)
    rw [Entry.pair, hread] at hother
    rw [Entry.pair, hentry] at hkey
    cases hother
    cases hkey
    rw [List.map_append, List.nodup_append] at hnodup
    exact hnodup.2.2 _ (List.mem_map_of_mem hfront) _ (List.mem_map_of_mem List.mem_cons_self) hbase

/-- Reading stops at a key that cannot be read or whose base value has been seen. -/
theorem exists_of_entriesFrom_eq_error {seen : List BaseValue}
    (h : entriesFrom name seen pairs = .error e) :
    ∃ before pair after entries, pairs = before ++ pair :: after ∧
      entriesFrom name seen before = .ok entries ∧ e.ruleKey? = some pair.1 ∧
      ∀ key, Key.parse pair.1 = .ok key →
        key.base ∈ seen ∨ ∃ entry ∈ entries, entry.key.base = key.base := by
  induction pairs generalizing seen with
  | nil => cases h
  | cons pair pairs ih =>
    rcases bind_eq_error_iff.1 h with hunread | ⟨key, hkey, h⟩
    · obtain ⟨source, hsource, rfl⟩ := mapError_eq_error_iff.1 hunread
      refine ⟨[], pair, pairs, [], rfl, rfl, rfl, ?_⟩
      intro key hkey
      rw [hsource] at hkey
      cases hkey
    · have hread := mapError_eq_ok_iff.1 hkey
      split at h
      · rename_i hseen
        cases h
        refine ⟨[], pair, pairs, [], rfl, rfl, rfl, ?_⟩
        intro key' hkey'
        rw [hread] at hkey'
        cases hkey'
        exact .inl (by simpa using hseen)
      · rename_i hfresh
        rcases bind_eq_error_iff.1 h with hrest | ⟨entries, -, hpure⟩
        · obtain ⟨before, blamed, after, entries, rfl, hbefore, hnames, hrepeats⟩ := ih hrest
          refine ⟨pair :: before, blamed, after, ⟨pair.1, key, pair.2⟩ :: entries, rfl, ?_, hnames,
            ?_⟩
          · rw [entriesFrom, hkey, bind_ok, if_neg hfresh, hbefore]
            rfl
          · intro key' hkey'
            rcases hrepeats key' hkey' with hmem | ⟨entry, hentry, hbase⟩
            · rcases List.mem_cons.1 hmem with heq | hseen
              · exact .inr ⟨_, List.mem_cons_self, heq.symm⟩
              · exact .inl hseen
            · exact .inr ⟨entry, List.mem_cons_of_mem _ hentry, hbase⟩
        · cases hpure

theorem keyFault_of_entriesFrom (h : entriesFrom name [] pairs = .error e) :
    ∃ before pair after, pairs = before ++ pair :: after ∧ e.ruleKey? = some pair.1 ∧
      KeyFault before pair ∧ FreeOf KeyFault before := by
  obtain ⟨before, pair, after, entries, rfl, hentries, hnames, hrepeats⟩ :=
    exists_of_entriesFrom_eq_error h
  refine ⟨before, pair, after, rfl, hnames, ?_, free_keyFault hentries⟩
  cases hkey : Key.parse pair.1 with
  | error source =>
    refine .unread fun key hread => ?_
    rw [hkey] at hread
    cases hread
  | ok key =>
    obtain ⟨rfl, hkeys, -, -⟩ := entriesFrom_eq_ok_iff.1 hentries
    rcases hrepeats key hkey with hseen | ⟨entry, hentry, hbase⟩
    · cases hseen
    · exact .repeated hkey (List.mem_map_of_mem hentry) (hkeys entry hentry) hbase

/-! ## Bodies -/

theorem Entry.bodyFault_iff {entry : Entry} (hkey : Key.parse entry.text = .ok entry.key)
    (fractionSet : Bool) :
    BodyFault entry.pair ↔ ¬∃ rule, entry.Gives name options fractionSet rule := by
  constructor
  · rintro ⟨key, hread, hrefused⟩
    rw [Entry.pair, hkey] at hread
    cases hread
    exact hrefused _ rfl rfl
  · intro hrefused
    refine ⟨entry.key, hkey, fun context hbase hradix hrule => hrefused ?_⟩
    exact (Rule.exists_compile_congr hbase hradix).1 hrule

theorem bodyFault_of_mapM {entries : List Entry}
    (hkeys : ∀ entry ∈ entries, Key.parse entry.text = .ok entry.key) (fractionSet : Bool)
    (h : (entries.mapM fun entry => (Rule.compile entry.body
      (entry.context name options fractionSet)).mapError (.inSpellingRule name entry.text)) =
        .error e) :
    ∃ before pair after, entries.map Entry.pair = before ++ pair :: after ∧
      e.ruleKey? = some pair.1 ∧ BodyFault pair ∧ ∀ other ∈ before, ¬BodyFault other := by
  obtain ⟨front, entry, back, rfl, hfront, hentry⟩ := exists_of_mapM_eq_error h
  obtain ⟨source, hsource, rfl⟩ := mapError_eq_error_iff.1 hentry
  refine ⟨front.map Entry.pair, entry.pair, back.map Entry.pair, ?_, rfl, ?_, ?_⟩
  · rw [List.map_append, List.map_cons]
  · rw [Entry.bodyFault_iff (hkeys entry (by simp)) fractionSet]
    rintro ⟨rule, hrule⟩
    rw [Entry.Gives, hsource] at hrule
    cases hrule
  · intro other hother
    obtain ⟨other, hmem, rfl⟩ := List.mem_map.1 hother
    rw [Entry.bodyFault_iff (hkeys other (List.mem_append_left _ hmem)) fractionSet, not_not]
    obtain ⟨rule, hrule⟩ := hfront other hmem
    exact ⟨rule, mapError_eq_ok_iff.1 hrule⟩

/-- Where no key is at fault, the pairs at fault are those with refused bodies. -/
theorem free_atFault_iff {before : List (String × String)} (h : FreeOf KeyFault before) :
    FreeOf AtFault before ↔ ∀ other ∈ before, ¬BodyFault other := by
  constructor
  · intro hfree other hother hrefused
    obtain ⟨front, back, rfl⟩ := List.append_of_mem hother
    exact hfree front other back rfl (.inr hrefused)
  · rintro hbodies front other back rfl (hkey | hrefused)
    · exact h front other back rfl hkey
    · exact hbodies other (by simp) hrefused

/-- The pair that is blamed has the first fault of all keys or, if they have none, of all bodies; it
is the first pair at fault exactly if no body before it is refused. -/
theorem compile_error_blames (h : compile name options pairs = .error e) :
    ∃ before pair after, pairs = before ++ pair :: after ∧ e.ruleKey? = some pair.1 ∧
      (KeyFault before pair ∧ FreeOf KeyFault before ∨
        BodyFault pair ∧ FreeOf KeyFault pairs ∧ ∀ other ∈ before, ¬BodyFault other) ∧
      (FreeOf AtFault before ↔ ∀ other ∈ before, ¬BodyFault other) := by
  rw [compile_eq] at h
  rcases bind_eq_error_iff.1 h with hkeys | ⟨entries, hentries, hcompile⟩
  · obtain ⟨before, pair, after, hpairs, hnames, hfault, hfree⟩ := keyFault_of_entriesFrom hkeys
    exact ⟨before, pair, after, hpairs, hnames, .inl ⟨hfault, hfree⟩, free_atFault_iff hfree⟩
  · have hfree := free_keyFault hentries
    obtain ⟨rfl, hkeys, -, -⟩ := entriesFrom_eq_ok_iff.1 hentries
    rcases bind_eq_error_iff.1 hcompile with hbodies | ⟨rules, -, hpure⟩
    · obtain ⟨before, pair, after, hpairs, hnames, hfault, hbefore⟩ :=
        bodyFault_of_mapM hkeys _ hbodies
      refine ⟨before, pair, after, hpairs, hnames, .inr ⟨hfault, hfree, hbefore⟩,
        free_atFault_iff ?_⟩
      rw [hpairs] at hfree
      exact hfree.front
    · cases hpure

/-- The error names the key of the first pair at fault. -/
def BlamesEarliest (pairs : List (String × String)) (e : CompileError) : Prop :=
  ∃ before pair after, pairs = before ++ pair :: after ∧ e.ruleKey? = some pair.1 ∧
    AtFault before pair ∧ FreeOf AtFault before

def repeating : List (String × String) := [("0", "few;"), ("0/20", "more;"), ("x", "none;")]

theorem repeating_bodies {pair : String × String} (h : pair ∈ repeating) : ¬BodyFault pair := by
  have hfew : Rule.compile "few;" ⟨.number 0, 10, "", false, ""⟩ =
      .ok ⟨.number 0, 10, 1, [.part (.literal "few")]⟩ := by cbv
  have hmore : Rule.compile "more;" ⟨.number 0, 20, "", false, ""⟩ =
      .ok ⟨.number 0, 20, 1, [.part (.literal "more")]⟩ := by cbv
  have hfewKey : Key.parse "0" = .ok ⟨.number 0, 10⟩ := by cbv
  have hmoreKey : Key.parse "0/20" = .ok ⟨.number 0, 20⟩ := by cbv
  have hnoneKey : Key.parse "x" = .error (.invalidBaseValue "x") := by cbv
  rintro ⟨key, hkey, hrefused⟩
  simp only [repeating, List.mem_cons, List.not_mem_nil, or_false] at h
  rcases h with rfl | rfl | rfl
  · rw [hfewKey] at hkey
    cases hkey
    exact hrefused ⟨.number 0, 10, "", false, ""⟩ rfl rfl ⟨_, hfew⟩
  · rw [hmoreKey] at hkey
    cases hkey
    exact hrefused ⟨.number 0, 20, "", false, ""⟩ rfl rfl ⟨_, hmore⟩
  · rw [hnoneKey] at hkey
    cases hkey

theorem compile_repeating_blames :
    compile "scale" {} repeating = .error (.duplicateRule "scale" "0/20") ∧
      BlamesEarliest repeating (.duplicateRule "scale" "0/20") := by
  have hcompile : compile "scale" {} repeating = .error (.duplicateRule "scale" "0/20") := by
    cbv
  refine ⟨hcompile, ?_⟩
  obtain ⟨before, pair, after, hpairs, hnames, hfault, hfree⟩ := compile_error_blames hcompile
  refine ⟨before, pair, after, hpairs, hnames, hfault.imp And.left And.left, hfree.2 ?_⟩
  exact fun other hother => repeating_bodies (hpairs ▸ List.mem_append_left _ hother)

/-- The body under `0` is refused, but the key after it is blamed. -/
theorem not_blamesEarliest_bogus :
    compile "order" {} [("0", "=bogus=;"), ("ten", "ten;")] =
        .error (.inSpellingRule "order" "ten" (.invalidBaseValue "ten")) ∧
      ¬BlamesEarliest [("0", "=bogus=;"), ("ten", "ten;")]
        (.inSpellingRule "order" "ten" (.invalidBaseValue "ten")) := by
  have hkey : Key.parse "0" = .ok ⟨.number 0, 10⟩ := by cbv
  have htokens : Body.tokens "=bogus=;".toList =
      .ok [.piece (.substitution .equal (some "bogus".toList))] := by
    decide +kernel
  have hrefused : BodyFault ("0", "=bogus=;") := by
    refine ⟨_, hkey, fun context _ _ => ?_⟩
    rw [Rule.exists_compile_iff]
    rintro ⟨-, tokens, hread, hlegal⟩
    rw [htokens] at hread
    cases hread
    obtain ⟨c, rest, htext, hc⟩ := (hlegal _ List.mem_cons_self _ List.mem_cons_self).begins _ rfl
    cases htext
    revert hc
    decide
  refine ⟨by cbv, ?_⟩
  rintro ⟨before, pair, after, hpairs, hnames, -, hfree⟩
  cases before with
  | nil =>
    cases hpairs
    simp [CompileError.ruleKey?] at hnames
  | cons first rest =>
    rw [List.cons_append, List.cons.injEq] at hpairs
    obtain ⟨rfl, -⟩ := hpairs
    exact hfree [] _ rest rfl (.inr hrefused)

end RuleSet

end Spelling

end NumberRules
