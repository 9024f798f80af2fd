import Mathlib
import NumberRules.Proofs.Double.Floor
import NumberRules.Proofs.Double.Order
import NumberRules.Proofs.Spelling.RuleSets

/-! # Which rule spells a number

A rule set tries the special rules whose guards a number passes, in a fixed order, and then the
numeric rules from the highest base value down.  `RuleSet.Admits` says what the key of the chosen
rule tells about the number: its guard, or that no numeric rule in between would do.
`RuleSet.Chooses` is for the other direction, which rules are chosen for certain.
-/

namespace NumberRules.Spelling.RuleSet
set_option autoImplicit false

variable {set : RuleSet} {base : BaseValue} {rule : Rule} {x : Double}

/-! ## Rules by their keys -/

def Has (set : RuleSet) (base : BaseValue) : Prop := ∃ rule ∈ set.rules, rule.base = base

instance (set : RuleSet) (base : BaseValue) : Decidable (set.Has base) :=
  inferInstanceAs (Decidable (∃ rule ∈ set.rules, rule.base = base))

theorem base_of_rule? (h : set.rule? base = some rule) : rule.base = base := by
  have hfound := List.find?_some h
  exact of_decide_eq_true hfound

theorem isSome_rule?_iff : (set.rule? base).isSome = true ↔ set.Has base := by
  rw [rule?, List.find?_isSome]
  simp only [decide_eq_true_eq, Has]

theorem rule?_eq_none_iff : set.rule? base = none ↔ ¬set.Has base := by
  rw [← isSome_rule?_iff, Bool.not_eq_true, Option.isSome_eq_false_iff, Option.isNone_iff_eq_none]

/-! ## Guards -/

theorem isProper_iff :
    isProper x = true ↔ Double.zero.lt x = true ∧ x.lt (.ofNat 1) = true := by
  rw [isProper, Bool.and_eq_true]

theorem isFractional_iff :
    set.isFractional x = true ↔ (set.Has .improper ∨ set.Has .master) ∧ x.HasFraction := by
  rw [isFractional, hasFractionRule, Bool.and_eq_true, Bool.and_eq_true, Bool.or_eq_true,
    isSome_rule?_iff, isSome_rule?_iff, Bool.not_eq_true', and_assoc, Double.hasFraction_iff]

theorem isImproper_iff : set.isImproper x = true ↔ set.isFractional x = true ∧
    ((Double.ofNat 1).lt x = true ∨ isProper x = true ∧ ¬set.Has .proper) := by
  rw [isImproper, Bool.and_eq_true, Bool.or_eq_true, Bool.and_eq_true, Option.isNone_iff_eq_none,
    rule?_eq_none_iff]

/-- What the key of the rule that is chosen for `x` tells about `x`. -/
def Admits (set : RuleSet) (x : Double) : BaseValue → Prop
  | .nan => x = .nan
  | .infinity => x = .inf false
  | .negative => x.lt .zero = true
  | .proper => Double.zero.lt x = true ∧ x.lt (.ofNat 1) = true
  | .master => x.HasFraction
  | .improper =>
    x.HasFraction ∧ Double.zero.lt x = true ∧ (set.Has .proper → (Double.ofNat 1).lt x = true)
  | .number b => (Double.ofNat b.toNat).le x = true ∧
    ∀ b', set.Has (.number b') → b < b' → x.lt (.ofNat b'.toNat) = true

theorem admits_of_mem_candidates (h : base ∈ set.candidates x) : set.Admits x base := by
  simp only [candidates, List.mem_append, List.mem_ite_nil_right, List.mem_singleton] at h
  rcases h with (((⟨hguard, rfl⟩ | ⟨hguard, rfl⟩) | ⟨hguard, rfl⟩) | ⟨hguard, rfl⟩) | ⟨hguard, rfl⟩
  · exact (isFractional_iff.1 hguard).2
  · exact hguard
  · exact hguard
  · obtain ⟨hfractional, hrange⟩ := isImproper_iff.1 hguard
    refine ⟨(isFractional_iff.1 hfractional).2, ?_, ?_⟩
    · rcases hrange with habove | ⟨hproper, -⟩
      · exact Double.lt_trans Double.zero_lt_one habove
      · exact (isProper_iff.1 hproper).1
    · intro hhas
      exact hrange.resolve_right fun hproper => hproper.2 hhas
  · exact isProper_iff.1 hguard

/-! ## Numeric rules -/

theorem reaches_eq_true_iff : reaches x rule = true ↔
    ∃ b, rule.base = .number b ∧ (Double.ofNat b.toNat).le x = true := by
  unfold reaches
  cases rule.base <;> simp

/-- The rules with larger base values are listed before, and they do not reach the number. -/
theorem admits_of_find? (hsorted : set.rules.Pairwise fun a b => a.base.place ≤ b.base.place)
    (h : set.rules.find? (reaches x) = some rule) : set.Admits x rule.base := by
  obtain ⟨hreaches, before, after, hsplit, hbefore⟩ := List.find?_eq_some_iff_append.1 h
  obtain ⟨b, hbase, hle⟩ := reaches_eq_true_iff.1 hreaches
  rw [hbase]
  refine ⟨hle, ?_⟩
  rintro b' ⟨other, hother, hbase'⟩ hlt
  have hplace : other.base.place < rule.base.place := by
    rw [hbase, hbase']
    exact place_number_lt (UInt64.lt_iff_toNat_lt.1 hlt)
  have hmem : other ∈ before := by
    rw [hsplit] at hother hsorted
    rcases List.mem_append.1 hother with hin | hin
    · exact hin
    · have hle' : rule.base.place ≤ other.base.place := by
        rcases List.mem_cons.1 hin with rfl | htail
        · exact Nat.le_refl _
        · exact (List.pairwise_cons.1 (List.pairwise_append.1 hsorted).2.1).1 other htail
      omega
  have hnot : ¬reaches x other = true := by simpa using hbefore other hmem
  have habove : ¬(Double.ofNat b'.toNat).le x = true := fun hle' =>
    hnot (reaches_eq_true_iff.2 ⟨b', hbase', hle'⟩)
  have hx := (Double.ne_nan_of_le hle).2
  exact (Double.lt_or_le hx (Double.ofNat_ne_nan_always _)).resolve_right habove

/-! ## The chosen rule -/

/-- Some rule with the key `base` is chosen for `x`. -/
def Chooses (set : RuleSet) (x : Double) (base : BaseValue) : Prop :=
  ∃ rule, set.ruleFor x = some rule ∧ rule.base = base

theorem ruleFor_eq (hx : x ≠ .nan) : set.ruleFor x =
    ((set.candidates x).findSome? set.rule?).or (set.rules.find? (reaches x)) := by
  rw [ruleFor, if_neg hx]
  cases (set.candidates x).findSome? set.rule? <;> rfl

theorem admits_of_ruleFor (hsorted : set.rules.Pairwise fun a b => a.base.place ≤ b.base.place)
    (h : set.ruleFor x = some rule) : set.Admits x rule.base := by
  by_cases hx : x = .nan
  · rw [ruleFor, if_pos hx] at h
    rw [base_of_rule? h]
    exact hx
  · rw [ruleFor_eq hx, Option.or_eq_some_iff] at h
    rcases h with hspecial | ⟨-, hnumeric⟩
    · obtain ⟨base, hmem, hrule⟩ := List.exists_of_findSome?_eq_some hspecial
      rw [base_of_rule? hrule]
      exact admits_of_mem_candidates hmem
    · exact admits_of_find? hsorted hnumeric

/-- A candidate is chosen if it is there and those before it are not. -/
theorem chooses_of_candidates (hx : x ≠ .nan) (before : List BaseValue)
    (hstarts : before ++ [base] <+: set.candidates x)
    (hbefore : ∀ other ∈ before, ¬set.Has other) (hbase : set.Has base) : set.Chooses x base := by
  obtain ⟨rule, hrule⟩ := Option.isSome_iff_exists.1 (isSome_rule?_iff.2 hbase)
  have hnone : before.findSome? set.rule? = none := by
    rw [List.findSome?_eq_none_iff]
    exact fun other hother => rule?_eq_none_iff.2 (hbefore other hother)
  obtain ⟨after, hafter⟩ := hstarts
  refine ⟨rule, ?_, base_of_rule? hrule⟩
  rw [ruleFor_eq hx, ← hafter, List.findSome?_append, List.findSome?_append, hnone]
  simp [hrule]

theorem chooses_master (hx : x.HasFraction) (h : set.Has .master) : set.Chooses x .master := by
  have hfractional : set.isFractional x = true := isFractional_iff.2 ⟨.inr h, hx⟩
  refine chooses_of_candidates hx.ne_nan [] ?_ (by simp) h
  simp [candidates, hfractional]

theorem chooses_proper (hpos : Double.zero.lt x = true) (hone : x.lt (.ofNat 1) = true)
    (h : set.Has .proper) (hmaster : ¬set.Has .master) : set.Chooses x .proper := by
  have hnegative : x.isNegative = false := Double.lt_asymm hpos
  have hinf : x ≠ .inf false := by
    rintro rfl
    exact absurd hone (by decide +kernel)
  have himproper : ¬set.isImproper x = true := by
    rw [isImproper_iff, Double.lt_asymm hone]
    simp [h]
  have hproper : isProper x = true := isProper_iff.2 ⟨hpos, hone⟩
  refine chooses_of_candidates (Double.ne_nan_of_lt hone).1
    (if set.isFractional x then [.master] else []) ?_ ?_ h
  · simp [candidates, hnegative, hinf, himproper, hproper]
  · intro other hother
    rw [List.mem_singleton.1 (List.mem_ite_nil_right.1 hother).2]
    exact hmaster

theorem chooses_improper (hx : x.HasFraction) (hone : (Double.ofNat 1).lt x = true)
    (h : set.Has .improper) (hmaster : ¬set.Has .master) : set.Chooses x .improper := by
  have hfractional : set.isFractional x = true := isFractional_iff.2 ⟨.inl h, hx⟩
  have hnegative : x.isNegative = false :=
    Double.lt_asymm (Double.lt_trans Double.zero_lt_one hone)
  have himproper : set.isImproper x = true := isImproper_iff.2 ⟨hfractional, .inl hone⟩
  refine chooses_of_candidates hx.ne_nan [.master] ?_ ?_ h
  · simp [candidates, hfractional, hnegative, hx.ne_inf, himproper]
  · intro other hother
    rw [List.mem_singleton.1 hother]
    exact hmaster

theorem chooses_negative (hneg : x.lt .zero = true) (h : set.Has .negative) :
    set.Chooses x .negative ∨ set.Chooses x .master := by
  have hx := (Double.ne_nan_of_lt hneg).1
  have hnegative : x.isNegative = true := hneg
  by_cases hmaster : set.isFractional x = true ∧ set.Has .master
  · exact .inr (chooses_master (isFractional_iff.1 hmaster.1).2 hmaster.2)
  · left
    refine chooses_of_candidates hx
      (if set.isFractional x then [.master] else []) ?_ ?_ h
    · simp [candidates, hnegative]
    · intro other hother
      obtain ⟨hfractional, hother⟩ := List.mem_ite_nil_right.1 hother
      rw [List.mem_singleton.1 hother]
      exact fun hhas => hmaster ⟨hfractional, hhas⟩

/-- From zero on a rule for zero is there to fall back to. -/
theorem isSome_ruleFor_of_nonneg (hx : Double.zero.le x = true) (h : set.Has (.number 0)) :
    (set.ruleFor x).isSome = true := by
  obtain ⟨rule, hmem, hbase⟩ := h
  have hreaches : reaches x rule = true := by
    refine reaches_eq_true_iff.2 ⟨0, hbase, ?_⟩
    rw [UInt64.toNat_zero, ← Double.zero_eq_ofNat]
    exact hx
  rw [ruleFor_eq (Double.ne_nan_of_le hx).2, Option.isSome_or, Bool.or_eq_true]
  right
  rw [List.find?_isSome]
  exact ⟨rule, hmem, hreaches⟩

theorem isSome_ruleFor (hnan : set.Has .nan) (hnegative : set.Has .negative)
    (hzero : set.Has (.number 0)) (x : Double) : (set.ruleFor x).isSome = true := by
  by_cases hx : x = .nan
  · rw [ruleFor, if_pos hx, isSome_rule?_iff]
    exact hnan
  · rcases Double.lt_or_le hx Double.zero_ne_nan with hneg | hnonneg
    · rcases chooses_negative hneg hnegative with ⟨rule, hrule, -⟩ | ⟨rule, hrule, -⟩
      all_goals rw [hrule, Option.isSome_some]
    · exact isSome_ruleFor_of_nonneg hnonneg hzero

/-! ## Compiled sets -/

theorem pairwise_of_compile {name : String} {options : Options} {pairs : List (String × String)}
    (h : compile name options pairs = .ok set) :
    set.rules.Pairwise fun a b => a.base.place ≤ b.base.place := by
  obtain ⟨entries, rules, -, -, rfl⟩ := compile_eq_ok_iff.1 h
  exact pairwise_arrange rules

/-- A compiled set chooses one of its rules, and that rule's key admits the number.  Numbers with a
fraction go to `x.0`, and without it to `0.x` below one and to `x.x` above one; numbers below zero go
to `-x` unless `x.0` takes them.  With rules for NaN, for numbers below zero and for zero there is
always a choice. -/
theorem ruleFor_sound_and_total {name : String} {options : Options}
    {pairs : List (String × String)} (hset : compile name options pairs = .ok set) (x : Double) :
    (∀ rule, set.ruleFor x = some rule → rule ∈ set.rules ∧ set.Admits x rule.base) ∧
    (x.HasFraction → Double.zero.lt x = true → set.Has .master → set.Chooses x .master) ∧
    (Double.zero.lt x = true → x.lt (.ofNat 1) = true → set.Has .proper → ¬set.Has .master →
      set.Chooses x .proper) ∧
    (x.HasFraction → (Double.ofNat 1).lt x = true → set.Has .improper → ¬set.Has .master →
      set.Chooses x .improper) ∧
    (x.lt .zero = true → set.Has .negative → set.Chooses x .negative ∨ set.Chooses x .master) ∧
    (set.Has .nan → set.Has .negative → set.Has (.number 0) → (set.ruleFor x).isSome = true) := by
  refine ⟨fun rule hrule => ⟨mem_of_ruleFor hrule, ?_⟩, ?_, ?_, ?_, ?_, ?_⟩
  · exact admits_of_ruleFor (pairwise_of_compile hset) hrule
  · exact fun hx _ hmaster => chooses_master hx hmaster
  · exact fun hpos hone hproper hmaster => chooses_proper hpos hone hproper hmaster
  · exact fun hx hone himproper hmaster => chooses_improper hx hone himproper hmaster
  · exact fun hneg hnegative => chooses_negative hneg hnegative
  · exact fun hnan hnegative hzero => isSome_ruleFor hnan hnegative hzero x

def scale : RuleSet where
  name := "scale"
  rules := [
    ⟨.negative, 10, 1, [.part (.literal "minus "),
      .part (.substitution .greater .negate (.ruleSet "scale"))]⟩,
    ⟨.improper, 10, 1, [.part (.substitution .less .integerPart (.ruleSet "scale")),
      .part (.literal " and more")]⟩,
    ⟨.proper, 10, 1, [.part (.literal "a bit")]⟩,
    ⟨.nan, 10, 1, [.part (.literal "no number")]⟩,
    ⟨.number 20, 10, 10, [.part (.literal "many")]⟩,
    ⟨.number 3, 10, 1, [.part (.literal "some")]⟩,
    ⟨.number 0, 10, 1, [.part (.literal "few")]⟩]

theorem compile_scale : compile "%scale" {} [("0", "few;"), ("3", "some;"), ("20", "many;"),
    ("-x", "minus >>;"), ("x.x", "<< and more;"), ("0.x", "a bit;"), ("NaN", "no number;")] =
      .ok scale := by
  cbv

/-- A set whose `x.0` rule goes before the others. -/
def measure : RuleSet where
  name := "measure"
  rules := [
    ⟨.negative, 10, 1, [.part (.literal "under "),
      .part (.substitution .greater .negate (.ruleSet "measure"))]⟩,
    ⟨.master, 10, 1, [.part (.literal "about "),
      .part (.substitution .less .integerPart (.ruleSet "measure"))]⟩,
    ⟨.number 0, 10, 1, [.part (.literal "some")]⟩]

theorem compile_measure : compile "measure" {} [("x.0", "about <<;"), ("0", "some;"),
    ("-x", "under >>;")] = .ok measure := by
  cbv

/-- Every clause at a number of its own; a number between two base values goes to the lower one. -/
theorem ruleFor_scale_measure :
    (∃ rule, scale.ruleFor (.ofNat 7) = some rule ∧ rule.base = .number 3 ∧ rule ∈ scale.rules ∧
      scale.Admits (.ofNat 7) (.number 3)) ∧
    scale.Chooses (.ofQuotient 1 2) .proper ∧ scale.Chooses (.ofQuotient 5 2) .improper ∧
    (scale.Chooses (.ofInt (-7)) .negative ∨ scale.Chooses (.ofInt (-7)) .master) ∧
    (∀ x, (scale.ruleFor x).isSome = true) ∧ measure.Chooses (.ofQuotient 5 2) .master := by
  obtain ⟨hadmits, -⟩ := ruleFor_sound_and_total compile_scale (.ofNat 7)
  obtain ⟨-, -, hproper, -⟩ := ruleFor_sound_and_total compile_scale (.ofQuotient 1 2)
  obtain ⟨-, -, -, himproper, -⟩ := ruleFor_sound_and_total compile_scale (.ofQuotient 5 2)
  obtain ⟨-, -, -, -, hnegative, -⟩ := ruleFor_sound_and_total compile_scale (.ofInt (-7))
  obtain ⟨-, hmaster, -⟩ := ruleFor_sound_and_total compile_measure (.ofQuotient 5 2)
  have hseven : scale.ruleFor (.ofNat 7) =
      some ⟨.number 3, 10, 1, [.part (.literal "some")]⟩ := by
    decide +kernel
  refine ⟨⟨_, hseven, rfl, hadmits _ hseven⟩, ?_, ?_, ?_, ?_, ?_⟩
  · exact hproper (by decide +kernel) (by decide +kernel) (by decide) (by decide)
  · exact himproper (by decide +kernel) (by decide +kernel) (by decide) (by decide)
  · exact hnegative (by decide +kernel) (by decide)
  · intro x
    obtain ⟨-, -, -, -, -, htotal⟩ := ruleFor_sound_and_total compile_scale x
    exact htotal (by decide) (by decide) (by decide)
  · exact hmaster (by decide +kernel) (by decide +kernel) (by decide)

end NumberRules.Spelling.RuleSet
