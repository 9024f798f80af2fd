import Mathlib
import NumberRules.Proofs.Double.Shortest
import NumberRules.Proofs.Numeral.Written
import NumberRules.Proofs.Spelling.Selection

/-! # The two sides of a fraction

In a rule for fractions `<<` stands for the floor of the number and `>>` for the digits after its
point.  From zero on these are the two sides of one decimal text, the number's own.  Below zero they
are not: the digits are those of the number without its sign, and the floor is the next whole number
below.  Of the rules for fractions only `x.0` is chosen there.
-/

namespace NumberRules.Spelling
set_option autoImplicit false

variable {negative : Bool} {units : Nat}

/-! ## Texts with a point -/

/-- The text of a whole number with a sign, a point and digits. -/
def pointText (negative : Bool) (whole : Nat) (digits : List Digit) : String :=
  String.ofList ((signOf negative).chars ++
    (Digits.toChars (Digits.ofNat whole) ++ '.' :: Digits.toChars digits))

/-- A text without the minus sign in front of a zero before a point. -/
def dropZeroSign : List Char → List Char
  | '-' :: '0' :: '.' :: rest => '0' :: '.' :: rest
  | cs => cs

theorem dropSign_pointText (negative : Bool) (whole : Nat) (digits : List Digit) :
    dropSign (pointText negative whole digits).toList =
      Digits.toChars (Digits.ofNat whole) ++ '.' :: Digits.toChars digits := by
  rw [pointText, String.toList_ofList]
  refine Sign.dropSign_append _ (Sign.free_append ?_ ?_ _)
  · exact Digits.toChars_ne_nil (Digits.ofNat_ne_nil whole)
  · exact fun c hc =>
      ⟨Digits.ne_of_mem_toChars hc (by decide), Digits.ne_of_mem_toChars hc (by decide)⟩

/-- Whatever its sign, a text with a point begins with one whole number. -/
theorem eq_of_dropSign_pointText {a b : Bool} {m n : Nat} {digits : List Digit}
    (h : dropSign (pointText a m digits).toList = dropSign (pointText b n digits).toList) :
    m = n := by
  rw [dropSign_pointText, dropSign_pointText] at h
  have hread := congrArg Digits.ofChars? (List.append_cancel_right h)
  rw [Digits.ofChars?_toChars, Digits.ofChars?_toChars, Option.some.injEq] at hread
  rw [← Digits.value_ofNat m, hread, Digits.value_ofNat]

theorem dropSign_dropZeroSign (cs : List Char) : dropSign (dropZeroSign cs) = dropSign cs := by
  unfold dropZeroSign
  split <;> rfl

/-! ## The two sides -/

/-- What `<<` and `>>` stand for in a rule for fractions, with a point in between. -/
def sides? (x : Double) : Option String :=
  (Operation.integerPart.apply x).decimalText?.map fun whole =>
    whole ++ "." ++ String.ofList (Digits.toChars x.fractionDigits)

/-- The two sides are the decimal text of the number, apart from the sign of a zero before the
point. -/
def Recomposes (x : Double) : Prop :=
  ∃ sides text, sides? x = some sides ∧ x.decimalText? = some text ∧
    dropZeroSign sides.toList = dropZeroSign text.toList

theorem decimalText?_of_fraction (negative : Bool) (h : Double.Representable units)
    (hfraction : ¬Double.unitsPerOne ∣ units) :
    (Double.finite negative units h).decimalText? =
      some (pointText negative (units / Double.unitsPerOne)
        (Double.finite negative units h).fractionDigits) := by
  have hdigits : (Double.shortest units).fraction ≠ [] :=
    Double.fraction_shortest_ne_nil h hfraction
  have hempty : (Double.shortest units).fraction.isEmpty = false := by simpa using hdigits
  rw [Double.decimalText?_finite, Decimal.toChars, Double.integer_shortest_of_fraction h hfraction,
    hempty]
  rfl

/-- Below zero the floor is one more than the whole part, in size. -/
theorem sides?_of_fraction (negative : Bool) (h : Double.Representable units)
    (hfraction : ¬Double.unitsPerOne ∣ units) :
    sides? (.finite negative units h) =
      some (pointText negative (units / Double.unitsPerOne + if negative then 1 else 0)
        (Double.finite negative units h).fractionDigits) := by
  have hwhole : units / Double.unitsPerOne + (if negative then 1 else 0) < 2 ^ 53 := by
    have hlt := Double.div_unitsPerOne_lt h hfraction
    split <;> omega
  have hfloor := Double.floorUnits_of_not_dvd negative hfraction
  rw [sides?, Operation.apply, Double.floor_finite, Double.decimalText?_finite, hfloor,
    Double.shortest_whole hwhole, Option.map_some, Option.some.injEq, pointText,
    ← String.toList_inj]
  simp [Decimal.toChars]

theorem recomposes_of_fraction (h : Double.Representable units)
    (hfraction : ¬Double.unitsPerOne ∣ units) :
    Recomposes (.finite negative units h) ↔ negative = false := by
  have hsides := sides?_of_fraction negative h hfraction
  have htext := decimalText?_of_fraction negative h hfraction
  constructor
  · rintro ⟨sides, text, hsides', htext', hsame⟩
    rw [hsides, Option.some.injEq] at hsides'
    rw [htext, Option.some.injEq] at htext'
    rw [← hsides', ← htext'] at hsame
    -- Without their signs the texts have the same whole number in front.
    have hunsigned := congrArg dropSign hsame
    rw [dropSign_dropZeroSign, dropSign_dropZeroSign] at hunsigned
    have hwhole := eq_of_dropSign_pointText hunsigned
    cases negative with
    | false => rfl
    | true => exact absurd hwhole (Nat.succ_ne_self _)
  · rintro rfl
    exact ⟨_, _, hsides, htext, rfl⟩

theorem isNegative_of_fraction (negative : Bool) (h : Double.Representable units)
    (hfraction : ¬Double.unitsPerOne ∣ units) :
    (Double.finite negative units h).isNegative = negative := by
  have hpos : 0 < units := Nat.pos_of_ne_zero fun h0 => hfraction (h0 ▸ Nat.dvd_zero _)
  cases negative with
  | false => simp [Double.isNegative, Double.lt, Double.rank, Double.zero]
  | true => simp [Double.isNegative, Double.lt, Double.rank, Double.zero, hpos]

theorem recomposes_iff_of_hasFraction {x : Double} (hx : x.HasFraction) :
    Recomposes x ↔ x.isNegative = false := by
  cases x with
  | nan => exact absurd rfl hx.ne_nan
  | inf side => exact absurd rfl hx.ne_inf
  | finite negative units h =>
    rw [isNegative_of_fraction negative h hx]
    exact recomposes_of_fraction h hx

/-! ## Rules for fractions -/

theorem hasFraction_of_proper {x : Double} (hpos : Double.zero.lt x = true)
    (hone : x.lt (.ofNat 1) = true) : x.HasFraction := by
  obtain ⟨a, b, ha, hb, hab⟩ := Double.lt_iff.1 hpos
  obtain ⟨b', c, hb', hc, hbc⟩ := Double.lt_iff.1 hone
  obtain rfl : b = b' := Option.some.inj (hb.symm.trans hb')
  obtain rfl : a = 0 := (Option.some.inj ha).symm
  rw [Double.rank_ofNat (by norm_num), Nat.one_mul, Option.some.injEq] at hc
  have hlimit : Double.unitsPerOne < Double.unitLimit := by
    refine Double.lt_unitLimit ?_
    rw [← Nat.one_mul Double.unitsPerOne, ← Nat.mul_assoc]
    exact Nat.mul_le_mul_right _ (by norm_num)
  cases x with
  | nan => cases hb
  | inf side =>
    cases side with
    | false =>
      have hrank : (Double.unitLimit : Int) = b := Option.some.inj hb
      omega
    | true =>
      have hrank : -(Double.unitLimit : Int) = b := Option.some.inj hb
      omega
  | finite side units h =>
    cases side with
    | false =>
      have hrank : (units : Int) = b := Option.some.inj hb
      exact Nat.not_dvd_of_pos_of_lt (by omega) (by omega)
    | true =>
      have hrank : -(units : Int) = b := Option.some.inj hb
      omega

/-- Rules for fractions are chosen for numbers with a fraction, and `x.0` alone below zero. -/
theorem RuleSet.Admits.hasFraction {set : RuleSet} {x : Double} {base : BaseValue}
    (h : set.Admits x base) (hbase : base.isFraction = true) :
    x.HasFraction ∧ (x.isNegative = true → base = .master) := by
  cases base with
  | master => exact ⟨h, fun _ => rfl⟩
  | improper =>
    refine ⟨h.1, fun hnegative => ?_⟩
    rw [Double.isNegative, Double.lt_asymm h.2.1] at hnegative
    cases hnegative
  | proper =>
    refine ⟨hasFraction_of_proper h.1 h.2, fun hnegative => ?_⟩
    rw [Double.isNegative, Double.lt_asymm h.1] at hnegative
    cases hnegative
  | number n => cases hbase
  | negative => cases hbase
  | infinity => cases hbase
  | nan => cases hbase

/-- A rule for fractions recomposes the numbers that it is chosen for, those below zero excepted.
These are chosen by `x.0` only, and there `<<` stands for a whole number that is one too large in
size. -/
theorem recomposes_iff {set : RuleSet} {name : String} {options : RuleSet.Options}
    {pairs : List (String × String)} (hset : RuleSet.compile name options pairs = .ok set)
    {x : Double} {rule : Rule} (hrule : set.ruleFor x = some rule)
    (hfraction : rule.base.isFraction = true) :
    (Recomposes x ↔ x.isNegative = false) ∧
    (x.isNegative = false → (sides? x).isSome = true ∧ sides? x = x.decimalText?) ∧
    (x.isNegative = true → rule.base = .master ∧ ∃ whole,
      x.decimalText? = some (pointText true whole x.fractionDigits) ∧
      sides? x = some (pointText true (whole + 1) x.fractionDigits)) := by
  have hadmits := RuleSet.admits_of_ruleFor (RuleSet.pairwise_of_compile hset) hrule
  obtain ⟨hx, hmaster⟩ := hadmits.hasFraction hfraction
  refine ⟨recomposes_iff_of_hasFraction hx, ?_⟩
  cases x with
  | nan => exact absurd rfl hx.ne_nan
  | inf side => exact absurd rfl hx.ne_inf
  | finite negative units h =>
    have hsides := sides?_of_fraction negative h hx
    have htext := decimalText?_of_fraction negative h hx
    have hsign := isNegative_of_fraction negative h hx
    constructor
    · intro hnonneg
      obtain rfl : negative = false := hsign.symm.trans hnonneg
      exact ⟨by rw [hsides, Option.isSome_some], hsides.trans htext.symm⟩
    · intro hnegative
      obtain rfl : negative = true := hsign.symm.trans hnegative
      exact ⟨hmaster hnegative, _, htext, hsides⟩

/-- A set that writes both sides of a number with a fraction, with a point in between. -/
def sided : RuleSet where
  name := "parts"
  rules := [
    ⟨.master, 10, 1, [.part (.substitution .less .integerPart (.pattern "0")),
      .part (.literal "."), .part (.substitution .greater .digitByDigit (.ruleSet "parts"))]⟩,
    ⟨.number 0, 10, 1, [.part (.substitution .equal .identity (.pattern "0"))]⟩]

theorem compile_sided :
    RuleSet.compile "parts" {} [("x.0", "<0<.>>;"), ("0", "=0=;")] = .ok sided := by
  cbv

theorem ruleFor_sided (x : Double) (hx : x.HasFraction) :
    ∃ rule, sided.ruleFor x = some rule ∧ rule.base.isFraction = true := by
  obtain ⟨rule, hrule, hbase⟩ := RuleSet.chooses_master hx (by decide : sided.Has .master)
  refine ⟨rule, hrule, ?_⟩
  rw [hbase]
  rfl

/-- Two and a half is recomposed and its opposite is not: there `<<` stands for one more. -/
theorem recomposes_sided :
    sides? (.ofQuotient 5 2) = (Double.ofQuotient 5 2).decimalText? ∧
    ¬Recomposes (Double.ofQuotient 5 2).neg ∧ ∃ whole,
      (Double.ofQuotient 5 2).neg.decimalText? =
        some (pointText true whole (Double.ofQuotient 5 2).neg.fractionDigits) ∧
      sides? (Double.ofQuotient 5 2).neg =
        some (pointText true (whole + 1) (Double.ofQuotient 5 2).neg.fractionDigits) := by
  obtain ⟨rule, hrule, hbase⟩ := ruleFor_sided (.ofQuotient 5 2) (by decide +kernel)
  obtain ⟨rule', hrule', hbase'⟩ := ruleFor_sided (Double.ofQuotient 5 2).neg (by decide +kernel)
  obtain ⟨-, habove, -⟩ := recomposes_iff compile_sided hrule hbase
  obtain ⟨hiff, -, hbelow⟩ := recomposes_iff compile_sided hrule' hbase'
  refine ⟨(habove (by decide +kernel)).2, ?_, (hbelow (by decide +kernel)).2⟩
  rw [hiff]
  decide +kernel

/-- The `x.0` rule is chosen for two and a half below zero and does not recompose it. -/
theorem not_recomposes_sided :
    ∃ rule, sided.ruleFor (Double.ofQuotient 5 2).neg = some rule ∧
      rule.base.isFraction = true ∧ (Double.ofQuotient 5 2).neg.isFinite = true ∧
      ¬Recomposes (Double.ofQuotient 5 2).neg := by
  obtain ⟨rule, hrule, hbase⟩ := ruleFor_sided (Double.ofQuotient 5 2).neg (by decide +kernel)
  refine ⟨rule, hrule, hbase, by decide +kernel, ?_⟩
  rw [recomposes_iff_of_hasFraction (by decide +kernel)]
  decide +kernel

end NumberRules.Spelling
