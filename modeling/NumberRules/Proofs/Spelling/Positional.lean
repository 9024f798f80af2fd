import Mathlib
import NumberRules.Spelling.Evaluation
import NumberRules.Proofs.Spelling.Divisors
import NumberRules.Proofs.Spelling.Keys
import NumberRules.Proofs.Spelling.Registered
import NumberRules.Proofs.Spelling.RuleSets

/-! # Place notation as a rule set

One rule for each digit and the rule `<<>>;` at the radix write a number in place notation: the
rule at the radix spells the quotient, then the remainder, and both go back to the same set.  The
calls nest once for each digit, so numbers below `2 ^ 53` stay within the limit for every radix.

`Positional` keeps what the evaluation needs apart from how the rules were compiled.
-/

namespace NumberRules.Spelling
set_option autoImplicit false

/-! ## Place notation -/

/-- The digits of `n` in place notation, the most significant first; zero has one digit. -/
def placeDigits (radix n : Nat) : List Nat := if n = 0 then [0] else (Nat.digits radix n).reverse

/-- The words for the digits of `n`, one after the other. -/
def placeText (words : Nat → String) (radix n : Nat) : String :=
  String.join ((placeDigits radix n).map words)

theorem placeDigits_of_lt {radix n : Nat} (h : n < radix) : placeDigits radix n = [n] := by
  unfold placeDigits
  by_cases hn : n = 0
  · rw [if_pos hn, hn]
  · rw [if_neg hn, Nat.digits_of_lt radix n hn h, List.reverse_singleton]

/-- The last digit is the remainder, the digits in front of it are those of the quotient. -/
theorem placeDigits_of_le {radix n : Nat} (hradix : 2 ≤ radix) (h : radix ≤ n) :
    placeDigits radix n = placeDigits radix (n / radix) ++ [n % radix] := by
  have hn : 0 < n := by omega
  have hquotient : n / radix ≠ 0 := Nat.ne_of_gt (Nat.div_pos h (by omega))
  rw [placeDigits, placeDigits, if_neg (Nat.ne_of_gt hn), if_neg hquotient,
    Nat.digits_def' (by omega) hn, List.reverse_cons]

theorem placeText_of_lt (words : Nat → String) {radix n : Nat} (h : n < radix) :
    placeText words radix n = words n := by
  rw [placeText, placeDigits_of_lt h, List.map_singleton, String.join_cons, String.join_nil,
    String.append_empty]

theorem placeText_of_le (words : Nat → String) {radix n : Nat} (hradix : 2 ≤ radix)
    (h : radix ≤ n) : placeText words radix n =
      placeText words radix (n / radix) ++ placeText words radix (n % radix) := by
  have hlast : n % radix < radix := Nat.mod_lt n (by omega)
  rw [placeText_of_lt words hlast, placeText, placeDigits_of_le hradix h, List.map_append,
    String.join_append, List.map_singleton, String.join_cons, String.join_nil, String.append_empty]
  rfl

/-! ## Looking up what was inserted -/

/-- A set is found under its name, with or without percent signs. -/
theorem Registry.lookup_insert (reg : Registry) {set : RuleSet} {name : String}
    (h : dropPercents name = set.name) (referrer : String) :
    (reg.insert set).lookup name referrer = .ok set := by
  rw [lookup, get?_insert, if_pos h.symm]

/-! ## Spelling -/

/-- The nodes that spell the quotient by a radix and then the remainder, with the same set. -/
def carryNodes (name : String) (radix : Nat) : List Node :=
  [.part (.substitution .less (.quotient radix) (.ruleSet name)),
    .part (.substitution .greater (.remainder radix) (.ruleSet name))]

/-- A set whose rules are those of place notation, as far as evaluation sees them. -/
structure Positional (set : RuleSet) (radix : Nat) (words : Nat → String) : Prop where
  two_le : 2 ≤ radix
  lt : radix < 2 ^ 53
  digit : ∀ n < radix, ∃ rule, set.ruleFor (.ofNat n) = some rule ∧
    rule.nodes = [.part (.literal (words n))]
  carry : ∀ n, radix ≤ n → n < 2 ^ 53 → ∃ rule, set.ruleFor (.ofNat n) = some rule ∧
    rule.nodes = carryNodes set.name radix

namespace Positional

variable {set : RuleSet} {radix : Nat} {words : Nat → String} {reg : Registry}

theorem spell_digit (h : Positional set radix words) (depth : Nat) (chain : List String) {n : Nat}
    (hn : n < radix) : reg.spell (depth + 1) chain set (.ofNat n) = .ok (words n) := by
  obtain ⟨rule, hrule, hnodes⟩ := h.digit n hn
  have hword : String.join [words n] = words n := by
    rw [String.join_cons, String.join_nil, String.append_empty]
  rw [Registry.spell, hrule]
  simp only [hnodes, Registry.spellNodes, List.mapM_cons, List.mapM_nil, Registry.spellNode,
    Registry.spellPart, bind_ok, pure, Except.pure, hword]

/-- One call of the splitting rule, given what the two nested calls give. -/
theorem spell_carry (h : Positional set radix words)
    (hset : reg.lookup set.name set.name = .ok set) {depth : Nat} {chain : List String} {n : Nat}
    (hle : radix ≤ n) (hn : n < 2 ^ 53) {front last : String}
    (hfront : reg.spell depth (chain ++ [set.name]) set (.ofNat (n / radix)) = .ok front)
    (hlast : reg.spell depth (chain ++ [set.name]) set (.ofNat (n % radix)) = .ok last) :
    reg.spell (depth + 1) chain set (.ofNat n) = .ok (front ++ last) := by
  obtain ⟨rule, hrule, hnodes⟩ := h.carry n hle hn
  have hpos : 0 < radix := Nat.lt_of_lt_of_le Nat.two_pos h.two_le
  have htexts : String.join [front, last] = front ++ last := by
    rw [String.join_cons, String.join_cons, String.join_nil, String.append_empty]
  rw [Registry.spell, hrule]
  simp only [hnodes, carryNodes, Registry.spellNodes, List.mapM_cons, List.mapM_nil,
    Registry.spellNode, Registry.spellPart, Registry.spellTarget, Operation.apply,
    Double.floor_div_ofNat hn hpos h.lt, Double.rem_ofNat hn hpos h.lt, hset, bind_ok, hfront,
    hlast, pure, Except.pure, htexts]

/-- Numbers with at most `depth + 1` digits are spelled in place notation. -/
theorem spell_eq (h : Positional set radix words) (hset : reg.lookup set.name set.name = .ok set)
    (depth : Nat) (chain : List String) {n : Nat} (hdigits : n < radix ^ (depth + 1))
    (hn : n < 2 ^ 53) :
    reg.spell (depth + 1) chain set (.ofNat n) = .ok (placeText words radix n) := by
  induction depth generalizing n chain with
  | zero =>
    rw [Nat.zero_add, pow_one] at hdigits
    rw [h.spell_digit 0 chain hdigits, placeText_of_lt words hdigits]
  | succ depth ih =>
    by_cases hlt : n < radix
    · rw [h.spell_digit (depth + 1) chain hlt, placeText_of_lt words hlt]
    · have hle : radix ≤ n := Nat.le_of_not_lt hlt
      have hpos : 0 < radix := Nat.lt_of_lt_of_le Nat.two_pos h.two_le
      have hfront : n / radix < radix ^ (depth + 1) := by
        rw [Nat.div_lt_iff_lt_mul hpos, ← pow_succ]
        exact hdigits
      have hlast : n % radix < radix ^ (depth + 1) :=
        Nat.lt_of_lt_of_le (Nat.mod_lt n hpos) (Nat.le_self_pow (by omega) radix)
      have hquotient := ih (chain ++ [set.name]) hfront
        (Nat.lt_of_le_of_lt (Nat.div_le_self n radix) hn)
      have hremainder := ih (chain ++ [set.name]) hlast (Nat.lt_of_le_of_lt (Nat.mod_le n radix) hn)
      rw [h.spell_carry hset hle hn hquotient hremainder, placeText_of_le words h.two_le hle]

/-- Every number below `2 ^ 53` is within the limit on nested calls of a new registry. -/
theorem formatWith_eq (h : Positional set radix words)
    (hset : reg.lookup set.name set.name = .ok set) (hdepth : reg.maxDepth = defaultMaxDepth)
    {n : Nat} (hn : n < 2 ^ 53) :
    reg.formatWith set (.ofNat n) = .ok (placeText words radix n) := by
  have hdigits : n < radix ^ (63 + 1) := by
    calc n < 2 ^ 53 := hn
      _ ≤ 2 ^ 64 := Nat.pow_le_pow_right (by omega) (by omega)
      _ ≤ radix ^ (63 + 1) := Nat.pow_le_pow_left h.two_le 64
  rw [Registry.formatWith, hdepth]
  exact h.spell_eq hset 63 [] hdigits hn

end Positional

/-! ## The rules -/

/-- The pair of a digit, or, beyond the digits, the pair that splits off the last digit. -/
def placePair (radix : UInt32) (bodies : Nat → String) (d : Nat) : String × String :=
  if d < radix.toNat then (natText d, bodies d)
  else (natText radix.toNat ++ "/" ++ natText radix.toNat, "<<>>;")

/-- The context in which the body of a digit is compiled. -/
def digitContext (name : String) (options : RuleSet.Options) (d : Nat) : RuleContext where
  base := .number (UInt64.ofNat d)
  ruleSet := dropPercents name
  defaultRuleSet := options.defaultRuleSet

/-- The body of each digit compiles to the word of the digit and nothing else. -/
def DigitBodies (radix : UInt32) (bodies words : Nat → String) (name : String)
    (options : RuleSet.Options) : Prop :=
  ∀ d < radix.toNat, ∃ rule, Rule.compile (bodies d) (digitContext name options d) = .ok rule ∧
    rule.nodes = [.part (.literal (words d))]

/-- The entry of a digit or of the splitting rule. -/
def placeEntry (radix : UInt32) (bodies : Nat → String) (d : Nat) : RuleSet.Entry where
  text := (placePair radix bodies d).1
  key := ⟨.number (UInt64.ofNat d), if d < radix.toNat then Key.defaultRadix else radix⟩
  body := (placePair radix bodies d).2

/-- The rule of a digit or the splitting rule. -/
def placeRule (radix : UInt32) (words : Nat → String) (name : String) (d : Nat) : Rule where
  base := .number (UInt64.ofNat d)
  radix := if d < radix.toNat then Key.defaultRadix else radix
  divisor := divisorFor (.number (UInt64.ofNat d))
    (if d < radix.toNat then Key.defaultRadix else radix)
  nodes := if d < radix.toNat then [.part (.literal (words d))] else carryNodes name radix.toNat

theorem tokens_carry : Body.tokens "<<>>;".toList =
    .ok [.piece (.substitution .less none), .piece (.substitution .greater none)] := by
  cbv

/-- In a rule at the radix, `<<>>;` splits a number by the radix. -/
theorem nodes_carry (context : RuleContext) (n : UInt64) (hbase : context.base = .number n)
    (hself : context.radix.toNat = n.toNat) (hradix : 2 ≤ context.radix.toNat) :
    context.nodes "<<>>;" = .ok (carryNodes context.ruleSet context.radix.toNat) := by
  have hdivisor : context.divisor = context.radix.toNat := by
    rw [RuleContext.divisor, hbase, divisorFor_self hradix hself.symm]
  rw [RuleContext.nodes, tokens_carry]
  simp [RuleContext.node, RuleContext.part, RuleContext.substitution, RuleContext.meaning, hbase,
    hdivisor, BaseValue.isConstant, BaseValue.isFraction, carryNodes, RuleContext.containing,
    bind, Except.bind, pure, Except.pure, Except.map, Except.mapError]

section

variable {radix : UInt32} {bodies words : Nat → String} {name : String}
  {options : RuleSet.Options} {order : List Nat}

theorem toNat_ofNat_of_le {d : Nat} (h : d ≤ radix.toNat) : (UInt64.ofNat d).toNat = d := by
  have hlt := radix.toNat_lt
  rw [UInt64.toNat_ofNat', Nat.mod_eq_of_lt]
  omega

theorem parse_placePair {d : Nat} (h : d ≤ radix.toNat) :
    Key.parse (placeEntry radix bodies d).text = .ok (placeEntry radix bodies d).key := by
  have hlt := radix.toNat_lt_size
  have hword : UInt32.size < UInt64.size := by decide
  by_cases hd : d < radix.toNat
  · simp only [placeEntry, placePair, if_pos hd]
    exact Key.parse_natText (by omega)
  · have heq : d = radix.toNat := by omega
    simp only [placeEntry, placePair, if_neg hd]
    rw [Key.parse_withRadix (by omega) hlt, UInt32.ofNat_toNat, heq]

theorem gives_digit (hwords : DigitBodies radix bodies words name options) {d : Nat}
    (hd : d < radix.toNat) :
    RuleSet.Entry.Gives (dropPercents name) options false (placeEntry radix bodies d)
      (placeRule radix words (dropPercents name) d) := by
  obtain ⟨rule, hrule, hnodes⟩ := hwords d hd
  obtain ⟨-, nodes, -, hform⟩ := Rule.compile_eq_ok_iff.1 hrule
  have hliteral : nodes = [.part (.literal (words d))] := by
    rwa [hform] at hnodes
  have hcontext : (placeEntry radix bodies d).context (dropPercents name) options false =
      digitContext name options d := by
    simp only [RuleSet.Entry.context, placeEntry, digitContext, if_pos hd]
  have hbody : (placeEntry radix bodies d).body = bodies d := by
    simp only [placeEntry, placePair, if_pos hd]
  unfold RuleSet.Entry.Gives
  rw [hcontext, hbody, hrule, hform, hliteral]
  simp only [placeRule, if_pos hd]
  rfl

theorem gives_carry (hradix : 2 ≤ radix.toNat) :
    RuleSet.Entry.Gives (dropPercents name) options false (placeEntry radix bodies radix.toNat)
      (placeRule radix words (dropPercents name) radix.toNat) := by
  have hd : ¬radix.toNat < radix.toNat := Nat.lt_irrefl _
  have htwo : ¬radix < 2 := by
    rw [UInt32.lt_iff_toNat_lt]
    exact Nat.not_lt.2 hradix
  have hself : radix.toNat = (UInt64.ofNat radix.toNat).toNat :=
    (toNat_ofNat_of_le (Nat.le_refl _)).symm
  have hcontext : ((placeEntry radix bodies radix.toNat).context (dropPercents name) options
      false).radix = radix := by
    simp only [RuleSet.Entry.context, placeEntry, if_neg hd]
  have hnodes := nodes_carry
    ((placeEntry radix bodies radix.toNat).context (dropPercents name) options false)
    (UInt64.ofNat radix.toNat) rfl (by rwa [hcontext]) (by rwa [hcontext])
  rw [hcontext] at hnodes
  have hbody : (placeEntry radix bodies radix.toNat).body = "<<>>;" := by
    simp only [placeEntry, placePair, if_neg hd]
  unfold RuleSet.Entry.Gives
  rw [Rule.compile_eq_ok_iff, hcontext, hbody]
  refine ⟨htwo, _, hnodes, ?_⟩
  simp only [placeRule, if_neg hd, RuleSet.Entry.context, placeEntry, RuleContext.divisor]

theorem gives_placeRule (hradix : 2 ≤ radix.toNat)
    (hwords : DigitBodies radix bodies words name options) {d : Nat} (h : d ≤ radix.toNat) :
    RuleSet.Entry.Gives (dropPercents name) options false (placeEntry radix bodies d)
      (placeRule radix words (dropPercents name) d) := by
  rcases Nat.lt_or_eq_of_le h with hlt | rfl
  · exact gives_digit hwords hlt
  · exact gives_carry hradix

theorem mem_order (horder : order.Perm (List.range (radix.toNat + 1))) {d : Nat} :
    d ∈ order ↔ d ≤ radix.toNat := by
  rw [horder.mem_iff, List.mem_range]
  omega

/-- The rules of place notation, in any order, make up a set. -/
theorem compile_placePair (hradix : 2 ≤ radix.toNat)
    (hwords : DigitBodies radix bodies words name options)
    (horder : order.Perm (List.range (radix.toNat + 1))) :
    RuleSet.compile name options (order.map (placePair radix bodies)) =
      .ok ⟨dropPercents name,
        RuleSet.arrange (order.map (placeRule radix words (dropPercents name)))⟩ := by
  have hmem : ∀ d ∈ order, d ≤ radix.toNat := fun d hd => (mem_order horder).1 hd
  have hbases : (order.map (fun d => BaseValue.number (UInt64.ofNat d))).Nodup := by
    refine List.Nodup.map_on ?_ (horder.nodup_iff.2 List.nodup_range)
    intro d hd e he heq
    have htoNat := congrArg UInt64.toNat (BaseValue.number.inj heq)
    rwa [toNat_ofNat_of_le (hmem d hd), toNat_ofNat_of_le (hmem e he)] at htoNat
  have hfraction : RuleSet.isFractionSet (order.map (placeEntry radix bodies)) = false := by
    refine RuleSet.isFractionSet_eq_false fun entry hentry => ?_
    obtain ⟨d, -, rfl⟩ := List.mem_map.1 hentry
    rfl
  have hpairs : order.map (placePair radix bodies) =
      (order.map (placeEntry radix bodies)).map RuleSet.Entry.pair := by
    rw [List.map_map]
    rfl
  rw [hpairs]
  refine RuleSet.compile_map_pair ?_ ?_ ?_
  · intro entry hentry
    obtain ⟨d, hd, rfl⟩ := List.mem_map.1 hentry
    exact parse_placePair (hmem d hd)
  · rw [List.map_map]
    exact hbases
  · rw [hfraction, List.forall₂_map_left_iff, List.forall₂_map_right_iff, List.forall₂_same]
    exact fun d hd => gives_placeRule hradix hwords (hmem d hd)

/-- A digit chooses its own rule, and a larger number the splitting one. -/
theorem ruleFor_placeRule (horder : order.Perm (List.range (radix.toNat + 1))) {n : Nat}
    (hn : n < 2 ^ 53) :
    RuleSet.ruleFor ⟨name, RuleSet.arrange (order.map (placeRule radix words name))⟩ (.ofNat n) =
      some (placeRule radix words name (min n radix.toNat)) := by
  have hlt := radix.toNat_lt
  have hreaches : ∀ d ≤ radix.toNat,
      RuleSet.reaches (.ofNat n) (placeRule radix words name d) = decide (d ≤ n) := by
    intro d hd
    have htoNat := toNat_ofNat_of_le hd
    rw [RuleSet.reaches_ofNat (b := UInt64.ofNat d) rfl (by omega) hn, htoNat]
  rw [RuleSet.ruleFor_ofNat _ hn]
  refine RuleSet.find?_arrange ?_ ?_ ?_
  · exact List.mem_map_of_mem ((mem_order horder).2 (Nat.min_le_right _ _))
  · rw [hreaches _ (Nat.min_le_right _ _)]
    exact decide_eq_true (Nat.min_le_left _ _)
  · intro other hother hreach hne
    obtain ⟨d, hd, rfl⟩ := List.mem_map.1 hother
    have hdle := (mem_order horder).1 hd
    rw [hreaches d hdle] at hreach
    have hle := of_decide_eq_true hreach
    have hdne : d ≠ min n radix.toNat := fun heq => hne (heq ▸ rfl)
    have hbelow : d < min n radix.toNat := by omega
    refine RuleSet.place_number_lt ?_
    rw [toNat_ofNat_of_le hdle, toNat_ofNat_of_le (Nat.min_le_right _ _)]
    exact hbelow

theorem positional_placeRule (words : Nat → String) (name : String) (hradix : 2 ≤ radix.toNat)
    (horder : order.Perm (List.range (radix.toNat + 1))) :
    Positional ⟨name, RuleSet.arrange (order.map (placeRule radix words name))⟩ radix.toNat
      words where
  two_le := hradix
  lt := Nat.lt_trans radix.toNat_lt (by norm_num)
  digit n hn := by
    have hlt := radix.toNat_lt
    refine ⟨_, ruleFor_placeRule horder (by omega), ?_⟩
    rw [Nat.min_eq_left (Nat.le_of_lt hn), placeRule]
    exact if_pos hn
  carry n hle hn := by
    refine ⟨_, ruleFor_placeRule horder hn, ?_⟩
    rw [Nat.min_eq_right hle, placeRule]
    exact if_neg (Nat.lt_irrefl _)

/-- Compiling the rules of place notation and spelling a number with them gives the words for its
digits, the most significant first. -/
theorem format_eq_placeText (hradix : 2 ≤ radix)
    (hwords : DigitBodies radix bodies words name options)
    (horder : order.Perm (List.range (radix.toNat + 1))) :
    ∃ set, RuleSet.compile name options (order.map (placePair radix bodies)) = .ok set ∧
      ∀ reg : Registry, reg.maxDepth = defaultMaxDepth → ∀ n < 2 ^ 53,
        (reg.insert set).format name (.ofNat n) = .ok (placeText words radix.toNat n) := by
  have htwo : 2 ≤ radix.toNat := UInt32.le_iff_toNat_le.1 hradix
  refine ⟨_, compile_placePair htwo hwords horder, ?_⟩
  intro reg hdepth n hn
  have hpositional := positional_placeRule words (dropPercents name) htwo horder
  rw [Registry.format, Registry.lookup_insert reg rfl, bind_ok]
  exact hpositional.formatWith_eq (Registry.lookup_insert reg (dropPercents_dropPercents name) _)
    hdepth hn

end

/-- The names of the binary digits. -/
def binaryName (d : Nat) : String := if d = 0 then "nil " else "one "

theorem compile_binaryName : DigitBodies 2 binaryName binaryName "%binary" {} := by
  intro d hd
  have hlt : d < 2 := hd
  interval_cases d
  · exact ⟨⟨.number 0, 10, 1, [.part (.literal "nil ")]⟩, by cbv, rfl⟩
  · exact ⟨⟨.number 1, 10, 1, [.part (.literal "one ")]⟩, by cbv, rfl⟩

/-- Six in binary digits, from rules that are not listed in order. -/
theorem format_binaryName : ∃ set,
    RuleSet.compile "%binary" {} [("2/2", "<<>>;"), ("0", "nil "), ("1", "one ")] = .ok set ∧
      (Registry.empty.insert set).format "%binary" (.ofNat 6) = .ok "one one nil " := by
  have hpairs : [2, 0, 1].map (placePair 2 binaryName) =
      [("2/2", "<<>>;"), ("0", "nil "), ("1", "one ")] := by
    cbv
  have htext : placeText binaryName 2 6 = "one one nil " := by
    simp [placeText, placeDigits, binaryName, String.join]
  obtain ⟨set, hset, hformat⟩ := @format_eq_placeText 2 binaryName binaryName "%binary" {} [2, 0, 1]
    (by decide) compile_binaryName (by decide)
  rw [hpairs] at hset
  exact ⟨set, hset, htext ▸ hformat Registry.empty rfl 6 (by norm_num)⟩

end NumberRules.Spelling
