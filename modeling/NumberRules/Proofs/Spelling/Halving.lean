import Mathlib
import NumberRules.Proofs.Spelling.Divisors
import NumberRules.Proofs.Spelling.References

/-! # How deep divisors nest

A numeric rule whose base value is at least its radix has a divisor between two and the numbers that
it spells.  The quotient and the remainder by such a divisor are at most half of the number, so
calls for quotients and remainders nest at most once for each binary digit, whatever rule sets they
go through.  For numbers below `2 ^ 53` the limit of a new registry is never met.
-/

namespace NumberRules.Spelling
set_option autoImplicit false

/-! ## Halves -/

theorem div_le_half {n d : Nat} (hd : 2 ≤ d) : n / d ≤ n / 2 :=
  Nat.div_le_div_left hd Nat.two_pos

theorem mod_le_half {n d : Nat} (hpos : 0 < d) (hd : d ≤ n) : n % d ≤ n / 2 := by
  have hlt := Nat.mod_lt n hpos
  have hle : n % d + d ≤ n := by
    have hsplit := Nat.mod_add_div n d
    have hone : d ≤ d * (n / d) := Nat.le_mul_of_pos_right d (Nat.div_pos hd hpos)
    omega
  omega

/-! ## Rules that split numbers -/

/-- A numeric rule that has rule sets spell quotients and remainders only, and does so only if its
base value is at least its radix.  Special rules may do anything. -/
def Rule.Splits (rule : Rule) : Prop :=
  ∀ b, rule.base = .number b → ∀ node ∈ rule.nodes, ∀ marker op r,
    .substitution marker op (.ruleSet r) ∈ node.parts →
      (marker = .less ∨ marker = .greater) ∧ rule.radix.toNat ≤ b.toNat

namespace Rule

variable {body : String} {context : RuleContext} {rule : Rule} {b : UInt64} {n : Nat}

theorem op_of_compile (h : Rule.compile body context = .ok rule) (hbase : rule.base = .number b)
    {node : Node} (hnode : node ∈ rule.nodes) {marker : Marker} {op : Operation} {target : Target}
    (hp : .substitution marker op target ∈ node.parts)
    (hmarker : marker = .less ∨ marker = .greater) :
    op = .quotient rule.divisor ∨ op = .remainder rule.divisor := by
  obtain ⟨piece, hpiece⟩ := exists_piece_of_compile h hnode hp
  obtain ⟨-, nodes, -, rfl⟩ := compile_eq_ok_iff.1 h
  have hnumber : context.base = .number b := hbase
  cases hpiece with
  | @substitution _ written _ _ _ hmeans hgoal =>
    generalize written.isSome = hasTarget at hmeans
    cases hmeans with
    | quotient h => exact .inl rfl
    | remainder h => exact .inr rfl
    | integerPart h | fractionDigits h | digitByDigit h =>
      rw [hnumber] at h
      cases h
    | negate h =>
      rw [hnumber] at h
      cases h
    | echo h | identity h => rcases hmarker with hmarker | hmarker <;> cases hmarker

theorem divisor_of_compile (h : Rule.compile body context = .ok rule)
    (hbase : rule.base = .number b) (hradix : rule.radix.toNat ≤ b.toNat) :
    2 ≤ rule.divisor ∧ rule.divisor ≤ b.toNat := by
  obtain ⟨htwo, nodes, -, rfl⟩ := compile_eq_ok_iff.1 h
  have hnumber : context.base = .number b := hbase
  have hle : context.radix.toNat ≤ b.toNat := hradix
  have hradix : 2 ≤ context.radix.toNat := by
    rw [UInt32.lt_iff_toNat_lt, Nat.not_lt] at htwo
    exact htwo
  have hdivisor : context.divisor = divisorFor (.number b) context.radix := by
    rw [RuleContext.divisor, hnumber]
  have hge := le_divisorFor hradix hle
  have hmax := divisorFor_le_max hradix b
  change 2 ≤ context.divisor ∧ context.divisor ≤ b.toNat
  rw [hdivisor]
  omega

/-- Each call of a splitting rule is for at most half of the number. -/
theorem Calls.halves {r : String} {value : Double} (hcalls : rule.Calls (.ofNat n) r value)
    (h : Rule.compile body context = .ok rule) (hsplits : rule.Splits)
    (hbase : rule.base = .number b) (hb : b.toNat ≤ n) (hn : n < 2 ^ 53) :
    2 ≤ n ∧ ∃ m ≤ n / 2, value = .ofNat m := by
  obtain ⟨node, hnode, p, hp, hcalls⟩ := hcalls
  cases hcalls with
  | value hop =>
    obtain ⟨hmarker, hradix⟩ := hsplits b hbase node hnode _ _ r hp
    obtain ⟨htwo, hle⟩ := divisor_of_compile h hbase hradix
    refine ⟨by omega, ?_⟩
    rcases op_of_compile h hbase hnode hp hmarker with rfl | rfl
    · refine ⟨n / rule.divisor, div_le_half htwo, ?_⟩
      rw [Operation.apply, Double.floor_div_ofNat hn (by omega) (by omega)]
    · refine ⟨n % rule.divisor, mod_le_half (by omega) (by omega), ?_⟩
      rw [Operation.apply, Double.rem_ofNat hn (by omega) (by omega)]
  | digit hd =>
    obtain ⟨hmarker, -⟩ := hsplits b hbase node hnode _ _ r hp
    rcases op_of_compile h hbase hnode hp hmarker with hop | hop <;> cases hop

end Rule

namespace Registry

variable {reg : Registry} {allowed : RuleSet.Options → Prop} {set : RuleSet}

/-! ## Runs -/

def WithinLimit (e : EvalError) : Prop := ∀ chain, e ≠ .tooDeep chain

def Splitting (reg : Registry) : Prop :=
  ∀ (key : String) (set : RuleSet), reg.sets[key]? = some set → ∀ rule ∈ set.rules, rule.Splits

theorem Splitting.halves (hsplitting : reg.Splitting) (h : reg.Built allowed) {key : String}
    (hset : reg.sets[key]? = some set) {n : Nat} (hn : n < 2 ^ 53) {rule : Rule}
    (hrule : set.ruleFor (.ofNat n) = some rule) {r : String} {value : Double}
    (hcalls : rule.Calls (.ofNat n) r value) : 2 ≤ n ∧ ∃ m ≤ n / 2, value = .ofNat m := by
  have hmem := RuleSet.mem_of_ruleFor hrule
  obtain ⟨b, hbase, hb⟩ := RuleSet.exists_base_of_ruleFor hn hrule
  obtain ⟨-, name, options, pairs, -, hcompile⟩ := h.compiled hset
  obtain ⟨fractionSet, entry, hgives⟩ := RuleSet.exists_gives_of_compile hcompile hmem
  exact hcalls.halves hgives (hsplitting key set hset rule hmem) hbase hb hn

/-- One level of calls is enough for each binary digit. -/
theorem spell_withinLimit (h : reg.Built allowed) (hsplitting : reg.Splitting) {depth : Nat}
    (hpos : 0 < depth) (chain : List String) {key : String} (hset : reg.sets[key]? = some set)
    {n : Nat} (hdepth : n < 2 ^ depth) (hn : n < 2 ^ 53) :
    ErrorsSatisfy WithinLimit String (reg.spell depth chain set (.ofNat n))
      (reg.spell depth chain set (.ofNat n)) := by
  induction depth generalizing chain key set n with
  | zero => cases hpos
  | succ depth ih =>
    refine spell_related (sequential_errorsSatisfy WithinLimit) ?_ ⟨rfl, ?_, ?_⟩
    · intro e he chain hdeep
      rw [hdeep] at he
      cases he
    · intro kind cases divisor e he chain hdeep
      rcases spellSelector_eq_error he with rfl | ⟨text, rfl⟩ <;> cases hdeep
    · intro rule hrule r value hcalls e he
      obtain ⟨htwo, m, hm, hvalue⟩ := hsplitting.halves h hset hn hrule hcalls
      -- A number that is split has two binary digits or more, so a level is left for the callee.
      have hleft : 0 < depth := by
        rcases Nat.eq_zero_or_pos depth with rfl | hleft
        · omega
        · exact hleft
      have hhalf : m < 2 ^ depth := by
        rw [Nat.pow_succ] at hdepth
        omega
      rcases spellTarget_ruleSet_eq_error he with ⟨-, rfl⟩ | ⟨callee, hcallee, he⟩
      · intro chain hdeep
        cases hdeep
      · rw [hvalue] at he
        exact ih hleft _ hcallee hhalf (by omega) e he

/-- If numeric rules only split numbers, spelling a number below `2 ^ 53` does not meet the limit of
a new registry, however the rule sets refer to one another. -/
theorem format_ne_tooDeep (h : reg.Built allowed) (hsplitting : reg.Splitting)
    (hlimit : reg.maxDepth = defaultMaxDepth) (name : String) {n : Nat} (hn : n < 2 ^ 53)
    (chain : List String) : reg.format name (.ofNat n) ≠ .error (.tooDeep chain) := by
  intro he
  rw [format, lookup] at he
  cases hset : reg.get? name with
  | none =>
    rw [hset] at he
    cases he
  | some set =>
    rw [hset, bind_ok, formatWith, hlimit] at he
    have hdepth : n < 2 ^ defaultMaxDepth := by
      calc n < 2 ^ 53 := hn
        _ ≤ 2 ^ defaultMaxDepth := Nat.pow_le_pow_right Nat.two_pos (by decide)
    exact spell_withinLimit h hsplitting (by decide) [] hset hdepth hn _ he chain rfl

/-- A set that has another one spell the binary digits of a number, and that never comes to an end
below zero. -/
def halver (name other : String) : RuleSet where
  name := name
  rules := [
    ⟨.negative, Key.defaultRadix, 1,
      [.part (.substitution .equal .identity (.ruleSet name))]⟩,
    ⟨.number 2, 2, 2,
      [.part (.substitution .less (.quotient 2) (.ruleSet other)),
        .part (.substitution .greater (.remainder 2) (.ruleSet other))]⟩,
    ⟨.number 1, Key.defaultRadix, 1, [.part (.literal "one")]⟩]

theorem compile_left : RuleSet.compile "%left" {}
    [("1", "one;"), ("2/2", "<%right<>%right>;"), ("-x", "=%left=;")] =
      .ok (halver "left" "right") := by
  cbv

theorem compile_right : RuleSet.compile "%right" {}
    [("1", "one;"), ("2/2", "<%left<>%left>;"), ("-x", "=%right=;")] =
      .ok (halver "right" "left") := by
  cbv

def halvers : Registry := (empty.insert (halver "left" "right")).insert (halver "right" "left")

theorem built_halvers : halvers.Built (· = {}) :=
  .insert (.insert (.start rfl) rfl compile_left) rfl compile_right

theorem splits_halver {name other : String} {rule : Rule} (h : rule ∈ (halver name other).rules) :
    rule.Splits := by
  intro b hbase node hnode marker op r hp
  simp only [halver, List.mem_cons, List.not_mem_nil, or_false] at h
  rcases h with rfl | rfl | rfl
  · cases hbase
  · cases hbase
    simp only [List.mem_cons, List.not_mem_nil, or_false] at hnode
    rcases hnode with rfl | rfl
    · cases List.mem_singleton.1 hp
      exact ⟨.inl rfl, Nat.le_refl 2⟩
    · cases List.mem_singleton.1 hp
      exact ⟨.inr rfl, Nat.le_refl 2⟩
  · rw [List.mem_singleton.1 hnode] at hp
    cases List.mem_singleton.1 hp

theorem splitting_halvers : halvers.Splitting := by
  intro key set hset rule hrule
  rw [halvers, getElem?_insert, getElem?_insert] at hset
  split at hset
  · cases hset
    exact splits_halver hrule
  · split at hset
    · cases hset
      exact splits_halver hrule
    · rw [empty, Std.ExtTreeMap.getElem?_empty] at hset
      cases hset

/-- The largest number below `2 ^ 53` has the most digits. -/
theorem format_halvers : halvers.Built (· = {}) ∧ halvers.Splitting ∧
    halvers.maxDepth = defaultMaxDepth ∧ 2 ^ 53 - 1 < 2 ^ 53 ∧
      ∀ chain, halvers.format "left" (.ofNat (2 ^ 53 - 1)) ≠ .error (.tooDeep chain) :=
  ⟨built_halvers, splitting_halvers, rfl, by norm_num,
    format_ne_tooDeep built_halvers splitting_halvers rfl "left" (by norm_num)⟩

end Registry

end NumberRules.Spelling
