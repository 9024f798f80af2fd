import Mathlib
import NumberRules.Proofs.Plural.Acceptance

/-! # Writing a condition and reading it again

The text of a condition has no parentheses between equal words, so a conjunction or disjunction that
nests to the right is read back nested to the left.  `Equivalent` is what survives: the truth of the
condition, the operands it reads, and its text.  Since the text survives, a second round gives the
same tree as the first.
-/

namespace NumberRules.Plural
set_option autoImplicit false

/-! ## Conditions that can be read back -/

/-- An expression without `mod`. -/
def Expr.Single : Expr → Prop
  | literal _ => True
  | operand _ => True
  | mod _ _ => False

/-- An expression in which the right side of every `mod` is a number or an operand. -/
def Expr.LeftNested : Expr → Prop
  | literal _ => True
  | operand _ => True
  | mod lhs rhs => lhs.LeftNested ∧ rhs.Single

/-- A condition whose expressions nest to the left and whose range lists are not empty. -/
def Condition.Readable : Condition → Prop
  | .is _ lhs rhs => lhs.LeftNested ∧ rhs.LeftNested
  | .member _ _ subject items => subject.LeftNested ∧ items ≠ []
  | .and lhs rhs => lhs.Readable ∧ rhs.Readable
  | .or lhs rhs => lhs.Readable ∧ rhs.Readable
  | .not inner => inner.Readable

theorem Primary.single {t : Token} {e : Expr} (h : Primary t e) : e.Single := by
  cases h <;> trivial

theorem Expr.Derives.leftNested {ts : List Token} {e : Expr} (h : Expr.Derives ts e) :
    e.LeftNested := by
  induction h with
  | primary hp => cases hp <;> trivial
  | mod _ _ hr ih => exact ⟨ih, hr.single⟩

theorem RangeItem.DerivesList.items_ne_nil {ts : List Token} {items : List RangeItem}
    (h : RangeItem.DerivesList ts items) : items ≠ [] := by
  cases h <;> simp

namespace Condition

theorem Relation.readable {ts : List Token} {c : Condition} (h : Relation ts c) : c.Readable := by
  cases h with
  | is hl hr => exact ⟨hl.leftNested, hr.leftNested⟩
  | isNot hl hr => exact ⟨hl.leftNested, hr.leftNested⟩
  | member hs _ hi => exact ⟨hs.leftNested, hi.items_ne_nil⟩

theorem Derives.readable {p : Phrase} {ts : List Token} {c : Condition} (h : Derives p ts c) :
    c.Readable := by
  induction h with
  | conjunction _ ih => exact ih
  | or _ _ ihl ihr => exact ⟨ihl, ihr⟩
  | term _ ih => exact ih
  | and _ _ ihl ihr => exact ⟨ihl, ihr⟩
  | plain _ ih => exact ih
  | not _ ih => exact ih
  | parenthesized _ ih => exact ih
  | relation h => exact h.readable

end Condition

/-! ## Tokens of expressions and range lists -/

theorem word_toNat (n : UInt64) : Word (.number n.toNat) n := by
  have h := Word.number n.toNat_lt
  rwa [UInt64.ofNat_toNat] at h

theorem Expr.Single.exists_primary {e : Expr} (h : e.Single) :
    ∃ t, e.tokens = [t] ∧ Primary t e := by
  cases e with
  | literal n => exact ⟨_, rfl, .literal (word_toNat n)⟩
  | operand o => exact ⟨_, rfl, .operand o⟩
  | mod lhs rhs => exact h.elim

theorem Expr.derives_tokens {e : Expr} (h : e.LeftNested) : Expr.Derives e.tokens e := by
  induction e with
  | literal n => exact .primary (.literal (word_toNat n))
  | operand o => exact .primary (.operand o)
  | mod lhs rhs ihl _ =>
    obtain ⟨t, ht, hp⟩ := h.2.exists_primary
    rw [Expr.tokens, ht]
    exact .mod (ihl h.1) (.inl rfl) hp

theorem RangeItem.derives_tokens (item : RangeItem) : RangeItem.Derives item.tokens item := by
  cases item with
  | value n => exact .value (word_toNat n)
  | range low high => exact .range (word_toNat low) (word_toNat high)

theorem derivesList_rangeTokens {items : List RangeItem} (h : items ≠ []) :
    RangeItem.DerivesList (rangeTokens items) items := by
  induction items with
  | nil => exact absurd rfl h
  | cons item items ih =>
    cases items with
    | nil => exact .single item.derives_tokens
    | cons next items => exact .cons item.derives_tokens (ih (List.cons_ne_nil _ _))

namespace Condition

/-! ## Equivalence -/

/-- The same truth, the same operands and the same text. -/
structure Equivalent (c c' : Condition) : Prop where
  /-- The conditions hold for the same operand values. -/
  holds : ∀ os : Operands, c'.holds os = c.holds os
  operands : c'.operands = c.operands
  tokens : c'.tokens = c.tokens
  /-- Inside a conjunction both get parentheses, or neither. -/
  isOr : c'.isOr = c.isOr

namespace Equivalent

theorem refl (c : Condition) : Equivalent c c := ⟨fun _ => rfl, rfl, rfl, rfl⟩

theorem trans {a b c : Condition} (hab : Equivalent a b) (hbc : Equivalent b c) :
    Equivalent a c where
  holds os := (hbc.holds os).trans (hab.holds os)
  operands := hbc.operands.trans hab.operands
  tokens := hbc.tokens.trans hab.tokens
  isOr := hbc.isOr.trans hab.isOr

theorem or {a a' b b' : Condition} (ha : Equivalent a a') (hb : Equivalent b b') :
    Equivalent (.or a b) (.or a' b') where
  holds os := by simp only [Condition.holds, ha.holds, hb.holds]
  operands := by simp only [Condition.operands, ha.operands, hb.operands]
  tokens := by simp only [Condition.tokens, ha.tokens, hb.tokens]
  isOr := rfl

theorem and {a a' b b' : Condition} (ha : Equivalent a a') (hb : Equivalent b b') :
    Equivalent (.and a b) (.and a' b') where
  holds os := by simp only [Condition.holds, ha.holds, hb.holds]
  operands := by simp only [Condition.operands, ha.operands, hb.operands]
  tokens := by simp only [Condition.tokens, ha.tokens, hb.tokens, ha.isOr, hb.isOr]
  isOr := rfl

theorem not {a a' : Condition} (ha : Equivalent a a') : Equivalent (.not a) (.not a') where
  holds os := by simp only [Condition.holds, ha.holds]
  operands := by simp only [Condition.operands, ha.operands]
  tokens := by simp only [Condition.tokens, ha.tokens]
  isOr := rfl

theorem union_assoc (a b c : OperandSet) : a ∪ b ∪ c = a ∪ (b ∪ c) := by
  apply OperandSet.ext
  funext o
  exact Bool.or_assoc _ _ _

theorem or_assoc (a b c : Condition) : Equivalent (.or a (.or b c)) (.or (.or a b) c) where
  holds os := by simp only [Condition.holds, Bool.or_assoc]
  operands := by simp only [Condition.operands, union_assoc]
  tokens := by simp [Condition.tokens]
  isOr := rfl

theorem and_assoc (a b c : Condition) : Equivalent (.and a (.and b c)) (.and (.and a b) c) where
  holds os := by simp only [Condition.holds, Bool.and_assoc]
  operands := by simp only [Condition.operands, union_assoc]
  tokens := by simp [Condition.tokens, Condition.isOr, parenthesized]
  isOr := rfl

end Equivalent

/-! ## Joining derivations

The right side of a join may itself be a chain.  Its parts then move to the left one by one, from
its last part inwards: the induction is on the derivation of the right side.
-/

theorem exists_derives_or {ts us : List Token} {a b : Condition} (ha : Derives .condition ts a)
    (hb : Derives .condition us b) :
    ∃ c, Derives .condition (ts ++ .keyword .or :: us) c ∧ Equivalent (.or a b) c := by
  generalize hp : Phrase.condition = p at hb
  induction hb with
  | conjunction h _ => exact ⟨_, .or ha h, .refl _⟩
  | @or us vs b₁ b₂ _ hr ihl _ =>
    obtain ⟨c, hc, heq⟩ := ihl hp
    refine ⟨.or c b₂, ?_, (Equivalent.or_assoc a b₁ b₂).trans (heq.or (.refl b₂))⟩
    have h := Derives.or hc hr
    rwa [List.append_assoc, List.cons_append] at h
  | _ => simp at hp

theorem exists_derives_and {ts us : List Token} {a b : Condition} (ha : Derives .conjunction ts a)
    (hb : Derives .conjunction us b) :
    ∃ c, Derives .conjunction (ts ++ .keyword .and :: us) c ∧ Equivalent (.and a b) c := by
  generalize hp : Phrase.conjunction = p at hb
  induction hb with
  | term h _ => exact ⟨_, .and ha h, .refl _⟩
  | @and us vs b₁ b₂ _ hr ihl _ =>
    obtain ⟨c, hc, heq⟩ := ihl hp
    refine ⟨.and c b₂, ?_, (Equivalent.and_assoc a b₁ b₂).trans (heq.and (.refl b₂))⟩
    have h := Derives.and hc hr
    rwa [List.append_assoc, List.cons_append] at h
  | _ => simp at hp

/-- The tokens of a condition derive `c'`, as a conjunction if the condition is no disjunction. -/
structure ReadsAs (c c' : Condition) : Prop where
  derives : Derives .condition c.tokens c'
  /-- Without `or` outside parentheses they are a conjunction. -/
  conjunction : c.isOr = false → Derives .conjunction c.tokens c'
  equivalent : Equivalent c c'

theorem ReadsAs.of_conjunction {c c' : Condition} (h : Derives .conjunction c.tokens c')
    (heq : Equivalent c c') : ReadsAs c c' := ⟨.conjunction h, fun _ => h, heq⟩

theorem ReadsAs.of_plain {c c' : Condition} (h : Derives .plain c.tokens c')
    (heq : Equivalent c c') : ReadsAs c c' := .of_conjunction (.term (.plain h)) heq

/-- A side of a conjunction, in parentheses if it is a disjunction. -/
theorem ReadsAs.side {c c' : Condition} (h : ReadsAs c c') :
    Derives .conjunction (parenthesized c.isOr c.tokens) c' := by
  cases hor : c.isOr with
  | false => exact h.conjunction hor
  | true => exact .term (.plain (.parenthesized h.derives))

theorem relation_tokens_is (negated : Bool) {lhs rhs : Expr} (hl : lhs.LeftNested)
    (hr : rhs.LeftNested) :
    Relation (Condition.is negated lhs rhs).tokens (.is negated lhs rhs) := by
  cases negated with
  | false => exact .is (Expr.derives_tokens hl) (Expr.derives_tokens hr)
  | true => exact .isNot (Expr.derives_tokens hl) (Expr.derives_tokens hr)

theorem membership_tokens (membership : Membership) (negated : Bool) :
    Membership.Derives ((if negated then [.keyword .not] else []) ++
      [.keyword membership.keyword]) membership negated := by
  cases membership <;> cases negated
  · exact .isIn
  · exact .notIn
  · exact .within
  · exact .notWithin

theorem relation_tokens_member (membership : Membership) (negated : Bool) {subject : Expr}
    {items : List RangeItem} (hs : subject.LeftNested) (hi : items ≠ []) :
    Relation (Condition.member membership negated subject items).tokens
      (.member membership negated subject items) := by
  have h := Relation.member (Expr.derives_tokens hs) (membership_tokens membership negated)
    (derivesList_rangeTokens hi)
  rwa [List.append_assoc, List.singleton_append] at h

theorem exists_readsAs {c : Condition} (h : c.Readable) : ∃ c', ReadsAs c c' := by
  induction c with
  | is negated lhs rhs =>
    exact ⟨_, .of_plain (.relation (relation_tokens_is negated h.1 h.2)) (.refl _)⟩
  | member membership negated subject items =>
    exact ⟨_, .of_plain (.relation (relation_tokens_member membership negated h.1 h.2)) (.refl _)⟩
  | and lhs rhs ihl ihr =>
    obtain ⟨l, hl⟩ := ihl h.1
    obtain ⟨r, hr⟩ := ihr h.2
    obtain ⟨c, hc, heq⟩ := exists_derives_and hl.side hr.side
    exact ⟨c, .of_conjunction hc ((hl.equivalent.and hr.equivalent).trans heq)⟩
  | or lhs rhs ihl ihr =>
    obtain ⟨l, hl⟩ := ihl h.1
    obtain ⟨r, hr⟩ := ihr h.2
    obtain ⟨c, hc, heq⟩ := exists_derives_or hl.derives hr.derives
    exact ⟨c, hc, by simp [isOr], (hl.equivalent.or hr.equivalent).trans heq⟩
  | not inner ih =>
    obtain ⟨c, hc⟩ := ih h
    exact ⟨.not c, .of_conjunction (.term (.not (.parenthesized hc.derives))) hc.equivalent.not⟩

/-! ## The round trip -/

/-- A condition whose tokens derive a tree is read back as that tree. -/
theorem parse_text_of_derives {c c' : Condition} (h : Derives .condition c.tokens c') :
    parse c.text = .ok c' := by
  refine parse_of_denotes (denotes_iff.2 ⟨c.tokens, ?_, h⟩)
  rw [text, Token.normalize_render h.ne_nil h.allKnown, String.toList_ofList]
  exact Token.splits_render h.allKnown

/-- Conditions that are read nest to the left and have no empty range list; and such a condition,
written and read, comes back with the same truth, operands and text, so that another round changes
nothing more. -/
theorem parse_text_roundTrip :
    (∀ text c, parse text = .ok c → c.Readable) ∧
      ∀ c : Condition, c.Readable → ∃ c', parse c.text = .ok c' ∧
        (∀ os : Operands, c'.holds os = c.holds os) ∧ c'.operands = c.operands ∧
        c'.text = c.text ∧ parse c'.text = .ok c' := by
  constructor
  · intro text c h
    obtain ⟨ts, -, hd⟩ := denotes_iff.1 (denotes_of_parse h)
    exact hd.readable
  · intro c h
    obtain ⟨c', hc⟩ := exists_readsAs h
    have hparse := parse_text_of_derives hc.derives
    have htext : c'.text = c.text := by rw [text, text, hc.equivalent.tokens]
    exact ⟨c', hparse, hc.equivalent.holds, hc.equivalent.operands, htext, htext ▸ hparse⟩

/-- A conjunction that nests to the right, with a disjunction inside. -/
def rightNested : Condition :=
  .and (.is false (.mod (.operand .n) (.literal 10)) (.literal 1))
    (.and (.or (.is true (.operand .f) (.literal 0))
      (.member .within false (.operand .n) [.value 7]))
      (.not (.member .whole true (.operand .v) [.value 0, .range 2 4])))

theorem parse_text_rightNested :
    rightNested.Readable ∧ ∃ c', parse rightNested.text = .ok c' ∧
      (∀ os : Operands, c'.holds os = rightNested.holds os) ∧
      c'.operands = rightNested.operands ∧ c'.text = rightNested.text ∧
      parse c'.text = .ok c' := by
  have h : rightNested.Readable := by
    simp [rightNested, Readable, Expr.LeftNested, Expr.Single]
  exact ⟨h, parse_text_roundTrip.2 rightNested h⟩

end Condition

end NumberRules.Plural
