import Mathlib
import NumberRules.Plural.Rules
import NumberRules.Proofs.Plural.Reader
import NumberRules.Proofs.Plural.Tokens

/-! # Which texts are conditions

The reader of conditions is sound and complete for the grammar at every depth of parentheses, the
depth being bounded by the number of tokens.  So a text is accepted exactly if it denotes a
condition, and that condition is the answer.
-/

namespace NumberRules.Plural
set_option autoImplicit false

namespace Condition

/-! ## Relations -/

/-- The tokens that may follow a term. -/
def afterTerm : List Token := [.keyword .and, .keyword .or, .mark .closing]

/-- The tokens that may follow a conjunction. -/
def afterConjunction : List Token := [.keyword .or, .mark .closing]

/-- The tokens that may follow a condition. -/
def afterCondition : List Token := [.mark .closing]

theorem isMod_of_mem_afterTerm {t : Token} (h : t ∈ afterTerm) : t.isMod = false := by
  simp only [afterTerm, List.mem_cons, List.not_mem_nil, or_false] at h
  rcases h with rfl | rfl | rfl <;> rfl

theorem ne_dots_of_mem_afterTerm {t : Token} (h : t ∈ afterTerm) : t ≠ .mark .dots := by
  rintro rfl
  simp [afterTerm] at h

theorem ne_comma_of_mem_afterTerm {t : Token} (h : t ∈ afterTerm) : t ≠ .mark .comma := by
  rintro rfl
  simp [afterTerm] at h

theorem readComparison_sound {negated : Bool} {lhs : Expr} {ls rest : List Located} {c : Condition}
    (h : readComparison negated lhs ls = .ok (c, rest)) :
    ∃ used rhs, ls = used ++ rest ∧ Expr.Derives (tokensOf used) rhs ∧ c = .is negated lhs rhs := by
  obtain ⟨⟨rhs, rest'⟩, hrhs, h⟩ := bind_eq_ok_iff.1 h
  simp only [Except.ok.injEq, Prod.mk.injEq] at h
  obtain ⟨rfl, rfl⟩ := h
  obtain ⟨used, rfl, hr⟩ := Expr.read_sound hrhs
  exact ⟨used, rhs, rfl, hr, rfl⟩

theorem readMembership_sound {membership : Membership} {negated : Bool} {subject : Expr}
    {ls rest : List Located} {c : Condition}
    (h : readMembership membership negated subject ls = .ok (c, rest)) :
    ∃ used items, ls = used ++ rest ∧ RangeItem.DerivesList (tokensOf used) items ∧
      c = .member membership negated subject items := by
  obtain ⟨⟨items, rest'⟩, hitems, h⟩ := bind_eq_ok_iff.1 h
  simp only [Except.ok.injEq, Prod.mk.injEq] at h
  obtain ⟨rfl, rfl⟩ := h
  obtain ⟨used, rfl, hi⟩ := RangeItem.readList_sound hitems
  exact ⟨used, items, rfl, hi, rfl⟩

/-- A membership after the tokens that ask for it. -/
theorem relation_of_membership (op : List Located) {ts : List Token} {ls rest : List Located}
    {subject : Expr} {membership : Membership} {negated : Bool} {c : Condition}
    (hs : Expr.Derives ts subject)
    (hop : Membership.Derives (tokensOf op) membership negated)
    (h : readMembership membership negated subject ls = .ok (c, rest)) :
    ∃ used, op ++ ls = used ++ rest ∧ Relation (ts ++ tokensOf used) c := by
  obtain ⟨used, items, rfl, hi, rfl⟩ := readMembership_sound h
  refine ⟨op ++ used, (List.append_assoc _ _ _).symm, ?_⟩
  rw [tokensOf, List.map_append]
  exact .member hs hop hi

theorem readRelationTail_sound {ts : List Token} {lhs : Expr} {ls rest : List Located}
    {c : Condition} (h : readRelationTail lhs ls = .ok (c, rest)) (hl : Expr.Derives ts lhs) :
    ∃ used, ls = used ++ rest ∧ Relation (ts ++ tokensOf used) c := by
  unfold readRelationTail at h
  split at h
  · rename_i is not after
    obtain ⟨used, rhs, rfl, hr, rfl⟩ := readComparison_sound h
    exact ⟨⟨.keyword .is, is⟩ :: ⟨.keyword .not, not⟩ :: used, rfl, .isNot hl hr⟩
  · rename_i is after _
    obtain ⟨used, rhs, rfl, hr, rfl⟩ := readComparison_sound h
    exact ⟨⟨.keyword .is, is⟩ :: used, rfl, .is hl hr⟩
  · rename_i text after
    exact relation_of_membership [⟨.keyword .isIn, text⟩] hl .isIn h
  · rename_i text after
    exact relation_of_membership [⟨.keyword .within, text⟩] hl .within h
  · rename_i not text after
    exact relation_of_membership [⟨.keyword .not, not⟩, ⟨.keyword .isIn, text⟩] hl .notIn h
  · rename_i not text after
    exact relation_of_membership [⟨.keyword .not, not⟩, ⟨.keyword .within, text⟩] hl
      .notWithin h
  · rename_i text after
    exact relation_of_membership [⟨.mark .notEquals, text⟩] hl .notEquals h
  · rename_i text after
    exact relation_of_membership [⟨.mark .equals, text⟩] hl .equals h
  · simp at h

theorem readRelation_sound : Sound readRelation Relation := by
  intro ls rest c h
  obtain ⟨⟨lhs, mid⟩, hlhs, htail⟩ := bind_eq_ok_iff.1 h
  obtain ⟨used, rfl, hl⟩ := Expr.read_sound hlhs
  obtain ⟨used', rfl, hc⟩ := readRelationTail_sound htail hl
  exact ⟨used ++ used', (List.append_assoc _ _ _).symm, by simpa [tokensOf] using hc⟩

theorem readComparison_complete {negated : Bool} {lhs rhs : Expr} {used rest : List Located}
    (h : Expr.Derives (tokensOf used) rhs) (hrest : Follow afterTerm rest) :
    readComparison negated lhs (used ++ rest) = .ok (.is negated lhs rhs, rest) := by
  rw [readComparison, Expr.read_complete h fun l hl => isMod_of_mem_afterTerm (hrest l hl)]
  rfl

theorem readMembership_complete {membership : Membership} {negated : Bool} {subject : Expr}
    {items : List RangeItem} {used rest : List Located}
    (h : RangeItem.DerivesList (tokensOf used) items) (hrest : Follow afterTerm rest) :
    readMembership membership negated subject (used ++ rest) =
      .ok (.member membership negated subject items, rest) := by
  rw [readMembership, RangeItem.readList_complete h
    (fun l hl => ne_dots_of_mem_afterTerm (hrest l hl))
    (fun l hl => ne_comma_of_mem_afterTerm (hrest l hl))]
  rfl

/-- Without `not` after it, `is` is not negated. -/
theorem readRelationTail_is {lhs rhs : Expr} (is : List Char) {used : List Located}
    (h : Expr.Derives (tokensOf used) rhs) (rest : List Located) :
    readRelationTail lhs (⟨.keyword .is, is⟩ :: (used ++ rest)) =
      readComparison false lhs (used ++ rest) := by
  obtain ⟨t, us, e, hts, hp⟩ := h.exists_cons
  obtain ⟨⟨_, text⟩, vs, rfl, rfl, -⟩ := List.map_eq_cons_iff.1 hts
  rcases hp with hn | o
  · obtain ⟨_⟩ := hn
    rfl
  · rfl

/-- The tokens that ask for a membership lead to its reader. -/
theorem readRelationTail_member {subject : Expr} {membership : Membership} {negated : Bool}
    {op : List Located} (h : Membership.Derives (tokensOf op) membership negated)
    (ls : List Located) :
    readRelationTail subject (op ++ ls) = readMembership membership negated subject ls := by
  match op, h with
  | [⟨.keyword .isIn, _⟩], .isIn => rfl
  | [⟨.keyword .not, _⟩, ⟨.keyword .isIn, _⟩], .notIn => rfl
  | [⟨.keyword .within, _⟩], .within => rfl
  | [⟨.keyword .not, _⟩, ⟨.keyword .within, _⟩], .notWithin => rfl
  | [⟨.mark .equals, _⟩], .equals => rfl
  | [⟨.mark .notEquals, _⟩], .notEquals => rfl

/-- A relation begins with an expression, which `is` or a word for membership ends. -/
theorem readRelation_of_read {lhs : Expr} {used tail : List Located}
    (h : Expr.Derives (tokensOf used) lhs) (htail : ∀ l ∈ tail.head?, l.token.isMod = false) :
    readRelation (used ++ tail) = readRelationTail lhs tail := by
  rw [readRelation, Expr.read_complete h htail, bind_ok]

theorem Membership.Derives.isMod_head {op : List Located} {membership : Membership}
    {negated : Bool} (h : Membership.Derives (tokensOf op) membership negated)
    (ls : List Located) : ∀ l ∈ (op ++ ls).head?, l.token.isMod = false := by
  match op, h with
  | [⟨.keyword .isIn, _⟩], .isIn => simp [Token.isMod]
  | [⟨.keyword .not, _⟩, ⟨.keyword .isIn, _⟩], .notIn => simp [Token.isMod]
  | [⟨.keyword .within, _⟩], .within => simp [Token.isMod]
  | [⟨.keyword .not, _⟩, ⟨.keyword .within, _⟩], .notWithin => simp [Token.isMod]
  | [⟨.mark .equals, _⟩], .equals => simp [Token.isMod]
  | [⟨.mark .notEquals, _⟩], .notEquals => simp [Token.isMod]

theorem readRelation_complete {used rest : List Located} {c : Condition}
    (h : Relation (tokensOf used) c) (hrest : Follow afterTerm rest) :
    readRelation (used ++ rest) = .ok (c, rest) := by
  generalize hts : tokensOf used = ts at h
  cases h with
  | is hl hr =>
    obtain ⟨us, tail, rfl, rfl, htail⟩ := List.map_eq_append_iff.1 hts
    obtain ⟨⟨_, is⟩, vs, rfl, rfl, rfl⟩ := List.map_eq_cons_iff.1 htail
    rw [List.append_assoc, readRelation_of_read hl (by simp [Token.isMod]), List.cons_append,
      readRelationTail_is is hr rest, readComparison_complete hr hrest]
  | isNot hl hr =>
    obtain ⟨us, tail, rfl, rfl, htail⟩ := List.map_eq_append_iff.1 hts
    obtain ⟨⟨_, is⟩, tail', rfl, rfl, htail'⟩ := List.map_eq_cons_iff.1 htail
    obtain ⟨⟨_, not⟩, vs, rfl, rfl, rfl⟩ := List.map_eq_cons_iff.1 htail'
    rw [List.append_assoc, readRelation_of_read hl (by simp [Token.isMod])]
    exact readComparison_complete hr hrest
  | member hs hop hi =>
    obtain ⟨us, tail, rfl, rfl, htail⟩ := List.map_eq_append_iff.1 hts
    obtain ⟨op, vs, rfl, rfl, rfl⟩ := List.map_eq_append_iff.1 htail
    rw [List.append_assoc, List.append_assoc,
      readRelation_of_read hs (Membership.Derives.isMod_head hop _),
      readRelationTail_member hop, readMembership_complete hi hrest]

/-! ## Terms -/

/-- A relation begins with a number or an operand. -/
theorem Relation.exists_cons {ts : List Token} {c : Condition} (h : Relation ts c) :
    ∃ t us e, ts = t :: us ∧ Primary t e := by
  have hhead : ∀ {us vs : List Token} {e : Expr}, Expr.Derives us e →
      ∃ t ws e', us ++ vs = t :: ws ∧ Primary t e' := by
    intro us vs e he
    obtain ⟨t, ws, e', rfl, hp⟩ := he.exists_cons
    exact ⟨t, ws ++ vs, e', rfl, hp⟩
  cases h with
  | is hl _ => exact hhead hl
  | isNot hl _ => exact hhead hl
  | member hs _ _ => exact hhead hs

theorem readPlain_sound {inner : Reader Condition} (hinner : Sound inner (Derives .condition)) :
    Sound (readPlain inner) (Derives .plain) := by
  intro ls rest c h
  unfold readPlain at h
  split at h
  · rename_i opening after
    obtain ⟨⟨c', mid⟩, hc, htail⟩ := bind_eq_ok_iff.1 h
    obtain ⟨used, rfl, hd⟩ := hinner hc
    dsimp only at htail
    split at htail
    · rename_i closing after'
      simp only [Except.ok.injEq, Prod.mk.injEq] at htail
      obtain ⟨rfl, rfl⟩ := htail
      refine ⟨⟨.mark .opening, opening⟩ :: (used ++ [⟨.mark .closing, closing⟩]), by simp, ?_⟩
      simpa [tokensOf] using Derives.parenthesized hd
    · simp at htail
  · obtain ⟨used, rfl, hr⟩ := readRelation_sound h
    exact ⟨used, rfl, .relation hr⟩

theorem readTerm_sound {inner : Reader Condition} (hinner : Sound inner (Derives .condition)) :
    Sound (readTerm inner) (Derives .term) := by
  intro ls rest c h
  unfold readTerm at h
  split at h
  · rename_i not after
    obtain ⟨⟨c', mid⟩, hc, htail⟩ := bind_eq_ok_iff.1 h
    simp only [Except.ok.injEq, Prod.mk.injEq] at htail
    obtain ⟨rfl, rfl⟩ := htail
    obtain ⟨used, rfl, hd⟩ := readPlain_sound hinner hc
    exact ⟨⟨.keyword .not, not⟩ :: used, rfl, .not hd⟩
  · obtain ⟨used, rfl, hd⟩ := readPlain_sound hinner h
    exact ⟨used, rfl, .plain hd⟩

theorem readPlain_complete {inner : Reader Condition} {n : Nat}
    (hinner : Complete inner (Derives .condition) afterCondition n) :
    Complete (readPlain inner) (Derives .plain) afterTerm (n + 1) := by
  intro used rest c h hlen hrest
  generalize hts : tokensOf used = ts at h
  cases h with
  | parenthesized hc =>
    obtain ⟨⟨_, opening⟩, tail, rfl, rfl, htail⟩ := List.map_eq_cons_iff.1 hts
    obtain ⟨us, last, rfl, rfl, hlast⟩ := List.map_eq_append_iff.1 htail
    obtain ⟨⟨_, closing⟩, after, rfl, rfl, hnil⟩ := List.map_eq_cons_iff.1 hlast
    rw [List.map_eq_nil_iff.1 hnil] at hlen ⊢
    have hshort : us.length ≤ n := by
      simp only [List.length_cons, List.length_append] at hlen
      omega
    have hstop : Follow afterCondition (⟨.mark .closing, closing⟩ :: rest) :=
      follow_cons rest (by simp [afterCondition])
    have hread := hinner hc hshort hstop
    simp only [List.cons_append, List.append_assoc, List.nil_append, readPlain, readClosed, hread,
      bind_ok]
  | relation hr =>
    obtain ⟨t, us, e, rfl, hp⟩ := hr.exists_cons
    obtain ⟨⟨_, text⟩, tail, rfl, rfl, -⟩ := List.map_eq_cons_iff.1 hts
    have hread := readRelation_complete (hts ▸ hr) hrest
    rcases hp with hn | o
    · obtain ⟨_⟩ := hn
      exact hread
    · exact hread

/-- A plain term does not begin with `not`. -/
theorem exists_head_of_plain {ts : List Token} {c : Condition} (h : Derives .plain ts c) :
    ∃ t us, ts = t :: us ∧ t ≠ .keyword .not := by
  cases h with
  | parenthesized _ => exact ⟨_, _, rfl, by simp⟩
  | relation hr =>
    obtain ⟨t, us, e, rfl, hprimary⟩ := hr.exists_cons
    refine ⟨t, us, rfl, ?_⟩
    rcases hprimary with hn | o
    · obtain ⟨_⟩ := hn
      simp
    · simp

theorem readTerm_complete {inner : Reader Condition} {n : Nat}
    (hinner : Complete inner (Derives .condition) afterCondition n) :
    Complete (readTerm inner) (Derives .term) afterTerm (n + 1) := by
  intro used rest c h hlen hrest
  generalize hts : tokensOf used = ts at h
  cases h with
  | not hp =>
    obtain ⟨⟨_, not⟩, us, rfl, rfl, rfl⟩ := List.map_eq_cons_iff.1 hts
    have hshort : us.length ≤ n + 1 := by
      rw [List.length_cons] at hlen
      omega
    rw [List.cons_append, readTerm, readPlain_complete hinner hp hshort hrest]
    rfl
  | plain hp =>
    have hread := readPlain_complete hinner (hts ▸ hp) hlen hrest
    obtain ⟨t, us, rfl, hne⟩ := exists_head_of_plain hp
    obtain ⟨l, tail, rfl, hl, -⟩ := List.map_eq_cons_iff.1 hts
    rw [List.cons_append] at hread ⊢
    unfold readTerm
    split
    · rename_i heq
      simp only [List.cons.injEq] at heq
      rw [heq.1] at hl
      exact absurd hl.symm hne
    · exact hread

/-! ## Chains -/

/-- One or more parts with a word between neighbours, joined to the left. -/
inductive Chain (word : Keyword) (join : Condition → Condition → Condition)
    (R : List Token → Condition → Prop) : List Token → Condition → Prop
  | single {ts : List Token} {c : Condition} (h : R ts c) : Chain word join R ts c
  | snoc {ts us : List Token} {lhs rhs : Condition} (hl : Chain word join R ts lhs)
      (hr : R us rhs) :
      Chain word join R (ts ++ .keyword word :: us) (join lhs rhs)

theorem chain_of_derives_condition {ts : List Token} {c : Condition}
    (h : Derives .condition ts c) : Chain .or .or (Derives .conjunction) ts c := by
  generalize hp : Phrase.condition = p at h
  induction h with
  | conjunction h _ => exact .single h
  | or _ hr ihl _ => exact .snoc (ihl hp) hr
  | _ => simp at hp

theorem chain_of_derives_conjunction {ts : List Token} {c : Condition}
    (h : Derives .conjunction ts c) : Chain .and .and (Derives .term) ts c := by
  generalize hp : Phrase.conjunction = p at h
  induction h with
  | term h _ => exact .single h
  | and _ hr ihl _ => exact .snoc (ihl hp) hr
  | _ => simp at hp

theorem derives_condition_of_chain {ts : List Token} {c : Condition}
    (h : Chain .or .or (Derives .conjunction) ts c) : Derives .condition ts c := by
  induction h with
  | single h => exact .conjunction h
  | snoc _ hr ih => exact .or ih hr

theorem derives_conjunction_of_chain {ts : List Token} {c : Condition}
    (h : Chain .and .and (Derives .term) ts c) : Derives .conjunction ts c := by
  induction h with
  | single h => exact .term h
  | snoc _ hr ih => exact .and ih hr

section Chains
variable {word : Keyword} {join : Condition → Condition → Condition} {part : Reader Condition}
  {R : List Token → Condition → Prop}

theorem readJoined_sound (hpart : Sound part R) {count : Nat} {ts : List Token} {lhs c : Condition}
    {ls rest : List Located} (hl : Chain word join R ts lhs)
    (h : readJoined word join part count lhs ls = .ok (c, rest)) :
    ∃ used, ls = used ++ rest ∧ Chain word join R (ts ++ tokensOf used) c := by
  induction count generalizing ts lhs ls with
  | zero =>
    simp only [readJoined, Except.ok.injEq, Prod.mk.injEq] at h
    obtain ⟨rfl, rfl⟩ := h
    exact ⟨[], rfl, by simpa using hl⟩
  | succ count ih =>
    cases ls with
    | nil =>
      simp only [readJoined, Except.ok.injEq, Prod.mk.injEq] at h
      obtain ⟨rfl, rfl⟩ := h
      exact ⟨[], rfl, by simpa using hl⟩
    | cons t ls =>
      rw [readJoined] at h
      split at h
      · rename_i hword
        obtain ⟨⟨rhs, mid⟩, hrhs, htail⟩ := bind_eq_ok_iff.1 h
        obtain ⟨us, rfl, hr⟩ := hpart hrhs
        obtain ⟨used, rfl, hc⟩ := ih (.snoc hl hr) htail
        refine ⟨t :: (us ++ used), by simp, ?_⟩
        simpa [tokensOf, hword] using hc
      · simp only [Except.ok.injEq, Prod.mk.injEq] at h
        obtain ⟨rfl, rfl⟩ := h
        exact ⟨[], rfl, by simpa using hl⟩

theorem readChain_sound (hpart : Sound part R) :
    Sound (readChain word join part) (Chain word join R) := by
  intro ls rest c h
  obtain ⟨⟨first, mid⟩, hfirst, htail⟩ := bind_eq_ok_iff.1 h
  obtain ⟨us, rfl, hr⟩ := hpart hfirst
  obtain ⟨used, rfl, hc⟩ := readJoined_sound hpart (.single hr) htail
  exact ⟨us ++ used, (List.append_assoc _ _ _).symm, by simpa [tokensOf] using hc⟩

/-- After a chain its reader is in the loop, with the tree of the chain and a count that suffices
for the tokens that follow. -/
theorem readChain_append {allowed : List Token} {n : Nat} {ts : List Token} {c : Condition}
    (hpart : Complete part R (.keyword word :: allowed) n) (h : Chain word join R ts c)
    {used rest : List Located} (hused : tokensOf used = ts) (hlen : used.length ≤ n)
    (hrest : Follow (.keyword word :: allowed) rest) :
    ∃ count, rest.length ≤ count ∧
      readChain word join part (used ++ rest) = readJoined word join part count c rest := by
  induction h generalizing used rest with
  | single hr =>
    refine ⟨rest.length, Nat.le_refl _, ?_⟩
    rw [readChain, hpart (hused ▸ hr) hlen hrest, bind_ok]
  | @snoc ts us lhs rhs _ hr ih =>
    obtain ⟨vs, tail, rfl, hvs, htail⟩ := List.map_eq_append_iff.1 hused
    obtain ⟨l, ws, rfl, hl, rfl⟩ := List.map_eq_cons_iff.1 htail
    simp only [List.length_append, List.length_cons] at hlen
    have hstop : Follow (.keyword word :: allowed) (l :: (ws ++ rest)) :=
      follow_cons _ (by simp [hl])
    obtain ⟨count, hcount, hread⟩ := ih hvs (by omega) hstop
    cases count with
    | zero => simp at hcount
    | succ count =>
      simp only [List.length_append, List.length_cons] at hcount
      refine ⟨count, by omega, ?_⟩
      rw [List.append_assoc, List.cons_append, hread, readJoined, if_pos hl,
        hpart hr (by omega) hrest, bind_ok]

theorem readJoined_of_follow {allowed : List Token} (hword : .keyword word ∉ allowed) (count : Nat)
    (c : Condition) {rest : List Located} (hrest : Follow allowed rest) :
    readJoined word join part count c rest = .ok (c, rest) := by
  cases count with
  | zero => rfl
  | succ count =>
    cases rest with
    | nil => rfl
    | cons t rest =>
      have hmem : t.token ∈ allowed := hrest t (Option.mem_some_self t)
      have hne : t.token ≠ .keyword word := fun heq => hword (heq ▸ hmem)
      rw [readJoined, if_neg hne]

theorem readChain_complete {allowed : List Token} {n : Nat} (hword : .keyword word ∉ allowed)
    (hpart : Complete part R (.keyword word :: allowed) n) :
    Complete (readChain word join part) (Chain word join R) allowed n := by
  intro used rest c h hlen hrest
  obtain ⟨count, -, hread⟩ := readChain_append hpart h rfl hlen
    (hrest.mono (List.subset_cons_self _ _))
  rw [hread, readJoined_of_follow hword count c hrest]

end Chains

/-! ## Conditions -/

theorem readConjunction_sound {inner : Reader Condition}
    (hinner : Sound inner (Derives .condition)) :
    Sound (readChain .and .and (readTerm inner)) (Derives .conjunction) := by
  intro ls rest c h
  obtain ⟨used, hls, hc⟩ := readChain_sound (readTerm_sound hinner) h
  exact ⟨used, hls, derives_conjunction_of_chain hc⟩

theorem readWithin_sound (depth : Nat) : Sound (readWithin depth) (Derives .condition) := by
  induction depth with
  | zero =>
    intro ls rest c h
    simp [readWithin] at h
  | succ depth ih =>
    intro ls rest c h
    obtain ⟨used, hls, hc⟩ := readChain_sound (readConjunction_sound ih) h
    exact ⟨used, hls, derives_condition_of_chain hc⟩

theorem readWithin_complete (depth : Nat) :
    Complete (readWithin depth) (Derives .condition) afterCondition depth := by
  induction depth with
  | zero =>
    intro used rest c h hlen _
    exact absurd (List.map_eq_nil_iff.2 (List.length_eq_zero_iff.1 (Nat.le_zero.1 hlen))) h.ne_nil
  | succ depth ih =>
    have hand : Complete (readChain .and .and (readTerm (readWithin depth)))
        (Derives .conjunction) afterConjunction (depth + 1) := by
      intro used rest c h hlen hrest
      exact readChain_complete (by simp) (readTerm_complete ih)
        (chain_of_derives_conjunction h) hlen hrest
    intro used rest c h hlen hrest
    exact readChain_complete (by simp) hand (chain_of_derives_condition h) hlen hrest

theorem read_sound : Sound read (Derives .condition) := fun h => readWithin_sound _ h

theorem read_of_derives {ls : List Located} {c : Condition}
    (h : Derives .condition (tokensOf ls) c) : read ls = .ok (c, []) := by
  have hread := readWithin_complete (ls.length + 1) h (Nat.le_succ _) (follow_nil afterCondition)
  rwa [List.append_nil] at hread

/-! ## From text -/

theorem denotes_of_parse {text : String} {c : Condition} (h : parse text = .ok c) :
    Denotes text c := by
  simp only [parse] at h
  split at h
  · simp at h
  · split at h
    · rename_i c' hread
      simp only [Except.ok.injEq] at h
      subst h
      obtain ⟨used, hused, hd⟩ := read_sound hread
      rw [List.append_nil] at hused
      rw [← hused] at hd
      exact denotes_iff.2 ⟨_, Token.splits_lex _ hd.allKnown, hd⟩
    · simp at h
    · simp at h

theorem parse_of_denotes {text : String} {c : Condition} (h : Denotes text c) :
    parse text = .ok c := by
  obtain ⟨ts, hs, hd⟩ := denotes_iff.1 h
  have htokens := Token.tokens_lex_of_splits hs
  have hne : (normalize text).isEmpty = false := by
    by_contra hempty
    have hnil : normalize text = "" := by simpa using hempty
    rw [hnil] at htokens
    exact hd.ne_nil (by simpa [Token.lex] using htokens.symm)
  have hread : read (Token.lex (normalize text).toList) = .ok (c, []) :=
    read_of_derives (by rw [tokensOf, htokens]; exact hd)
  simp [parse, hne, hread]

/-- A text compiles to a condition exactly if it denotes it, and is refused as a condition that
cannot be read if it denotes none. -/
theorem compile_eq_ok_iff_denotes (text : String) :
    (∀ c, compile text = .ok c ↔ Denotes text c) ∧
      ((∃ c, Denotes text c) ∨ ∃ e, compile text = .error (.conditionSyntax e)) := by
  constructor
  · intro c
    constructor
    · intro h
      cases hparse : parse text with
      | error e => simp [compile, hparse, Except.mapError] at h
      | ok c' =>
        simp only [compile, hparse, Except.mapError, Except.ok.injEq] at h
        exact h ▸ denotes_of_parse hparse
    · intro h
      simp [compile, parse_of_denotes h, Except.mapError]
  · cases hparse : parse text with
    | error e => exact .inr ⟨e, by simp [compile, hparse, Except.mapError]⟩
    | ok c => exact .inl ⟨c, denotes_of_parse hparse⟩

end Condition

end NumberRules.Plural
