import Mathlib
import NumberRules.Proofs.Plural.Acceptance

/-! # Where the reader of conditions fails

A reader that fails leaves the tokens from the first one that cannot be taken.  What it has taken by
then begins a phrase: there are tokens that complete it.  So no reader goes on after the place where
the phrase is lost, however its parts are nested, and a depth of parentheses that is used up makes
no difference, since nothing is read there.
-/

namespace NumberRules.Plural
set_option autoImplicit false

variable {α β : Type}

/-- Some tokens are missing that make a phrase of these. -/
def Completable (R : List Token → α → Prop) (ts : List Token) : Prop :=
  ∃ more x, more ≠ [] ∧ R (ts ++ more) x

/-- The reader fails only where it can still get what it looks for. -/
def Viable (r : Reader α) (R : List Token → α → Prop) : Prop :=
  ∀ {ls rest : List Located}, r ls = .error rest →
    ∃ used, ls = used ++ rest ∧ Completable R (tokensOf used)

/-- The beginning of a phrase is the beginning of every phrase that contains it, after what precedes
it there. -/
theorem Completable.inside {R : List Token → α → Prop} {S : List Token → β → Prop} {ts : List Token}
    (h : Completable R ts) (before after : List Token)
    (hS : ∀ us x, R us x → ∃ y, S (before ++ (us ++ after)) y) : Completable S (before ++ ts) := by
  obtain ⟨more, x, hne, hx⟩ := h
  obtain ⟨y, hy⟩ := hS _ _ hx
  refine ⟨more ++ after, y, ?_, ?_⟩
  · simp [hne]
  · simpa using hy

theorem Completable.mono {R : List Token → α → Prop} {S : List Token → β → Prop} {ts : List Token}
    (h : Completable R ts) (hS : ∀ us x, R us x → ∃ y, S us y) : Completable S ts := by
  obtain ⟨more, x, hne, hx⟩ := h
  obtain ⟨y, hy⟩ := hS _ _ hx
  exact ⟨more, y, hne, hy⟩

theorem viable_nil {R : List Token → α → Prop} (h : Completable R []) (ls : List Located) :
    ∃ used, ls = used ++ ls ∧ Completable R (tokensOf used) := ⟨[], rfl, h⟩

theorem word_zero : Word (.number 0) 0 := .number (by decide)

/-! ## Expressions -/

namespace Expr

theorem completable_nil : Completable Derives [] :=
  ⟨[.operand .n], _, by simp, .primary (.operand .n)⟩

theorem completable_mod {ts : List Token} {op : Located} {lhs : Expr} (hl : Derives ts lhs)
    (hop : op.token.isMod = true) : Completable Derives (ts ++ tokensOf [op]) := by
  have hmod := Derives.mod hl (isMod_iff.1 hop) (.operand .n)
  exact ⟨[.operand .n], _, by simp, by simpa using hmod⟩

theorem readTail_viable {ts : List Token} {lhs : Expr} {ls rest : List Located}
    (h : readTail lhs ls = .error rest) (hl : Derives ts lhs) :
    ∃ used, ls = used ++ rest ∧ Completable Derives (ts ++ tokensOf used) := by
  fun_induction readTail lhs ls generalizing ts with
  | case1 lhs => cases h
  | case2 lhs op hop =>
    cases h
    exact ⟨[op], rfl, completable_mod hl hop⟩
  | case3 lhs op hop => cases h
  | case4 lhs op t after hop rhs hrhs ih =>
    have hmod := Derives.mod hl (isMod_iff.1 hop) (primary?_eq_some_iff.1 hrhs)
    obtain ⟨used, rfl, hc⟩ := ih h hmod
    exact ⟨op :: t :: used, rfl, by simpa using hc⟩
  | case5 lhs op t after hop hrhs =>
    cases h
    exact ⟨[op], rfl, completable_mod hl hop⟩
  | case6 lhs op t after hop => cases h

theorem read_viable : Viable read Derives := by
  intro ls rest h
  cases ls with
  | nil =>
    cases h
    exact viable_nil completable_nil []
  | cons t ts =>
    rw [read] at h
    split at h
    · rename_i first hfirst
      obtain ⟨used, rfl, hc⟩ := readTail_viable h (.primary (primary?_eq_some_iff.1 hfirst))
      exact ⟨t :: used, rfl, hc⟩
    · cases h
      exact viable_nil completable_nil (t :: ts)

end Expr

/-! ## Range lists -/

namespace RangeItem

theorem completable_nil : Completable DerivesList [] :=
  ⟨[.number 0], _, by simp, .single (.value word_zero)⟩

theorem completable_dots {t : Token} {low : UInt64} (hlow : Word t low) (dots : List Char) :
    Completable Derives (t :: tokensOf [⟨.mark .dots, dots⟩]) :=
  ⟨[.number 0], _, by simp, .range hlow word_zero⟩

theorem readFrom_viable {t : Token} {low : UInt64} {ls rest : List Located}
    (h : readFrom low ls = .error rest) (hlow : Word t low) :
    ∃ used, ls = used ++ rest ∧ Completable Derives (t :: tokensOf used) := by
  unfold readFrom at h
  split at h
  · rename_i dots after
    split at h
    · cases h
      exact ⟨[⟨.mark .dots, dots⟩], rfl, completable_dots hlow dots⟩
    · split at h
      · cases h
      · cases h
        exact ⟨[⟨.mark .dots, dots⟩], rfl, completable_dots hlow dots⟩
  · cases h

/-- Further entries begin with a comma, and what is taken after it begins a range list. -/
def MoreFails (ls rest : List Located) : Prop :=
  ∃ comma used, comma.token = .mark .comma ∧ ls = comma :: (used ++ rest) ∧
    Completable DerivesList (tokensOf used)

/-- Reading fails in the first entry, or in the further ones. -/
theorem entries_viable {t : Token} {low : UInt64} {ls rest : List Located} (hlow : Word t low)
    (h : readFrom low ls = .error rest ∨
      ∃ item mid, readFrom low ls = .ok (item, mid) ∧ MoreFails mid rest) :
    ∃ used, ls = used ++ rest ∧ Completable DerivesList (t :: tokensOf used) := by
  rcases h with hfrom | ⟨item, mid, hfrom, comma, used', hcomma, rfl, hc⟩
  · obtain ⟨used, rfl, hc⟩ := readFrom_viable hfrom hlow
    exact ⟨used, rfl, hc.mono fun us item hitem => ⟨[item], .single hitem⟩⟩
  · obtain ⟨used, rfl, hitem⟩ := readFrom_sound hfrom hlow
    refine ⟨used ++ comma :: used', by simp, ?_⟩
    have hlist := hc.inside (t :: tokensOf used ++ [.mark .comma]) [] fun us items hitems =>
      ⟨_, by simpa using DerivesList.cons hitem hitems⟩
    simpa [tokensOf, hcomma] using hlist

/-- The error of a list of entries comes from the first one or from the further ones. -/
theorem readEntries_eq_error {low : UInt64} (count : List Located → Nat) {ls rest : List Located}
    (hmore : ∀ {mid}, readMore (count mid) mid = .error rest → MoreFails mid rest)
    (h : (do
      let (item, rest) ← readFrom low ls
      let (items, rest) ← readMore (count rest) rest
      .ok (item :: items, rest) : Except (List Located) (List RangeItem × List Located)) =
        .error rest) :
    readFrom low ls = .error rest ∨
      ∃ item mid, readFrom low ls = .ok (item, mid) ∧ MoreFails mid rest := by
  rcases bind_eq_error_iff.1 h with hfrom | ⟨⟨item, mid⟩, hfrom, h⟩
  · exact .inl hfrom
  · rcases bind_eq_error_iff.1 h with herror | ⟨⟨items, rest'⟩, -, h⟩
    · exact .inr ⟨item, mid, hfrom, hmore herror⟩
    · cases h

theorem readMore_viable {count : Nat} {ls rest : List Located}
    (h : readMore count ls = .error rest) : MoreFails ls rest := by
  induction count generalizing ls rest with
  | zero => cases h
  | succ count ih =>
    unfold readMore at h
    split at h
    · rename_i _ _ comma t after hcount
      obtain rfl : count = _ := Nat.succ.inj hcount
      split at h
      · rename_i low hlow
        obtain ⟨used, rfl, hc⟩ :=
          entries_viable (word?_eq_some_iff.1 hlow) (readEntries_eq_error (fun _ => count) ih h)
        exact ⟨⟨.mark .comma, comma⟩, t :: used, rfl, rfl, hc⟩
      · cases h
    · cases h

theorem readList_viable : Viable readList DerivesList := by
  intro ls rest h
  cases ls with
  | nil =>
    cases h
    exact viable_nil completable_nil []
  | cons t ts =>
    rw [readList] at h
    split at h
    · rename_i low hlow
      obtain ⟨used, rfl, hc⟩ :=
        entries_viable (word?_eq_some_iff.1 hlow)
          (readEntries_eq_error List.length readMore_viable h)
      exact ⟨t :: used, rfl, hc⟩
    · cases h
      exact viable_nil completable_nil (t :: ts)

end RangeItem

/-! ## Relations -/

namespace Condition

/-- After an expression, `is n` makes a relation. -/
theorem relation_is {ts : List Token} {lhs : Expr} (hl : Expr.Derives ts lhs) :
    Relation (ts ++ [.keyword .is, .operand .n]) (.is false lhs (.operand .n)) :=
  .is hl (.primary (.operand .n))

theorem readComparison_viable {negated : Bool} {lhs : Expr} {ls rest : List Located}
    (h : readComparison negated lhs ls = .error rest) :
    ∃ used, ls = used ++ rest ∧ Completable Expr.Derives (tokensOf used) := by
  rcases bind_eq_error_iff.1 h with herror | ⟨⟨rhs, rest'⟩, -, h⟩
  · exact Expr.read_viable herror
  · cases h

theorem readMembership_viable {membership : Membership} {negated : Bool} {subject : Expr}
    {ls rest : List Located} (h : readMembership membership negated subject ls = .error rest) :
    ∃ used, ls = used ++ rest ∧ Completable RangeItem.DerivesList (tokensOf used) := by
  rcases bind_eq_error_iff.1 h with herror | ⟨⟨items, rest'⟩, -, h⟩
  · exact RangeItem.readList_viable herror
  · cases h

/-- A membership that fails after the tokens that ask for it. -/
theorem completable_membership (op : List Located) {ts : List Token} {ls rest : List Located}
    {subject : Expr} {membership : Membership} {negated : Bool} (hs : Expr.Derives ts subject)
    (hop : Membership.Derives (tokensOf op) membership negated)
    (h : readMembership membership negated subject ls = .error rest) :
    ∃ used, op ++ ls = used ++ rest ∧ Completable Relation (ts ++ tokensOf used) := by
  obtain ⟨used, rfl, hc⟩ := readMembership_viable h
  refine ⟨op ++ used, (List.append_assoc _ _ _).symm, ?_⟩
  have hrelation := hc.inside (ts ++ tokensOf op) [] fun us items hitems =>
    ⟨_, by simpa using Relation.member hs hop hitems⟩
  simpa using hrelation

/-- A comparison that fails after the tokens that ask for it. -/
theorem completable_comparison (op : List Located) {ts : List Token} {ls rest : List Located}
    {lhs : Expr} {negated : Bool}
    (hop : ∀ us rhs, Expr.Derives us rhs →
      Relation (ts ++ (tokensOf op ++ us)) (.is negated lhs rhs))
    (h : readComparison negated lhs ls = .error rest) :
    ∃ used, op ++ ls = used ++ rest ∧ Completable Relation (ts ++ tokensOf used) := by
  obtain ⟨used, rfl, hc⟩ := readComparison_viable h
  refine ⟨op ++ used, (List.append_assoc _ _ _).symm, ?_⟩
  have hrelation := hc.inside (ts ++ tokensOf op) [] fun us rhs hr =>
    ⟨_, by simpa using hop us rhs hr⟩
  simpa using hrelation

theorem readRelationTail_viable {ts : List Token} {lhs : Expr} {ls rest : List Located}
    (h : readRelationTail lhs ls = .error rest) (hl : Expr.Derives ts lhs) :
    ∃ used, ls = used ++ rest ∧ Completable Relation (ts ++ tokensOf used) := by
  unfold readRelationTail at h
  split at h
  · rename_i is not after
    exact completable_comparison [⟨.keyword .is, is⟩, ⟨.keyword .not, not⟩]
      (fun us rhs hr => .isNot hl hr) h
  · rename_i is after _
    exact completable_comparison [⟨.keyword .is, is⟩] (fun us rhs hr => .is hl hr) h
  · rename_i text after
    exact completable_membership [⟨.keyword .isIn, text⟩] hl .isIn h
  · rename_i text after
    exact completable_membership [⟨.keyword .within, text⟩] hl .within h
  · rename_i not text after
    exact completable_membership [⟨.keyword .not, not⟩, ⟨.keyword .isIn, text⟩] hl .notIn h
  · rename_i not text after
    exact completable_membership [⟨.keyword .not, not⟩, ⟨.keyword .within, text⟩] hl .notWithin h
  · rename_i text after
    exact completable_membership [⟨.mark .notEquals, text⟩] hl .notEquals h
  · rename_i text after
    exact completable_membership [⟨.mark .equals, text⟩] hl .equals h
  · cases h
    have hrelation := relation_is hl
    exact ⟨[], rfl, [.keyword .is, .operand .n], _, by simp, by simpa using hrelation⟩

theorem readRelation_viable : Viable readRelation Relation := by
  intro ls rest h
  rcases bind_eq_error_iff.1 h with herror | ⟨⟨lhs, mid⟩, hlhs, htail⟩
  · obtain ⟨used, rfl, hc⟩ := Expr.read_viable herror
    exact ⟨used, rfl, hc.inside [] _ fun us lhs hl => ⟨_, relation_is hl⟩⟩
  · obtain ⟨used, rfl, hl⟩ := Expr.read_sound hlhs
    obtain ⟨used', rfl, hc⟩ := readRelationTail_viable htail hl
    exact ⟨used ++ used', (List.append_assoc _ _ _).symm, by simpa [tokensOf] using hc⟩

/-! ## Terms -/

theorem completable_closing {ts : List Token} {c : Condition} (h : Derives .condition ts c) :
    Completable (Derives .plain) (.mark .opening :: ts) :=
  ⟨[.mark .closing], c, by simp, .parenthesized h⟩

theorem readClosed_viable {inner : Reader Condition} (hsound : Sound inner (Derives .condition))
    (hinner : Viable inner (Derives .condition)) (opening : List Char) {ls rest : List Located}
    (h : readClosed inner ls = .error rest) :
    ∃ used, ⟨.mark .opening, opening⟩ :: ls = used ++ rest ∧
      Completable (Derives .plain) (tokensOf used) := by
  rcases bind_eq_error_iff.1 h with herror | ⟨⟨c, mid⟩, hc, htail⟩
  · obtain ⟨used, rfl, hc⟩ := hinner herror
    refine ⟨⟨.mark .opening, opening⟩ :: used, rfl, ?_⟩
    exact hc.inside [.mark .opening] [.mark .closing] fun us c hd => ⟨c, .parenthesized hd⟩
  · obtain ⟨used, rfl, hd⟩ := hsound hc
    dsimp only at htail
    split at htail
    · cases htail
    · cases htail
      exact ⟨⟨.mark .opening, opening⟩ :: used, rfl, completable_closing hd⟩

theorem readPlain_viable {inner : Reader Condition} (hsound : Sound inner (Derives .condition))
    (hinner : Viable inner (Derives .condition)) : Viable (readPlain inner) (Derives .plain) := by
  intro ls rest h
  unfold readPlain at h
  split at h
  · rename_i opening after
    exact readClosed_viable hsound hinner opening h
  · obtain ⟨used, rfl, hc⟩ := readRelation_viable h
    exact ⟨used, rfl, hc.mono fun us c hr => ⟨c, .relation hr⟩⟩

theorem readTerm_viable {inner : Reader Condition} (hsound : Sound inner (Derives .condition))
    (hinner : Viable inner (Derives .condition)) : Viable (readTerm inner) (Derives .term) := by
  intro ls rest h
  unfold readTerm at h
  split at h
  · rename_i not after
    rcases bind_eq_error_iff.1 h with herror | ⟨⟨c, mid⟩, -, htail⟩
    · obtain ⟨used, rfl, hc⟩ := readPlain_viable hsound hinner herror
      refine ⟨⟨.keyword .not, not⟩ :: used, rfl, ?_⟩
      exact hc.inside [.keyword .not] [] fun us c hd => ⟨.not c, by simpa using Derives.not hd⟩
    · cases htail
  · obtain ⟨used, rfl, hc⟩ := readPlain_viable hsound hinner h
    exact ⟨used, rfl, hc.mono fun us c hd => ⟨c, .plain hd⟩⟩

/-! ## Chains -/

section Chains
variable {word : Keyword} {join : Condition → Condition → Condition} {part : Reader Condition}
  {R : List Token → Condition → Prop}

theorem readJoined_viable (hsound : Sound part R) (hpart : Viable part R) {count : Nat}
    {ts : List Token} {lhs : Condition} {ls rest : List Located} (hl : Chain word join R ts lhs)
    (h : readJoined word join part count lhs ls = .error rest) :
    ∃ used, ls = used ++ rest ∧ Completable (Chain word join R) (ts ++ tokensOf used) := by
  induction count generalizing ts lhs ls with
  | zero => cases h
  | succ count ih =>
    cases ls with
    | nil => cases h
    | cons t ls =>
      rw [readJoined] at h
      split at h
      · rename_i hword
        rcases bind_eq_error_iff.1 h with herror | ⟨⟨rhs, mid⟩, hrhs, htail⟩
        · obtain ⟨used, rfl, hc⟩ := hpart herror
          refine ⟨t :: used, rfl, ?_⟩
          have hchain := hc.inside (ts ++ [.keyword word]) [] fun us rhs hr =>
            ⟨join lhs rhs, by simpa using Chain.snoc hl hr⟩
          simpa [tokensOf, hword] using hchain
        · obtain ⟨us, rfl, hr⟩ := hsound hrhs
          obtain ⟨used, rfl, hc⟩ := ih (.snoc hl hr) htail
          refine ⟨t :: (us ++ used), by simp, ?_⟩
          simpa [tokensOf, hword] using hc
      · cases h

theorem readChain_viable (hsound : Sound part R) (hpart : Viable part R) :
    Viable (readChain word join part) (Chain word join R) := by
  intro ls rest h
  rcases bind_eq_error_iff.1 h with herror | ⟨⟨first, mid⟩, hfirst, htail⟩
  · obtain ⟨used, rfl, hc⟩ := hpart herror
    exact ⟨used, rfl, hc.mono fun us c hr => ⟨c, .single hr⟩⟩
  · obtain ⟨us, rfl, hr⟩ := hsound hfirst
    obtain ⟨used, rfl, hc⟩ := readJoined_viable hsound hpart (.single hr) htail
    exact ⟨us ++ used, (List.append_assoc _ _ _).symm, by simpa [tokensOf] using hc⟩

end Chains

/-! ## Conditions -/

theorem completable_nil : Completable (Derives .condition) [] := by
  have hrelation := relation_is (.primary (.operand .n))
  exact ⟨_, _, by simp, .conjunction (.term (.plain (.relation hrelation)))⟩

theorem readWithin_viable (depth : Nat) : Viable (readWithin depth) (Derives .condition) := by
  induction depth with
  | zero =>
    intro ls rest h
    cases h
    exact viable_nil completable_nil ls
  | succ depth ih =>
    have hand : Viable (readChain .and .and (readTerm (readWithin depth)))
        (Derives .conjunction) := by
      intro ls rest h
      obtain ⟨used, hls, hc⟩ := readChain_viable (readTerm_sound (readWithin_sound depth))
        (readTerm_viable (readWithin_sound depth) ih) h
      exact ⟨used, hls, hc.mono fun us c hd => ⟨c, derives_conjunction_of_chain hd⟩⟩
    intro ls rest h
    obtain ⟨used, hls, hc⟩ :=
      readChain_viable (readConjunction_sound (readWithin_sound depth)) hand h
    exact ⟨used, hls, hc.mono fun us c hd => ⟨c, derives_condition_of_chain hd⟩⟩

theorem read_viable : Viable read (Derives .condition) := fun h => readWithin_viable _ h

end Condition

end NumberRules.Plural
