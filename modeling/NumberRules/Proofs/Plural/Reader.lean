import Mathlib
import NumberRules.Plural.Condition.Parser
import NumberRules.Proofs.Except
import NumberRules.Proofs.Plural.Grammar

/-! # The reader of conditions against the grammar

A reader is `Sound` for a relation if what it takes off the front of the tokens belongs to the
relation.  It is `Complete` if it takes off everything that belongs to it, given that what follows
begins with one of the allowed tokens: one token decides where a phrase ends.

Chains carry the argument for `or` and `and`.  A chain nests to the left while its reader goes from
left to right, so the induction is on the chain, and it says that after the chain the reader stands
in its loop with the tree of the chain in hand.
-/

namespace NumberRules.Plural
set_option autoImplicit false

variable {α : Type}

abbrev tokensOf (ls : List Located) : List Token := ls.map (·.token)

/-- What the reader takes off the front belongs to `R`. -/
def Sound (r : Reader α) (R : List Token → α → Prop) : Prop :=
  ∀ {ls rest : List Located} {x : α}, r ls = .ok (x, rest) →
    ∃ used, ls = used ++ rest ∧ R (tokensOf used) x

/-- The tokens end, or go on with an allowed one. -/
def Follow (allowed : List Token) (rest : List Located) : Prop :=
  ∀ l ∈ rest.head?, l.token ∈ allowed

/-- The reader takes off whatever belongs to `R`, up to a length, in front of allowed tokens. -/
def Complete (r : Reader α) (R : List Token → α → Prop) (allowed : List Token) (n : Nat) : Prop :=
  ∀ {used rest : List Located} {x : α}, R (tokensOf used) x → used.length ≤ n →
    Follow allowed rest → r (used ++ rest) = .ok (x, rest)

theorem follow_nil (allowed : List Token) : Follow allowed [] := by simp [Follow]

theorem follow_cons {allowed : List Token} {l : Located} (rest : List Located)
    (h : l.token ∈ allowed) : Follow allowed (l :: rest) := by
  simpa [Follow] using h

theorem Follow.mono {allowed allowed' : List Token} {rest : List Located}
    (h : Follow allowed rest) (hsub : allowed ⊆ allowed') : Follow allowed' rest :=
  fun l hl => hsub (h l hl)

/-! ## Numbers and expressions -/

theorem word?_eq_some_iff {t : Token} {n : UInt64} : t.word? = some n ↔ Word t n := by
  constructor
  · intro h
    unfold Token.word? at h
    split at h
    · split at h
      · rename_i value hlt
        rw [← Option.some.inj h]
        exact .number hlt
      · simp at h
    · simp at h
  · rintro ⟨hlt⟩
    rw [Token.word?]
    exact if_pos hlt

theorem primary?_eq_some_iff {t : Token} {e : Expr} : t.primary? = some e ↔ Primary t e := by
  constructor
  · intro h
    unfold Token.primary? at h
    split at h
    · rw [← Option.some.inj h]
      exact .operand _
    · obtain ⟨n, hn, rfl⟩ := Option.map_eq_some_iff.1 h
      exact .literal (word?_eq_some_iff.1 hn)
  · rintro (hn | o)
    · have hword := word?_eq_some_iff.2 hn
      obtain ⟨hlt⟩ := hn
      rw [Token.primary?, hword]
      · rfl
      · simp
    · rfl

theorem isMod_iff {t : Token} : t.isMod = true ↔ t = .keyword .mod ∨ t = .mark .percent := by
  simp [Token.isMod]

namespace Expr

theorem readTail_sound {ts : List Token} {lhs e : Expr} {ls rest : List Located}
    (h : readTail lhs ls = .ok (e, rest)) (hl : Derives ts lhs) :
    ∃ used, ls = used ++ rest ∧ Derives (ts ++ tokensOf used) e := by
  fun_induction readTail lhs ls generalizing ts with
  | case1 lhs =>
    simp only [Except.ok.injEq, Prod.mk.injEq] at h
    obtain ⟨rfl, rfl⟩ := h
    exact ⟨[], rfl, by simpa using hl⟩
  | case2 lhs op hop => simp at h
  | case3 lhs op hop =>
    simp only [Except.ok.injEq, Prod.mk.injEq] at h
    obtain ⟨rfl, rfl⟩ := h
    exact ⟨[], rfl, by simpa using hl⟩
  | case4 lhs op t after hop rhs hrhs ih =>
    have hmod := Derives.mod hl (isMod_iff.1 hop) (primary?_eq_some_iff.1 hrhs)
    obtain ⟨used, rfl, he⟩ := ih h hmod
    exact ⟨op :: t :: used, rfl, by simpa using he⟩
  | case5 lhs op t after hop hrhs => simp at h
  | case6 lhs op t after hop =>
    simp only [Except.ok.injEq, Prod.mk.injEq] at h
    obtain ⟨rfl, rfl⟩ := h
    exact ⟨[], rfl, by simpa using hl⟩

theorem read_sound : Sound read Derives := by
  intro ls rest e h
  cases ls with
  | nil => simp [read] at h
  | cons t ts =>
    rw [read] at h
    split at h
    · rename_i first hfirst
      obtain ⟨used, rfl, he⟩ := readTail_sound h (.primary (primary?_eq_some_iff.1 hfirst))
      exact ⟨t :: used, rfl, he⟩
    · simp at h

/-- After the tokens of an expression the reader looks for more of it. -/
theorem read_append {ts : List Token} {e : Expr} (h : Derives ts e) {used : List Located}
    (hused : tokensOf used = ts) (rest : List Located) : read (used ++ rest) = readTail e rest := by
  induction h generalizing used rest with
  | primary hp =>
    obtain ⟨l, us, rfl, rfl, hnil⟩ := List.map_eq_cons_iff.1 hused
    rw [List.map_eq_nil_iff.1 hnil, List.singleton_append, read, primary?_eq_some_iff.2 hp]
  | @mod ts op t lhs rhs _ hop hr ih =>
    obtain ⟨us, vs, rfl, hus, hvs⟩ := List.map_eq_append_iff.1 hused
    obtain ⟨l, ws, rfl, rfl, hws⟩ := List.map_eq_cons_iff.1 hvs
    obtain ⟨m, xs, rfl, rfl, hnil⟩ := List.map_eq_cons_iff.1 hws
    rw [List.map_eq_nil_iff.1 hnil, List.append_assoc, ih hus]
    simp only [List.cons_append, List.nil_append]
    rw [readTail, if_pos (isMod_iff.2 hop), primary?_eq_some_iff.2 hr]

theorem readTail_of_follow {e : Expr} {rest : List Located}
    (h : ∀ l ∈ rest.head?, l.token.isMod = false) : readTail e rest = .ok (e, rest) := by
  match rest with
  | [] => rfl
  | [op] =>
    have hop : op.token.isMod = false := h op (by simp)
    simp [readTail, hop]
  | op :: t :: rest =>
    have hop : op.token.isMod = false := h op (by simp)
    simp [readTail, hop]

theorem read_complete {used rest : List Located} {e : Expr} (h : Derives (tokensOf used) e)
    (hrest : ∀ l ∈ rest.head?, l.token.isMod = false) : read (used ++ rest) = .ok (e, rest) := by
  rw [read_append h rfl rest, readTail_of_follow hrest]

/-- An expression begins with a number or an operand. -/
theorem Derives.exists_cons {ts : List Token} {e : Expr} (h : Derives ts e) :
    ∃ t us e', ts = t :: us ∧ Primary t e' := by
  induction h with
  | primary hp => exact ⟨_, [], _, rfl, hp⟩
  | @mod _ op u _ _ _ _ _ ih =>
    obtain ⟨t, us, e', rfl, hp⟩ := ih
    exact ⟨t, us ++ [op, u], e', rfl, hp⟩

end Expr

/-! ## Range lists -/

namespace RangeItem

theorem readFrom_sound {t : Token} {low : UInt64} {item : RangeItem} {ls rest : List Located}
    (h : readFrom low ls = .ok (item, rest)) (hlow : Word t low) :
    ∃ used, ls = used ++ rest ∧ Derives (t :: tokensOf used) item := by
  unfold readFrom at h
  split at h
  · rename_i dots after
    split at h
    · simp at h
    · rename_i u after'
      split at h
      · rename_i high hhigh
        simp only [Except.ok.injEq, Prod.mk.injEq] at h
        obtain ⟨rfl, rfl⟩ := h
        exact ⟨[⟨.mark .dots, dots⟩, u], rfl, .range hlow (word?_eq_some_iff.1 hhigh)⟩
      · simp at h
  · simp only [Except.ok.injEq, Prod.mk.injEq] at h
    obtain ⟨rfl, rfl⟩ := h
    exact ⟨[], rfl, .value hlow⟩

/-- Further entries are none, or a list after a comma. -/
def More (ls rest : List Located) (items : List RangeItem) : Prop :=
  (ls = rest ∧ items = []) ∨
    ∃ comma used, comma.token = .mark .comma ∧ ls = comma :: (used ++ rest) ∧
      DerivesList (tokensOf used) items

theorem derivesList_of_more {ts : List Token} {item : RangeItem} {items : List RangeItem}
    {ls rest : List Located} (hi : Derives ts item) (h : More ls rest items) :
    ∃ used, ls = used ++ rest ∧ DerivesList (ts ++ tokensOf used) (item :: items) := by
  rcases h with ⟨rfl, rfl⟩ | ⟨comma, used, hcomma, rfl, hs⟩
  · exact ⟨[], rfl, by simpa using DerivesList.single hi⟩
  · refine ⟨comma :: used, rfl, ?_⟩
    rw [tokensOf, List.map_cons, hcomma]
    exact .cons hi hs

/-- An entry that begins with a number, and further entries. -/
theorem entries_sound {t : Token} {low : UInt64} {item : RangeItem} {items : List RangeItem}
    {ls mid rest : List Located} (hlow : Word t low) (hfrom : readFrom low ls = .ok (item, mid))
    (hmore : More mid rest items) :
    ∃ used, ls = used ++ rest ∧ DerivesList (t :: tokensOf used) (item :: items) := by
  obtain ⟨used, rfl, hi⟩ := readFrom_sound hfrom hlow
  obtain ⟨used', rfl, hs⟩ := derivesList_of_more hi hmore
  exact ⟨used ++ used', (List.append_assoc _ _ _).symm, by simpa [tokensOf] using hs⟩

theorem readMore_sound {count : Nat} {ls rest : List Located} {items : List RangeItem}
    (h : readMore count ls = .ok (items, rest)) : More ls rest items := by
  induction count generalizing ls rest items with
  | zero =>
    simp only [readMore, Except.ok.injEq, Prod.mk.injEq] at h
    exact .inl ⟨h.2, h.1.symm⟩
  | succ count ih =>
    unfold readMore at h
    split at h
    · rename_i _ _ comma t after hcount
      obtain rfl : count = _ := Nat.succ.inj hcount
      split at h
      · rename_i low hlow
        obtain ⟨⟨item, mid⟩, hfrom, h⟩ := bind_eq_ok_iff.1 h
        obtain ⟨⟨items', rest'⟩, hmore, h⟩ := bind_eq_ok_iff.1 h
        simp only [Except.ok.injEq, Prod.mk.injEq] at h
        obtain ⟨rfl, rfl⟩ := h
        obtain ⟨used, rfl, hs⟩ :=
          entries_sound (word?_eq_some_iff.1 hlow) hfrom (ih hmore)
        exact .inr ⟨⟨.mark .comma, comma⟩, t :: used, rfl, rfl, hs⟩
      · simp only [Except.ok.injEq, Prod.mk.injEq] at h
        exact .inl ⟨h.2, h.1.symm⟩
    · simp only [Except.ok.injEq, Prod.mk.injEq] at h
      exact .inl ⟨h.2, h.1.symm⟩

theorem readList_sound : Sound readList DerivesList := by
  intro ls rest items h
  cases ls with
  | nil => simp [readList] at h
  | cons t ts =>
    rw [readList] at h
    split at h
    · rename_i low hlow
      obtain ⟨⟨item, mid⟩, hfrom, h⟩ := bind_eq_ok_iff.1 h
      obtain ⟨⟨items', rest'⟩, hmore, h⟩ := bind_eq_ok_iff.1 h
      simp only [Except.ok.injEq, Prod.mk.injEq] at h
      obtain ⟨rfl, rfl⟩ := h
      obtain ⟨used, rfl, hs⟩ :=
        entries_sound (word?_eq_some_iff.1 hlow) hfrom (readMore_sound hmore)
      exact ⟨t :: used, rfl, hs⟩
    · simp at h

theorem readFrom_of_not_dots {low : UInt64} {rest : List Located}
    (h : ∀ l ∈ rest.head?, l.token ≠ .mark .dots) :
    readFrom low rest = .ok (.value low, rest) := by
  unfold readFrom
  split
  · exact absurd rfl (h _ (Option.mem_some_self _))
  · rfl

theorem readMore_of_not_comma (count : Nat) {rest : List Located}
    (h : ∀ l ∈ rest.head?, l.token ≠ .mark .comma) : readMore count rest = .ok ([], rest) := by
  unfold readMore
  split
  · exact absurd rfl (h _ (Option.mem_some_self _))
  · rfl

/-- An entry begins with a number, from which its reader goes on to its end. -/
theorem readFrom_complete {used rest : List Located} {item : RangeItem}
    (h : Derives (tokensOf used) item) (hrest : ∀ l ∈ rest.head?, l.token ≠ .mark .dots) :
    ∃ l us low, used = l :: us ∧ Word l.token low ∧
      readFrom low (us ++ rest) = .ok (item, rest) := by
  generalize hts : tokensOf used = ts at h
  cases h with
  | value hlow =>
    obtain ⟨l, us, rfl, rfl, hnil⟩ := List.map_eq_cons_iff.1 hts
    refine ⟨l, us, _, rfl, hlow, ?_⟩
    rw [List.map_eq_nil_iff.1 hnil, List.nil_append, readFrom_of_not_dots hrest]
  | range hlow hhigh =>
    obtain ⟨l, us, rfl, rfl, hus⟩ := List.map_eq_cons_iff.1 hts
    obtain ⟨⟨_, dots⟩, vs, rfl, rfl, hvs⟩ := List.map_eq_cons_iff.1 hus
    obtain ⟨u, ws, rfl, rfl, hnil⟩ := List.map_eq_cons_iff.1 hvs
    refine ⟨l, _, _, rfl, hlow, ?_⟩
    rw [List.map_eq_nil_iff.1 hnil]
    simp only [List.cons_append, List.nil_append, readFrom, word?_eq_some_iff.2 hhigh]

/-- What follows the first entry of a list is read as the further entries, with any count of them
that the tokens can hold. -/
theorem entries_complete {ts : List Token} {items : List RangeItem} (h : DerivesList ts items)
    {used rest : List Located} (hused : tokensOf used = ts)
    (hdots : ∀ l ∈ rest.head?, l.token ≠ .mark .dots)
    (hcomma : ∀ l ∈ rest.head?, l.token ≠ .mark .comma) :
    ∃ l us low item mid more, used = l :: us ∧ Word l.token low ∧ items = item :: more ∧
      readFrom low (us ++ rest) = .ok (item, mid) ∧ mid.length ≤ (us ++ rest).length ∧
      ∀ count, mid.length ≤ count → readMore count mid = .ok (more, rest) := by
  induction h generalizing used with
  | @single ts item hi =>
    obtain ⟨l, us, low, rfl, hlow, hfrom⟩ := readFrom_complete (hused ▸ hi) hdots
    exact ⟨l, us, low, item, rest, [], rfl, hlow, rfl, hfrom, by simp,
      fun count _ => readMore_of_not_comma count hcomma⟩
  | @cons ts us item items hi _ ih =>
    obtain ⟨used₁, tail, rfl, hused₁, htail⟩ := List.map_eq_append_iff.1 hused
    obtain ⟨⟨_, comma⟩, used₂, rfl, rfl, hused₂⟩ := List.map_eq_cons_iff.1 htail
    have hstop : ∀ l ∈ (⟨.mark .comma, comma⟩ :: (used₂ ++ rest)).head?, l.token ≠ .mark .dots := by
      simp
    obtain ⟨l, vs, low, rfl, hlow, hfrom⟩ := readFrom_complete (hused₁ ▸ hi) hstop
    obtain ⟨m, ws, low', item', mid, more, rfl, hlow', rfl, hfrom', hlen, hmore⟩ := ih hused₂
    refine ⟨l, _, low, item, ⟨.mark .comma, comma⟩ :: (m :: ws ++ rest), item' :: more, rfl, hlow,
      rfl, by simpa using hfrom, by simp, fun count hcount => ?_⟩
    cases count with
    | zero => simp at hcount
    | succ count =>
      have hle : mid.length ≤ count := by
        simp only [List.cons_append, List.length_cons, List.length_append] at hcount hlen
        omega
      rw [List.cons_append, readMore, word?_eq_some_iff.2 hlow']
      simp only [hfrom', hmore count hle, bind_ok]

theorem readList_complete {used rest : List Located} {items : List RangeItem}
    (h : DerivesList (tokensOf used) items) (hdots : ∀ l ∈ rest.head?, l.token ≠ .mark .dots)
    (hcomma : ∀ l ∈ rest.head?, l.token ≠ .mark .comma) :
    readList (used ++ rest) = .ok (items, rest) := by
  obtain ⟨l, us, low, item, mid, more, rfl, hlow, rfl, hfrom, -, hmore⟩ :=
    entries_complete h rfl hdots hcomma
  rw [List.cons_append, readList, word?_eq_some_iff.2 hlow]
  simp only [hfrom, hmore _ (Nat.le_refl _), bind_ok]

end RangeItem

end NumberRules.Plural
