import Mathlib
import NumberRules.Plural.Condition.Basic
import NumberRules.Plural.Token

/-! # The grammar of plural conditions

The grammar is stated apart from its reader, in three layers.  `Proper cs s`: the text `s` is what
precedes the samples in `cs`, with one space between words.  `Splits cs ts`: the text `cs` is cut
into the tokens `ts`, words and runs of digits being as long as possible and spaces only
separating.  `Derives p ts c`: the tokens `ts` are a phrase of kind `p` whose tree is `c`.  Phrases
joined by a word, or by `mod`, nest to the left.

`Condition.Denotes text c` puts them together.  White space, words and symbols are spelled out here;
that the reader knows the same ones is proved where it is compared with the grammar.
-/

namespace NumberRules.Plural
set_option autoImplicit false

/-! ## The text in front of the samples -/

/-- The characters with the Unicode property `White_Space`. -/
def WhiteSpace (c : Char) : Prop :=
  c.toNat ∈ [0x09, 0x0A, 0x0B, 0x0C, 0x0D, 0x20, 0x85, 0xA0, 0x1680, 0x2000, 0x2001, 0x2002, 0x2003,
    0x2004, 0x2005, 0x2006, 0x2007, 0x2008, 0x2009, 0x200A, 0x2028, 0x2029, 0x202F, 0x205F, 0x3000]

/-- The maximal runs without white space, in order. -/
inductive Words : List Char → List (List Char) → Prop
  | nil : Words [] []
  | space {c : Char} {cs : List Char} {ws : List (List Char)} (hc : WhiteSpace c)
      (h : Words cs ws) : Words (c :: cs) ws
  | word {w cs : List Char} {ws : List (List Char)} (hne : w ≠ []) (hw : ∀ c ∈ w, ¬WhiteSpace c)
      (hend : ∀ c ∈ cs.head?, WhiteSpace c) (h : Words cs ws) : Words (w ++ cs) (w :: ws)

/-- The text in front of the first `@`, or all of the text if there is none. -/
def Front (cs front : List Char) : Prop :=
  '@' ∉ front ∧ (cs = front ∨ ∃ samples, cs = front ++ '@' :: samples)

/-- The text in front of the samples, with white space collapsed: one space stands between words,
and none around them. -/
def Proper (cs s : List Char) : Prop :=
  ∃ front ws, Front cs front ∧ Words front ws ∧ s = [' '].intercalate ws

/-! ## Tokens -/

/-- A text does not go on with a letter. -/
def WordEnds (cs : List Char) : Prop := ∀ c ∈ cs.head?, c.isAlpha = false

/-- A text does not go on with a digit. -/
def NumberEnds (cs : List Char) : Prop := ∀ c ∈ cs.head?, c.isDigit = false

/-- The words of the grammar. -/
inductive Vocabulary : List Char → Token → Prop
  | and : Vocabulary ['a', 'n', 'd'] (.keyword .and)
  | or : Vocabulary ['o', 'r'] (.keyword .or)
  | not : Vocabulary ['n', 'o', 't'] (.keyword .not)
  | is : Vocabulary ['i', 's'] (.keyword .is)
  | isIn : Vocabulary ['i', 'n'] (.keyword .isIn)
  | within : Vocabulary ['w', 'i', 't', 'h', 'i', 'n'] (.keyword .within)
  | mod : Vocabulary ['m', 'o', 'd'] (.keyword .mod)
  | n : Vocabulary ['n'] (.operand .n)
  | i : Vocabulary ['i'] (.operand .i)
  | v : Vocabulary ['v'] (.operand .v)
  | w : Vocabulary ['w'] (.operand .w)
  | f : Vocabulary ['f'] (.operand .f)
  | t : Vocabulary ['t'] (.operand .t)
  | e : Vocabulary ['e'] (.operand .e)
  | c : Vocabulary ['c'] (.operand .c)

/-- The symbols of the grammar. -/
inductive Symbol : List Char → Punctuation → Prop
  | opening : Symbol ['('] .opening
  | closing : Symbol [')'] .closing
  | percent : Symbol ['%'] .percent
  | equals : Symbol ['='] .equals
  | notEquals : Symbol ['!', '='] .notEquals
  | comma : Symbol [','] .comma
  | dots : Symbol ['.', '.'] .dots

/-- A text cut into tokens; one with other words or characters in it is not. -/
inductive Splits : List Char → List Token → Prop
  | nil : Splits [] []
  | space {cs : List Char} {ts : List Token} (h : Splits cs ts) : Splits (' ' :: cs) ts
  /-- A maximal run of digits is one number. -/
  | number {ds cs : List Char} {ts : List Token} (hne : ds ≠ []) (hds : ∀ c ∈ ds, c.isDigit = true)
      (hstop : NumberEnds cs) (h : Splits cs ts) :
      Splits (ds ++ cs) (.number (Nat.ofDigitChars 10 ds 0) :: ts)
  /-- A maximal run of letters is one word. -/
  | word {w cs : List Char} {t : Token} {ts : List Token} (hw : Vocabulary w t) (hend : WordEnds cs)
      (h : Splits cs ts) : Splits (w ++ cs) (t :: ts)
  /-- A symbol is a token by itself. -/
  | symbol {s cs : List Char} {p : Punctuation} {ts : List Token} (hs : Symbol s p)
      (h : Splits cs ts) : Splits (s ++ cs) (.mark p :: ts)

/-! ## Expressions -/

/-- A number that fits a 64-bit word. -/
inductive Word : Token → UInt64 → Prop
  | number {value : Nat} (h : value < 2 ^ 64) : Word (.number value) (UInt64.ofNat value)

inductive Primary : Token → Expr → Prop
  | literal {t : Token} {n : UInt64} (h : Word t n) : Primary t (.literal n)
  | operand (o : Operand) : Primary (.operand o) (.operand o)

namespace Expr

/-- One or more numbers and operands, joined by `mod` or `%`. -/
inductive Derives : List Token → Expr → Prop
  | primary {t : Token} {e : Expr} (h : Primary t e) : Derives [t] e
  | mod {ts : List Token} {op t : Token} {lhs rhs : Expr} (hl : Derives ts lhs)
      (hop : op = .keyword .mod ∨ op = .mark .percent) (hr : Primary t rhs) :
      Derives (ts ++ [op, t]) (.mod lhs rhs)

end Expr

/-! ## Range lists -/

/-- One entry of a range list. -/
inductive RangeItem.Derives : List Token → RangeItem → Prop
  | value {t : Token} {n : UInt64} (h : Word t n) : Derives [t] (.value n)
  | range {t u : Token} {low high : UInt64} (hlow : Word t low) (hhigh : Word u high) :
      Derives [t, .mark .dots, u] (.range low high)

/-- One or more entries with commas between them. -/
inductive RangeItem.DerivesList : List Token → List RangeItem → Prop
  | single {ts : List Token} {item : RangeItem} (h : Derives ts item) : DerivesList ts [item]
  | cons {ts us : List Token} {item : RangeItem} {items : List RangeItem} (h : Derives ts item)
      (hs : DerivesList us items) : DerivesList (ts ++ .mark .comma :: us) (item :: items)

/-! ## Conditions -/

/-- The ways to ask for membership. -/
inductive Membership.Derives : List Token → Membership → Bool → Prop
  | isIn : Derives [.keyword .isIn] .whole false
  | notIn : Derives [.keyword .not, .keyword .isIn] .whole true
  | within : Derives [.keyword .within] .within false
  | notWithin : Derives [.keyword .not, .keyword .within] .within true
  | equals : Derives [.mark .equals] .whole false
  | notEquals : Derives [.mark .notEquals] .whole true

namespace Condition

/-- A comparison of two expressions, or the membership of an expression in a range list. -/
inductive Relation : List Token → Condition → Prop
  | is {ts us : List Token} {lhs rhs : Expr} (hl : Expr.Derives ts lhs) (hr : Expr.Derives us rhs) :
      Relation (ts ++ .keyword .is :: us) (.is false lhs rhs)
  | isNot {ts us : List Token} {lhs rhs : Expr} (hl : Expr.Derives ts lhs)
      (hr : Expr.Derives us rhs) :
      Relation (ts ++ .keyword .is :: .keyword .not :: us) (.is true lhs rhs)
  | member {ts op us : List Token} {subject : Expr} {membership : Membership} {negated : Bool}
      {items : List RangeItem} (hs : Expr.Derives ts subject)
      (hop : Membership.Derives op membership negated) (hi : RangeItem.DerivesList us items) :
      Relation (ts ++ (op ++ us)) (.member membership negated subject items)

/-- The kinds of phrases that are conditions. -/
inductive Phrase where
  /-- Conjunctions joined by `or`. -/
  | condition
  /-- Terms joined by `and`. -/
  | conjunction
  /-- A plain term, perhaps after `not`. -/
  | term
  | plain
  deriving DecidableEq

/-- The tokens of a phrase and its tree. -/
inductive Derives : Phrase → List Token → Condition → Prop
  | conjunction {ts : List Token} {c : Condition} (h : Derives .conjunction ts c) :
      Derives .condition ts c
  | or {ts us : List Token} {lhs rhs : Condition} (hl : Derives .condition ts lhs)
      (hr : Derives .conjunction us rhs) :
      Derives .condition (ts ++ .keyword .or :: us) (.or lhs rhs)
  | term {ts : List Token} {c : Condition} (h : Derives .term ts c) : Derives .conjunction ts c
  | and {ts us : List Token} {lhs rhs : Condition} (hl : Derives .conjunction ts lhs)
      (hr : Derives .term us rhs) :
      Derives .conjunction (ts ++ .keyword .and :: us) (.and lhs rhs)
  | plain {ts : List Token} {c : Condition} (h : Derives .plain ts c) : Derives .term ts c
  | not {ts : List Token} {c : Condition} (h : Derives .plain ts c) :
      Derives .term (.keyword .not :: ts) (.not c)
  | parenthesized {ts : List Token} {c : Condition} (h : Derives .condition ts c) :
      Derives .plain (.mark .opening :: (ts ++ [.mark .closing])) c
  | relation {ts : List Token} {c : Condition} (h : Relation ts c) : Derives .plain ts c

/-- The text before the samples is cut into tokens that are a condition with the tree `c`. -/
def Denotes (text : String) (c : Condition) : Prop :=
  ∃ s ts, Proper text.toList s ∧ Splits s ts ∧ Derives .condition ts c

end Condition

/-! ## Tokens of derivations

A derivation has at least one token and none that the grammar does not know.
-/

/-- A token that is no stray text. -/
def Token.Known : Token → Prop
  | .stray _ => False
  | _ => True

def AllKnown (ts : List Token) : Prop := ∀ t ∈ ts, t.Known

theorem allKnown_nil : AllKnown [] := by simp [AllKnown]

theorem allKnown_cons {t : Token} {ts : List Token} :
    AllKnown (t :: ts) ↔ t.Known ∧ AllKnown ts := by
  simp [AllKnown]

theorem allKnown_append {ts us : List Token} : AllKnown (ts ++ us) ↔ AllKnown ts ∧ AllKnown us := by
  simp only [AllKnown, List.mem_append]
  constructor
  · intro h
    exact ⟨fun t ht => h t (.inl ht), fun t ht => h t (.inr ht)⟩
  · rintro ⟨hts, hus⟩ t (ht | ht)
    · exact hts t ht
    · exact hus t ht

theorem Word.known {t : Token} {n : UInt64} (h : Word t n) : t.Known := by
  cases h
  trivial

theorem Primary.known {t : Token} {e : Expr} (h : Primary t e) : t.Known := by
  cases h with
  | literal h => exact h.known
  | operand o => trivial

theorem Expr.Derives.allKnown {ts : List Token} {e : Expr} (h : Expr.Derives ts e) :
    AllKnown ts := by
  induction h with
  | primary h => exact allKnown_cons.2 ⟨h.known, allKnown_nil⟩
  | @mod ts op t lhs rhs _ hop hr ih =>
    have hknown : op.Known := by
      rcases hop with rfl | rfl <;> trivial
    exact allKnown_append.2 ⟨ih, allKnown_cons.2 ⟨hknown, allKnown_cons.2 ⟨hr.known, allKnown_nil⟩⟩⟩

theorem RangeItem.Derives.allKnown {ts : List Token} {item : RangeItem}
    (h : RangeItem.Derives ts item) : AllKnown ts := by
  cases h with
  | value h => exact allKnown_cons.2 ⟨h.known, allKnown_nil⟩
  | range hlow hhigh =>
    exact allKnown_cons.2 ⟨hlow.known, allKnown_cons.2 ⟨trivial,
      allKnown_cons.2 ⟨hhigh.known, allKnown_nil⟩⟩⟩

theorem RangeItem.DerivesList.allKnown {ts : List Token} {items : List RangeItem}
    (h : RangeItem.DerivesList ts items) : AllKnown ts := by
  induction h with
  | single h => exact h.allKnown
  | cons h _ ih => exact allKnown_append.2 ⟨h.allKnown, allKnown_cons.2 ⟨trivial, ih⟩⟩

theorem Membership.Derives.allKnown {ts : List Token} {membership : Membership} {negated : Bool}
    (h : Membership.Derives ts membership negated) : AllKnown ts := by
  cases h <;> simp [AllKnown, Token.Known]

theorem Condition.Relation.allKnown {ts : List Token} {c : Condition}
    (h : Condition.Relation ts c) : AllKnown ts := by
  cases h with
  | is hl hr => exact allKnown_append.2 ⟨hl.allKnown, allKnown_cons.2 ⟨trivial, hr.allKnown⟩⟩
  | isNot hl hr =>
    exact allKnown_append.2 ⟨hl.allKnown, allKnown_cons.2 ⟨trivial,
      allKnown_cons.2 ⟨trivial, hr.allKnown⟩⟩⟩
  | member hs hop hi =>
    exact allKnown_append.2 ⟨hs.allKnown, allKnown_append.2 ⟨hop.allKnown, hi.allKnown⟩⟩

theorem Condition.Derives.allKnown {p : Condition.Phrase} {ts : List Token} {c : Condition}
    (h : Condition.Derives p ts c) : AllKnown ts := by
  induction h with
  | conjunction _ ih => exact ih
  | or _ _ ihl ihr => exact allKnown_append.2 ⟨ihl, allKnown_cons.2 ⟨trivial, ihr⟩⟩
  | term _ ih => exact ih
  | and _ _ ihl ihr => exact allKnown_append.2 ⟨ihl, allKnown_cons.2 ⟨trivial, ihr⟩⟩
  | plain _ ih => exact ih
  | not _ ih => exact allKnown_cons.2 ⟨trivial, ih⟩
  | parenthesized _ ih =>
    exact allKnown_cons.2 ⟨trivial, allKnown_append.2 ⟨ih, allKnown_cons.2 ⟨trivial, allKnown_nil⟩⟩⟩
  | relation h => exact h.allKnown

theorem Expr.Derives.ne_nil {ts : List Token} {e : Expr} (h : Expr.Derives ts e) : ts ≠ [] := by
  cases h <;> simp

theorem Condition.Relation.ne_nil {ts : List Token} {c : Condition}
    (h : Condition.Relation ts c) : ts ≠ [] := by
  cases h with
  | is _ _ => simp
  | isNot _ _ => simp
  | member hs _ _ => simp [hs.ne_nil]

theorem Condition.Derives.ne_nil {p : Condition.Phrase} {ts : List Token} {c : Condition}
    (h : Condition.Derives p ts c) : ts ≠ [] := by
  induction h with
  | conjunction _ ih => exact ih
  | or _ _ _ _ => simp
  | term _ ih => exact ih
  | and _ _ _ _ => simp
  | plain _ ih => exact ih
  | not _ _ => simp
  | parenthesized _ _ => simp
  | relation h => exact h.ne_nil

end NumberRules.Plural
