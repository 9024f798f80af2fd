import Mathlib
import NumberRules.Proofs.Spelling.Body.Sequence

/-! # Forms of bodies

The same tokens can be written in several ways: an apostrophe in front of a reserved character may
or may not be needed, a selector may have spacing in it, and there are arrows for two of the markers.
`Body.Writes` says which texts are writings of given tokens, and `Body.print` chooses one.  The tokens
of a body that is read are `Body.Normal`; `Body.Printable` are those that need no arrows.
-/

namespace NumberRules.Spelling
set_option autoImplicit false

/-! ## Characters and cases -/

/-- An apostrophe in front of a reserved character may be there, and must be in front of a structural
one. -/
def WritesChar (c : Char) (u : List Char) : Prop :=
  u = [c] ∧ c ∉ structural ∨ u = ['\'', c] ∧ c ∈ reserved

/-- A character with an apostrophe in front of it where a body would give it a meaning. -/
def escape (c : Char) : List Char :=
  if c ∈ ['\'', '<', '>', '=', '[', ']', '$', '←', '→'] then ['\'', c] else [c]

theorem escape_of_mem {c : Char} (h : c ∈ reserved) : escape c = ['\'', c] := if_pos h

theorem escape_of_not_mem {c : Char} (h : c ∉ reserved) : escape c = [c] := if_neg h

def Spacing (cs : List Char) : Prop := ∀ c ∈ cs, Text.isSpacing c = true

/-- A category of letters and digits, and a text that a closing brace can end. -/
def NormalCase (case : List Char × List Char) : Prop :=
  (case.1 ≠ [] ∧ ∀ c ∈ case.1, c.isAlphanum = true) ∧ '}' ∉ case.2

-- Over a list as such; the quantifier alone would be decided over all characters.
instance (case : List Char × List Char) : Decidable (NormalCase case) :=
  decidable_of_iff ((case.1 ≠ [] ∧ case.1.all Char.isAlphanum = true) ∧ '}' ∉ case.2)
    (by rw [List.all_eq_true, NormalCase])

def WritesCase (case : List Char × List Char) (u : List Char) : Prop :=
  NormalCase case ∧ ∃ s s', Spacing s ∧ Spacing s' ∧
    u = s ++ (case.1 ++ (s' ++ '{' :: (case.2 ++ ['}'])))

def printCase (case : List Char × List Char) : List Char := case.1 ++ '{' :: (case.2 ++ ['}'])

/-! ## Pieces -/

namespace Piece

def IsText : Piece → Prop
  | text _ => True
  | _ => False

instance (p : Piece) : Decidable p.IsText :=
  match p with
  | text _ => .isTrue trivial
  | substitution .. => .isFalse id
  | selector .. => .isFalse id

inductive Writes : Piece → List Char → Prop where
  | text {cs u : List Char} (hcs : cs ≠ []) (hu : Sequence WritesChar cs u) : Writes (text cs) u
  /-- The character at both ends is not in the target, so that it ends there. -/
  | substitution {c : Char} {marker : Marker} {target : List Char}
    (hc : Marker.ofChar? c = some marker) (htarget : c ∉ target) :
    Writes (substitution marker (targetOf target)) (c :: (target ++ [c]))
  /-- The dollar sign at the end may be missing. -/
  | selector {kind : Plural.Kind} {cases : List (List Char × List Char)}
    {s s' s'' u dollar : List Char} (hcases : cases ≠ []) (hs : Spacing s) (hs' : Spacing s')
    (hu : Sequence WritesCase cases u) (hs'' : Spacing s'') (hdollar : dollar <+: ['$']) :
    Writes (selector kind cases) ('$' :: '(' :: (s ++ (kind.name.toList ++
      (s' ++ ',' :: (u ++ (s'' ++ ')' :: dollar))))))

def Normal : Piece → Prop
  | text cs => cs ≠ []
  | substitution _ target => target ≠ some []
  | selector _ cases => cases ≠ [] ∧ ∀ case ∈ cases, NormalCase case

instance (p : Piece) : Decidable p.Normal :=
  match p with
  | text cs => inferInstanceAs (Decidable (cs ≠ []))
  | substitution _ target => inferInstanceAs (Decidable (target ≠ some []))
  | selector _ cases =>
    inferInstanceAs (Decidable (cases ≠ [] ∧ ∀ case ∈ cases, NormalCase case))

/-- A target does not contain the character that is printed around it. -/
def Printable : Piece → Prop
  | substitution marker target => ∀ cs, target = some cs → marker.char ∉ cs
  | _ => True

instance (p : Piece) : Decidable p.Printable :=
  match p with
  | substitution marker (some cs) =>
    decidable_of_iff (marker.char ∉ cs) ⟨fun h _ heq => Option.some.inj heq ▸ h, fun h => h cs rfl⟩
  | substitution _ none => .isTrue fun _ h => nomatch h
  | text _ => .isTrue trivial
  | selector .. => .isTrue trivial

def print : Piece → List Char
  | text cs => cs.flatMap escape
  | substitution marker target => marker.char :: (target.getD [] ++ [marker.char])
  | selector kind cases =>
    '$' :: '(' :: (kind.name.toList ++ ',' :: (cases.flatMap printCase ++ [')', '$']))

end Piece

/-! ## Tokens -/

namespace Token

def IsText : Token → Prop
  | piece p => p.IsText
  | optional _ => False

instance (t : Token) : Decidable t.IsText :=
  match t with
  | piece p => inferInstanceAs (Decidable p.IsText)
  | optional _ => .isFalse id

inductive Writes : Token → List Char → Prop where
  | piece {p : Piece} {u : List Char} (hp : p.Writes u) : Writes (piece p) u
  | optional {ps : List Piece} {u : List Char} (hu : Sequence Piece.Writes ps u)
    (hps : Separate Piece.IsText ps) : Writes (optional ps) ('[' :: (u ++ [']']))

def Normal : Token → Prop
  | piece p => p.Normal
  | optional ps => (∀ p ∈ ps, p.Normal) ∧ Separate Piece.IsText ps

def Printable : Token → Prop
  | piece p => p.Printable
  | optional ps => ∀ p ∈ ps, p.Printable

instance (t : Token) : Decidable t.Normal :=
  match t with
  | piece p => inferInstanceAs (Decidable p.Normal)
  | optional ps =>
    inferInstanceAs (Decidable ((∀ p ∈ ps, p.Normal) ∧ List.IsChain _ ps))

instance (t : Token) : Decidable t.Printable :=
  match t with
  | piece p => inferInstanceAs (Decidable p.Printable)
  | optional ps => inferInstanceAs (Decidable (∀ p ∈ ps, p.Printable))

def print : Token → List Char
  | piece p => p.print
  | optional ps => '[' :: (ps.flatMap Piece.print ++ [']'])

end Token

/-! ## Bodies -/

namespace Body

/-- The tokens of a body, written without the apostrophe and the semicolon around them. -/
def Writes (ts : List Token) (cs : List Char) : Prop :=
  Sequence Token.Writes ts cs ∧ Separate Token.IsText ts

def Normal (ts : List Token) : Prop := (∀ t ∈ ts, t.Normal) ∧ Separate Token.IsText ts

def Printable (ts : List Token) : Prop := ∀ t ∈ ts, t.Printable

instance (ts : List Token) : Decidable (Normal ts) :=
  inferInstanceAs (Decidable ((∀ t ∈ ts, t.Normal) ∧ List.IsChain _ ts))

instance (ts : List Token) : Decidable (Printable ts) :=
  inferInstanceAs (Decidable (∀ t ∈ ts, t.Printable))

def print (ts : List Token) : List Char := '\'' :: (ts.flatMap Token.print ++ [';'])

end Body

/-! ## Texts that meet -/

theorem Piece.joins : Joins IsText text joined where
  isText_iff p := by
    cases p <;> simp [IsText]
  join a b ps := rfl
  keep {p ps} h := by
    unfold joined
    split
    · exact absurd ⟨trivial, trivial⟩ (h _ rfl)
    · rfl

theorem Token.joins : Joins IsText (fun cs => piece (.text cs)) joined where
  isText_iff t := by
    cases t with
    | piece p => cases p <;> simp [IsText, Piece.IsText]
    | optional ps => simp [IsText]
  join a b ts := rfl
  keep {t ts} h := by
    unfold joined
    split
    · exact absurd ⟨trivial, trivial⟩ (h _ rfl)
    · rfl

/-! ## Written tokens are normal -/

theorem Piece.targetOf_ne_some_nil (cs : List Char) : targetOf cs ≠ some [] := by
  cases cs <;> simp [targetOf]

theorem Piece.Writes.normal {p : Piece} {u : List Char} (h : p.Writes u) : p.Normal := by
  cases h with
  | text hcs => exact hcs
  | substitution => exact targetOf_ne_some_nil _
  | selector hcases _ _ hu =>
    refine ⟨hcases, fun case hcase => ?_⟩
    obtain ⟨v, -, hcase, -⟩ := hu.exists_writes hcase
    exact hcase

theorem Token.Writes.normal {t : Token} {u : List Char} (h : t.Writes u) : t.Normal := by
  cases h with
  | piece hp => exact hp.normal
  | optional hu hps =>
    refine ⟨fun p hp => ?_, hps⟩
    obtain ⟨v, -, hp⟩ := hu.exists_writes hp
    exact hp.normal

theorem Body.Writes.normal {ts : List Token} {cs : List Char} (h : Writes ts cs) : Normal ts := by
  refine ⟨fun t ht => ?_, h.2⟩
  obtain ⟨v, -, ht⟩ := h.1.exists_writes ht
  exact ht.normal

/-! ## Tokens written without arrows are printable -/

theorem Marker.char_eq_of_ofChar? {c : Char} {marker : Marker} (h : ofChar? c = some marker)
    (hleft : c ≠ '←') (hright : c ≠ '→') : marker.char = c := by
  unfold ofChar? at h
  split at h
  · rename_i hc
    have hless : c = '<' := by simpa [hleft] using hc
    cases h
    exact hless.symm
  · split at h
    · rename_i hc
      have hgreater : c = '>' := by simpa [hright] using hc
      cases h
      exact hgreater.symm
    · split at h
      · rename_i hc
        cases h
        exact hc.symm
      · cases h

theorem Piece.Writes.printable {p : Piece} {u : List Char} (h : p.Writes u) (hleft : '←' ∉ u)
    (hright : '→' ∉ u) : p.Printable := by
  cases h with
  | text => trivial
  | selector => trivial
  | @substitution c marker target hc htarget =>
    have hchar : marker.char = c := by
      refine Marker.char_eq_of_ofChar? hc ?_ ?_
      · rintro rfl
        exact hleft List.mem_cons_self
      · rintro rfl
        exact hright List.mem_cons_self
    intro cs hcs
    have heq : target = cs := by
      cases target with
      | nil => cases hcs
      | cons d target => exact Option.some.inj hcs
    rw [hchar, ← heq]
    exact htarget

theorem Token.Writes.printable {t : Token} {u : List Char} (h : t.Writes u) (hleft : '←' ∉ u)
    (hright : '→' ∉ u) : t.Printable := by
  cases h with
  | piece hp => exact hp.printable hleft hright
  | @optional ps v hu _ =>
    intro p hp
    obtain ⟨w, hpart, hp⟩ := hu.exists_writes hp
    have hsub : ∀ c, c ∈ w → c ∈ '[' :: (v ++ [']']) := fun c hc =>
      List.mem_cons_of_mem _ (List.mem_append_left _ (hpart.subset hc))
    exact hp.printable (mt (hsub _) hleft) (mt (hsub _) hright)

theorem Body.Writes.printable {ts : List Token} {cs : List Char} (h : Writes ts cs)
    (hleft : '←' ∉ cs) (hright : '→' ∉ cs) : Printable ts := by
  intro t ht
  obtain ⟨u, hpart, ht⟩ := h.1.exists_writes ht
  exact ht.printable (mt (fun hc => hpart.subset hc) hleft) (mt (fun hc => hpart.subset hc) hright)

end NumberRules.Spelling
