import Mathlib
import NumberRules.Proofs.Except
import NumberRules.Spelling.Body.Lexer

/-! # Sequences of writings

The readers of bodies come in pairs: one finds a single element, and the other repeats that as often
as it can, `Repeats`.  Then texts that meet are joined, `Joins`.  What holds of the single elements
is carried over to lists of them here, for cases, pieces and tokens alike.
-/

namespace NumberRules.Spelling
set_option autoImplicit false

section

variable {α : Type} {writes : α → List Char → Prop} {x : α} {xs ys : List α} {u v : List Char}

/-! ## Writings of lists -/

/-- The text is made of writings of the elements, one after another. -/
inductive Sequence (writes : α → List Char → Prop) : List α → List Char → Prop where
  | nil : Sequence writes [] []
  | cons {x : α} {xs : List α} {u v : List Char} (hx : writes x u) (hxs : Sequence writes xs v) :
    Sequence writes (x :: xs) (u ++ v)

theorem Sequence.single (h : writes x u) : Sequence writes [x] u := by
  have hsequence := Sequence.cons h .nil
  rw [List.append_nil] at hsequence
  exact hsequence

theorem Sequence.append (hxs : Sequence writes xs u) (hys : Sequence writes ys v) :
    Sequence writes (xs ++ ys) (u ++ v) := by
  induction hxs with
  | nil => exact hys
  | cons hx _ ih =>
    rw [List.append_assoc]
    exact .cons hx ih

theorem Sequence.exists_writes (h : Sequence writes xs u) (hx : x ∈ xs) :
    ∃ v, v <:+: u ∧ writes x v := by
  induction h with
  | nil => cases hx
  | @cons y ys v w hy _ ih =>
    rcases List.mem_cons.1 hx with rfl | hrest
    · exact ⟨v, (List.prefix_append v w).isInfix, hy⟩
    · obtain ⟨v', hpart, hwrites⟩ := ih hrest
      exact ⟨v', hpart.trans (List.suffix_append v w).isInfix, hwrites⟩

/-! ## Repeated reading -/

/-- `all` reads elements with `one` until that finds none. -/
structure Repeats (one : List Char → Step α)
    (all : List Char → Except (List Char) (List α × List Char)) : Prop where
  eq : ∀ cs, all cs = match one cs with
    | .found x rest => do
      let (xs, after) ← all rest
      .ok (x :: xs, after)
    | .absent _ => .ok ([], cs)
    | .stopped rest => .error rest
  shorter : ∀ {cs x rest}, one cs = .found x rest → rest.length < cs.length

variable {one : List Char → Step α} {all : List Char → Except (List Char) (List α × List Char)}

theorem Repeats.exists_sequence (h : Repeats one all)
    (hone : ∀ {cs x rest}, one cs = .found x rest → ∃ u, cs = u ++ rest ∧ writes x u)
    {cs rest : List Char} (hall : all cs = .ok (xs, rest)) :
    ∃ u, cs = u ++ rest ∧ Sequence writes xs u := by
  induction hlength : cs.length using Nat.strongRecOn generalizing cs xs with
  | ind n ih =>
    rw [h.eq] at hall
    cases hstep : one cs with
    | found x after =>
      rw [hstep] at hall
      obtain ⟨⟨ys, rest'⟩, hys, hcons⟩ := bind_eq_ok_iff.1 hall
      cases hcons
      obtain ⟨u, rfl, hx⟩ := hone hstep
      have hshort := h.shorter hstep
      obtain ⟨v, rfl, hsequence⟩ := ih _ (hlength ▸ hshort) hys rfl
      exact ⟨u ++ v, (List.append_assoc u v rest).symm, .cons hx hsequence⟩
    | absent stop =>
      rw [hstep] at hall
      cases hall
      exact ⟨[], rfl, .nil⟩
    | stopped stop =>
      rw [hstep] at hall
      cases hall

theorem Repeats.all_print (h : Repeats one all) {print : α → List Char}
    (hprint : ∀ x ∈ xs, ∀ rest, one (print x ++ rest) = .found x rest)
    {rest stop : List Char} (hrest : one rest = .absent stop) :
    all (xs.flatMap print ++ rest) = .ok (xs, rest) := by
  induction xs with
  | nil =>
    rw [List.flatMap_nil, List.nil_append, h.eq, hrest]
  | cons x xs ih =>
    rw [List.forall_mem_cons] at hprint
    rw [List.flatMap_cons, List.append_assoc, h.eq, hprint.1]
    exact bind_eq_ok_iff.2 ⟨_, ih hprint.2, rfl⟩

/-- Elements that are not read as a whole are read as their units. -/
theorem Repeats.all_units (h : Repeats one all) {print : α → List Char} {units : α → List α}
    (hunits : ∀ x, (units x).flatMap print = print x)
    (hprint : ∀ x ∈ xs, ∀ u ∈ units x, ∀ rest, one (print u ++ rest) = .found u rest)
    {rest stop : List Char} (hrest : one rest = .absent stop) :
    all (xs.flatMap print ++ rest) = .ok (xs.flatMap units, rest) := by
  have hflat : (xs.flatMap units).flatMap print = xs.flatMap print := by
    rw [List.flatMap_assoc]
    simp only [hunits]
  rw [← hflat]
  refine h.all_print (fun u hu => ?_) hrest
  obtain ⟨x, hx, hu⟩ := List.mem_flatMap.1 hu
  exact hprint x hx u hu

/-! ## Joined texts -/

variable {isText : α → Prop} {ofText : List Char → α} {joined : α → List α → List α}

/-- No two texts stand next to each other. -/
def Separate (isText : α → Prop) (xs : List α) : Prop :=
  xs.IsChain fun x y => ¬(isText x ∧ isText y)

/-- `joined` puts an element in front of others, and makes one text of two that meet. -/
structure Joins (isText : α → Prop) (ofText : List Char → α) (joined : α → List α → List α) :
    Prop where
  isText_iff : ∀ x, isText x ↔ ∃ cs, x = ofText cs
  join : ∀ a b xs, joined (ofText a) (ofText b :: xs) = ofText (a ++ b) :: xs
  keep : ∀ {x xs}, (∀ y ∈ xs.head?, ¬(isText x ∧ isText y)) → joined x xs = x :: xs

theorem Joins.keep_or_join (h : Joins isText ofText joined) (x : α) (xs : List α) :
    (∀ y ∈ xs.head?, ¬(isText x ∧ isText y)) ∨
      ∃ a b rest, x = ofText a ∧ xs = ofText b :: rest := by
  rw [or_iff_not_imp_left]
  intro hmeet
  push Not at hmeet
  obtain ⟨y, hy, hx, htext⟩ := hmeet
  obtain ⟨a, rfl⟩ := (h.isText_iff x).1 hx
  obtain ⟨b, rfl⟩ := (h.isText_iff y).1 htext
  obtain ⟨rest, rfl⟩ := List.head?_eq_some_iff.1 hy
  exact ⟨a, b, rest, rfl, rfl⟩

theorem Joins.separate_foldr (h : Joins isText ofText joined) (xs : List α) :
    Separate isText (xs.foldr joined []) := by
  induction xs with
  | nil => exact .nil
  | cons x xs ih =>
    rw [List.foldr_cons]
    rcases h.keep_or_join x (xs.foldr joined []) with hkeep | ⟨a, b, rest, rfl, hrest⟩
    · rw [h.keep hkeep]
      exact List.isChain_cons.2 ⟨hkeep, ih⟩
    · rw [hrest] at ih ⊢
      rw [h.join]
      obtain ⟨hhead, htail⟩ := List.isChain_cons.1 ih
      refine List.isChain_cons.2 ⟨fun y hy => ?_, htail⟩
      rintro ⟨-, htext⟩
      exact hhead y hy ⟨(h.isText_iff _).2 ⟨b, rfl⟩, htext⟩

theorem Joins.sequence_foldr (h : Joins isText ofText joined)
    (hjoin : ∀ {a b u v}, writes (ofText a) u → writes (ofText b) v →
      writes (ofText (a ++ b)) (u ++ v))
    (hxs : Sequence writes xs u) : Sequence writes (xs.foldr joined []) u := by
  induction hxs with
  | nil => exact .nil
  | @cons x xs u v hx _ ih =>
    rw [List.foldr_cons]
    rcases h.keep_or_join x (xs.foldr joined []) with hkeep | ⟨a, b, rest, rfl, hrest⟩
    · rw [h.keep hkeep]
      exact .cons hx ih
    · rw [hrest] at ih ⊢
      rw [h.join]
      cases ih with
      | @cons _ _ v w hb hrest =>
        rw [← List.append_assoc]
        exact .cons (hjoin hx hb) hrest

/-- The text of one character each, joined again. -/
theorem Joins.foldr_map_singleton (h : Joins isText ofText joined) {cs : List Char} (hcs : cs ≠ [])
    (hxs : ∀ y ∈ xs.head?, ¬isText y) :
    (cs.map fun c => ofText [c]).foldr joined xs = ofText cs :: xs := by
  induction cs with
  | nil => exact absurd rfl hcs
  | cons c cs ih =>
    rw [List.map_cons, List.foldr_cons]
    by_cases hnil : cs = []
    · rw [hnil]
      exact h.keep fun y hy htexts => hxs y hy htexts.2
    · rw [ih hnil]
      exact h.join [c] cs xs

theorem Joins.foldr_flatMap (h : Joins isText ofText joined) {units : α → List α}
    (htext : ∀ cs, units (ofText cs) = cs.map fun c => ofText [c])
    (hother : ∀ x, ¬isText x → units x = [x]) (hxs : Separate isText xs)
    (hnonempty : ofText [] ∉ xs) : (xs.flatMap units).foldr joined [] = xs := by
  induction xs with
  | nil => rfl
  | cons x xs ih =>
    obtain ⟨hhead, htail⟩ := List.isChain_cons.1 hxs
    rw [List.mem_cons, not_or] at hnonempty
    rw [List.flatMap_cons, List.foldr_append, ih htail hnonempty.2]
    by_cases hx : isText x
    · obtain ⟨cs, rfl⟩ := (h.isText_iff x).1 hx
      rw [htext]
      refine h.foldr_map_singleton ?_ fun y hy htext => hhead y hy ⟨hx, htext⟩
      rintro rfl
      exact hnonempty.1 rfl
    · rw [hother x hx]
      exact h.keep hhead

end

end NumberRules.Spelling
