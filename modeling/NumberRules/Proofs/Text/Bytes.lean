import Mathlib
import NumberRules.Text.Bytes

/-! # Places in texts

A place in a text is given by what stands in front of it.  Its byte position is the length of that
text, so of two places in one text the positions agree only if the places do.  `utf8Find?` gives the
first place where a text occurs.
-/

namespace NumberRules.Text
set_option autoImplicit false

/-! ## Lengths -/

theorem utf8Length_eq (cs : List Char) : utf8Length cs = (String.ofList cs).utf8ByteSize := by
  have hfold : ∀ n, cs.foldl (fun n c => n + c.utf8Size) n =
      n + (String.ofList cs).utf8ByteSize := by
    induction cs with
    | nil => simp
    | cons c cs ih =>
      intro n
      rw [List.foldl_cons, ih, ← List.singleton_append, String.ofList_append,
        String.utf8ByteSize_append, ← String.singleton_eq_ofList, String.utf8ByteSize_singleton,
        Nat.add_assoc]
  simpa [utf8Length] using hfold 0

theorem utf8Length_toList (text : String) : utf8Length text.toList = text.utf8ByteSize := by
  rw [utf8Length_eq, String.ofList_toList]

@[simp] theorem utf8Length_nil : utf8Length [] = 0 := rfl

@[simp] theorem utf8Length_append (as bs : List Char) :
    utf8Length (as ++ bs) = utf8Length as + utf8Length bs := by
  simp only [utf8Length_eq, String.ofList_append, String.utf8ByteSize_append]

@[simp] theorem utf8Length_cons (c : Char) (cs : List Char) :
    utf8Length (c :: cs) = c.utf8Size + utf8Length cs := by
  have hsingle : utf8Length [c] = c.utf8Size := Nat.zero_add _
  rw [← List.singleton_append, utf8Length_append, hsingle]

theorem utf8Length_eq_zero_iff {cs : List Char} : utf8Length cs = 0 ↔ cs = [] := by
  rw [utf8Length_eq, String.utf8ByteSize_eq_zero_iff, String.ofList_eq_empty_iff]

theorem length_le_utf8Length (cs : List Char) : cs.length ≤ utf8Length cs := by
  induction cs with
  | nil => exact Nat.le_refl 0
  | cons c cs ih =>
    have hpos := c.utf8Size_pos
    rw [List.length_cons, utf8Length_cons]
    omega

/-! ## Places -/

/-- A longer front of a text ends at a later position. -/
theorem utf8Length_lt_of_isPrefix {as bs cs : List Char} (ha : as <+: cs) (hb : bs <+: cs)
    (h : as.length < bs.length) : utf8Length as < utf8Length bs := by
  obtain ⟨more, rfl⟩ := List.prefix_of_prefix_length_le ha hb (Nat.le_of_lt h)
  have hmore : utf8Length more ≠ 0 := by
    rw [Ne, utf8Length_eq_zero_iff]
    rintro rfl
    simp at h
  rw [utf8Length_append]
  omega

theorem eq_of_utf8Length_eq {as bs cs : List Char} (ha : as <+: cs) (hb : bs <+: cs)
    (h : utf8Length as = utf8Length bs) : as = bs := by
  refine (List.prefix_iff_eq_take.1 ha).trans (Eq.trans ?_ (List.prefix_iff_eq_take.1 hb).symm)
  rcases Nat.lt_trichotomy as.length bs.length with hlt | heq | hgt
  · exact absurd h (Nat.ne_of_lt (utf8Length_lt_of_isPrefix ha hb hlt))
  · rw [heq]
  · exact absurd h (Nat.ne_of_gt (utf8Length_lt_of_isPrefix hb ha hgt))

/-- A byte position is that of a place if no character of the text reaches over it. -/
theorem isValid_iff {text : String} {n : Nat} :
    String.Pos.Raw.IsValid text ⟨n⟩ ↔ ∃ before, before <+: text.toList ∧ utf8Length before = n := by
  rw [String.Pos.Raw.isValid_iff_exists_append]
  constructor
  · rintro ⟨before, after, rfl, hn⟩
    refine ⟨before.toList, by simp, ?_⟩
    rw [utf8Length_toList]
    exact (congrArg String.Pos.Raw.byteIdx hn).symm
  · rintro ⟨before, ⟨after, htext⟩, rfl⟩
    refine ⟨String.ofList before, String.ofList after, ?_, ?_⟩
    · rw [← String.ofList_append, htext, String.ofList_toList]
    · rw [utf8Length_eq]
      rfl

/-! ## First occurrences -/

/-- A text stands behind `before`, and at no earlier place. -/
structure FirstAfter (sought cs before : List Char) : Prop where
  occurs : before ++ sought <+: cs
  first : ∀ earlier, earlier ++ sought <+: cs → before.length ≤ earlier.length

theorem firstAfter_nil {sought cs : List Char} (h : sought <+: cs) : FirstAfter sought cs [] :=
  ⟨h, fun _ _ => Nat.zero_le _⟩

theorem FirstAfter.eq_nil {sought cs before : List Char} (h : FirstAfter sought cs before)
    (hstart : sought <+: cs) : before = [] :=
  List.eq_nil_of_length_eq_zero (Nat.le_zero.1 (h.first [] hstart))

theorem FirstAfter.cons {sought cs before : List Char} {c : Char}
    (hc : ¬sought <+: c :: cs) (h : FirstAfter sought cs before) :
    FirstAfter sought (c :: cs) (c :: before) := by
  refine ⟨List.cons_prefix_cons.2 ⟨rfl, h.occurs⟩, fun earlier hearlier => ?_⟩
  cases earlier with
  | nil => exact absurd hearlier hc
  | cons d earlier =>
    exact Nat.succ_le_succ (h.first earlier (List.cons_prefix_cons.1 hearlier).2)

theorem FirstAfter.of_cons {sought cs before : List Char} {c : Char}
    (hc : ¬sought <+: c :: cs) (h : FirstAfter sought (c :: cs) before) :
    ∃ rest, before = c :: rest ∧ FirstAfter sought cs rest := by
  cases before with
  | nil => exact absurd h.occurs hc
  | cons d rest =>
    obtain ⟨rfl, hrest⟩ := List.cons_prefix_cons.1 h.occurs
    refine ⟨rest, rfl, hrest, fun earlier hearlier => ?_⟩
    exact Nat.le_of_succ_le_succ
      (h.first (d :: earlier) (List.cons_prefix_cons.2 ⟨rfl, hearlier⟩))

theorem exists_firstAfter_iff {sought cs : List Char} :
    (∃ before, FirstAfter sought cs before) ↔ sought <:+: cs := by
  constructor
  · rintro ⟨before, ⟨after, rfl⟩, -⟩
    exact ⟨before, after, rfl⟩
  · intro h
    induction cs with
    | nil => exact ⟨[], firstAfter_nil (List.infix_nil.1 h ▸ List.prefix_rfl)⟩
    | cons c cs ih =>
      by_cases hstart : sought <+: c :: cs
      · exact ⟨[], firstAfter_nil hstart⟩
      · obtain ⟨before, hbefore⟩ := ih ((List.infix_cons_iff.1 h).resolve_left hstart)
        exact ⟨c :: before, hbefore.cons hstart⟩

theorem utf8Find?_of_firstAfter {sought cs before : List Char} (h : FirstAfter sought cs before) :
    utf8Find? sought cs = some (utf8Length before) := by
  induction cs generalizing before with
  | nil =>
    obtain ⟨rfl, rfl⟩ := List.append_eq_nil_iff.1 (List.prefix_nil.1 h.occurs)
    rfl
  | cons c cs ih =>
    rw [utf8Find?]
    by_cases hstart : sought <+: c :: cs
    · rw [if_pos (List.isPrefixOf_iff_prefix.2 hstart), h.eq_nil hstart, utf8Length_nil]
    · obtain ⟨rest, rfl, hrest⟩ := h.of_cons hstart
      rw [if_neg fun hfound => hstart (List.isPrefixOf_iff_prefix.1 hfound), ih hrest,
        Option.map_some, utf8Length_cons]

theorem infix_of_utf8Find? {sought cs : List Char} {n : Nat} (h : utf8Find? sought cs = some n) :
    sought <:+: cs := by
  induction cs generalizing n with
  | nil =>
    rw [utf8Find?] at h
    split at h
    · rename_i hempty
      rw [List.isEmpty_iff.1 hempty]
    · cases h
  | cons c cs ih =>
    rw [utf8Find?] at h
    split at h
    · rename_i hstart
      exact (List.isPrefixOf_iff_prefix.1 hstart).isInfix
    · obtain ⟨m, hm, -⟩ := Option.map_eq_some_iff.1 h
      exact List.infix_cons (ih hm)

/-- A place where a text occurs is the first one if it is the one that is found. -/
theorem firstAfter_iff {sought cs before : List Char} (h : before ++ sought <+: cs) :
    FirstAfter sought cs before ↔ utf8Find? sought cs = some (utf8Length before) := by
  refine ⟨utf8Find?_of_firstAfter, fun hfound => ?_⟩
  obtain ⟨place, hplace⟩ := exists_firstAfter_iff.2 (infix_of_utf8Find? hfound)
  rw [utf8Find?_of_firstAfter hplace, Option.some.injEq] at hfound
  have hfront : ∀ front, front ++ sought <+: cs → front <+: cs := fun front hocc =>
    (List.prefix_append front sought).trans hocc
  rwa [eq_of_utf8Length_eq (hfront place hplace.occurs) (hfront before h) hfound] at hplace

theorem utf8Find?_eq_none_iff {sought cs : List Char} :
    utf8Find? sought cs = none ↔ ¬sought <:+: cs := by
  constructor
  · intro h hoccurs
    obtain ⟨before, hbefore⟩ := exists_firstAfter_iff.2 hoccurs
    rw [utf8Find?_of_firstAfter hbefore] at h
    cases h
  · intro h
    by_contra hfound
    obtain ⟨n, hn⟩ := Option.ne_none_iff_exists'.1 hfound
    exact h (infix_of_utf8Find? hn)

end NumberRules.Text
