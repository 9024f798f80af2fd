import Mathlib
import NumberRules.Text.Blank
import NumberRules.Proofs.Text.Digits

/-! # Blanks at the ends and between words

`trim` takes off exactly the blanks at both ends.  A text is `Tidy` if it consists of words with
one space between neighbours; `collapse` leaves such a text as it is, and whatever it gives is tidy
or empty.  The front of a tidy text is tidy, but for a space at its end.
-/

namespace NumberRules.Text
set_option autoImplicit false

def Solid (cs : List Char) : Prop := ∀ c ∈ cs, isBlank c = false

def Blank (cs : List Char) : Prop := ∀ c ∈ cs, isBlank c = true

theorem isBlank_space : isBlank ' ' = true := by decide

theorem solid_append {as bs : List Char} (ha : Solid as) (hb : Solid bs) : Solid (as ++ bs) := by
  intro c hc
  rcases List.mem_append.1 hc with h | h
  · exact ha c h
  · exact hb c h

theorem solid_cons {c : Char} {cs : List Char} (hc : isBlank c = false) (hcs : Solid cs) :
    Solid (c :: cs) := by
  intro d hd
  rcases List.mem_cons.1 hd with rfl | h
  · exact hc
  · exact hcs d h

theorem isBlank_toChar (d : Digit) : isBlank d.toChar = false := by
  revert d
  decide

theorem solid_toChars (ds : List Digit) : Solid (Digits.toChars ds) := by
  intro c hc
  obtain ⟨d, rfl⟩ := Digits.mem_toChars hc
  exact isBlank_toChar d

/-! ## Trimming -/

theorem trimStart_append {before cs : List Char} (h : Blank before) :
    trimStart (before ++ cs) = trimStart cs := by
  rw [trimStart, List.dropWhile_append_of_pos h]
  rfl

theorem trimStart_of_solid {cs : List Char} (h : Solid cs) : trimStart cs = cs := by
  cases cs with
  | nil => rfl
  | cons c cs =>
    have hc : isBlank c = false := h c (by simp)
    simp [trimStart, hc]

theorem trimStart_solid_append {cs : List Char} (rest : List Char) (hne : cs ≠ []) (h : Solid cs) :
    trimStart (cs ++ rest) = cs ++ rest := by
  cases cs with
  | nil => exact absurd rfl hne
  | cons c cs =>
    have hc : isBlank c = false := h c (by simp)
    simp [trimStart, hc]

/-- Blanks around a text without blanks do not count. -/
theorem trim_append {before cs after : List Char} (hb : Blank before) (hs : Solid cs)
    (hne : cs ≠ []) (ha : Blank after) : trim (before ++ (cs ++ after)) = cs := by
  have hrev : Blank after.reverse := fun c hc => ha c (List.mem_reverse.1 hc)
  have hsolid : Solid cs.reverse := fun c hc => hs c (List.mem_reverse.1 hc)
  rw [trim, trimStart_append hb, trimStart_solid_append after hne hs, List.reverse_append,
    trimStart_append hrev, trimStart_of_solid hsolid, List.reverse_reverse]

theorem exists_trimStart (cs : List Char) :
    ∃ before, Blank before ∧ cs = before ++ trimStart cs := by
  refine ⟨cs.takeWhile isBlank, fun c hc => ?_, ?_⟩
  · exact List.mem_takeWhile_imp hc
  · exact List.takeWhile_append_dropWhile.symm

/-- Trimming takes off blanks and nothing else. -/
theorem exists_trim (cs : List Char) :
    ∃ before after, Blank before ∧ Blank after ∧ cs = before ++ (trim cs ++ after) := by
  obtain ⟨before, hb, hbefore⟩ := exists_trimStart cs
  obtain ⟨after, ha, hafter⟩ := exists_trimStart (trimStart cs).reverse
  refine ⟨before, after.reverse, hb, fun c hc => ha c (List.mem_reverse.1 hc), ?_⟩
  have h := congrArg List.reverse hafter
  rw [List.reverse_reverse, List.reverse_append] at h
  rw [trim, ← h]
  exact hbefore

/-! ## Words with single spaces -/

theorem stretches_cons_of_solid {c : Char} {cs : List Char} {w : List Char}
    {ws : List (List Char)} (hc : isBlank c = false) (h : stretches cs = w :: ws) :
    stretches (c :: cs) = (c :: w) :: ws := by
  unfold stretches at h ⊢
  rw [List.foldr_cons, h]
  simp [hc]

theorem stretches_of_solid {w : List Char} (h : Solid w) : stretches w = [w] := by
  induction w with
  | nil => rfl
  | cons c w ih =>
    exact stretches_cons_of_solid (h c (by simp)) (ih fun d hd => h d (by simp [hd]))

theorem stretches_append_blank {w : List Char} (h : Solid w) {b : Char} (hb : isBlank b = true)
    (cs : List Char) : stretches (w ++ b :: cs) = w :: stretches cs := by
  induction w with
  | nil =>
    unfold stretches
    rw [List.nil_append, List.foldr_cons, if_pos hb]
  | cons c w ih =>
    exact stretches_cons_of_solid (h c (by simp)) (ih fun d hd => h d (by simp [hd]))

theorem words_of_solid {w : List Char} (hne : w ≠ []) (h : Solid w) : words w = [w] := by
  simp [words, stretches_of_solid h, hne]

theorem words_append_blank {w : List Char} (hne : w ≠ []) (h : Solid w) {b : Char}
    (hb : isBlank b = true) (cs : List Char) : words (w ++ b :: cs) = w :: words cs := by
  simp [words, stretches_append_blank h hb, hne]

theorem words_cons_of_blank {b : Char} (hb : isBlank b = true) (cs : List Char) :
    words (b :: cs) = words cs := by
  have hempty : stretches (b :: cs) = [] :: stretches cs :=
    stretches_append_blank (w := []) (by simp [Solid]) hb cs
  simp [words, hempty]

/-- A run without blanks that a blank or the end of the text follows is the first word. -/
theorem words_append {w cs : List Char} (hne : w ≠ []) (h : Solid w)
    (hcs : ∀ b ∈ cs.head?, isBlank b = true) : words (w ++ cs) = w :: words cs := by
  cases cs with
  | nil =>
    rw [List.append_nil, words_of_solid hne h]
    rfl
  | cons b cs =>
    have hb : isBlank b = true := hcs b (by simp)
    rw [words_append_blank hne h hb, words_cons_of_blank hb]

theorem mem_stretches {cs w : List Char} (h : w ∈ stretches cs) :
    ∀ c ∈ w, c ∈ cs ∧ isBlank c = false := by
  induction cs generalizing w with
  | nil => simp_all [stretches]
  | cons d cs ih =>
    unfold stretches at h ih
    rw [List.foldr_cons] at h
    split at h
    · rcases List.mem_cons.1 h with rfl | h
      · simp
      · intro c hc
        exact ⟨List.mem_cons_of_mem d (ih h c hc).1, (ih h c hc).2⟩
    · rename_i hd
      have hfirst : d ∈ d :: cs ∧ isBlank d = false := ⟨List.mem_cons_self, by simpa using hd⟩
      split at h
      · rw [List.mem_singleton.1 h]
        simpa using hfirst
      · rename_i part rest hparts
        rw [hparts] at ih
        rcases List.mem_cons.1 h with rfl | h
        · intro c hc
          rcases List.mem_cons.1 hc with rfl | hc
          · exact hfirst
          · have hin := ih List.mem_cons_self c hc
            exact ⟨List.mem_cons_of_mem d hin.1, hin.2⟩
        · intro c hc
          have hin := ih (List.mem_cons_of_mem part h) c hc
          exact ⟨List.mem_cons_of_mem d hin.1, hin.2⟩

/-- Words with one space between neighbours. -/
inductive Tidy : List Char → Prop
  | word {w : List Char} (hne : w ≠ []) (hw : Solid w) : Tidy w
  | cons {w cs : List Char} (hne : w ≠ []) (hw : Solid w) (hcs : Tidy cs) : Tidy (w ++ ' ' :: cs)

/-- A tidy text stays tidy with more characters in front of its first word. -/
theorem Tidy.append {w cs : List Char} (hw : Solid w) (h : Tidy cs) : Tidy (w ++ cs) := by
  cases h with
  | word hne hv => exact .word (by simp [hne]) (solid_append hw hv)
  | @cons v cs hne hv hcs =>
    rw [← List.append_assoc]
    exact .cons (by simp [hne]) (solid_append hw hv) hcs

theorem words_ne_nil_of_tidy {cs : List Char} (h : Tidy cs) : words cs ≠ [] := by
  cases h with
  | word hne hw => simp [words_of_solid hne hw]
  | cons hne hw _ => simp [words_append_blank hne hw isBlank_space]

/-- A tidy text is the join of its words. -/
theorem collapse_of_tidy {cs : List Char} (h : Tidy cs) : collapse cs = cs := by
  induction h with
  | @word w hne hw => simp [collapse, words_of_solid hne hw]
  | @cons w cs hne hw hcs ih =>
    have hwords := words_append_blank hne hw isBlank_space cs
    obtain ⟨v, vs, hvs⟩ := List.exists_cons_of_ne_nil (words_ne_nil_of_tidy hcs)
    rw [collapse, hvs] at ih
    rw [collapse, hwords, hvs, List.intercalate_cons_cons, ih, List.append_assoc,
      List.singleton_append]

theorem words_append_space {cs : List Char} (h : Tidy cs) : words (cs ++ [' ']) = words cs := by
  induction h with
  | @word w hne hw =>
    rw [words_append_blank hne hw isBlank_space, words_of_solid hne hw]
    rfl
  | @cons w cs hne hw hcs ih =>
    rw [List.append_assoc, List.cons_append, words_append_blank hne hw isBlank_space, ih,
      words_append_blank hne hw isBlank_space]

/-- A space at the end of a tidy text does not count. -/
theorem collapse_append_space {cs : List Char} (h : Tidy cs) : collapse (cs ++ [' ']) = cs := by
  rw [collapse, words_append_space h]
  exact collapse_of_tidy h

theorem Tidy.join {as bs : List Char} (ha : Tidy as) (hb : Tidy bs) : Tidy (as ++ ' ' :: bs) := by
  induction ha with
  | word hne hw => exact .cons hne hw hb
  | cons hne hw _ ih =>
    rw [List.append_assoc, List.cons_append]
    exact .cons hne hw ih

theorem Tidy.eq_space {cs : List Char} (h : Tidy cs) {c : Char} (hc : c ∈ cs)
    (hblank : isBlank c = true) : c = ' ' := by
  induction h with
  | word _ hw =>
    have hsolid := hw c hc
    simp_all
  | cons _ hw _ ih =>
    rcases List.mem_append.1 hc with hc | hc
    · have hsolid := hw c hc
      simp_all
    · rcases List.mem_cons.1 hc with rfl | hc
      · rfl
      · exact ih hc

theorem tidy_or_nil_of_solid {cs : List Char} (h : Solid cs) : cs = [] ∨ Tidy cs := by
  by_cases hne : cs = []
  · exact .inl hne
  · exact .inr (.word hne h)

/-- The front of a tidy text is empty, tidy, or tidy with a space after it. -/
theorem Tidy.front {cs front back : List Char} (h : Tidy cs) (hcs : cs = front ++ back) :
    front = [] ∨ ∃ p, Tidy p ∧ (front = p ∨ front = p ++ [' ']) := by
  have hinside : ∀ {w front back : List Char}, Solid w → w = front ++ back →
      front = [] ∨ ∃ p, Tidy p ∧ (front = p ∨ front = p ++ [' ']) := by
    rintro w front back hw rfl
    have hsolid : Solid front := fun c hc => hw c (List.mem_append_left back hc)
    exact (tidy_or_nil_of_solid hsolid).imp_right fun htidy => ⟨front, htidy, .inl rfl⟩
  induction h generalizing front with
  | word _ hw => exact hinside hw hcs
  | @cons w cs hne hw _ ih =>
    rcases List.append_eq_append_iff.1 hcs with ⟨mid, rfl, hmid⟩ | ⟨mid, hmid, -⟩
    · refine .inr ?_
      cases mid with
      | nil => exact ⟨w, .word hne hw, .inl (List.append_nil w)⟩
      | cons c mid =>
        simp only [List.cons_append, List.cons.injEq] at hmid
        obtain ⟨rfl, hmid⟩ := hmid
        rcases ih hmid with rfl | ⟨p, hp, hfront⟩
        · exact ⟨w, .word hne hw, .inr rfl⟩
        · refine ⟨w ++ ' ' :: p, .cons hne hw hp, ?_⟩
          rcases hfront with rfl | rfl
          · exact .inl rfl
          · exact .inr (by simp)
    · exact hinside hw hmid

/-! ## Collapsed texts -/

theorem tidy_intercalate {ws : List (List Char)} (hne : ws ≠ [])
    (h : ∀ w ∈ ws, w ≠ [] ∧ Solid w) : Tidy ([' '].intercalate ws) := by
  induction ws with
  | nil => exact absurd rfl hne
  | cons w ws ih =>
    obtain ⟨hw, hws⟩ := List.forall_mem_cons.1 h
    cases ws with
    | nil =>
      rw [List.intercalate_singleton]
      exact .word hw.1 hw.2
    | cons v ws =>
      rw [List.intercalate_cons_cons, List.append_assoc, List.singleton_append]
      exact .cons hw.1 hw.2 (ih (List.cons_ne_nil v ws) hws)

theorem mem_words {cs w : List Char} (h : w ∈ words cs) : w ≠ [] ∧ Solid w := by
  obtain ⟨hmem, hne⟩ := List.mem_filter.1 h
  exact ⟨by simpa using hne, fun c hc => (mem_stretches hmem c hc).2⟩

theorem tidy_collapse {cs : List Char} (h : collapse cs ≠ []) : Tidy (collapse cs) := by
  refine tidy_intercalate ?_ fun w hw => mem_words hw
  intro hnil
  rw [collapse, hnil] at h
  exact h rfl

theorem mem_of_mem_intercalate {ws : List (List Char)} {c : Char}
    (h : c ∈ [' '].intercalate ws) : c = ' ' ∨ ∃ w ∈ ws, c ∈ w := by
  induction ws with
  | nil => cases h
  | cons w ws ih =>
    cases ws with
    | nil =>
      rw [List.intercalate_singleton] at h
      exact .inr ⟨w, List.mem_cons_self, h⟩
    | cons v ws =>
      rw [List.intercalate_cons_cons, List.append_assoc, List.singleton_append, List.mem_append,
        List.mem_cons] at h
      rcases h with h | h | h
      · exact .inr ⟨w, List.mem_cons_self, h⟩
      · exact .inl h
      · exact (ih h).imp_right fun ⟨u, hu, hc⟩ => ⟨u, List.mem_cons_of_mem w hu, hc⟩

/-- Collapsing adds spaces and nothing else. -/
theorem mem_of_mem_collapse {cs : List Char} {c : Char} (h : c ∈ collapse cs) :
    c = ' ' ∨ c ∈ cs := by
  rcases mem_of_mem_intercalate h with rfl | ⟨w, hw, hc⟩
  · exact .inl rfl
  · exact .inr (mem_stretches (List.mem_of_mem_filter hw) c hc).1

end NumberRules.Text
