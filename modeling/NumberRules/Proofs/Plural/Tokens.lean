import Mathlib
import NumberRules.Plural.Condition.Parser
import NumberRules.Proofs.Text.Blank
import NumberRules.Proofs.Plural.Grammar

/-! # Cutting text into tokens, and writing tokens

`Condition.normalize` computes `Proper`, and `Token.lex` computes `Splits`: whatever splits is cut in
that way, and a text that is cut into known tokens splits into them, wherever one stops reading
tokens.  `Token.render` writes known tokens so that they are cut the same way again, and its text is
tidy and free of samples, so that `Condition.normalize` keeps it.
-/

namespace NumberRules.Plural
set_option autoImplicit false

/-! ## White space and samples -/

theorem whiteSpace_iff {c : Char} : WhiteSpace c ↔ Text.isBlank c = true := by
  simp only [WhiteSpace, List.mem_cons, List.not_mem_nil, or_false, Text.isBlank, Text.inRanges,
    Text.blankRanges, List.any_cons, List.any_nil, Bool.or_false, Bool.or_eq_true,
    Bool.and_eq_true, decide_eq_true_eq]
  omega

theorem not_whiteSpace_iff {c : Char} : ¬WhiteSpace c ↔ Text.isBlank c = false := by
  rw [whiteSpace_iff, Bool.not_eq_true]

theorem Words.words_eq {cs : List Char} {ws : List (List Char)} (h : Words cs ws) :
    Text.words cs = ws := by
  induction h with
  | nil => rfl
  | space hc _ ih => rw [Text.words_cons_of_blank (whiteSpace_iff.1 hc), ih]
  | word hne hw hend _ ih =>
    have hsolid : Text.Solid _ := fun c hc => not_whiteSpace_iff.1 (hw c hc)
    rw [Text.words_append hne hsolid fun c hc => whiteSpace_iff.1 (hend c hc), ih]

theorem exists_words (cs : List Char) : ∃ ws, Words cs ws := by
  induction cs with
  | nil => exact ⟨[], .nil⟩
  | cons c cs ih =>
    obtain ⟨ws, h⟩ := ih
    by_cases hc : WhiteSpace c
    · exact ⟨ws, .space hc h⟩
    · -- The character is a word of its own, or lengthens the word that the text begins with.
      cases h with
      | nil => exact ⟨_, .word (List.cons_ne_nil c []) (by simpa using hc) (by simp) .nil⟩
      | space hd h =>
        exact ⟨_, .word (List.cons_ne_nil c []) (by simpa using hc) (by simpa using hd)
          (.space hd h)⟩
      | @word w _ _ hne hw hend h =>
        exact ⟨_, .word (List.cons_ne_nil c w) (List.forall_mem_cons.2 ⟨hc, hw⟩) hend h⟩

theorem words_words (cs : List Char) : Words cs (Text.words cs) := by
  obtain ⟨ws, h⟩ := exists_words cs
  exact h.words_eq ▸ h

theorem Front.eq_takeWhile {cs front : List Char} (h : Front cs front) :
    cs.takeWhile (· ≠ '@') = front := by
  have hfront : ∀ c ∈ front, decide (c ≠ '@') = true := by
    intro c hc
    exact decide_eq_true fun heq => h.1 (heq ▸ hc)
  rcases h.2 with rfl | ⟨samples, rfl⟩
  · exact List.takeWhile_eq_self_iff.2 hfront
  · exact Text.takeWhile_append_stop hfront (by simp)

theorem front_takeWhile (cs : List Char) : Front cs (cs.takeWhile (· ≠ '@')) := by
  refine ⟨fun hat => by simpa using List.mem_takeWhile_imp hat, ?_⟩
  have hsplit := List.takeWhile_append_dropWhile (p := fun c => decide (c ≠ '@')) (l := cs)
  cases hrest : cs.dropWhile (· ≠ '@') with
  | nil =>
    rw [hrest, List.append_nil] at hsplit
    exact .inl hsplit.symm
  | cons c samples =>
    have hhead := List.head?_dropWhile_not (fun c => decide (c ≠ '@')) cs
    rw [hrest] at hhead hsplit
    obtain rfl : c = '@' := by simpa using hhead
    exact .inr ⟨samples, hsplit.symm⟩

/-- The text before the samples is what the reader makes of a text. -/
theorem proper_iff {text : String} {s : List Char} :
    Proper text.toList s ↔ s = (Condition.normalize text).toList := by
  rw [Condition.normalize, String.toList_ofList, Text.collapse]
  constructor
  · rintro ⟨front, ws, hfront, hws, rfl⟩
    rw [hfront.eq_takeWhile, hws.words_eq]
  · rintro rfl
    exact ⟨_, _, front_takeWhile text.toList, words_words _, rfl⟩

theorem Condition.denotes_iff {text : String} {c : Condition} :
    Denotes text c ↔ ∃ ts, Splits (normalize text).toList ts ∧ Derives .condition ts c := by
  constructor
  · rintro ⟨s, ts, hs, h⟩
    exact ⟨ts, proper_iff.1 hs ▸ h⟩
  · rintro ⟨ts, h⟩
    exact ⟨_, ts, proper_iff.2 rfl, h⟩

/-! ## Words and symbols -/

namespace Vocabulary

variable {w : List Char} {t : Token}

theorem ofWord_eq (h : Vocabulary w t) : Token.ofWord w = t := by
  cases h <;> rfl

theorem ne_nil (h : Vocabulary w t) : w ≠ [] := by
  cases h <;> simp

theorem isAlpha (h : Vocabulary w t) : ∀ c ∈ w, c.isAlpha = true :=
  List.all_eq_true.1 (by cases h <;> decide)

theorem not_mem_space (h : Vocabulary w t) : ' ' ∉ w := fun hmem =>
  absurd (h.isAlpha ' ' hmem) (by decide)

end Vocabulary

theorem vocabulary_keyword (k : Keyword) : Vocabulary k.spelling (.keyword k) := by
  cases k <;> constructor

theorem vocabulary_operand (o : Operand) : Vocabulary [o.letter] (.operand o) := by
  cases o <;> constructor

/-- Words that the reader knows are in the vocabulary. -/
theorem vocabulary_ofWord {w : List Char} (h : (Token.ofWord w).Known) :
    Vocabulary w (Token.ofWord w) := by
  unfold Token.ofWord at h ⊢
  split at h
  · rename_i k hk
    have hw : k.spelling = w := by simpa using List.find?_some hk
    exact hw ▸ vocabulary_keyword k
  · rename_i o _ ho
    have hw : [o.letter] = w := by simpa using List.find?_some ho
    exact hw ▸ vocabulary_operand o
  · exact h.elim

theorem symbol_spelling (p : Punctuation) : Symbol p.spelling p := by
  cases p <;> constructor

theorem Symbol.not_mem_space {s : List Char} {p : Punctuation} (h : Symbol s p) : ' ' ∉ s := by
  cases h <;> decide

/-! ## Leading runs of digits and letters -/

theorem numberEnds_iff {cs : List Char} : NumberEnds cs ↔ Digits.Stops cs := by
  simp only [NumberEnds, Digits.Stops, Digit.isDigit_eq_false_iff]

theorem ofChar?_of_isAlpha {c : Char} (h : c.isAlpha = true) : Digit.ofChar? c = none := by
  have hrange : ¬('0'.toNat ≤ c.toNat ∧ c.toNat ≤ '9'.toNat) := by
    simp only [Char.isAlpha, Char.isUpper, Char.isLower, Bool.or_eq_true, Bool.and_eq_true,
      decide_eq_true_eq, ge_iff_le, UInt32.le_iff_toNat_le] at h
    have h9 : '9'.toNat = 57 := rfl
    have hA : 'A'.val.toNat = 65 := rfl
    have ha : 'a'.val.toNat = 97 := rfl
    have hc : c.toNat = c.val.toNat := rfl
    omega
  simp only [Digit.ofChar?, hrange, dite_false]

theorem ne_space_of_isAlpha {c : Char} (h : c.isAlpha = true) : c ≠ ' ' := by
  rintro rfl
  revert h
  decide

/-- What holds of the head of a text holds of the head of its front. -/
theorem head?_front {p : Char → Prop} {front back : List Char}
    (h : ∀ c ∈ (front ++ back).head?, p c) : ∀ c ∈ front.head?, p c := by
  cases front with
  | nil => simp
  | cons d front => exact h

theorem wordEnds_dropWhile (cs : List Char) : WordEnds (cs.dropWhile Char.isAlpha) := by
  intro c hc
  have h := List.head?_dropWhile_not Char.isAlpha cs
  rw [hc] at h
  simpa using h

/-! ## One token -/

namespace Token

theorem next_number (d : Digit) (ds : List Digit) {cs : List Char} (hstop : Digits.Stops cs) :
    next d.toChar (Digits.toChars ds ++ cs) = (number (Digits.value (d :: ds)), cs) := by
  unfold next
  rw [Digit.ofChar?_toChar, Digits.takeLeading_toChars_append ds hstop]

theorem next_word {c : Char} {w cs : List Char} (hc : c.isAlpha = true)
    (hw : ∀ d ∈ w, d.isAlpha = true) (hend : WordEnds cs) :
    next c (w ++ cs) = (ofWord (c :: w), cs) := by
  unfold next
  rw [ofChar?_of_isAlpha hc]
  simp only [hc, if_true]
  rw [Text.takeWhile_append_stop hw hend, Text.dropWhile_append_stop hw hend]

/-- A symbol has a first character, with which it is cut off. -/
theorem next_symbol {s : List Char} {p : Punctuation} (h : Symbol s p) (cs : List Char) :
    ∃ c rest, s = c :: rest ∧ c ≠ ' ' ∧ next c (rest ++ cs) = (mark p, cs) := by
  cases h with
  | opening => exact ⟨'(', [], rfl, by decide, rfl⟩
  | closing => exact ⟨')', [], rfl, by decide, rfl⟩
  | percent => exact ⟨'%', [], rfl, by decide, rfl⟩
  | equals => exact ⟨'=', [], rfl, by decide, rfl⟩
  | notEquals => exact ⟨'!', ['='], rfl, by decide, rfl⟩
  | comma => exact ⟨',', [], rfl, by decide, rfl⟩
  | dots => exact ⟨'.', ['.'], rfl, by decide, rfl⟩

theorem lex_space (cs : List Char) : lex (' ' :: cs) = lex cs := by
  rw [lex, if_pos rfl]

theorem lex_cons {c : Char} (rest : List Char) (hc : c ≠ ' ') :
    lex (c :: rest) = ⟨(next c rest).1, c :: rest⟩ :: lex (next c rest).2 := by
  rw [lex, if_neg hc]

/-! ## All tokens of a text -/

/-- What splits is cut in that way. -/
theorem tokens_lex_of_splits {cs : List Char} {ts : List Token} (h : Splits cs ts) :
    (lex cs).map (·.token) = ts := by
  induction h with
  | nil => simp [lex]
  | space _ ih => rw [lex_space, ih]
  | @number run cs ts hne hrun hstop _ ih =>
    obtain ⟨ds, rfl⟩ := Digits.exists_toChars hrun
    obtain ⟨d, ds, rfl⟩ := List.exists_cons_of_ne_nil (mt (congrArg Digits.toChars) hne)
    have hcons : Digits.toChars (d :: ds) ++ cs = d.toChar :: (Digits.toChars ds ++ cs) := rfl
    rw [Digits.ofDigitChars_toChars, hcons, lex_cons _ (d.toChar_ne (by decide)),
      next_number d ds (numberEnds_iff.1 hstop), List.map_cons, ih]
  | @word w cs t ts hw hend _ ih =>
    obtain ⟨c, w, rfl⟩ := List.exists_cons_of_ne_nil hw.ne_nil
    obtain ⟨hc, hrest⟩ := List.forall_mem_cons.1 hw.isAlpha
    rw [List.cons_append, lex_cons _ (ne_space_of_isAlpha hc), next_word hc hrest hend,
      hw.ofWord_eq, List.map_cons, ih]
  | @symbol s cs p ts hs _ ih =>
    obtain ⟨c, rest, rfl, hc, hnext⟩ := next_symbol hs cs
    rw [List.cons_append, lex_cons _ hc, hnext, List.map_cons, ih]

/-- Digits in front of a text are one more token. -/
theorem splits_toChars {ds : List Digit} {cs : List Char} {ts : List Token} (hne : ds ≠ [])
    (hstop : NumberEnds cs) (h : Splits cs ts) :
    Splits (Digits.toChars ds ++ cs) (number (Digits.value ds) :: ts) := by
  have hdigits : ∀ c ∈ Digits.toChars ds, c.isDigit = true := fun c hc =>
    Digit.isDigit_iff.2 (Digits.mem_toChars hc)
  have hs := Splits.number (Digits.toChars_ne_nil hne) hdigits hstop h
  rwa [Digits.ofDigitChars_toChars] at hs

theorem splits_number {c : Char} {d : Digit} {rest front back : List Char} {ts : List Token}
    (hd : Digit.ofChar? c = some d) (hcut : (Digits.takeLeading rest).2 = front ++ back)
    (h : Splits front ts) :
    ∃ w, c :: rest = w ++ (front ++ back) ∧
      Splits (w ++ front) (number (Digits.value (d :: (Digits.takeLeading rest).1)) :: ts) := by
  refine ⟨Digits.toChars (d :: (Digits.takeLeading rest).1), ?_, ?_⟩
  · rw [Digit.eq_toChar_of_ofChar? hd, ← hcut]
    exact congrArg _ (Digits.takeLeading_append rest).symm
  · have hstop := numberEnds_iff.2 (Digits.stops_takeLeading rest)
    rw [hcut] at hstop
    exact splits_toChars (List.cons_ne_nil _ _) (head?_front hstop) h

theorem splits_word {c : Char} {rest front back : List Char} {ts : List Token}
    (hknown : (ofWord (c :: rest.takeWhile Char.isAlpha)).Known)
    (hcut : rest.dropWhile Char.isAlpha = front ++ back) (h : Splits front ts) :
    ∃ w, c :: rest = w ++ (front ++ back) ∧
      Splits (w ++ front) (ofWord (c :: rest.takeWhile Char.isAlpha) :: ts) := by
  refine ⟨c :: rest.takeWhile Char.isAlpha, ?_, ?_⟩
  · rw [← hcut, List.cons_append, List.takeWhile_append_dropWhile]
  · have hend := wordEnds_dropWhile rest
    rw [hcut] at hend
    exact .word (vocabulary_ofWord hknown) (head?_front hend) h

/-- A known token is cut off as `Splits` says, however much of what follows it is read. -/
theorem splits_of_next {c : Char} {rest front back : List Char} {ts : List Token}
    (hknown : (next c rest).1.Known) (hcut : (next c rest).2 = front ++ back)
    (h : Splits front ts) :
    ∃ w, c :: rest = w ++ (front ++ back) ∧ Splits (w ++ front) ((next c rest).1 :: ts) := by
  unfold next at hknown hcut ⊢
  split at hknown
  · rename_i d hd
    rw [hd] at hcut
    exact splits_number hd hcut h
  · rename_i hd
    rw [hd] at hcut
    dsimp only at hcut
    split at hknown
    · rename_i hc
      rw [if_pos hc] at hcut ⊢
      exact splits_word hknown hcut h
    · rename_i hc
      rw [if_neg hc] at hcut ⊢
      split at hknown
      · exact ⟨['('], congrArg _ hcut, .symbol .opening h⟩
      · exact ⟨[')'], congrArg _ hcut, .symbol .closing h⟩
      · exact ⟨['%'], congrArg _ hcut, .symbol .percent h⟩
      · exact ⟨['='], congrArg _ hcut, .symbol .equals h⟩
      · exact ⟨['!', '='], congrArg ('!' :: '=' :: ·) hcut, .symbol .notEquals h⟩
      · exact ⟨[','], congrArg _ hcut, .symbol .comma h⟩
      · exact ⟨['.', '.'], congrArg ('.' :: '.' :: ·) hcut, .symbol .dots h⟩
      · exact hknown.elim

/-- Where one stops reading known tokens, the text in front splits into them. -/
theorem exists_splits_of_lex {cs : List Char} {used rest : List Located}
    (hlex : lex cs = used ++ rest) (h : AllKnown (used.map (·.token))) :
    ∃ front, cs = front ++ (Condition.textFrom rest).toList ∧
      Splits front (used.map (·.token)) := by
  fun_induction lex cs generalizing used with
  | case1 =>
    obtain ⟨rfl, rfl⟩ := List.append_eq_nil_iff.1 hlex.symm
    exact ⟨[], rfl, .nil⟩
  | case2 cs ih =>
    obtain ⟨front, rfl, hsplits⟩ := ih hlex h
    exact ⟨' ' :: front, rfl, .space hsplits⟩
  | case3 c cs hc ih =>
    cases used with
    | nil =>
      rw [List.nil_append] at hlex
      refine ⟨[], ?_, .nil⟩
      simp [← hlex, Condition.textFrom]
    | cons u used =>
      obtain ⟨rfl, htail⟩ := List.cons.inj hlex
      obtain ⟨hknown, hused⟩ := allKnown_cons.1 h
      obtain ⟨front, hcut, hsplits⟩ := ih htail hused
      obtain ⟨w, hw, hws⟩ := splits_of_next hknown hcut hsplits
      exact ⟨w ++ front, by rw [hw, List.append_assoc], hws⟩

/-- A text that is cut into known tokens splits into them. -/
theorem splits_lex (cs : List Char) (h : AllKnown ((lex cs).map (·.token))) :
    Splits cs ((lex cs).map (·.token)) := by
  obtain ⟨front, hfront, hsplits⟩ := exists_splits_of_lex (List.append_nil (lex cs)).symm h
  have hempty : (Condition.textFrom []).toList = [] := rfl
  rw [hempty, List.append_nil] at hfront
  rwa [hfront] at hsplits ⊢

/-! ## Writing tokens -/

/-- A text goes on with neither a digit nor a letter. -/
def Delimited (cs : List Char) : Prop := NumberEnds cs ∧ WordEnds cs

theorem delimited_nil : Delimited [] := by simp [Delimited, NumberEnds, WordEnds]

theorem delimited_cons {c : Char} (cs : List Char) (hd : c.isDigit = false)
    (hw : c.isAlpha = false) : Delimited (c :: cs) := by
  simp [Delimited, NumberEnds, WordEnds, hd, hw]

/-- A known token is cut off its own text, if what follows cannot make it longer. -/
theorem splits_spelling {t : Token} {cs : List Char} {ts : List Token} (hk : t.Known)
    (hcs : (∃ p, t = mark p) ∨ Delimited cs) (h : Splits cs ts) :
    Splits (t.spelling ++ cs) (t :: ts) := by
  cases t with
  | stray text => exact hk.elim
  | mark p => exact .symbol (symbol_spelling p) h
  | number value =>
    have hd : Delimited cs := hcs.resolve_left (by simp)
    have hs := splits_toChars (Digits.ofNat_ne_nil value) hd.1 h
    rwa [Digits.value_ofNat] at hs
  | operand o =>
    have hd : Delimited cs := hcs.resolve_left (by simp)
    exact .word (vocabulary_operand o) hd.2 h
  | keyword k =>
    have hd : Delimited cs := hcs.resolve_left (by simp)
    exact .word (vocabulary_keyword k) hd.2 h

/-- The text of tokens begins with the text of the first one. -/
theorem exists_render_cons (t : Token) (ts : List Token) :
    ∃ cs, render (t :: ts) = t.spelling ++ cs := by
  cases ts with
  | nil => exact ⟨[], (List.append_nil _).symm⟩
  | cons u us => exact ⟨_, rfl⟩

/-- Without a space between two tokens, the first is punctuation or the second begins with it. -/
theorem delimited_of_not_spaced {a b : Token} (ts : List Token) (h : spaced a b = false) :
    (∃ p, a = mark p) ∨ Delimited (render (b :: ts)) := by
  obtain ⟨cs, hcs⟩ := exists_render_cons b ts
  simp only [spaced, Bool.not_eq_false', Bool.or_eq_true, decide_eq_true_eq] at h
  rcases h with ((((rfl | rfl) | rfl) | rfl) | rfl) | rfl
  · exact .inl ⟨_, rfl⟩
  · exact .inl ⟨_, rfl⟩
  · exact .inl ⟨_, rfl⟩
  · exact .inr (hcs ▸ delimited_cons cs rfl rfl)
  · exact .inr (hcs ▸ delimited_cons cs rfl rfl)
  · exact .inr (hcs ▸ delimited_cons ('.' :: cs) rfl rfl)

theorem render_cons_cons (a b : Token) (ts : List Token) :
    render (a :: b :: ts) =
      a.spelling ++ ((if spaced a b then [' '] else []) ++ render (b :: ts)) :=
  rfl

/-- Known tokens are cut off their text again. -/
theorem splits_render {ts : List Token} (h : AllKnown ts) : Splits (render ts) ts := by
  induction ts with
  | nil => exact .nil
  | cons a ts ih =>
    obtain ⟨ha, hts⟩ := allKnown_cons.1 h
    cases ts with
    | nil =>
      have hs := splits_spelling ha (.inr delimited_nil) .nil
      rwa [List.append_nil] at hs
    | cons b ts =>
      rw [render_cons_cons]
      by_cases hab : spaced a b = true
      · rw [if_pos hab]
        exact splits_spelling ha (.inr (delimited_cons _ rfl rfl)) (.space (ih hts))
      · rw [if_neg hab]
        exact splits_spelling ha (delimited_of_not_spaced ts (by simpa using hab)) (ih hts)

/-! ## Written tokens are normal -/

def isPlain (c : Char) : Bool := !Text.isBlank c && c ≠ '@'

theorem isPlain_iff {c : Char} : isPlain c = true ↔ Text.isBlank c = false ∧ c ≠ '@' := by
  simp [isPlain]

theorem isPlain_toChar (d : Digit) : isPlain d.toChar = true :=
  isPlain_iff.2 ⟨Text.isBlank_toChar d, d.toChar_ne (by decide)⟩

theorem isPlain_spelling {t : Token} (hk : t.Known) : ∀ c ∈ t.spelling, isPlain c = true := by
  cases t with
  | stray text => exact hk.elim
  | number value =>
    intro c hc
    obtain ⟨d, rfl⟩ := Digits.mem_toChars hc
    exact isPlain_toChar d
  | operand o => exact List.all_eq_true.1 (by cases o <;> decide)
  | keyword k => exact List.all_eq_true.1 (by cases k <;> decide)
  | mark p => exact List.all_eq_true.1 (by cases p <;> decide)

theorem spelling_ne_nil {t : Token} (hk : t.Known) : t.spelling ≠ [] := by
  cases t with
  | stray text => exact hk.elim
  | number value => exact Digits.toChars_ne_nil (Digits.ofNat_ne_nil value)
  | operand o => simp [spelling]
  | keyword k => exact (vocabulary_keyword k).ne_nil
  | mark p => cases p <;> simp [spelling, Punctuation.spelling]

theorem tidy_render {ts : List Token} (hne : ts ≠ []) (h : AllKnown ts) :
    Text.Tidy (render ts) := by
  induction ts with
  | nil => exact absurd rfl hne
  | cons a ts ih =>
    obtain ⟨ha, hts⟩ := allKnown_cons.1 h
    have hsolid : Text.Solid a.spelling := fun c hc => (isPlain_iff.1 (isPlain_spelling ha c hc)).1
    cases ts with
    | nil => exact .word (spelling_ne_nil ha) hsolid
    | cons b ts =>
      have hrest := ih (List.cons_ne_nil b ts) hts
      rw [render_cons_cons]
      by_cases hab : spaced a b = true
      · rw [if_pos hab]
        exact .cons (spelling_ne_nil ha) hsolid hrest
      · rw [if_neg hab]
        exact hrest.append hsolid

theorem ne_at_of_mem_render {ts : List Token} (h : AllKnown ts) : ∀ c ∈ render ts, c ≠ '@' := by
  induction ts with
  | nil => simp [render]
  | cons a ts ih =>
    obtain ⟨ha, hts⟩ := allKnown_cons.1 h
    have hspelling : ∀ c ∈ a.spelling, c ≠ '@' := fun c hc =>
      (isPlain_iff.1 (isPlain_spelling ha c hc)).2
    cases ts with
    | nil => exact hspelling
    | cons b ts =>
      intro c hc
      rw [render_cons_cons, List.mem_append, List.mem_append] at hc
      rcases hc with hc | hc | hc
      · exact hspelling c hc
      · split at hc
        · rw [List.mem_singleton.1 hc]
          decide
        · simp at hc
      · exact ih hts c hc

theorem normalize_ofList {cs : List Char} (hat : ∀ c ∈ cs, c ≠ '@') :
    Condition.normalize (String.ofList cs) = String.ofList (Text.collapse cs) := by
  have htake : cs.takeWhile (· ≠ '@') = cs := by
    rw [List.takeWhile_eq_self_iff]
    intro c hc
    simpa using hat c hc
  rw [Condition.normalize, String.toList_ofList, htake]

theorem normalize_of_tidy {cs : List Char} (h : Text.Tidy cs) (hat : ∀ c ∈ cs, c ≠ '@') :
    Condition.normalize (String.ofList cs) = String.ofList cs := by
  rw [normalize_ofList hat, Text.collapse_of_tidy h]

theorem normalize_render {ts : List Token} (hne : ts ≠ []) (h : AllKnown ts) :
    Condition.normalize (String.ofList (render ts)) = String.ofList (render ts) :=
  normalize_of_tidy (tidy_render hne h) (ne_at_of_mem_render h)

end Token

end NumberRules.Plural
