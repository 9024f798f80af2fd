import Mathlib
import NumberRules.Proofs.Spelling.Body.Reading

/-! # Printed bodies are read back

In what `Body.print` writes, every reserved character of a text has an apostrophe in front of it.  So
each character of a text, each substitution and each selector is read by itself, whatever comes after
it, and nothing is left to the order in which the readers are tried.
-/

namespace NumberRules.Spelling
set_option autoImplicit false

/-! ## Plural selectors -/

theorem skipSpacing_cons {c : Char} (h : Text.isSpacing c = false) (cs : List Char) :
    skipSpacing (c :: cs) = c :: cs :=
  List.dropWhile_cons_of_neg (by simp [h])

theorem isSpacing_eq_false_of_isAlphanum {c : Char} (h : c.isAlphanum = true) :
    Text.isSpacing c = false := by
  by_contra hspacing
  simp only [Bool.not_eq_false, Text.isSpacing, Bool.or_eq_true, decide_eq_true_eq] at hspacing
  rcases hspacing with (((rfl | rfl) | rfl) | rfl) | rfl
  all_goals revert h; decide

namespace Piece

theorem readCase_print {case : List Char × List Char} (h : NormalCase case) (rest : List Char) :
    readCase (printCase case ++ rest) = .found case rest := by
  obtain ⟨⟨hne, halnum⟩, hbrace⟩ := h
  obtain ⟨category, words⟩ := case
  obtain ⟨c, cs, rfl⟩ := List.exists_cons_of_ne_nil hne
  have htext : printCase (c :: cs, words) ++ rest =
      (c :: cs) ++ '{' :: (words ++ '}' :: rest) := by
    simp [printCase]
  have hskip : skipSpacing ((c :: cs) ++ '{' :: (words ++ '}' :: rest)) =
      (c :: cs) ++ '{' :: (words ++ '}' :: rest) :=
    skipSpacing_cons (isSpacing_eq_false_of_isAlphanum (halnum c List.mem_cons_self)) _
  have htake : ((c :: cs) ++ '{' :: (words ++ '}' :: rest)).takeWhile Char.isAlphanum = c :: cs := by
    rw [List.takeWhile_append_of_pos halnum]
    simp
  have hdrop : ((c :: cs) ++ '{' :: (words ++ '}' :: rest)).dropWhile Char.isAlphanum =
      '{' :: (words ++ '}' :: rest) := by
    rw [List.dropWhile_append_of_pos halnum]
    simp
  have hopen : skipSpacing ('{' :: (words ++ '}' :: rest)) = '{' :: (words ++ '}' :: rest) :=
    skipSpacing_cons (by decide) _
  have hwords : takeUntil '}' (words ++ '}' :: rest) = some (words, rest) :=
    takeUntil_eq_some_iff.2 ⟨rfl, hbrace⟩
  rw [readCase, htext, hskip, htake, hdrop, hopen]
  simp [hwords]

theorem readSomeCases_print {cases : List (List Char × List Char)} (hne : cases ≠ [])
    (h : ∀ case ∈ cases, NormalCase case) (rest : List Char) :
    readSomeCases (cases.flatMap printCase ++ ')' :: rest) = .ok (cases, ')' :: rest) := by
  have hclose : readCase (')' :: rest) = .absent (')' :: rest) := rfl
  have hall : readCases (cases.flatMap printCase ++ ')' :: rest) = .ok (cases, ')' :: rest) :=
    repeats_readCases.all_print (fun case hcase rest => readCase_print (h case hcase) rest) hclose
  obtain ⟨case, cases, rfl⟩ := List.exists_cons_of_ne_nil hne
  have hfirst := readCase_print (h case List.mem_cons_self)
    (cases.flatMap printCase ++ ')' :: rest)
  rw [← List.append_assoc, ← List.flatMap_cons] at hfirst
  rw [readSomeCases, hfirst]
  exact hall

theorem readKind_print (kind : Plural.Kind) (rest : List Char) :
    readKind (kind.name.toList ++ rest) = .ok (kind, rest) := by
  cases kind <;> rfl

theorem readSelector_print {kind : Plural.Kind} {cases : List (List Char × List Char)}
    (h : (selector kind cases).Normal) (rest : List Char) :
    readSelector (kind.name.toList ++ ',' :: (cases.flatMap printCase ++ ')' :: '$' :: rest)) =
      .ok (selector kind cases, rest) := by
  have hskip : skipSpacing (kind.name.toList ++
      ',' :: (cases.flatMap printCase ++ ')' :: '$' :: rest)) =
      kind.name.toList ++ ',' :: (cases.flatMap printCase ++ ')' :: '$' :: rest) := by
    cases kind <;> rfl
  rw [readSelector, hskip]
  refine bind_eq_ok_iff.2 ⟨_, readKind_print kind _, ?_⟩
  refine bind_eq_ok_iff.2 ⟨_, rfl, ?_⟩
  exact bind_eq_ok_iff.2 ⟨_, readSomeCases_print h.1 h.2 _, rfl⟩

/-! ## Pieces -/

/-- The parts of a piece that are read one by one. -/
def units : Piece → List Piece
  | text cs => cs.map fun c => text [c]
  | p => [p]

theorem flatMap_print_units (p : Piece) : p.units.flatMap print = p.print := by
  cases p with
  | text cs => simp [units, print, List.flatMap_map]
  | substitution marker target => simp [units]
  | selector kind cases => simp [units]

theorem ofChar?_eq_none {c : Char} (h : c ∉ reserved) : Marker.ofChar? c = none := by
  simp only [reserved, List.mem_cons, List.not_mem_nil, or_false, not_or] at h
  simp [Marker.ofChar?, h]

theorem readOne_of_not_mem_reserved {c : Char} (h : c ∉ reserved) (rest : List Char) :
    readOne (c :: rest) = .found (text [c]) rest := by
  unfold readOne
  simp only [ofChar?_eq_none h]
  split
  case h_5 => rfl
  all_goals exact absurd (by decide) h

theorem readOne_print_char (c : Char) (rest : List Char) :
    readOne ((text [c]).print ++ rest) = .found (text [c]) rest := by
  by_cases hc : c ∈ reserved
  · have hprint : (text [c]).print ++ rest = '\'' :: c :: rest := by
      simp [print, escape_of_mem hc]
    have hmarker : Marker.ofChar? '\'' = none := by
      simp [Marker.ofChar?]
    rw [hprint, readOne, hmarker]
    simp [hc]
  · have hprint : (text [c]).print ++ rest = c :: rest := by
      simp [print, escape_of_not_mem hc]
    rw [hprint]
    exact readOne_of_not_mem_reserved hc rest

theorem ofChar?_char (marker : Marker) : Marker.ofChar? marker.char = some marker := by
  cases marker <;> decide

theorem readOne_print_substitution {marker : Marker} {target : Option (List Char)}
    (hnormal : (substitution marker target).Normal)
    (hprintable : (substitution marker target).Printable) (rest : List Char) :
    readOne ((substitution marker target).print ++ rest) =
      .found (substitution marker target) rest := by
  have hprint : (substitution marker target).print ++ rest =
      marker.char :: (target.getD [] ++ marker.char :: rest) := by
    simp [print]
  have htarget : marker.char ∉ target.getD [] := by
    cases target with
    | none => exact List.not_mem_nil
    | some cs => exact hprintable cs rfl
  have htake : takeUntil marker.char (target.getD [] ++ marker.char :: rest) =
      some (target.getD [], rest) := takeUntil_eq_some_iff.2 ⟨rfl, htarget⟩
  have hof : targetOf (target.getD []) = target := by
    cases target with
    | none => rfl
    | some cs => exact if_neg (by rw [List.isEmpty_iff]; exact fun hnil => hnormal (hnil ▸ rfl))
  rw [hprint]
  unfold readOne
  simp only [ofChar?_char, htake, hof]

theorem readOne_print {p u : Piece} (hnormal : p.Normal) (hprintable : p.Printable)
    (hu : u ∈ p.units) (rest : List Char) : readOne (u.print ++ rest) = .found u rest := by
  cases p with
  | text cs =>
    obtain ⟨c, -, rfl⟩ := List.mem_map.1 hu
    exact readOne_print_char c rest
  | substitution marker target =>
    rw [List.mem_singleton.1 hu]
    exact readOne_print_substitution hnormal hprintable rest
  | selector kind cases =>
    rw [List.mem_singleton.1 hu]
    have hprint : (selector kind cases).print ++ rest = '$' :: '(' :: (kind.name.toList ++
        ',' :: (cases.flatMap printCase ++ ')' :: '$' :: rest)) := by
      simp [print]
    have hmarker : Marker.ofChar? '$' = none := by
      simp [Marker.ofChar?]
    rw [hprint, readOne, hmarker]
    simp only [readSelector_print hnormal]

theorem readAll_print {ps : List Piece} (hnormal : ∀ p ∈ ps, p.Normal)
    (hprintable : ∀ p ∈ ps, p.Printable) {rest stop : List Char}
    (hrest : readOne rest = .absent stop) :
    readAll (ps.flatMap print ++ rest) = .ok (ps.flatMap units, rest) :=
  repeats_readAll.all_units flatMap_print_units
    (fun p hp _ hu => readOne_print (hnormal p hp) (hprintable p hp) hu) hrest

theorem joinTexts_flatMap_units {ps : List Piece} (hnormal : ∀ p ∈ ps, p.Normal)
    (hps : Separate IsText ps) : joinTexts (ps.flatMap units) = ps := by
  refine joins.foldr_flatMap (fun cs => rfl) ?_ hps fun hnil => hnormal _ hnil rfl
  intro p hp
  cases p with
  | text cs => exact absurd trivial hp
  | substitution marker target => rfl
  | selector kind cases => rfl

end Piece

/-! ## Tokens -/

namespace Token

def units : Token → List Token
  | piece p => p.units.map piece
  | optional ps => [optional ps]

theorem flatMap_print_units (t : Token) : t.units.flatMap print = t.print := by
  cases t with
  | piece p =>
    rw [units, List.flatMap_map, print, ← p.flatMap_print_units]
    rfl
  | optional ps => simp [units]

/-- A piece is read as a token, since it does not begin with a bracket. -/
theorem readOne_of_piece {cs rest : List Char} {p : Piece}
    (h : Piece.readOne cs = .found p rest) : readOne cs = .found (piece p) rest := by
  unfold readOne
  split
  · rename_i inner
    have habsent : Piece.readOne ('[' :: inner) = .absent ('[' :: inner) := by
      simp [Piece.readOne, Marker.ofChar?]
    rw [habsent] at h
    cases h
  · rw [h]

theorem readOne_print {t u : Token} (hnormal : t.Normal) (hprintable : t.Printable)
    (hu : u ∈ t.units) (rest : List Char) : readOne (u.print ++ rest) = .found u rest := by
  cases t with
  | piece p =>
    obtain ⟨q, hq, rfl⟩ := List.mem_map.1 hu
    exact readOne_of_piece (Piece.readOne_print hnormal hprintable hq rest)
  | optional ps =>
    rw [List.mem_singleton.1 hu]
    have hprint : (optional ps).print ++ rest = '[' :: (ps.flatMap Piece.print ++ ']' :: rest) := by
      simp [print]
    have hclose : Piece.readOne (']' :: rest) = .absent (']' :: rest) := by
      simp [Piece.readOne, Marker.ofChar?]
    rw [hprint, readOne, Piece.readAll_print hnormal.1 hprintable hclose]
    simp only [expect, if_true, Piece.joinTexts_flatMap_units hnormal.1 hnormal.2]

theorem readAll_print {ts : List Token} (hnormal : ∀ t ∈ ts, t.Normal)
    (hprintable : ∀ t ∈ ts, t.Printable) :
    readAll (ts.flatMap print) = .ok (ts.flatMap units, []) := by
  have hend : readOne [] = .absent [] := rfl
  have hall := repeats_readAll.all_units flatMap_print_units
    (fun t ht _ hu => readOne_print (hnormal t ht) (hprintable t ht) hu) hend
  rw [List.append_nil] at hall
  exact hall

theorem joinTexts_flatMap_units {ts : List Token} (hnormal : ∀ t ∈ ts, t.Normal)
    (hts : Separate IsText ts) : joinTexts (ts.flatMap units) = ts := by
  have htext : ∀ cs, (piece (.text cs)).units = cs.map fun c => piece (.text [c]) := by
    intro cs
    simp [units, Piece.units]
  refine joins.foldr_flatMap htext ?_ hts fun hnil => hnormal _ hnil rfl
  intro t ht
  cases t with
  | piece p =>
    cases p with
    | text cs => exact absurd trivial ht
    | substitution marker target => rfl
    | selector kind cases => rfl
  | optional ps => rfl

end Token

/-! ## Bodies -/

namespace Body

theorem content_print (ts : List Token) : content (print ts) = ts.flatMap Token.print := by
  have hlast : (print ts).getLast? = some ';' := by
    rw [print, ← List.cons_append]
    exact List.getLast?_concat
  have hdrop : (print ts).dropLast = '\'' :: ts.flatMap Token.print := by
    rw [print, ← List.cons_append]
    exact List.dropLast_concat
  rw [content, dropSemicolon, if_pos hlast, hdrop]
  rfl

theorem hasTriple_iff {c : Char} {cs : List Char} : hasTriple c cs = true ↔ [c, c, c] <:+: cs := by
  induction cs with
  | nil => simp [hasTriple]
  | cons a cs ih =>
    rw [hasTriple, Bool.or_eq_true, ih, List.isPrefixOf_iff_prefix, List.infix_cons_iff]

theorem mem_of_mem_unrepeatable {c : Char} (h : c ∈ unrepeatable) : c ∈ ['<', '>', '←', '→'] := by
  simp only [unrepeatable, List.mem_cons, List.not_mem_nil, or_false] at h ⊢
  tauto

theorem tokens_print {ts : List Token} (hnormal : Normal ts) (hprintable : Printable ts)
    (htriple : ∀ c ∈ ['<', '>', '←', '→'], ¬[c, c, c] <:+: print ts) :
    tokens (print ts) = .ok ts := by
  have hpart : content (print ts) <:+: print ts := by
    rw [content_print]
    exact ⟨['\''], [';'], rfl⟩
  have hfind : unrepeatable.find? (hasTriple · (content (print ts))) = none := by
    rw [List.find?_eq_none]
    intro c hc hhas
    exact htriple c (mem_of_mem_unrepeatable hc) ((hasTriple_iff.1 hhas).trans hpart)
  have hall := Token.readAll_print hnormal.1 hprintable
  rw [tokens, hfind, content_print, hall]
  simp only [Token.joinTexts_flatMap_units hnormal.1 hnormal.2]

/-- A body that is read is a writing of its tokens, and they are normal; without arrows in the body
they are printable.  Normal, printable tokens are read back from what is printed for them, if no
marker stands three times in a row there. -/
theorem tokens_normal_and_inverse :
    (∀ cs ts, tokens cs = .ok ts → Writes ts (content cs) ∧ Normal ts ∧
      ('←' ∉ cs → '→' ∉ cs → Printable ts)) ∧
    ∀ ts, Normal ts → Printable ts → (∀ c ∈ ['<', '>', '←', '→'], ¬[c, c, c] <:+: print ts) →
      tokens (print ts) = .ok ts := by
  refine ⟨fun cs ts h => ?_, fun ts => tokens_print⟩
  have hwrites := writes_of_tokens h
  refine ⟨hwrites, hwrites.normal, fun hleft hright => ?_⟩
  exact hwrites.printable (mt mem_of_mem_content hleft) (mt mem_of_mem_content hright)

/-- Tokens of every form, with characters in them that would mean something elsewhere. -/
def samples : List Token := [
  .piece (.text ['$', '(', '\'']),
  .piece (.substitution .equal (some ['[', '\''])),
  .piece (.substitution .equal none),
  .optional [.text [';'], .substitution .greater (some ['%', '<']),
    .selector .ordinal [(['o', 'n', 'e'], ['<', '<']), (['2'], [])]],
  .piece (.text [';'])]

/-- A target that only arrows can be written around. -/
def arrowed : List Token := [.piece (.substitution .greater (some ['a', '>', 'b']))]

theorem tokens_arrowed : tokens "→a>b→;".toList = .ok arrowed := by
  cbv

theorem inverse_samples :
    Normal samples ∧ Printable samples ∧
      (∀ c ∈ ['<', '>', '←', '→'], ¬[c, c, c] <:+: print samples) ∧
      tokens (print samples) = .ok samples ∧ Writes samples (content (print samples)) ∧
      Writes arrowed (content "→a>b→;".toList) ∧ Normal arrowed ∧ ¬Printable arrowed := by
  obtain ⟨hread, hinverse⟩ := tokens_normal_and_inverse
  have hnormal : Normal samples := by
    decide
  have hprintable : Printable samples := by
    decide
  have htriples : (['<', '>', '←', '→'].all fun c => !hasTriple c (print samples)) = true := by
    cbv
  have hnone : ∀ c ∈ ['<', '>', '←', '→'], ¬[c, c, c] <:+: print samples := by
    intro c hc
    have htriple := List.all_eq_true.1 htriples c hc
    rw [← hasTriple_iff]
    simpa using htriple
  have hsamples := hinverse samples hnormal hprintable hnone
  obtain ⟨hwrites, -, -⟩ := hread _ _ hsamples
  obtain ⟨harrowed, hnormal', -⟩ := hread _ _ tokens_arrowed
  have hnot : ¬Printable arrowed := by
    decide +kernel
  exact ⟨hnormal, hprintable, hnone, hsamples, hwrites, harrowed, hnormal', hnot⟩

end Body

end NumberRules.Spelling
