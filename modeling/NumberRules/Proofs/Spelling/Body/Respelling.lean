import Mathlib
import NumberRules.Proofs.Spelling.Body.RoundTrip

/-! # Bodies with arrows

Two of the markers have two spellings each, `<` or `←` and `>` or `→`.  `respell` exchanges them,
and every reader of bodies commutes with it: it makes the same cuts, and the texts between them are
respelled.  Being its own inverse, `respell` takes refused bodies to refused bodies.

`arrow` only writes arrows.  On bodies without arrows it is `respell`.
-/

namespace NumberRules.Spelling
set_option autoImplicit false

/-! ## Characters -/

/-- The other spelling of a character, if it has one. -/
def respell (c : Char) : Char :=
  if c = '<' then '←' else if c = '>' then '→' else
    if c = '←' then '<' else if c = '→' then '>' else c

/-- The spelling of a character with an arrow, if it has one. -/
def arrow (c : Char) : Char := if c = '<' then '←' else if c = '>' then '→' else c

theorem respell_cases (c : Char) :
    c = '<' ∨ c = '>' ∨ c = '←' ∨ c = '→' ∨ respell c = c := by
  rw [respell]
  split_ifs <;> simp_all

theorem respell_involutive : Function.Involutive respell := by
  intro c
  rcases respell_cases c with rfl | rfl | rfl | rfl | h
  case inr.inr.inr.inr => rw [h, h]
  all_goals rfl

theorem map_respell_map_respell (cs : List Char) : (cs.map respell).map respell = cs := by
  rw [List.map_map, respell_involutive.comp_self, List.map_id]

theorem map_respell_eq_self {cs : List Char} (h : ∀ c ∈ cs, respell c = c) :
    cs.map respell = cs := by
  rw [List.map_congr_left h, List.map_id']

/-- A character of a single spelling stands where it stood. -/
theorem respell_eq_iff {c d : Char} (hd : respell d = d) : respell c = d ↔ c = d := by
  rw [respell_involutive.eq_iff, hd]

/-- What does not tell the two spellings apart is kept. -/
theorem comp_respell {α : Type} {p : Char → α} (hless : p '←' = p '<') (hgreater : p '→' = p '>') :
    p ∘ respell = p := by
  funext c
  rw [Function.comp_apply]
  rcases respell_cases c with rfl | rfl | rfl | rfl | h
  · exact hless
  · exact hgreater
  · exact hless.symm
  · exact hgreater.symm
  · rw [h]

theorem ofChar?_respell (c : Char) : Marker.ofChar? (respell c) = Marker.ofChar? c :=
  congrFun (comp_respell (p := Marker.ofChar?) rfl rfl) c

theorem contains_reserved_respell (c : Char) :
    reserved.contains (respell c) = reserved.contains c :=
  congrFun (comp_respell (p := reserved.contains) rfl rfl) c

theorem respell_eq_self {c : Char} (hless : c ≠ '<') (hgreater : c ≠ '>') (hleft : c ≠ '←')
    (hright : c ≠ '→') : respell c = c := by
  rw [respell, if_neg hless, if_neg hgreater, if_neg hleft, if_neg hright]

theorem respell_eq_of_ofChar?_eq_none {c : Char} (h : Marker.ofChar? c = none) : respell c = c := by
  refine respell_eq_self ?_ ?_ ?_ ?_ <;> rintro rfl <;> cases h

theorem respell_eq_of_isAlphanum {c : Char} (h : c.isAlphanum = true) : respell c = c := by
  refine respell_eq_self ?_ ?_ ?_ ?_ <;> rintro rfl <;> cases h

theorem isPrefixOf_map_respell (as cs : List Char) :
    (as.map respell).isPrefixOf (cs.map respell) = as.isPrefixOf cs := by
  induction as generalizing cs with
  | nil => rw [List.map_nil, List.isPrefixOf_nil_left, List.isPrefixOf_nil_left]
  | cons a as ih =>
    cases cs with
    | nil => rfl
    | cons c cs =>
      rw [List.map_cons, List.map_cons, List.isPrefixOf, List.isPrefixOf, ih]
      congr 1
      rw [Bool.eq_iff_iff, beq_iff_eq, beq_iff_eq, respell_involutive.injective.eq_iff]

/-! ## Stretches of text -/

/-- What a reader finds after respelling: what it found, changed in the same way, in front of the
respelled rest. -/
def Step.respelled {α : Type} (f : α → α) : Step α → Step α
  | .found x rest => .found (f x) (rest.map respell)
  | .absent rest => .absent (rest.map respell)
  | .stopped rest => .stopped (rest.map respell)

/-- What a reader that must find something gives after respelling. -/
def respelledRead {α : Type} (f : α → α) :
    Except (List Char) (α × List Char) → Except (List Char) (α × List Char)
  | .ok (x, rest) => .ok (f x, rest.map respell)
  | .error rest => .error (rest.map respell)

theorem takeUntil_respell (stop : Char) (cs : List Char) :
    takeUntil (respell stop) (cs.map respell) =
      (takeUntil stop cs).map (Prod.map (List.map respell) (List.map respell)) := by
  induction cs with
  | nil => rfl
  | cons c cs ih =>
    rw [List.map_cons, takeUntil, takeUntil, ih]
    simp only [respell_involutive.injective.eq_iff]
    split
    · rfl
    · rw [Option.map_map, Option.map_map]
      rfl

theorem skipSpacing_respell (cs : List Char) :
    skipSpacing (cs.map respell) = (skipSpacing cs).map respell := by
  rw [skipSpacing, List.dropWhile_map, comp_respell (p := Text.isSpacing) rfl rfl]
  rfl

theorem expect_respell {c : Char} (hc : respell c = c) (cs : List Char) :
    expect c (cs.map respell) =
      ((expect c cs).map (List.map respell)).mapError (List.map respell) := by
  cases cs with
  | nil => rfl
  | cons d cs =>
    rw [List.map_cons, expect, expect]
    simp only [respell_eq_iff hc]
    split <;> rfl

variable {α β : Type} {f : α → α} {g : β → β}

theorem bind_respelledRead {x : Except (List Char) (α × List Char)}
    {next next' : α × List Char → Except (List Char) (β × List Char)}
    (hnext : ∀ a rest, next' (f a, rest.map respell) = respelledRead g (next (a, rest))) :
    respelledRead f x >>= next' = respelledRead g (x >>= next) := by
  cases x with
  | error stop => rfl
  | ok found => exact hnext found.1 found.2

theorem bind_expect_respell {c : Char} (hc : respell c = c) {cs : List Char}
    {next next' : List Char → Except (List Char) (β × List Char)}
    (hnext : ∀ rest, next' (rest.map respell) = respelledRead g (next rest)) :
    expect c (cs.map respell) >>= next' = respelledRead g (expect c cs >>= next) := by
  rw [expect_respell hc]
  cases expect c cs with
  | error stop => rfl
  | ok rest => exact hnext rest

/-- What is read repeatedly is respelled if every single element is. -/
theorem Repeats.respell {one : List Char → Step α}
    {all : List Char → Except (List Char) (List α × List Char)} (h : Repeats one all)
    (hone : ∀ cs, one (cs.map respell) = (one cs).respelled f) (cs : List Char) :
    all (cs.map respell) = respelledRead (List.map f) (all cs) := by
  induction hlength : cs.length using Nat.strongRecOn generalizing cs with
  | ind n ih =>
    rw [h.eq, h.eq cs, hone]
    cases hstep : one cs with
    | found x rest =>
      rw [Step.respelled]
      dsimp only
      rw [ih _ (hlength ▸ h.shorter hstep) rest rfl]
      exact bind_respelledRead fun xs after => rfl
    | absent rest => rfl
    | stopped rest => rfl

/-! ## Plural selectors -/

namespace Piece

/-- The texts of a piece, each rewritten character by character. -/
def mapTexts (f : Char → Char) : Piece → Piece
  | text cs => text (cs.map f)
  | substitution marker target => substitution marker (target.map (List.map f))
  | selector kind cases => selector kind (cases.map fun c => (c.1, c.2.map f))

theorem readCase_respell (cs : List Char) : readCase (cs.map respell) =
    (readCase cs).respelled fun c => (c.1, c.2.map respell) := by
  have hcategory (cs : List Char) :
      (cs.takeWhile Char.isAlphanum).map respell = cs.takeWhile Char.isAlphanum :=
    map_respell_eq_self fun c hc => respell_eq_of_isAlphanum (List.mem_takeWhile_imp hc)
  rw [readCase, readCase, skipSpacing_respell, List.takeWhile_map, List.dropWhile_map,
    comp_respell (p := Char.isAlphanum) rfl rfl, hcategory, skipSpacing_respell]
  split
  · rfl
  · cases skipSpacing ((skipSpacing cs).dropWhile Char.isAlphanum) with
    | nil => rfl
    | cons c inner =>
      by_cases hc : c = '{'
      · have hstop := takeUntil_respell '}' inner
        rw [show respell '}' = '}' from rfl] at hstop
        rw [hc, List.map_cons, show respell '{' = '{' from rfl]
        simp only [hstop]
        cases takeUntil '}' inner <;> rfl
      · have hother : respell c ≠ '{' := mt (respell_eq_iff rfl).1 hc
        rw [List.map_cons]
        split
        · rename_i heq
          exact absurd (List.cons.inj heq).1 hother
        · split
          · rename_i heq
            exact absurd (List.cons.inj heq).1 hc
          · rfl

theorem readCases_respell (cs : List Char) : readCases (cs.map respell) =
    respelledRead (List.map fun c => (c.1, c.2.map respell)) (readCases cs) :=
  repeats_readCases.respell readCase_respell cs

theorem readSomeCases_respell (cs : List Char) : readSomeCases (cs.map respell) =
    respelledRead (List.map fun c => (c.1, c.2.map respell)) (readSomeCases cs) := by
  rw [readSomeCases, readSomeCases, readCase_respell, readCases_respell]
  cases readCase cs <;> rfl

theorem readKind_respell (cs : List Char) :
    readKind (cs.map respell) = respelledRead id (readKind cs) := by
  have hname (kind : Plural.Kind) : kind.name.toList.map respell = kind.name.toList := by
    cases kind <;> rfl
  have hstarts (kind : Plural.Kind) :
      kind.name.toList.isPrefixOf (cs.map respell) = kind.name.toList.isPrefixOf cs := by
    rw [← hname, isPrefixOf_map_respell, hname]
  rw [readKind, readKind]
  simp only [hstarts]
  split
  · rw [← List.map_drop]
    rfl
  · rfl

theorem dropDollar_cons (c : Char) (cs : List Char) :
    dropDollar (c :: cs) = if c = '$' then cs else c :: cs := by
  split
  · rename_i hc
    rw [hc]
    rfl
  · rename_i hc
    rw [dropDollar]
    rintro rest heq
    exact hc (List.cons.inj heq).1

theorem dropDollar_respell (cs : List Char) :
    dropDollar (cs.map respell) = (dropDollar cs).map respell := by
  cases cs with
  | nil => rfl
  | cons c cs =>
    rw [List.map_cons, dropDollar_cons, dropDollar_cons]
    simp only [respell_eq_iff (show respell '$' = '$' from rfl)]
    split <;> rfl

theorem readSelector_respell (cs : List Char) : readSelector (cs.map respell) =
    respelledRead (mapTexts respell) (readSelector cs) := by
  rw [readSelector, readSelector, skipSpacing_respell, readKind_respell]
  refine bind_respelledRead fun kind cs₁ => ?_
  simp only [skipSpacing_respell, id]
  refine bind_expect_respell rfl fun cs₂ => ?_
  rw [readSomeCases_respell]
  refine bind_respelledRead fun cases cs₃ => ?_
  simp only [skipSpacing_respell]
  refine bind_expect_respell rfl fun cs₄ => ?_
  rw [dropDollar_respell]
  rfl

/-! ## Pieces -/

theorem targetOf_respell (cs : List Char) :
    targetOf (cs.map respell) = (targetOf cs).map (List.map respell) := by
  cases cs <;> rfl

theorem readOne_marker {c : Char} {marker : Marker} (h : Marker.ofChar? c = some marker)
    (rest : List Char) : readOne (c :: rest) = match takeUntil c rest with
      | some (target, after) => .found (.substitution marker (targetOf target)) after
      | none => .stopped [] := by
  cases htake : takeUntil c rest <;> simp only [readOne, h, htake]

theorem readOne_marker_respell {c : Char} {marker : Marker} (h : Marker.ofChar? c = some marker)
    (rest : List Char) : readOne (respell c :: rest.map respell) =
      (readOne (c :: rest)).respelled (mapTexts respell) := by
  rw [readOne_marker ((ofChar?_respell c).trans h), readOne_marker h, takeUntil_respell]
  cases takeUntil c rest with
  | none => rfl
  | some found =>
    obtain ⟨target, after⟩ := found
    simp only [Option.map_some, Prod.map, targetOf_respell, Step.respelled, mapTexts]

theorem readOne_apostrophe (d : Char) (after : List Char) : readOne ('\'' :: d :: after) =
    if reserved.contains d then .found (.text [d]) after else .found (.text ['\'']) (d :: after) :=
  rfl

theorem readOne_apostrophe_respell (rest : List Char) : readOne ('\'' :: rest.map respell) =
    (readOne ('\'' :: rest)).respelled (mapTexts respell) := by
  cases rest with
  | nil => rfl
  | cons d after =>
    rw [List.map_cons, readOne_apostrophe, readOne_apostrophe, contains_reserved_respell]
    split <;> rfl

theorem readOne_selector (inner : List Char) : readOne ('$' :: '(' :: inner) =
    match readSelector inner with
      | .ok (p, after) => .found p after
      | .error stop => .stopped stop :=
  rfl

theorem readOne_dollar {d : Char} (hd : d ≠ '(') (inner : List Char) :
    readOne ('$' :: d :: inner) = .found (text ['$']) (d :: inner) := by
  have hmarker : Marker.ofChar? '$' = none := rfl
  unfold readOne
  simp only [hmarker]
  split <;> simp_all

theorem readOne_dollar_respell (rest : List Char) : readOne ('$' :: rest.map respell) =
    (readOne ('$' :: rest)).respelled (mapTexts respell) := by
  cases rest with
  | nil => rfl
  | cons d inner =>
    by_cases hd : d = '('
    · rw [hd, List.map_cons, show respell '(' = '(' from rfl, readOne_selector, readOne_selector,
        readSelector_respell]
      cases readSelector inner <;> rfl
    · have hother : respell d ≠ '(' := mt (respell_eq_iff rfl).1 hd
      rw [List.map_cons, readOne_dollar hd, readOne_dollar hother]
      rfl

theorem eq_of_mem_reserved {c : Char} (h : c ∈ reserved) (hmarker : Marker.ofChar? c = none) :
    c = '\'' ∨ c = '$' ∨ c = '[' ∨ c = ']' := by
  simp only [reserved, List.mem_cons, List.not_mem_nil, or_false] at h
  rcases h with rfl | rfl | rfl | rfl | rfl | rfl | rfl | rfl | rfl <;> simp_all [Marker.ofChar?]

theorem readOne_respell (cs : List Char) :
    readOne (cs.map respell) = (readOne cs).respelled (mapTexts respell) := by
  cases cs with
  | nil => rfl
  | cons c rest =>
    cases hmarker : Marker.ofChar? c with
    | some marker => exact readOne_marker_respell hmarker rest
    | none =>
      have hfixed := respell_eq_of_ofChar?_eq_none hmarker
      rw [List.map_cons, hfixed]
      by_cases hc : c ∈ reserved
      · rcases eq_of_mem_reserved hc hmarker with rfl | rfl | rfl | rfl
        · exact readOne_apostrophe_respell rest
        · exact readOne_dollar_respell rest
        · rfl
        · rfl
      · rw [readOne_of_not_mem_reserved hc, readOne_of_not_mem_reserved hc, Step.respelled,
          mapTexts, List.map_singleton, hfixed]

theorem readAll_respell (cs : List Char) :
    readAll (cs.map respell) = respelledRead (List.map (mapTexts respell)) (readAll cs) :=
  repeats_readAll.respell readOne_respell cs

theorem joined_mapTexts (f : Char → Char) (p : Piece) (ps : List Piece) :
    joined (p.mapTexts f) (ps.map (mapTexts f)) = (joined p ps).map (mapTexts f) := by
  cases ps with
  | nil => cases p <;> rfl
  | cons q ps =>
    cases p <;> cases q <;> simp [joined, mapTexts]

theorem joinTexts_mapTexts (f : Char → Char) (ps : List Piece) :
    joinTexts (ps.map (mapTexts f)) = (joinTexts ps).map (mapTexts f) := by
  have hnil : [] = List.map (mapTexts f) [] := List.map_nil.symm
  rw [joinTexts, List.foldr_map, hnil, List.foldr_hom (List.map (mapTexts f)) (joined_mapTexts f)]
  rfl

end Piece

/-! ## Tokens -/

namespace Token

def mapTexts (f : Char → Char) : Token → Token
  | piece p => piece (p.mapTexts f)
  | optional ps => optional (ps.map (Piece.mapTexts f))

theorem readOne_open (inner : List Char) : readOne ('[' :: inner) =
    match Piece.readAll inner with
      | .error stop => .stopped stop
      | .ok (ps, rest) =>
        match expect ']' rest with
        | .ok after => .found (.optional (Piece.joinTexts ps)) after
        | .error stop => .stopped stop :=
  rfl

theorem readOne_piece {c : Char} (hc : c ≠ '[') (rest : List Char) : readOne (c :: rest) =
    match Piece.readOne (c :: rest) with
      | .found p rest => .found (.piece p) rest
      | .absent rest => .absent rest
      | .stopped rest => .stopped rest := by
  unfold readOne
  split
  · rename_i heq
    exact absurd (List.cons.inj heq).1 hc
  · rfl

theorem readOne_respell (cs : List Char) :
    readOne (cs.map respell) = (readOne cs).respelled (mapTexts respell) := by
  cases cs with
  | nil => rfl
  | cons c rest =>
    by_cases hc : c = '['
    · rw [hc, List.map_cons, show respell '[' = '[' from rfl, readOne_open, readOne_open,
        Piece.readAll_respell]
      cases Piece.readAll rest with
      | error stop => rfl
      | ok found =>
        obtain ⟨ps, after⟩ := found
        simp only [respelledRead, expect_respell (show respell ']' = ']' from rfl),
          Piece.joinTexts_mapTexts]
        cases expect ']' after <;> rfl
    · have hother : respell c ≠ '[' := mt (respell_eq_iff rfl).1 hc
      have hpiece := Piece.readOne_respell (c :: rest)
      rw [List.map_cons] at hpiece
      rw [List.map_cons, readOne_piece hc, readOne_piece hother, hpiece]
      cases Piece.readOne (c :: rest) <;> rfl

theorem readAll_respell (cs : List Char) :
    readAll (cs.map respell) = respelledRead (List.map (mapTexts respell)) (readAll cs) :=
  repeats_readAll.respell readOne_respell cs

theorem joined_mapTexts (f : Char → Char) (t : Token) (ts : List Token) :
    joined (t.mapTexts f) (ts.map (mapTexts f)) = (joined t ts).map (mapTexts f) := by
  cases t with
  | optional ps => rfl
  | piece p =>
    cases p with
    | substitution marker target => rfl
    | selector kind cases => rfl
    | text cs =>
      cases ts with
      | nil => rfl
      | cons u ts =>
        cases u with
        | optional ps => rfl
        | piece q => cases q <;> simp [joined, mapTexts, Piece.mapTexts]

theorem joinTexts_mapTexts (f : Char → Char) (ts : List Token) :
    joinTexts (ts.map (mapTexts f)) = (joinTexts ts).map (mapTexts f) := by
  have hnil : [] = List.map (mapTexts f) [] := List.map_nil.symm
  rw [joinTexts, List.foldr_map, hnil, List.foldr_hom (List.map (mapTexts f)) (joined_mapTexts f)]
  rfl

end Token

/-! ## Bodies -/

namespace Body

theorem dropSemicolon_respell (cs : List Char) :
    dropSemicolon (cs.map respell) = (dropSemicolon cs).map respell := by
  have hlast : (cs.map respell).getLast? = some ';' ↔ cs.getLast? = some ';' := by
    rw [List.getLast?_map, Option.map_eq_some_iff]
    simp only [respell_eq_iff (show respell ';' = ';' from rfl), exists_eq_right]
  rw [dropSemicolon, dropSemicolon]
  simp only [hlast]
  split
  · rw [List.map_dropLast]
  · rfl

theorem dropApostrophe_cons (c : Char) (cs : List Char) :
    dropApostrophe (c :: cs) = if c = '\'' then cs else c :: cs := by
  split
  · rename_i hc
    rw [hc]
    rfl
  · rename_i hc
    rw [dropApostrophe]
    rintro rest heq
    exact hc (List.cons.inj heq).1

theorem dropApostrophe_respell (cs : List Char) :
    dropApostrophe (cs.map respell) = (dropApostrophe cs).map respell := by
  cases cs with
  | nil => rfl
  | cons c cs =>
    rw [List.map_cons, dropApostrophe_cons, dropApostrophe_cons]
    simp only [respell_eq_iff (show respell '\'' = '\'' from rfl)]
    split <;> rfl

theorem content_respell (cs : List Char) : content (cs.map respell) = (content cs).map respell := by
  rw [content, dropSemicolon_respell, dropApostrophe_respell, content]

theorem hasTriple_respell (c : Char) (cs : List Char) :
    hasTriple (respell c) (cs.map respell) = hasTriple c cs := by
  induction cs with
  | nil => rfl
  | cons a rest ih =>
    have hstarts := isPrefixOf_map_respell [c, c, c] (a :: rest)
    rw [List.map_cons, hasTriple, hasTriple, ih, ← hstarts]
    rfl

/-- Both spellings of a marker are among those that must not stand three times in a row. -/
theorem find?_unrepeatable_respell (cs : List Char) :
    unrepeatable.find? (hasTriple · (cs.map respell)) = none ↔
      unrepeatable.find? (hasTriple · cs) = none := by
  have hclosed (c : Char) (hc : c ∈ unrepeatable) : respell c ∈ unrepeatable := by
    simp only [unrepeatable, List.mem_cons, List.not_mem_nil, or_false] at hc
    rcases hc with rfl | rfl | rfl | rfl <;> decide
  have hpair (c : Char) : hasTriple c (cs.map respell) = hasTriple (respell c) cs := by
    rw [← hasTriple_respell (respell c) cs, respell_involutive]
  rw [List.find?_eq_none, List.find?_eq_none]
  constructor
  · intro h c hc
    rw [← hasTriple_respell]
    exact h _ (hclosed c hc)
  · intro h c hc
    rw [hpair]
    exact h _ (hclosed c hc)

theorem tokens_respell {cs : List Char} {ts : List Token} (h : tokens cs = .ok ts) :
    tokens (cs.map respell) = .ok (ts.map (Token.mapTexts respell)) := by
  unfold tokens at h
  split at h
  · cases h
  · rename_i hfind
    split at h
    · rename_i ts' hall
      cases h
      have hrespelled := Token.readAll_respell (content cs)
      rw [hall, respelledRead] at hrespelled
      rw [tokens, content_respell, (find?_unrepeatable_respell _).2 hfind, hrespelled]
      simp only [List.map_nil, Token.joinTexts_mapTexts]
    · cases h
    · cases h

end Body

/-! ## Bodies without arrows -/

theorem arrow_eq_respell {c : Char} (hleft : c ≠ '←') (hright : c ≠ '→') : arrow c = respell c := by
  rw [arrow, respell, if_neg hleft, if_neg hright]

theorem map_arrow_eq_map_respell {cs : List Char} (hleft : '←' ∉ cs) (hright : '→' ∉ cs) :
    cs.map arrow = cs.map respell := by
  refine List.map_congr_left fun c hc => arrow_eq_respell ?_ ?_
  · rintro rfl
    exact hleft hc
  · rintro rfl
    exact hright hc

namespace Piece

/-- The texts of a piece that the body gives. -/
def texts : Piece → List (List Char)
  | text cs => [cs]
  | substitution _ target => target.toList
  | selector _ cases => cases.map Prod.snd

theorem mapTexts_congr {f g : Char → Char} {p : Piece}
    (h : ∀ cs ∈ p.texts, cs.map f = cs.map g) : p.mapTexts f = p.mapTexts g := by
  cases p with
  | text cs => rw [mapTexts, mapTexts, h cs List.mem_cons_self]
  | substitution marker target =>
    cases target with
    | none => rfl
    | some cs => rw [mapTexts, mapTexts, Option.map_some, Option.map_some, h cs List.mem_cons_self]
  | selector kind cases =>
    rw [mapTexts, mapTexts]
    congr 1
    refine List.map_congr_left fun c hc => ?_
    rw [h c.2 (List.mem_map_of_mem hc)]

theorem Writes.subset_texts {p : Piece} {u cs : List Char} (h : p.Writes u) (hcs : cs ∈ p.texts) :
    cs ⊆ u := by
  intro c hc
  cases h with
  | text _ hu =>
    rw [List.mem_singleton.1 hcs] at hc
    obtain ⟨v, hpart, ⟨rfl, -⟩ | ⟨rfl, -⟩⟩ := hu.exists_writes hc
    · exact hpart.subset List.mem_cons_self
    · exact hpart.subset (List.mem_cons_of_mem _ List.mem_cons_self)
  | @substitution _ _ target =>
    rw [texts, targetOf, Option.mem_toList] at hcs
    split at hcs
    · cases hcs
    · cases hcs
      exact List.mem_cons_of_mem _ (List.mem_append_left _ hc)
  | selector _ _ _ hu =>
    obtain ⟨case, hcase, rfl⟩ := List.mem_map.1 hcs
    obtain ⟨v, hpart, -, s, s', -, -, rfl⟩ := hu.exists_writes hcase
    have hmem := hpart.subset (a := c) (by simp [hc])
    simp [hmem]

end Piece

/-- The texts of a token that the body gives. -/
def Token.texts : Token → List (List Char)
  | piece p => p.texts
  | optional ps => ps.flatMap Piece.texts

theorem Token.mapTexts_congr {f g : Char → Char} {t : Token}
    (h : ∀ cs ∈ t.texts, cs.map f = cs.map g) : t.mapTexts f = t.mapTexts g := by
  cases t with
  | piece p => rw [mapTexts, mapTexts, Piece.mapTexts_congr h]
  | optional ps =>
    rw [mapTexts, mapTexts]
    congr 1
    refine List.map_congr_left fun p hp => Piece.mapTexts_congr fun cs hcs => ?_
    exact h cs (List.mem_flatMap.2 ⟨p, hp, hcs⟩)

theorem Token.Writes.subset_texts {t : Token} {u cs : List Char} (h : t.Writes u)
    (hcs : cs ∈ t.texts) : cs ⊆ u := by
  cases h with
  | piece hp => exact hp.subset_texts hcs
  | optional hu _ =>
    obtain ⟨p, hp, hcs⟩ := List.mem_flatMap.1 hcs
    obtain ⟨v, hpart, hp⟩ := hu.exists_writes hp
    intro c hc
    exact List.mem_cons_of_mem _ (List.mem_append_left _ (hpart.subset (hp.subset_texts hcs hc)))

namespace Body

theorem subset_of_mem_tokens {cs : List Char} {ts : List Token} (h : tokens cs = .ok ts) {t : Token}
    (ht : t ∈ ts) {text : List Char} (htext : text ∈ t.texts) : text ⊆ cs := by
  obtain ⟨u, hpart, ht⟩ := (writes_of_tokens h).1.exists_writes ht
  intro c hc
  exact mem_of_mem_content (hpart.subset (ht.subset_texts htext hc))

/-- With arrows for its markers a body has the same tokens, with arrows in their texts. -/
theorem tokens_arrow_iff {cs : List Char} (hleft : '←' ∉ cs) (hright : '→' ∉ cs)
    {ts' : List Token} : tokens (cs.map arrow) = .ok ts' ↔
      ∃ ts, tokens cs = .ok ts ∧ ts' = ts.map (Token.mapTexts arrow) := by
  have htexts {ts : List Token} (h : tokens cs = .ok ts) :
      ts.map (Token.mapTexts respell) = ts.map (Token.mapTexts arrow) := by
    refine List.map_congr_left fun t ht => Token.mapTexts_congr fun text htext => ?_
    have hsub := subset_of_mem_tokens h ht htext
    exact (map_arrow_eq_map_respell (mt (hsub ·) hleft) (mt (hsub ·) hright)).symm
  rw [map_arrow_eq_map_respell hleft hright]
  constructor
  · intro h
    have hback := tokens_respell h
    rw [map_respell_map_respell] at hback
    refine ⟨_, hback, ?_⟩
    rw [← htexts hback]
    exact Except.ok.inj (h.symm.trans (tokens_respell hback))
  · rintro ⟨ts, h, rfl⟩
    rw [tokens_respell h, htexts h]

end Body

end NumberRules.Spelling
