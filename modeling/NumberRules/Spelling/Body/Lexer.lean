import NumberRules.Text.Blank
import NumberRules.Spelling.SyntaxError

/-! # Reading rule bodies

`Body.tokens` cuts a body into tokens.  A semicolon at the end and an apostrophe at the beginning
(which protects blanks there) are no part of it.  An apostrophe in front of a reserved character
makes it text.  Everything else is text unless it is structural.

A reader of one part either finds it, or finds that something else stands there, or is stopped
inside it; in the last case the body is refused at that place.
-/

namespace NumberRules.Spelling
set_option autoImplicit false

/-- The outcome of reading one part off the front of a text. -/
inductive Step (α : Type) where
  /-- The part, and the text after it. -/
  | found (value : α) (rest : List Char)
  | absent (rest : List Char)
  | stopped (rest : List Char)

/-! ## Stretches of text -/

/-- The text in front of the first `stop`, and the text after it. -/
def takeUntil (stop : Char) : List Char → Option (List Char × List Char)
  | [] => none
  | c :: rest =>
    if c = stop then some ([], rest)
    else (takeUntil stop rest).map fun (before, after) => (c :: before, after)

/-- A text without the spacing at its front. -/
def skipSpacing (cs : List Char) : List Char := cs.dropWhile Text.isSpacing

/-- The text after a given character. -/
def expect (c : Char) : List Char → Except (List Char) (List Char)
  | d :: rest => if d = c then .ok rest else .error (d :: rest)
  | [] => .error []

theorem length_takeUntil {stop : Char} {cs before after : List Char}
    (h : takeUntil stop cs = some (before, after)) : after.length < cs.length := by
  induction cs generalizing before after with
  | nil => simp [takeUntil] at h
  | cons c rest ih =>
    unfold takeUntil at h
    split at h
    · simp only [Option.some.injEq, Prod.mk.injEq] at h
      rw [← h.2, List.length_cons]
      exact Nat.lt_succ_self _
    · obtain ⟨⟨before', after'⟩, hrest, heq⟩ := Option.map_eq_some_iff.1 h
      simp only [Prod.mk.injEq] at heq
      have := ih hrest
      rw [List.length_cons, ← heq.2]
      exact Nat.lt_succ_of_lt this

theorem length_skipSpacing_le (cs : List Char) : (skipSpacing cs).length ≤ cs.length :=
  (List.dropWhile_suffix _).length_le

theorem length_expect {c : Char} {cs rest : List Char} (h : expect c cs = .ok rest) :
    rest.length < cs.length := by
  unfold expect at h
  split at h
  · split at h
    · simp only [Except.ok.injEq] at h
      rw [h, List.length_cons]
      exact Nat.lt_succ_self _
    · simp at h
  · simp at h

/-! ## Plural selectors -/

namespace Piece

/-- Reads one `category{text}` case. -/
def readCase (cs : List Char) : Step (List Char × List Char) :=
  let cs := skipSpacing cs
  let category := cs.takeWhile Char.isAlphanum
  if category.isEmpty then .absent cs
  else
    match skipSpacing (cs.dropWhile Char.isAlphanum) with
    | '{' :: inner =>
      match takeUntil '}' inner with
      | some (words, rest) => .found (category, words) rest
      | none => .stopped []
    | cs => .absent cs

theorem length_readCase {cs rest : List Char} {case : List Char × List Char}
    (h : readCase cs = .found case rest) : rest.length < cs.length := by
  unfold readCase at h
  dsimp only at h
  split at h
  · simp at h
  · split at h
    · rename_i inner hinner
      split at h
      · rename_i text after htext
        simp only [Step.found.injEq] at h
        have h1 := length_takeUntil htext
        have h2 := length_skipSpacing_le ((skipSpacing cs).dropWhile Char.isAlphanum)
        have h3 := (List.dropWhile_suffix (l := skipSpacing cs) Char.isAlphanum).length_le
        have h4 := length_skipSpacing_le cs
        rw [hinner, List.length_cons] at h2
        rw [← h.2]
        omega
      · simp at h
    · simp at h

def readCases (cs : List Char) : Except (List Char) (List (List Char × List Char) × List Char) :=
  match _h : readCase cs with
  | .found case rest => do
    let (cases, after) ← readCases rest
    .ok (case :: cases, after)
  | .absent _ => .ok ([], cs)
  | .stopped rest => .error rest
termination_by cs.length
decreasing_by exact length_readCase _h

theorem length_readCases_le {cs rest : List Char} {cases : List (List Char × List Char)}
    (h : readCases cs = .ok (cases, rest)) : rest.length ≤ cs.length := by
  fun_induction readCases cs generalizing cases with
  | case1 cs case after hcase ih =>
    have hlt := length_readCase hcase
    cases hmore : readCases after with
    | error e => simp [hmore, bind, Except.bind] at h
    | ok more =>
      obtain ⟨cases', rest'⟩ := more
      simp only [hmore, bind, Except.bind, Except.ok.injEq, Prod.mk.injEq] at h
      obtain ⟨-, rfl⟩ := h
      exact Nat.le_of_lt (Nat.lt_of_le_of_lt (ih hmore) hlt)
  | case2 cs _ _ =>
    simp only [Except.ok.injEq, Prod.mk.injEq] at h
    exact Nat.le_of_eq (congrArg List.length h.2.symm)
  | case3 => simp at h

def readSomeCases (cs : List Char) :
    Except (List Char) (List (List Char × List Char) × List Char) :=
  match readCase cs with
  | .absent rest => .error rest
  | _ => readCases cs

theorem length_readSomeCases_le {cs rest : List Char} {cases : List (List Char × List Char)}
    (h : readSomeCases cs = .ok (cases, rest)) : rest.length ≤ cs.length := by
  unfold readSomeCases at h
  split at h
  · simp at h
  · exact length_readCases_le h

def readKind (cs : List Char) : Except (List Char) (Plural.Kind × List Char) :=
  match Plural.Kind.all.find? (·.name.toList.isPrefixOf cs) with
  | some kind => .ok (kind, cs.drop kind.name.length)
  | none => .error cs

theorem length_readKind_le {cs rest : List Char} {kind : Plural.Kind}
    (h : readKind cs = .ok (kind, rest)) : rest.length ≤ cs.length := by
  unfold readKind at h
  split at h
  · simp only [Except.ok.injEq, Prod.mk.injEq] at h
    rw [← h.2]
    exact (List.drop_suffix _ _).length_le
  · simp at h

/-- A text without the dollar sign at its front, if it has one. -/
def dropDollar : List Char → List Char
  | '$' :: rest => rest
  | cs => cs

theorem length_dropDollar_le (cs : List Char) : (dropDollar cs).length ≤ cs.length := by
  unfold dropDollar
  split
  · exact Nat.le_succ _
  · exact Nat.le_refl _

/-- Reads a selector after its opening `$(`; the dollar sign at its end may be missing. -/
def readSelector (cs : List Char) : Except (List Char) (Piece × List Char) := do
  let (kind, cs) ← readKind (skipSpacing cs)
  let cs ← expect ',' (skipSpacing cs)
  let (cases, cs) ← readSomeCases cs
  let cs ← expect ')' (skipSpacing cs)
  .ok (.selector kind cases, dropDollar cs)

theorem length_readSelector_le {cs rest : List Char} {p : Piece}
    (h : readSelector cs = .ok (p, rest)) : rest.length ≤ cs.length := by
  unfold readSelector at h
  cases hkind : readKind (skipSpacing cs) with
  | error e => simp [hkind, bind, Except.bind] at h
  | ok kind =>
    obtain ⟨kind, cs1⟩ := kind
    cases hcomma : expect ',' (skipSpacing cs1) with
    | error e => simp [hkind, hcomma, bind, Except.bind] at h
    | ok cs2 =>
      cases hcases : readSomeCases cs2 with
      | error e => simp [hkind, hcomma, hcases, bind, Except.bind] at h
      | ok found =>
        obtain ⟨cases, cs3⟩ := found
        cases hclose : expect ')' (skipSpacing cs3) with
        | error e => simp [hkind, hcomma, hcases, hclose, bind, Except.bind] at h
        | ok cs4 =>
          simp only [hkind, hcomma, hcases, hclose, bind, Except.bind, Except.ok.injEq,
            Prod.mk.injEq] at h
          have h0 := length_skipSpacing_le cs
          have h1 := length_readKind_le hkind
          have h2 := length_skipSpacing_le cs1
          have h3 := length_expect hcomma
          have h4 := length_readSomeCases_le hcases
          have h5 := length_skipSpacing_le cs3
          have h6 := length_expect hclose
          have h7 := length_dropDollar_le cs4
          rw [← h.2]
          omega

/-! ## Pieces -/

/-- The target of a substitution, absent if it is empty. -/
def targetOf (cs : List Char) : Option (List Char) := if cs.isEmpty then none else some cs

/-- Reads one piece; every text it finds is a single character. -/
def readOne : List Char → Step Piece
  | [] => .absent []
  | c :: rest =>
    match Marker.ofChar? c with
    | some marker =>
      match takeUntil c rest with
      | some (target, after) => .found (.substitution marker (targetOf target)) after
      | none => .stopped []
    | none =>
      match c, rest with
      | '[', rest => .absent ('[' :: rest)
      | ']', rest => .absent (']' :: rest)
      | '$', '(' :: inner =>
        match readSelector inner with
        | .ok (p, after) => .found p after
        | .error stop => .stopped stop
      | '\'', d :: after =>
        if reserved.contains d then .found (.text [d]) after
        else .found (.text ['\'']) (d :: after)
      | c, rest => .found (.text [c]) rest

theorem length_readOne {cs rest : List Char} {p : Piece} (h : readOne cs = .found p rest) :
    rest.length < cs.length := by
  unfold readOne at h
  split at h
  · simp at h
  · split at h
    · split at h
      · rename_i target after htake
        simp only [Step.found.injEq] at h
        have := length_takeUntil htake
        rw [← h.2, List.length_cons]
        omega
      · simp at h
    · split at h
      · simp at h
      · simp at h
      · split at h
        · rename_i hselector
          simp only [Step.found.injEq] at h
          have := length_readSelector_le hselector
          simp only [← h.2, List.length_cons]
          omega
        · simp at h
      · split at h <;> simp only [Step.found.injEq] at h <;> simp only [← h.2, List.length_cons] <;>
          omega
      · simp only [Step.found.injEq] at h
        rw [← h.2, List.length_cons]
        exact Nat.lt_succ_self _

def readAll (cs : List Char) : Except (List Char) (List Piece × List Char) :=
  match _h : readOne cs with
  | .found p rest => do
    let (ps, after) ← readAll rest
    .ok (p :: ps, after)
  | .absent _ => .ok ([], cs)
  | .stopped rest => .error rest
termination_by cs.length
decreasing_by exact length_readOne _h

theorem length_readAll_le {cs rest : List Char} {ps : List Piece}
    (h : readAll cs = .ok (ps, rest)) : rest.length ≤ cs.length := by
  fun_induction readAll cs generalizing ps with
  | case1 cs p after hone ih =>
    have hlt := length_readOne hone
    cases hmore : readAll after with
    | error e => simp [hmore, bind, Except.bind] at h
    | ok more =>
      obtain ⟨ps', rest'⟩ := more
      simp only [hmore, bind, Except.bind, Except.ok.injEq, Prod.mk.injEq] at h
      obtain ⟨-, rfl⟩ := h
      exact Nat.le_of_lt (Nat.lt_of_le_of_lt (ih hmore) hlt)
  | case2 cs _ _ =>
    simp only [Except.ok.injEq, Prod.mk.injEq] at h
    exact Nat.le_of_eq (congrArg List.length h.2.symm)
  | case3 => simp at h

end Piece

/-! ## Tokens -/

namespace Token

def readOne : List Char → Step Token
  | '[' :: inner =>
    match Piece.readAll inner with
    | .error stop => .stopped stop
    | .ok (ps, rest) =>
      match expect ']' rest with
      | .ok after => .found (.optional (Piece.joinTexts ps)) after
      | .error stop => .stopped stop
  | cs =>
    match Piece.readOne cs with
    | .found p rest => .found (.piece p) rest
    | .absent rest => .absent rest
    | .stopped rest => .stopped rest

theorem length_readOne {cs rest : List Char} {t : Token} (h : readOne cs = .found t rest) :
    rest.length < cs.length := by
  unfold readOne at h
  split at h
  · split at h
    · simp at h
    · rename_i hall
      split at h
      · rename_i hclose
        simp only [Step.found.injEq] at h
        have h1 := Piece.length_readAll_le hall
        have h2 := length_expect hclose
        rw [← h.2, List.length_cons]
        omega
      · simp at h
  · split at h
    · rename_i hone
      simp only [Step.found.injEq] at h
      rw [← h.2]
      exact Piece.length_readOne hone
    · simp at h
    · simp at h

def readAll (cs : List Char) : Except (List Char) (List Token × List Char) :=
  match _h : readOne cs with
  | .found t rest => do
    let (ts, after) ← readAll rest
    .ok (t :: ts, after)
  | .absent _ => .ok ([], cs)
  | .stopped rest => .error rest
termination_by cs.length
decreasing_by exact length_readOne _h

end Token

/-! ## Bodies -/

namespace Body

/-- A body without the semicolon at its end, if it has one. -/
def dropSemicolon (cs : List Char) : List Char :=
  if cs.getLast? = some ';' then cs.dropLast else cs

/-- A body without the apostrophe at its beginning, if it has one. -/
def dropApostrophe : List Char → List Char
  | '\'' :: rest => rest
  | cs => cs

/-- The part of a body that is cut into tokens. -/
def content (cs : List Char) : List Char := dropApostrophe (dropSemicolon cs)

/-- The markers that must not stand three times in a row, in the order of their report. -/
def unrepeatable : List Char := ['>', '<', '→', '←']

/-- Whether a character stands three times in a row. -/
def hasTriple (c : Char) : List Char → Bool
  | [] => false
  | a :: rest => [c, c, c].isPrefixOf (a :: rest) || hasTriple c rest

def tokens (cs : List Char) : Except SyntaxFault (List Token) :=
  match unrepeatable.find? (hasTriple · (content cs)) with
  | some c => .error (.triple c)
  | none =>
    match Token.readAll (content cs) with
    | .ok (ts, []) => .ok (Token.joinTexts ts)
    | .ok (_, rest) => .error (.unexpected (String.ofList rest))
    | .error rest => .error (.malformed (String.ofList rest))

end Body

end NumberRules.Spelling
