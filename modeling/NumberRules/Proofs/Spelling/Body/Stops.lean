import Mathlib
import NumberRules.Proofs.Spelling.Body.Reading

/-! # Where reading a body stops

Readers only take characters off the front of a text, whether they find something or are stopped.
So a body that is not read is cut in two by the place where reading stopped: what stands in front of
it, and the rest, with the semicolon at the end as part of neither.
-/

namespace NumberRules.Spelling
set_option autoImplicit false

/-! ## Readers -/

theorem skipSpacing_suffix (cs : List Char) : skipSpacing cs <:+ cs := List.dropWhile_suffix _

theorem expect_eq_error_iff {c : Char} {cs stop : List Char} :
    expect c cs = .error stop ↔ stop = cs ∧ cs.head? ≠ some c := by
  cases cs with
  | nil => simp [expect, eq_comm]
  | cons d cs =>
    rw [expect]
    split <;> simp_all [eq_comm]

theorem Repeats.suffix_of_error {α : Type} {one : List Char → Step α}
    {all : List Char → Except (List Char) (List α × List Char)} (h : Repeats one all)
    {W : α → List Char → Prop}
    (hfound : ∀ {cs x rest}, one cs = .found x rest → ∃ u, cs = u ++ rest ∧ W x u)
    (hstopped : ∀ {cs stop}, one cs = .stopped stop → stop <:+ cs)
    {cs stop : List Char} (hall : all cs = .error stop) : stop <:+ cs := by
  induction hlength : cs.length using Nat.strongRecOn generalizing cs with
  | ind n ih =>
    rw [h.eq] at hall
    cases hstep : one cs with
    | found x rest =>
      rw [hstep] at hall
      rcases bind_eq_error_iff.1 hall with hrest | ⟨_, -, hpure⟩
      · obtain ⟨u, hsplit, -⟩ := hfound hstep
        have hsuffix : rest <:+ cs := ⟨u, hsplit.symm⟩
        exact (ih _ (hlength ▸ h.shorter hstep) hrest rfl).trans hsuffix
      · cases hpure
    | absent rest =>
      rw [hstep] at hall
      cases hall
    | stopped rest =>
      rw [hstep] at hall
      cases hall
      exact hstopped hstep

namespace Piece

theorem readCase_suffix {cs stop : List Char}
    (h : readCase cs = .absent stop ∨ readCase cs = .stopped stop) : stop <:+ cs := by
  have hcategory : skipSpacing ((skipSpacing cs).dropWhile Char.isAlphanum) <:+ cs :=
    (skipSpacing_suffix _).trans ((List.dropWhile_suffix _).trans (skipSpacing_suffix cs))
  unfold readCase at h
  dsimp only at h
  split at h
  · rcases h with h | h <;> cases h
    exact skipSpacing_suffix cs
  · split at h
    · split at h <;> rcases h with h | h <;> cases h
      exact List.nil_suffix
    · rcases h with h | h <;> cases h
      exact hcategory

theorem suffix_of_readSomeCases {cs stop : List Char} (h : readSomeCases cs = .error stop) :
    stop <:+ cs := by
  unfold readSomeCases at h
  split at h
  · rename_i rest habsent
    cases h
    exact readCase_suffix (.inl habsent)
  · exact repeats_readCases.suffix_of_error exists_writesCase
      (fun hstopped => readCase_suffix (.inr hstopped)) h

theorem eq_of_readKind_eq_error {cs stop : List Char} (h : readKind cs = .error stop) :
    stop = cs := by
  unfold readKind at h
  split at h
  · cases h
  · cases h
    rfl

theorem suffix_of_readSelector {cs stop : List Char} (h : readSelector cs = .error stop) :
    stop <:+ cs := by
  rw [readSelector] at h
  rcases bind_eq_error_iff.1 h with hkind | ⟨⟨kind, cs₁⟩, hkind, h⟩
  · rw [eq_of_readKind_eq_error hkind]
    exact skipSpacing_suffix cs
  have hcs₁ : cs₁ <:+ cs := by
    refine List.IsSuffix.trans ?_ (skipSpacing_suffix cs)
    rw [eq_append_of_readKind hkind]
    exact List.suffix_append _ _
  rcases bind_eq_error_iff.1 h with hcomma | ⟨cs₂, hcomma, h⟩
  · rw [(expect_eq_error_iff.1 hcomma).1]
    exact (skipSpacing_suffix cs₁).trans hcs₁
  have hcs₂ : cs₂ <:+ cs := by
    refine List.IsSuffix.trans ?_ ((skipSpacing_suffix cs₁).trans hcs₁)
    rw [expect_eq_ok_iff.1 hcomma]
    exact List.suffix_cons _ _
  rcases bind_eq_error_iff.1 h with hcases | ⟨⟨cases, cs₃⟩, hcases, h⟩
  · exact (suffix_of_readSomeCases hcases).trans hcs₂
  have hcs₃ : cs₃ <:+ cs := by
    obtain ⟨-, u, rfl, -⟩ := exists_sequence_of_readSomeCases hcases
    exact (List.suffix_append u cs₃).trans hcs₂
  rcases bind_eq_error_iff.1 h with hclose | ⟨cs₄, -, hpure⟩
  · rw [(expect_eq_error_iff.1 hclose).1]
    exact (skipSpacing_suffix cs₃).trans hcs₃
  · cases hpure

theorem stopped_suffix_of_readOne {cs stop : List Char} (h : readOne cs = .stopped stop) :
    stop <:+ cs := by
  unfold readOne at h
  split at h
  · cases h
  · split at h
    · split at h <;> cases h
      exact List.nil_suffix
    · split at h
      · cases h
      · cases h
      · split at h <;> cases h
        rename_i hselector
        exact ((suffix_of_readSelector hselector).trans (List.suffix_cons _ _)).trans
          (List.suffix_cons _ _)
      · split at h <;> cases h
      · cases h

theorem suffix_of_readAll {cs stop : List Char} (h : readAll cs = .error stop) : stop <:+ cs :=
  repeats_readAll.suffix_of_error exists_writes_of_readOne stopped_suffix_of_readOne h

end Piece

namespace Token

theorem stopped_suffix_of_readOne {cs stop : List Char} (h : readOne cs = .stopped stop) :
    stop <:+ cs := by
  unfold readOne at h
  split at h
  · split at h
    · rename_i hall
      cases h
      exact (Piece.suffix_of_readAll hall).trans (List.suffix_cons _ _)
    · rename_i ps after hall
      split at h
      · cases h
      · rename_i hclose
        cases h
        obtain ⟨u, rfl, -⟩ :=
          Piece.repeats_readAll.exists_sequence Piece.exists_writes_of_readOne hall
        rw [(expect_eq_error_iff.1 hclose).1]
        exact (List.suffix_append u after).trans (List.suffix_cons _ _)
  · split at h <;> cases h
    rename_i hone
    exact Piece.stopped_suffix_of_readOne hone

theorem suffix_of_readAll {cs stop : List Char}
    (h : readAll cs = .error stop ∨ ∃ ts, readAll cs = .ok (ts, stop)) : stop <:+ cs := by
  rcases h with h | ⟨ts, h⟩
  · exact repeats_readAll.suffix_of_error exists_writes_of_readOne stopped_suffix_of_readOne h
  · obtain ⟨u, rfl, -⟩ := repeats_readAll.exists_sequence exists_writes_of_readOne h
    exact List.suffix_append u stop

end Token

/-! ## Bodies -/

/-- The text that was left where reading stopped, if it stopped. -/
def SyntaxFault.left? : SyntaxFault → Option String
  | unexpected rest | malformed rest => some rest
  | triple _ | substitution .. => none

namespace Body

/-- The semicolon at the end of a body, if it has one. -/
def semicolon (cs : List Char) : List Char := if cs.getLast? = some ';' then [';'] else []

theorem dropSemicolon_append_semicolon (cs : List Char) :
    dropSemicolon cs ++ semicolon cs = cs := by
  rw [dropSemicolon, semicolon]
  split
  · rename_i hlast
    exact List.dropLast_append_getLast? ';' hlast
  · exact List.append_nil cs

theorem length_semicolon_le (cs : List Char) : (semicolon cs).length ≤ 1 := by
  rw [semicolon]
  split <;> simp

theorem dropApostrophe_suffix (cs : List Char) : dropApostrophe cs <:+ cs := by
  unfold dropApostrophe
  split
  · exact List.suffix_cons _ _
  · exact List.suffix_rfl

theorem exists_content (cs : List Char) : ∃ front, cs = front ++ (content cs ++ semicolon cs) := by
  obtain ⟨front, hfront⟩ := dropApostrophe_suffix (dropSemicolon cs)
  refine ⟨front, ?_⟩
  rw [content, ← List.append_assoc, hfront, dropSemicolon_append_semicolon]

theorem tokens_of_content_eq_nil {cs : List Char} (h : content cs = []) : tokens cs = .ok [] := by
  have hread : Token.readAll [] = .ok ([], []) := by
    rw [Token.repeats_readAll.eq]
    rfl
  have htriple : unrepeatable.find? (hasTriple · []) = none := by decide
  rw [tokens, h, htriple]
  simp only [hread]
  rfl

theorem infix_of_hasTriple {c : Char} {cs : List Char} (h : hasTriple c cs = true) :
    [c, c, c] <:+: cs := by
  induction cs with
  | nil => cases h
  | cons d cs ih =>
    rcases Bool.or_eq_true_iff.1 h with hhere | hlater
    · exact (List.isPrefixOf_iff_prefix.1 hhere).isInfix
    · exact List.infix_cons (ih hlater)

/-- What a body that is not read is refused for. -/
theorem tokens_eq_error_cases {cs : List Char} {fault : SyntaxFault}
    (h : tokens cs = .error fault) :
    (∃ c, fault = .triple c ∧ [c, c, c] <:+: content cs) ∨
      ∃ stop, fault.left? = some (String.ofList stop) ∧ stop <:+ content cs := by
  unfold tokens at h
  split at h
  · rename_i c hfound
    cases h
    have htriple : hasTriple c (content cs) = true := by simpa using List.find?_some hfound
    exact .inl ⟨c, rfl, infix_of_hasTriple htriple⟩
  · split at h
    · cases h
    · rename_i ts stop _ hall
      cases h
      exact .inr ⟨stop, rfl, Token.suffix_of_readAll (.inr ⟨ts, hall⟩)⟩
    · rename_i stop hall
      cases h
      exact .inr ⟨stop, rfl, Token.suffix_of_readAll (.inl hall)⟩

theorem exists_front_of_left {cs : List Char} {fault : SyntaxFault} {rest : String}
    (h : tokens cs = .error fault) (hleft : fault.left? = some rest) :
    ∃ front, cs = front ++ (rest.toList ++ semicolon cs) := by
  rcases tokens_eq_error_cases h with ⟨c, rfl, -⟩ | ⟨stop, hstop, before, hbefore⟩
  · cases hleft
  · rw [hleft] at hstop
    cases hstop
    obtain ⟨front, hfront⟩ := exists_content cs
    refine ⟨front ++ before, ?_⟩
    conv_lhs => rw [hfront, ← hbefore]
    rw [String.toList_ofList]
    simp

end Body

end NumberRules.Spelling
