import Mathlib
import NumberRules.Proofs.Spelling.Body.Form

/-! # Bodies that are read

What a reader takes off the front of a text is a writing of what it finds.  So a body that is read is
a writing of its tokens, and they are normal.
-/

namespace NumberRules.Spelling
set_option autoImplicit false

/-! ## Stretches of text -/

theorem takeUntil_eq_some_iff {stop : Char} {cs before after : List Char} :
    takeUntil stop cs = some (before, after) ↔ cs = before ++ stop :: after ∧ stop ∉ before := by
  induction cs generalizing before with
  | nil => simp [takeUntil]
  | cons c cs ih =>
    rw [takeUntil]
    by_cases hc : c = stop
    · rw [if_pos hc]
      constructor
      · intro h
        cases h
        exact ⟨by rw [hc, List.nil_append], List.not_mem_nil⟩
      · rintro ⟨heq, hstop⟩
        cases before with
        | nil =>
          cases heq
          rfl
        | cons b before =>
          cases heq
          exact absurd (hc ▸ List.mem_cons_self) hstop
    · rw [if_neg hc, Option.map_eq_some_iff]
      constructor
      · rintro ⟨⟨before', after'⟩, hrest, heq⟩
        cases heq
        obtain ⟨rfl, hstop⟩ := ih.1 hrest
        exact ⟨rfl, by rw [List.mem_cons, not_or]; exact ⟨Ne.symm hc, hstop⟩⟩
      · rintro ⟨heq, hstop⟩
        cases before with
        | nil =>
          cases heq
          exact absurd rfl hc
        | cons b before =>
          cases heq
          rw [List.mem_cons, not_or] at hstop
          exact ⟨(before, after), ih.2 ⟨rfl, hstop.2⟩, rfl⟩

theorem exists_skipSpacing (cs : List Char) : ∃ s, Spacing s ∧ cs = s ++ skipSpacing cs :=
  ⟨cs.takeWhile Text.isSpacing, fun _ => List.mem_takeWhile_imp,
    (List.takeWhile_append_dropWhile).symm⟩

theorem expect_eq_ok_iff {c : Char} {cs rest : List Char} :
    expect c cs = .ok rest ↔ cs = c :: rest := by
  cases cs with
  | nil => simp [expect]
  | cons d cs =>
    rw [expect]
    split <;> simp_all

/-! ## Plural selectors -/

namespace Piece

theorem exists_writesCase {cs rest : List Char} {case : List Char × List Char}
    (h : readCase cs = .found case rest) : ∃ u, cs = u ++ rest ∧ WritesCase case u := by
  obtain ⟨s, hs, hcs⟩ := exists_skipSpacing cs
  rw [readCase] at h
  split at h
  · cases h
  · rename_i hcategory
    split at h
    · rename_i inner hinner
      split at h
      · rename_i words after hwords
        cases h
        obtain ⟨s', hs', hrest⟩ := exists_skipSpacing ((skipSpacing cs).dropWhile Char.isAlphanum)
        obtain ⟨rfl, hbrace⟩ := takeUntil_eq_some_iff.1 hwords
        have hsplit := List.takeWhile_append_dropWhile (p := Char.isAlphanum) (l := skipSpacing cs)
        refine ⟨_, ?_, ⟨⟨?_, ?_⟩, hbrace⟩, s, s', hs, hs', rfl⟩
        · rw [hrest, hinner] at hsplit
          conv_lhs => rw [hcs, ← hsplit]
          simp
        · simpa using hcategory
        · exact fun c hc => List.mem_takeWhile_imp hc
      · cases h
    · cases h

theorem repeats_readCases : Repeats readCase readCases where
  eq cs := by
    rw [readCases]
    split <;> simp_all
  shorter := length_readCase

theorem exists_sequence_of_readSomeCases {cs rest : List Char}
    {cases : List (List Char × List Char)} (h : readSomeCases cs = .ok (cases, rest)) :
    cases ≠ [] ∧ ∃ u, cs = u ++ rest ∧ Sequence WritesCase cases u := by
  rw [readSomeCases] at h
  split at h
  · cases h
  · rename_i hpresent
    refine ⟨?_, repeats_readCases.exists_sequence exists_writesCase h⟩
    rintro rfl
    rw [repeats_readCases.eq] at h
    split at h
    · obtain ⟨_, _, h⟩ := bind_eq_ok_iff.1 h
      cases h
    · exact hpresent _ ‹_›
    · cases h

theorem eq_append_of_readKind {cs rest : List Char} {kind : Plural.Kind}
    (h : readKind cs = .ok (kind, rest)) : cs = kind.name.toList ++ rest := by
  rw [readKind] at h
  split at h
  · rename_i kind' hfound
    cases h
    have hstarts : kind.name.toList <+: cs :=
      List.isPrefixOf_iff_prefix.1 (List.find?_some (p := (Plural.Kind.name · |>.toList.isPrefixOf cs)) hfound)
    obtain ⟨after, rfl⟩ := hstarts
    rw [← String.length_toList, List.drop_left]
  · cases h

theorem exists_dropDollar (cs : List Char) :
    ∃ dollar, dollar <+: ['$'] ∧ cs = dollar ++ dropDollar cs := by
  unfold dropDollar
  split
  · exact ⟨['$'], List.prefix_rfl, rfl⟩
  · exact ⟨[], List.nil_prefix, rfl⟩

theorem exists_writes_of_readSelector {cs rest : List Char} {p : Piece}
    (h : readSelector cs = .ok (p, rest)) : ∃ u, '$' :: '(' :: cs = u ++ rest ∧ p.Writes u := by
  rw [readSelector] at h
  obtain ⟨⟨kind, cs₁⟩, hkind, h⟩ := bind_eq_ok_iff.1 h
  obtain ⟨cs₂, hcomma, h⟩ := bind_eq_ok_iff.1 h
  obtain ⟨⟨cases, cs₃⟩, hcases, h⟩ := bind_eq_ok_iff.1 h
  obtain ⟨cs₄, hclose, h⟩ := bind_eq_ok_iff.1 h
  cases h
  obtain ⟨s, hs, hcs⟩ := exists_skipSpacing cs
  obtain ⟨s', hs', hcs₁⟩ := exists_skipSpacing cs₁
  obtain ⟨s'', hs'', hcs₃⟩ := exists_skipSpacing cs₃
  obtain ⟨dollar, hdollar, hcs₄⟩ := exists_dropDollar cs₄
  obtain ⟨hnonempty, u, hcs₂, hu⟩ := exists_sequence_of_readSomeCases hcases
  refine ⟨_, ?_, .selector hnonempty hs hs' hu hs'' hdollar⟩
  rw [eq_append_of_readKind hkind] at hcs
  rw [expect_eq_ok_iff.1 hcomma, hcs₂, hcs₃, expect_eq_ok_iff.1 hclose] at hcs₁
  rw [hcs, hcs₁]
  conv_lhs => rw [hcs₄]
  simp

/-! ## Pieces -/

theorem not_mem_structural {c : Char} (h : Marker.ofChar? c = none) (hopen : c ≠ '[')
    (hclose : c ≠ ']') : c ∉ structural := by
  intro hmem
  simp only [structural, List.mem_cons, List.not_mem_nil, or_false] at hmem
  rcases hmem with rfl | rfl | rfl | rfl | rfl | rfl | rfl
  case inr.inr.inr.inl => exact hopen rfl
  case inr.inr.inr.inr.inl => exact hclose rfl
  all_goals simp [Marker.ofChar?] at h

theorem exists_writes_of_readOne {cs rest : List Char} {p : Piece}
    (h : readOne cs = .found p rest) : ∃ u, cs = u ++ rest ∧ p.Writes u := by
  unfold readOne at h
  split at h
  · cases h
  · rename_i c after
    split at h
    · rename_i marker hmarker
      split at h
      · rename_i target after' htake
        cases h
        obtain ⟨rfl, htarget⟩ := takeUntil_eq_some_iff.1 htake
        exact ⟨_, by simp, .substitution hmarker htarget⟩
      · cases h
    · rename_i hmarker
      split at h
      · cases h
      · cases h
      · rename_i inner _
        split at h
        · rename_i hselector
          cases h
          exact exists_writes_of_readSelector hselector
        · cases h
      · rename_i d after'
        split at h
        · rename_i hreserved
          cases h
          have hchar : WritesChar d ['\'', d] := .inr ⟨rfl, by simpa using hreserved⟩
          exact ⟨['\'', d], rfl, .text (List.cons_ne_nil d []) (.single hchar)⟩
        · cases h
          have hchar : WritesChar '\'' ['\''] := .inl ⟨rfl, by decide⟩
          exact ⟨['\''], rfl, .text (List.cons_ne_nil _ []) (.single hchar)⟩
      · rename_i hopen hclose _ _
        cases h
        have hchar : WritesChar c [c] := .inl ⟨rfl, not_mem_structural hmarker hopen hclose⟩
        exact ⟨[c], rfl, .text (List.cons_ne_nil c []) (.single hchar)⟩

theorem repeats_readAll : Repeats readOne readAll where
  eq cs := by
    rw [readAll]
    split <;> simp_all
  shorter := length_readOne

theorem writes_append {a b u v : List Char} (ha : (text a).Writes u) (hb : (text b).Writes v) :
    (text (a ++ b)).Writes (u ++ v) := by
  cases ha with
  | text hne hu =>
    cases hb with
    | text _ hv => exact .text (List.append_ne_nil_of_left_ne_nil hne b) (hu.append hv)

end Piece

/-! ## Tokens -/

namespace Token

theorem exists_writes_of_readOne {cs rest : List Char} {t : Token}
    (h : readOne cs = .found t rest) : ∃ u, cs = u ++ rest ∧ t.Writes u := by
  unfold readOne at h
  split at h
  · split at h
    · cases h
    · rename_i ps after hall
      split at h
      · rename_i hclose
        cases h
        obtain ⟨u, rfl, hu⟩ := Piece.repeats_readAll.exists_sequence
          Piece.exists_writes_of_readOne hall
        have hjoined := Piece.joins.sequence_foldr Piece.writes_append hu
        refine ⟨_, ?_, .optional hjoined (Piece.joins.separate_foldr ps)⟩
        rw [expect_eq_ok_iff.1 hclose]
        simp
      · cases h
  · split at h
    · rename_i hone
      cases h
      obtain ⟨u, hu, hp⟩ := Piece.exists_writes_of_readOne hone
      exact ⟨u, hu, .piece hp⟩
    · cases h
    · cases h

theorem repeats_readAll : Repeats readOne readAll where
  eq cs := by
    rw [readAll]
    split <;> simp_all
  shorter := length_readOne

theorem writes_append {a b u v : List Char} (ha : (piece (.text a)).Writes u)
    (hb : (piece (.text b)).Writes v) : (piece (.text (a ++ b))).Writes (u ++ v) := by
  cases ha with
  | piece ha =>
    cases hb with
    | piece hb => exact .piece (Piece.writes_append ha hb)

end Token

/-! ## Bodies -/

theorem Body.writes_of_tokens {cs : List Char} {ts : List Token} (h : tokens cs = .ok ts) :
    Writes ts (content cs) := by
  unfold tokens at h
  split at h
  · cases h
  · split at h
    · rename_i ts' hall
      cases h
      obtain ⟨u, hcontent, hu⟩ := Token.repeats_readAll.exists_sequence
        Token.exists_writes_of_readOne hall
      rw [hcontent, List.append_nil]
      exact ⟨Token.joins.sequence_foldr Token.writes_append hu, Token.joins.separate_foldr ts'⟩
    · cases h
    · cases h

theorem Body.mem_of_mem_content {cs : List Char} {c : Char} (h : c ∈ content cs) : c ∈ cs := by
  have hapostrophe : c ∈ dropSemicolon cs := by
    unfold content dropApostrophe at h
    split at h
    · rename_i rest hrest
      rw [hrest]
      exact List.mem_cons_of_mem _ h
    · exact h
  unfold dropSemicolon at hapostrophe
  split at hapostrophe
  · exact List.mem_of_mem_dropLast hapostrophe
  · exact hapostrophe

end NumberRules.Spelling
