import Mathlib
import NumberRules.Proofs.Diagnostic.Labels
import NumberRules.Proofs.Plural.ErrorPosition

/-! # Labels and the texts they stand in

The label of a compile error begins between two characters of its text and does not reach over the
end.  It can end inside a character only if it labels the front of a body that the offending text
does not occur in.  The label of a rules file is one byte long, whatever stands there.
-/

namespace NumberRules
set_option autoImplicit false

open Text (FirstAfter utf8Length)

/-! ## Places of conditions -/

/-- A condition that is not read is cut in two by the place of the error. -/
theorem Plural.Condition.exists_place_of_parse {text : String} {err : Plural.SyntaxError}
    (h : Plural.Condition.parse text = .error err) :
    ∃ before word, err.rule = before ++ err.rest ∧ FirstWord word err.rest := by
  by_cases hne : normalize text = ""
  · simp only [parse, hne] at h
    cases h
    exact ⟨"", "", rfl, by simp [Text.Solid], by simp, "", rfl, by simp⟩
  · obtain ⟨used, rest, hlex, hrule, hrest, htaken⟩ := exists_taken_of_parse hne h
    obtain ⟨front, hfront, -⟩ := Token.exists_splits_of_lex hlex htaken.allKnown
    obtain ⟨word, hword⟩ := exists_firstWord (isBlank_head?_textFrom hne hlex hfront)
    refine ⟨String.ofList front, word, ?_, hrest ▸ hword⟩
    rw [hrule, hrest, ← String.toList_inj, String.toList_append, String.toList_ofList, hfront]

/-! ## Substitutions in bodies -/

namespace Spelling

theorem Token.Writes.exists_piece {t : Token} {u : List Char} (h : t.Writes u) {p : Piece}
    (hp : p ∈ t.pieces) : ∃ v, v <:+: u ∧ p.Writes v := by
  cases h with
  | piece hu =>
    rw [List.mem_singleton.1 hp]
    exact ⟨u, List.infix_rfl, hu⟩
  | optional hu _ =>
    obtain ⟨v, hv, hwrites⟩ := hu.exists_writes hp
    exact ⟨v, List.infix_cons (hv.trans (List.prefix_append _ _).isInfix), hwrites⟩

theorem Body.content_isInfix (cs : List Char) : content cs <:+: cs := by
  obtain ⟨front, hfront⟩ := exists_content cs
  exact ⟨front, semicolon cs, by rw [List.append_assoc]; exact hfront.symm⟩

/-- A refused substitution occurs as it is reported, unless it is written with arrows. -/
theorem Body.substitution_isInfix {cs : List Char} {ts : List Token} (h : tokens cs = .ok ts)
    (hleft : '←' ∉ cs) (hright : '→' ∉ cs) {t : Token} (ht : t ∈ ts) {marker : Marker}
    {target : Option (List Char)} (hp : .substitution marker target ∈ t.pieces) :
    marker.char :: (target.getD [] ++ [marker.char]) <:+: cs := by
  obtain ⟨u, hu, hwrites⟩ := (writes_of_tokens h).1.exists_writes ht
  obtain ⟨v, hv, hpiece⟩ := hwrites.exists_piece hp
  have hoccurs : v <:+: cs := hv.trans (hu.trans (content_isInfix cs))
  cases hpiece with
  | @substitution c _ target hc _ =>
    have hmem : c ∈ cs := hoccurs.subset List.mem_cons_self
    have hchar : marker.char = c :=
      Marker.char_eq_of_ofChar? hc (fun heq => hleft (heq ▸ hmem)) fun heq => hright (heq ▸ hmem)
    have htarget : (Piece.targetOf target).getD [] = target := by
      unfold Piece.targetOf
      split <;> simp_all
    rw [hchar, htarget]
    exact hoccurs

theorem RuleContext.offending_isInfix {context : RuleContext} {body : String} {fault : SyntaxFault}
    (h : context.nodes body = .error fault) (hleft : '←' ∉ body.toList)
    (hright : '→' ∉ body.toList) (hend : fault.left? ≠ some "") :
    fault.offending.toList <:+: body.toList := by
  rcases RuleContext.nodes_eq_error_cases h with
    htokens | ⟨ts, t, marker, target, refusal, htokens, ht, hp, rfl⟩
  · rcases Body.tokens_eq_error_cases htokens with ⟨c, rfl, hc⟩ | ⟨stop, hstop, hsuffix⟩
    · rw [SyntaxFault.offending, String.toList_ofList]
      exact hc.trans (Body.content_isInfix _)
    · have hne : (String.ofList stop).isEmpty = false := by
        simpa [hstop] using hend
      rw [SyntaxFault.offending_of_left hstop, restText, if_neg (by simp [hne]),
        String.toList_ofList]
      exact hsuffix.isInfix.trans (Body.content_isInfix _)
  · have hoccurs := Body.substitution_isInfix htokens hleft hright ht hp
    cases target <;> simpa [SyntaxFault.offending] using hoccurs

end Spelling

namespace Diagnostic

open Spelling

/-- The label is a part of the text and begins and ends between characters. -/
structure InText (d : Diagnostic) : Prop where
  fits : d.offset + d.length ≤ d.text.utf8ByteSize
  starts : String.Pos.Raw.IsValid d.text ⟨d.offset⟩
  ends : String.Pos.Raw.IsValid d.text ⟨d.offset + d.length⟩

theorem inText_of_split {d : Diagnostic} {before labelled after : List Char}
    (htext : d.text.toList = before ++ (labelled ++ after)) (hoffset : d.offset = utf8Length before)
    (hlength : d.length = utf8Length labelled) : d.InText := by
  have hsize : d.text.utf8ByteSize =
      utf8Length before + (utf8Length labelled + utf8Length after) := by
    rw [← Text.utf8Length_toList, htext, Text.utf8Length_append, Text.utf8Length_append]
  refine ⟨by omega, Text.isValid_iff.2 ⟨before, ⟨_, htext.symm⟩, hoffset.symm⟩,
    Text.isValid_iff.2 ⟨before ++ labelled, ⟨after, ?_⟩, ?_⟩⟩
  · rw [htext, List.append_assoc]
  · rw [Text.utf8Length_append, hoffset, hlength]

/-! ## Compile errors -/

theorem fits_ofCompileError (origin : String) (e : CompileError) :
    (ofCompileError origin e).offset + (ofCompileError origin e).length ≤
      (ofCompileError origin e).text.utf8ByteSize := by
  simp only [ofCompileError, Span.clamp]
  omega

section

variable {e : CompileError} (origin : String)

theorem inText_of_condition {text : String} {err : Plural.SyntaxError}
    (h : Plural.Condition.parse text = .error err) (hroot : e.root = .conditionSyntax err) :
    (ofCompileError origin e).InText := by
  obtain ⟨before, word, hrule, hword⟩ := Plural.Condition.exists_place_of_parse h
  obtain ⟨htext, hoffset, hlength⟩ :=
    Plural.Condition.label_eq hrule rfl hword hroot origin
  obtain ⟨-, -, tail, htail, -⟩ := hword
  rw [← Text.utf8Length_toList] at hoffset hlength
  have hsplit : (ofCompileError origin e).text.toList =
      before.toList ++ (word.toList ++ tail.toList) := by
    rw [htext, hrule, htail, String.toList_append, String.toList_append]
  exact inText_of_split hsplit hoffset hlength

theorem inText_of_key {key : String}
    (hspan : spanOf e.root = ⟨key, 0, key.utf8ByteSize⟩) : (ofCompileError origin e).InText := by
  have hsplit : (ofCompileError origin e).text.toList = [] ++ (key.toList ++ []) := by
    simp [ofCompileError, hspan, Span.clamp]
  refine inText_of_split hsplit ?_ ?_
  · simp [ofCompileError, hspan, Span.clamp]
  · simp [ofCompileError, hspan, Span.clamp, Text.utf8Length_toList]

variable {err : Spelling.SyntaxError} (hroot : e.root = .bodySyntax err)

include hroot

theorem inText_of_isInfix (h : err.fault.offending.toList <:+: err.body.toList) :
    (ofCompileError origin e).InText := by
  obtain ⟨before, hbefore⟩ := Text.exists_firstAfter_iff.2 h
  obtain ⟨hoffset, hlength⟩ := label_of_firstAfter hroot origin hbefore
  obtain ⟨after, hafter⟩ := hbefore.occurs
  have hsplit : (ofCompileError origin e).text.toList =
      before ++ (err.fault.offending.toList ++ after) := by
    rw [text_of_body hroot origin, ← hafter, List.append_assoc]
  exact inText_of_split hsplit hoffset (hlength.trans (Text.utf8Length_toList _).symm)

theorem starts_of_body : String.Pos.Raw.IsValid (ofCompileError origin e).text
    ⟨(ofCompileError origin e).offset⟩ := by
  by_cases h : err.fault.offending.toList <:+: err.body.toList
  · exact (inText_of_isInfix origin hroot h).starts
  · rw [(label_of_not_isInfix hroot origin h).1]
    exact Text.isValid_iff.2 ⟨[], List.nil_prefix, rfl⟩

theorem inText_iff_of_body : (ofCompileError origin e).InText ↔
    err.fault.offending.toList <:+: err.body.toList ∨ String.Pos.Raw.IsValid err.body
      ⟨min err.fault.offending.utf8ByteSize err.body.utf8ByteSize⟩ := by
  by_cases h : err.fault.offending.toList <:+: err.body.toList
  · exact iff_of_true (inText_of_isInfix origin hroot h) (.inl h)
  · obtain ⟨hoffset, hlength⟩ := label_of_not_isInfix hroot origin h
    have hend : (ofCompileError origin e).offset + (ofCompileError origin e).length =
        min err.fault.offending.utf8ByteSize err.body.utf8ByteSize := by
      rw [hoffset, hlength, Nat.zero_add]
    rw [or_iff_right h, ← hend, ← text_of_body hroot origin]
    exact ⟨InText.ends, fun hends =>
      ⟨fits_ofCompileError origin e, starts_of_body origin hroot, hends⟩⟩

end

theorem starts_ofCompileError {e : CompileError} (h : e.Arises) (origin : String) :
    String.Pos.Raw.IsValid (ofCompileError origin e).text ⟨(ofCompileError origin e).offset⟩ := by
  have hcause := h.cause
  generalize hroot : e.root = root at hcause
  cases hcause with
  | condition hparse => exact (inText_of_condition origin hparse hroot).starts
  | body _ => exact starts_of_body origin hroot
  | invalidBaseValue | invalidRadix | duplicateRule =>
    exact (inText_of_key origin (by rw [hroot]; rfl)).starts

theorem inText_ofCompileError_iff {e : CompileError} (h : e.Arises) (origin : String) :
    (ofCompileError origin e).InText ↔ ∀ err, e.root = .bodySyntax err →
      err.fault.offending.toList <:+: err.body.toList ∨ String.Pos.Raw.IsValid err.body
        ⟨min err.fault.offending.utf8ByteSize err.body.utf8ByteSize⟩ := by
  have hcause := h.cause
  generalize hroot : e.root = root at hcause
  cases hcause with
  | condition hparse => exact iff_of_true (inText_of_condition origin hparse hroot) (by simp)
  | body _ => simpa using inText_iff_of_body origin hroot
  | invalidBaseValue | invalidRadix | duplicateRule =>
    exact iff_of_true (inText_of_key origin (by rw [hroot]; rfl)) (by simp)

theorem inText_ofCompileError {e : CompileError} (h : e.Arises) (origin : String)
    (hbody : ∀ err, e.root = .bodySyntax err →
      '←' ∉ err.body.toList ∧ '→' ∉ err.body.toList ∧ err.fault.left? ≠ some "") :
    (ofCompileError origin e).InText := by
  refine (inText_ofCompileError_iff h origin).2 fun err hroot => .inl ?_
  obtain ⟨hleft, hright, hend⟩ := hbody err hroot
  have hcause := h.cause
  rw [hroot] at hcause
  cases hcause with
  | body hrefused => exact Spelling.RuleContext.offending_isInfix hrefused hleft hright hend

/-! ## Rules files -/

/-- A label of one byte is a part of the text if a character of one byte stands there. -/
theorem inText_iff_of_length_eq_one {d : Diagnostic} (h : d.length = 1) :
    d.InText ↔ ∃ before c after, d.text.toList = before ++ c :: after ∧
      d.offset = utf8Length before ∧ c.utf8Size = 1 := by
  constructor
  · rintro ⟨-, hstarts, hends⟩
    obtain ⟨before, hbefore, hoffset⟩ := Text.isValid_iff.1 hstarts
    obtain ⟨front, hfront, hend⟩ := Text.isValid_iff.1 hends
    rcases List.prefix_or_prefix_of_prefix hbefore hfront with ⟨more, rfl⟩ | ⟨more, rfl⟩
    · rw [h, ← hoffset, Text.utf8Length_append] at hend
      cases more with
      | nil => simp at hend
      | cons c more =>
        rw [Text.utf8Length_cons] at hend
        obtain ⟨after, hafter⟩ := hfront
        have hpos := c.utf8Size_pos
        refine ⟨before, c, more ++ after, ?_, hoffset.symm, by omega⟩
        rw [← hafter, List.append_assoc, List.cons_append]
    · rw [Text.utf8Length_append] at hoffset
      omega
  · rintro ⟨before, c, after, htext, hoffset, hc⟩
    have hsplit : d.text.toList = before ++ ([c] ++ after) := htext
    exact inText_of_split hsplit hoffset (by rw [h, Text.utf8Length_cons, hc, Text.utf8Length_nil])

/-! ## All labels -/

/-- The label of a compile error is a part of its text unless it is put at the front of a body and
ends inside a character; that needs an arrow in the body, or nothing left of it.  The label of a
rules file is a part of its text exactly if a character of one byte stands there. -/
theorem inText_iff (origin : String) :
    (∀ e, CompileError.Arises e →
      (ofCompileError origin e).offset + (ofCompileError origin e).length ≤
          (ofCompileError origin e).text.utf8ByteSize ∧
        String.Pos.Raw.IsValid (ofCompileError origin e).text ⟨(ofCompileError origin e).offset⟩ ∧
        ((ofCompileError origin e).InText ↔ ∀ err, e.root = .bodySyntax err →
          err.fault.offending.toList <:+: err.body.toList ∨ String.Pos.Raw.IsValid err.body
            ⟨min err.fault.offending.utf8ByteSize err.body.utf8ByteSize⟩) ∧
        ((∀ err, e.root = .bodySyntax err →
          '←' ∉ err.body.toList ∧ '→' ∉ err.body.toList ∧ err.fault.left? ≠ some "") →
            (ofCompileError origin e).InText)) ∧
    ∀ line column reason content,
      ∃ d, ofLoadError? (.invalid origin line column reason content) = some d ∧
        d.text = content ∧ d.offset ≤ content.utf8ByteSize ∧
        (d.InText ↔ ∃ before c after, content.toList = before ++ c :: after ∧
          d.offset = utf8Length before ∧ c.utf8Size = 1) := by
  refine ⟨fun e h => ⟨fits_ofCompileError origin e, starts_ofCompileError h origin,
    inText_ofCompileError_iff h origin, inText_ofCompileError h origin⟩, ?_⟩
  intro line column reason content
  exact ⟨_, rfl, rfl, Nat.min_le_right _ _, inText_iff_of_length_eq_one rfl⟩

def unknownOperand : CompileError := .conditionSyntax ⟨"n = 2 or ü = 3", .malformed, "ü = 3"⟩

theorem inText_unknownOperand :
    Plural.Condition.compile "n = 2  or ü = 3" = .error unknownOperand ∧
      (ofCompileError "few" (.inPluralRule "few" unknownOperand)).InText ∧
      ∃ d, ofLoadError? (.invalid "rules.json" 2 3 "expected value" "[\n  x") = some d ∧
        d.offset = 4 ∧ d.InText := by
  have hcompile : Plural.Condition.compile "n = 2  or ü = 3" = .error unknownOperand := by
    decide +kernel
  obtain ⟨-, -, -, hin⟩ := (inText_iff "few").1 _ (.inPluralRule "few" (.condition hcompile))
  obtain ⟨d, hd, -, -, hiff⟩ := (inText_iff "rules.json").2 2 3 "expected value" "[\n  x"
  obtain rfl := Option.some.inj hd
  exact ⟨hcompile, hin nofun, _, rfl, by decide,
    hiff.2 ⟨"[\n  ".toList, 'x', [], by decide, by decide, by decide⟩⟩

def unclosedArrow : CompileError := .bodySyntax ⟨"<éééééééééé", .malformed ""⟩

def unknownTarget : CompileError :=
  .bodySyntax ⟨"←é←", .substitution .less (some "é") .unknownTarget⟩

/-- A rules file that ends too early is labelled behind its end.  The words for the end, and an
arrow reported in its short form, are not found and label a front that ends inside a character. -/
theorem not_inText_bracket :
    (∃ d, ofLoadError? (.invalid "p" 2 0 "m" "[\n") = some d ∧ d.offset = 2 ∧ d.length = 1 ∧
      ¬d.InText) ∧
    Rule.compile "<éééééééééé" ⟨.number 0, 10, "main", false, ""⟩ = .error unclosedArrow ∧
    ¬(ofCompileError "main" unclosedArrow).InText ∧
    Rule.compile "←é←" ⟨.number 0, 10, "main", false, ""⟩ = .error unknownTarget ∧
    ¬(ofCompileError "main" unknownTarget).InText := by
  refine ⟨⟨_, rfl, by decide, rfl, fun h => absurd h.fits (by decide)⟩, by decide +kernel,
    fun h => absurd h.ends ?_, by decide +kernel, fun h => absurd h.ends ?_⟩
  · decide +kernel
  · decide +kernel

end Diagnostic

end NumberRules
