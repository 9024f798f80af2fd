import Mathlib
import NumberRules.Diagnostic
import NumberRules.Proofs.Diagnostic.Causes
import NumberRules.Proofs.Text.Bytes

/-! # Labels of bodies

The diagnostic of a body labels the first occurrence of the offending text, or the front of the body
if it does not occur.  That is where reading stopped if some text was left and does not stand
earlier in the body, and never if nothing was left: then a text about the end is looked for.
-/

namespace NumberRules
set_option autoImplicit false

open Text (FirstAfter utf8Length)

namespace Spelling

theorem SyntaxFault.offending_ne_empty (fault : SyntaxFault) : fault.offending ≠ "" := by
  have hrest : ∀ rest, restText rest ≠ "" := by
    intro rest
    rw [restText]
    split
    · decide
    · rename_i hrest
      simpa using hrest
  cases fault with
  | unexpected rest | malformed rest => exact hrest rest
  | triple marker => simp [offending]
  | substitution marker target refusal => simp [offending, ← String.toList_inj]

theorem SyntaxFault.offending_of_left {fault : SyntaxFault} {rest : String}
    (h : fault.left? = some rest) : fault.offending = restText rest := by
  cases fault with
  | unexpected | malformed =>
    cases h
    rfl
  | triple | substitution => cases h

end Spelling

namespace Diagnostic

open Spelling

/-! ## Bodies -/

section

variable {e : CompileError} {err : Spelling.SyntaxError} (hroot : e.root = .bodySyntax err)
  (origin : String)

include hroot

theorem text_of_body : (ofCompileError origin e).text = err.body := by
  rw [ofCompileError, hroot]
  rfl

/-- An offending text that occurs is labelled where it does so first. -/
theorem label_of_firstAfter {before : List Char}
    (h : FirstAfter err.fault.offending.toList err.body.toList before) :
    (ofCompileError origin e).offset = utf8Length before ∧
      (ofCompileError origin e).length = err.fault.offending.utf8ByteSize := by
  obtain ⟨after, hafter⟩ := h.occurs
  have hsize := congrArg utf8Length hafter
  have hne := err.fault.offending_ne_empty
  rw [Ne, ← String.utf8ByteSize_eq_zero_iff] at hne
  simp only [Text.utf8Length_append, Text.utf8Length_toList] at hsize
  simp only [ofCompileError, hroot, spanOf, Span.clamp, Text.utf8Find?_of_firstAfter h,
    Option.getD_some]
  omega

/-- If the offending text does not occur, as many bytes are labelled at the front. -/
theorem label_of_not_isInfix (h : ¬err.fault.offending.toList <:+: err.body.toList) :
    (ofCompileError origin e).offset = 0 ∧ (ofCompileError origin e).length =
      min err.fault.offending.utf8ByteSize err.body.utf8ByteSize := by
  have hne := err.fault.offending_ne_empty
  rw [Ne, ← String.utf8ByteSize_eq_zero_iff] at hne
  simp only [ofCompileError, hroot, spanOf, Span.clamp, Text.utf8Find?_eq_none_iff.2 h,
    Option.getD_none]
  omega

end

/-! ## Places where reading stopped -/

/-- The label starts in front of the text that was left, which ends at the end of the body or at a
semicolon there. -/
def StartsAtStop (d : Diagnostic) (rest : String) : Prop :=
  ∃ before, d.text.toList = before ++ (rest.toList ++ Body.semicolon d.text.toList) ∧
    d.offset = utf8Length before

theorem startsAtStop_iff_offset {d : Diagnostic} {rest : String} {before : List Char}
    (h : d.text.toList = before ++ (rest.toList ++ Body.semicolon d.text.toList)) :
    d.StartsAtStop rest ↔ d.offset = utf8Length before := by
  refine ⟨?_, fun hoffset => ⟨before, h, hoffset⟩⟩
  rintro ⟨before', h', hoffset⟩
  rw [hoffset, List.append_cancel_right (h'.symm.trans h)]

section

variable {body rest : String} {fault : SyntaxFault} {before : List Char}

theorem ne_nil_of_left_empty (h : Body.tokens body.toList = .error fault)
    (hbody : body.toList = before ++ Body.semicolon body.toList) : before ≠ [] := by
  rintro rfl
  have hdropped : Body.dropSemicolon body.toList = [] := by
    have hsplit := Body.dropSemicolon_append_semicolon body.toList
    exact List.append_cancel_right (hsplit.trans hbody)
  rw [Body.tokens_of_content_eq_nil (by rw [Body.content, hdropped]; rfl)] at h
  cases h

variable {e : CompileError} (hroot : e.root = .bodySyntax ⟨body, fault⟩) (origin : String)

include hroot

/-- If text was left, the label stands at its first occurrence. -/
theorem offset_of_left (hleft : fault.left? = some rest) (hrest : rest ≠ "")
    (hbody : body.toList = before ++ (rest.toList ++ Body.semicolon body.toList)) :
    (ofCompileError origin e).offset ≤ utf8Length before ∧
      ((ofCompileError origin e).offset = utf8Length before ↔
        FirstAfter rest.toList body.toList before) := by
  have hoffending : fault.offending = rest := by
    rw [SyntaxFault.offending_of_left hleft, Spelling.restText, if_neg (by simpa using hrest)]
  have hstop : before ++ rest.toList <+: body.toList :=
    ⟨Body.semicolon body.toList, by rw [List.append_assoc]; exact hbody.symm⟩
  have hfront : before <+: body.toList := (List.prefix_append _ _).trans hstop
  obtain ⟨place, hplace⟩ := Text.exists_firstAfter_iff.2
    (⟨before, hstop⟩ : rest.toList <:+: body.toList)
  have hplaceFront : place <+: body.toList := (List.prefix_append _ _).trans hplace.occurs
  rw [(label_of_firstAfter hroot origin (hoffending ▸ hplace)).1, Text.firstAfter_iff hstop,
    Text.utf8Find?_of_firstAfter hplace, Option.some.injEq]
  refine ⟨?_, Iff.rfl⟩
  rcases Nat.lt_or_eq_of_le (hplace.first before hstop) with hlt | heq
  · exact Nat.le_of_lt (Text.utf8Length_lt_of_isPrefix hplaceFront hfront hlt)
  · rw [(List.prefix_of_prefix_length_le hplaceFront hfront (Nat.le_of_eq heq)).eq_of_length heq]

/-- If nothing was left, the label stands before the end. -/
theorem offset_lt_of_left_empty (h : Body.tokens body.toList = .error fault)
    (hleft : fault.left? = some "")
    (hbody : body.toList = before ++ Body.semicolon body.toList) :
    (ofCompileError origin e).offset < utf8Length before := by
  have hoffending : fault.offending = "end of input" := SyntaxFault.offending_of_left hleft
  have hfront : before <+: body.toList := ⟨_, hbody.symm⟩
  by_cases hoccurs : "end of input".toList <:+: body.toList
  · -- The words take more room than a semicolon, so they begin before the end.
    obtain ⟨place, hplace⟩ := Text.exists_firstAfter_iff.2 hoccurs
    rw [(label_of_firstAfter hroot origin (hoffending ▸ hplace)).1]
    refine Text.utf8Length_lt_of_isPrefix ((List.prefix_append _ _).trans hplace.occurs) hfront ?_
    have hlong := hplace.occurs.length_le
    have hlength := congrArg List.length hbody
    have hsemicolon := Body.length_semicolon_le body.toList
    have hwords : "end of input".toList.length = 12 := by decide
    simp only [List.length_append] at hlong hlength
    omega
  · rw [(label_of_not_isInfix hroot origin (hoffending ▸ hoccurs)).1]
    exact Nat.pos_of_ne_zero fun hzero =>
      ne_nil_of_left_empty h hbody (Text.utf8Length_eq_zero_iff.1 hzero)

end

/-- A body that is not read is refused for every rule with that fault.  Wherever the error arises,
its label is not behind the place where reading stopped; it starts there exactly if some text was
left and that text does not occur at an earlier place of the body. -/
theorem startsAtStop_iff {body : String} {fault : SyntaxFault} {rest : String}
    (h : Body.tokens body.toList = .error fault) (hleft : fault.left? = some rest) :
    (∀ context : Spelling.RuleContext, ¬context.radix < 2 →
      Spelling.Rule.compile body context = .error (.bodySyntax ⟨body, fault⟩)) ∧
    ∃ before, body.toList = before ++ (rest.toList ++ Body.semicolon body.toList) ∧
      ∀ e, CompileError.Arises e → ∀ err, e.root = .bodySyntax err → err.body = body →
        err.fault = fault ∧ ∀ origin, (ofCompileError origin e).text = body ∧
          (ofCompileError origin e).offset ≤ utf8Length before ∧
          ((ofCompileError origin e).StartsAtStop rest ↔
            rest ≠ "" ∧ FirstAfter rest.toList body.toList before) := by
  have hnodes {context : Spelling.RuleContext} : context.nodes body = .error fault :=
    Spelling.RuleContext.nodes_of_tokens_eq_error h
  refine ⟨fun context hradix => Spelling.Rule.compile_eq_error_iff.2
    (.inr ⟨hradix, fault, hnodes, rfl⟩), ?_⟩
  obtain ⟨before, hbody⟩ := Body.exists_front_of_left h hleft
  refine ⟨before, hbody, ?_⟩
  rintro e he ⟨_, fault'⟩ hroot rfl
  obtain rfl : fault' = fault := by
    have hcause := he.cause
    rw [hroot] at hcause
    cases hcause with
    | body hrefused => exact Except.error.inj (hrefused.symm.trans hnodes)
  refine ⟨rfl, fun origin => ?_⟩
  have htext := text_of_body hroot origin
  rw [startsAtStop_iff_offset (by rw [htext]; exact hbody)]
  by_cases hrest : rest = ""
  · subst hrest
    have hlt := offset_lt_of_left_empty hroot origin h hleft hbody
    exact ⟨htext, Nat.le_of_lt hlt, fun heq => absurd heq (Nat.ne_of_lt hlt),
      fun hne => absurd rfl hne.1⟩
  · obtain ⟨hle, hiff⟩ := offset_of_left hroot origin hleft hrest hbody
    exact ⟨htext, hle, hiff.trans (and_iff_right hrest).symm⟩

/-- Its second rule has a bracket that closes nothing, behind a letter of two bytes. -/
def brokenCount : List (String × String) := [("0", "none;"), ("1", "é >> ]!;")]

def brokenCountError : CompileError :=
  .inSpellingRule "count" "1" (.bodySyntax ⟨"é >> ]!;", .unexpected "]!"⟩)

theorem startsAtStop_brokenCount :
    Body.tokens "é >> ]!;".toList = .error (.unexpected "]!") ∧
      RuleSet.compile "count" {} brokenCount = .error brokenCountError ∧
      (ofCompileError "rule_sets.count" brokenCountError).offset = 6 ∧
      (ofCompileError "rule_sets.count" brokenCountError).StartsAtStop "]!" := by
  have htokens : Body.tokens "é >> ]!;".toList = .error (.unexpected "]!") := by cbv
  have hcompile : RuleSet.compile "count" {} brokenCount = .error brokenCountError := by cbv
  obtain ⟨-, before, hbody, hlabel⟩ := startsAtStop_iff htokens rfl
  obtain ⟨-, hlabel⟩ := hlabel brokenCountError (.ruleSet hcompile) _ rfl rfl
  obtain rfl : "é >> ".toList = before :=
    List.append_cancel_right (Eq.trans (by decide) hbody)
  refine ⟨htokens, hcompile, by decide +kernel, (hlabel _).2.2.2 ⟨by decide, ?_⟩⟩
  rw [Text.firstAfter_iff (by decide)]
  decide

def strayBracket : CompileError := .bodySyntax ⟨"a']b]", .unexpected "]"⟩

def openBracket : CompileError := .bodySyntax ⟨"[ten", .malformed ""⟩

/-- Reading stops at the second bracket, but the first one is labelled, which an apostrophe has made
text.  It stops at the end, but the front is labelled. -/
theorem not_startsAtStop_bracket :
    Rule.compile "a']b]" ⟨.number 0, 10, "main", false, ""⟩ = .error strayBracket ∧
      (ofCompileError "main" strayBracket).offset = 2 ∧
      ¬(ofCompileError "main" strayBracket).StartsAtStop "]" ∧
      Rule.compile "[ten" ⟨.number 0, 10, "main", false, ""⟩ = .error openBracket ∧
      (ofCompileError "main" openBracket).offset = 0 ∧
      ¬(ofCompileError "main" openBracket).StartsAtStop "" := by
  have hstray : (ofCompileError "main" strayBracket).offset = 2 := by decide +kernel
  have hopen : (ofCompileError "main" openBracket).offset = 0 := by decide +kernel
  have hstrayBody : "a']b]".toList =
      "a']b".toList ++ ("]".toList ++ Body.semicolon "a']b]".toList) := by
    decide
  have hopenBody : "[ten".toList =
      "[ten".toList ++ ("".toList ++ Body.semicolon "[ten".toList) := by
    decide
  refine ⟨by decide +kernel, hstray, ?_, by decide +kernel, hopen, ?_⟩
  · rw [startsAtStop_iff_offset hstrayBody, hstray]
    decide
  · rw [startsAtStop_iff_offset hopenBody, hopen]
    decide

end Diagnostic

end NumberRules
