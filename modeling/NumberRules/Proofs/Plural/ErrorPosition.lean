import Mathlib
import NumberRules.Diagnostic
import NumberRules.Proofs.Plural.Completion
import NumberRules.Proofs.Text.Bytes

/-! # Where syntax errors of conditions point

The text in front of an error is what the reader has taken, for tokens are cut alike whether the
text ends after them or not.  So that text is a condition itself if the error is about what follows
it, and can be completed to a condition if the error is about what is missing.  The label of the
diagnostic is the first word of the text that was left.
-/

namespace NumberRules.Plural
set_option autoImplicit false

/-! ## Joining texts that are cut -/

theorem head?_append {p : Char → Prop} {as bs : List Char} (ha : ∀ c ∈ as.head?, p c)
    (hb : ∀ c ∈ bs.head?, p c) : ∀ c ∈ (as ++ bs).head?, p c := by
  cases as with
  | nil => exact hb
  | cons a as => exact ha

/-- If a text without spaces is followed by one that ends with a space, so do both together. -/
theorem exists_of_append_space {w cs ds : List Char} (hw : ' ' ∉ w) (h : ds ++ [' '] = w ++ cs) :
    ∃ mid, ds = w ++ mid ∧ cs = mid ++ [' '] := by
  rcases List.append_eq_append_iff.1 h with ⟨mid, rfl, hmid⟩ | ⟨mid, rfl, hmid⟩
  · cases mid with
    | nil => exact ⟨[], by simp, hmid.symm⟩
    | cons c mid =>
      obtain ⟨rfl, -⟩ := List.cons.inj hmid
      simp at hw
  · exact ⟨mid, rfl, hmid⟩

namespace Splits

theorem append {as bs : List Char} {ts us : List Token} (ha : Splits as ts)
    (hd : Token.Delimited bs) (hb : Splits bs us) : Splits (as ++ bs) (ts ++ us) := by
  induction ha with
  | nil => exact hb
  | space _ ih => exact .space ih
  | number hne hds hstop _ ih =>
    rw [List.append_assoc, List.cons_append]
    exact .number hne hds (head?_append hstop hd.1) ih
  | word hw hend _ ih =>
    rw [List.append_assoc, List.cons_append]
    exact .word hw (head?_append hend hd.2) ih
  | symbol hs _ ih =>
    rw [List.append_assoc, List.cons_append]
    exact .symbol hs ih

/-- A space at the end of a text is not part of its tokens. -/
theorem of_append_space {cs : List Char} {ts : List Token} (h : Splits (cs ++ [' ']) ts) :
    Splits cs ts := by
  generalize hds : cs ++ [' '] = ds at h
  induction h generalizing cs with
  | nil => simp at hds
  | @space ds ts h ih =>
    cases cs with
    | nil =>
      obtain rfl : ds = [] := by simpa using hds.symm
      exact h
    | cons c cs =>
      obtain ⟨rfl, hrest⟩ := List.cons.inj hds
      exact .space (ih hrest)
  | number hne hdigits hstop _ ih =>
    have hspace : ' ' ∉ _ := fun hmem => absurd (hdigits ' ' hmem) (by decide)
    obtain ⟨mid, rfl, rfl⟩ := exists_of_append_space hspace hds
    exact .number hne hdigits (head?_front hstop) (ih rfl)
  | word hw hend _ ih =>
    obtain ⟨mid, rfl, rfl⟩ := exists_of_append_space hw.not_mem_space hds
    exact .word hw (head?_front hend) (ih rfl)
  | symbol hs _ ih =>
    obtain ⟨mid, rfl, rfl⟩ := exists_of_append_space hs.not_mem_space hds
    exact .symbol hs (ih rfl)

end Splits

namespace Condition

/-! ## Fronts of normal texts -/

theorem tidy_normalize {text : String} (h : normalize text ≠ "") :
    Text.Tidy (normalize text).toList := by
  rw [normalize, String.toList_ofList]
  refine Text.tidy_collapse fun hnil => h ?_
  rw [normalize, hnil]

theorem ne_at_of_mem_normalize {text : String} {c : Char} (h : c ∈ (normalize text).toList) :
    c ≠ '@' := by
  rw [normalize, String.toList_ofList] at h
  rcases Text.mem_of_mem_collapse h with rfl | h
  · decide
  · simpa using List.mem_takeWhile_imp h

variable {text : String} {front back : List Char} {ts : List Token}

theorem ne_at_of_mem_front (htext : (normalize text).toList = front ++ back) :
    ∀ c ∈ front, c ≠ '@' :=
  fun _ hc => ne_at_of_mem_normalize (htext ▸ List.mem_append_left back hc)

/-- The front of a normal text is empty, or normal but for a space at its end. -/
theorem exists_normal_front (hne : normalize text ≠ "")
    (htext : (normalize text).toList = front ++ back) (h : Splits front ts) :
    (front = [] ∧ ts = []) ∨ ∃ p, Text.Tidy p ∧ Splits p ts ∧ (∀ c ∈ p, c ≠ '@') ∧
      (front = p ∨ front = p ++ [' ']) := by
  have hat := ne_at_of_mem_front htext
  rcases (tidy_normalize hne).front htext with rfl | ⟨p, hp, rfl | rfl⟩
  · exact .inl ⟨rfl, by simpa [Token.lex] using (Token.tokens_lex_of_splits h).symm⟩
  · exact .inr ⟨front, hp, h, hat, .inl rfl⟩
  · exact .inr ⟨p, hp, h.of_append_space, fun c hc => hat c (List.mem_append_left _ hc), .inr rfl⟩

/-- If the tokens of a front are a condition, its text is one. -/
theorem denotes_front (hne : normalize text ≠ "")
    (htext : (normalize text).toList = front ++ back) (h : Splits front ts) {c : Condition}
    (hd : Derives .condition ts c) : Denotes (String.ofList front) c := by
  refine denotes_iff.2 ⟨ts, ?_, hd⟩
  rcases exists_normal_front hne htext h with ⟨-, rfl⟩ | ⟨p, hp, hsplits, hat, hfront⟩
  · exact absurd rfl hd.ne_nil
  · have hnormal : normalize (String.ofList front) = String.ofList p := by
      rcases hfront with rfl | rfl
      · exact Token.normalize_of_tidy hp hat
      · rw [Token.normalize_ofList (ne_at_of_mem_front htext), Text.collapse_append_space hp]
    rw [hnormal, String.toList_ofList]
    exact hsplits

/-- If the tokens of a front begin a condition, so does its text. -/
theorem exists_denotes_append (hne : normalize text ≠ "")
    (htext : (normalize text).toList = front ++ back) (h : Splits front ts)
    (hc : Completable (Derives .condition) ts) :
    ∃ more c, Denotes (String.ofList front ++ more) c := by
  obtain ⟨missing, c, hmissing, hd⟩ := hc
  have hknown : AllKnown missing := (allKnown_append.1 hd.allKnown).2
  have hrender := Token.splits_render hknown
  rcases exists_normal_front hne htext h with ⟨rfl, rfl⟩ | ⟨p, hp, hsplits, hat, hfront⟩
  · refine ⟨String.ofList (Token.render missing), c, denotes_iff.2 ⟨missing, ?_, hd⟩⟩
    rw [← String.ofList_append, List.nil_append, Token.normalize_render hmissing hknown,
      String.toList_ofList]
    exact hrender
  · -- The text that is missing stands after one space, which the front may already have.
    have hwhole : Denotes (String.ofList (p ++ ' ' :: Token.render missing)) c := by
      have htidy := hp.join (Token.tidy_render hmissing hknown)
      refine denotes_iff.2 ⟨_, ?_, hd⟩
      rw [Token.normalize_of_tidy htidy, String.toList_ofList]
      · exact hsplits.append (Token.delimited_cons _ rfl rfl) (.space hrender)
      · intro d hmem
        rcases List.mem_append.1 hmem with hmem | hmem
        · exact hat d hmem
        · rcases List.mem_cons.1 hmem with rfl | hmem
          · decide
          · exact Token.ne_at_of_mem_render hknown d hmem
    rcases hfront with rfl | rfl
    · exact ⟨String.ofList (' ' :: Token.render missing), c, by rwa [← String.ofList_append]⟩
    · refine ⟨String.ofList (Token.render missing), c, ?_⟩
      rwa [← String.ofList_append, List.append_assoc, List.singleton_append]

/-! ## Places of errors -/

theorem allKnown_of_completable (h : Completable (Derives .condition) ts) : AllKnown ts := by
  obtain ⟨more, c, -, hd⟩ := h
  exact (allKnown_append.1 hd.allKnown).1

/-- What the reader has taken when it reports an error: a condition, or the beginning of one. -/
def Taken (ts : List Token) : SyntaxFault → Prop
  | .leftover => ∃ c, Derives .condition ts c
  | .malformed => Completable (Derives .condition) ts
  | .empty => False

theorem Taken.allKnown {fault : SyntaxFault} (h : Taken ts fault) : AllKnown ts := by
  cases fault with
  | leftover => exact h.elim fun _ hd => hd.allKnown
  | malformed => exact allKnown_of_completable h
  | empty => exact h.elim

theorem exists_taken_of_parse {e : SyntaxError} (hne : normalize text ≠ "")
    (h : parse text = .error e) :
    ∃ used rest, Token.lex (normalize text).toList = used ++ rest ∧
      e.rule = normalize text ∧ e.rest = textFrom rest ∧ Taken (tokensOf used) e.fault := by
  have hempty : ¬(normalize text).isEmpty = true := by simpa using hne
  simp only [parse, if_neg hempty] at h
  split at h
  · cases h
  · rename_i c rest _ hread
    cases h
    obtain ⟨used, hused, hd⟩ := read_sound hread
    exact ⟨used, rest, hused, rfl, rfl, c, hd⟩
  · rename_i rest hread
    cases h
    obtain ⟨used, hused, hc⟩ := read_viable hread
    exact ⟨used, rest, hused, rfl, rfl, hc⟩

theorem ne_space_of_mem_lex {cs : List Char} {t : Located} (h : t ∈ Token.lex cs) :
    ∀ c ∈ t.rest.head?, c ≠ ' ' := by
  fun_induction Token.lex cs with
  | case1 => cases h
  | case2 cs ih => exact ih h
  | case3 c cs hc ih =>
    rcases List.mem_cons.1 h with rfl | h
    · simpa using hc
    · exact ih h

/-- The text of a condition from a token on does not begin with a blank. -/
theorem isBlank_head?_textFrom (hne : normalize text ≠ "") {used rest : List Located}
    (hlex : Token.lex (normalize text).toList = used ++ rest)
    (htext : (normalize text).toList = front ++ (textFrom rest).toList) :
    ∀ c ∈ (textFrom rest).toList.head?, Text.isBlank c = false := by
  intro c hc
  by_contra hblank
  have hmem : c ∈ (normalize text).toList :=
    htext ▸ List.mem_append_right front (List.mem_of_mem_head? hc)
  have hspace := (tidy_normalize hne).eq_space hmem (by simpa using hblank)
  cases rest with
  | nil => simp [textFrom] at hc
  | cons t rest =>
    have ht : t ∈ Token.lex (normalize text).toList := by simp [hlex]
    exact ne_space_of_mem_lex ht c (by simpa [textFrom] using hc) hspace

/-! ## Labels -/

/-- The first word of a text that does not begin with a blank; empty if the text is. -/
def FirstWord (word text : String) : Prop :=
  Text.Solid word.toList ∧ (word = "" ↔ text = "") ∧
    ∃ tail, text = word ++ tail ∧ ∀ b ∈ tail.toList.head?, Text.isBlank b = true

theorem exists_firstWord {after : String}
    (h : ∀ c ∈ after.toList.head?, Text.isBlank c = false) : ∃ word, FirstWord word after := by
  have hcut : String.ofList (after.toList.takeWhile (!Text.isBlank ·)) ++
      String.ofList (after.toList.dropWhile (!Text.isBlank ·)) = after := by
    rw [← String.ofList_append, List.takeWhile_append_dropWhile, String.ofList_toList]
  refine ⟨_, ?_, ?_, _, hcut.symm, ?_⟩
  · intro c hc
    rw [String.toList_ofList] at hc
    simpa using List.mem_takeWhile_imp hc
  · cases hcs : after.toList with
    | nil => simp_all
    | cons c cs =>
      have hc : Text.isBlank c = false := h c (by simp [hcs])
      have hne : after ≠ "" := by
        rintro rfl
        simp at hcs
      simp [hc, hne]
  · intro b hb
    rw [String.toList_ofList] at hb
    have hstop := List.head?_dropWhile_not (!Text.isBlank ·) after.toList
    rw [hb] at hstop
    simpa using hstop

theorem firstWordLength_eq {word after : String} (h : FirstWord word after) (hne : after ≠ "") :
    Diagnostic.firstWordLength after = word.utf8ByteSize := by
  obtain ⟨hsolid, hempty, tail, rfl, htail⟩ := h
  have hword : word.toList ≠ [] := by
    rw [Ne, String.toList_eq_nil_iff]
    exact fun hnil => hne (hempty.1 hnil)
  rw [Diagnostic.firstWordLength, String.toList_append, Text.words_append hword hsolid htail]
  dsimp only
  exact Text.utf8Length_toList word

theorem compile_of_denotes {c : Condition} (h : Denotes text c) : compile text = .ok c := by
  rw [compile, parse_of_denotes h]
  rfl

section Places
variable {e : SyntaxError} {before after : String}

theorem column_eq (hrule : e.rule = before ++ after) (hrest : e.rest = after) :
    e.column = before.utf8ByteSize + 1 := by
  rw [SyntaxError.column, hrule, hrest, String.utf8ByteSize_append, Nat.add_sub_cancel]

theorem offending_eq (hrule : e.rule = before ++ after) (hrest : e.rest = after) :
    e.offending =
      if e.column - 1 = e.rule.utf8ByteSize then "end of input" else after := by
  have hend : e.column - 1 = e.rule.utf8ByteSize ↔ after = "" := by
    rw [column_eq hrule hrest, hrule, String.utf8ByteSize_append, Nat.add_sub_cancel,
      ← String.utf8ByteSize_eq_zero_iff]
    omega
  rw [SyntaxError.offending, hrest]
  simp only [hend, String.isEmpty_iff]

/-- Every diagnostic of the error labels the first word of the text from its place on. -/
theorem label_eq (hrule : e.rule = before ++ after) (hrest : e.rest = after) {word : String}
    (hword : FirstWord word after) {error : CompileError} (hroot : error.root = .conditionSyntax e)
    (origin : String) :
    (Diagnostic.ofCompileError origin error).text = e.rule ∧
      (Diagnostic.ofCompileError origin error).offset = before.utf8ByteSize ∧
      (Diagnostic.ofCompileError origin error).length = word.utf8ByteSize := by
  have hcolumn := column_eq hrule hrest
  have hsize : e.rule.utf8ByteSize = before.utf8ByteSize + after.utf8ByteSize := by
    rw [hrule, String.utf8ByteSize_append]
  have hoffset : min (e.column - 1) e.rule.utf8ByteSize = before.utf8ByteSize := by omega
  simp only [Diagnostic.ofCompileError, hroot, Diagnostic.spanOf, Diagnostic.Span.clamp, hoffset,
    true_and]
  by_cases hafter : after = ""
  · -- At the end the label would be a word of the message; there is no room for it.
    have hempty : word = "" := hword.2.1.2 hafter
    rw [hsize, hafter, hempty]
    simp
  · obtain ⟨-, -, tail, htail, -⟩ := id hword
    have hfits : word.utf8ByteSize ≤ after.utf8ByteSize := by
      rw [htail, String.utf8ByteSize_append]
      exact Nat.le_add_right _ _
    have hoffending : e.offending = after := by
      rw [SyntaxError.offending, hrest, if_neg (by simpa using hafter)]
    rw [hoffending, firstWordLength_eq hword hafter, hsize]
    omega

end Places

/-- A syntax error stands at a character of the condition, or at its end.  What precedes it is a
condition if the error is about further text, and can be completed to one if it is about missing
text.  The label is the first word from there on. -/
theorem compile_error_at_fault {error : CompileError} (hne : normalize text ≠ "")
    (h : compile text = .error error) :
    ∃ (e : SyntaxError) (before after : String), error = .conditionSyntax e ∧
      e.rule = normalize text ∧ normalize text = before ++ after ∧
      e.column = before.utf8ByteSize + 1 ∧
      String.Pos.Raw.IsValid (normalize text) ⟨e.column - 1⟩ ∧
      e.offending =
        (if e.column - 1 = (normalize text).utf8ByteSize then "end of input" else after) ∧
      (e.fault.message = "unexpected input" ∧ (∃ c, compile before = .ok c) ∨
        e.fault.message = "malformed condition" ∧ ∃ more c, compile (before ++ more) = .ok c) ∧
      ∃ word, FirstWord word after ∧ ∀ origin wrapped, wrapped.root = error →
        (Diagnostic.ofCompileError origin wrapped).text = normalize text ∧
          (Diagnostic.ofCompileError origin wrapped).offset = e.column - 1 ∧
          (Diagnostic.ofCompileError origin wrapped).length = word.utf8ByteSize := by
  cases hparse : parse text with
  | ok c => simp [compile, hparse, Except.mapError] at h
  | error e =>
    obtain rfl : .conditionSyntax e = error := by simpa [compile, hparse, Except.mapError] using h
    obtain ⟨used, rest, hlex, hrule, hrest, htaken⟩ := exists_taken_of_parse hne hparse
    obtain ⟨front, hfront, hsplits⟩ := Token.exists_splits_of_lex hlex htaken.allKnown
    have hsplit : normalize text = String.ofList front ++ textFrom rest := by
      rw [← String.toList_inj, String.toList_append, String.toList_ofList, hfront]
    have hcolumn := column_eq (hrule.trans hsplit) hrest
    obtain ⟨word, hword⟩ := exists_firstWord (isBlank_head?_textFrom hne hlex hfront)
    refine ⟨e, String.ofList front, textFrom rest, rfl, hrule, hsplit, hcolumn, ?_, ?_, ?_, word,
      hword, ?_⟩
    · rw [String.Pos.Raw.isValid_iff_exists_append]
      exact ⟨_, _, hsplit, by rw [hcolumn]; rfl⟩
    · rw [offending_eq (hrule.trans hsplit) hrest, hrule]
    · cases hfault : e.fault with
      | leftover =>
        rw [hfault] at htaken
        obtain ⟨c, hd⟩ := htaken
        exact .inl ⟨rfl, c, compile_of_denotes (denotes_front hne hfront hsplits hd)⟩
      | malformed =>
        rw [hfault] at htaken
        obtain ⟨more, c, hdenotes⟩ := exists_denotes_append hne hfront hsplits htaken
        exact .inr ⟨rfl, more, c, compile_of_denotes hdenotes⟩
      | empty =>
        rw [hfault] at htaken
        exact htaken.elim
    · intro origin wrapped hroot
      obtain ⟨htext, hoffset, hlength⟩ :=
        label_eq (hrule.trans hsplit) hrest hword hroot origin
      exact ⟨htext.trans hrule, hoffset.trans (by omega), hlength⟩

/-- A word that is no operand, after the word `or`. -/
def oddOperand : SyntaxError := ⟨"n = 1 or ä = 2", .malformed, "ä = 2"⟩

/-- A comma that no number follows. -/
def oddComma : SyntaxError := ⟨"n = 1, 2, v", .leftover, ", v"⟩

theorem compile_oddOperand :
    compile "n = 1  or ä = 2 @integer 1" = .error (.conditionSyntax oddOperand) := by
  decide +kernel

theorem compile_oddComma : compile "n = 1, 2, v" = .error (.conditionSyntax oddComma) := by
  decide +kernel

/-- The umlaut takes two bytes of the label.  What precedes it lacks a relation, what precedes the
last comma lacks nothing. -/
theorem compile_error_oddOperand_oddComma :
    normalize "n = 1  or ä = 2 @integer 1" ≠ "" ∧
      compile "n = 1  or ä = 2 @integer 1" = .error (.conditionSyntax oddOperand) ∧
      (∃ more c, compile ("n = 1 or " ++ more) = .ok c) ∧
      (∀ origin, (Diagnostic.ofCompileError origin
        (.inPluralRule "odd" (.conditionSyntax oddOperand))).offset = 9) ∧
      normalize "n = 1, 2, v" ≠ "" ∧
      compile "n = 1, 2, v" = .error (.conditionSyntax oddComma) ∧
      ∃ c, compile "n = 1, 2" = .ok c := by
  have hoperand : normalize "n = 1  or ä = 2 @integer 1" = "n = 1 or " ++ "ä = 2" := by
    decide +kernel
  have hcomma : normalize "n = 1, 2, v" = "n = 1, 2" ++ ", v" := by
    decide +kernel
  have hne : normalize "n = 1  or ä = 2 @integer 1" ≠ "" := by
    rw [hoperand]
    decide
  have hne' : normalize "n = 1, 2, v" ≠ "" := by
    rw [hcomma]
    decide
  obtain ⟨e, before, after, herror, -, hsplit, -, -, hoffending, hfault, word, -, hlabel⟩ :=
    compile_error_at_fault hne compile_oddOperand
  obtain ⟨e', before', after', herror', -, hsplit', -, -, hoffending', hfault', -⟩ :=
    compile_error_at_fault hne' compile_oddComma
  cases herror
  cases herror'
  rw [hoperand] at hsplit hoffending
  rw [hcomma] at hsplit' hoffending'
  obtain rfl : "ä = 2" = after := hoffending
  obtain rfl : ", v" = after' := hoffending'
  obtain rfl : "n = 1 or " = before := (String.append_left_inj _).1 hsplit
  obtain rfl : "n = 1, 2" = before' := (String.append_left_inj _).1 hsplit'
  refine ⟨hne, compile_oddOperand, ?_, fun origin => (hlabel origin _ rfl).2.1, hne',
    compile_oddComma, ?_⟩
  · exact (hfault.resolve_left fun h => absurd h.1 (by decide)).2
  · exact (hfault'.resolve_right fun h => absurd h.1 (by decide)).2

end Condition

end NumberRules.Plural
