import Mathlib
import NumberRules.Plural.Rules
import NumberRules.Proofs.Except
import NumberRules.Proofs.Plural.Used

/-! # What a rule set declares

A list of entries compiles exactly if every condition in it can be read, and the first one that
cannot be read is blamed.  The set then has a rule for each entry with a condition and a class for
each category, those of entries without a condition included.  So every answer is a declared class.
-/

namespace NumberRules.Plural
set_option autoImplicit false

namespace Rules

variable {entries : List (String × String)} {rs : Rules} {e : CompileError}

/-! ## Compiling -/

/-- The rule of an entry with a condition. -/
def readRule (entry : String × String) : Except CompileError Rule := do
  let c ← (Condition.compile entry.2).mapError (.inPluralRule entry.1)
  .ok ⟨entry.1, c⟩

/-- Compiling without a cache, in the monad of errors alone. -/
theorem compile_eq (entries : List (String × String)) :
    compile entries = (do
      let rules ← (entries.filter hasCondition).mapM readRule
      .ok ⟨rules, classesOf entries⟩) := by
  rw [compile, compileM, run_bind, run_mapM]
  have hentry : ∀ entry : String × String,
      (compileEntry (m := Id) (fun text => ExceptT.mk (Condition.compile text)) entry).run =
        readRule entry := by
    intro entry
    rw [compileEntry, run_bind, readRule]
    cases Condition.compile entry.2 <;> rfl
  simp only [hentry]
  rfl

/-- The rule has the category of an entry and the condition in its text. -/
def GivenBy (entry : String × String) (rule : Rule) : Prop :=
  rule.category = entry.1 ∧ Condition.compile entry.2 = .ok rule.condition

theorem readRule_eq_ok_iff {entry : String × String} {rule : Rule} :
    readRule entry = .ok rule ↔ GivenBy entry rule := by
  obtain ⟨category, c⟩ := rule
  simp only [readRule, bind_eq_ok_iff, mapError_eq_ok_iff, Except.ok.injEq, Rule.mk.injEq, GivenBy]
  constructor
  · rintro ⟨c', hc, rfl, rfl⟩
    exact ⟨rfl, hc⟩
  · rintro ⟨rfl, hc⟩
    exact ⟨c, hc, rfl, rfl⟩

theorem readRule_eq_error_iff {entry : String × String} :
    readRule entry = .error e ↔
      ∃ source, Condition.compile entry.2 = .error source ∧ e = .inPluralRule entry.1 source := by
  simp [readRule, bind_eq_error_iff, mapError_eq_error_iff]

theorem exists_readRule_iff {entry : String × String} :
    (∃ rule, readRule entry = .ok rule) ↔ ∃ c, Condition.compile entry.2 = .ok c := by
  simp only [← isOk_iff, readRule, isOk_map, isOk_mapError]

theorem compile_eq_ok_iff : compile entries = .ok rs ↔
    List.Forall₂ GivenBy (entries.filter hasCondition) rs.rules ∧
      rs.classes = classesOf entries := by
  rw [compile_eq, bind_eq_ok_iff]
  simp only [mapM_eq_ok_iff, readRule_eq_ok_iff, Except.ok.injEq]
  constructor
  · rintro ⟨rules, hrules, rfl⟩
    exact ⟨hrules, rfl⟩
  · rintro ⟨hrules, hclasses⟩
    exact ⟨rs.rules, hrules, by rw [← hclasses]⟩

/-- The entry has no condition, or one that can be read. -/
def Readable (entry : String × String) : Prop :=
  Condition.normalize entry.2 ≠ "" → ∃ c, Condition.compile entry.2 = .ok c

theorem hasCondition_iff {entry : String × String} :
    hasCondition entry = true ↔ Condition.normalize entry.2 ≠ "" := by
  simp [hasCondition]

theorem forall_readable_iff {l : List (String × String)} :
    (∀ entry ∈ l, Readable entry) ↔
      ∀ entry ∈ l.filter hasCondition, ∃ c, Condition.compile entry.2 = .ok c := by
  simp only [List.mem_filter, hasCondition_iff, and_imp]
  rfl

/-- The error is that of the first condition that cannot be read, with its category. -/
def BlamesFirst (entries : List (String × String)) (e : CompileError) : Prop :=
  ∃ before entry after source, entries = before ++ entry :: after ∧
    (∀ other ∈ before, Readable other) ∧ Condition.normalize entry.2 ≠ "" ∧
    Condition.compile entry.2 = .error source ∧ e = .inPluralRule entry.1 source

theorem compile_eq_error_iff : compile entries = .error e ↔ BlamesFirst entries e := by
  rw [compile_eq, bind_eq_error_iff]
  simp only [reduceCtorEq, and_false, exists_false, or_false, mapM_eq_error_iff,
    exists_readRule_iff, readRule_eq_error_iff]
  constructor
  · rintro ⟨front, entry, back, hfilter, hfront, source, hsource, rfl⟩
    obtain ⟨before, rest, rfl, rfl, hrest⟩ := List.filter_eq_append_iff.1 hfilter
    obtain ⟨skipped, after, rfl, hskipped, hcondition, -⟩ := List.filter_eq_cons_iff.1 hrest
    refine ⟨before ++ skipped, entry, after, source, by simp, ?_, hasCondition_iff.1 hcondition,
      hsource, rfl⟩
    rw [forall_readable_iff, List.filter_append, List.filter_eq_nil_iff.2 hskipped, List.append_nil]
    exact hfront
  · rintro ⟨before, entry, after, source, rfl, hbefore, hcondition, hsource, rfl⟩
    refine ⟨before.filter hasCondition, entry, after.filter hasCondition, ?_,
      forall_readable_iff.1 hbefore, source, hsource, rfl⟩
    rw [List.filter_append, List.filter_cons_of_pos (hasCondition_iff.2 hcondition)]

theorem exists_compile_iff :
    (∃ rs, compile entries = .ok rs) ↔ ∀ entry ∈ entries, Readable entry := by
  have hrules : ∀ rules, List.Forall₂ GivenBy (entries.filter hasCondition) rules →
      compile entries = .ok ⟨rules, classesOf entries⟩ :=
    fun rules h => compile_eq_ok_iff.2 ⟨h, rfl⟩
  have hentries : (∃ rules, List.Forall₂ GivenBy (entries.filter hasCondition) rules) ↔
      ∀ entry ∈ entries, Readable entry := by
    rw [exists_forall₂_iff, forall_readable_iff]
    exact forall₂_congr fun entry _ =>
      ⟨fun ⟨rule, hrule⟩ => ⟨_, hrule.2⟩, fun ⟨c, hc⟩ => ⟨⟨entry.1, c⟩, rfl, hc⟩⟩
  rw [← hentries]
  exact ⟨fun ⟨rs, h⟩ => ⟨rs.rules, (compile_eq_ok_iff.1 h).1⟩,
    fun ⟨rules, h⟩ => ⟨_, hrules rules h⟩⟩

theorem exists_error_iff : (∃ e, compile entries = .error e) ↔
    ∃ entry ∈ entries, Condition.normalize entry.2 ≠ "" ∧
      ∀ c, Condition.compile entry.2 ≠ .ok c := by
  have hnot : (∃ e, compile entries = .error e) ↔ ¬∃ rs, compile entries = .ok rs := by
    cases compile entries <;> simp
  rw [hnot, exists_compile_iff]
  simp [Readable]

/-! ## Classes -/

/-- Of a list without repetitions each member stands at its first place in the list before. -/
theorem pairwise_idxOf_eraseDups_filter (p : String → Bool) (l : List String) :
    (l.filter p).eraseDups.Pairwise fun a b => l.idxOf a < l.idxOf b := by
  induction l generalizing p with
  | nil => exact .nil
  | cons a l ih =>
    have hlater : ∀ q : String → Bool, (∀ b, q b = true → b ≠ a) →
        (l.filter q).eraseDups.Pairwise fun b c => (a :: l).idxOf b < (a :: l).idxOf c := by
      intro q hq
      refine (ih q).imp_of_mem fun {b c} hb hc hlt => ?_
      have hne : ∀ d ∈ (l.filter q).eraseDups, a ≠ d := fun d hd =>
        (hq d (List.mem_filter.1 (List.mem_eraseDups.1 hd)).2).symm
      rw [List.idxOf_cons_ne l (hne b hb), List.idxOf_cons_ne l (hne c hc)]
      exact Nat.succ_lt_succ hlt
    by_cases hp : p a = true
    · rw [List.filter_cons_of_pos hp, List.eraseDups_cons, List.filter_filter, List.pairwise_cons]
      refine ⟨fun b hb => ?_, hlater _ fun b hb => ?_⟩
      · have hne : a ≠ b := by
          rintro rfl
          simp [List.mem_eraseDups] at hb
        rw [List.idxOf_cons_self, List.idxOf_cons_ne l hne]
        exact Nat.succ_pos _
      · rintro rfl
        simp at hb
    · rw [List.filter_cons_of_neg hp]
      refine hlater p fun b hb => ?_
      rintro rfl
      exact hp hb

/-- The classes are the categories of the entries and `other`, each of them once: first the
categories, in the order in which they appear, and then `other`. -/
structure Declares (entries : List (String × String)) (classes : List String) : Prop where
  nodup : classes.Nodup
  mem_iff : ∀ category, category ∈ classes ↔
    category = other ∨ ∃ entry ∈ entries, entry.1 = category
  last : classes.getLast? = some other
  ordered : classes.dropLast.Pairwise fun a b =>
    (entries.map Prod.fst).idxOf a < (entries.map Prod.fst).idxOf b

theorem declares_classesOf (entries : List (String × String)) :
    Declares entries (classesOf entries) := by
  have hordered := pairwise_idxOf_eraseDups_filter (· ≠ other) (entries.map Prod.fst)
  have hmem : ∀ category, category ∈ ((entries.map Prod.fst).filter (· ≠ other)).eraseDups ↔
      category ≠ other ∧ ∃ entry ∈ entries, entry.1 = category := by
    intro category
    rw [List.mem_eraseDups, List.mem_filter, List.mem_map, and_comm, decide_eq_true_iff]
  constructor
  case nodup =>
    rw [classesOf, List.nodup_append]
    refine ⟨hordered.imp fun hlt heq => absurd (heq ▸ hlt) (Nat.lt_irrefl _),
      List.nodup_singleton other, fun a ha b hb => ?_⟩
    rw [List.mem_singleton.1 hb]
    exact ((hmem a).1 ha).1
  case mem_iff =>
    intro category
    rw [classesOf, List.mem_append, hmem, List.mem_singleton]
    by_cases hother : category = other <;> simp [hother]
  case last => rw [classesOf, List.getLast?_concat]
  case ordered =>
    rw [classesOf, List.dropLast_concat]
    exact hordered

/-! ## Answers -/

/-- The rules and operands of a set that compiled, beside its classes. -/
structure CompiledFrom (entries : List (String × String)) (rs : Rules) : Prop where
  rules : List.Forall₂ GivenBy (entries.filter (Condition.normalize ·.2 ≠ "")) rs.rules
  used : ∀ o, rs.used.contains o = true ↔
    ∃ rule ∈ rs.rules, rule.condition.operands.contains o = true
  classes : Declares entries rs.classes

theorem compiledFrom_of_compile (h : compile entries = .ok rs) : CompiledFrom entries rs := by
  obtain ⟨hrules, hclasses⟩ := compile_eq_ok_iff.1 h
  refine ⟨?_, fun o => contains_used_iff, hclasses ▸ declares_classesOf entries⟩
  rwa [List.filter_congr fun entry _ => Bool.eq_iff_iff.2 (hasCondition_iff.trans
    decide_eq_true_iff.symm)] at hrules

namespace CompiledFrom

theorem category_mem (h : CompiledFrom entries rs) {rule : Rule} (hrule : rule ∈ rs.rules) :
    rule.category ∈ rs.classes := by
  obtain ⟨entry, hentry, hgiven⟩ := exists_of_forall₂ h.rules hrule
  exact (h.classes.mem_iff _).2 (.inr ⟨entry, List.mem_of_mem_filter hentry, hgiven.1.symm⟩)

theorem selectOperands_mem (h : CompiledFrom entries rs) (os : Operands) :
    rs.selectOperands os ∈ rs.classes := by
  unfold selectOperands
  split
  · rename_i rule hfound
    exact h.category_mem (List.mem_of_find?_eq_some hfound)
  · exact (h.classes.mem_iff other).2 (.inl rfl)

end CompiledFrom

theorem select_cases (rs : Rules) (input : Input) :
    (∃ os, rs.select input = .ok (rs.selectOperands os)) ∨ rs.select input = .ok other ∨
      ∃ text, input.numeral = some text ∧
        Operands.ofText text .full = .error (.invalidNumeral text) ∧
        rs.select input = .error (.invalidNumeral text) := by
  cases htext : input.numeral with
  | none =>
    refine .inr (.inl ?_)
    rw [select, operandsFor, htext]
    rfl
  | some text =>
    rw [select_of_numeral htext]
    rcases Operands.ofText_cases text with hbad | ⟨x, hx⟩
    · exact .inr (.inr ⟨text, rfl, hbad _, by rw [hbad]; rfl⟩)
    · exact .inl ⟨_, by rw [hx]; rfl⟩

/-- Compiling fails exactly if a condition cannot be read, with the first such entry to blame.  A
set that compiles has the entries with conditions as its rules, uses what these conditions read, and
declares all categories once, `other` at the end.  All its answers are declared; only the text of a
number can prevent one. -/
theorem compile_answers_declared (entries : List (String × String)) :
    ((∃ e, compile entries = .error e) ↔
      ∃ entry ∈ entries, Condition.normalize entry.2 ≠ "" ∧
        ∀ c, Condition.compile entry.2 ≠ .ok c) ∧
    (∀ e, compile entries = .error e ↔ BlamesFirst entries e) ∧
    ∀ rs, compile entries = .ok rs → CompiledFrom entries rs ∧
      (∀ os, rs.selectOperands os ∈ rs.classes) ∧
      ∀ input, (∃ category ∈ rs.classes, rs.select input = .ok category) ∨
        ∃ text, input.numeral = some text ∧
          Operands.ofText text .full = .error (.invalidNumeral text) ∧
          rs.select input = .error (.invalidNumeral text) := by
  refine ⟨exists_error_iff, fun e => compile_eq_error_iff, fun rs h => ?_⟩
  have hcompiled := compiledFrom_of_compile h
  refine ⟨hcompiled, hcompiled.selectOperands_mem, fun input => ?_⟩
  rcases rs.select_cases input with ⟨os, hos⟩ | hother | hbad
  · exact .inl ⟨_, hcompiled.selectOperands_mem os, hos⟩
  · exact .inl ⟨other, (hcompiled.classes.mem_iff other).2 (.inl rfl), hother⟩
  · exact .inr hbad

/-- Entries with and without conditions; two categories, `other` among them, stand there twice. -/
def countEntries : List (String × String) :=
  [("other", "@integer 0"), ("one", "n is 1 @integer 1"), ("many", " "), ("few", "v = 2..4"),
    ("one", "n = 21"), ("other", "n = 0")]

def countRules : Rules where
  rules := [⟨"one", .is false (.operand .n) (.literal 1)⟩,
    ⟨"few", .member .whole false (.operand .v) [.range 2 4]⟩,
    ⟨"one", .member .whole false (.operand .n) [.value 21]⟩,
    ⟨"other", .member .whole false (.operand .n) [.value 0]⟩]
  classes := ["one", "many", "few", other]

theorem compile_countEntries : compile countEntries = .ok countRules := by
  have hcompile : (compile countEntries).toOption = some countRules := by decide +kernel
  exact toOption_eq_some_iff.1 hcompile

/-- No rule selects the category `many`, but it is declared.  Of two conditions that break off the
first one is blamed. -/
theorem compile_countEntries_declares :
    compile countEntries = .ok countRules ∧ Declares countEntries ["one", "many", "few", "other"] ∧
      (∀ os, countRules.selectOperands os ∈ ["one", "many", "few", "other"]) ∧
      compile (countEntries ++ [("few", "n ="), ("many", "v is")]) =
        .error (.inPluralRule "few" (.conditionSyntax ⟨"n =", .malformed, ""⟩)) := by
  obtain ⟨-, -, hset⟩ := compile_answers_declared countEntries
  obtain ⟨-, herror, -⟩ :=
    compile_answers_declared (countEntries ++ [("few", "n ="), ("many", "v is")])
  obtain ⟨hcompiled, hanswers, -⟩ := hset countRules compile_countEntries
  refine ⟨compile_countEntries, hcompiled.classes, hanswers, (herror _).2 ?_⟩
  have hrefused : Condition.compile "n =" = .error (.conditionSyntax ⟨"n =", .malformed, ""⟩) := by
    decide +kernel
  exact ⟨countEntries, _, _, _, rfl, exists_compile_iff.1 ⟨_, compile_countEntries⟩,
    by decide +kernel, hrefused, rfl⟩

end Rules

end NumberRules.Plural
