import Mathlib
import NumberRules.Cache
import NumberRules.Proofs.Plural.Classes
import NumberRules.Proofs.Spelling.RuleSets

/-! # Compiling through a cache

Requests to one cache are answered as if there were none, whatever was requested before.  What the
cache holds after them are the sources, condition texts and bodies with their contexts, that have
been compiled since it was cleared.  A rule set compiles its sources in order up to the first one
that fails, and the ones in front of that stay.
-/

namespace NumberRules.Cache
set_option autoImplicit false

/-! ## Requests -/

/-- What is compiled as one piece, and what a cache knows it by. -/
inductive Source where
  | condition (text : String)
  | rule (body : String) (context : Spelling.RuleContext)
  deriving DecidableEq

def Source.compiles : Source → Bool
  | condition text => (Plural.Condition.compile text).isOk
  | rule body context => (Spelling.Rule.compile body context).isOk

inductive Request where
  | condition (text : String)
  | rule (body : String) (context : Spelling.RuleContext)
  | pluralRules (entries : List (String × String))
  | ruleSet (name : String) (options : Spelling.RuleSet.Options) (pairs : List (String × String))
  | clear

inductive Answer where
  | condition (c : Plural.Condition)
  | rule (r : Spelling.Rule)
  | pluralRules (rs : Plural.Rules)
  | ruleSet (set : Spelling.RuleSet)
  | cleared

namespace Request

/-- The answer of a cache. -/
def run : Request → Cached Answer
  | condition text => do return .condition (← Cache.condition text)
  | rule body context => do return .rule (← Cache.rule body context)
  | pluralRules entries => do return .pluralRules (← Cache.pluralRules entries)
  | ruleSet name options pairs => do return .ruleSet (← Cache.ruleSet name options pairs)
  | clear => do
    Cache.clear
    return .cleared

/-- The answer without a cache. -/
def compile : Request → Except CompileError Answer
  | condition text => do return .condition (← Plural.Condition.compile text)
  | rule body context => do return .rule (← Spelling.Rule.compile body context)
  | pluralRules entries => do return .pluralRules (← Plural.Rules.compile entries)
  | ruleSet name options pairs => do
    return .ruleSet (← Spelling.RuleSet.compile name options pairs)
  | clear => return .cleared

def isClear : Request → Bool
  | clear => true
  | _ => false

/-- The sources of a request in the order in which they are compiled. -/
def sources : Request → List Source
  | condition text => [.condition text]
  | rule body context => [.rule body context]
  | pluralRules entries =>
    (entries.filter Plural.Rules.hasCondition).map fun entry => .condition entry.2
  | ruleSet name options pairs =>
    match Spelling.RuleSet.entriesFrom (Spelling.dropPercents name) [] pairs with
    | .ok entries => entries.map fun entry => .rule entry.body
        (entry.context (Spelling.dropPercents name) options
          (Spelling.RuleSet.isFractionSet entries))
    | .error _ => []
  | clear => []

/-- The sources that a request compiles successfully: those before the first failure. -/
def compiled (request : Request) : List Source := request.sources.takeWhile Source.compiles

end Request

/-- The cache after a list of requests, new before them. -/
def after (requests : List Request) : Cache :=
  requests.foldl (fun cache request => (request.run.run.run cache).2) .empty

/-- What a list of requests compiled successfully since the last one that cleared the cache. -/
def compiledSinceClear (requests : List Request) : List Source :=
  (requests.rtakeWhile fun request => !request.isClear).flatMap Request.compiled

/-! ## Tables -/

section

variable {κ α : Type} [BEq κ] [Hashable κ] {compile : κ → Except CompileError α}
  {keys : κ → Prop} {table : Std.HashMap κ α}

/-- The table gives what compiling gives, for keys of the given kind that compile. -/
def Holds (compile : κ → Except CompileError α) (keys : κ → Prop) (table : Std.HashMap κ α) :
    Prop :=
  ∀ key a, table[key]? = some a ↔ keys key ∧ compile key = .ok a

theorem Holds.congr {keys' : κ → Prop} (h : Holds compile keys table)
    (hkeys : ∀ key, keys' key ↔ keys key) : Holds compile keys' table := by
  intro key a
  rw [hkeys]
  exact h key a

variable [LawfulBEq κ] [LawfulHashable κ]

theorem Holds.insert (h : Holds compile keys table) {key : κ} {a : α}
    (ha : compile key = .ok a) :
    Holds compile (fun other => keys other ∨ other = key) (table.insert key a) := by
  intro other b
  rw [Std.HashMap.getElem?_insert]
  by_cases heq : other = key
  · subst heq
    rw [if_pos (beq_self_eq_true other), ha]
    simp
  · have hne : (key == other) = false := beq_false_of_ne (Ne.symm heq)
    rw [hne]
    simp [h other b, heq]

theorem Holds.mem_keys (h : Holds compile keys table) {key : κ} :
    key ∈ table.keys ↔ keys key ∧ ∃ a, compile key = .ok a := by
  rw [Std.HashMap.mem_keys, Std.HashMap.mem_iff_isSome_getElem?, Option.isSome_iff_exists]
  constructor
  · rintro ⟨a, ha⟩
    exact ⟨((h key a).1 ha).1, a, ((h key a).1 ha).2⟩
  · rintro ⟨hkey, a, ha⟩
    exact ⟨a, (h key a).2 ⟨hkey, ha⟩⟩

end

/-! ## What a cache remembers -/

/-- The cache holds the results for the given sources, all of which compile, and nothing else. -/
structure Remembers (cache : Cache) (known : List Source) : Prop where
  compiles : ∀ source ∈ known, source.compiles = true
  conditions : Holds Plural.Condition.compile (fun text => .condition text ∈ known)
    cache.conditions
  rules : Holds (fun key => Spelling.Rule.compile key.1 key.2)
    (fun key => .rule key.1 key.2 ∈ known) cache.rules

theorem remembers_empty : Cache.empty.Remembers [] where
  compiles source h := absurd h List.not_mem_nil
  conditions text c := by simp [Cache.empty]
  rules key r := by simp [Cache.empty]

theorem Remembers.size_eq {cache : Cache} {known : List Source} (h : cache.Remembers known) :
    cache.size = known.toFinset.card := by
  -- The keys of both tables, as sources, are the known ones without repetitions.
  let held := cache.conditions.keys.map Source.condition ++
    cache.rules.keys.map fun key => Source.rule key.1 key.2
  have hnodup : held.Nodup := by
    refine List.Nodup.append ?_ ?_ ?_
    · exact Std.HashMap.nodup_keys.map fun a b hab => Source.condition.inj hab
    · refine Std.HashMap.nodup_keys.map fun a b hab => ?_
      exact Prod.ext (Source.rule.inj hab).1 (Source.rule.inj hab).2
    · intro source hcondition hrule
      obtain ⟨text, -, rfl⟩ := List.mem_map.1 hcondition
      obtain ⟨key, -, hkey⟩ := List.mem_map.1 hrule
      cases hkey
  have hmem : ∀ source, source ∈ held ↔ source ∈ known := by
    intro source
    rw [List.mem_append, List.mem_map, List.mem_map]
    simp only [h.conditions.mem_keys, h.rules.mem_keys]
    constructor
    · rintro (⟨text, ⟨hknown, -⟩, rfl⟩ | ⟨key, ⟨hknown, -⟩, rfl⟩)
      · exact hknown
      · exact hknown
    · intro hknown
      have hcompiles := h.compiles source hknown
      cases source with
      | condition text => exact .inl ⟨text, ⟨hknown, isOk_iff.1 hcompiles⟩, rfl⟩
      | rule body context => exact .inr ⟨(body, context), ⟨hknown, isOk_iff.1 hcompiles⟩, rfl⟩
  have hset : known.toFinset = held.toFinset := by
    ext source
    rw [List.mem_toFinset, List.mem_toFinset, hmem]
  rw [hset, List.toFinset_card_of_nodup hnodup, List.length_append, List.length_map,
    List.length_map, Std.HashMap.length_keys, Std.HashMap.length_keys, Cache.size]

/-! ## Remembering more -/

theorem compiles_condition (text : String) :
    (Source.condition text).compiles = (Plural.Condition.compile text).isOk := rfl

theorem compiles_rule (body : String) (context : Spelling.RuleContext) :
    (Source.rule body context).compiles = (Spelling.Rule.compile body context).isOk := rfl

section

variable {cache : Cache} {known : List Source}

theorem Remembers.of_mem_iff {known' : List Source} (h : cache.Remembers known)
    (hmem : ∀ source, source ∈ known' ↔ source ∈ known) : cache.Remembers known' where
  compiles source hsource := h.compiles source ((hmem source).1 hsource)
  conditions := h.conditions.congr fun text => hmem (.condition text)
  rules := h.rules.congr fun key => hmem (.rule key.1 key.2)

theorem Remembers.append_mem (h : cache.Remembers known) {source : Source}
    (hsource : source ∈ known) : cache.Remembers (known ++ [source]) := by
  refine h.of_mem_iff fun other => ?_
  rw [List.mem_append, List.mem_singleton]
  constructor
  · rintro (hother | rfl)
    · exact hother
    · exact hsource
  · exact Or.inl

theorem compiles_append {source : Source} (h : ∀ other ∈ known, other.compiles = true)
    (hsource : source.compiles = true) : ∀ other ∈ known ++ [source], other.compiles = true := by
  intro other hother
  rcases List.mem_append.1 hother with hknown | hlast
  · exact h other hknown
  · rw [List.mem_singleton.1 hlast]
    exact hsource

theorem Remembers.insert_condition (h : cache.Remembers known) {text : String}
    {c : Plural.Condition} (hc : Plural.Condition.compile text = .ok c) :
    Remembers { cache with conditions := cache.conditions.insert text c }
      (known ++ [.condition text]) where
  compiles := by
    have hok : (Plural.Condition.compile text).isOk = true := isOk_iff.2 ⟨c, hc⟩
    exact compiles_append h.compiles ((compiles_condition text).trans hok)
  conditions := (h.conditions.insert hc).congr fun other => by simp
  rules := h.rules.congr fun other => by simp

theorem Remembers.insert_rule (h : cache.Remembers known) {body : String}
    {context : Spelling.RuleContext} {r : Spelling.Rule}
    (hr : Spelling.Rule.compile body context = .ok r) :
    Remembers { cache with rules := cache.rules.insert (body, context) r }
      (known ++ [.rule body context]) where
  compiles := by
    have hok : (Spelling.Rule.compile body context).isOk = true := isOk_iff.2 ⟨r, hr⟩
    exact compiles_append h.compiles ((compiles_rule body context).trans hok)
  conditions := h.conditions.congr fun other => by simp
  rules := by
    have hinsert : Holds _ _ (cache.rules.insert (body, context) r) := h.rules.insert hr
    exact hinsert.congr fun other => by simp [Prod.ext_iff]

end

/-! ## Computations through a cache -/

section

variable {α β γ : Type} {x : Cached α} {y : Except CompileError α} {sources more : List Source}

theorem run_run_bind (x : Cached α) (f : α → Cached β) (cache : Cache) :
    (x >>= f).run.run cache = match x.run.run cache with
      | (.ok a, next) => (f a).run.run next
      | (.error e, next) => (.error e, next) := by
  rw [ExceptT.run_bind, StateT.run_bind]
  cases x.run.run cache with
  | mk result next => cases result <;> rfl

theorem run_run_get (cache : Cache) : (get : Cached Cache).run.run cache = (.ok cache, cache) := rfl

theorem run_run_adapt (f : CompileError → CompileError) (x : Cached α) (cache : Cache) :
    (ExceptT.adapt f x).run.run cache =
      (((x.run.run cache).1).mapError f, (x.run.run cache).2) := rfl

/-- Through every cache, `x` answers `y` and makes the cache remember the given sources. -/
def Memoizes (x : Cached α) (y : Except CompileError α) (sources : List Source) : Prop :=
  ∀ cache known, cache.Remembers known →
    ∃ next, x.run.run cache = (y, next) ∧ next.Remembers (known ++ sources)

theorem memoizes_mk (y : Except CompileError α) : Memoizes (ExceptT.mk (pure y)) y [] := by
  intro cache known h
  rw [List.append_nil]
  exact ⟨cache, rfl, h⟩

theorem Memoizes.bind_ok {f : α → Cached β} {a : α} {z : Except CompileError β}
    (hx : Memoizes x (.ok a) sources) (hf : Memoizes (f a) z more) :
    Memoizes (x >>= f) z (sources ++ more) := by
  intro cache known h
  obtain ⟨middle, hrun, hmiddle⟩ := hx cache known h
  obtain ⟨next, hnext, hknown⟩ := hf middle _ hmiddle
  rw [List.append_assoc] at hknown
  refine ⟨next, ?_, hknown⟩
  rw [run_run_bind, hrun]
  exact hnext

theorem Memoizes.bind_error {f : α → Cached β} {e : CompileError}
    (hx : Memoizes x (.error e) sources) : Memoizes (x >>= f) (.error e) sources := by
  intro cache known h
  obtain ⟨next, hrun, hknown⟩ := hx cache known h
  refine ⟨next, ?_, hknown⟩
  rw [run_run_bind, hrun]

theorem Memoizes.map (hx : Memoizes x y sources) (f : α → β) :
    Memoizes (x >>= fun a => pure (f a)) (y >>= fun a => .ok (f a)) sources := by
  cases y with
  | error e => exact hx.bind_error
  | ok a =>
    have h := hx.bind_ok (f := fun a => pure (f a)) (memoizes_mk (.ok (f a)))
    rw [List.append_nil] at h
    exact h

theorem Memoizes.adapt (hx : Memoizes x y sources) (f : CompileError → CompileError) :
    Memoizes (ExceptT.adapt f x) (y.mapError f) sources := by
  intro cache known h
  obtain ⟨next, hrun, hknown⟩ := hx cache known h
  refine ⟨next, ?_, hknown⟩
  rw [run_run_adapt, hrun]

theorem memoizes_mapM {f : γ → Cached α} {g : γ → Except CompileError α} {source : γ → Source}
    (hf : ∀ c, Memoizes (f c) (g c) ([source c].takeWhile Source.compiles))
    (hg : ∀ c, (g c).isOk = (source c).compiles) (l : List γ) :
    Memoizes (l.mapM f) (l.mapM g) ((l.map source).takeWhile Source.compiles) := by
  induction l with
  | nil => exact memoizes_mk (.ok [])
  | cons c l ih =>
    have hc := hf c
    have hcompiles := hg c
    rw [List.mapM_cons, List.mapM_cons, List.map_cons]
    cases hresult : g c with
    | error e =>
      -- The sources after this one are not compiled.
      rw [hresult] at hc hcompiles
      have hfails : ¬(source c).compiles = true := by
        rw [← hcompiles]
        exact Bool.false_ne_true
      rw [List.takeWhile_cons_of_neg hfails] at hc ⊢
      exact hc.bind_error
    | ok a =>
      rw [hresult] at hc hcompiles
      rw [List.takeWhile_cons_of_pos hcompiles.symm] at hc ⊢
      exact hc.bind_ok (ih.map (a :: ·))

/-- The answer to a lookup: what was found or, after a miss, what compiling gives, which is added
if it is a result. -/
def lookedUp (cache : Cache) (found : Option α) (y : Except CompileError α) (add : α → Cache) :
    Except CompileError α × Cache :=
  match found, y with
  | some a, _ => (.ok a, cache)
  | none, .ok a => (.ok a, add a)
  | none, .error e => (.error e, cache)

theorem memoizes_of_lookup {source : Source} {find : Cache → Option α} {add : Cache → α → Cache}
    (hrun : ∀ cache, x.run.run cache = lookedUp cache (find cache) y (add cache))
    (hcompiles : source.compiles = y.isOk)
    (hfind : ∀ {cache : Cache} {known a}, cache.Remembers known → find cache = some a →
      source ∈ known ∧ y = .ok a)
    (hadd : ∀ {cache : Cache} {known a}, cache.Remembers known → y = .ok a →
      (add cache a).Remembers (known ++ [source])) :
    Memoizes x y ([source].takeWhile Source.compiles) := by
  intro cache known h
  rw [hrun]
  cases hfound : find cache with
  | some a =>
    obtain ⟨hknown, rfl⟩ := hfind h hfound
    rw [List.takeWhile_cons_of_pos (h.compiles source hknown)]
    exact ⟨cache, rfl, h.append_mem hknown⟩
  | none =>
    cases y with
    | ok a =>
      rw [List.takeWhile_cons_of_pos hcompiles]
      exact ⟨add cache a, rfl, hadd h rfl⟩
    | error e =>
      rw [List.takeWhile_cons_of_neg (by rw [hcompiles]; exact Bool.false_ne_true),
        List.append_nil]
      exact ⟨cache, rfl, h⟩

end

/-! ## Requests through a cache -/

theorem run_condition (text : String) (cache : Cache) :
    (condition text).run.run cache =
      lookedUp cache cache.conditions[text]? (Plural.Condition.compile text) fun c =>
        { cache with conditions := cache.conditions.insert text c } := by
  rw [condition, run_run_bind, run_run_get]
  dsimp only
  cases cache.conditions[text]? with
  | some c => rfl
  | none => cases Plural.Condition.compile text <;> rfl

theorem run_rule (body : String) (context : Spelling.RuleContext) (cache : Cache) :
    (rule body context).run.run cache =
      lookedUp cache cache.rules[(body, context)]? (Spelling.Rule.compile body context) fun r =>
        { cache with rules := cache.rules.insert (body, context) r } := by
  rw [rule, run_run_bind, run_run_get]
  dsimp only
  cases cache.rules[(body, context)]? with
  | some r => rfl
  | none => cases Spelling.Rule.compile body context <;> rfl

theorem memoizes_condition (text : String) :
    Memoizes (condition text) (Plural.Condition.compile text)
      ([.condition text].takeWhile Source.compiles) :=
  memoizes_of_lookup (run_condition text) (compiles_condition text)
    (fun h hfound => (h.conditions text _).1 hfound) fun h hc => h.insert_condition hc

theorem memoizes_rule (body : String) (context : Spelling.RuleContext) :
    Memoizes (rule body context) (Spelling.Rule.compile body context)
      ([.rule body context].takeWhile Source.compiles) :=
  memoizes_of_lookup (run_rule body context) (compiles_rule body context)
    (fun h hfound => (h.rules (body, context) _).1 hfound) fun h hr => h.insert_rule hr

theorem memoizes_pluralRules (entries : List (String × String)) :
    Memoizes (pluralRules entries) (Plural.Rules.compile entries)
      (Request.pluralRules entries).compiled := by
  rw [pluralRules, Plural.Rules.compileM, Plural.Rules.compile_eq]
  refine Memoizes.map ?_ fun rules =>
    (⟨rules, Plural.Rules.classesOf entries⟩ : Plural.Rules)
  refine memoizes_mapM (fun entry => ?_) (fun entry => ?_) _
  · exact ((memoizes_condition entry.2).adapt (.inPluralRule entry.1)).map (Plural.Rule.mk entry.1)
  · exact (isOk_map _ _).trans (isOk_mapError _ _)

theorem memoizes_ruleSet (name : String) (options : Spelling.RuleSet.Options)
    (pairs : List (String × String)) :
    Memoizes (ruleSet name options pairs) (Spelling.RuleSet.compile name options pairs)
      (Request.ruleSet name options pairs).compiled := by
  rw [ruleSet, Spelling.RuleSet.compileM, Spelling.RuleSet.compile_eq, Request.compiled,
    Request.sources]
  cases hentries : Spelling.RuleSet.entriesFrom (Spelling.dropPercents name) [] pairs with
  | error e => exact (memoizes_mk (.error e)).bind_error
  | ok entries =>
    refine (memoizes_mk (.ok entries)).bind_ok (Memoizes.map ?_ fun rules =>
      (⟨Spelling.dropPercents name, Spelling.RuleSet.arrange rules⟩ : Spelling.RuleSet))
    refine memoizes_mapM (fun entry => ?_) (fun entry => ?_) _
    · exact (memoizes_rule entry.body _).adapt (.inSpellingRule _ entry.text)
    · exact isOk_mapError _ _

theorem memoizes_request {request : Request} (hclear : request.isClear = false) :
    Memoizes request.run request.compile request.compiled := by
  cases request with
  | condition text => exact (memoizes_condition text).map Answer.condition
  | rule body context => exact (memoizes_rule body context).map Answer.rule
  | pluralRules entries => exact (memoizes_pluralRules entries).map Answer.pluralRules
  | ruleSet name options pairs => exact (memoizes_ruleSet name options pairs).map Answer.ruleSet
  | clear => cases hclear

/-! ## Many requests -/

theorem after_concat (requests : List Request) (request : Request) :
    after (requests ++ [request]) = (request.run.run.run (after requests)).2 := by
  rw [after, List.foldl_append]
  rfl

theorem compiledSinceClear_concat (requests : List Request) (request : Request) :
    compiledSinceClear (requests ++ [request]) =
      if request.isClear then [] else compiledSinceClear requests ++ request.compiled := by
  rw [compiledSinceClear, List.rtakeWhile_concat]
  cases request.isClear with
  | true => rfl
  | false => simp [compiledSinceClear]

theorem remembers_after (requests : List Request) :
    (after requests).Remembers (compiledSinceClear requests) := by
  induction requests using List.reverseRecOn with
  | nil => exact remembers_empty
  | append_singleton requests request ih =>
    rw [after_concat, compiledSinceClear_concat]
    cases hclear : request.isClear with
    | true =>
      cases request with
      | clear => exact remembers_empty
      | _ => cases hclear
    | false =>
      obtain ⟨next, hrun, hnext⟩ := memoizes_request hclear _ _ ih
      rw [hrun]
      exact hnext

/-- After any requests, the next one is answered as without a cache, and the cache counts the
different sources compiled successfully since it was last cleared. -/
theorem answer_eq_compile_and_size_eq (requests : List Request) :
    (∀ request : Request, (request.run.run.run (after requests)).1 = request.compile) ∧
      (after requests).size = (compiledSinceClear requests).toFinset.card := by
  have hknown := remembers_after requests
  refine ⟨fun request => ?_, hknown.size_eq⟩
  cases hclear : request.isClear with
  | true =>
    cases request with
    | clear => rfl
    | _ => cases hclear
  | false =>
    obtain ⟨next, hrun, -⟩ := memoizes_request hclear _ _ hknown
    rw [hrun]

-- A condition met twice counts once, and a rule set that fails at its second rule leaves the first.
example : (compiledSinceClear
    [.pluralRules [("one", "n = 1"), ("few", "n = 2 @integer 2"), ("two", "n is two")],
      .condition "n = 1", .ruleSet "x" {} [("0", "zero;"), ("1", "<<<<")]]).toFinset.card = 3 := by
  decide +kernel

end NumberRules.Cache
