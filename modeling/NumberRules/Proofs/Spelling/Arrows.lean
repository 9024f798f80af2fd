import Mathlib
import NumberRules.Proofs.Spelling.Body.Respelling
import NumberRules.Proofs.Spelling.Legality
import NumberRules.Proofs.Spelling.Parts

/-! # Rules with arrows

A rule that is written with arrows is legal if it is so without, and differs from the rule without
arrows by the arrows in its texts: literal texts, written targets, and the texts of cases.  A target
that is not written comes from the context, and stays as it is.
-/

namespace NumberRules.Spelling
set_option autoImplicit false

/-- A text with arrows for both of the markers that have them. -/
def arrows (text : String) : String := String.ofList (text.toList.map arrow)

theorem arrows_ofList (cs : List Char) :
    arrows (String.ofList cs) = String.ofList (cs.map arrow) := by
  rw [arrows, String.toList_ofList]

/-- There is nothing in the text that arrows would replace. -/
def NoAngles (text : String) : Prop := '<' ∉ text.toList ∧ '>' ∉ text.toList

theorem arrows_eq_self {text : String} (h : NoAngles text) : arrows text = text := by
  have hchar (c : Char) (hc : c ∈ text.toList) : arrow c = c := by
    have hless : c ≠ '<' := fun heq => h.1 (heq ▸ hc)
    have hgreater : c ≠ '>' := fun heq => h.2 (heq ▸ hc)
    rw [arrow, if_neg hless, if_neg hgreater]
  rw [arrows, List.map_congr_left hchar, List.map_id', String.ofList_toList]

/-! ## Legal bodies -/

theorem arrow_eq_iff {c d : Char} (hd : d = '%' ∨ d = '0' ∨ d = '#') : arrow c = d ↔ c = d := by
  rw [arrow]
  split_ifs <;> rcases hd with rfl | rfl | rfl <;> simp_all

/-- Arrows do not change how a target begins. -/
theorem exists_arrow_cons_iff {cs : List Char} :
    (∃ c rest, cs.map arrow = c :: rest ∧ (c = '%' ∨ c = '0' ∨ c = '#')) ↔
      ∃ c rest, cs = c :: rest ∧ (c = '%' ∨ c = '0' ∨ c = '#') := by
  cases cs with
  | nil => simp
  | cons c rest =>
    have hcons (c : Char) (rest : List Char) :
        (∃ c' rest', c :: rest = c' :: rest' ∧ (c' = '%' ∨ c' = '0' ∨ c' = '#')) ↔
          c = '%' ∨ c = '0' ∨ c = '#' := by
      simp
    rw [List.map_cons, hcons, hcons, arrow_eq_iff (.inl rfl), arrow_eq_iff (.inr (.inl rfl)),
      arrow_eq_iff (.inr (.inr rfl))]

theorem allows_arrow_iff {base : BaseValue} {marker : Marker} {target : Option (List Char)} :
    base.Allows marker (target.map (List.map arrow)) ↔ base.Allows marker target := by
  cases target with
  | none => exact Iff.rfl
  | some cs =>
    constructor
    · rintro ⟨hinfinity, hnan, hless, hbegins, -⟩
      refine ⟨hinfinity, hnan, hless, ?_, fun _ hnone => by cases hnone⟩
      rintro _ ⟨⟩
      exact exists_arrow_cons_iff.1 (hbegins _ rfl)
    · rintro ⟨hinfinity, hnan, hless, hbegins, -⟩
      refine ⟨hinfinity, hnan, hless, ?_, fun _ hnone => by cases hnone⟩
      rintro _ ⟨⟩
      exact exists_arrow_cons_iff.2 (hbegins _ rfl)

theorem Piece.legal_mapTexts_iff {base : BaseValue} {p : Piece} :
    (p.mapTexts arrow).Legal base ↔ p.Legal base := by
  cases p with
  | text cs => exact Iff.rfl
  | substitution marker target => exact allows_arrow_iff
  | selector kind cases => exact Iff.rfl

theorem Token.pieces_mapTexts (f : Char → Char) (t : Token) :
    (t.mapTexts f).pieces = t.pieces.map (Piece.mapTexts f) := by
  cases t <;> rfl

theorem Rule.exists_compile_arrows_iff {body : String} (hleft : '←' ∉ body.toList)
    (hright : '→' ∉ body.toList) (context : RuleContext) :
    (∃ rule, compile (arrows body) context = .ok rule) ↔
      ∃ rule, compile body context = .ok rule := by
  rw [exists_compile_iff, exists_compile_iff, arrows, String.toList_ofList]
  simp only [Body.tokens_arrow_iff hleft hright]
  refine and_congr_right fun _ => ?_
  constructor
  · rintro ⟨_, ⟨ts, hts, rfl⟩, hlegal⟩
    refine ⟨ts, hts, ?_⟩
    simpa [Token.pieces_mapTexts, Piece.legal_mapTexts_iff] using hlegal
  · rintro ⟨ts, hts, hlegal⟩
    refine ⟨_, ⟨ts, hts, rfl⟩, ?_⟩
    simpa [Token.pieces_mapTexts, Piece.legal_mapTexts_iff] using hlegal

/-! ## What compiling makes of arrows -/

/-- A written target with arrows. -/
def Target.withArrows : Target → Target
  | ruleSet name => ruleSet (arrows name)
  | pattern text => pattern (arrows text)
  | echo => echo

/-- The targets of substitutions without a written one. -/
def RuleContext.fallbacks (context : RuleContext) : List Target :=
  [context.containing, context.integerTarget, .echo]

/-- The second part has arrows in its texts, and is the first one otherwise. -/
inductive Part.Respelled (context : RuleContext) : Part → Part → Prop
  | literal (text : String) : Respelled context (.literal text) (.literal (arrows text))
  | written (marker : Marker) (op : Operation) (target : Target) :
      Respelled context (.substitution marker op target)
        (.substitution marker op target.withArrows)
  | fallback (marker : Marker) (op : Operation) {target : Target}
      (h : target ∈ context.fallbacks) :
      Respelled context (.substitution marker op target) (.substitution marker op target)
  | selector (kind : Plural.Kind) (cases : List (String × String)) (divisor : Nat) :
      Respelled context (.selector kind cases divisor)
        (.selector kind (cases.map fun c => (c.1, arrows c.2)) divisor)

inductive Node.Respelled (context : RuleContext) : Node → Node → Prop
  | part {p p' : Part} (h : p.Respelled context p') : Respelled context (.part p) (.part p')
  | optional {parts parts' : List Part} (h : List.Forall₂ (Part.Respelled context) parts parts')
      (trigger : BaseValue) (divisor : Nat) :
      Respelled context (.optional parts trigger divisor) (.optional parts' trigger divisor)

structure Rule.Respelled (context : RuleContext) (rule rule' : Rule) : Prop where
  base_eq : rule'.base = rule.base
  radix_eq : rule'.radix = rule.radix
  divisor_eq : rule'.divisor = rule.divisor
  nodes : List.Forall₂ (Node.Respelled context) rule.nodes rule'.nodes

namespace RuleContext

variable {context : RuleContext} {marker : Marker} {written : Bool} {op : Operation}

theorem Means.mem_fallbacks {target : Target}
    (h : context.Means marker written op (some target)) : target ∈ context.fallbacks := by
  rw [fallbacks]
  cases h <;> simp

theorem dropPercents_arrows (name : String) :
    dropPercents (arrows name) = arrows (dropPercents name) := by
  have hpercent : (fun c => decide (c = '%')) ∘ arrow = fun c => decide (c = '%') := by
    funext c
    simp only [Function.comp_apply, arrow_eq_iff (.inl rfl)]
  rw [dropPercents, dropPercents, arrows, String.toList_ofList, List.dropWhile_map, hpercent,
    arrows_ofList]

theorem GoesTo.withArrows {text : List Char} {fallback : Option Target} {goal : Target}
    (h : GoesTo (some text) fallback goal) :
    GoesTo (some (text.map arrow)) fallback goal.withArrows := by
  cases h with
  | ruleSet text =>
    rw [Target.withArrows, ← dropPercents_arrows, arrows_ofList]
    exact .ruleSet (text.map arrow) fallback
  | @pattern c hc text =>
    have hfixed : arrow c = c := (arrow_eq_iff (.inr hc)).2 rfl
    rw [Target.withArrows, arrows_ofList, List.map_cons, hfixed]
    exact .pattern hc (text.map arrow) fallback

theorem Yields.exists_respelled {piece : Piece} {p : Part} (h : context.Yields piece p) :
    ∃ p', context.Yields (piece.mapTexts arrow) p' ∧ p.Respelled context p' := by
  cases h with
  | text cs =>
    refine ⟨_, .text _, ?_⟩
    rw [← arrows_ofList]
    exact .literal _
  | @substitution marker target op fallback goal hmeans hgoal =>
    cases target with
    | none =>
      cases hgoal
      exact ⟨_, .substitution hmeans (.fallback goal), .fallback marker op hmeans.mem_fallbacks⟩
    | some text =>
      exact ⟨_, .substitution hmeans hgoal.withArrows, .written marker op goal⟩
  | selector kind cases =>
    have hcases : ((cases.map fun c => (c.1, c.2.map arrow)).map
        fun c => (String.ofList c.1, String.ofList c.2)) =
          (cases.map fun c => (String.ofList c.1, String.ofList c.2)).map
            fun c => (c.1, arrows c.2) := by
      simp [arrows_ofList]
    refine ⟨_, .selector kind _, ?_⟩
    rw [hcases]
    exact .selector kind _ _

theorem YieldsNode.exists_respelled {token : Token} {node : Node}
    (h : context.YieldsNode token node) :
    ∃ node', context.YieldsNode (token.mapTexts arrow) node' ∧ node.Respelled context node' := by
  cases h with
  | part h =>
    obtain ⟨p', hyields, hp⟩ := h.exists_respelled
    exact ⟨_, .part hyields, .part hp⟩
  | optional h =>
    obtain ⟨parts', hyields, hparts⟩ := exists_forall₂_map h fun _ _ h => h.exists_respelled
    exact ⟨_, .optional hyields, .optional hparts _ _⟩

end RuleContext

theorem Rule.exists_compile_arrows {body : String} (hleft : '←' ∉ body.toList)
    (hright : '→' ∉ body.toList) {context : RuleContext} {rule : Rule}
    (h : compile body context = .ok rule) :
    ∃ rule', compile (arrows body) context = .ok rule' ∧ rule.Respelled context rule' := by
  obtain ⟨hradix, ts, nodes, hts, hnodes, rfl⟩ := compile_eq_ok_iff_yields.1 h
  obtain ⟨nodes', hyields, hrespelled⟩ :=
    exists_forall₂_map hnodes fun _ _ h => h.exists_respelled
  have htokens : Body.tokens (arrows body).toList = .ok (ts.map (Token.mapTexts arrow)) := by
    rw [arrows, String.toList_ofList, Body.tokens_arrow_iff hleft hright]
    exact ⟨ts, hts, rfl⟩
  exact ⟨_, compile_eq_ok_iff_yields.2 ⟨hradix, _, nodes', htokens, hyields, rfl⟩,
    rfl, rfl, rfl, hrespelled⟩

/-! ## Texts without angle brackets -/

def Target.texts : Target → List String
  | ruleSet name => [name]
  | pattern text => [text]
  | echo => []

/-- The literal texts, names, patterns and texts of cases in a part. -/
def Part.texts : Part → List String
  | literal text => [text]
  | substitution _ _ target => target.texts
  | selector _ cases _ => cases.map Prod.snd

def Rule.texts (rule : Rule) : List String :=
  (rule.nodes.flatMap Node.parts).flatMap Part.texts

theorem Part.Respelled.eq_of_noAngles {context : RuleContext} {p p' : Part}
    (h : p.Respelled context p') (hp : ∀ text ∈ p.texts, NoAngles text) : p' = p := by
  cases h with
  | literal text => rw [arrows_eq_self (hp text List.mem_cons_self)]
  | written marker op target =>
    cases target with
    | ruleSet name => rw [Target.withArrows, arrows_eq_self (hp name List.mem_cons_self)]
    | pattern text => rw [Target.withArrows, arrows_eq_self (hp text List.mem_cons_self)]
    | echo => rfl
  | fallback => rfl
  | selector kind cases divisor =>
    have hcases : (cases.map fun c => (c.1, arrows c.2)) = cases.map id :=
      List.map_congr_left fun c hc => by
        rw [arrows_eq_self (hp c.2 (List.mem_map_of_mem hc))]
        rfl
    rw [hcases, List.map_id]

theorem Node.Respelled.eq_of_noAngles {context : RuleContext} {node node' : Node}
    (h : node.Respelled context node')
    (hnode : ∀ p ∈ node.parts, ∀ text ∈ p.texts, NoAngles text) : node' = node := by
  cases h with
  | part h => rw [h.eq_of_noAngles (hnode _ List.mem_cons_self)]
  | optional h => rw [eq_of_forall₂ h fun p hp _ h => h.eq_of_noAngles (hnode p hp)]

theorem Rule.Respelled.eq_of_noAngles {context : RuleContext} {rule rule' : Rule}
    (h : rule.Respelled context rule') (hrule : ∀ text ∈ rule.texts, NoAngles text) :
    rule' = rule := by
  have hnodes := eq_of_forall₂ h.nodes fun node hnode _ h =>
    h.eq_of_noAngles fun p hp text htext =>
      hrule text (List.mem_flatMap.2 ⟨p, List.mem_flatMap.2 ⟨node, hnode, hp⟩, htext⟩)
  obtain ⟨base, radix, divisor, nodes⟩ := rule
  obtain ⟨base', radix', divisor', nodes'⟩ := rule'
  obtain ⟨rfl, rfl, rfl, -⟩ := h
  rw [show nodes' = nodes from hnodes]

namespace Rule

/-- A body without arrows and the body with arrows for its markers are refused together, and give
rules that differ by the arrows in their texts. -/
theorem compile_arrows {body : String} (hleft : '←' ∉ body.toList) (hright : '→' ∉ body.toList)
    (context : RuleContext) :
    ((∃ rule, compile (arrows body) context = .ok rule) ↔
      ∃ rule, compile body context = .ok rule) ∧
    ∀ rule rule', compile body context = .ok rule → compile (arrows body) context = .ok rule' →
      rule.Respelled context rule' ∧
        ((∀ text ∈ rule.texts, NoAngles text) → rule' = rule) := by
  refine ⟨exists_compile_arrows_iff hleft hright context, fun rule rule' h h' => ?_⟩
  obtain ⟨other, hother, hrespelled⟩ := exists_compile_arrows hleft hright h
  obtain rfl : other = rule' := Except.ok.inj (hother.symm.trans h')
  exact ⟨hrespelled, hrespelled.eq_of_noAngles⟩

/-- A bracket that is escaped is text, and gets its arrow as the markers do. -/
theorem compile_arrows_minus :
    ∃ rule rule', compile "minus '> >%%cups>;" ⟨.negative, 10, "tea", false, "tea"⟩ = .ok rule ∧
      compile "minus '→ →%%cups→;" ⟨.negative, 10, "tea", false, "tea"⟩ = .ok rule' ∧
      rule.Respelled ⟨.negative, 10, "tea", false, "tea"⟩ rule' ∧
      rule.texts = ["minus > ", "cups"] ∧ rule'.texts = ["minus → ", "cups"] := by
  have hrule : compile "minus '> >%%cups>;" ⟨.negative, 10, "tea", false, "tea"⟩ =
      .ok ⟨.negative, 10, 1, [.part (.literal "minus > "),
        .part (.substitution .greater .negate (.ruleSet "cups"))]⟩ := by
    decide +kernel
  have hrule' : compile "minus '→ →%%cups→;" ⟨.negative, 10, "tea", false, "tea"⟩ =
      .ok ⟨.negative, 10, 1, [.part (.literal "minus → "),
        .part (.substitution .greater .negate (.ruleSet "cups"))]⟩ := by
    decide +kernel
  have harrows : arrows "minus '> >%%cups>;" = "minus '→ →%%cups→;" := by
    decide +kernel
  have hleft : '←' ∉ "minus '> >%%cups>;".toList := by decide +kernel
  have hright : '→' ∉ "minus '> >%%cups>;".toList := by decide +kernel
  have hboth := (compile_arrows hleft hright ⟨.negative, 10, "tea", false, "tea"⟩).2 _ _ hrule
    (harrows ▸ hrule')
  exact ⟨_, _, hrule, hrule', hboth.1, rfl, rfl⟩

end Rule

end NumberRules.Spelling
