import Mathlib
import NumberRules.Proofs.Text.Bytes
import NumberRules.Proofs.Text.Edits

/-! # The names closest to a key

A `Ranking` lists names by a measure and keeps names of the same measure in order; there is only
one.  The suggestions for a key are the first three of the ranking by distance of the names that are
near enough.  How near that is depends on the bytes of the key, so a short key with longer characters
is taken for names two edits away as well.
-/

namespace NumberRules
set_option autoImplicit false

/-! ## Rankings -/

/-- The names sorted by a measure: of each measure the same names, in the same order. -/
structure Ranking (measure : String → Nat) (names ranked : List String) : Prop where
  sorted : ranked.Pairwise fun a b => measure a ≤ measure b
  stable : ∀ k, ranked.filter (measure · = k) = names.filter (measure · = k)

section

variable {measure : String → Nat} {names ranked ranked' : List String}

theorem mem_iff_of_levels
    (h : ∀ k, ranked.filter (measure · = k) = ranked'.filter (measure · = k)) (a : String) :
    a ∈ ranked ↔ a ∈ ranked' := by
  have hlevel := congrArg (a ∈ ·) (h (measure a))
  simpa [List.mem_filter] using hlevel

theorem head_le {a b : String} (h : (a :: names).Pairwise fun a b => measure a ≤ measure b)
    (hb : b ∈ a :: names) : measure a ≤ measure b := by
  rcases List.mem_cons.1 hb with rfl | hb
  · exact Nat.le_refl _
  · exact List.rel_of_pairwise_cons h hb

/-- A sorted list is determined by its levels. -/
theorem eq_of_levels (hsorted : ranked.Pairwise fun a b => measure a ≤ measure b)
    (hsorted' : ranked'.Pairwise fun a b => measure a ≤ measure b)
    (h : ∀ k, ranked.filter (measure · = k) = ranked'.filter (measure · = k)) :
    ranked = ranked' := by
  induction ranked generalizing ranked' with
  | nil =>
    cases ranked' with
    | nil => rfl
    | cons b ranked' => exact absurd ((mem_iff_of_levels h b).2 List.mem_cons_self) List.not_mem_nil
  | cons a ranked ih =>
    cases ranked' with
    | nil => exact absurd ((mem_iff_of_levels h a).1 List.mem_cons_self) List.not_mem_nil
    | cons b ranked' =>
      -- Both heads have the least measure, so they are the heads of one level.
      have hab := head_le hsorted ((mem_iff_of_levels h b).2 List.mem_cons_self)
      have hba := head_le hsorted' ((mem_iff_of_levels h a).1 List.mem_cons_self)
      have heq : measure a = measure b := Nat.le_antisymm hab hba
      have hlevel := h (measure b)
      rw [List.filter_cons, List.filter_cons, if_pos (decide_eq_true heq),
        if_pos (decide_eq_true rfl)] at hlevel
      obtain ⟨rfl, -⟩ := List.cons.inj hlevel
      refine congrArg (a :: ·) (ih hsorted.of_cons hsorted'.of_cons fun k => ?_)
      have hk := h k
      rw [List.filter_cons, List.filter_cons] at hk
      split at hk
      · exact (List.cons.inj hk).2
      · exact hk

theorem Ranking.unique (h : Ranking measure names ranked) (h' : Ranking measure names ranked') :
    ranked = ranked' :=
  eq_of_levels h.sorted h'.sorted fun k => (h.stable k).trans (h'.stable k).symm

theorem ranking_mergeSort (measure : String → Nat) (names : List String) :
    Ranking measure names (names.mergeSort fun a b => measure a ≤ measure b) := by
  have htrans : ∀ a b c : String, decide (measure a ≤ measure b) = true →
      decide (measure b ≤ measure c) = true → decide (measure a ≤ measure c) = true := by
    simp only [decide_eq_true_eq]
    intro a b c
    exact Nat.le_trans
  have htotal : ∀ a b : String,
      (decide (measure a ≤ measure b) || decide (measure b ≤ measure a)) = true := by
    intro a b
    simp only [Bool.or_eq_true, decide_eq_true_eq]
    exact Nat.le_total _ _
  constructor
  · simpa using List.pairwise_mergeSort htrans htotal names
  · intro k
    have hlevel : (names.filter (measure · = k)).Pairwise
        fun a b => decide (measure a ≤ measure b) = true := by
      refine List.pairwise_of_forall_mem_list fun a ha b hb => ?_
      have hak : measure a = k := by simpa using (List.mem_filter.1 ha).2
      have hbk : measure b = k := by simpa using (List.mem_filter.1 hb).2
      simp [hak, hbk]
    have hsub := (List.sublist_mergeSort htrans htotal hlevel List.filter_sublist).filter
      fun a => decide (measure a = k)
    simp only [List.filter_filter, Bool.and_self] at hsub
    exact (hsub.eq_of_length ((List.mergeSort_perm names _).filter _).length_eq.symm).symm

end

/-! ## Names near a key -/

def distanceTo (key name : String) : Nat := editDistance key.toList name.toList

/-- The available names at a distance from a key. -/
def atDistance (key : String) (d : Nat) (available : List String) : List String :=
  available.filter (distanceTo key · = d)

/-- The available names that differ from a key, by a limited number of edits. -/
def within (key : String) (limit : Nat) (available : List String) : List String :=
  available.filter fun name => 1 ≤ distanceTo key name ∧ distanceTo key name ≤ limit

/-- The chosen names are the first three of the ranking of all names within the limit; the names
that are left out are at least as far from the key. -/
def IsClosest (key : String) (limit : Nat) (available chosen : List String) : Prop :=
  ∃ ranked, Ranking (distanceTo key) (within key limit available) ranked ∧
    chosen = ranked.take 3 ∧
    ∀ a ∈ chosen, ∀ b ∈ ranked.drop 3, distanceTo key a ≤ distanceTo key b

section

variable {key : String} {limit : Nat} {available chosen ranked : List String}

theorem isClosest_iff (h : Ranking (distanceTo key) (within key limit available) ranked) :
    IsClosest key limit available chosen ↔ chosen = ranked.take 3 := by
  constructor
  · rintro ⟨ranked', hranked', rfl, -⟩
    rw [h.unique hranked']
  · rintro rfl
    have hsorted := h.sorted
    rw [← List.take_append_drop 3 ranked] at hsorted
    exact ⟨ranked, h, rfl, (List.pairwise_append.1 hsorted).2.2⟩

theorem filter_level (key : String) (q : Nat → Prop) [DecidablePred q] (k : Nat)
    (available : List String) :
    (available.filter fun name => q (distanceTo key name)).filter (distanceTo key · = k) =
      if q k then atDistance key k available else [] := by
  rw [List.filter_filter]
  split
  · rename_i hq
    refine List.filter_congr fun name _ => ?_
    by_cases hk : distanceTo key name = k
    · simp [hk, hq]
    · simp [hk]
  · rename_i hq
    rw [List.filter_eq_nil_iff]
    intro name _ hname
    obtain ⟨hk, hlevel⟩ : distanceTo key name = k ∧ q (distanceTo key name) := by
      simpa using hname
    exact hq (hk ▸ hlevel)

theorem filter_atDistance (key : String) (d k : Nat) (available : List String) :
    (atDistance key d available).filter (distanceTo key · = k) =
      if k = d then atDistance key k available else [] :=
  filter_level key (· = d) k available

theorem filter_within (key : String) (limit k : Nat) (available : List String) :
    (within key limit available).filter (distanceTo key · = k) =
      if 1 ≤ k ∧ k ≤ limit then atDistance key k available else [] :=
  filter_level key (fun d => 1 ≤ d ∧ d ≤ limit) k available

theorem distanceTo_of_mem {d : Nat} {name : String} (h : name ∈ atDistance key d available) :
    distanceTo key name = d := by
  simpa using (List.mem_filter.1 h).2

theorem pairwise_atDistance (key : String) (d : Nat) (available : List String) :
    (atDistance key d available).Pairwise fun a b => distanceTo key a ≤ distanceTo key b := by
  refine List.pairwise_of_forall_mem_list fun a ha b hb => ?_
  rw [distanceTo_of_mem ha, distanceTo_of_mem hb]

theorem ranking_within_one (key : String) (available : List String) :
    Ranking (distanceTo key) (within key 1 available) (atDistance key 1 available) where
  sorted := pairwise_atDistance key 1 available
  stable k := by
    rw [filter_atDistance, filter_within]
    exact if_congr (by omega) rfl rfl

theorem ranking_within_two (key : String) (available : List String) :
    Ranking (distanceTo key) (within key 2 available)
      (atDistance key 1 available ++ atDistance key 2 available) where
  sorted := by
    rw [List.pairwise_append]
    refine ⟨pairwise_atDistance key 1 available, pairwise_atDistance key 2 available, ?_⟩
    intro a ha b hb
    rw [distanceTo_of_mem ha, distanceTo_of_mem hb]
    omega
  stable k := by
    rw [List.filter_append, filter_atDistance, filter_atDistance, filter_within]
    by_cases hone : k = 1
    · subst hone
      simp
    · by_cases htwo : k = 2
      · subst htwo
        simp
      · have hout : ¬(1 ≤ k ∧ k ≤ 2) := by omega
        rw [if_neg hone, if_neg htwo, if_neg hout, List.append_nil]

end

/-! ## Suggestions -/

/-- A name with its distance from a key. -/
def measured (key name : String) : Nat × String := (distanceTo key name, name)

theorem filter_map_measured (key : String) (available : List String) :
    (available.map (measured key)).filter (fun entry => isClose key entry.1) =
      (within key (tolerance key) available).map (measured key) := by
  rw [List.filter_map]
  refine congrArg _ (List.filter_congr fun name _ => ?_)
  change isClose key (distanceTo key name) = _
  rw [isClose, Bool.decide_and]
  rfl

/-- Sorting the names with their distances sorts the names by distance. -/
theorem suggestions_eq (key : String) (available : List String) :
    suggestions key available =
      ((within key (tolerance key) available).mergeSort
        fun a b => distanceTo key a ≤ distanceTo key b).take 3 := by
  have hform : suggestions key available =
      ((((available.map (measured key)).filter fun entry => isClose key entry.1).mergeSort
        fun a b => decide (a.1 ≤ b.1)).take 3).map Prod.snd := rfl
  have hnames : (within key (tolerance key) available).map (Prod.snd ∘ measured key) =
      within key (tolerance key) available := List.map_id _
  rw [hform, filter_map_measured, List.map_take, List.map_mergeSort
    (s := fun a b => decide (distanceTo key a ≤ distanceTo key b)), List.map_map, hnames]
  intro a ha b hb
  obtain ⟨name, -, rfl⟩ := List.mem_map.1 ha
  obtain ⟨other, -, rfl⟩ := List.mem_map.1 hb
  rfl

theorem isClosest_suggestions (key : String) (available : List String) :
    IsClosest key (tolerance key) available (suggestions key available) :=
  (isClosest_iff (ranking_mergeSort _ _)).2 (suggestions_eq key available)

/-- The suggestions are the closest names in the order of their distances, which are least numbers
of edits, for a limit that the bytes of the key decide.  They are those for a limit that its
characters decide exactly if the two limits agree or the names two edits away make no difference. -/
theorem suggestions_isClosest_iff (key : String) (available : List String) :
    (∀ name, IsLeast {n | Edits n key.toList name.toList} (distanceTo key name)) ∧
    IsClosest key (if key.utf8ByteSize ≤ 3 then 1 else 2) available
      (suggestions key available) ∧
    (IsClosest key (if key.length ≤ 3 then 1 else 2) available (suggestions key available) ↔
      3 < key.length ∨ key.utf8ByteSize ≤ 3 ∨ 3 ≤ (atDistance key 1 available).length ∨
        atDistance key 2 available = []) := by
  have hclosest := isClosest_suggestions key available
  have hbytes : key.length ≤ key.utf8ByteSize := by
    rw [← String.length_toList, ← Text.utf8Length_toList]
    exact Text.length_le_utf8Length key.toList
  refine ⟨fun name => isLeast_editDistance _ _, hclosest, ?_⟩
  by_cases hlong : 3 < key.length
  · have htwo : tolerance key = 2 := if_neg (by rw [shortKey]; omega)
    rw [htwo] at hclosest
    rw [if_neg (by omega)]
    exact iff_of_true hclosest (.inl hlong)
  rw [if_pos (by omega)]
  by_cases hshort : key.utf8ByteSize ≤ 3
  · have hone : tolerance key = 1 := if_pos hshort
    rw [hone] at hclosest
    exact iff_of_true hclosest (.inr (.inl hshort))
  · have htwo : tolerance key = 2 := if_neg hshort
    rw [htwo, isClosest_iff (ranking_within_two key available)] at hclosest
    rw [isClosest_iff (ranking_within_one key available), hclosest, List.take_append,
      List.append_right_eq_self, List.take_eq_nil_iff, Nat.sub_eq_zero_iff_le]
    simp only [hlong, hshort, false_or]

/-- Two accents are two edits, and too many for a key of three characters. -/
theorem not_isClosest_accents :
    ¬IsClosest "été" (if "été".length ≤ 3 then 1 else 2) ["ete"] (suggestions "été" ["ete"]) := by
  have hlength : "été".length ≤ 3 := by decide
  rw [if_pos hlength, isClosest_iff (ranking_within_one "été" ["ete"])]
  decide +kernel

end NumberRules
