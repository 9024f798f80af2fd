import Mathlib
import NumberRules.Suggestion

/-! # Edits

An edit inserts, drops or replaces one character at any place of a text, and `editDistance` is the
least number of edits that lead from one text to another.  `distance` is the recursion behind its
table: the table compares fronts of the two texts, so its cells are distances of these fronts read
backwards.  One edit changes the distance to any text by at most one, and along the recursion as
many edits are found as the distance says.
-/

namespace NumberRules
set_option autoImplicit false

variable {as bs cs : List Char} {n : Nat}

/-! ## Edits of texts -/

/-- One character is inserted, dropped or replaced. -/
inductive Edit : List Char → List Char → Prop
  | insert (front back : List Char) (c : Char) : Edit (front ++ back) (front ++ c :: back)
  | drop (front back : List Char) (c : Char) : Edit (front ++ c :: back) (front ++ back)
  | replace (front back : List Char) (c d : Char) : Edit (front ++ c :: back) (front ++ d :: back)

/-- A number of edits lead from one text to another. -/
def Edits : Nat → List Char → List Char → Prop
  | 0, as, cs => as = cs
  | n + 1, as, cs => ∃ bs, Edit as bs ∧ Edits n bs cs

theorem Edit.cons (h : Edit as bs) (c : Char) : Edit (c :: as) (c :: bs) := by
  cases h with
  | insert front back d => exact .insert (c :: front) back d
  | drop front back d => exact .drop (c :: front) back d
  | replace front back d e => exact .replace (c :: front) back d e

theorem Edits.cons (h : Edits n as bs) (c : Char) : Edits n (c :: as) (c :: bs) := by
  induction n generalizing as with
  | zero => exact congrArg (c :: ·) h
  | succ n ih =>
    obtain ⟨as', hedit, hrest⟩ := h
    exact ⟨c :: as', hedit.cons c, ih hrest⟩

theorem Edit.reverse (h : Edit as bs) : Edit as.reverse bs.reverse := by
  cases h with
  | insert front back c =>
    simpa using Edit.insert back.reverse front.reverse c
  | drop front back c =>
    simpa using Edit.drop back.reverse front.reverse c
  | replace front back c d =>
    simpa using Edit.replace back.reverse front.reverse c d

theorem Edits.reverse (h : Edits n as bs) : Edits n as.reverse bs.reverse := by
  induction n generalizing as with
  | zero => exact congrArg List.reverse h
  | succ n ih =>
    obtain ⟨as', hedit, hrest⟩ := h
    exact ⟨as'.reverse, hedit.reverse, ih hrest⟩

/-! ## Distances by the first characters -/

/-- The distance of two texts: their first characters are dropped, inserted, or match at no cost or
at that of a replacement. -/
def distance : List Char → List Char → Nat
  | [], bs => bs.length
  | as, [] => as.length
  | a :: as, b :: bs =>
    min (min (distance as (b :: bs) + 1) (distance (a :: as) bs + 1))
      (distance as bs + if a = b then 0 else 1)

@[simp] theorem distance_nil_left (bs : List Char) : distance [] bs = bs.length := by
  rw [distance]

@[simp] theorem distance_nil_right (as : List Char) : distance as [] = as.length := by
  cases as <;> simp [distance]

theorem distance_cons_cons (a b : Char) (as bs : List Char) :
    distance (a :: as) (b :: bs) =
      min (min (distance as (b :: bs) + 1) (distance (a :: as) bs + 1))
        (distance as bs + if a = b then 0 else 1) := by
  rw [distance]

theorem distance_self (as : List Char) : distance as as = 0 := by
  induction as with
  | nil => rw [distance_nil_left, List.length_nil]
  | cons a as ih => rw [distance_cons_cons, ih, if_pos rfl, Nat.min_zero]

/-! ## One edit -/

theorem distance_cons_left_le (a : Char) (as cs : List Char) :
    distance (a :: as) cs ≤ distance as cs + 1 := by
  cases cs with
  | nil => simp
  | cons c cs =>
    rw [distance_cons_cons]
    omega

theorem distance_cons_right_le (as : List Char) (c : Char) (cs : List Char) :
    distance as (c :: cs) ≤ distance as cs + 1 := by
  cases as with
  | nil => simp
  | cons a as =>
    rw [distance_cons_cons]
    omega

theorem le_distance_cons_left (a : Char) (as cs : List Char) :
    distance as cs ≤ distance (a :: as) cs + 1 := by
  induction cs with
  | nil =>
    rw [distance_nil_right, distance_nil_right, List.length_cons]
    omega
  | cons c cs ih =>
    have hstep := distance_cons_right_le as c cs
    rw [distance_cons_cons]
    omega

theorem distance_head_le (a b : Char) (as cs : List Char) :
    distance (a :: as) cs ≤ distance (b :: as) cs + 1 := by
  induction cs with
  | nil => simp
  | cons c cs ih =>
    rw [distance_cons_cons, distance_cons_cons]
    split <;> split <;> omega

theorem distance_append_le (front : List Char)
    (h : ∀ cs, distance as cs ≤ distance bs cs + 1) (cs : List Char) :
    distance (front ++ as) cs ≤ distance (front ++ bs) cs + 1 := by
  induction front generalizing cs with
  | nil => exact h cs
  | cons a front ih =>
    rw [List.cons_append, List.cons_append]
    induction cs with
    | nil =>
      have hback := ih []
      rw [distance_nil_right, distance_nil_right] at hback
      rw [distance_nil_right, distance_nil_right, List.length_cons, List.length_cons]
      omega
    | cons c cs ihc =>
      have hdrop := ih (c :: cs)
      have hmatch := ih cs
      rw [distance_cons_cons, distance_cons_cons]
      omega

/-- One edit changes the distance to any text by at most one. -/
theorem Edit.distance_le (h : Edit as bs) (cs : List Char) :
    distance as cs ≤ distance bs cs + 1 := by
  cases h with
  | insert front back c => exact distance_append_le front (le_distance_cons_left c back) cs
  | drop front back c => exact distance_append_le front (distance_cons_left_le c back) cs
  | replace front back c d => exact distance_append_le front (distance_head_le c d back) cs

/-! ## Chains of edits -/

theorem Edits.distance_le (h : Edits n as bs) : distance as bs ≤ n := by
  induction n generalizing as with
  | zero =>
    obtain rfl : as = bs := h
    rw [distance_self]
  | succ n ih =>
    obtain ⟨as', hedit, hrest⟩ := h
    have hstep := hedit.distance_le bs
    have hle := ih hrest
    omega

theorem edits_to_nil (as : List Char) : Edits as.length as [] := by
  induction as with
  | nil => rfl
  | cons a as ih => exact ⟨as, .drop [] as a, ih⟩

theorem edits_from_nil (bs : List Char) : Edits bs.length [] bs := by
  induction bs with
  | nil => rfl
  | cons b bs ih => exact ⟨[b], .insert [] [] b, ih.cons b⟩

theorem edits_distance (as bs : List Char) : Edits (distance as bs) as bs := by
  induction as, bs using distance.induct with
  | case1 bs =>
    rw [distance_nil_left]
    exact edits_from_nil bs
  | case2 as hne =>
    rw [distance_nil_right]
    exact edits_to_nil as
  | case3 a as b bs hdrop hinsert hmatch =>
    have hdropped : Edits (distance as (b :: bs) + 1) (a :: as) (b :: bs) :=
      ⟨as, .drop [] as a, hdrop⟩
    have hinserted : Edits (distance (a :: as) bs + 1) (a :: as) (b :: bs) :=
      ⟨b :: a :: as, .insert [] (a :: as) b, hinsert.cons b⟩
    have hmatched : Edits (distance as bs + if a = b then 0 else 1) (a :: as) (b :: bs) := by
      split
      · rename_i heq
        subst heq
        exact hmatch.cons a
      · exact ⟨b :: as, .replace [] as a b, hmatch.cons b⟩
    rw [distance_cons_cons]
    rcases min_choice (min (distance as (b :: bs) + 1) (distance (a :: as) bs + 1))
      (distance as bs + if a = b then 0 else 1) with h | h
    · rw [h]
      rcases min_choice (distance as (b :: bs) + 1) (distance (a :: as) bs + 1) with h | h
      · rwa [h]
      · rwa [h]
    · rwa [h]

/-! ## The table -/

/-- The distances of `as` from the texts that grow out of `bs`, one character after the other. -/
def cells (as bs : List Char) : List Char → List Nat
  | [] => []
  | d :: ds => distance as (d :: bs) :: cells as (d :: bs) ds

theorem nextCells_cells (c : Char) (as bs ds : List Char) :
    nextCells c ds (cells as bs ds) (distance as bs) (distance (c :: as) bs) =
      cells (c :: as) bs ds := by
  induction ds generalizing bs with
  | nil => rfl
  | cons d ds ih =>
    rw [cells, cells, nextCells, ← distance_cons_cons, ih]

theorem nextRow_cells (target as : List Char) (c : Char) :
    nextRow target (distance as [] :: cells as [] target) c =
      distance (c :: as) [] :: cells (c :: as) [] target := by
  have hcorner : distance (c :: as) [] = distance as [] + 1 := by simp
  rw [nextRow, ← hcorner, nextCells_cells]

theorem foldl_nextRow (target source as : List Char) :
    source.foldl (nextRow target) (distance as [] :: cells as [] target) =
      distance (source.reverse ++ as) [] :: cells (source.reverse ++ as) [] target := by
  induction source generalizing as with
  | nil => rfl
  | cons c source ih =>
    rw [List.foldl_cons, nextRow_cells, ih, List.reverse_cons, List.append_assoc,
      List.singleton_append]

theorem cells_nil (bs ds : List Char) : cells [] bs ds = List.range' (bs.length + 1) ds.length := by
  induction ds generalizing bs with
  | nil => rfl
  | cons d ds ih =>
    rw [cells, ih, distance_nil_left, List.length_cons, List.length_cons, List.range'_succ]

theorem getLastD_cells (as bs ds : List Char) :
    (distance as bs :: cells as bs ds).getLastD 0 = distance as (ds.reverse ++ bs) := by
  induction ds generalizing bs with
  | nil => rfl
  | cons d ds ih =>
    have hlast := ih (d :: bs)
    rw [List.getLastD_cons] at hlast
    rw [cells, List.getLastD_cons, List.getLastD_cons, hlast, List.reverse_cons,
      List.append_assoc, List.singleton_append]

/-- The last cell of the table is the distance of the texts read backwards. -/
theorem editDistance_eq (source target : List Char) :
    editDistance source target = distance source.reverse target.reverse := by
  have hrow : List.range (target.length + 1) = distance [] [] :: cells [] [] target := by
    rw [cells_nil, distance_nil_left, List.range_eq_range', List.range'_succ]
    rfl
  rw [editDistance, hrow, foldl_nextRow, getLastD_cells, List.append_nil, List.append_nil]

theorem isLeast_editDistance (source target : List Char) :
    IsLeast {n | Edits n source target} (editDistance source target) := by
  rw [editDistance_eq]
  constructor
  · have h := (edits_distance source.reverse target.reverse).reverse
    rwa [List.reverse_reverse, List.reverse_reverse] at h
  · intro n h
    exact h.reverse.distance_le

end NumberRules
