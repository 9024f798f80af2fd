import Mathlib
import NumberRules.Proofs.Double.Rounding

/-! # Rounding is to the nearest double

`Nearest y u` says of a count of units `u` that it lies on the grid of doubles, that no count on the
grid is nearer to `y`, and that its significand is even if another one is as near.  `IsNearest q x`
says that the double `x` is the rational `q` rounded once: to the nearest count on the grid, or to
an infinity if that count is beyond the finite range.  Both determine their second argument.
-/

namespace NumberRules
set_option autoImplicit false

variable {num den : Nat}

/-! ## Nearest integers -/

theorem abs_sub_nearestEven_le (num : Nat) (hden : 0 < den) :
    |(num : ℚ) / den - nearestEven num den| ≤ 1 / 2 := by
  have hpos : (0 : ℚ) < den := by exact_mod_cast hden
  have hupper : 2 * (num : ℚ) ≤ 2 * (nearestEven num den * den) + den := by
    exact_mod_cast le_two_mul_nearestEven num hden
  have hlower : 2 * ((nearestEven num den : ℚ) * den) ≤ 2 * num + den := by
    exact_mod_cast two_mul_nearestEven_le num hden
  rw [abs_le]
  constructor
  · rw [le_sub_iff_add_le, le_div_iff₀ hpos]
    linarith
  · rw [sub_le_iff_le_add, div_le_iff₀ hpos]
    linarith

theorem nearestEven_even (hden : 0 < den)
    (h : |(num : ℚ) / den - nearestEven num den| = 1 / 2) : Even (nearestEven num den) := by
  have hne : (den : ℚ) ≠ 0 := by exact_mod_cast Nat.ne_of_gt hden
  refine Nat.even_iff.2 (nearestEven_even_of_tie hden ?_)
  rcases eq_or_eq_neg_of_abs_eq h with habove | hbelow
  · left
    have hnum : (num : ℚ) = (nearestEven num den + 1 / 2) * den := by
      rw [← div_eq_iff hne]
      linarith
    have hdouble : 2 * (num : ℚ) = 2 * (nearestEven num den * den) + den := by
      rw [hnum]
      ring
    exact_mod_cast hdouble
  · right
    have hnum : (num : ℚ) = (nearestEven num den - 1 / 2) * den := by
      rw [← div_eq_iff hne]
      linarith
    have hdouble : 2 * ((nearestEven num den : ℚ) * den) = 2 * num + den := by
      rw [hnum]
      ring
    exact_mod_cast hdouble

/-- Two integers are at least one apart, so one of them is at least a half away. -/
theorem half_le_abs_sub {y : ℚ} {m k : Nat} (hne : k ≠ m) (h : |y - m| ≤ 1 / 2) :
    1 / 2 ≤ |y - k| := by
  have hapart : (1 : ℚ) ≤ |(k : ℚ) - m| := by
    have hint : (1 : Int) ≤ |(k : Int) - m| := by
      refine Int.one_le_abs ?_
      omega
    exact_mod_cast hint
  have htriangle : |(k : ℚ) - m| ≤ |(k : ℚ) - y| + |y - m| := abs_sub_le _ _ _
  rw [abs_sub_comm (k : ℚ) y] at htriangle
  linarith

namespace Double

/-! ## The grid -/

/-- Where the gap is `2 ^ e`, a multiple of it keeps that gap until the next power of two. -/
theorem gap_mul {m e : Nat} (hm : m < 2 ^ 53) (he : e = 0 ∨ 2 ^ 52 ≤ m) :
    gap (m * 2 ^ e) = 2 ^ e := by
  rcases he with rfl | hle
  · rw [pow_zero, Nat.mul_one]
    exact gap_eq_one hm
  · have hne : m * 2 ^ e ≠ 0 :=
      Nat.mul_ne_zero (by omega) (Nat.ne_of_gt (Nat.two_pow_pos e))
    have hlog : (m * 2 ^ e).log2 = 52 + e := by
      rw [Nat.log2_eq_iff hne]
      constructor
      · rw [Nat.pow_add]
        exact Nat.mul_le_mul_right _ hle
      · rw [show 52 + e + 1 = 53 + e by omega, Nat.pow_add]
        exact Nat.mul_lt_mul_of_pos_right hm (Nat.two_pow_pos e)
    rw [gap, hlog, Nat.add_sub_cancel_left]

/-- The gap at a size is one, or the size has 53 bits above it. -/
theorem gap_cases (units : Nat) : ∃ e, gap units = 2 ^ e ∧ (e = 0 ∨ 2 ^ 52 ≤ units / 2 ^ e) := by
  refine ⟨units.log2 - 52, rfl, ?_⟩
  by_cases h : units.log2 ≤ 52
  · left
    omega
  · right
    have hne : units ≠ 0 := by
      rintro rfl
      simp at h
    rw [Nat.le_div_iff_mul_le (Nat.two_pow_pos _), ← Nat.pow_add]
    exact (Nat.pow_le_pow_right Nat.two_pos (by omega)).trans (Nat.log2_self_le hne)

theorem gap_dvd_gap {u v : Nat} (h : u ≤ v) : gap u ∣ gap v := by
  refine Nat.pow_dvd_pow 2 (Nat.sub_le_sub_right ?_ 52)
  rcases Nat.eq_zero_or_pos u with h0 | hpos
  · rw [h0, Nat.log2_zero]
    exact Nat.zero_le _
  · exact (Nat.le_log2 (by omega)).2 ((Nat.log2_self_le (by omega)).trans h)

/-- A count on the grid that is no multiple of the gap at `size` lies below the power of two
that begins the binade of `size`. -/
theorem lt_two_pow_of_not_dvd {size v : Nat} (hv : gap v ∣ v) (h : ¬gap size ∣ v) :
    v < 2 ^ size.log2 := by
  by_contra hle
  have hne : v ≠ 0 := by
    rintro rfl
    exact h (Nat.dvd_zero _)
  have hlog : size.log2 ≤ v.log2 := (Nat.le_log2 hne).2 (Nat.le_of_not_lt hle)
  have hgap : gap size ∣ gap v := Nat.pow_dvd_pow 2 (Nat.sub_le_sub_right hlog 52)
  exact h (hgap.trans hv)

/-- The significand of a count with 53 bits is even if the count is an even multiple of its gap. -/
theorem even_div_gap {m e : Nat} (hm : m ≤ 2 ^ 53) (he : e = 0 ∨ 2 ^ 52 ≤ m) (heven : Even m) :
    Even (m * 2 ^ e / gap (m * 2 ^ e)) := by
  rcases Nat.lt_or_eq_of_le hm with hlt | heq
  · rw [gap_mul hlt he, Nat.mul_div_cancel _ (Nat.two_pow_pos e)]
    exact heven
  · have hgap : gap (m * 2 ^ e) = 2 ^ (1 + e) := by
      rw [heq, ← Nat.pow_add, gap, Nat.log2_two_pow]
      congr 1
      omega
    have hsplit : m * 2 ^ e = 2 ^ 52 * 2 ^ (1 + e) := by
      rw [heq, ← Nat.pow_add, ← Nat.pow_add]
      congr 1
      omega
    rw [hgap, hsplit, Nat.mul_div_cancel _ (Nat.two_pow_pos _)]
    exact ⟨2 ^ 51, by norm_num⟩

/-! ## The nearest count -/

/-- The count of units on the grid of doubles that is nearest to `y`; of two such counts the one
with the even significand. -/
structure Nearest (y : ℚ) (units : Nat) : Prop where
  onGrid : gap units ∣ units
  least : ∀ v, gap v ∣ v → |y - units| ≤ |y - v|
  /-- If another one is as near, the significand is even. -/
  even : ∀ v, gap v ∣ v → v ≠ units → |y - v| = |y - units| → Even (units / gap units)

section

variable (num) (hden : 0 < den)
include hden

theorem abs_sub_mul_gap (k : Nat) :
    |(num : ℚ) / den - (k * gap (num / den) : Nat)| =
      gap (num / den) * |(num : ℚ) / (den * gap (num / den) : Nat) - k| := by
  have hd : (den : ℚ) ≠ 0 := by exact_mod_cast Nat.ne_of_gt hden
  have hgap : (0 : ℚ) < gap (num / den) := by exact_mod_cast gap_pos (num / den)
  have hsplit : (num : ℚ) / den - (k * gap (num / den) : Nat) =
      gap (num / den) * ((num : ℚ) / (den * gap (num / den) : Nat) - k) := by
    push_cast
    field_simp
  rw [hsplit, abs_mul, abs_of_pos hgap]

/-- On the grid at the size of the quotient no count is nearer than the rounded one, and a count
that is as near means that the multiple is even. -/
theorem roundUnits_nearest_of_dvd {v : Nat} (hv : gap (num / den) ∣ v)
    (hne : v ≠ roundUnits num den) :
    |(num : ℚ) / den - roundUnits num den| ≤ |(num : ℚ) / den - v| ∧
      (|(num : ℚ) / den - v| = |(num : ℚ) / den - roundUnits num den| →
        Even (nearestEven num (den * gap (num / den)))) := by
  obtain ⟨k, rfl⟩ := hv
  have hstep : 0 < den * gap (num / den) := Nat.mul_pos hden (gap_pos _)
  have hgap : (0 : ℚ) < gap (num / den) := by exact_mod_cast gap_pos (num / den)
  have hround : roundUnits num den =
      nearestEven num (den * gap (num / den)) * gap (num / den) := rfl
  have hk : k ≠ nearestEven num (den * gap (num / den)) := by
    rintro rfl
    exact hne (by rw [hround, Nat.mul_comm])
  have hhalf := abs_sub_nearestEven_le num hstep
  have hother := half_le_abs_sub hk hhalf
  rw [Nat.mul_comm (gap (num / den)) k, hround, abs_sub_mul_gap num hden, abs_sub_mul_gap num hden]
  constructor
  · exact mul_le_mul_of_nonneg_left (hhalf.trans hother) hgap.le
  · intro htie
    have hequal := mul_left_cancel₀ hgap.ne' htie
    exact nearestEven_even hstep (le_antisymm hhalf (hequal ▸ hother))

/-- Off that grid every count is farther, since it lies below the binade. -/
theorem roundUnits_nearest_of_not_dvd {v : Nat} (hv : gap v ∣ v) (hnot : ¬gap (num / den) ∣ v) :
    |(num : ℚ) / den - roundUnits num den| < |(num : ℚ) / den - v| := by
  have hlt := lt_two_pow_of_not_dvd hv hnot
  have hsize : num / den ≠ 0 := by
    intro h0
    rw [h0] at hnot
    exact hnot (one_dvd v)
  have hbegin : 2 ^ (num / den).log2 ≤ num / den := Nat.log2_self_le hsize
  have hdvd : gap (num / den) ∣ 2 ^ (num / den).log2 := Nat.pow_dvd_pow 2 (Nat.sub_le _ _)
  have hfloor : ((num / den : Nat) : ℚ) ≤ (num : ℚ) / den := Nat.cast_div_le
  have hvq : (v : ℚ) < (2 ^ (num / den).log2 : Nat) := by exact_mod_cast hlt
  have hbeginq : ((2 ^ (num / den).log2 : Nat) : ℚ) ≤ (num / den : Nat) := by exact_mod_cast hbegin
  have hle : |(num : ℚ) / den - roundUnits num den| ≤
      |(num : ℚ) / den - (2 ^ (num / den).log2 : Nat)| := by
    by_cases heq : 2 ^ (num / den).log2 = roundUnits num den
    · rw [heq]
    · exact (roundUnits_nearest_of_dvd num hden hdvd heq).1
  rw [abs_of_nonneg (by linarith : 0 ≤ (num : ℚ) / den - (2 ^ (num / den).log2 : Nat))] at hle
  rw [abs_of_nonneg (by linarith : 0 ≤ (num : ℚ) / den - v)]
  linarith

theorem nearest_roundUnits : Nearest ((num : ℚ) / den) (roundUnits num den) where
  onGrid := gap_dvd_roundUnits num den
  least v hv := by
    by_cases heq : v = roundUnits num den
    · rw [heq]
    · by_cases hdvd : gap (num / den) ∣ v
      · exact (roundUnits_nearest_of_dvd num hden hdvd heq).1
      · exact (roundUnits_nearest_of_not_dvd num hden hv hdvd).le
  even v hv hne htie := by
    have hdvd : gap (num / den) ∣ v := by
      by_contra hnot
      exact (roundUnits_nearest_of_not_dvd num hden hv hnot).ne htie.symm
    have heven := (roundUnits_nearest_of_dvd num hden hdvd hne).2 htie
    obtain ⟨e, hgap, hsize⟩ := gap_cases (num / den)
    have hupper : nearestEven num (den * gap (num / den)) ≤ 2 ^ 53 := by
      refine (nearestEven_le _ _).trans ?_
      rw [← Nat.div_div_eq_div_mul]
      exact div_gap_lt (num / den)
    have hlower : e = 0 ∨ 2 ^ 52 ≤ nearestEven num (den * gap (num / den)) := by
      refine hsize.imp_right fun h => h.trans ?_
      rw [← hgap, Nat.div_div_eq_div_mul]
      exact le_nearestEven _ _
    rw [roundUnits]
    rw [hgap] at hupper hlower heven ⊢
    exact even_div_gap hupper hlower heven

/-- Rounding does not go below a count on the grid. -/
theorem le_roundUnits_of_le {v : Nat} (hv : gap v ∣ v) (h : v * den ≤ num) :
    v ≤ roundUnits num den := by
  by_contra hlt
  have hpos : (0 : ℚ) < den := by exact_mod_cast hden
  have hbelow : (roundUnits num den : ℚ) < v := by exact_mod_cast Nat.lt_of_not_le hlt
  have hle : (v : ℚ) ≤ (num : ℚ) / den := by
    rw [le_div_iff₀ hpos]
    exact_mod_cast h
  have hleast := (nearest_roundUnits num hden).least v hv
  rw [abs_of_nonneg (by linarith), abs_of_nonneg (by linarith)] at hleast
  linarith

/-- Rounding does not go above a count on the grid. -/
theorem roundUnits_le_of_le {v : Nat} (hv : gap v ∣ v) (h : num ≤ v * den) :
    roundUnits num den ≤ v := by
  by_contra hlt
  have hpos : (0 : ℚ) < den := by exact_mod_cast hden
  have habove : (v : ℚ) < roundUnits num den := by exact_mod_cast Nat.lt_of_not_le hlt
  have hle : (num : ℚ) / den ≤ v := by
    rw [div_le_iff₀ hpos]
    exact_mod_cast h
  have hleast := (nearest_roundUnits num hden).least v hv
  rw [abs_sub_comm, abs_sub_comm _ (v : ℚ), abs_of_nonneg (by linarith),
    abs_of_nonneg (by linarith)] at hleast
  linarith

/-- What lies above a count on the grid by less than half its gap is rounded to it. -/
theorem roundUnits_of_near {units : Nat} (hgrid : gap units ∣ units) (hle : units * den ≤ num)
    (hlt : 2 * num < 2 * (units * den) + den * gap units) : roundUnits num den = units := by
  have hlower := le_roundUnits_of_le num hden hgrid hle
  by_contra hne
  have habove : units < roundUnits num den := by omega
  -- The next count on the grid is a whole gap away.
  have hstep : units + gap units ≤ roundUnits num den := by
    have hdvd : gap units ∣ roundUnits num den - units :=
      Nat.dvd_sub ((gap_dvd_gap hlower).trans (gap_dvd_roundUnits num den)) hgrid
    have := Nat.le_of_dvd (by omega) hdvd
    omega
  have hpos : (0 : ℚ) < den := by exact_mod_cast hden
  have hstepq : (units : ℚ) + gap units ≤ roundUnits num den := by exact_mod_cast hstep
  have hleq : (units : ℚ) ≤ (num : ℚ) / den := by
    rw [le_div_iff₀ hpos]
    exact_mod_cast hle
  have hltq : (num : ℚ) / den < units + gap units / 2 := by
    have hcast : 2 * (num : ℚ) < 2 * (units * den) + den * gap units := by exact_mod_cast hlt
    rw [div_lt_iff₀ hpos]
    linarith
  have hgap : (0 : ℚ) < gap units := by exact_mod_cast gap_pos units
  have hleast := (nearest_roundUnits num hden).least units hgrid
  rw [abs_sub_comm, abs_of_nonneg (by linarith), abs_of_nonneg (by linarith)] at hleast
  linarith

end

/-! ## There is only one -/

theorem add_gap_eq {units : Nat} (h : gap units ∣ units) :
    units + gap units = (units / gap units + 1) * gap units := by
  rw [Nat.add_mul, Nat.one_mul, Nat.div_mul_cancel h]

/-- The next multiple of the gap lies on the grid, too. -/
theorem gap_dvd_add_gap {units : Nat} (h : gap units ∣ units) :
    gap (units + gap units) ∣ units + gap units := by
  have hlt := div_gap_lt units
  rw [add_gap_eq h]
  rcases Nat.lt_or_eq_of_le (Nat.succ_le_of_lt hlt) with hbelow | hequal
  · exact gap_dvd_of_lt hbelow
  · have hgap : gap units = 2 ^ (units.log2 - 52) := rfl
    rw [show units / gap units + 1 = 2 ^ 53 from hequal, hgap, ← Nat.pow_add]
    exact gap_dvd_pow _

/-- Two neighbours on the grid do not both have an even significand. -/
theorem odd_of_even {u : Nat} (hu : gap u ∣ u) (heven : Even (u / gap u)) :
    ¬Even ((u + gap u) / gap (u + gap u)) := by
  obtain ⟨e, hgap, hsize⟩ := gap_cases u
  have hlt := div_gap_lt u
  rw [add_gap_eq hu]
  rw [hgap] at heven hlt ⊢
  have hodd : u / 2 ^ e % 2 = 0 := Nat.even_iff.1 heven
  have hbelow : u / 2 ^ e + 1 < 2 ^ 53 := by omega
  rw [gap_mul hbelow (hsize.imp_right Nat.le_succ_of_le), Nat.mul_div_cancel _ (Nat.two_pow_pos e),
    Nat.even_iff]
  omega

theorem Nearest.not_lt {y : ℚ} {u v : Nat} (hu : Nearest y u) (hv : Nearest y v) : ¬u < v := by
  intro hlt
  have hltq : (u : ℚ) < v := by exact_mod_cast hlt
  have hequal : |y - v| = |y - u| :=
    le_antisymm (hv.least u hu.onGrid) (hu.least v hv.onGrid)
  -- Equally near on both sides, so `y` is in the middle.
  have hmiddle : y - v = -(y - u) := by
    refine (abs_eq_abs.1 hequal).resolve_left fun h => ?_
    linarith
  have hdistance : |y - u| = (v - u) / 2 := by
    rw [abs_of_nonneg (by linarith)]
    linarith
  have hle : v ≤ u + gap u := by
    by_contra hbetween
    have hnear := hu.least (u + gap u) (gap_dvd_add_gap hu.onGrid)
    have hgap : (0 : ℚ) < gap u := by exact_mod_cast gap_pos u
    have hbelow : ((u + gap u : Nat) : ℚ) < v := by exact_mod_cast Nat.lt_of_not_le hbetween
    have hcloser : |y - (u + gap u : Nat)| < (v - u) / 2 := by
      rw [abs_lt]
      push_cast at hbelow ⊢
      constructor <;> linarith
    rw [hdistance] at hnear
    exact absurd hnear (not_le.2 hcloser)
  have hstep : gap u ≤ v - u := by
    refine Nat.le_of_dvd (by omega) (Nat.dvd_sub ?_ hu.onGrid)
    exact (gap_dvd_gap hlt.le).trans hv.onGrid
  have hnext : v = u + gap u := by omega
  have heven := hu.even v hv.onGrid (Nat.ne_of_gt hlt) hequal
  have heven' := hv.even u hu.onGrid (Nat.ne_of_lt hlt) hequal.symm
  rw [hnext] at heven'
  exact odd_of_even hu.onGrid heven heven'

theorem Nearest.unique {y : ℚ} {u v : Nat} (hu : Nearest y u) (hv : Nearest y v) : u = v :=
  Nat.le_antisymm (Nat.le_of_not_lt (hv.not_lt hu)) (Nat.le_of_not_lt (hu.not_lt hv))

/-! ## The nearest double -/

/-- The double that a rational is rounded to: its nearest count of units, or an infinity if that
count is beyond the finite range. -/
inductive IsNearest (q : ℚ) : Double → Prop
  /-- The nearest count is in the finite range. -/
  | finite {units : Nat} (h : Nearest (|q| * unitsPerOne) units) (hrange : Representable units) :
      IsNearest q (.finite (decide (q < 0)) units hrange)
  /-- The nearest count is not in the finite range. -/
  | inf {units : Nat} (h : Nearest (|q| * unitsPerOne) units) (hrange : unitLimit ≤ units) :
      IsNearest q (.inf (decide (q < 0)))

/-- A rational is rounded to one double only. -/
theorem IsNearest.unique {q : ℚ} {x y : Double} (hx : IsNearest q x) (hy : IsNearest q y) :
    x = y := by
  cases hx with
  | finite hx hxrange =>
    cases hy with
    | finite hy hyrange => exact finite_congr (hx.unique hy)
    | inf hy hyrange =>
      have hsame := hx.unique hy
      exact absurd hxrange.1 (by omega)
  | inf hx hxrange =>
    cases hy with
    | finite hy hyrange =>
      have hsame := hx.unique hy
      exact absurd hyrange.1 (by omega)
    | inf hy hyrange => rfl

theorem isNearest_ofUnits {q : ℚ} {negative : Bool} (hden : 0 < den)
    (hq : |q| * unitsPerOne = (num : ℚ) / den) (hsign : negative = decide (q < 0)) :
    IsNearest q (ofUnits negative num den) := by
  have hnearest := nearest_roundUnits num hden
  rw [← hq] at hnearest
  rw [hsign]
  by_cases hlt : roundUnits num den < unitLimit
  · rw [ofUnits_of_lt hlt]
    exact .finite hnearest (representable_roundUnits hlt)
  · rw [ofUnits, dif_neg hlt]
    exact .inf hnearest (Nat.le_of_not_lt hlt)

theorem isNearest_ofQuotient (num : Nat) (hden : 0 < den) :
    IsNearest ((num : ℚ) / den) (ofQuotient num den) := by
  have hnonneg : (0 : ℚ) ≤ (num : ℚ) / den := by positivity
  refine isNearest_ofUnits hden ?_ (decide_eq_false (not_lt.2 hnonneg)).symm
  rw [abs_of_nonneg hnonneg]
  push_cast
  ring

theorem isNearest_ofNat (n : Nat) : IsNearest n (ofNat n) := by
  have h := isNearest_ofQuotient n Nat.one_pos
  rwa [Nat.cast_one, div_one] at h

theorem isNearest_ofInt (z : Int) : IsNearest z (ofInt z) := by
  refine isNearest_ofUnits Nat.one_pos ?_ ?_
  · push_cast
    rw [div_one, Nat.cast_natAbs, Int.cast_abs]
  · simp only [Int.cast_lt_zero]

end Double

end NumberRules
