/-
# Columns in units of their own

Standardizing divides every column by its deviation, so that its units are divided out again
(`Scheme.standardize_apply_scaleColumns`).  This is so for columns of two kinds only.

* A column that varies is divided by its deviation, which carries the units.
* A column whose entries are all the same (`Mat.Level`) has no deviation.  It is divided by one,
  and the training rows are zero in it; but new rows need not be, and are still in their units.

Between the two are columns that vary by no more than the guard tolerates beside their largest entry
(`Mat.NearlyLevel`).  They are divided by one too, and then the training rows themselves are still
in their units.
-/
import Mathlib
import PartialLeastSquares.Proofs.Preprocessing
import PartialLeastSquares.Proofs.Reordering.Data

namespace PartialLeastSquares

variable {n m p : ℕ}

/-! ## 1. Columns -/

namespace Mat

/-- **Every column of a matrix times a factor of its own.** -/
def scaleColumns {K : Type} [Scalar K] (c : Fin p → K) (x : Mat K m p) : Mat K m p :=
  Mat.ofFn fun i j => x.get i j * c j

@[simp] theorem get_scaleColumns {K : Type} [Scalar K] (c : Fin p → K) (x : Mat K m p) (i : Fin m)
    (j : Fin p) : (x.scaleColumns c).get i j = x.get i j * c j :=
  get_ofFn _ i j

/-- **A column is level** if all its entries are the same. -/
def Level (x : Mat ℝ n p) (j : Fin p) : Prop := ∀ i i', x.get i j = x.get i' j

/-- **A column is nearly level** if it is not level, but its deviation vanishes beside its largest
entry. -/
def NearlyLevel (x : Mat ℝ n p) (j : Fin p) : Prop :=
  ¬ x.Level j ∧
    (columnDeviations x (columnMeans x)).get j ≤ Scalar.zeroNorm * (columnPeaks x).get j

/-- **A column is idle** if all its entries are zero. -/
def Idle (x : Mat ℝ n p) (j : Fin p) : Prop := ∀ i, x.get i j = 0

theorem level_of_le_one (hn : n ≤ 1) (x : Mat ℝ n p) (j : Fin p) : x.Level j := by
  intro i i'
  have hsame : i = i' := Fin.ext (by omega)
  rw [hsame]

end Mat

/-! ## 2. Statistics -/

section Statistics

variable {c : Fin p → ℝ} {x : Mat ℝ n p} {j : Fin p}

theorem columnMeans_scaleColumns (c : Fin p → ℝ) (x : Mat ℝ n p) (j : Fin p) :
    (columnMeans (x.scaleColumns c)).get j = (columnMeans x).get j * c j := by
  rw [columnMeans, Vec.get_ofFn, columnMeans, Vec.get_ofFn, Scalar.sum_real, Scalar.sum_real]
  simp only [Mat.get_scaleColumns]
  rw [← Finset.sum_mul, div_mul_eq_mul_div]

theorem columnDeviations_scaleColumns (hc : 0 < c j) (x : Mat ℝ n p) :
    (columnDeviations (x.scaleColumns c) (columnMeans (x.scaleColumns c))).get j =
      (columnDeviations x (columnMeans x)).get j * c j := by
  have hterm : ∀ i : Fin n, (x.get i j * c j - (columnMeans x).get j * c j) *
      (x.get i j * c j - (columnMeans x).get j * c j) =
        (x.get i j - (columnMeans x).get j) * (x.get i j - (columnMeans x).get j) *
          (c j * c j) := by
    intro i
    ring
  rw [columnDeviations, Vec.get_ofFn, columnDeviations, Vec.get_ofFn, Scalar.sum_real,
    Scalar.sum_real]
  simp only [Mat.get_scaleColumns, columnMeans_scaleColumns, hterm]
  rw [← Finset.sum_mul, mul_div_right_comm]
  exact (Real.sqrt_mul' _ (mul_self_nonneg _)).trans
    (congrArg _ (Real.sqrt_mul_self hc.le))

theorem columnPeaks_scaleColumns (hc : 0 < c j) (x : Mat ℝ n p) :
    (columnPeaks (x.scaleColumns c)).get j = (columnPeaks x).get j * c j := by
  rw [columnPeaks, Vec.get_ofFn, columnPeaks, Vec.get_ofFn]
  refine eq_of_forall_ge_iff fun r => ?_
  rw [Vec.maxAbs_le_iff, ← le_div_iff₀ hc, Vec.maxAbs_le_iff, le_div_iff₀ hc, zero_mul]
  simp only [Mat.get_col, Mat.get_scaleColumns, abs_mul, abs_of_pos hc, le_div_iff₀ hc]

theorem columnPeaks_nonneg (x : Mat ℝ n p) (j : Fin p) : 0 ≤ (columnPeaks x).get j := by
  rw [columnPeaks, Vec.get_ofFn]
  exact ((Vec.maxAbs_le_iff _ _).mp le_rfl).1

theorem Mat.Level.mean (h : x.Level j) (i : Fin n) : (columnMeans x).get j = x.get i j := by
  have hn : (n : ℝ) ≠ 0 := Nat.cast_ne_zero.mpr i.pos.ne'
  rw [columnMeans, Vec.get_ofFn, Scalar.sum_real, Finset.sum_congr rfl fun l _ => h l i,
    Finset.sum_const, Finset.card_univ, Fintype.card_fin, nsmul_eq_mul, Scalar.ofNat_real,
    mul_div_cancel_left₀ _ hn]

theorem Mat.Level.deviation (h : x.Level j) : (columnDeviations x (columnMeans x)).get j = 0 := by
  have hterm : ∀ i : Fin n, (x.get i j - (columnMeans x).get j) *
      (x.get i j - (columnMeans x).get j) = 0 := by
    intro i
    rw [h.mean i, sub_self, zero_mul]
  rw [columnDeviations, Vec.get_ofFn, Scalar.sum_real]
  simp only [hterm, Finset.sum_const_zero]
  rw [zero_div]
  exact Real.sqrt_zero

namespace Scheme

/-- **What a standardized column is divided by.** -/
theorem standardize_scale (x : Mat ℝ n p) (j : Fin p) :
    (standardize.learn x).scale.get j =
      if 1 < n ∧ Scalar.zeroNorm * (columnPeaks x).get j <
          (columnDeviations x (columnMeans x)).get j
      then (columnDeviations x (columnMeans x)).get j else 1 := by
  unfold learn
  dsimp only
  rw [Vec.get_ofFn]
  by_cases hn : 1 < n
  · rw [if_pos hn]
    by_cases hdeviation : (columnDeviations x (columnMeans x)).get j ≤
        Scalar.zeroNorm * (columnPeaks x).get j
    · rw [if_pos hdeviation, if_neg fun h => absurd h.2 (not_lt.mpr hdeviation)]
    · rw [if_neg hdeviation, if_pos ⟨hn, not_le.mp hdeviation⟩]
  · rw [if_neg hn, Vec.get_ofFn, ite_self, if_neg fun h => hn h.1]

/-- **No scale is zero,** whatever the scheme. -/
theorem scale_pos (scheme : Scheme) (x : Mat ℝ n p) (j : Fin p) :
    0 < (scheme.learn x).scale.get j := by
  cases scheme with
  | none => exact one_pos.trans_eq (Vec.get_ofFn (fun _ => (1 : ℝ)) j).symm
  | center => exact one_pos.trans_eq (Vec.get_ofFn (fun _ => (1 : ℝ)) j).symm
  | standardize =>
    rw [standardize_scale]
    split
    · rename_i hlarge
      exact (mul_nonneg Scalar.zeroNorm_pos.le (columnPeaks_nonneg x j)).trans_lt hlarge.2
    · exact one_pos

theorem standardize_scale_of_level (h : x.Level j) : (standardize.learn x).scale.get j = 1 := by
  rw [standardize_scale, h.deviation, if_neg]
  rintro ⟨-, hlt⟩
  exact absurd hlt (not_lt.mpr (mul_nonneg Scalar.zeroNorm_pos.le (columnPeaks_nonneg x j)))

/-- **A column that varies is divided by its deviation,** which is more than its peak makes of the
guard. -/
theorem standardize_scale_of_varying (h : ¬ x.Level j) (hnear : ¬ x.NearlyLevel j) :
    (standardize.learn x).scale.get j = (columnDeviations x (columnMeans x)).get j ∧
      Scalar.zeroNorm * (columnPeaks x).get j < (columnDeviations x (columnMeans x)).get j := by
  have hn : 1 < n := by
    by_contra hn
    exact h (x.level_of_le_one (not_lt.mp hn) j)
  have hlt := not_le.mp fun hle => hnear ⟨h, hle⟩
  rw [standardize_scale, if_pos ⟨hn, hlt⟩]
  exact ⟨rfl, hlt⟩

/-- **In other units a column that varies is divided by as much more.** -/
theorem standardize_scale_scaleColumns (hc : 0 < c j) (h : ¬ x.Level j)
    (hnear : ¬ x.NearlyLevel j) :
    (standardize.learn (x.scaleColumns c)).scale.get j =
      (standardize.learn x).scale.get j * c j := by
  obtain ⟨hscale, hlt⟩ := standardize_scale_of_varying h hnear
  have hn : 1 < n := by
    by_contra hn
    exact h (x.level_of_le_one (not_lt.mp hn) j)
  rw [hscale, standardize_scale, columnDeviations_scaleColumns hc, columnPeaks_scaleColumns hc,
    if_pos]
  refine ⟨hn, ?_⟩
  rw [← mul_assoc]
  exact mul_lt_mul_of_pos_right hlt hc

theorem standardize_scale_of_eq_one (hc : c j = 1) (x : Mat ℝ n p) :
    (standardize.learn (x.scaleColumns c)).scale.get j = (standardize.learn x).scale.get j := by
  have hpos : 0 < c j := hc ▸ one_pos
  rw [standardize_scale, columnDeviations_scaleColumns hpos, columnPeaks_scaleColumns hpos, hc,
    mul_one, mul_one, standardize_scale]

/-- **A nearly level column is divided by one in any units.** -/
theorem standardize_scale_of_nearlyLevel (hc : 0 < c j) (h : x.NearlyLevel j) :
    (standardize.learn (x.scaleColumns c)).scale.get j = 1 := by
  rw [standardize_scale, columnDeviations_scaleColumns hc, columnPeaks_scaleColumns hc, if_neg]
  rintro ⟨-, hlt⟩
  rw [← mul_assoc] at hlt
  exact absurd h.2 (not_le.mpr (lt_of_mul_lt_mul_right hlt hc.le))

theorem standardize_mean_scaleColumns (c : Fin p → ℝ) (x : Mat ℝ n p) (j : Fin p) :
    (standardize.learn (x.scaleColumns c)).mean.get j =
      (standardize.learn x).mean.get j * c j :=
  columnMeans_scaleColumns c x j

/-- **Units are divided out again** in every column that is not level, unless it is nearly so; and
a factor of one is none. -/
theorem standardize_apply_scaleColumns (hc : 0 < c j) (hnear : x.NearlyLevel j → c j = 1)
    (hlevel : x.Level j → c j = 1) (new : Mat ℝ m p) (i : Fin m) :
    ((standardize.learn (x.scaleColumns c)).apply (new.scaleColumns c)).get i j =
      ((standardize.learn x).apply new).get i j := by
  rw [ColumnStats.get_apply, ColumnStats.get_apply, Mat.get_scaleColumns,
    standardize_mean_scaleColumns]
  by_cases hone : c j = 1
  · rw [standardize_scale_of_eq_one hone, hone, mul_one, mul_one]
  · rw [standardize_scale_scaleColumns hc (fun h => hone (hlevel h)) fun h => hone (hnear h),
      ← sub_mul, mul_div_mul_right _ _ hc.ne']

/-- **So a nearly level column is still in its units** when it is standardized. -/
theorem standardize_apply_of_nearlyLevel (hc : 0 < c j) (h : x.NearlyLevel j) (new : Mat ℝ m p)
    (i : Fin m) :
    ((standardize.learn (x.scaleColumns c)).apply (new.scaleColumns c)).get i j =
      (new.get i j - (columnMeans x).get j) * c j := by
  rw [ColumnStats.get_apply, Mat.get_scaleColumns, standardize_mean_scaleColumns,
    standardize_scale_of_nearlyLevel hc h, div_one, sub_mul]
  rfl

/-- **The training rows are zero in a level column.** -/
theorem idle_of_level (h : x.Level j) : ((standardize.learn x).apply x).Idle j := by
  intro i
  rw [ColumnStats.get_apply, show (standardize.learn x).mean.get j = x.get i j from h.mean i,
    sub_self, zero_div]

/-- In a level column a new row that has the value of the training rows is zero, too. -/
theorem standardize_apply_of_level (h : x.Level j) (c : Fin p → ℝ) (new : Mat ℝ m p) {i : Fin m}
    (hnew : ∃ l, new.get i j = x.get l j) :
    ((standardize.learn (x.scaleColumns c)).apply (new.scaleColumns c)).get i j =
      ((standardize.learn x).apply new).get i j := by
  obtain ⟨l, hl⟩ := hnew
  have hmean : (standardize.learn x).mean.get j = new.get i j := (h.mean l).trans hl.symm
  rw [ColumnStats.get_apply, ColumnStats.get_apply, Mat.get_scaleColumns,
    standardize_mean_scaleColumns, hmean, sub_self, sub_self, zero_div, zero_div]

/-- **Standardized training rows do not depend on the units of any column,** if the nearly level
ones are left as they are. -/
theorem standardize_predictors_scaleColumns (hc : ∀ j, 0 < c j)
    (hnear : ∀ j, x.NearlyLevel j → c j = 1) :
    (standardize.learn (x.scaleColumns c)).apply (x.scaleColumns c) =
      (standardize.learn x).apply x := by
  refine Mat.ext fun i j => ?_
  by_cases hlevel : x.Level j
  · exact standardize_apply_of_level hlevel c x ⟨i, rfl⟩
  · exact standardize_apply_scaleColumns (hc j) (hnear j) (fun h => absurd h hlevel) x i

end Scheme

end Statistics

end PartialLeastSquares
