/-
# Models of columns in other units

A standardized model does not depend on the units of a predictor that varies.  There are two
exceptions, and both come from columns that standardizing does not divide by their deviation.

* A nearly level column is left in its units, and what is learned from it is too (`FaintColumn`).
* A level column is left in its units as well.  Nothing is learned from it; but new rows may have
  other values there, and a kernel that looks at distances sees how far off they are
  (`OppositeRows`).

There are no others (`Model.fit_in_column_units`).
-/
import Mathlib
import PartialLeastSquares.Proofs.ColumnUnits.Training
import PartialLeastSquares.Proofs.KernelPls.Agreement
import PartialLeastSquares.Proofs.KernelPls.RankOne
import PartialLeastSquares.Proofs.Model.Matrices

namespace PartialLeastSquares

open Matrix

variable {n p q : ℕ}

def onSecond (k : ℝ) : Fin 2 → ℝ := ![1, k]

theorem scaleColumns_onSecond_one {m : ℕ} (a : Mat ℝ m 2) : a.scaleColumns (onSecond 1) = a := by
  refine Mat.ext fun i j => ?_
  rw [Mat.get_scaleColumns]
  fin_cases j <;> exact mul_one _

theorem Scheme.ofValue?_standardize : ofValue? (.text "standardize") = some .standardize := by cbv

def standardizedPlan : Plan := ⟨1, .standardize⟩

theorem checkPlan_standardized :
    checkPlan (.int 1) (.text "standardize") = .ok standardizedPlan := by cbv

theorem NdArray.eq_of_ofResponses_one {a b : ℝ}
    (h : ofResponses true (Mat.ofFn fun (_ : Fin 1) (_ : Fin 1) => a) =
      ofResponses true (Mat.ofFn fun (_ : Fin 1) (_ : Fin 1) => b)) : a = b := by
  have hentry := congrArg (fun z => z.get 0 0) (ofResponses_injective true h)
  simp only [Mat.get_ofFn] at hentry
  exact hentry

/-! ## 1. A column that varies a little -/

namespace FaintColumn

/-- Three rows.  The second predictor varies, but by little beside its size. -/
noncomputable def x : Mat ℝ 3 2 :=
  Mat.ofRat !![-1, 10 ^ 13 + 1 / 4; 0, 10 ^ 13 - 1 / 2; 1, 10 ^ 13 + 1 / 4]

noncomputable def y : Mat ℝ 3 1 := Mat.ofRat !![0; -2; 2]

noncomputable def new : Mat ℝ 1 2 := Mat.ofRat !![1, 10 ^ 13]

theorem means : (columnMeans x).get = ![0, 10 ^ 13] := by
  funext j
  rw [columnMeans, Vec.get_ofFn, Scalar.sum_real]
  fin_cases j <;> simp [x, Fin.sum_univ_succ]
  norm_num

theorem deviation_first : (columnDeviations x (columnMeans x)).get 0 = 1 := by
  rw [columnDeviations, Vec.get_ofFn, Scalar.sum_real, means]
  refine Real.sqrt_eq_one.mpr ?_
  simp [x, Fin.sum_univ_succ]

theorem guard_first : Scalar.zeroNorm * (columnPeaks x).get 0 <
    (columnDeviations x (columnMeans x)).get 0 := by
  have hpeak : (columnPeaks x).get 0 ≤ 1 := by
    rw [columnPeaks, Vec.get_ofFn, Vec.maxAbs_le_iff]
    refine ⟨zero_le_one, fun i => ?_⟩
    fin_cases i <;> simp [x]
  rw [deviation_first]
  exact Scalar.zeroNorm_mul_lt (by linarith)

theorem nearlyLevel_iff (j : Fin 2) : x.NearlyLevel j ↔ j = 1 := by
  constructor
  · rintro ⟨-, hle⟩
    by_contra hj
    obtain rfl : j = 0 := by omega
    exact absurd guard_first (not_lt.mpr hle)
  · rintro rfl
    have hdeviation : (columnDeviations x (columnMeans x)).get 1 ≤ 1 := by
      rw [columnDeviations, Vec.get_ofFn, Scalar.sum_real, means]
      refine Real.sqrt_le_one.mpr ?_
      simp [x, Fin.sum_univ_succ]
      norm_num
    have hpeak : 10 ^ 13 ≤ (columnPeaks x).get 1 := by
      rw [columnPeaks, Vec.get_ofFn]
      refine le_trans ?_ (((Vec.maxAbs_le_iff (x.col 1) _).mp le_rfl).2 0)
      simp [x]
      norm_num
    refine ⟨fun h => ?_, hdeviation.trans ?_⟩
    · have hsame := h 0 1
      simp [x] at hsame
      norm_num at hsame
    · rw [Scalar.zeroNorm_real, one_div_mul_eq_div, le_div_iff₀ (by norm_num)]
      push_cast
      linarith

variable {k : ℝ}

/-- **Standardized in any units,** the second predictor still has them. -/
theorem standardize_apply (hk : 0 < k) {m : ℕ} (a : Mat ℝ m 2) (i : Fin m) :
    ((Scheme.standardize.learn (x.scaleColumns (onSecond k))).apply
        (a.scaleColumns (onSecond k))).get i 0 = a.get i 0 ∧
      ((Scheme.standardize.learn (x.scaleColumns (onSecond k))).apply
        (a.scaleColumns (onSecond k))).get i 1 = (a.get i 1 - 10 ^ 13) * k := by
  constructor
  · have hmean : (Scheme.standardize.learn x).mean.get 0 = 0 := congrFun means 0
    have hscale : (Scheme.standardize.learn x).scale.get 0 = 1 := by
      rw [Scheme.standardize_scale, if_pos ⟨by norm_num, guard_first⟩, deviation_first]
    rw [Scheme.standardize_apply_scaleColumns (j := 0) one_pos (fun _ => rfl) (fun _ => rfl),
      ColumnStats.get_apply, hmean, hscale, sub_zero, div_one]
  · rw [Scheme.standardize_apply_of_nearlyLevel (j := 1) hk ((nearlyLevel_iff 1).mpr rfl), means]
    rfl

theorem standardize_responses : (Scheme.standardize.learn y).mean.get 0 = 0 ∧
    (Scheme.standardize.learn y).scale.get 0 = 2 := by
  have hmean : (columnMeans y).get 0 = 0 := by
    rw [columnMeans, Vec.get_ofFn, Scalar.sum_real]
    simp [y, Fin.sum_univ_succ]
  have hdeviation : (columnDeviations y (columnMeans y)).get 0 = 2 := by
    rw [columnDeviations, Vec.get_ofFn, Scalar.sum_real, hmean]
    refine (Real.sqrt_eq_iff_mul_self_eq_of_pos (by norm_num)).mpr ?_
    simp [y, Fin.sum_univ_succ]
  have hpeak : (columnPeaks y).get 0 ≤ 2 := by
    rw [columnPeaks, Vec.get_ofFn, Vec.maxAbs_le_iff]
    refine ⟨zero_le_two, fun i => ?_⟩
    fin_cases i <;> simp [y]
  refine ⟨hmean, ?_⟩
  rw [Scheme.standardize_scale, hdeviation, if_pos]
  exact ⟨by norm_num, Scalar.zeroNorm_mul_lt (by linarith)⟩

/-- A model that deflates, of one component. -/
noncomputable def pls1 : Model ℝ := .new .pls1 (.int 1) (.text "standardize")

noncomputable def rows (k : ℝ) : Mat ℝ 3 2 := Mat.ofMatrix !![-1, k / 4; 0, -(k / 2); 1, k / 4]

noncomputable def response : Vec ℝ 3 := Vec.ofFn ![0, -1, 1]

noncomputable def covariance (k : ℝ) : Fin 2 → ℝ := ![1, 3 / 4 * k]

theorem predictors_eq (hk : 0 < k) :
    standardizedPlan.predictors (x.scaleColumns (onSecond k)) = rows k := by
  refine Mat.ext fun i j => ?_
  obtain ⟨hfirst, hsecond⟩ := standardize_apply hk x i
  fin_cases j
  · refine hfirst.trans ?_
    fin_cases i <;> simp [x, rows, Mat.ofMatrix]
  · refine hsecond.trans ?_
    fin_cases i <;> simp [x, rows, Mat.ofMatrix] <;> ring

theorem response_eq : standardizedPlan.response y = response := by
  refine Vec.ext fun i => ?_
  obtain ⟨hmean, hscale⟩ := standardize_responses
  refine (Mat.get_col _ _ _).trans (((Scheme.standardize.learn y).get_apply y i 0).trans ?_)
  rw [hmean, hscale]
  fin_cases i <;> simp [y, response]

theorem covariance_eq (k : ℝ) : (rows k).matrixᵀ *ᵥ response.coords = covariance k := by
  funext j
  fin_cases j <;> simp [rows, response, covariance, mulVec, dotProduct, Fin.sum_univ_succ]
  ring

theorem covariance_dot (k : ℝ) : covariance k ⬝ᵥ covariance k = 1 + 9 / 16 * k ^ 2 := by
  simp [covariance, dotProduct]
  ring

theorem image_dot (k : ℝ) : ((rows k).matrix *ᵥ covariance k) ⬝ᵥ ((rows k).matrix *ᵥ covariance k) =
    2 + 27 / 128 * k ^ 4 := by
  simp [rows, covariance, mulVec, dotProduct, Fin.sum_univ_succ]
  ring

variable {start : (n seed : ℕ) → Vec ℝ n}

/-- **The fit in any units.**  What is learned is along the covariance, in which the second
predictor still has its factor. -/
theorem fit_eq (hk : 0 < k) (hk2 : k ≤ 2) : ∃ f : Pls1.Fit ℝ 3 2,
    Pls1.fit (.exact start) (Pls1.extraction (rows k) response 1) = .ok f ∧
      f.regression.coords = ((1 + 9 / 16 * k ^ 2) / (2 + 27 / 128 * k ^ 4)) • covariance k := by
  have hsquare : k ^ 2 ≤ 4 := by nlinarith
  have hrows : (rows k).norm ≤ 2 := by
    rw [Mat.norm_real, Real.sqrt_le_left zero_le_two]
    simp [rows, dotProduct, Fin.sum_univ_succ]
    linarith
  have hresponse : response.norm ≤ 2 := by
    rw [Vec.norm_real, Real.sqrt_le_left zero_le_two]
    simp [response, dotProduct, Fin.sum_univ_succ]
    norm_num
  have hcov : Scalar.zeroNorm * ((rows k).norm * response.norm) <
      √(covariance k ⬝ᵥ covariance k) := by
    have hone : 1 ≤ √(covariance k ⬝ᵥ covariance k) := by
      rw [covariance_dot, Real.one_le_sqrt]
      linarith [sq_nonneg k]
    have hproduct := mul_le_mul hrows hresponse response.norm_nonneg zero_le_two
    exact Scalar.zeroNorm_mul_lt (by linarith)
  have hscore : Scalar.zeroNorm * ((rows k).norm * (rows k).norm) * (covariance k ⬝ᵥ covariance k) <
      ((rows k).matrix *ᵥ covariance k) ⬝ᵥ ((rows k).matrix *ᵥ covariance k) := by
    have hproduct := mul_le_mul (mul_le_mul hrows hrows (rows k).norm_nonneg zero_le_two)
      (show 1 + 9 / 16 * k ^ 2 ≤ 4 by linarith) (by positivity) (by norm_num)
    rw [covariance_dot, image_dot, mul_assoc]
    exact Scalar.zeroNorm_mul_lt (by linarith [show 0 ≤ k ^ 4 by positivity])
  rw [← covariance_dot, ← image_dot]
  exact Pls1.fit_one_component (covariance_eq k) hcov hscore

noncomputable def predicted (k : ℝ) : ℝ := (1 + 9 / 16 * k ^ 2) / (2 + 27 / 128 * k ^ 4) * 2

theorem predict_fitted (hk : 0 < k) {f : Pls1.Fit ℝ 3 2}
    (hfit : Pls1.fit (.exact start) (Pls1.extraction (rows k) response 1) = .ok f)
    (hregression : f.regression.coords =
      ((1 + 9 / 16 * k ^ 2) / (2 + 27 / 128 * k ^ 4)) • covariance k) :
    (Fitted.pls1 (standardizedPlan.envelope true (x.scaleColumns (onSecond k)) y) true f).predict
      (new.scaleColumns (onSecond k)) = .ok (Mat.ofFn fun _ _ => predicted k) := by
  refine congrArg Except.ok (Mat.ext fun i j => ?_)
  obtain ⟨hfirst, hsecond⟩ := standardize_apply hk new i
  obtain ⟨hmean, hscale⟩ := standardize_responses
  fin_cases i
  fin_cases j
  refine (ColumnStats.get_unapply (Scheme.standardize.learn y) _ 0 0).trans ?_
  rw [hmean, hscale, add_zero, Mat.get_ofFn, Mat.get_ofCol,
    Pls1.predict_of_fit Toolkit.exact_exact.toExactInverse hfit, Mat.get_apply, Scalar.sum_real,
    Fin.sum_univ_two, ← Vec.coords_apply, ← Vec.coords_apply, hregression]
  refine congrArg (· * 2) ((congrArg₂ (fun a b => a * _ + b * _) hfirst hsecond).trans ?_)
  simp [new, covariance]

theorem predict_eq (hk : 0 < k) (hk2 : k ≤ 2) :
    (pls1.fitTo FourRows.tools true (x.scaleColumns (onSecond k)) y).2.outcome = .ok () ∧
      (pls1.fitTo FourRows.tools true (x.scaleColumns (onSecond k)) y).1.predict
          (.array (.ofMat (new.scaleColumns (onSecond k)))) =
        .ok (.ofResponses true (Mat.ofFn fun (_ : Fin 1) (_ : Fin 1) => predicted k)) := by
  obtain ⟨f, hfit, hregression⟩ := fit_eq hk hk2
  have hvalid : pls1.validate (.array (.ofMat (x.scaleColumns (onSecond k))))
      (.array (.ofResponses true y)) =
        .ok ⟨standardizedPlan, 3, 2, 1, x.scaleColumns (onSecond k), y, true⟩ :=
    Model.validate_eq_ok_iff.mpr ⟨checkPlan_standardized, readSample_ofMat _ y true, rfl⟩
  refine Model.fitTo_predict hvalid (train_pls1_eq_ok_iff.mpr ⟨f, ?_, rfl⟩) two_ne_zero
    (predict_fitted hk hfit hregression)
  rw [predictors_eq hk, response_eq]
  exact hfit

end FaintColumn

/-! ## 2. A level column and a kernel that looks at distances -/

namespace OppositeRows

noncomputable def x : Mat ℝ 2 2 := Mat.ofRat !![1, 0; -1, 0]

noncomputable def y : Mat ℝ 2 1 := Mat.ofRat !![1; -1]

noncomputable def new : Mat ℝ 1 2 := Mat.ofRat !![1, 1]

noncomputable def unit : ℝ := (√2)⁻¹

theorem unit_mul_self : unit * unit = 1 / 2 := by
  rw [unit, ← mul_inv, Real.mul_self_sqrt zero_le_two, one_div]

theorem unit_mul_root : unit * √2 = 1 :=
  inv_mul_cancel₀ (Real.sqrt_pos.mpr two_pos).ne'

theorem unit_pos : 0 < unit := inv_pos.mpr (Real.sqrt_pos.mpr two_pos)

/-- **Opposite units have no mean and deviate by the root of two,** which is more than the guard. -/
theorem opposite {p : ℕ} {a : Mat ℝ 2 p} {j : Fin p} (h : a.get 0 j = 1) (h' : a.get 1 j = -1) :
    (columnMeans a).get j = 0 ∧ (columnDeviations a (columnMeans a)).get j = √2 ∧
      Scalar.zeroNorm * (columnPeaks a).get j < √2 := by
  have hmean : (columnMeans a).get j = 0 := by
    rw [columnMeans, Vec.get_ofFn, Scalar.sum_real, Fin.sum_univ_two, h, h']
    simp
  have hpeak : (columnPeaks a).get j ≤ 1 := by
    rw [columnPeaks, Vec.get_ofFn, Vec.maxAbs_le_iff]
    refine ⟨zero_le_one, fun i => ?_⟩
    rw [Mat.get_col]
    fin_cases i
    · exact (congrArg abs h).trans_le (by norm_num)
    · exact (congrArg abs h').trans_le (by norm_num)
  have hroot : 1 ≤ √2 := Real.one_le_sqrt.mpr one_le_two
  refine ⟨hmean, ?_, Scalar.zeroNorm_mul_lt (by linarith)⟩
  rw [columnDeviations, Vec.get_ofFn, Scalar.sum_real, hmean, Fin.sum_univ_two, h, h']
  refine congrArg Real.sqrt ?_
  norm_num

theorem standardize_opposite {p : ℕ} {a : Mat ℝ 2 p} {j : Fin p} (h : a.get 0 j = 1)
    (h' : a.get 1 j = -1) : (Scheme.standardize.learn a).mean.get j = 0 ∧
      (Scheme.standardize.learn a).scale.get j = √2 := by
  obtain ⟨hmean, hdeviation, hguard⟩ := opposite h h'
  refine ⟨hmean, ?_⟩
  rw [Scheme.standardize_scale, hdeviation, if_pos ⟨by norm_num, hguard⟩]

theorem level : x.Level 1 := by
  intro i i'
  fin_cases i <;> fin_cases i' <;> simp [x]

theorem not_nearlyLevel (j : Fin 2) : ¬ x.NearlyLevel j := by
  rintro ⟨hlevel, hle⟩
  fin_cases j
  · obtain ⟨-, hdeviation, hguard⟩ := opposite (a := x) (j := 0) (by simp [x]) (by simp [x])
    exact absurd (hdeviation.symm.trans_le hle) (not_le.mpr hguard)
  · exact hlevel level

/-- The second predictor is zero, so its units do not matter to the training rows. -/
theorem scaleColumns_eq (k : ℝ) : x.scaleColumns (onSecond k) = x := by
  refine Mat.ext fun i j => ?_
  rw [Mat.get_scaleColumns]
  fin_cases i <;> fin_cases j <;> simp [x, onSecond]

theorem standardize_apply {m : ℕ} (a : Mat ℝ m 2) (i : Fin m) :
    ((Scheme.standardize.learn x).apply a).get i 0 = a.get i 0 * unit ∧
      ((Scheme.standardize.learn x).apply a).get i 1 = a.get i 1 := by
  obtain ⟨hmean, hscale⟩ := standardize_opposite (a := x) (j := 0) (by simp [x]) (by simp [x])
  constructor
  · rw [ColumnStats.get_apply, hmean, hscale, sub_zero]
    rfl
  · have hmean' : (Scheme.standardize.learn x).mean.get 1 = 0 :=
      (level.mean 0).trans (by simp [x])
    rw [ColumnStats.get_apply, hmean', Scheme.standardize_scale_of_level level, sub_zero, div_one]

noncomputable def direction : Vec ℝ 2 := Vec.ofFn ![unit, -unit]

theorem standardize_responses : (Scheme.standardize.learn y).mean.get 0 = 0 ∧
    (Scheme.standardize.learn y).scale.get 0 = √2 :=
  standardize_opposite (by simp [y]) (by simp [y])

theorem responses_eq : (Scheme.standardize.learn y).apply y = Mat.ofCol direction := by
  obtain ⟨hmean, hscale⟩ := standardize_responses
  refine Mat.ext fun i j => ?_
  fin_cases j
  refine (ColumnStats.get_apply _ _ _ _).trans ?_
  show (y.get i 0 - (Scheme.standardize.learn y).mean.get 0) /
    (Scheme.standardize.learn y).scale.get 0 = _
  rw [hmean, hscale]
  fin_cases i <;> simp [y, direction, unit, neg_div]

noncomputable def rows : Mat ℝ 2 2 := standardizedPlan.predictors x

noncomputable def gaussian : KernelFn ℝ := .rbf (some 1)

theorem value_eq (a b : Vec ℝ 2) :
    gaussian.value a b = Real.exp (-((a.get 0 - b.get 0) ^ 2 + (a.get 1 - b.get 1) ^ 2)) := by
  show Real.exp (squaredDistance a b * -1) = _
  rw [squaredDistance_real, Fin.sum_univ_two, mul_neg_one]

noncomputable def kernel : Mat ℝ 2 2 :=
  centerKernel (gaussian.gram rows rows)

theorem gram_eq {m : ℕ} (a : Mat ℝ m 2) (i : Fin m) :
    (gaussian.gram a rows).get i 0 =
      Real.exp (-((a.get i 0 - unit) ^ 2 + a.get i 1 ^ 2)) ∧
    (gaussian.gram a rows).get i 1 =
      Real.exp (-((a.get i 0 + unit) ^ 2 + a.get i 1 ^ 2)) := by
  obtain ⟨h00, h01⟩ := standardize_apply x 0
  obtain ⟨h10, h11⟩ := standardize_apply x 1
  constructor
  · rw [KernelFn.get_gram, value_eq]
    simp only [Mat.get_row, rows, Plan.predictors, standardizedPlan, h00, h01]
    simp [x]
  · rw [KernelFn.get_gram, value_eq]
    simp only [Mat.get_row, rows, Plan.predictors, standardizedPlan, h10, h11]
    simp [x]

theorem raw_eq : (gaussian.gram rows rows).matrix =
    !![1, Real.exp (-2); Real.exp (-2), 1] := by
  have hsq : unit ^ 2 = 1 / 2 := (sq unit).trans unit_mul_self
  have hfour : (unit + unit) ^ 2 = 2 := by linear_combination 4 * hsq
  have hfour' : (-unit - unit) ^ 2 = 2 := by linear_combination 4 * hsq
  ext i j
  obtain ⟨hleft, hright⟩ := gram_eq rows i
  obtain ⟨hfirst, hsecond⟩ := standardize_apply x i
  have hrows : rows = (Scheme.standardize.learn x).apply x := rfl
  rw [← hrows] at hfirst hsecond
  rw [hfirst, hsecond] at hleft hright
  fin_cases j
  · refine hleft.trans ?_
    fin_cases i <;> simp [x, hfour']
  · refine hright.trans ?_
    fin_cases i <;> simp [x, hfour]

theorem kernel_eq : kernel.matrix =
    (1 - Real.exp (-2)) • vecMulVec direction.coords direction.coords := by
  have hsq : unit * unit = 1 / 2 := unit_mul_self
  rw [kernel, centerKernel, Mat.matrix_mul, Mat.matrix_mul, raw_eq]
  ext i j
  fin_cases i <;> fin_cases j <;>
    simp [centering, share, direction, mul_apply, Fin.sum_univ_two, vecMulVec, hsq] <;> ring

noncomputable def loading : Vec ℝ 1 := Vec.ofFn fun _ => 1

theorem rankOne :
    KernelPls.RankOne kernel (Mat.ofCol direction) direction (1 - Real.exp (-2)) loading where
  unit := by
    simp only [direction, Vec.coords_ofFn, dotProduct, Fin.sum_univ_two]
    simp [unit_mul_self]
    norm_num
  kernel_eq := kernel_eq
  pos := sub_pos.mpr (Real.exp_lt_one_iff.mpr (by norm_num))
  responses := by
    ext i j
    simp [loading, vecMulVec]
  loading_pos := by simp [loading, dotProduct]

/-- The settings of the iteration: one pass is allowed. -/
noncomputable def settings : KernelPls.Settings ℝ := ⟨.within 1, 1, 0⟩

/-- A model in feature space, whose kernel is the Gaussian. -/
noncomputable def gaussianPls : Model ℝ :=
  .new (.kernelPls (.kernel (.rbf (.int 1))) (.int 1) (.int 1) (.int 0)) (.int 1)
    (.text "standardize")

noncomputable def data : KernelPls.Prepared ℝ 2 2 1 :=
  ⟨.rbf (.int 1), .trivial 2, .trivial 1, rows, Mat.ofCol direction,
    gaussian.gram rows rows, kernel⟩

theorem center_eq : KernelPls.center rows (Mat.ofCol direction) =
    .ok (.trivial 2, .trivial 1) := by
  refine KernelPls.center_of_centered (Scheme.centered_of_ne_none (by simp [standardizedPlan]) x) ?_
  rw [← responses_eq]
  exact Scheme.centered_of_ne_none (by simp) y

theorem function_eq : (Kernel.rbf (.int 1)).function = .ok gaussian := by
  have hsmall : 1 < Number.wholeLimit := by decide +kernel
  have hone : (Scalar.ofInt 1 : ℝ) = 1 := Int.cast_one
  unfold Kernel.function Kernel.toScale Kernel.toScalar
  simp [Value.number?, hsmall, hone, gaussian, Except.map, bind, Except.bind]

theorem prepare_eq : KernelPls.prepare (.rbf (.int 1)) rows (Mat.ofCol direction)
    (.trivial 2, .trivial 1) = .ok data := by
  have hparameters : (Kernel.rbf (.int 1)).checkParameters = .ok () := by cbv
  refine KernelPls.prepare_kernel_eq_ok_iff.mpr ⟨hparameters, ⟨two_ne_zero, two_ne_zero⟩, gaussian,
    function_eq, ?_⟩
  simp only [ColumnStats.trivial_apply]
  rfl

noncomputable def begin : Vec ℝ 2 := FourRows.tools.start 2 0

theorem direction_dot_begin : direction.coords ⬝ᵥ begin.coords = 3 * unit := by
  simp [direction, begin, FourRows.tools, Toolkit.exact, dotProduct, Fin.sum_univ_two]
  ring

theorem norm_begin : begin.norm = 3 := by
  rw [Vec.norm_real, Real.sqrt_eq_iff_mul_self_eq_of_pos (by norm_num)]
  simp [begin, FourRows.tools, Toolkit.exact, dotProduct, Fin.sum_univ_two]

noncomputable def fitOf (c : KernelPls.Component ℝ 2 1) (deflated : Mat ℝ 2 2) :
    KernelPls.Fit ℝ 2 2 1 :=
  ⟨.rbf (.int 1), .trivial 2, .trivial 1, rows, data.raw, kernel, deflated, [c],
    Mat.ofFn fun _ _ => 1 / (1 - Real.exp (-2))⟩

theorem passes_eq : KernelPls.passes settings.tol
    (KernelPls.pass 0 kernel.norm (Mat.ofCol direction).norm ⟨kernel, Mat.ofCol direction⟩) 0 0
      begin = .ok (⟨kernel.apply begin, direction, loading, direction,
        (direction.sub begin).norm⟩, 1) := by
  have hpass := rankOne.pass_eq 0 (u := begin) (by
    have hunit : 1 ≤ 2 * unit := by nlinarith [unit_mul_self, unit_pos]
    rw [norm_begin, direction_dot_begin]
    exact Scalar.zeroNorm_mul_lt (by linarith))
  exact KernelPls.passes_last hpass

theorem fit_eq : ∃ c r, KernelPls.extraction FourRows.tools settings data.centered data.y 1 =
      ⟨[c], .ok r⟩ ∧ c.responseScore = direction ∧
    KernelPls.fit FourRows.tools data [c] r = .ok (fitOf c r.kernel) := by
  obtain ⟨c, r, hextraction, hscore, -, hfit⟩ : ∃ c r, KernelPls.extraction FourRows.tools settings
      data.centered data.y 1 = ⟨[c], .ok r⟩ ∧ _ :=
    KernelPls.RankOne.exists_fit rankOne (by simp [settings]) passes_eq (by
      rw [direction_dot_begin, ← mul_one Scalar.zeroNorm]
      exact Scalar.zeroNorm_mul_lt (by linarith [unit_mul_self]))
  refine ⟨c, r, hextraction, hscore, hfit.trans ?_⟩
  simp only [fitOf, loading, Vec.get_ofFn]
  rfl

theorem centerCrossKernel_mulVec (b : Mat ℝ 1 2) :
    ((centerCrossKernel b data.raw).matrix *ᵥ direction.coords) 0 =
      unit * (b.get 0 0 - b.get 0 1) := by
  have hraw : data.raw.matrix = !![1, Real.exp (-2); Real.exp (-2), 1] := raw_eq
  rw [centerCrossKernel, Mat.matrix_mul, Mat.matrix_sub, Mat.matrix_mul, hraw, ← Mat.matrix_apply,
    ← Mat.matrix_apply]
  simp [centering, share, direction, mulVec, dotProduct, mul_apply, Fin.sum_univ_two]
  ring

/-- **What it predicts for a standardized row:** only the distance along the second predictor is
left. -/
theorem predict_fitOf {c : KernelPls.Component ℝ 2 1} {r : KernelPls.Residual ℝ 2 1}
    (hscore : c.responseScore = direction)
    (hfit : KernelPls.fit FourRows.tools data [c] r = .ok (fitOf c r.kernel)) {a : Mat ℝ 1 2}
    (ha : a.get 0 0 = unit) : (fitOf c r.kernel).predict a =
      .ok (Mat.ofFn fun _ _ => Real.exp (-a.get 0 1 ^ 2) * unit) := by
  obtain ⟨fn, hkeeps⟩ := KernelPls.keeps_of_fit center_eq prepare_eq hfit
  obtain rfl : gaussian = fn := Except.ok.inj (function_eq.symm.trans hkeeps.function)
  have hpos : (1 - Real.exp (-2)) ≠ 0 := rankOne.pos.ne'
  obtain ⟨hleft, hright⟩ := gram_eq a 0
  rw [ha] at hleft hright
  have hfour : (unit + unit) ^ 2 = 2 := by linear_combination 4 * unit_mul_self
  rw [hfour, neg_add, Real.exp_add] at hright
  rw [sub_self, zero_pow two_ne_zero, zero_add] at hleft
  refine (hkeeps.predict_one one_ne_zero a).trans ?_
  rw [ColumnStats.trivial_unapply, ColumnStats.trivial_apply, hscore]
  refine congrArg Except.ok (Mat.ext fun i j => ?_)
  fin_cases i
  rw [Mat.get_ofFn, Mat.get_ofFn, Mat.get_ofFn]
  show ((centerCrossKernel (gaussian.gram a rows) data.raw).matrix *ᵥ
    direction.coords) 0 * _ = Real.exp (-a.get 0 1 ^ 2) * unit
  rw [centerCrossKernel_mulVec, hleft, hright]
  field_simp

theorem predict_fitted {c : KernelPls.Component ℝ 2 1} {r : KernelPls.Residual ℝ 2 1}
    (hscore : c.responseScore = direction)
    (hfit : KernelPls.fit FourRows.tools data [c] r = .ok (fitOf c r.kernel)) (k : ℝ) :
    (Fitted.kernelPls (standardizedPlan.envelope true x y) (fitOf c r.kernel)).predict
      (new.scaleColumns (onSecond k)) = .ok (Mat.ofFn fun _ _ => Real.exp (-k ^ 2)) := by
  obtain ⟨hfirst, hsecond⟩ := standardize_apply (new.scaleColumns (onSecond k)) 0
  obtain ⟨hmean, hscale⟩ := standardize_responses
  have hraw := predict_fitOf hscore hfit (hfirst.trans (by simp [new, onSecond]))
  rw [hsecond, show (new.scaleColumns (onSecond k)).get 0 1 = k by simp [new, onSecond]] at hraw
  have hstats : (standardizedPlan.envelope true x y).x = Scheme.standardize.learn x := rfl
  unfold Fitted.predict
  rw [hstats, hraw]
  dsimp only
  rw [Mat.entryProblem?_real]
  refine congrArg Except.ok (Mat.ext fun i j => ?_)
  fin_cases j
  refine (ColumnStats.get_unapply (Scheme.standardize.learn y) _ i 0).trans ?_
  rw [hmean, hscale, Mat.get_ofFn, Mat.get_ofFn, add_zero, mul_assoc, unit_mul_root, mul_one]

theorem predict_eq (k : ℝ) :
    (gaussianPls.fitTo FourRows.tools true (x.scaleColumns (onSecond k)) y).2.outcome = .ok () ∧
      (gaussianPls.fitTo FourRows.tools true (x.scaleColumns (onSecond k)) y).1.predict
          (.array (.ofMat (new.scaleColumns (onSecond k)))) =
        .ok (.ofResponses true (Mat.ofFn fun (_ : Fin 1) (_ : Fin 1) => Real.exp (-k ^ 2))) := by
  obtain ⟨c, r, hextraction, hscore, hfit⟩ := fit_eq
  have hvalid : gaussianPls.validate (.array (.ofMat x)) (.array (.ofResponses true y)) =
      .ok ⟨standardizedPlan, 2, 2, 1, x, y, true⟩ :=
    Model.validate_eq_ok_iff.mpr ⟨checkPlan_standardized, readSample_ofMat x y true, rfl⟩
  rw [scaleColumns_eq]
  refine Model.fitTo_predict hvalid (train_kernelPls_eq_ok_iff.mpr ⟨settings,
    (.trivial 2, .trivial 1), .rbf (.int 1), data, r, fitOf c r.kernel, checkIteration_one le_rfl,
    ?_, rfl, ?_, ?_, ?_, rfl⟩) two_ne_zero (predict_fitted hscore hfit k)
  · rw [standardizedPlan, responses_eq]
    exact center_eq
  · rw [standardizedPlan, responses_eq]
    exact prepare_eq
  · exact congrArg Extraction.ending hextraction
  · rw [standardizedPlan, hextraction]
    exact hfit

end OppositeRows

/-! ## 3. Models -/

namespace Model

/-- **Units are no part of what a standardized model learns.**  Let every column of the predictors
be multiplied by a positive factor of its own, which is one for columns that are nearly level.  Then
the model is fitted or refused as before.  If it is fitted, it predicts for new rows in the new
units what it predicted for them; where a kernel looks at distances, at some level of nesting, a
level column in other units must have the value of a training row in every new row. -/
theorem fit_in_column_units (tools : Toolkit ℝ) (m : Model ℝ)
    (hscheme : Scheme.ofValue? m.preprocessing = some .standardize) (flat : Bool) (x : Mat ℝ n p)
    (y : Mat ℝ n q) (c : Fin p → ℝ) (hc : ∀ j, 0 < c j) (hnear : ∀ j, x.NearlyLevel j → c j = 1) :
    (m.fitTo tools flat (x.scaleColumns c) y).2.outcome = (m.fitTo tools flat x y).2.outcome ∧
      ((m.fitTo tools flat x y).2.outcome = .ok () → ∀ {l : ℕ} (new : Mat ℝ l p),
        (m.algorithm.looksAtDistances = true → ∀ j, x.Level j → c j ≠ 1 →
          ∀ i, ∃ i', new.get i j = x.get i' j) →
        (m.fitTo tools flat (x.scaleColumns c) y).1.predict
            (.array (.ofMat (new.scaleColumns c))) =
          (m.fitTo tools flat x y).1.predict (.array (.ofMat new))) := by
  have hstandardize : ∀ plan, checkPlan m.nComponents m.preprocessing = .ok plan →
      plan.scheme = .standardize := by
    intro plan hplan
    exact Option.some_inj.mp ((scheme_of_checkPlan hplan).symm.trans hscheme)
  have htrain : ∀ plan, checkPlan m.nComponents m.preprocessing = .ok plan →
      (train tools m.algorithm.methodOr plan flat (x.scaleColumns c) y).outcome =
        (train tools m.algorithm.methodOr plan flat x y).outcome.map
          (Fitted.withEnvelope (plan.envelope flat (x.scaleColumns c) y)) := by
    intro plan hplan
    refine train_withEnvelope tools _ flat ?_ y
    rw [Plan.predictors, Plan.predictors, hstandardize plan hplan]
    exact Scheme.standardize_predictors_scaleColumns hc hnear
  rcases fitTo_map htrain with
    ⟨e, he, he'⟩ | ⟨hok, hok', hp, plan, f, hplan, hf, htrained, htrained'⟩
  · exact ⟨he'.trans he.symm, fun hok => nomatch he.symm.trans hok⟩
  · refine ⟨hok'.trans hok.symm, fun _ _ new hnew => ?_⟩
    have htrains := trains_of_train _ hf
    have hsame : m.algorithm.methodOr.Same (plan.predictors x)
        ((plan.envelope flat (x.scaleColumns c) y).x.apply (new.scaleColumns c))
        (f.envelope.x.apply new) := by
      rw [htrains.envelope, Plan.predictors, Plan.envelope, Plan.envelope, hstandardize plan hplan]
      intro j
      by_cases hlevel : x.Level j
      · cases hdistances : m.algorithm.looksAtDistances with
        | false =>
          exact .inl ⟨m.algorithm.looksAtDistances_methodOr.trans hdistances,
            Scheme.idle_of_level hlevel⟩
        | true =>
          refine .inr fun i => ?_
          by_cases hone : c j = 1
          · exact Scheme.standardize_apply_scaleColumns (hc j) (fun _ => hone) (fun _ => hone) new i
          · exact Scheme.standardize_apply_of_level hlevel c new (hnew hdistances j hlevel hone i)
      · exact .inr fun i => Scheme.standardize_apply_scaleColumns (hc j) (hnear j)
          (fun h => absurd h hlevel) new i
    have hy : (plan.envelope flat (x.scaleColumns c) y).y = f.envelope.y := by
      rw [htrains.envelope]
      rfl
    have hpredict := htrains.predict_withEnvelope hy hsame
    rw [predict_ofMat htrained hp, predict_ofMat htrained' hp, hpredict, htrains.envelope,
      Fitted.envelope_withEnvelope]
    rfl

open FourRows (tools) in
/-- A model that deflates, fitted in other units but for the nearly level column, and one with a
Gaussian, fitted in other units also in the level column, which is zero in new rows too. -/
theorem fit_in_column_units_two_models :
    ((FaintColumn.pls1.fitTo tools true FaintColumn.x FaintColumn.y).2.outcome = .ok () ∧
      (FaintColumn.pls1.fitTo tools true (FaintColumn.x.scaleColumns ![2, 1])
        FaintColumn.y).2.outcome = .ok () ∧
      ∀ {l : ℕ} (new : Mat ℝ l 2),
        (FaintColumn.pls1.fitTo tools true (FaintColumn.x.scaleColumns ![2, 1])
            FaintColumn.y).1.predict (.array (.ofMat (new.scaleColumns ![2, 1]))) =
          (FaintColumn.pls1.fitTo tools true FaintColumn.x FaintColumn.y).1.predict
            (.array (.ofMat new))) ∧
    ((OppositeRows.gaussianPls.fitTo tools true OppositeRows.x OppositeRows.y).2.outcome = .ok () ∧
      (OppositeRows.gaussianPls.fitTo tools true (OppositeRows.x.scaleColumns ![2, 3])
        OppositeRows.y).2.outcome = .ok () ∧
      ∀ {l : ℕ} (new : Mat ℝ l 2), (∀ i, new.get i 1 = 0) →
        (OppositeRows.gaussianPls.fitTo tools true (OppositeRows.x.scaleColumns ![2, 3])
            OppositeRows.y).1.predict (.array (.ofMat (new.scaleColumns ![2, 3]))) =
          (OppositeRows.gaussianPls.fitTo tools true OppositeRows.x OppositeRows.y).1.predict
            (.array (.ofMat new))) := by
  constructor
  · have hfit :
        (FaintColumn.pls1.fitTo tools true FaintColumn.x FaintColumn.y).2.outcome = .ok () := by
      rw [← scaleColumns_onSecond_one FaintColumn.x]
      exact (FaintColumn.predict_eq one_pos one_le_two).1
    have hpos : ∀ j, 0 < (![2, 1] : Fin 2 → ℝ) j := by
      intro j
      fin_cases j <;> simp
    have hnear : ∀ j, FaintColumn.x.NearlyLevel j → (![2, 1] : Fin 2 → ℝ) j = 1 := by
      intro j hj
      rw [(FaintColumn.nearlyLevel_iff j).mp hj]
      rfl
    obtain ⟨houtcome, hpredict⟩ := fit_in_column_units tools FaintColumn.pls1
      Scheme.ofValue?_standardize true FaintColumn.x FaintColumn.y ![2, 1] hpos hnear
    exact ⟨hfit, houtcome.trans hfit, fun new => hpredict hfit new fun h => nomatch h⟩
  · have hfit := (OppositeRows.predict_eq 1).1
    rw [OppositeRows.scaleColumns_eq] at hfit
    have hpos : ∀ j, 0 < (![2, 3] : Fin 2 → ℝ) j := by
      intro j
      fin_cases j <;> simp
    have hnear : ∀ j, OppositeRows.x.NearlyLevel j → (![2, 3] : Fin 2 → ℝ) j = 1 := by
      intro j hj
      exact absurd hj (OppositeRows.not_nearlyLevel j)
    obtain ⟨houtcome, hpredict⟩ := fit_in_column_units tools OppositeRows.gaussianPls
      Scheme.ofValue?_standardize true OppositeRows.x OppositeRows.y ![2, 3] hpos hnear
    refine ⟨hfit, houtcome.trans hfit, fun new hnew =>
      hpredict hfit new fun _ j hlevel _ i => ?_⟩
    fin_cases j
    · exact absurd (hlevel 0 1) (by norm_num [OppositeRows.x])
    · exact ⟨0, (hnew i).trans (by simp [OppositeRows.x])⟩

open FourRows (tools) in
/-- **A faint column and a level one bring their units into predictions.**  In both cases the second
column is given in halves of its unit, in the training rows and in the new one. -/
theorem predict_in_column_units_differs :
    (Scheme.ofValue? FaintColumn.pls1.preprocessing = some .standardize ∧
      (∀ j, 0 < onSecond 2 j) ∧
      (FaintColumn.pls1.fitTo tools true FaintColumn.x FaintColumn.y).2.outcome = .ok () ∧
      (FaintColumn.pls1.fitTo tools true (FaintColumn.x.scaleColumns (onSecond 2))
        FaintColumn.y).2.outcome = .ok () ∧
      (FaintColumn.pls1.fitTo tools true (FaintColumn.x.scaleColumns (onSecond 2))
          FaintColumn.y).1.predict (.array (.ofMat (FaintColumn.new.scaleColumns (onSecond 2)))) ≠
        (FaintColumn.pls1.fitTo tools true FaintColumn.x FaintColumn.y).1.predict
          (.array (.ofMat FaintColumn.new))) ∧
    (Scheme.ofValue? OppositeRows.gaussianPls.preprocessing = some .standardize ∧
      (∀ j, 0 < onSecond 2 j) ∧
      (OppositeRows.gaussianPls.fitTo tools true OppositeRows.x OppositeRows.y).2.outcome = .ok () ∧
      (OppositeRows.gaussianPls.fitTo tools true (OppositeRows.x.scaleColumns (onSecond 2))
        OppositeRows.y).2.outcome = .ok () ∧
      (OppositeRows.gaussianPls.fitTo tools true (OppositeRows.x.scaleColumns (onSecond 2))
          OppositeRows.y).1.predict (.array (.ofMat (OppositeRows.new.scaleColumns (onSecond 2)))) ≠
        (OppositeRows.gaussianPls.fitTo tools true OppositeRows.x OppositeRows.y).1.predict
          (.array (.ofMat OppositeRows.new))) := by
  have hpos : ∀ j, 0 < onSecond 2 j := by
    intro j
    fin_cases j <;> simp [onSecond]
  constructor
  · obtain ⟨hfit, hpredict⟩ := FaintColumn.predict_eq one_pos one_le_two
    obtain ⟨hfit', hpredict'⟩ := FaintColumn.predict_eq two_pos le_rfl
    rw [scaleColumns_onSecond_one] at hfit hpredict
    rw [scaleColumns_onSecond_one] at hpredict
    refine ⟨Scheme.ofValue?_standardize, hpos, hfit, hfit', fun h => ?_⟩
    rw [hpredict, hpredict'] at h
    have hvalue := NdArray.eq_of_ofResponses_one (Except.ok.inj h)
    norm_num [FaintColumn.predicted] at hvalue
  · obtain ⟨hfit, hpredict⟩ := OppositeRows.predict_eq 1
    obtain ⟨hfit', hpredict'⟩ := OppositeRows.predict_eq 2
    rw [scaleColumns_onSecond_one] at hfit hpredict
    rw [scaleColumns_onSecond_one] at hpredict
    refine ⟨Scheme.ofValue?_standardize, hpos, hfit, hfit', fun h => ?_⟩
    rw [hpredict, hpredict'] at h
    have hvalue := Real.exp_injective (NdArray.eq_of_ofResponses_one (Except.ok.inj h))
    norm_num at hvalue

end Model

end PartialLeastSquares
