/-
# Centering in feature space

Two formulas center kernels: `center_kernel` that of the training rows, which is multiplied on
both sides, and `center_cross_kernel` that of new rows with them, which loses the training means
first.  Where the kernel is that of rows of features, each of the two gives the kernel of the same
rows less the mean of the training rows (`centerKernel_gram_features`,
`centerCrossKernel_gram_features`), however many new rows there are.

The first formula is what a projector does on both sides of a matrix: the matrix that removes the
mean is one (`isProjector_centering`).  So centering twice is centering once, nothing is left of a
number that was added everywhere, and all rows and columns of the result add up to zero.
-/
import Mathlib
import PartialLeastSquares.Data.Operations
import PartialLeastSquares.Proofs.KernelPls.Preparation
import PartialLeastSquares.Proofs.Projector
import PartialLeastSquares.Proofs.RowByRow

namespace PartialLeastSquares

open Matrix

variable {n m d : ℕ}

/-! ## 1. Rows less a mean -/

/-- **Rows less the mean of the training rows,** `a - 1 μᵀ`. -/
noncomputable def Mat.lessMeans (a : Mat ℝ m d) (training : Mat ℝ n d) : Mat ℝ m d :=
  a.sub (Mat.outer (Vec.ofFn fun _ => 1) (columnMeans training))

/-- Shares of all training rows make up their mean, as many times as asked for. -/
theorem const_share_mul (f : Mat ℝ n d) :
    (Mat.const (share n) : Mat ℝ m n).matrix * f.matrix =
      (Mat.outer (Vec.ofFn fun _ : Fin m => 1) (columnMeans f)).matrix := by
  ext i j
  rw [mul_apply, Mat.matrix_const, Mat.matrix_outer, vecMulVec_apply, Vec.coords_ofFn, one_mul,
    Vec.coords_apply, columnMeans, Vec.get_ofFn, Scalar.sum_real, Finset.sum_div, share,
    Scalar.ofNat_real]
  exact Finset.sum_congr rfl fun l _ => one_div_mul_eq_div _ _

/-- **To remove the mean of the training rows from themselves** is to multiply them by the matrix
that does so. -/
theorem centering_mul (f : Mat ℝ n d) :
    (centering n : Mat ℝ n n).matrix * f.matrix = (f.lessMeans f).matrix := by
  rw [centering, Mat.matrix_sub, Mat.matrix_identity, Matrix.sub_mul, Matrix.one_mul,
    const_share_mul, Mat.lessMeans, Mat.matrix_sub]

theorem transpose_mul_centering (f : Mat ℝ n d) :
    f.matrixᵀ * (centering n : Mat ℝ n n).matrix = (f.lessMeans f).matrixᵀ := by
  rw [← transpose_centering, ← transpose_mul, centering_mul]

/-- **The kernel of the training rows, centered,** is that of the centered rows. -/
theorem centerKernel_gram_features (f : Mat ℝ n d) :
    centerKernel (f.mulT f) = (f.lessMeans f).mulT (f.lessMeans f) := by
  refine Mat.matrix_injective ?_
  rw [centerKernel, Mat.matrix_mul, Mat.matrix_mul, Mat.matrix_mulT, Mat.matrix_mulT,
    ← Matrix.mul_assoc, centering_mul, Matrix.mul_assoc, transpose_mul_centering]

/-- **The kernel of new rows with the training rows, centered,** is that of both less the mean of
the training rows. -/
theorem centerCrossKernel_gram_features (a : Mat ℝ m d) (f : Mat ℝ n d) :
    centerCrossKernel (a.mulT f) (f.mulT f) = (a.lessMeans f).mulT (f.lessMeans f) := by
  refine Mat.matrix_injective ?_
  rw [centerCrossKernel, Mat.matrix_mul, Mat.matrix_sub, Mat.matrix_mul, Mat.matrix_mulT,
    Mat.matrix_mulT, Mat.matrix_mulT, ← Matrix.mul_assoc, ← Matrix.sub_mul, const_share_mul,
    ← Mat.matrix_sub, Matrix.mul_assoc, transpose_mul_centering]
  rfl

/-! ## 2. The projector -/

/-- **The matrix that removes the mean is a projector:** what has been centered has nothing to
remove. -/
theorem isProjector_centering (n : ℕ) : IsProjector (centering n : Mat ℝ n n).matrix where
  symm := transpose_centering n
  idem := by
    have hcentered := centering_mul_of_centered (centered_centering_mul (Mat.identity n))
    rwa [Mat.matrix_mul, Mat.matrix_identity, Matrix.mul_one] at hcentered

variable (k : Mat ℝ n n)

theorem centerKernel_centerKernel : centerKernel (centerKernel k) = centerKernel k := by
  refine Mat.matrix_injective ?_
  have hidem := (isProjector_centering n).idem
  simp only [centerKernel, Mat.matrix_mul]
  rw [← Matrix.mul_assoc, ← Matrix.mul_assoc, hidem, Matrix.mul_assoc, hidem]

theorem centerKernel_transpose : centerKernel k.transpose = (centerKernel k).transpose := by
  refine Mat.matrix_injective ?_
  simp only [centerKernel, Mat.matrix_mul, Mat.matrix_transpose, transpose_mul,
    transpose_centering]
  rw [Matrix.mul_assoc]

theorem sum_column_centerKernel (j : Fin n) : ∑ i, (centerKernel k).get i j = 0 :=
  centered_centerKernel k j

theorem sum_row_centerKernel (i : Fin n) : ∑ j, (centerKernel k).get i j = 0 := by
  rw [← sum_column_centerKernel k.transpose i, centerKernel_transpose]
  exact Finset.sum_congr rfl fun j _ => (Mat.get_transpose _ j i).symm

/-- **Nothing is left of a number added everywhere.** -/
theorem centerKernel_add_const (c : ℝ) : centerKernel (k.map (· + c)) = centerKernel k := by
  have hsum : (k.map (· + c)).matrix = k.matrix + (Mat.const c : Mat ℝ n n).matrix := by
    ext i j
    rw [Matrix.add_apply, Mat.matrix_const, of_apply, Mat.matrix_apply, Mat.get_map, Mat.matrix_apply]
  have hconst : (centering n).matrix * (Mat.const c : Mat ℝ n n).matrix = 0 := by
    rw [← Mat.matrix_mul]
    exact centering_mul_of_constant fun i i' => Mat.row_ext fun j => by
      rw [Mat.get_const, Mat.get_const]
  refine Mat.matrix_injective ?_
  simp only [centerKernel, Mat.matrix_mul]
  rw [hsum, Matrix.mul_add, hconst, add_zero]

/-! ## 3. Arrays -/

/-- A kernel handed over as an array is centered if there are rows. -/
theorem NdArray.centerKernel_ofMat (hn : 0 < n) :
    (ofMat k).centerKernel = .ok (ofMat (PartialLeastSquares.centerKernel k)) := by
  have hanswer : (ofMat k).centerKernel =
      .ok (ofMat (PartialLeastSquares.centerKernel ((ofMat k).toMat n n))) :=
    (if_neg hn.ne').trans (if_neg (not_not.mpr rfl))
  rw [hanswer, toMat_ofMat]

theorem NdArray.centerCrossKernel_ofMat (hn : 0 < n) (cross : Mat ℝ m n) :
    (ofMat cross).centerCrossKernel (ofMat k) =
      .ok (ofMat (PartialLeastSquares.centerCrossKernel cross k)) := by
  have hanswer : (ofMat cross).centerCrossKernel (ofMat k) =
      .ok (ofMat (PartialLeastSquares.centerCrossKernel ((ofMat cross).toMat m n)
        ((ofMat k).toMat n n))) :=
    (if_neg hn.ne').trans ((if_neg (not_not.mpr rfl)).trans (if_neg (not_not.mpr rfl)))
  rw [hanswer, toMat_ofMat, toMat_ofMat]

/-! ## 4. The law -/

/-- **Both formulas center rows of features by the mean of the training rows,** whatever the
features and however many rows there are of either kind.  Of any square matrix, symmetric or not,
they make the same when it stands for both kernels: a matrix that centering leaves as it is, whose
rows and columns add up to zero, and which does not depend on a number added everywhere. -/
theorem centering_in_feature_space (hn : 0 < n) :
    (∀ k : Mat ℝ n n, (NdArray.ofMat k).centerKernel = .ok (.ofMat (centerKernel k))) ∧
    (∀ (m : ℕ) (cross : Mat ℝ m n) (k : Mat ℝ n n),
      (NdArray.ofMat cross).centerCrossKernel (.ofMat k) =
        .ok (.ofMat (centerCrossKernel cross k))) ∧
    (∀ (d : ℕ) (f : Mat ℝ n d),
      centerKernel (f.mulT f) = (f.lessMeans f).mulT (f.lessMeans f) ∧
      ∀ (m : ℕ) (a : Mat ℝ m d), centerCrossKernel (a.mulT f) (f.mulT f) =
        (a.lessMeans f).mulT (f.lessMeans f)) ∧
    ∀ k : Mat ℝ n n,
      centerCrossKernel k k = centerKernel k ∧
      centerKernel (centerKernel k) = centerKernel k ∧
      (∀ i, ∑ j, (centerKernel k).get i j = 0) ∧
      (∀ j, ∑ i, (centerKernel k).get i j = 0) ∧
      ∀ c : ℝ, centerKernel (k.map (· + c)) = centerKernel k :=
  ⟨fun k => NdArray.centerKernel_ofMat k hn,
    fun _ cross k => NdArray.centerCrossKernel_ofMat k hn cross,
    fun _ f => ⟨centerKernel_gram_features f, fun _ a => centerCrossKernel_gram_features a f⟩,
    fun k => ⟨centerCrossKernel_self k, centerKernel_centerKernel k, sum_row_centerKernel k,
      sum_column_centerKernel k, centerKernel_add_const k⟩⟩

/-- Three new rows and two training rows, with a single feature. -/
theorem centering_in_feature_space_three_rows :
    centerCrossKernel ((Mat.ofRat !![1; 2; 6]).mulT (Mat.ofRat !![1; 3] : Mat ℝ 2 1))
      ((Mat.ofRat !![1; 3]).mulT (Mat.ofRat !![1; 3])) = Mat.ofRat !![1, -1; 0, 0; -4, 4] := by
  refine (((centering_in_feature_space two_pos).2.2.1 1 (Mat.ofRat !![1; 3])).2 3 _).trans ?_
  refine Mat.ext fun i j => ?_
  simp only [Mat.lessMeans, Mat.get_mulT, Mat.get_sub, Mat.get_outer, Vec.get_ofFn, columnMeans,
    Scalar.sum_real, Scalar.ofNat_real, Fin.sum_univ_one, Fin.sum_univ_two, Mat.get_ofRat]
  fin_cases i <;> fin_cases j <;> norm_num

end PartialLeastSquares
