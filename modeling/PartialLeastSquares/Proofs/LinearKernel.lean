/-
# The linear kernel of centered rows, exactly

The inner products of rows make up the product of a matrix with a transpose.  If the training rows
are centered already, there is nothing left to center in feature space: neither in their kernel
(`centerKernel_gram`) nor in that of new rows with them (`centerCrossKernel_gram`).

A kernel takes no matrix without rows or without columns.
-/
import Mathlib
import PartialLeastSquares.Kernel
import PartialLeastSquares.Kernel.Centering
import PartialLeastSquares.Proofs.Outcome
import PartialLeastSquares.Proofs.Preprocessing

namespace PartialLeastSquares

open Matrix

variable {n m p : ℕ}

/-! ## 1. Evaluation -/

theorem matrix_gram_linear (a : Mat ℝ n p) (b : Mat ℝ m p) :
    (KernelFn.linear.gram a b).matrix = a.matrix * b.matrixᵀ := by
  ext i j
  rw [Mat.matrix_apply, KernelFn.get_gram, mul_apply]
  refine (Vec.dot_real _ _).trans (Finset.sum_congr rfl fun l _ => ?_)
  rw [Vec.coords_apply, Vec.coords_apply, Mat.get_row, Mat.get_row]
  rfl

/-- The inner products of rows with themselves are positive semidefinite. -/
theorem posSemidef_gram_linear (a : Mat ℝ n p) :
    (KernelFn.linear.gram a a).matrix.PosSemidef := by
  rw [matrix_gram_linear]
  exact posSemidef_self_mul_conjTranspose a.matrix

namespace Kernel

/-- **A kernel takes a matrix** that has rows and columns. -/
theorem checkMatrix_eq_ok_iff {a : Mat ℝ n p} : checkMatrix a = .ok () ↔ n ≠ 0 ∧ p ≠ 0 := by
  unfold checkMatrix
  rw [Mat.entryProblem?_real]
  dsimp only
  split
  · rename_i hn
    exact ⟨fun h => (nomatch h), fun h => absurd hn h.1⟩
  · rename_i hn
    split
    · rename_i hp
      exact ⟨fun h => (nomatch h), fun h => absurd hp h.2⟩
    · rename_i hp
      exact ⟨fun _ => ⟨hn, hp⟩, fun _ => rfl⟩

theorem checkMatrix_no_rows (a : Mat ℝ 0 p) :
    checkMatrix a = .error (.unsuitable (.noRows [0, p])) := by
  unfold checkMatrix
  rw [Mat.entryProblem?_real]
  rfl

theorem selfGram_linear_eq_ok_iff {a : Mat ℝ n p} {g : Mat ℝ n n} :
    linear.selfGram a = .ok g ↔ (n ≠ 0 ∧ p ≠ 0) ∧ KernelFn.linear.gram a a = g := by
  unfold selfGram
  rw [← checkMatrix_eq_ok_iff (a := a)]
  constructor
  · intro h
    obtain ⟨_, -, h⟩ := bind_eq_ok_iff.mp h
    obtain ⟨_, hcheck, h⟩ := bind_eq_ok_iff.mp h
    exact ⟨hcheck, Except.ok.inj h⟩
  · rintro ⟨hcheck, rfl⟩
    exact bind_eq_ok_iff.mpr ⟨(), rfl, bind_eq_ok_iff.mpr ⟨(), hcheck, rfl⟩⟩

theorem gram_linear {a : Mat ℝ n p} {b : Mat ℝ m p} (hn : n ≠ 0) (hm : m ≠ 0) (hp : p ≠ 0) :
    linear.gram a b = .ok (KernelFn.linear.gram a b) :=
  bind_eq_ok_iff.mpr ⟨(), rfl, bind_eq_ok_iff.mpr ⟨(), checkMatrix_eq_ok_iff.mpr ⟨hn, hp⟩,
    bind_eq_ok_iff.mpr ⟨(), checkMatrix_eq_ok_iff.mpr ⟨hm, hp⟩, rfl⟩⟩⟩

theorem gram_linear_no_rows (a : Mat ℝ 0 p) (b : Mat ℝ m p) :
    linear.gram a b = .error (.unsuitable (.noRows [0, p])) := by
  unfold gram
  rw [checkMatrix_no_rows]
  rfl

end Kernel

/-! ## 2. Centering -/

section Centering

variable {x : Mat ℝ n p}

/-- Numbers that are all the same see only the sums of the columns. -/
theorem const_mul_of_centered (h : x.Centered) (c : ℝ) :
    (Mat.const c : Mat ℝ m n).matrix * x.matrix = 0 := by
  ext i j
  rw [mul_apply, Mat.matrix_const]
  exact (Finset.mul_sum _ _ _).symm.trans (by rw [h j, mul_zero]; rfl)

/-- **Centered columns stay as they are.** -/
theorem centering_mul_of_centered (h : x.Centered) :
    (centering n : Mat ℝ n n).matrix * x.matrix = x.matrix := by
  rw [centering, Mat.matrix_sub, Mat.matrix_identity, Matrix.sub_mul, Matrix.one_mul,
    const_mul_of_centered h, sub_zero]

theorem transpose_centering (n : ℕ) :
    (centering n : Mat ℝ n n).matrixᵀ = (centering n : Mat ℝ n n).matrix := by
  rw [centering, Mat.matrix_sub, Mat.matrix_identity, transpose_sub, transpose_one,
    Mat.matrix_const]
  rfl

theorem transpose_mul_centering_of_centered (h : x.Centered) :
    x.matrixᵀ * (centering n : Mat ℝ n n).matrix = x.matrixᵀ := by
  rw [← transpose_centering, ← transpose_mul, centering_mul_of_centered h]

/-- **The kernel of centered rows is centered.** -/
theorem centerKernel_gram (h : x.Centered) :
    (centerKernel (KernelFn.linear.gram x x)).matrix = x.matrix * x.matrixᵀ := by
  rw [centerKernel, Mat.matrix_mul, Mat.matrix_mul, matrix_gram_linear, ← Matrix.mul_assoc,
    centering_mul_of_centered h, Matrix.mul_assoc, transpose_mul_centering_of_centered h]

/-- **The kernel of any rows with centered rows is centered.** -/
theorem centerCrossKernel_gram (h : x.Centered) (new : Mat ℝ m p) :
    (centerCrossKernel (KernelFn.linear.gram new x) (KernelFn.linear.gram x x)).matrix =
      new.matrix * x.matrixᵀ := by
  rw [centerCrossKernel, Mat.matrix_mul, Mat.matrix_sub, Mat.matrix_mul, matrix_gram_linear,
    matrix_gram_linear, ← Matrix.mul_assoc, const_mul_of_centered h, Matrix.zero_mul, sub_zero,
    Matrix.mul_assoc, transpose_mul_centering_of_centered h]

end Centering

end PartialLeastSquares
