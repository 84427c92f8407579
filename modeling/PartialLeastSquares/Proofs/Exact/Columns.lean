/-
# Components as columns

The weights, the scores and the loadings of an extraction are stored with their components and
read as the columns of matrices.  This file moves between the two: what holds of every component
holds of the matrix, and a matrix of columns that are orthogonal in pairs and not zero is
injective.
-/
import Mathlib
import PartialLeastSquares.Proofs.Exact.Scalar

namespace PartialLeastSquares.Mat

open Matrix

variable {α : Type} {n p : ℕ} {cs : List α} {f : α → Vec ℝ n}

theorem matrix_ofCols_apply (i : Fin n) (j : Fin cs.length) :
    (Mat.ofCols cs f).matrix i j = (f (cs.get j)).coords i :=
  Mat.get_ofCols cs f i j

theorem matrix_ofCols :
    (Mat.ofCols cs f).matrix = Matrix.of fun i j => (f (cs.get j)).coords i :=
  Matrix.ext matrix_ofCols_apply

theorem col_ofCols (j : Fin cs.length) : (Mat.ofCols cs f).col j = f (cs.get j) :=
  Vec.ext fun i => (Mat.get_col _ _ _).trans (Mat.get_ofCols cs f i j)

/-! ## 1. One column more -/

/-- A sum over the columns is the first term and the sum over the others. -/
theorem sum_columns_cons (c : α) (g : Fin (c :: cs).length → ℝ) :
    ∑ j, g j = g ⟨0, Nat.succ_pos _⟩ + ∑ j : Fin cs.length, g j.succ :=
  Fin.sum_univ_succ (n := cs.length) g

theorem ofCols_nil_mulVec (z : Fin ([] : List α).length → ℝ) :
    (Mat.ofCols [] f).matrix *ᵥ z = 0 :=
  funext fun i => Fin.sum_univ_zero fun j => (Mat.ofCols ([] : List α) f).matrix i j * z j

theorem ofCols_cons_mulVec (c : α) (z : Fin (c :: cs).length → ℝ) :
    (Mat.ofCols (c :: cs) f).matrix *ᵥ z =
      z ⟨0, Nat.succ_pos _⟩ • (f c).coords + (Mat.ofCols cs f).matrix *ᵥ fun j => z j.succ := by
  funext i
  refine (sum_columns_cons c fun j => (Mat.ofCols (c :: cs) f).matrix i j * z j).trans ?_
  rw [matrix_ofCols_apply, Pi.add_apply, Pi.smul_apply, smul_eq_mul, mul_comm]
  simp only [mulVec, dotProduct, matrix_ofCols_apply]
  rfl

theorem ofCols_nil_mul_transpose (g : α → Vec ℝ p) :
    (Mat.ofCols [] f).matrix * (Mat.ofCols [] g).matrixᵀ = 0 :=
  Matrix.ext fun i j => Fin.sum_univ_zero fun l =>
    (Mat.ofCols ([] : List α) f).matrix i l * (Mat.ofCols [] g).matrixᵀ l j

theorem ofCols_cons_mul_transpose (c : α) (g : α → Vec ℝ p) :
    (Mat.ofCols (c :: cs) f).matrix * (Mat.ofCols (c :: cs) g).matrixᵀ =
      vecMulVec (f c).coords (g c).coords +
        (Mat.ofCols cs f).matrix * (Mat.ofCols cs g).matrixᵀ := by
  ext i j
  rw [Matrix.add_apply, mul_apply, mul_apply, sum_columns_cons]
  simp only [transpose_apply, matrix_ofCols_apply, vecMulVec_apply]
  rfl

/-! ## 2. From the components to the matrix -/

theorem ofCols_mulVec_mem {V : Submodule ℝ (Fin n → ℝ)} (h : ∀ c ∈ cs, (f c).coords ∈ V)
    (z : Fin cs.length → ℝ) : (Mat.ofCols cs f).matrix *ᵥ z ∈ V := by
  induction cs with
  | nil =>
    rw [ofCols_nil_mulVec]
    exact V.zero_mem
  | cons c cs ih =>
    rw [ofCols_cons_mulVec]
    exact V.add_mem (V.smul_mem _ (h c List.mem_cons_self))
      (ih (fun d hd => h d (List.mem_cons_of_mem _ hd)) _)

theorem mul_ofCols_eq_zero {A : Matrix (Fin p) (Fin n) ℝ}
    (h : ∀ c ∈ cs, A *ᵥ (f c).coords = 0) : A * (Mat.ofCols cs f).matrix = 0 := by
  ext i j
  rw [matrix_ofCols]
  exact congrFun (h (cs.get j) (List.get_mem _ _)) i

theorem ofCols_transpose_mulVec_eq_zero {u : Fin n → ℝ}
    (h : ∀ c ∈ cs, (f c).coords ⬝ᵥ u = 0) : (Mat.ofCols cs f).matrixᵀ *ᵥ u = 0 := by
  funext j
  rw [matrix_ofCols]
  exact h (cs.get j) (List.get_mem _ _)

theorem ofCols_transpose_mul_apply (g : α → Vec ℝ n) (i j : Fin cs.length) :
    ((Mat.ofCols cs f).matrixᵀ * (Mat.ofCols cs g).matrix) i j =
      (f (cs.get i)).coords ⬝ᵥ (g (cs.get j)).coords := by
  rw [matrix_ofCols, matrix_ofCols]
  rfl

/-! ## 3. Orthogonal columns -/

/-- Columns that are orthogonal in pairs have a diagonal matrix of inner products. -/
theorem ofCols_gram_eq_diagonal
    (h : cs.Pairwise fun c d => (f c).coords ⬝ᵥ (f d).coords = 0) :
    (Mat.ofCols cs f).matrixᵀ * (Mat.ofCols cs f).matrix =
      diagonal fun j => (f (cs.get j)).coords ⬝ᵥ (f (cs.get j)).coords := by
  rw [List.pairwise_iff_get] at h
  ext i j
  rw [ofCols_transpose_mul_apply]
  rcases lt_trichotomy i j with hij | rfl | hij
  · rw [diagonal_apply_ne _ hij.ne]
    exact h i j hij
  · rw [diagonal_apply_eq]
  · rw [diagonal_apply_ne _ hij.ne', dotProduct_comm]
    exact h j i hij

/-- **Orthogonal columns that are not zero are independent.** -/
theorem ofCols_mulVec_eq_zero (h : cs.Pairwise fun c d => (f c).coords ⬝ᵥ (f d).coords = 0)
    (hpos : ∀ c ∈ cs, 0 < (f c).coords ⬝ᵥ (f c).coords) (z : Fin cs.length → ℝ)
    (hz : (Mat.ofCols cs f).matrix *ᵥ z = 0) : z = 0 := by
  funext j
  have hgram : ((Mat.ofCols cs f).matrixᵀ * (Mat.ofCols cs f).matrix) *ᵥ z = 0 := by
    rw [← mulVec_mulVec, hz, mulVec_zero]
  have hj := congrFun hgram j
  rw [ofCols_gram_eq_diagonal h, mulVec_diagonal] at hj
  exact (mul_eq_zero.mp hj).resolve_left (hpos _ (List.get_mem _ _)).ne'

end PartialLeastSquares.Mat
