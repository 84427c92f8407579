/-
# Arithmetic in another order

Rows and columns may come in any order.  A reordered vector has the old entries at the places that
a permutation says, and a reordered matrix has them at the places that two permutations say, one
for its rows and one for its columns.

Every operation of the library respects this.  A sum over places does not depend on their order, so
inner products, lengths and guards are as before; and where an operation keeps rows or columns
apart, the result is reordered in the same way (`reorder_apply`, `reorder_mul` and the like).
Nothing is assumed of the permutations, nor of the tools.
-/
import Mathlib
import PartialLeastSquares.Proofs.Exact.Guard
import PartialLeastSquares.Proofs.Rescaling.Arithmetic

namespace PartialLeastSquares

open Matrix

variable {n m p q : ℕ}

/-! ## 1. Vectors -/

/-- **A vector in another order:** the entry at a place is the old one at the place `σ` says. -/
def Vec.reorder {K : Type} (σ : Equiv.Perm (Fin n)) (v : Vec K n) : Vec K n :=
  Vec.ofFn fun i => v.get (σ i)

namespace Vec

@[simp] theorem get_reorder {K : Type} (σ : Equiv.Perm (Fin n)) (v : Vec K n) (i : Fin n) :
    (v.reorder σ).get i = v.get (σ i) :=
  get_ofFn _ i

@[simp] theorem reorder_one {K : Type} (v : Vec K n) : v.reorder 1 = v :=
  ext fun i => get_reorder 1 v i

variable (σ : Equiv.Perm (Fin n)) (v w : Vec ℝ n) (c : ℝ)

@[simp] theorem coords_reorder : (v.reorder σ).coords = v.coords ∘ σ :=
  funext fun i => get_reorder σ v i

@[simp] theorem reorder_sub : (v.reorder σ).sub (w.reorder σ) = (v.sub w).reorder σ :=
  ext fun i => by simp only [get_sub, get_reorder]

@[simp] theorem reorder_scale : (v.reorder σ).scale c = (v.scale c).reorder σ :=
  ext fun i => by simp only [get_scale, get_reorder]

@[simp] theorem reorder_dividedBy : (v.reorder σ).dividedBy c = (v.dividedBy c).reorder σ :=
  ext fun i => by simp only [get_dividedBy, get_reorder]

/-- **An inner product does not depend on the order.** -/
@[simp] theorem reorder_dot : (v.reorder σ).dot (w.reorder σ) = v.dot w := by
  rw [dot_real, dot_real, coords_reorder, coords_reorder]
  exact comp_equiv_dotProduct_comp_equiv v.coords w.coords σ

@[simp] theorem normSq_reorder : (v.reorder σ).normSq = v.normSq := reorder_dot σ v v

@[simp] theorem norm_reorder : (v.reorder σ).norm = v.norm := by
  unfold norm
  rw [normSq_reorder]

end Vec

/-! ## 2. Matrices -/

/-- **A matrix in another order** of its rows and of its columns. -/
def Mat.reorder {K : Type} (σ : Equiv.Perm (Fin n)) (τ : Equiv.Perm (Fin p)) (a : Mat K n p) :
    Mat K n p :=
  Mat.ofFn fun i j => a.get (σ i) (τ j)

namespace Mat

@[simp] theorem get_reorder {K : Type} (σ : Equiv.Perm (Fin n)) (τ : Equiv.Perm (Fin p))
    (a : Mat K n p) (i : Fin n) (j : Fin p) : (a.reorder σ τ).get i j = a.get (σ i) (τ j) :=
  get_ofFn _ i j

@[simp] theorem reorder_one {K : Type} (a : Mat K n p) : a.reorder 1 1 = a :=
  ext fun i j => get_reorder 1 1 a i j

@[simp] theorem row_reorder {K : Type} (σ : Equiv.Perm (Fin n)) (τ : Equiv.Perm (Fin p))
    (a : Mat K n p) (i : Fin n) : (a.reorder σ τ).row i = (a.row (σ i)).reorder τ :=
  Vec.ext fun j => by simp only [get_row, get_reorder, Vec.get_reorder]

@[simp] theorem col_reorder {K : Type} (σ : Equiv.Perm (Fin n)) (τ : Equiv.Perm (Fin p))
    (a : Mat K n p) (j : Fin p) : (a.reorder σ τ).col j = (a.col (τ j)).reorder σ :=
  Vec.ext fun i => by simp only [get_col, get_reorder, Vec.get_reorder]

@[simp] theorem only_reorder {K : Type} (σ : Equiv.Perm (Fin n)) (ρ : Equiv.Perm (Fin 1))
    (a : Mat K n 1) : (a.reorder σ ρ).only = a.only.reorder σ := by
  rw [only, col_reorder, Subsingleton.elim (ρ _) ⟨0, Nat.one_pos⟩, only]

@[simp] theorem ofCol_reorder {K : Type} (σ : Equiv.Perm (Fin n)) (ρ : Equiv.Perm (Fin 1))
    (v : Vec K n) : ofCol (v.reorder σ) = (ofCol v).reorder σ ρ :=
  ext fun i j => by simp only [get_ofCol, get_reorder, Vec.get_reorder]

variable (σ : Equiv.Perm (Fin n)) (μ : Equiv.Perm (Fin m)) (τ : Equiv.Perm (Fin p))
  (ρ : Equiv.Perm (Fin q))

@[simp] theorem matrix_reorder (a : Mat ℝ n p) : (a.reorder σ τ).matrix = a.matrix.submatrix σ τ :=
  Matrix.ext fun i j => get_reorder σ τ a i j

@[simp] theorem identity_reorder : (identity n : Mat ℝ n n).reorder σ σ = identity n :=
  matrix_injective (by rw [matrix_reorder, matrix_identity, submatrix_one_equiv])

@[simp] theorem reorder_sub (a b : Mat ℝ n p) :
    (a.reorder σ τ).sub (b.reorder σ τ) = (a.sub b).reorder σ τ :=
  ext fun i j => by simp only [get_sub, get_reorder]

@[simp] theorem reorder_apply (a : Mat ℝ n p) (v : Vec ℝ p) :
    (a.reorder σ τ).apply (v.reorder τ) = (a.apply v).reorder σ :=
  Vec.coords_injective (by
    rw [coords_apply, matrix_reorder, Vec.coords_reorder, submatrix_mulVec_equiv,
      Function.comp_assoc, Equiv.self_comp_symm, Function.comp_id, Vec.coords_reorder,
      coords_apply])

@[simp] theorem reorder_applyT (a : Mat ℝ n p) (v : Vec ℝ n) :
    (a.reorder σ τ).applyT (v.reorder σ) = (a.applyT v).reorder τ :=
  Vec.coords_injective (by
    rw [coords_applyT, matrix_reorder, transpose_submatrix, Vec.coords_reorder,
      submatrix_mulVec_equiv, Function.comp_assoc, Equiv.self_comp_symm, Function.comp_id,
      Vec.coords_reorder, coords_applyT])

/-- **A product keeps the rows of the first factor and the columns of the second.** -/
@[simp] theorem reorder_mul (a : Mat ℝ n p) (b : Mat ℝ p q) :
    (a.reorder σ τ).mul (b.reorder τ ρ) = (a.mul b).reorder σ ρ :=
  matrix_injective (by
    rw [matrix_mul, matrix_reorder, matrix_reorder, submatrix_mul_equiv, matrix_reorder,
      matrix_mul])

@[simp] theorem reorder_tmul (a : Mat ℝ n p) (b : Mat ℝ n q) :
    tmul (a.reorder σ τ) (b.reorder σ ρ) = (tmul a b).reorder τ ρ :=
  matrix_injective (by
    rw [matrix_tmul, matrix_reorder, matrix_reorder, transpose_submatrix, submatrix_mul_equiv,
      matrix_reorder, matrix_tmul])

@[simp] theorem reorder_mulT (a : Mat ℝ n p) (b : Mat ℝ m p) :
    mulT (a.reorder σ τ) (b.reorder μ τ) = (mulT a b).reorder σ μ :=
  matrix_injective (by
    rw [matrix_mulT, matrix_reorder, matrix_reorder, transpose_submatrix, submatrix_mul_equiv,
      matrix_reorder, matrix_mulT])

@[simp] theorem reorder_outer (v : Vec ℝ n) (w : Vec ℝ p) :
    outer (v.reorder σ) (w.reorder τ) = (outer v w).reorder σ τ :=
  ext fun i j => by simp only [get_outer, get_reorder, Vec.get_reorder]

/-! The same when rows alone or columns alone are in another order. -/

@[simp] theorem reorder_rows_apply (a : Mat ℝ n p) (v : Vec ℝ p) :
    (a.reorder σ 1).apply v = (a.apply v).reorder σ := by
  simpa using reorder_apply σ 1 a v

@[simp] theorem reorder_cols_apply (a : Mat ℝ n p) (v : Vec ℝ p) :
    (a.reorder 1 τ).apply (v.reorder τ) = a.apply v := by
  simp

@[simp] theorem reorder_cols_applyT (a : Mat ℝ n p) (v : Vec ℝ n) :
    (a.reorder 1 τ).applyT v = (a.applyT v).reorder τ := by
  simpa using reorder_applyT 1 τ a v

@[simp] theorem outer_reorder (v : Vec ℝ n) (w : Vec ℝ p) :
    outer v (w.reorder τ) = (outer v w).reorder 1 τ := by
  simpa using reorder_outer 1 τ v w

@[simp] theorem reorder_rows_mul (a : Mat ℝ n p) (b : Mat ℝ p q) :
    (a.reorder σ 1).mul b = (a.mul b).reorder σ 1 := by
  simpa using reorder_mul σ 1 1 a b

/-- **The length of a matrix does not depend on the order.** -/
@[simp] theorem norm_reorder (a : Mat ℝ n p) : (a.reorder σ τ).norm = a.norm := by
  unfold norm
  simp only [row_reorder, Vec.normSq_reorder, Scalar.sum_real]
  exact congrArg _ (Equiv.sum_comp σ fun i => (a.row i).normSq)

end Mat

/-! ## 3. Columns of a list -/

/-- The columns of the members of a list that was mapped, each with its entries in another order. -/
theorem Mat.heq_ofCols_reorder {α : Type} (cs : List α) {g : α → α} {f : α → Vec ℝ n}
    {σ : Equiv.Perm (Fin n)} (h : ∀ c, f (g c) = (f c).reorder σ) :
    HEq (Mat.ofCols (cs.map g) f) ((Mat.ofCols cs f).reorder σ 1) := by
  have hcols : (Mat.ofCols cs f).reorder σ 1 = Mat.ofCols cs fun c => f (g c) :=
    Mat.ext fun i j => by
      rw [get_reorder, get_ofCols, get_ofCols, h, Vec.get_reorder]
      rfl
  rw [hcols]
  exact Mat.heq_ofCols_map cs g f

/-! ## 4. Guards -/

section Guards

variable {what : Quantity} (σ : Equiv.Perm (Fin n)) (v : Vec ℝ n) (d reference : ℝ)

/-- **A vector in another order is normalised if and only if the vector is.** -/
theorem normalize_reorder : normalize what (v.reorder σ) reference =
    (normalize what v reference).map (Vec.reorder σ) := by
  unfold normalize
  simp only [Vec.norm_reorder, Vec.reorder_dividedBy]
  split_ifs <;> rfl

theorem divideBy_reorder : divideBy what (v.reorder σ) d reference =
    (divideBy what v d reference).map (Vec.reorder σ) := by
  unfold divideBy
  rw [Vec.reorder_dividedBy]
  split_ifs <;> rfl

end Guards

end PartialLeastSquares
