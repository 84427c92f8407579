/-
# Data in another order

The statistics of a column do not depend on the order of the rows: its sum, its deviation and its
peak are taken over all of them.  So statistics are learned alike from rows in any order, and have
the order of the columns (`Scheme.learn_reorder`).

A kernel looks at two rows at a time and sums over their columns, so the order of the columns does
not show in it (`KernelFn.gram_reorder`).
-/
import Mathlib
import PartialLeastSquares.Model
import PartialLeastSquares.Proofs.KernelPls.Preparation
import PartialLeastSquares.Proofs.Reordering.Arithmetic

namespace PartialLeastSquares

variable {n m p q : ℕ}

/-! ## 1. The largest magnitude -/

namespace Vec

/-- The larger of a magnitude and a number is at most a bound if both are. -/
theorem max_abs_le_iff (a b r : ℝ) : Scalar.max (Scalar.abs a) b ≤ r ↔ |a| ≤ r ∧ b ≤ r := by
  have hmax : Scalar.max (Scalar.abs a) b = max |a| b := by
    unfold Scalar.max
    show (if b < |a| then |a| else b) = max |a| b
    split_ifs with h
    · exact (max_eq_left h.le).symm
    · exact (max_eq_right (not_lt.mp h)).symm
  rw [hmax]
  exact max_le_iff

/-- The largest magnitude so far is at most a bound if all that has been looked at is. -/
theorem foldl_max_le_iff (entries : List ℝ) (start r : ℝ) :
    entries.foldl (fun m a => Scalar.max (Scalar.abs a) m) start ≤ r ↔
      start ≤ r ∧ ∀ a ∈ entries, |a| ≤ r := by
  induction entries generalizing start with
  | nil => simp
  | cons a rest ih =>
    rw [List.foldl_cons, List.forall_mem_cons]
    refine (ih _).trans ?_
    rw [max_abs_le_iff]
    tauto

/-- **The largest magnitude** is the least bound of all magnitudes. -/
theorem maxAbs_le_iff (v : Vec ℝ n) (r : ℝ) : v.maxAbs ≤ r ↔ 0 ≤ r ∧ ∀ i, |v.get i| ≤ r := by
  unfold maxAbs
  rw [← Vector.foldl_toList]
  refine (foldl_max_le_iff _ _ _).trans (and_congr Iff.rfl ⟨fun h i => ?_, fun h a ha => ?_⟩)
  · exact h _ (Vector.mem_toList_iff.mpr (Vector.getElem_mem i.isLt))
  · obtain ⟨i, hi, rfl⟩ := Vector.getElem_of_mem (Vector.mem_toList_iff.mp ha)
    exact h ⟨i, hi⟩

/-- **The largest magnitude does not depend on the order.** -/
@[simp] theorem maxAbs_reorder (σ : Equiv.Perm (Fin n)) (v : Vec ℝ n) :
    (v.reorder σ).maxAbs = v.maxAbs := by
  refine eq_of_forall_ge_iff fun r => ?_
  rw [maxAbs_le_iff, maxAbs_le_iff]
  simp only [get_reorder]
  exact and_congr Iff.rfl (Equiv.forall_congr_right σ (q := fun i => |v.get i| ≤ r))

end Vec

/-! ## 2. Statistics of the columns -/

def ColumnStats.reorder {K : Type} (τ : Equiv.Perm (Fin p)) (s : ColumnStats K p) :
    ColumnStats K p :=
  ⟨s.mean.reorder τ, s.scale.reorder τ⟩

section Statistics

variable (σ : Equiv.Perm (Fin n)) (τ : Equiv.Perm (Fin p)) (x : Mat ℝ n p)

@[simp] theorem ColumnStats.reorder_apply (s : ColumnStats ℝ p) :
    (s.reorder τ).apply (x.reorder σ τ) = (s.apply x).reorder σ τ :=
  Mat.ext fun i j => by simp only [get_apply, Mat.get_reorder, reorder, Vec.get_reorder]

@[simp] theorem ColumnStats.reorder_unapply (s : ColumnStats ℝ p) :
    (s.reorder τ).unapply (x.reorder σ τ) = (s.unapply x).reorder σ τ :=
  Mat.ext fun i j => by simp only [get_unapply, Mat.get_reorder, reorder, Vec.get_reorder]

theorem columnMeans_reorder : columnMeans (x.reorder σ τ) = (columnMeans x).reorder τ := by
  refine Vec.ext fun j => ?_
  rw [Vec.get_reorder, columnMeans, columnMeans, Vec.get_ofFn, Vec.get_ofFn]
  simp only [Mat.get_reorder, Scalar.sum_real]
  exact congrArg (· / _) (Equiv.sum_comp σ fun i => x.get i (τ j))

theorem columnDeviations_reorder (mean : Vec ℝ p) :
    columnDeviations (x.reorder σ τ) (mean.reorder τ) = (columnDeviations x mean).reorder τ := by
  refine Vec.ext fun j => ?_
  rw [Vec.get_reorder, columnDeviations, columnDeviations, Vec.get_ofFn, Vec.get_ofFn]
  simp only [Mat.get_reorder, Vec.get_reorder, Scalar.sum_real]
  refine congrArg (fun total => Scalar.sqrt (total / _)) ?_
  exact Equiv.sum_comp σ fun i =>
    (x.get i (τ j) - mean.get (τ j)) * (x.get i (τ j) - mean.get (τ j))

theorem columnPeaks_reorder : columnPeaks (x.reorder σ τ) = (columnPeaks x).reorder τ := by
  refine Vec.ext fun j => ?_
  rw [Vec.get_reorder, columnPeaks, columnPeaks, Vec.get_ofFn, Vec.get_ofFn, Mat.col_reorder,
    Vec.maxAbs_reorder]

/-- **What a scheme learns** does not depend on the order of the rows, and has that of the
columns. -/
theorem Scheme.learn_reorder (scheme : Scheme) :
    scheme.learn (x.reorder σ τ) = (scheme.learn x).reorder τ := by
  have hones : (Vec.ofFn fun _ => 1 : Vec ℝ p).reorder τ = Vec.ofFn fun _ => 1 :=
    Vec.ext fun j => by rw [Vec.get_reorder, Vec.get_ofFn, Vec.get_ofFn]
  cases scheme with
  | none =>
    have hzero : (Vec.zero : Vec ℝ p).reorder τ = Vec.zero :=
      Vec.ext fun j => by rw [Vec.get_reorder, Vec.zero, Vec.get_ofFn, Vec.get_ofFn]
    unfold learn ColumnStats.reorder
    simp only [hones, hzero]
  | center =>
    unfold learn ColumnStats.reorder
    simp only [hones, columnMeans_reorder]
  | standardize =>
    unfold learn ColumnStats.reorder
    have hdeviation : (if 1 < n then columnDeviations (x.reorder σ τ) (columnMeans (x.reorder σ τ))
        else Vec.ofFn fun _ => 1) =
          (if 1 < n then columnDeviations x (columnMeans x) else Vec.ofFn fun _ => 1).reorder τ := by
      split_ifs
      · rw [columnMeans_reorder, columnDeviations_reorder]
      · exact hones.symm
    dsimp only
    rw [hdeviation, columnMeans_reorder, columnPeaks_reorder]
    refine congrArg _ (Vec.ext fun j => ?_)
    simp only [Vec.get_reorder, Vec.get_ofFn]

end Statistics

/-! ## 3. Kernels -/

section Kernels

variable (σ : Equiv.Perm (Fin n)) (μ : Equiv.Perm (Fin m)) (τ : Equiv.Perm (Fin p))

theorem squaredDistance_reorder (x y : Vec ℝ p) :
    squaredDistance (x.reorder τ) (y.reorder τ) = squaredDistance x y := by
  unfold squaredDistance
  simp only [Vec.reorder_dot, Vec.normSq_reorder]

/-- **The kernel of two rows** does not depend on the order of their columns. -/
theorem KernelFn.value_reorder (f : KernelFn ℝ) (x y : Vec ℝ p) :
    f.value (x.reorder τ) (y.reorder τ) = f.value x y := by
  cases f with
  | linear => exact Vec.reorder_dot τ x y
  | poly degree gamma coef0 =>
    unfold value
    rw [Vec.reorder_dot]
  | rbf gamma =>
    unfold value
    rw [squaredDistance_reorder]

theorem KernelFn.gram_reorder (f : KernelFn ℝ) (a : Mat ℝ n p) (b : Mat ℝ m p) :
    f.gram (a.reorder σ τ) (b.reorder μ τ) = (f.gram a b).reorder σ μ :=
  Mat.ext fun i j => by
    rw [get_gram, Mat.row_reorder, Mat.row_reorder, value_reorder, Mat.get_reorder, get_gram]

namespace Kernel

theorem checkMatrix_real_congr (a b : Mat ℝ n p) : checkMatrix a = checkMatrix b := by
  unfold checkMatrix
  rw [Mat.entryProblem?_real, Mat.entryProblem?_real]

/-- **A kernel has a value for columns in another order** if and only if it has one, and it is the
same. -/
theorem gram_reorder_cols (kernel : Kernel) (a : Mat ℝ n p) (b : Mat ℝ m p) :
    kernel.gram (a.reorder 1 τ) (b.reorder 1 τ) = kernel.gram a b := by
  unfold gram
  rw [checkMatrix_real_congr (a.reorder 1 τ) a, checkMatrix_real_congr (b.reorder 1 τ) b]
  simp only [KernelFn.gram_reorder, Mat.reorder_one]

theorem selfGram_reorder_cols (kernel : Kernel) (a : Mat ℝ n p) :
    kernel.selfGram (a.reorder 1 τ) = kernel.selfGram a := by
  unfold selfGram
  rw [checkMatrix_real_congr (a.reorder 1 τ) a]
  simp only [KernelFn.selfGram_eq_gram, KernelFn.gram_reorder, Mat.reorder_one]

end Kernel

end Kernels

end PartialLeastSquares
