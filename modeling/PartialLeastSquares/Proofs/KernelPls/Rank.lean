/-
# No more components than the rank of the kernel

A component in feature space takes its score out of the range of the kernel and leaves nothing of it
on either side (`Removes`).  That is so for any number of responses, after any number of passes, and
whether or not the iteration has settled, because the last pass alone decides: it applies the kernel
and normalizes.  So every step lowers the rank of the kernel, and there are no more components than
the rank that it had (`count_le_rank`).

The kernel of the training rows has been centered.  A column of ones is not in its range, so its
rank is smaller than the number of rows (`rank_centerKernel_lt`), and it is zero if the rows are
all the same (`rank_centerKernel_of_constant`).
-/
import Mathlib
import PartialLeastSquares.Proofs.KernelPls.Component
import PartialLeastSquares.Proofs.KernelPls.Preparation
import PartialLeastSquares.Proofs.Rank
import PartialLeastSquares.Proofs.RowByRow

namespace PartialLeastSquares

open Matrix

variable {n p q : ℕ}

/-! ## 1. Kernels -/

/-- **A centered kernel is not of full rank.** -/
theorem rank_centerKernel_lt (hn : n ≠ 0) (k : Mat ℝ n n) : (centerKernel k).matrix.rank < n := by
  have hones : (0 : ℝ) < (1 : Fin n → ℝ) ⬝ᵥ 1 := by
    rw [one_dotProduct_one, Fintype.card_fin]
    exact Nat.cast_pos.mpr (Nat.pos_of_ne_zero hn)
  have hlt : (centerKernel k).matrix.rank < (1 : Matrix (Fin n) (Fin n) ℝ).rank := by
    refine rank_lt_of_orthogonal ⟨1, one_mulVec 1⟩ hones
      (fun v => ⟨(centerKernel k).matrix *ᵥ v, one_mulVec _⟩) fun v => ?_
    rw [dotProduct_comm, mulVec_dotProduct_eq, Mat.centered_iff.mp (centered_centerKernel k),
      dotProduct_zero]
  rwa [rank_one, Fintype.card_fin] at hlt

/-- **Rows that are all the same have a kernel of which nothing is left.** -/
theorem rank_centerKernel_of_constant {a : Mat ℝ n p} (h : a.Constant) (f : KernelFn ℝ) :
    (centerKernel (f.gram a a)).matrix.rank = 0 := by
  have hgram : (f.gram a a).Constant := fun i i' => f.row_gram_congr (h i i') a
  rw [centerKernel, Mat.matrix_mul, centering_mul_of_constant hgram, Matrix.zero_mul, rank_zero]

namespace KernelPls

/-! ## 2. Extractions -/

/-- **A step lowers the rank of the kernel.** -/
theorem Removes.rank_lt {r r' : Residual ℝ n q} {c : Component ℝ n q} (h : Removes r c r') :
    r'.kernel.matrix.rank < r.kernel.matrix.rank := by
  have hremoved (v : Fin n → ℝ) : ∃ z ∈ LinearMap.range r.kernel.matrix.mulVecLin,
      r'.kernel.matrix *ᵥ v = z - (c.score.coords ⬝ᵥ z) • c.score.coords := by
    refine ⟨r.kernel.matrix *ᵥ ((1 - vecMulVec c.score.coords c.score.coords) *ᵥ v), ⟨_, rfl⟩, ?_⟩
    rw [h.kernel, ← mulVec_mulVec, ← mulVec_mulVec, IsProjector.sub_vecMulVec_mulVec 1,
      one_mulVec]
  refine rank_lt_of_orthogonal h.score (h.unit.symm ▸ one_pos) (fun v => ?_) fun v => ?_
  · obtain ⟨z, hz, hv⟩ := hremoved v
    rw [hv]
    exact Submodule.sub_mem _ hz (Submodule.smul_mem _ _ h.score)
  · obtain ⟨z, -, hv⟩ := hremoved v
    rw [hv, dotProduct_sub, dotProduct_smul, h.unit, smul_eq_mul, mul_one, sub_self]

section Extractions

variable {tools : Toolkit ℝ} {settings : Settings ℝ} {kernel : Mat ℝ n n} {y : Mat ℝ n q}
  {count : ℕ} {r : Residual ℝ n q}

/-- An extraction that ends well is a chain of such steps. -/
theorem chain_removes (h : (extraction tools settings kernel y count).ending = .ok r) :
    Chain Removes ⟨kernel, y⟩ (extraction tools settings kernel y count).components r :=
  chain_of_extract (fun _ _ _ _ => removes_of_step kernel.norm_nonneg) h

/-- **There are no more components than the rank of the kernel.** -/
theorem count_le_rank (h : (extraction tools settings kernel y count).ending = .ok r) :
    count ≤ kernel.matrix.rank := by
  have hle := (chain_removes h).add_length_le fun _ _ _ first => first.rank_lt
  exact length_components_extract h ▸ (Nat.le_add_left _ _).trans hle

theorem responses_ne_zero (h : (extraction tools settings kernel y count).ending = .ok r)
    (hcount : count ≠ 0) : y.matrix ≠ 0 := by
  obtain ⟨c, r', first⟩ := (chain_removes h).exists_first
    ((length_components_extract h).symm ▸ hcount)
  exact first.responses

end Extractions

end KernelPls

end PartialLeastSquares
