/-
# No more components than the rank

Nothing compares the number of components with the rank of the predictors.  What ends an extraction
is that nothing is left.  A component takes its score out of the range of what is left and leaves
what is orthogonal to it, so every step lowers the rank (`rank_lt_of_orthogonal`), and an
extraction that ends well has no more components than the rank of the whole.

That one step is all there is to the method with one response and to the filter.  The filter is left
with a rank that is not zero, because what it leaves still covaries with the response
(`Keeps.chain`), so it stops one component earlier.  The method from cross-products does not deflate
the predictors but narrows a projector, and what has a rank is their product
(`Simpls.Tracks.rank_lt`).
-/
import Mathlib
import PartialLeastSquares.Proofs.OrthogonalFilter.Agreement
import PartialLeastSquares.Proofs.Pls1.Component
import PartialLeastSquares.Proofs.Simpls.Regression

namespace PartialLeastSquares

open Matrix

variable {n p q : ℕ}

/-! ## 1. Ranks -/

/-- **The rank is smaller** where everything lies in a range and is orthogonal to something in it.
-/
theorem rank_lt_of_orthogonal {A : Matrix (Fin n) (Fin p) ℝ} {B : Matrix (Fin n) (Fin q) ℝ}
    {t : Fin n → ℝ} (hmem : t ∈ LinearMap.range A.mulVecLin) (hpos : 0 < t ⬝ᵥ t)
    (hrange : ∀ v, B *ᵥ v ∈ LinearMap.range A.mulVecLin) (horthogonal : ∀ v, t ⬝ᵥ (B *ᵥ v) = 0) :
    B.rank < A.rank := by
  have hle : LinearMap.range B.mulVecLin ≤ LinearMap.range A.mulVecLin := by
    rintro _ ⟨v, rfl⟩
    exact hrange v
  have hout : t ∉ LinearMap.range B.mulVecLin := by
    rintro ⟨v, hv⟩
    have hself := horthogonal v
    rw [← mulVecLin_apply, hv] at hself
    exact hpos.ne' hself
  exact Submodule.finrank_lt_finrank_of_lt (SetLike.lt_iff_le_and_exists.mpr ⟨hle, t, hmem, hout⟩)

theorem Deflates.rank_lt {X X' : Matrix (Fin n) (Fin p) ℝ} {w l : Fin p → ℝ} {t : Fin n → ℝ}
    (h : Deflates X w t l X') : X'.rank < X.rank := by
  refine rank_lt_of_orthogonal ⟨w, h.score.symm⟩ h.score_pos (fun v => ⟨v - (l ⬝ᵥ v) • w, ?_⟩)
    fun v => ?_
  · rw [mulVecLin_apply, mulVec_sub, mulVec_smul, ← h.score, h.mulVec]
  · rw [dotProduct_comm, mulVec_dotProduct_eq, h.transpose_mulVec_score, dotProduct_zero]

/-- A matrix that maps something to more than nothing has a rank. -/
theorem rank_pos_of_mulVec_ne_zero {A : Matrix (Fin n) (Fin p) ℝ} {v : Fin p → ℝ}
    (h : A *ᵥ v ≠ 0) : 0 < A.rank := by
  have hlt : (0 : Matrix (Fin n) (Fin p) ℝ).rank < A.rank := by
    refine rank_lt_of_orthogonal ⟨v, rfl⟩ (dotProduct_self_pos h) (fun u => ?_) fun u => ?_
    · rw [zero_mulVec]
      exact Submodule.zero_mem _
    · rw [zero_mulVec, dotProduct_zero]
  exact (Nat.zero_le _).trans_lt hlt

theorem response_ne_zero_of_covariance {X : Matrix (Fin n) (Fin p) ℝ} {y : Fin n → ℝ}
    (h : Xᵀ *ᵥ y ≠ 0) : y ≠ 0 := by
  rintro rfl
  exact h (mulVec_zero _)

/-! ## 2. The method with one response -/

namespace Pls1

variable {x : Mat ℝ n p} {y : Vec ℝ n} {count : ℕ} {r : Residual ℝ n p}

/-- **There are no more components than the rank of the predictors.** -/
theorem count_le_rank (h : (extraction x y count).ending = .ok r) : count ≤ x.matrix.rank := by
  have hle := (chain_of_extraction h).add_length_le fun _ _ _ first => first.deflates.rank_lt
  exact length_components_extract h ▸ (Nat.le_add_left _ _).trans hle

theorem response_ne_zero (h : (extraction x y count).ending = .ok r) (hcount : count ≠ 0) :
    y.coords ≠ 0 := by
  obtain ⟨c, r', first⟩ := (chain_of_extraction h).exists_first
    ((length_components_extract h).symm ▸ hcount)
  obtain ⟨a, ha, hcov⟩ := first.covariance
  refine response_ne_zero_of_covariance (X := x.matrix) ?_
  rw [hcov]
  exact smul_ne_zero ha.ne' (ne_zero_of_dotProduct_eq_one first.unit)

end Pls1

/-! ## 3. The method from cross-products -/

namespace Simpls

section Steps

variable {X : Matrix (Fin n) (Fin p) ℝ} {y : Fin n → ℝ} {k : ℕ} {r r' : Cross ℝ p}

/-- **A step lowers the rank of the predictors as the projector leaves them.** -/
theorem Tracks.rank_lt {c : Component ℝ p} (h : Tracks X y k r) (hc : Extracts r c r') :
    (X * r'.projector.matrix).rank < (X * r.projector.matrix).rank := by
  obtain ⟨htracks, hleft⟩ := h.step hc
  have hfixed (v : Fin p → ℝ) := hleft _ (htracks.isProjector.mulVec_mulVec v)
  refine rank_lt_of_orthogonal (t := X *ᵥ c.weight.coords) ⟨c.weight.coords, ?_⟩
    ((h.score_unit hc).symm ▸ one_pos) (fun v => ⟨r'.projector.matrix *ᵥ v, ?_⟩) fun v => ?_
  · rw [mulVecLin_apply, ← mulVec_mulVec, h.projector_weight hc]
  · rw [mulVecLin_apply, ← mulVec_mulVec, ← mulVec_mulVec, (hfixed v).1]
  · rw [← mulVec_mulVec, dotProduct_comm, mulVec_dotProduct_eq, ← h.loading_eq hc,
      dotProduct_comm, (hfixed v).2]

theorem chain_add_length_le {cs : List (Component ℝ p)} (h : Chain Extracts r cs r')
    (hr : Tracks X y k r) :
    (X * r'.projector.matrix).rank + cs.length ≤ (X * r.projector.matrix).rank := by
  induction h generalizing k with
  | nil => exact le_rfl
  | cons first _ ih =>
    have hlt := hr.rank_lt first
    have hle := ih (hr.step first).1
    rw [List.length_cons]
    omega

end Steps

variable {tools : Toolkit ℝ} {x : Mat ℝ n p} {y : Vec ℝ n} {count : ℕ} {r : Cross ℝ p}

/-- **There are no more components than the rank of the predictors.** -/
theorem count_le_rank (ht : tools.Exact) (h : (extraction tools x y count).ending = .ok r) :
    count ≤ x.matrix.rank := by
  have hle := chain_add_length_le (chain_of_extraction ht h) (tracks_start x y)
  rw [Cross.start, Mat.matrix_identity, Matrix.mul_one] at hle
  exact length_components_extract h ▸ (Nat.le_add_left _ _).trans hle

theorem response_ne_zero (ht : tools.Exact) (h : (extraction tools x y count).ending = .ok r)
    (hcount : count ≠ 0) : y.coords ≠ 0 := by
  obtain ⟨c, r', first⟩ := (chain_of_extraction ht h).exists_first
    ((length_components_extract h).symm ▸ hcount)
  obtain ⟨a, ha, hcov⟩ := first.covariance
  rw [Cross.start, Mat.coords_applyT] at hcov
  refine response_ne_zero_of_covariance (X := x.matrix) ?_
  rw [hcov]
  exact smul_ne_zero ha (ne_zero_of_dotProduct_eq_one first.unit)

end Simpls

/-! ## 4. The orthogonal filter -/

namespace OrthogonalFilter

/-- **The direction that is kept remains that of the covariance.** -/
theorem Keeps.chain {x x' : Mat ℝ n p} {y : Vec ℝ n} {w : Vec ℝ p}
    {cs : List (Component ℝ n p)} (hw : Keeps x y w) (h : Chain (Extracts w) x cs x') :
    Keeps x' y w := by
  induction h with
  | nil => exact hw
  | cons first _ ih =>
    obtain ⟨a, ha, hcov⟩ := hw.covariance
    exact ih ⟨⟨a, ha, (first.covariance_left hw).trans hcov⟩, hw.unit⟩

theorem Keeps.covariance_ne_zero {x : Mat ℝ n p} {y : Vec ℝ n} {w : Vec ℝ p} (h : Keeps x y w) :
    x.matrixᵀ *ᵥ y.coords ≠ 0 := by
  obtain ⟨a, ha, hcov⟩ := h.covariance
  rw [hcov]
  exact smul_ne_zero ha.ne' (ne_zero_of_dotProduct_eq_one h.unit)

variable {x x' : Mat ℝ n p} {y : Vec ℝ n} {count : ℕ}

/-- **There are fewer components than the rank of the predictors:** what they leave still covaries
with the response. -/
theorem count_lt_rank (h : (extraction x y count).ending = .ok x') : count < x.matrix.rank := by
  obtain ⟨w, hw, hchain, hlength⟩ := keeps_of_extraction h
  have hle := hchain.add_length_le fun _ _ _ first => first.deflates.rank_lt
  have hleft : 0 < x'.matrix.rank := by
    rw [← rank_transpose]
    exact rank_pos_of_mulVec_ne_zero (hw.chain hchain).covariance_ne_zero
  omega

theorem response_ne_zero (h : (extraction x y count).ending = .ok x') : y.coords ≠ 0 := by
  obtain ⟨w, hw, -, -⟩ := keeps_of_extraction h
  exact response_ne_zero_of_covariance hw.covariance_ne_zero

end OrthogonalFilter

end PartialLeastSquares
