/-
# Deflation

A component takes a score `t = X w` of the predictors, the loading `l` that explains them best by
this score, and leaves `X - t lᵀ`.  This file says what that does to a matrix, whatever the weight
`w` is: the weight and the score lose all they had (`mulVec_weight`, `transpose_mulVec_score`),
and what was lost before stays lost (`mulVec_eq_zero`, `transpose_mulVec_eq_zero`).

`IsRemainder X₀ X` says of what is left that its columns are orthogonal to what was removed.  It
holds of the whole at first and is kept by every deflation; because of it a response that is
itself left over sees no difference between `X` and `X₀`.
-/
import Mathlib
import PartialLeastSquares.Proofs.Exact.Scalar

namespace PartialLeastSquares

open Matrix

variable {n p : ℕ}

/-! ## 1. One deflation -/

/-- **What a deflation does:** `t` is the score of the weight `w` and not zero, `l` its loading,
the regression of the predictors on the score, and `X'` is what they leave of `X`. -/
structure Deflates (X : Matrix (Fin n) (Fin p) ℝ) (w : Fin p → ℝ) (t : Fin n → ℝ)
    (l : Fin p → ℝ) (X' : Matrix (Fin n) (Fin p) ℝ) : Prop where
  score : t = X *ᵥ w
  score_pos : 0 < t ⬝ᵥ t
  loading : (t ⬝ᵥ t) • l = Xᵀ *ᵥ t
  residual : X' = X - vecMulVec t l

namespace Deflates

variable {X X' : Matrix (Fin n) (Fin p) ℝ} {w l : Fin p → ℝ} {t : Fin n → ℝ}

theorem mulVec (h : Deflates X w t l X') (v : Fin p → ℝ) : X' *ᵥ v = X *ᵥ v - (l ⬝ᵥ v) • t := by
  rw [h.residual, sub_mulVec, vecMulVec_mulVec, op_smul_eq_smul]

theorem transpose_mulVec (h : Deflates X w t l X') (u : Fin n → ℝ) :
    X'ᵀ *ᵥ u = Xᵀ *ᵥ u - (t ⬝ᵥ u) • l := by
  rw [h.residual, transpose_sub, transpose_vecMulVec, sub_mulVec, vecMulVec_mulVec,
    op_smul_eq_smul]

theorem score_mul_loading_dot (h : Deflates X w t l X') (v : Fin p → ℝ) :
    (t ⬝ᵥ t) * (l ⬝ᵥ v) = t ⬝ᵥ (X *ᵥ v) := by
  rw [← smul_eq_mul, ← smul_dotProduct, h.loading, dotProduct_comm, ← mulVec_dotProduct_eq,
    dotProduct_comm]

theorem loading_dot_weight (h : Deflates X w t l X') : l ⬝ᵥ w = 1 := by
  have hmul : (t ⬝ᵥ t) * (l ⬝ᵥ w) = (t ⬝ᵥ t) * 1 := by
    rw [h.score_mul_loading_dot, ← h.score, mul_one]
  exact mul_left_cancel₀ h.score_pos.ne' hmul

/-- **The weight has lost its score.** -/
theorem mulVec_weight (h : Deflates X w t l X') : X' *ᵥ w = 0 := by
  rw [h.mulVec, h.loading_dot_weight, one_smul, ← h.score, sub_self]

/-- **The score explains nothing that is left.** -/
theorem transpose_mulVec_score (h : Deflates X w t l X') : X'ᵀ *ᵥ t = 0 := by
  rw [h.transpose_mulVec, h.loading, sub_self]

theorem loading_dot_eq_zero (h : Deflates X w t l X') {v : Fin p → ℝ} (hv : X *ᵥ v = 0) :
    l ⬝ᵥ v = 0 := by
  have hmul : (t ⬝ᵥ t) * (l ⬝ᵥ v) = 0 := by rw [h.score_mul_loading_dot, hv, dotProduct_zero]
  exact (mul_eq_zero.mp hmul).resolve_left h.score_pos.ne'

theorem mulVec_eq_zero (h : Deflates X w t l X') {v : Fin p → ℝ} (hv : X *ᵥ v = 0) :
    X' *ᵥ v = 0 := by
  rw [h.mulVec, hv, h.loading_dot_eq_zero hv, zero_smul, sub_zero]

theorem score_dot_eq_zero (h : Deflates X w t l X') {u : Fin n → ℝ} (hu : Xᵀ *ᵥ u = 0) :
    t ⬝ᵥ u = 0 := by
  rw [h.score, mulVec_dotProduct_eq, hu, dotProduct_zero]

theorem transpose_mulVec_eq_zero (h : Deflates X w t l X') {u : Fin n → ℝ} (hu : Xᵀ *ᵥ u = 0) :
    X'ᵀ *ᵥ u = 0 := by
  rw [h.transpose_mulVec, hu, h.score_dot_eq_zero hu, zero_smul, sub_zero]

end Deflates

/-! ## 2. Remainders -/

/-- **What is left is orthogonal to what was removed,** column by column. -/
def IsRemainder (X₀ X : Matrix (Fin n) (Fin p) ℝ) : Prop := ∀ v, (X₀ - X)ᵀ *ᵥ (X *ᵥ v) = 0

namespace IsRemainder

variable {X₀ X X' : Matrix (Fin n) (Fin p) ℝ} {w l : Fin p → ℝ} {t : Fin n → ℝ}

theorem refl (X : Matrix (Fin n) (Fin p) ℝ) : IsRemainder X X := fun v => by
  rw [sub_self, transpose_zero, zero_mulVec]

/-- After a deflation, the score has been added to what was removed. -/
theorem removed_transpose_mulVec (h : Deflates X w t l X') (u : Fin n → ℝ) :
    (X₀ - X')ᵀ *ᵥ u = (X₀ - X)ᵀ *ᵥ u + (t ⬝ᵥ u) • l := by
  rw [transpose_sub, transpose_sub, sub_mulVec, sub_mulVec, h.transpose_mulVec]
  abel

theorem removed_mulVec (h : Deflates X w t l X') (v : Fin p → ℝ) :
    (X₀ - X') *ᵥ v = (X₀ - X) *ᵥ v + (l ⬝ᵥ v) • t := by
  rw [sub_mulVec, sub_mulVec, h.mulVec]
  abel

/-- **A deflation leaves a remainder of a remainder.** -/
theorem deflate (hX : IsRemainder X₀ X) (h : Deflates X w t l X') : IsRemainder X₀ X' := fun v => by
  have hscore : (X₀ - X)ᵀ *ᵥ t = 0 := by rw [h.score, hX]
  have hleft : t ⬝ᵥ (X' *ᵥ v) = 0 := by
    rw [dotProduct_comm, mulVec_dotProduct_eq, h.transpose_mulVec_score, dotProduct_zero]
  rw [removed_transpose_mulVec h, hleft, zero_smul, add_zero, h.mulVec, mulVec_sub, mulVec_smul, hX,
    hscore, smul_zero, sub_zero]

end IsRemainder

end PartialLeastSquares
