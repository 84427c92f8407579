/-
# Projectors

A method that keeps its components apart does so with an orthogonal projector, from which one
unit direction after the other is removed (`IsProjector.remove`).  What the smaller projector
leaves alone, the larger one leaves alone too, and it has nothing of the direction
(`IsProjector.of_remove`).

A method whose scores are orthonormal explains what their projector finds in the data
(`projectsOnto_of_orthonormal`).
-/
import Mathlib
import PartialLeastSquares.Proofs.Exact.Scalar

namespace PartialLeastSquares

open Matrix

variable {p : ℕ}

/-- **An orthogonal projector:** a symmetric matrix that leaves alone what it has been applied to.
-/
structure IsProjector (C : Matrix (Fin p) (Fin p) ℝ) : Prop where
  symm : Cᵀ = C
  idem : C * C = C

namespace IsProjector

variable {C : Matrix (Fin p) (Fin p) ℝ} {v u : Fin p → ℝ}

theorem one : IsProjector (1 : Matrix (Fin p) (Fin p) ℝ) := ⟨transpose_one, one_mul 1⟩

theorem mulVec_mulVec (h : IsProjector C) (u : Fin p → ℝ) : C *ᵥ (C *ᵥ u) = C *ᵥ u := by
  rw [Matrix.mulVec_mulVec, h.idem]

theorem mulVec_dotProduct (h : IsProjector C) (u v : Fin p → ℝ) :
    (C *ᵥ u) ⬝ᵥ v = u ⬝ᵥ (C *ᵥ v) := by
  rw [mulVec_dotProduct_eq, h.symm]

theorem sub_vecMulVec_mulVec (C : Matrix (Fin p) (Fin p) ℝ) (v u : Fin p → ℝ) :
    (C - vecMulVec v v) *ᵥ u = C *ᵥ u - (v ⬝ᵥ u) • v := by
  rw [sub_mulVec, vecMulVec_mulVec, op_smul_eq_smul]

theorem sub_vecMulVec_mul (h : IsProjector C) (hv : C *ᵥ v = v) :
    (C - vecMulVec v v) * C = C - vecMulVec v v := by
  have hvecMul : v ᵥ* C = v := by rw [← mulVec_transpose, h.symm, hv]
  rw [Matrix.sub_mul, h.idem, vecMulVec_mul, hvecMul]

/-- On either side of a matrix, what takes out the direction merges with it. -/
theorem mul_mul_remove (h : IsProjector C) (hv : C *ᵥ v = v) (K : Matrix (Fin p) (Fin p) ℝ) :
    (1 - vecMulVec v v) * (C * K * C) * (1 - vecMulVec v v) =
      (C - vecMulVec v v) * K * (C - vecMulVec v v) := by
  have hleft : (1 - vecMulVec v v) * C = C - vecMulVec v v := by
    rw [Matrix.sub_mul, Matrix.one_mul, vecMulVec_mul, ← mulVec_transpose, h.symm, hv]
  have hright : C * (1 - vecMulVec v v) = C - vecMulVec v v := by
    rw [Matrix.mul_sub, Matrix.mul_one, mul_vecMulVec, hv]
  rw [Matrix.mul_assoc, Matrix.mul_assoc, hright, ← Matrix.mul_assoc, ← Matrix.mul_assoc, hleft]

theorem sub_vecMulVec_mulVec_self (hv : C *ᵥ v = v) (hunit : v ⬝ᵥ v = 1) :
    (C - vecMulVec v v) *ᵥ v = 0 := by
  rw [sub_vecMulVec_mulVec, hv, hunit, one_smul, sub_self]

theorem remove (h : IsProjector C) (hv : C *ᵥ v = v) (hunit : v ⬝ᵥ v = 1) :
    IsProjector (C - vecMulVec v v) where
  symm := by rw [transpose_sub, h.symm, transpose_vecMulVec]
  idem := by
    have hself : (C - vecMulVec v v) * vecMulVec v v = 0 := by
      rw [mul_vecMulVec, sub_vecMulVec_mulVec_self hv hunit, zero_vecMulVec]
    rw [Matrix.mul_sub, h.sub_vecMulVec_mul hv, hself, sub_zero]

/-- **What is left alone after a removal** was left alone before, and has nothing of the
direction. -/
theorem of_remove (h : IsProjector C) (hv : C *ᵥ v = v) (hunit : v ⬝ᵥ v = 1)
    (hu : (C - vecMulVec v v) *ᵥ u = u) : C *ᵥ u = u ∧ v ⬝ᵥ u = 0 := by
  have hdot : v ⬝ᵥ u = 0 := by
    rw [← hu, ← (h.remove hv hunit).mulVec_dotProduct, sub_vecMulVec_mulVec_self hv hunit,
      zero_dotProduct]
  refine ⟨?_, hdot⟩
  rw [sub_vecMulVec_mulVec, hdot, zero_smul, sub_zero] at hu
  exact hu

end IsProjector

/-- **The orthogonal projector onto the columns of a matrix:** what it has been applied to is a
combination of the columns, and it leaves the columns alone. -/
structure ProjectsOnto {k : ℕ} (C : Matrix (Fin p) (Fin p) ℝ) (T : Matrix (Fin p) (Fin k) ℝ) :
    Prop extends IsProjector C where
  range_eq : LinearMap.range C.mulVecLin = LinearMap.range T.mulVecLin

theorem projectsOnto_of_orthonormal {k : ℕ} {T : Matrix (Fin p) (Fin k) ℝ} (h : Tᵀ * T = 1) :
    ProjectsOnto (T * Tᵀ) T where
  symm := by rw [transpose_mul, transpose_transpose]
  idem := by rw [Matrix.mul_assoc, ← Matrix.mul_assoc Tᵀ, h, Matrix.one_mul]
  range_eq := by
    refine le_antisymm ?_ ?_
    · rintro _ ⟨u, rfl⟩
      exact ⟨Tᵀ *ᵥ u, by rw [mulVecLin_apply, mulVecLin_apply, Matrix.mulVec_mulVec]⟩
    · rintro _ ⟨z, rfl⟩
      refine ⟨T *ᵥ z, ?_⟩
      rw [mulVecLin_apply, mulVecLin_apply, Matrix.mulVec_mulVec, Matrix.mul_assoc, h,
        Matrix.mul_one]

end PartialLeastSquares
