/-
# Least squares on a subspace

A regression vector of a partial least squares method never ranges over all vectors: it is the
least-squares solution within a subspace that the data spans step by step, the Krylov space of
the cross-products.  `krylov` is that space, and `IsLeastSquaresOn` says of a vector that it is
the solution within a subspace on which the predictors lose nothing.

Two facts carry every comparison of methods.  The solution within a subspace is unique
(`IsLeastSquaresOn.unique`), so two methods agree once each is shown to solve the same problem.
And a method does solve it (`isLeastSquaresOn_of_factor`) as soon as its weights lie in the
subspace, as many as its dimension allows, and are turned into independent scores to which what
is left of the response is orthogonal.  Nothing there depends on how the weights were found.
-/
import Mathlib
import PartialLeastSquares.Proofs.Exact.Scalar

namespace PartialLeastSquares

open Matrix

variable {n p k : ℕ}

/-! ## 1. The Krylov space -/

/-- **The Krylov space** of `k` dimensions at most: the span of `Xᵀ y`, `(Xᵀ X) Xᵀ y`, …,
`(Xᵀ X)ᵏ⁻¹ Xᵀ y`. -/
def krylov (X : Matrix (Fin n) (Fin p) ℝ) (y : Fin n → ℝ) (k : ℕ) : Submodule ℝ (Fin p → ℝ) :=
  Submodule.span ℝ (Set.range fun i : Fin k => (Xᵀ * X) ^ (i : ℕ) *ᵥ (Xᵀ *ᵥ y))

section Krylov

variable {X : Matrix (Fin n) (Fin p) ℝ} {y : Fin n → ℝ}

theorem pow_mulVec_mem_krylov {i : ℕ} (hi : i < k) :
    (Xᵀ * X) ^ i *ᵥ (Xᵀ *ᵥ y) ∈ krylov X y k :=
  Submodule.subset_span ⟨⟨i, hi⟩, rfl⟩

theorem covariance_mem_krylov : Xᵀ *ᵥ y ∈ krylov X y (k + 1) := by
  have h := pow_mulVec_mem_krylov (X := X) (y := y) (Nat.succ_pos k)
  rwa [pow_zero, one_mulVec] at h

theorem krylov_mono {j : ℕ} (h : j ≤ k) : krylov X y j ≤ krylov X y k := by
  refine Submodule.span_le.mpr ?_
  rintro _ ⟨i, rfl⟩
  exact pow_mulVec_mem_krylov (lt_of_lt_of_le i.isLt h)

/-- **The cross-products lead one dimension further.** -/
theorem mulVec_mem_krylov_succ {v : Fin p → ℝ} (hv : v ∈ krylov X y k) :
    Xᵀ *ᵥ (X *ᵥ v) ∈ krylov X y (k + 1) := by
  have hle : krylov X y k ≤ (krylov X y (k + 1)).comap (Xᵀ * X).mulVecLin := by
    refine Submodule.span_le.mpr ?_
    rintro _ ⟨i, rfl⟩
    have h := pow_mulVec_mem_krylov (X := X) (y := y) (Nat.succ_lt_succ i.isLt)
    rwa [pow_succ', ← mulVec_mulVec] at h
  have h : (Xᵀ * X) *ᵥ v ∈ krylov X y (k + 1) := hle hv
  rwa [← mulVec_mulVec] at h

/-- **What is left of a response covaries within one dimension more,** if what has been taken from
it is explained by the space. -/
theorem covariance_left_mem_krylov {y' : Fin n → ℝ}
    (h : y - y' ∈ (krylov X y k).map X.mulVecLin) : Xᵀ *ᵥ y' ∈ krylov X y (k + 1) := by
  obtain ⟨s, hs, hsy⟩ := h
  have hy' : y' = y - X *ᵥ s := by rw [← mulVecLin_apply, hsy, sub_sub_cancel]
  rw [hy', mulVec_sub]
  exact (krylov X y (k + 1)).sub_mem covariance_mem_krylov (mulVec_mem_krylov_succ hs)

theorem finrank_krylov_le : Module.finrank ℝ (krylov X y k) ≤ k := by
  have h := finrank_range_le_card (R := ℝ) fun i : Fin k => (Xᵀ * X) ^ (i : ℕ) *ᵥ (Xᵀ *ᵥ y)
  rwa [Fintype.card_fin] at h

end Krylov

/-! ## 2. Solutions within a subspace -/

/-- **The least-squares solution within a subspace** on which the predictors lose nothing: it lies
there, its residual is orthogonal to everything that the subspace explains, and nothing in the
subspace but zero is mapped to zero. -/
structure IsLeastSquaresOn (X : Matrix (Fin n) (Fin p) ℝ) (y : Fin n → ℝ)
    (V : Submodule ℝ (Fin p → ℝ)) (r : Fin p → ℝ) : Prop where
  mem : r ∈ V
  normal : ∀ v ∈ V, (X *ᵥ v) ⬝ᵥ (y - X *ᵥ r) = 0
  injective : ∀ v ∈ V, X *ᵥ v = 0 → v = 0

namespace IsLeastSquaresOn

variable {X : Matrix (Fin n) (Fin p) ℝ} {y : Fin n → ℝ} {V : Submodule ℝ (Fin p → ℝ)}
  {r s : Fin p → ℝ}

/-- **There is one solution.**  The difference of two is mapped to a vector that is orthogonal to
itself. -/
theorem unique (hr : IsLeastSquaresOn X y V r) (hs : IsLeastSquaresOn X y V s) : r = s := by
  have hmem : r - s ∈ V := V.sub_mem hr.mem hs.mem
  have hself : (X *ᵥ (r - s)) ⬝ᵥ (X *ᵥ (r - s)) = 0 := by
    have hdiff : X *ᵥ (r - s) = (y - X *ᵥ s) - (y - X *ᵥ r) := by rw [mulVec_sub]; abel
    calc (X *ᵥ (r - s)) ⬝ᵥ (X *ᵥ (r - s))
        = (X *ᵥ (r - s)) ⬝ᵥ ((y - X *ᵥ s) - (y - X *ᵥ r)) := by rw [← hdiff]
      _ = 0 := by rw [dotProduct_sub, hs.normal _ hmem, hr.normal _ hmem, sub_zero]
  exact sub_eq_zero.mp (hr.injective _ hmem (dotProduct_self_eq_zero.mp hself))

/-- **Every other vector of the subspace leaves more of the response.** -/
theorem residual_lt (hr : IsLeastSquaresOn X y V r) {v : Fin p → ℝ} (hv : v ∈ V) (hne : v ≠ r) :
    (y - X *ᵥ r) ⬝ᵥ (y - X *ᵥ r) < (y - X *ᵥ v) ⬝ᵥ (y - X *ᵥ v) := by
  have hmem : r - v ∈ V := V.sub_mem hr.mem hv
  have hpos : 0 < (X *ᵥ (r - v)) ⬝ᵥ (X *ᵥ (r - v)) := by
    refine dotProduct_self_pos fun h => hne ?_
    exact (sub_eq_zero.mp (hr.injective _ hmem h)).symm
  have hsplit : y - X *ᵥ v = (y - X *ᵥ r) + X *ᵥ (r - v) := by rw [mulVec_sub]; abel
  have hcross : (X *ᵥ (r - v)) ⬝ᵥ (y - X *ᵥ r) = 0 := hr.normal _ hmem
  have hcross' : (y - X *ᵥ r) ⬝ᵥ (X *ᵥ (r - v)) = 0 := (dotProduct_comm _ _).trans hcross
  rw [hsplit, add_dotProduct, dotProduct_add, dotProduct_add, hcross, hcross']
  linarith

end IsLeastSquaresOn

/-! ## 3. Solutions from scores -/

/-- Vectors of a subspace that are mapped to zero by nothing but zero, as many as its dimension
allows, span it. -/
theorem exists_mulVec_of_mem {W : Matrix (Fin p) (Fin k) ℝ} {V : Submodule ℝ (Fin p → ℝ)}
    (hdim : Module.finrank ℝ V ≤ k) (hmem : ∀ z, W *ᵥ z ∈ V) (hinj : ∀ z, W *ᵥ z = 0 → z = 0)
    {v : Fin p → ℝ} (hv : v ∈ V) : ∃ z, W *ᵥ z = v := by
  have hker : Function.Injective W.mulVecLin :=
    (injective_iff_map_eq_zero W.mulVecLin).mpr hinj
  have hle : LinearMap.range W.mulVecLin ≤ V := by
    rintro _ ⟨z, rfl⟩
    exact hmem z
  have hrank : Module.finrank ℝ (LinearMap.range W.mulVecLin) = k := by
    rw [LinearMap.finrank_range_of_inj hker, Module.finrank_fin_fun]
  have hrange : LinearMap.range W.mulVecLin = V :=
    Submodule.eq_of_le_of_finrank_le hle (hdim.trans hrank.ge)
  rw [← hrange] at hv
  exact hv

/-- **A method solves the problem within a subspace** if its weights `W` lie there, as many as
the dimension allows, if the predictors turn them into `T R` with independent scores `T` and an
invertible `R`, and if the combination `b` of the scores leaves a response that is orthogonal to
all scores. -/
theorem isLeastSquaresOn_of_factor {X : Matrix (Fin n) (Fin p) ℝ} {y : Fin n → ℝ}
    {V : Submodule ℝ (Fin p → ℝ)} {W : Matrix (Fin p) (Fin k) ℝ} {T : Matrix (Fin n) (Fin k) ℝ}
    {R S : Matrix (Fin k) (Fin k) ℝ} {b : Fin k → ℝ} (hdim : Module.finrank ℝ V ≤ k)
    (hmem : ∀ z, W *ᵥ z ∈ V) (hscores : X * W = T * R) (hRS : R * S = 1)
    (hindep : ∀ z, T *ᵥ z = 0 → z = 0) (hrest : Tᵀ *ᵥ (y - T *ᵥ b) = 0) :
    IsLeastSquaresOn X y V (W *ᵥ (S *ᵥ b)) ∧ X *ᵥ (W *ᵥ (S *ᵥ b)) = T *ᵥ b := by
  have hSR : S * R = 1 := mul_eq_one_comm.mp hRS
  have hX : ∀ z, X *ᵥ (W *ᵥ z) = T *ᵥ (R *ᵥ z) := fun z => by
    rw [mulVec_mulVec, hscores, ← mulVec_mulVec]
  have hzero : ∀ z, X *ᵥ (W *ᵥ z) = 0 → z = 0 := fun z hz => by
    have hR : R *ᵥ z = 0 := hindep _ ((hX z).symm.trans hz)
    calc z = (S * R) *ᵥ z := by rw [hSR, one_mulVec]
      _ = 0 := by rw [← mulVec_mulVec, hR, mulVec_zero]
  have hspan : ∀ v ∈ V, ∃ z, W *ᵥ z = v := fun v hv =>
    exists_mulVec_of_mem hdim hmem (fun z hz => hzero z (by rw [hz, mulVec_zero])) hv
  have hfit : X *ᵥ (W *ᵥ (S *ᵥ b)) = T *ᵥ b := by
    rw [hX, mulVec_mulVec b R S, hRS, one_mulVec]
  refine ⟨⟨hmem _, ?_, ?_⟩, hfit⟩
  · intro v hv
    obtain ⟨z, rfl⟩ := hspan v hv
    rw [hfit, hX, mulVec_dotProduct_eq, hrest, dotProduct_zero]
  · intro v hv h
    obtain ⟨z, rfl⟩ := hspan v hv
    rw [hzero z h, mulVec_zero]

end PartialLeastSquares
