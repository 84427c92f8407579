/-
# Exact tools exist

A toolkit that does over the reals what the tools of a fit are relied on for: the inverse, the
condition number in the Euclidean norm, and a dominant eigenvector of a symmetric matrix.  The
start vectors of an iteration are free, so the toolkit takes them as it is given them.
-/
import Mathlib
import PartialLeastSquares.Proofs.Exact.Guard

namespace PartialLeastSquares

open Matrix

open scoped Matrix.Norms.L2Operator

/-! ## 1. Dominant eigenvectors -/

/-- **A symmetric matrix that has rows has a dominant eigenvector.** -/
theorem exists_isDominant {m : ℕ} (hm : 0 < m) {a : Matrix (Fin m) (Fin m) ℝ} (ha : a.IsSymm) :
    ∃ v, IsDominant a v := by
  have : Nonempty (Fin m) := ⟨⟨0, hm⟩⟩
  have hH : a.IsHermitian := by
    rw [IsHermitian, conjTranspose_eq_transpose_of_trivial]; exact ha
  obtain ⟨i, hi⟩ := Finite.exists_max fun i => |hH.eigenvalues i|
  refine ⟨hH.eigenvectorBasis i, ?_, hH.eigenvalues i, hH.mulVec_eigenvectorBasis i,
    fun ν u hu hν => ?_⟩
  · have hunit : inner ℝ (hH.eigenvectorBasis i) (hH.eigenvectorBasis i) = 1 := by
      rw [real_inner_self_eq_norm_sq, hH.eigenvectorBasis.orthonormal.1 i, one_pow]
    rwa [EuclideanSpace.inner_eq_star_dotProduct, star_trivial] at hunit
  · have hmem : ν ∈ spectrum ℝ a := by
      rw [← spectrum_toLin']
      refine (Module.End.hasEigenvalue_of_hasEigenvector (x := u) ⟨?_, hu⟩).mem_spectrum
      rw [Module.End.mem_eigenspace_iff, toLin'_apply, hν]
    rw [hH.spectrum_real_eq_range_eigenvalues] at hmem
    obtain ⟨l, rfl⟩ := hmem
    exact hi l

/-! ## 2. The toolkit -/

namespace Toolkit

open Classical in
/-- **Exact tools,** with start vectors of one's choice. -/
noncomputable def exact (start : (n seed : ℕ) → Vec ℝ n) : Toolkit ℝ where
  inverse a := if IsUnit a.matrix.det then some (Mat.ofMatrix a.matrix⁻¹) else none
  condition a := ‖a.matrix‖ * ‖a.matrix⁻¹‖
  eigenvector _ _ a :=
    if h : ∃ v, IsDominant a.matrix v then Vec.ofFn h.choose else Vec.zero
  start := start

variable {start : (n seed : ℕ) → Vec ℝ n}

theorem inverse_exact {m : ℕ} {a : Mat ℝ m m} (h : IsUnit a.matrix.det) :
    (exact start).inverse a = some (Mat.ofMatrix a.matrix⁻¹) :=
  if_pos h

theorem inverse_exact_eq_none {m : ℕ} {a : Mat ℝ m m} (h : ¬ IsUnit a.matrix.det) :
    (exact start).inverse a = none :=
  if_neg h

theorem exact_exact : (exact start).Exact where
  inverse_eq_some_iff {m} a b := by
    by_cases hdet : IsUnit a.matrix.det
    · rw [inverse_exact hdet, Option.some_inj]
      refine ⟨fun h => ?_, fun h => Mat.matrix_injective ?_⟩
      · rw [← h, Mat.matrix_ofMatrix, mul_nonsing_inv _ hdet]
      · rw [Mat.matrix_ofMatrix, inv_eq_right_inv h]
    · rw [inverse_exact_eq_none hdet]
      exact ⟨fun h => (nomatch h), fun h => absurd (isUnit_det_of_right_inverse h) hdet⟩
  eigenvector_isDominant j m a hm ha := by
    have h := exists_isDominant hm ha
    have hvec : (exact start).eigenvector j a = Vec.ofFn h.choose := dif_pos h
    rw [hvec, Vec.coords_ofFn]
    exact h.choose_spec

/-- An inverse passes its guard if it is one and its matrix is well conditioned. -/
theorem invert_exact {m : ℕ} {what : Quantity} {a b : Mat ℝ m m}
    (h : a.matrix * b.matrix = 1) (hcond : ‖a.matrix‖ * ‖b.matrix‖ ≤ Scalar.conditionLimit) :
    invert (exact start) what a = .ok b := by
  have hsome : (exact start).inverse a = some b :=
    (exact_exact.inverse_eq_some_iff a b).mpr h
  have hinv : a.matrix⁻¹ = b.matrix := inv_eq_right_inv h
  have hlt : ¬ Scalar.conditionLimit < (exact start).condition a := by
    show ¬ Scalar.conditionLimit < ‖a.matrix‖ * ‖a.matrix⁻¹‖
    rw [hinv]
    exact not_lt.mpr hcond
  unfold invert
  simp only [Mat.all_isFinite_real, hsome, Bool.not_true, Bool.false_eq_true, if_false, if_neg hlt]

/-- A multiple of the identity has the inverse multiple for its inverse, and passes. -/
theorem invert_exact_of_matrix_eq_smul {m : ℕ} (hm : 0 < m) {what : Quantity} {a : Mat ℝ m m}
    {c : ℝ} (hc : c ≠ 0) (h : a.matrix = c • 1) :
    invert (exact start) what a = .ok (Mat.ofMatrix (c⁻¹ • 1)) := by
  have : Nonempty (Fin m) := ⟨⟨0, hm⟩⟩
  refine invert_exact ?_ ?_
  · rw [h, Mat.matrix_ofMatrix, smul_mul_smul_comm, mul_inv_cancel₀ hc, one_mul, one_smul]
  · rw [h, Mat.matrix_ofMatrix, norm_smul, norm_smul, CStarRing.norm_one, mul_one, mul_one, norm_inv,
      mul_inv_cancel₀ (norm_ne_zero_iff.mpr hc), Scalar.conditionLimit_real]
    norm_num

theorem invert_exact_of_matrix_eq_one {m : ℕ} (hm : 0 < m) {what : Quantity} {a : Mat ℝ m m}
    (h : a.matrix = 1) : invert (exact start) what a = .ok (Mat.identity m) := by
  rw [invert_exact_of_matrix_eq_smul hm one_ne_zero (h.trans (one_smul ℝ 1).symm)]
  refine congrArg _ (Mat.matrix_injective ?_)
  rw [Mat.matrix_ofMatrix, Mat.matrix_identity, inv_one, one_smul]

theorem norm_triangular_le (a c d : ℝ) : ‖!![a, c; 0, d]‖ ≤ max |a| |d| + |c| := by
  have hsum : !![a, c; 0, d] = diagonal ![a, d] + !![0, c; 0, 0] := by
    ext i j
    fin_cases i <;> fin_cases j <;> simp
  have hsq : (!![0, c; 0, 0])ᴴ * !![0, c; 0, 0] = diagonal ![0, c * c] := by
    ext i j
    fin_cases i <;> fin_cases j <;> simp [mul_apply]
  have hnorm : ‖!![0, c; 0, 0]‖ * ‖!![0, c; 0, 0]‖ = |c| * |c| := by
    rw [← l2_opNorm_conjTranspose_mul_self, hsq, l2_opNorm_diagonal, ← abs_mul]
    refine le_antisymm ((pi_norm_le_iff_of_nonneg (abs_nonneg _)).mpr fun i => ?_)
      (norm_le_pi_norm ![0, c * c] 1)
    fin_cases i
    · exact (norm_zero (E := ℝ)).le.trans (abs_nonneg _)
    · exact le_rfl
  have hshear : ‖!![0, c; 0, 0]‖ = |c| :=
    (mul_self_inj_of_nonneg (norm_nonneg _) (abs_nonneg _)).mp hnorm
  have hdiagonal : ‖diagonal ![a, d]‖ ≤ max |a| |d| := by
    rw [l2_opNorm_diagonal]
    refine (pi_norm_le_iff_of_nonneg (le_max_of_le_left (abs_nonneg a))).mpr fun i => ?_
    fin_cases i
    · exact le_max_left _ _
    · exact le_max_right _ _
  rw [hsum]
  refine (norm_add_le _ _).trans ?_
  rw [hshear]
  exact add_le_add_left hdiagonal _

/-- A shear of the plane is well conditioned if it does not shear far. -/
theorem norm_shear_le (c : ℝ) : ‖!![1, c; 0, 1]‖ ≤ 1 + |c| :=
  (norm_triangular_le 1 c 1).trans_eq (by rw [max_self, abs_one])

end Toolkit

end PartialLeastSquares
