/-
# Guarded arithmetic, exactly

What the guards `normalize`, `safe_divide` and `inverse` let through over the reals, and what the
tools of an algorithm are when they are exact.  A guard that succeeds has compared a magnitude
with a nonnegative bound, so that the magnitude is positive; that is all that the laws below ever
use of the comparison.
-/
import Mathlib
import PartialLeastSquares.Linear.Guard
import PartialLeastSquares.Proofs.Exact.Scalar

namespace PartialLeastSquares

open Matrix

/-! ## 1. Guards -/

section Guards

variable {n : ℕ} {what : Quantity} {reference : ℝ}

/-- **A vector is normalised exactly when its length exceeds the bound,** and then it is divided
by it. -/
theorem normalize_eq_ok_iff {v w : Vec ℝ n} :
    normalize what v reference = .ok w ↔
      Scalar.zeroNorm * reference < v.norm ∧ w = v.dividedBy v.norm := by
  unfold normalize
  simp only [Scalar.isFinite_real, Bool.not_true, Bool.false_eq_true, if_false]
  split
  · rename_i h
    exact ⟨fun hc => (nomatch hc), fun hc => absurd h (not_le.mpr hc.1)⟩
  · rename_i h
    exact ⟨fun hc => ⟨not_le.mp h, (Except.ok.inj hc).symm⟩, fun hc => by rw [hc.2]⟩

theorem negligible_eq_false_iff {d : ℝ} :
    negligible d reference = false ↔ Scalar.zeroNorm * reference < |d| := by
  unfold negligible
  simp only [Scalar.isFinite_real, Bool.not_true, Bool.false_or, decide_eq_false_iff_not]
  exact not_le

theorem divideBy_eq_ok_iff {v w : Vec ℝ n} {d : ℝ} :
    divideBy what v d reference = .ok w ↔
      Scalar.zeroNorm * reference < |d| ∧ w = v.dividedBy d := by
  rw [← negligible_eq_false_iff]
  unfold divideBy
  cases negligible d reference <;> simp [eq_comm]

theorem quotient_eq_ok_iff {x c d : ℝ} :
    quotient what x d reference = .ok c ↔
      Scalar.zeroNorm * reference < |d| ∧ c = x / d := by
  rw [← negligible_eq_false_iff]
  unfold quotient
  cases negligible d reference
  · simp only [Bool.false_eq_true, if_false, true_and]
    exact ⟨fun h => (Except.ok.inj h).symm, fun h => by rw [h]⟩
  · simp

/-- What a normalised vector is: of length one, and a positive multiple of it is the vector it
was made of. -/
theorem normalize_ok {v w : Vec ℝ n} (hr : 0 ≤ reference)
    (h : normalize what v reference = .ok w) :
    0 < v.norm ∧ v.coords = v.norm • w.coords ∧ w.coords ⬝ᵥ w.coords = 1 := by
  obtain ⟨hlt, rfl⟩ := normalize_eq_ok_iff.mp h
  have hpos : 0 < v.norm := lt_of_le_of_lt (mul_nonneg Scalar.zeroNorm_pos.le hr) hlt
  refine ⟨hpos, ?_, ?_⟩
  · rw [Vec.coords_dividedBy, smul_inv_smul₀ hpos.ne']
  · rw [Vec.coords_dividedBy, smul_dotProduct, dotProduct_smul, ← Vec.norm_mul_norm, smul_eq_mul,
      smul_eq_mul]
    field_simp

/-- **A vector is normalised to the unit vector of which it is a multiple,** if the multiple exceeds
the bound. -/
theorem normalize_of_smul {v w : Vec ℝ n} {a : ℝ} (hv : v.coords = a • w.coords)
    (hw : w.coords ⬝ᵥ w.coords = 1) (hr : 0 ≤ reference) (ha : Scalar.zeroNorm * reference < a) :
    normalize what v reference = .ok w := by
  have hpos : 0 < a := lt_of_le_of_lt (mul_nonneg Scalar.zeroNorm_pos.le hr) ha
  have hnorm : v.norm = a := by
    rw [Vec.norm_real, hv, smul_dotProduct, dotProduct_smul, hw, smul_eq_mul, smul_eq_mul, mul_one]
    exact Real.sqrt_mul_self hpos.le
  refine normalize_eq_ok_iff.mpr ⟨hnorm.symm ▸ ha, Vec.coords_injective ?_⟩
  rw [Vec.coords_dividedBy, hnorm, hv, inv_smul_smul₀ hpos.ne']

theorem ne_zero_of_lt_abs {d : ℝ} (hr : 0 ≤ reference) (h : Scalar.zeroNorm * reference < |d|) :
    d ≠ 0 :=
  abs_pos.mp (lt_of_le_of_lt (mul_nonneg Scalar.zeroNorm_pos.le hr) h)

/-- A multiple of a vector is divided into it, if the divisor exceeds the bound. -/
theorem divideBy_of_smul {v w : Vec ℝ n} {d : ℝ} (hv : v.coords = d • w.coords)
    (hr : 0 ≤ reference) (hd : Scalar.zeroNorm * reference < |d|) :
    divideBy what v d reference = .ok w := by
  refine divideBy_eq_ok_iff.mpr ⟨hd, Vec.coords_injective ?_⟩
  rw [Vec.coords_dividedBy, hv, inv_smul_smul₀ (ne_zero_of_lt_abs hr hd)]

end Guards

/-! ## 2. Exact tools -/

/-- **A unit eigenvector for an eigenvalue of largest magnitude.** -/
def IsDominant {m : ℕ} (a : Matrix (Fin m) (Fin m) ℝ) (v : Fin m → ℝ) : Prop :=
  v ⬝ᵥ v = 1 ∧ ∃ μ : ℝ, a *ᵥ v = μ • v ∧
    ∀ (ν : ℝ) (u : Fin m → ℝ), u ≠ 0 → a *ᵥ u = ν • u → |ν| ≤ |μ|

/-- **An exact inverse:** what the tool gives is the inverse of the matrix, and it gives one if
and only if there is one. -/
structure Toolkit.ExactInverse (tools : Toolkit ℝ) : Prop where
  inverse_eq_some_iff : ∀ {m : ℕ} (a b : Mat ℝ m m),
    tools.inverse a = some b ↔ a.matrix * b.matrix = 1

/-- **Exact tools.** The inverse is exact, and the dominant eigenvector of a symmetric matrix that
has rows is one, of either sign.  Nothing is asked of the condition number, nor of the start of an
iteration. -/
structure Toolkit.Exact (tools : Toolkit ℝ) : Prop extends tools.ExactInverse where
  eigenvector_isDominant : ∀ (j : ℕ) {m : ℕ} (a : Mat ℝ m m), 0 < m → a.matrix.IsSymm →
    IsDominant a.matrix (tools.eigenvector j a).coords

/-- Every matrix of reals may be asked for its dominant eigenvector. -/
theorem dominantEigenvector_real (tools : Toolkit ℝ) (j : ℕ) {m : ℕ} (a : Mat ℝ m m) :
    dominantEigenvector tools j a = .ok (tools.eigenvector j a) := by
  unfold dominantEigenvector
  rw [Mat.all_isFinite_real, Bool.not_true, if_neg Bool.false_ne_true]

theorem Toolkit.ExactInverse.mul_eq_one_of_invert {tools : Toolkit ℝ} (ht : tools.ExactInverse)
    {m : ℕ} {what : Quantity} {a b : Mat ℝ m m} (h : invert tools what a = .ok b) :
    a.matrix * b.matrix = 1 := by
  rw [← ht.inverse_eq_some_iff]
  unfold invert at h
  simp only [Mat.all_isFinite_real, Bool.not_true, Bool.false_eq_true, if_false] at h
  split at h
  · cases h
  · rename_i c hc
    split at h
    · cases h
    · rw [← Except.ok.inj h]; exact hc

/-- **A matrix that has an inverse is refused for its condition only.** -/
theorem Toolkit.ExactInverse.invert_of_isUnit {tools : Toolkit ℝ} (ht : tools.ExactInverse) {m : ℕ}
    (what : Quantity) {a : Mat ℝ m m} (h : IsUnit a.matrix.det) :
    (∃ b, invert tools what a = .ok b) ∨
      invert tools what a = .error (.uninvertible what .illConditioned) := by
  have hsome : tools.inverse a = some (Mat.ofMatrix a.matrix⁻¹) := by
    rw [ht.inverse_eq_some_iff, Mat.matrix_ofMatrix, mul_nonsing_inv _ h]
  unfold invert
  simp only [Mat.all_isFinite_real, hsome, Bool.not_true, Bool.false_eq_true, if_false]
  split
  · exact .inr rfl
  · exact .inl ⟨_, rfl⟩

end PartialLeastSquares
