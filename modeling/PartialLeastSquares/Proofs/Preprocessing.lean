/-
# Preprocessing, exactly

Both schemes that subtract means leave columns whose sums are zero, whatever they divide by.
Centering such columns once more changes nothing, neither in them nor in new rows.  Where all
scales are positive, the way back undoes the way there (`ColumnStats.unapply_apply`).  Putting back
what was subtracted gives numbers that sum up to nothing the sums that the columns had
(`Scheme.sum_unapply`).
-/
import Mathlib
import PartialLeastSquares.Preprocessing
import PartialLeastSquares.Proofs.Exact.Scalar

namespace PartialLeastSquares

open Matrix

variable {n m p q : ℕ}

/-- **The columns are centered:** the sum of each is zero. -/
def Mat.Centered (x : Mat ℝ n p) : Prop := ∀ j, ∑ i, x.matrix i j = 0

/-- **Centered columns are orthogonal to ones.** -/
theorem Mat.centered_iff {a : Mat ℝ n p} : a.Centered ↔ a.matrixᵀ *ᵥ 1 = 0 := by
  rw [funext_iff]
  refine forall_congr' fun j => ?_
  rw [mulVec, dotProduct_one]
  rfl

theorem Mat.centered_ofCol {v : Vec ℝ n} : (Mat.ofCol v).Centered ↔ v.coords ⬝ᵥ 1 = 0 := by
  rw [dotProduct_one]
  refine ⟨fun h => ?_, fun h j => ?_⟩
  · rw [← h 0]
    exact Finset.sum_congr rfl fun i _ => (Mat.matrix_ofCol v i 0).symm
  · rw [← h]
    exact Finset.sum_congr rfl fun i _ => Mat.matrix_ofCol v i j

/-- **Combinations of centered columns are centered.** -/
theorem Mat.Centered.mul {a : Mat ℝ n p} (h : a.Centered) (b : Mat ℝ p q) :
    (a.mul b).Centered := by
  rw [centered_iff] at h ⊢
  rw [Mat.matrix_mul, transpose_mul, ← mulVec_mulVec, h, mulVec_zero]

/-- **The rows are all the same.** -/
def Mat.Constant {K : Type} (x : Mat K n p) : Prop := ∀ i i', x.row i = x.row i'

theorem Mat.Constant.matrix_eq {x : Mat ℝ n p} (h : x.Constant) (i i' : Fin n) (j : Fin p) :
    x.matrix i j = x.matrix i' j :=
  congrArg (Vec.get · j) (h i i')

/-- **Centered rows that are all the same are zero.** -/
theorem Mat.Centered.eq_zero {x : Mat ℝ n p} (h : x.Centered) (hsame : x.Constant) :
    x.matrix = 0 := by
  ext i j
  have hsum := h j
  rw [Finset.sum_congr rfl fun l _ => hsame.matrix_eq l i j, Finset.sum_const, Finset.card_univ,
    Fintype.card_fin, nsmul_eq_mul] at hsum
  exact (mul_eq_zero.mp hsum).resolve_left (Nat.cast_ne_zero.mpr i.pos.ne')

namespace ColumnStats

def trivial (p : ℕ) {K : Type} [Scalar K] : ColumnStats K p := ⟨Vec.zero, Vec.ofFn fun _ => 1⟩

@[simp] theorem trivial_apply (x : Mat ℝ m p) : (trivial p).apply x = x := by
  refine Mat.ext fun i j => ?_
  rw [get_apply, trivial, Vec.zero, Vec.get_ofFn, Vec.get_ofFn]
  exact (div_one _).trans (sub_zero _)

@[simp] theorem trivial_unapply (x : Mat ℝ m p) : (trivial p).unapply x = x := by
  refine Mat.ext fun i j => ?_
  rw [get_unapply, trivial, Vec.zero, Vec.get_ofFn, Vec.get_ofFn]
  exact (add_zero _).trans (mul_one _)

/-- **What was shifted and scaled comes back.** -/
theorem unapply_apply {s : ColumnStats ℝ p} (hs : ∀ j, 0 < s.scale.get j) (x : Mat ℝ m p) :
    s.unapply (s.apply x) = x :=
  Mat.ext fun i j => by
    rw [get_unapply, get_apply, div_mul_cancel₀ _ (hs j).ne', sub_add_cancel]

/-- **What comes back is shifted and scaled to what it was.** -/
theorem apply_unapply {s : ColumnStats ℝ p} (hs : ∀ j, 0 < s.scale.get j) (x : Mat ℝ m p) :
    s.apply (s.unapply x) = x :=
  Mat.ext fun i j => by
    rw [get_apply, get_unapply, add_sub_cancel_right, mul_div_cancel_right₀ _ (hs j).ne']

/-- **Columns from which their means are subtracted are centered,** whatever they are divided by. -/
theorem centered_apply {s : ColumnStats ℝ p} {x : Mat ℝ n p} (h : s.mean = columnMeans x) :
    (s.apply x).Centered := fun j => by
  have hentry : ∀ i, (s.apply x).matrix i j =
      (x.matrix i j - (∑ l, x.matrix l j) / n) / s.scale.get j := fun i => by
    rw [Mat.matrix_apply, get_apply, h, columnMeans, Vec.get_ofFn, Scalar.sum_real,
      Scalar.ofNat_real]
    rfl
  simp only [hentry]
  rw [← Finset.sum_div, Finset.sum_sub_distrib, Finset.sum_const, Finset.card_univ, Fintype.card_fin,
    nsmul_eq_mul]
  rcases Nat.eq_zero_or_pos n with rfl | hn
  · simp
  · have hne : (n : ℝ) ≠ 0 := Nat.cast_ne_zero.mpr hn.ne'
    rw [mul_div_cancel₀ _ hne, sub_self, zero_div]

end ColumnStats

namespace Scheme

/-- **Centered columns have nothing to subtract.** -/
theorem center_learn {x : Mat ℝ n p} (h : x.Centered) : center.learn x = ColumnStats.trivial p := by
  have hmeans : columnMeans x = Vec.zero := Vec.ext fun j => by
    rw [columnMeans, Vec.get_ofFn, Scalar.sum_real, Vec.zero, Vec.get_ofFn]
    exact (congrArg (· / _) (h j)).trans (zero_div _)
  unfold learn ColumnStats.trivial
  rw [hmeans]

theorem centered_of_ne_none {scheme : Scheme} (h : scheme ≠ none) (x : Mat ℝ n p) :
    ((scheme.learn x).apply x).Centered := by
  refine ColumnStats.centered_apply ?_
  cases scheme with
  | none => exact absurd rfl h
  | center => rfl
  | standardize => rfl

/-- Columns are centered that were, or from which a scheme subtracts the means. -/
theorem centered_learn {scheme : Scheme} {x : Mat ℝ n p} (h : scheme ≠ none ∨ x.Centered) :
    ((scheme.learn x).apply x).Centered := by
  by_cases hscheme : scheme = none
  · obtain hx := h.resolve_left (not_not.mpr hscheme)
    rw [hscheme]
    exact (ColumnStats.trivial_apply x).symm ▸ hx
  · exact centered_of_ne_none hscheme x

/-- **What sums up to nothing sums up to the responses** once a scheme has put back what it took. -/
theorem sum_unapply {scheme : Scheme} {y raw : Mat ℝ n q} (h : scheme ≠ none ∨ y.Centered)
    (hraw : raw.Centered) (j : Fin q) : ∑ i, ((scheme.learn y).unapply raw).matrix i j = ∑ i, y.matrix i j := by
  have hentry : ∀ i, ((scheme.learn y).unapply raw).matrix i j =
      raw.matrix i j * (scheme.learn y).scale.get j + (scheme.learn y).mean.get j := fun i =>
    ColumnStats.get_unapply _ _ _ _
  have hmean : (n : ℝ) * (scheme.learn y).mean.get j = ∑ i, y.matrix i j := by
    by_cases hscheme : scheme = none
    · rw [h.resolve_left (not_not.mpr hscheme) j, hscheme]
      exact (congrArg _ (Vec.get_ofFn _ j)).trans (mul_zero _)
    · have hmeans : (scheme.learn y).mean = columnMeans y := by
        cases scheme with
        | none => exact absurd rfl hscheme
        | center => rfl
        | standardize => rfl
      rw [hmeans, columnMeans, Vec.get_ofFn, Scalar.sum_real, Scalar.ofNat_real]
      rcases Nat.eq_zero_or_pos n with rfl | hn
      · simp
      · exact mul_div_cancel₀ _ (Nat.cast_ne_zero.mpr hn.ne')
  simp only [hentry]
  rw [Finset.sum_add_distrib, ← Finset.sum_mul, hraw j, zero_mul, zero_add, Finset.sum_const,
    Finset.card_univ, Fintype.card_fin, nsmul_eq_mul, hmean]

end Scheme

end PartialLeastSquares
