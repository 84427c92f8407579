/-
# Arithmetic in other units

Data in other units is data times a factor.  This file says what a factor does to each operation of
the library: it comes out of a product, out of an inner product twice if both sides have it, and out
of a length as it is if it is positive.

The guards are where units could show.  Each compares a magnitude with a multiple of a reference, so
it decides alike in all units exactly if the reference carries the factor of the magnitude, and that
is the hypothesis of each lemma on a guard.  The condition number of a matrix carries no factor at
all (`Toolkit.ExactCondition`), so a multiple of a matrix is inverted whenever the matrix is.
-/
import Mathlib
import PartialLeastSquares.Proofs.Exact.Guard
import PartialLeastSquares.Proofs.Exact.Tools

namespace PartialLeastSquares

open Matrix

open scoped Matrix.Norms.L2Operator

variable {n m p q : ℕ}

/-! ## 1. Vectors -/

namespace Vec

@[simp] theorem scale_one (v : Vec ℝ n) : v.scale 1 = v :=
  coords_injective (by rw [coords_scale, one_smul])

@[simp] theorem scale_scale (v : Vec ℝ n) (c d : ℝ) : (v.scale c).scale d = v.scale (d * c) :=
  coords_injective (by rw [coords_scale, coords_scale, coords_scale, smul_smul])

@[simp] theorem scale_sub (v w : Vec ℝ n) (c : ℝ) :
    (v.scale c).sub (w.scale c) = (v.sub w).scale c :=
  coords_injective (by
    rw [coords_sub, coords_scale, coords_scale, coords_scale, coords_sub, smul_sub])

@[simp] theorem scale_dot (v w : Vec ℝ n) (c : ℝ) : (v.scale c).dot w = c * v.dot w := by
  rw [dot_real, dot_real, coords_scale, smul_dotProduct, smul_eq_mul]

@[simp] theorem dot_scale (v w : Vec ℝ n) (c : ℝ) : v.dot (w.scale c) = c * v.dot w := by
  rw [dot_real, dot_real, coords_scale, dotProduct_smul, smul_eq_mul]

@[simp] theorem normSq_scale (v : Vec ℝ n) (c : ℝ) : (v.scale c).normSq = c * c * v.normSq := by
  rw [normSq, normSq, scale_dot, dot_scale, mul_assoc]

theorem norm_scale (v : Vec ℝ n) {c : ℝ} (hc : 0 < c) : (v.scale c).norm = c * v.norm := by
  show √((v.scale c).normSq) = c * √v.normSq
  rw [normSq_scale, Real.sqrt_mul (mul_self_nonneg c), Real.sqrt_mul_self hc.le]

/-- A factor that is not zero can be divided by as well. -/
theorem scale_dividedBy (v : Vec ℝ n) (c d e : ℝ) :
    (v.scale c).dividedBy (d * e) = (v.dividedBy e).scale (c / d) := by
  refine coords_injective ?_
  rw [coords_dividedBy, coords_scale, coords_scale, coords_dividedBy, smul_smul, smul_smul, mul_inv,
    div_eq_mul_inv]
  congr 1
  ring

end Vec

/-! ## 2. Matrices -/

namespace Mat

def scale {K : Type} [Scalar K] (a : Mat K n p) (c : K) : Mat K n p := ofFn fun i j => get a i j * c

@[simp] theorem get_scale {K : Type} [Scalar K] (a : Mat K n p) (c : K) (i : Fin n) (j : Fin p) :
    get (a.scale c) i j = get a i j * c :=
  get_ofFn _ _ _

@[simp] theorem matrix_scale (a : Mat ℝ n p) (c : ℝ) : (a.scale c).matrix = c • a.matrix :=
  Matrix.ext fun i j => (get_scale a c i j).trans (mul_comm _ _)

@[simp] theorem scale_one (a : Mat ℝ n p) : a.scale 1 = a :=
  matrix_injective (by rw [matrix_scale, one_smul])

@[simp] theorem scale_scale (a : Mat ℝ n p) (c d : ℝ) : (a.scale c).scale d = a.scale (d * c) :=
  matrix_injective (by rw [matrix_scale, matrix_scale, matrix_scale, smul_smul])

@[simp] theorem scale_sub (a b : Mat ℝ n p) (c : ℝ) :
    (a.scale c).sub (b.scale c) = (a.sub b).scale c :=
  matrix_injective (by
    rw [matrix_sub, matrix_scale, matrix_scale, matrix_scale, matrix_sub, smul_sub])

@[simp] theorem scale_apply (a : Mat ℝ n p) (v : Vec ℝ p) (c : ℝ) :
    (a.scale c).apply v = (a.apply v).scale c :=
  Vec.coords_injective (by
    rw [coords_apply, matrix_scale, smul_mulVec, Vec.coords_scale, coords_apply])

@[simp] theorem apply_scale (a : Mat ℝ n p) (v : Vec ℝ p) (c : ℝ) :
    a.apply (v.scale c) = (a.apply v).scale c :=
  Vec.coords_injective (by
    rw [coords_apply, Vec.coords_scale, mulVec_smul, Vec.coords_scale, coords_apply])

@[simp] theorem scale_applyT (a : Mat ℝ n p) (v : Vec ℝ n) (c : ℝ) :
    (a.scale c).applyT v = (a.applyT v).scale c :=
  Vec.coords_injective (by
    rw [coords_applyT, matrix_scale, transpose_smul, smul_mulVec, Vec.coords_scale, coords_applyT])

@[simp] theorem applyT_scale (a : Mat ℝ n p) (v : Vec ℝ n) (c : ℝ) :
    a.applyT (v.scale c) = (a.applyT v).scale c :=
  Vec.coords_injective (by
    rw [coords_applyT, Vec.coords_scale, mulVec_smul, Vec.coords_scale, coords_applyT])

@[simp] theorem scale_mul (a : Mat ℝ n p) (b : Mat ℝ p q) (c : ℝ) :
    (a.scale c).mul b = (a.mul b).scale c :=
  matrix_injective (by rw [matrix_mul, matrix_scale, matrix_scale, matrix_mul, Matrix.smul_mul])

@[simp] theorem mul_scale (a : Mat ℝ n p) (b : Mat ℝ p q) (c : ℝ) :
    a.mul (b.scale c) = (a.mul b).scale c :=
  matrix_injective (by rw [matrix_mul, matrix_scale, matrix_scale, matrix_mul, Matrix.mul_smul])

@[simp] theorem scale_tmul (a : Mat ℝ n p) (b : Mat ℝ n q) (c : ℝ) :
    tmul (a.scale c) b = (tmul a b).scale c :=
  matrix_injective (by
    rw [matrix_tmul, matrix_scale, matrix_scale, matrix_tmul, transpose_smul, Matrix.smul_mul])

@[simp] theorem tmul_scale (a : Mat ℝ n p) (b : Mat ℝ n q) (c : ℝ) :
    tmul a (b.scale c) = (tmul a b).scale c :=
  matrix_injective (by rw [matrix_tmul, matrix_scale, matrix_scale, matrix_tmul, Matrix.mul_smul])

@[simp] theorem mulT_scale (a : Mat ℝ n p) (b : Mat ℝ m p) (c : ℝ) :
    mulT a (b.scale c) = (mulT a b).scale c :=
  matrix_injective (by
    rw [matrix_mulT, matrix_scale, matrix_scale, matrix_mulT, transpose_smul, Matrix.mul_smul])

@[simp] theorem scale_mulT (a : Mat ℝ n p) (b : Mat ℝ m p) (c : ℝ) :
    mulT (a.scale c) b = (mulT a b).scale c :=
  matrix_injective (by rw [matrix_mulT, matrix_scale, matrix_scale, matrix_mulT, Matrix.smul_mul])

@[simp] theorem outer_scale (v : Vec ℝ n) (w : Vec ℝ p) (c : ℝ) :
    outer v (w.scale c) = (outer v w).scale c :=
  matrix_injective (by
    rw [matrix_outer, Vec.coords_scale, matrix_scale, matrix_outer, vecMulVec_smul])

@[simp] theorem scale_outer (v : Vec ℝ n) (w : Vec ℝ p) (c : ℝ) :
    outer (v.scale c) w = (outer v w).scale c :=
  matrix_injective (by
    rw [matrix_outer, Vec.coords_scale, matrix_scale, matrix_outer, smul_vecMulVec])

theorem norm_scale (a : Mat ℝ n p) {c : ℝ} (hc : 0 < c) : (a.scale c).norm = c * a.norm := by
  have hrow (i : Fin n) : (a.scale c).matrix i = c • a.matrix i := by
    rw [matrix_scale]
    rfl
  rw [norm_real, norm_real]
  simp only [hrow, smul_dotProduct, dotProduct_smul, smul_eq_mul, ← mul_assoc, ← Finset.mul_sum]
  rw [Real.sqrt_mul (mul_self_nonneg c), Real.sqrt_mul_self hc.le]

@[simp] theorem only_scale (a : Mat ℝ n 1) (c : ℝ) : (a.scale c).only = a.only.scale c :=
  Vec.ext fun i => by rw [only, only, get_col, get_scale, Vec.get_scale, get_col]

@[simp] theorem ofCol_scale (v : Vec ℝ n) (c : ℝ) : ofCol (v.scale c) = (ofCol v).scale c :=
  ext fun i j => by rw [get_ofCol, get_scale, Vec.get_scale, get_ofCol]

end Mat

/-! ## 3. Columns of a list

The members of a list that is mapped make up as many columns, but the type of the matrix says so
only after a rewriting of the length. -/

theorem Vec.heq_ofFn {k k' : ℕ} (hk : k' = k) {v : Vec ℝ k} {f : Fin k' → ℝ}
    (h : ∀ j, f j = v.get (j.cast hk)) : HEq (Vec.ofFn f) v := by
  subst hk
  refine heq_of_eq (Vec.ext fun j => ?_)
  rw [Vec.get_ofFn, h]
  rfl

theorem Mat.heq_of_get {k k' : ℕ} (hk : k' = k) {a : Mat ℝ n k} {a' : Mat ℝ n k'}
    (h : ∀ i j, a'.get i j = a.get i (j.cast hk)) : HEq a' a := by
  subst hk
  exact heq_of_eq (Mat.ext h)

/-- The columns of the members of a list that was mapped. -/
theorem Mat.heq_ofCols_map {α β : Type} (cs : List α) (g : α → β) (f : β → Vec ℝ n) :
    HEq (Mat.ofCols (cs.map g) f) (Mat.ofCols cs fun c => f (g c)) := by
  refine Mat.heq_of_get (List.length_map g) fun i j => ?_
  rw [Mat.get_ofCols, Mat.get_ofCols]
  simp

/-! ## 4. Guards -/

section Guards

variable {what : Quantity} {c reference reference' : ℝ}

theorem guard_iff (hc : 0 < c) (s : ℝ) (h : reference' = c * reference) :
    c * s ≤ Scalar.zeroNorm * reference' ↔ s ≤ Scalar.zeroNorm * reference := by
  rw [h, mul_left_comm]
  exact mul_le_mul_iff_right₀ hc

/-- **A vector is normalised alike in all units.** -/
theorem normalize_scale (hc : 0 < c) {v v' : Vec ℝ n} (hv : v' = v.scale c)
    (href : reference' = c * reference) :
    normalize what v' reference' = normalize what v reference := by
  have hlength : v'.norm = c * v.norm := by rw [hv, Vec.norm_scale v hc]
  have hdivided : v'.dividedBy v'.norm = v.dividedBy v.norm := by
    rw [hlength, hv, Vec.scale_dividedBy, div_self hc.ne', Vec.scale_one]
  unfold normalize
  simp only [Scalar.isFinite_real, hdivided]
  simp only [hlength, guard_iff hc v.norm href]

theorem negligible_scale (hc : 0 < c) {d d' : ℝ} (hd : d' = c * d)
    (href : reference' = c * reference) : negligible d' reference' = negligible d reference := by
  have habs : Scalar.abs d' = c * Scalar.abs d := by
    rw [hd]
    exact (abs_mul c d).trans (by rw [abs_of_pos hc]; rfl)
  unfold negligible
  simp only [Scalar.isFinite_real, habs, guard_iff hc (Scalar.abs d) href]

/-- **A quotient of equal units is the same in all of them.** -/
theorem divideBy_scale (hc : 0 < c) {v v' : Vec ℝ n} {d d' : ℝ} (hv : v' = v.scale c)
    (hd : d' = c * d) (href : reference' = c * reference) :
    divideBy what v' d' reference' = divideBy what v d reference := by
  unfold divideBy
  rw [negligible_scale hc hd href, hd, hv, Vec.scale_dividedBy, div_self hc.ne', Vec.scale_one]

/-- A quotient of other units carries the quotient of the factors. -/
theorem quotient_scale (hc : 0 < c) {x x' d d' e : ℝ} (hx : x' = e * x) (hd : d' = c * d)
    (href : reference' = c * reference) :
    quotient what x' d' reference' = (quotient what x d reference).map (e / c * ·) := by
  unfold quotient
  rw [negligible_scale hc hd href, hx, hd]
  split
  · rfl
  · exact congrArg Except.ok (mul_div_mul_comm e x c d)

end Guards

/-! ## 5. Inverses -/

/-- **The condition number of a matrix that has an inverse** is its length in the operator norm
times that of the inverse. -/
structure Toolkit.ExactCondition (tools : Toolkit ℝ) : Prop where
  condition_eq : ∀ {m : ℕ} (a : Mat ℝ m m), IsUnit a.matrix.det →
    tools.condition a = ‖a.matrix‖ * ‖a.matrix⁻¹‖

theorem Toolkit.exact_exactCondition {start : (n seed : ℕ) → Vec ℝ n} :
    (Toolkit.exact start).ExactCondition :=
  ⟨fun _ _ => rfl⟩

section Inverses

variable {tools : Toolkit ℝ} {what : Quantity} {c : ℝ}

/-- An exact inverse of a multiple is the inverse multiple of the inverse. -/
theorem inverse_scale (ht : tools.ExactInverse) (hc : c ≠ 0) (a : Mat ℝ m m) :
    tools.inverse (a.scale c) = (tools.inverse a).map fun b => b.scale c⁻¹ := by
  refine Option.ext fun b => ?_
  rw [ht.inverse_eq_some_iff, Option.map_eq_some_iff]
  constructor
  · intro h
    refine ⟨b.scale c, (ht.inverse_eq_some_iff _ _).mpr ?_, ?_⟩
    · rw [Mat.matrix_scale] at h ⊢
      rw [Matrix.mul_smul, ← Matrix.smul_mul, h]
    · rw [Mat.scale_scale, inv_mul_cancel₀ hc, Mat.scale_one]
  · rintro ⟨b, hb, rfl⟩
    rw [Mat.matrix_scale, Mat.matrix_scale, smul_mul_smul_comm, mul_inv_cancel₀ hc, one_smul]
    exact (ht.inverse_eq_some_iff _ _).mp hb

theorem condition_scale (ht : tools.ExactCondition) (hc : c ≠ 0) {a b : Mat ℝ m m}
    (h : a.matrix * b.matrix = 1) : tools.condition (a.scale c) = tools.condition a := by
  have hdet : IsUnit a.matrix.det := isUnit_det_of_right_inverse h
  have hscaled : (a.scale c).matrix * (b.scale c⁻¹).matrix = 1 := by
    rw [Mat.matrix_scale, Mat.matrix_scale, smul_mul_smul_comm, mul_inv_cancel₀ hc, one_smul, h]
  rw [ht.condition_eq a hdet, ht.condition_eq _ (isUnit_det_of_right_inverse hscaled),
    inv_eq_right_inv hscaled, inv_eq_right_inv h, Mat.matrix_scale, Mat.matrix_scale, norm_smul,
    norm_smul, norm_inv]
  have hne : ‖c‖ ≠ 0 := norm_ne_zero_iff.mpr hc
  field_simp

/-- **A multiple of a matrix is inverted if and only if the matrix is,** and otherwise refused for
the same reason. -/
theorem invert_scale (ht : tools.ExactInverse) (hcond : tools.ExactCondition) (hc : c ≠ 0)
    (a : Mat ℝ m m) :
    invert tools what (a.scale c) = (invert tools what a).map fun b => b.scale c⁻¹ := by
  unfold invert
  simp only [Mat.all_isFinite_real, Bool.not_true, Bool.false_eq_true, if_false]
  rw [inverse_scale ht hc]
  cases hinverse : tools.inverse a with
  | none => rfl
  | some b =>
    simp only [Option.map_some,
      condition_scale hcond hc ((ht.inverse_eq_some_iff a b).mp hinverse)]
    split <;> rfl

end Inverses

end PartialLeastSquares
