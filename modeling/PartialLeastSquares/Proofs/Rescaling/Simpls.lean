/-
# Cross-products in other units

Both cross-products carry known factors, so a step in other units leaves the same cross-products,
each in its units (`corresponds_step`).  The component itself is only determined up to its sign: the
dominant eigenvector of a single number is one or minus one, and nothing says that it is the same in
all units.  A weight and the loadings that belong to it change their signs together.

Thinning out compares magnitudes within one column, and a column carries one factor, so the same
entries stay (`slim_columns`).  In the regression vector each sign meets itself, and what is left is
the quotient of the factors (`fit_rescaled`).
-/
import Mathlib
import PartialLeastSquares.Proofs.Rescaling.Arithmetic
import PartialLeastSquares.Proofs.Rescaling.Correspondence
import PartialLeastSquares.Proofs.Simpls.Component

namespace PartialLeastSquares.Simpls

variable {n p k : ℕ} {a b s : ℝ}

/-! ## 1. Signs -/

/-- A vector is normalised to the same direction whatever its sign. -/
theorem normalize_sign (hs : s * s = 1) {what : Quantity} (v : Vec ℝ n) (reference : ℝ) :
    normalize what (v.scale s) reference =
      (normalize what v reference).map fun w => w.scale s := by
  have hlength : (v.scale s).norm = v.norm := by
    show √((v.scale s).normSq) = √v.normSq
    rw [Vec.normSq_scale, hs, one_mul]
  have hdivided : (v.scale s).dividedBy v.norm = (v.dividedBy v.norm).scale s := by
    have h := Vec.scale_dividedBy v s 1 v.norm
    rwa [one_mul, div_one] at h
  unfold normalize
  simp only [Scalar.isFinite_real, hlength, hdivided, Bool.not_true, Bool.false_eq_true, if_false]
  split <;> rfl

/-- The product of a vector with itself does not see its sign. -/
theorem outer_sign (hs : s * s = 1) (v : Vec ℝ n) (c : ℝ) :
    Mat.outer (v.scale (s * c)) (v.scale (s * c)) = (Mat.outer v v).scale (c * c) := by
  rw [Mat.scale_outer, Mat.outer_scale, Mat.scale_scale]
  congr 1
  linear_combination c * c * hs

/-! ## 2. The components -/

noncomputable def Cross.rescale (a b : ℝ) (r : Cross ℝ p) : Cross ℝ p :=
  ⟨r.response.scale (a * b), r.predictors.scale (a * a), r.projector⟩

namespace Cross

variable (r : Cross ℝ p)

/-- The direction of a weight, for either sign of the eigenvector in either of the units. -/
theorem weight_rescale (ha : 0 < a) (hb : 0 < b) {d d' : ℝ} (hd : d * d = 1) (hd' : d' * d' = 1)
    (what : Quantity) (xScale yScale : ℝ) :
    normalize what ((r.rescale a b).response.scale d') (a * xScale * (b * yScale)) =
      (normalize what (r.response.scale d) (xScale * yScale)).map fun w => w.scale (d * d') := by
  have hs : d * d' * (d * d') = 1 := by linear_combination d' * d' * hd + hd'
  rw [← normalize_sign hs]
  refine normalize_scale (mul_pos ha hb) ?_ (by ring)
  rw [rescale, Vec.scale_scale, Vec.scale_scale, Vec.scale_scale]
  congr 1
  linear_combination -(d' * (a * b)) * hd

/-- The direction that is removed, whatever the sign of the loading. -/
theorem deflation_rescale (ha : 0 < a) (hs : s * s = 1) (what : Quantity) (loading : Vec ℝ p)
    (xScale : ℝ) :
    normalize what ((r.rescale a b).projector.apply (loading.scale (s * a))) (a * xScale) =
      (normalize what (r.projector.apply loading) xScale).map fun w => w.scale s := by
  rw [← normalize_sign hs]
  refine normalize_scale ha ?_ rfl
  rw [rescale, Mat.apply_scale, Vec.scale_scale, mul_comm a s]

/-- The square of the length of a direction, whatever its sign. -/
theorem length_rescale (hs : s * s = 1) (raw : Vec ℝ p) :
    ((r.rescale a b).predictors.applyT (raw.scale s)).dot (raw.scale s) =
      a * a * (r.predictors.applyT raw).dot raw := by
  simp only [rescale, Mat.scale_applyT, Mat.applyT_scale, Vec.scale_dot, Vec.dot_scale]
  linear_combination a * a * (r.predictors.applyT raw).dot raw * hs

theorem loading_rescale (ha : 0 < a) (weight : Vec ℝ p) :
    (r.rescale a b).predictors.apply (weight.scale (s / a)) =
      (r.predictors.apply weight).scale (s * a) := by
  rw [rescale, Mat.scale_apply, Mat.apply_scale, Vec.scale_scale]
  congr 1
  field_simp

theorem responseLoading_rescale (ha : 0 < a) (weight : Vec ℝ p) :
    (r.rescale a b).response.dot (weight.scale (s / a)) = s * b * r.response.dot weight := by
  rw [rescale, Vec.scale_dot, Vec.dot_scale]
  field_simp

end Cross

/-- **A component in other units,** up to its sign. -/
def Component.Rescaled (a b : ℝ) (c c' : Component ℝ p) : Prop :=
  ∃ s : ℝ, s * s = 1 ∧
    c' = ⟨c.weight.scale (s / a), c.loading.scale (s * a), s * b * c.responseLoading⟩

/-- **A step in other units** finds the same component up to its sign, and leaves the same
cross-products. -/
theorem corresponds_step {tools : Toolkit ℝ} (ht : tools.Exact) (ha : 0 < a) (hb : 0 < b)
    (xScale yScale : ℝ) (j : ℕ) (r : Cross ℝ p) :
    Corresponds (fun _ _ => True)
      (fun found found' => found.1.Rescaled a b found'.1 ∧ found'.2 = found.2.rescale a b)
      (step tools xScale yScale j r) (step tools (a * xScale) (b * yScale) j (r.rescale a b)) := by
  have haa : 0 < a * a := mul_pos ha ha
  have hd := direction_mul_self ht j r
  have hd' := direction_mul_self ht j (r.rescale a b)
  unfold step
  rw [dominantEigenvector_real, dominantEigenvector_real]
  show Corresponds _ _
    (normalize (.weight j) (r.response.scale (direction tools j r)) (xScale * yScale) >>= _)
    (normalize (.weight j) ((r.rescale a b).response.scale (direction tools j (r.rescale a b)))
      (a * xScale * (b * yScale)) >>= _)
  generalize direction tools j r = d at *
  generalize direction tools j (r.rescale a b) = d' at *
  -- the two signs together are the sign of the component
  have hs : d * d' * (d * d') = 1 := by linear_combination d' * d' * hd + hd'
  have hraw := r.weight_rescale ha hb hd hd' (.weight j) xScale yScale
  generalize d * d' = s at *
  refine .bind (.of_eq_map hraw (fun _ => trivial) fun _ _ => rfl) ?_
  rintro raw _ rfl
  have hroot : Scalar.sqrt (a * a * (r.predictors.applyT raw).dot raw) =
      a * Scalar.sqrt ((r.predictors.applyT raw).dot raw) :=
    (Real.sqrt_mul haa.le _).trans (congrArg (· * _) (Real.sqrt_mul_self ha.le))
  have href : a * xScale * (a * xScale) = a * a * (xScale * xScale) := by ring
  simp only [r.length_rescale hs, hroot, Scalar.isFinite_real, guard_iff haa _ href,
    Vec.scale_dividedBy, r.loading_rescale ha, r.responseLoading_rescale ha]
  generalize (r.predictors.applyT raw).dot raw = length
  by_cases hguard : length ≤ Scalar.zeroNorm * (xScale * xScale)
  · simp only [hguard, decide_true, Bool.or_true, if_true]
    exact .error trivial
  · simp only [hguard, decide_false, Bool.not_true, Bool.or_false, Bool.false_eq_true, if_false]
    generalize raw.dividedBy (Scalar.sqrt length) = weight
    generalize r.predictors.apply weight = loading
    have hdeflation := r.deflation_rescale (b := b) ha hs (.deflationDirection j) loading xScale
    refine .bind (.of_eq_map hdeflation (fun _ => trivial) fun _ _ => rfl) ?_
    rintro v _ rfl
    have hv : Mat.outer (v.scale s) (v.scale s) = Mat.outer v v := by
      have h := outer_sign hs v 1
      rwa [mul_one, mul_one, Mat.scale_one] at h
    refine .ok ⟨⟨s, hs, rfl⟩, ?_⟩
    simp only [Cross.rescale, hv, Mat.apply_scale, outer_sign hs, Mat.scale_sub]

theorem corresponds_extraction {tools : Toolkit ℝ} (ht : tools.Exact) (ha : 0 < a) (hb : 0 < b)
    (x : Mat ℝ n p) (y : Vec ℝ n) (count : ℕ) :
    List.Forall₂ (Component.Rescaled a b) (extraction tools x y count).components
        (extraction tools (x.scale a) (y.scale b) count).components ∧
      Corresponds (fun _ _ => True) (fun r r' => r' = r.rescale a b)
        (extraction tools x y count).ending
        (extraction tools (x.scale a) (y.scale b) count).ending := by
  have hstart : Cross.start (x.scale a) (y.scale b) = (Cross.start x y).rescale a b := by
    simp only [Cross.start, Cross.rescale, Mat.scale_applyT, Mat.applyT_scale, Mat.scale_tmul,
      Mat.tmul_scale, Vec.scale_scale, Mat.scale_scale, mul_comm b a]
  unfold extraction
  rw [Mat.norm_scale x ha, Vec.norm_scale y hb]
  refine corresponds_extract (fun j r r' hr => ?_) count 0 _ _ hstart
  rw [hr]
  exact corresponds_step ht ha hb x.norm y.norm j r

/-! ## 3. Thinning out -/

/-- **One entry ranks before another in all units.** -/
theorem ranksBefore_scale {c : ℝ} (hc : c ≠ 0) (u : ℝ) (i : ℕ) (v : ℝ) (j : ℕ) :
    ranksBefore (u * c) i (v * c) j = ranksBefore u i v j := by
  have hlt (u v : ℝ) : Scalar.abs (u * c) < Scalar.abs (v * c) ↔ Scalar.abs u < Scalar.abs v := by
    show |u * c| < |v * c| ↔ |u| < |v|
    rw [abs_mul, abs_mul]
    exact mul_lt_mul_iff_left₀ (abs_pos.mpr hc)
  have hnan (u : ℝ) : Scalar.isNaN u = false := rfl
  simp only [ranksBefore, hlt, hnan]

theorem rank_scale {c : ℝ} (hc : c ≠ 0) (v : Vec ℝ n) (i : Fin n) :
    rank (v.scale c) i = rank v i := by
  simp only [rank, Vec.get_scale, ranksBefore_scale hc]

/-- **Thinning out keeps the same entries** if each column carries a factor of its own. -/
theorem slim_columns {k' : ℕ} (hk : k' = k) {w : Mat ℝ p k} {w' : Mat ℝ p k'} {f : Fin k → ℝ}
    (hf : ∀ j, f j ≠ 0) (h : ∀ i j, w'.get i j = w.get i (j.cast hk) * f (j.cast hk)) (count : ℤ)
    (i : Fin p) (j : Fin k') :
    (slim w' count).get i j = (slim w count).get i (j.cast hk) * f (j.cast hk) := by
  subst hk
  simp only [Fin.cast_eq_self] at h ⊢
  have hcol : w'.col j = (w.col j).scale (f j) := by
    refine Vec.ext fun i => ?_
    rw [Mat.get_col, Vec.get_scale, Mat.get_col]
    exact h i j
  unfold slim
  split
  · exact h i j
  · rw [Mat.get_ofFn, Mat.get_ofFn, hcol, rank_scale (hf j), h]
    split
    · rfl
    · exact (zero_mul _).symm

/-- **In a regression vector each sign meets itself.** -/
theorem apply_columns {k' : ℕ} (hk : k' = k) {w : Mat ℝ p k} {w' : Mat ℝ p k'} {q : Vec ℝ k}
    {q' : Vec ℝ k'} {f : Fin k → ℝ} (hf : ∀ j, f j * f j = 1)
    (hw : ∀ i j, w'.get i j = w.get i (j.cast hk) * (f (j.cast hk) / a))
    (hq : ∀ j, q'.get j = f (j.cast hk) * b * q.get (j.cast hk)) :
    w'.apply q' = (w.apply q).scale (b / a) := by
  subst hk
  refine Vec.ext fun i => ?_
  rw [Mat.get_apply, Vec.get_scale, Mat.get_apply, Scalar.sum_real, Scalar.sum_real, Finset.sum_mul]
  refine Finset.sum_congr rfl fun j _ => ?_
  rw [hw, hq]
  show w.get i j * (f j / a) * (f j * b * q.get j) = w.get i j * q.get j * (b / a)
  linear_combination w.get i j * q.get j * b / a * hf j

/-- **The fit in other units** is a fit if and only if there is one, and its regression vector
carries the quotient of the factors. -/
theorem fit_rescaled (ha : 0 < a) {cs cs' : List (Component ℝ p)}
    (h : List.Forall₂ (Component.Rescaled a b) cs cs') (thinning : Thinning) :
    (fit thinning cs = none ∧ fit thinning cs' = none) ∨
      ∃ f f', fit thinning cs = some f ∧ fit thinning cs' = some f' ∧
        f'.regression = f.regression.scale (b / a) := by
  obtain ⟨hlength, hall⟩ := List.forall₂_iff_get.mp h
  choose s hs hc using fun j : Fin cs.length => hall j.val j.isLt (hlength ▸ j.isLt)
  have hk : cs'.length = cs.length := hlength.symm
  have hne : ∀ j, s j / a ≠ 0 := fun j =>
    div_ne_zero (left_ne_zero_of_mul_eq_one (hs j)) ha.ne'
  have hweights : ∀ i j, (weights cs').get i j =
      (weights cs).get i (j.cast hk) * (s (j.cast hk) / a) := fun i j => by
    have hj := hc (j.cast hk)
    rw [weights, weights, Mat.get_ofCols, Mat.get_ofCols]
    refine (congrArg (fun c : Component ℝ p => c.weight.get i) hj).trans ?_
    exact Vec.get_scale _ _ _
  have hloadings : ∀ j, (responseLoadings cs').get j =
      s (j.cast hk) * b * (responseLoadings cs).get (j.cast hk) := fun j => by
    have hj := hc (j.cast hk)
    rw [responseLoadings, responseLoadings, Vec.get_ofFn, Vec.get_ofFn]
    exact congrArg Component.responseLoading hj
  cases thinning with
  | keepAll => exact .inr ⟨_, _, rfl, rfl, apply_columns hk hs hweights hloadings⟩
  | keep count =>
    exact .inr ⟨_, _, rfl, rfl,
      apply_columns hk hs (slim_columns hk hne hweights count) hloadings⟩
  | meaningless => exact .inl ⟨rfl, rfl⟩

theorem predict_rescaled (ha : 0 < a) {f f' : Fit ℝ p}
    (h : f'.regression = f.regression.scale (b / a)) (new : Mat ℝ n p) :
    f'.predict (new.scale a) = (f.predict new).scale b := by
  rw [Fit.predict, Fit.predict, h, Mat.scale_apply, Mat.apply_scale, Vec.scale_scale,
    mul_div_cancel₀ b ha.ne']

end PartialLeastSquares.Simpls
