/-
# The components of an orthogonal filter, exactly

A step of the loop in `OPLS.fit_state` keeps a direction `w`.  It takes the direction `v` in which
the loading of the score `X w` leaves `w`, which is orthogonal to `w`, and deflates the predictors
by the score of `v` (`Extracts`).  So the image of `w` is a positive multiple of `w + ν v` with
`ν > 0`, and that one equation is all that is used of how a direction is chosen.

The removals come one after the other, and `OPLS._filter` removes all projections at once.  The
two differ by the cross terms of a loading with the directions after it.  They do not vanish: a
loading is never orthogonal to the very next direction (`loading_dot_weight_neg`), so the filter
leaves what the removals leave exactly if there is one of them (`chain_apply_eq_iff`).
-/
import Mathlib
import PartialLeastSquares.Method.OrthogonalFilter
import PartialLeastSquares.Proofs.Chain
import PartialLeastSquares.Proofs.Deflation
import PartialLeastSquares.Proofs.Exact.Columns
import PartialLeastSquares.Proofs.Exact.Guard
import PartialLeastSquares.Proofs.Outcome

namespace PartialLeastSquares.OrthogonalFilter

open Matrix

variable {n p : ℕ}

/-! ## 1. One step -/

/-- **What a step does, exactly,** when it keeps the direction `w`.  The image of that direction
leaves it along the weight, which has length one and is orthogonal to it, and the predictors are
deflated by the score of the weight. -/
structure Extracts (w : Vec ℝ p) (x : Mat ℝ n p) (c : Component ℝ n p) (x' : Mat ℝ n p) :
    Prop where
  image : ∃ s ν : ℝ, 0 < s ∧ 0 < ν ∧
    x.matrixᵀ *ᵥ (x.matrix *ᵥ w.coords) = s • (w.coords + ν • c.weight.coords)
  unit : c.weight.coords ⬝ᵥ c.weight.coords = 1
  kept : c.weight.coords ⬝ᵥ w.coords = 0
  deflates : Deflates x.matrix c.weight.coords c.score.coords c.loading.coords x'.matrix

/-- The score of a unit vector and the loading that has passed its guard are a deflation. -/
theorem deflates_of_divideBy {reference : ℝ} (hr : 0 ≤ reference) {what : Quantity}
    {x : Mat ℝ n p} {v l : Vec ℝ p} (hv : v.coords ⬝ᵥ v.coords = 1) {t : Vec ℝ n}
    (ht : t = (x.apply v).dividedBy v.normSq)
    (h : divideBy what (x.applyT t) t.normSq reference = .ok l) :
    Deflates x.matrix v.coords t.coords l.coords (x.sub (Mat.outer t l)).matrix := by
  obtain ⟨hlt, rfl⟩ := divideBy_eq_ok_iff.mp h
  have hsq := ne_zero_of_lt_abs hr hlt
  rw [Vec.normSq_real] at hsq
  refine ⟨?_, lt_of_le_of_ne (Finset.sum_nonneg fun i _ => mul_self_nonneg _) hsq.symm, ?_, ?_⟩
  · rw [ht, Vec.coords_dividedBy, Vec.normSq_real, hv, inv_one, one_smul, Mat.coords_apply]
  · rw [Vec.coords_dividedBy, Vec.normSq_real, smul_inv_smul₀ hsq, Mat.coords_applyT]
  · rw [Mat.matrix_sub, Mat.matrix_outer]

theorem extracts_of_step {xScale : ℝ} (hx : 0 ≤ xScale) {w : Vec ℝ p}
    (hw : w.coords ⬝ᵥ w.coords = 1) {j : ℕ} {x x' : Mat ℝ n p} {c : Component ℝ n p}
    (h : step xScale w j x = .ok (c, x')) : Extracts w x c x' := by
  unfold step at h
  obtain ⟨l, hl, h⟩ := bind_eq_ok_iff.mp h
  obtain ⟨weight, hweight, h⟩ := bind_eq_ok_iff.mp h
  obtain ⟨loading, hloading, h⟩ := bind_eq_ok_iff.mp h
  obtain ⟨rfl, rfl⟩ := Prod.mk.inj (Except.ok.inj h)
  obtain ⟨hlength, hleaves, hunit⟩ := normalize_ok zero_le_one hweight
  have hown := deflates_of_divideBy (mul_nonneg hx hx) hw rfl hl
  -- the loading of the direction that is kept has the component one along it
  have hone : w.coords ⬝ᵥ l.coords = 1 := (dotProduct_comm _ _).trans hown.loading_dot_weight
  generalize (l.sub (w.scale (w.dot l / w.normSq))).norm = ν at hlength hleaves
  rw [Vec.coords_sub, Vec.coords_scale, Vec.dot_real, Vec.normSq_real, hw, hone, div_one, one_smul,
    sub_eq_iff_eq_add'] at hleaves
  refine ⟨⟨_, ν, hown.score_pos, hlength, ?_⟩, hunit, ?_,
    deflates_of_divideBy (mul_nonneg hx hx) hunit rfl hloading⟩
  · rw [← hown.score, ← hown.loading, ← hleaves]
  · have hmul : ν * (weight.coords ⬝ᵥ w.coords) = 0 := by
      have hdot := congrArg (fun u => u ⬝ᵥ w.coords) hleaves
      simp only [add_dotProduct, smul_dotProduct, smul_eq_mul, hw] at hdot
      rw [dotProduct_comm, hone] at hdot
      linarith
    exact (mul_eq_zero.mp hmul).resolve_left hlength.ne'

theorem divideBy_normSq {reference : ℝ} (hr : 0 ≤ reference) {what : Quantity} {x : Mat ℝ n p}
    {t : Vec ℝ n} {l : Vec ℝ p} (hl : x.matrixᵀ *ᵥ t.coords = (t.coords ⬝ᵥ t.coords) • l.coords)
    (hlong : Scalar.zeroNorm * reference < t.coords ⬝ᵥ t.coords) :
    divideBy what (x.applyT t) t.normSq reference = .ok l := by
  rw [Vec.normSq_real]
  exact divideBy_of_smul ((Mat.coords_applyT x t).trans hl) hr (hlong.trans_le (le_abs_self _))

/-- **What is such a step succeeds,** if the image of the kept direction, the share of its loading
along the weight, and the score pass their guards. -/
theorem step_of_deflates {xScale ν : ℝ} (hx : 0 ≤ xScale) {w : Vec ℝ p}
    (hw : w.coords ⬝ᵥ w.coords = 1) {j : ℕ} {x x' : Mat ℝ n p} {c : Component ℝ n p}
    (hunit : c.weight.coords ⬝ᵥ c.weight.coords = 1) (hkept : c.weight.coords ⬝ᵥ w.coords = 0)
    (h : Deflates x.matrix c.weight.coords c.score.coords c.loading.coords x'.matrix)
    (hsq : c.scoreSq = c.score.coords ⬝ᵥ c.score.coords) {t : Vec ℝ n} {l : Vec ℝ p}
    (ht : x.matrix *ᵥ w.coords = t.coords)
    (hl : x.matrixᵀ *ᵥ t.coords = (t.coords ⬝ᵥ t.coords) • l.coords)
    (hleaves : l.coords = w.coords + ν • c.weight.coords) (hν : Scalar.zeroNorm * 1 < ν)
    (hlong : Scalar.zeroNorm * (xScale * xScale) < t.coords ⬝ᵥ t.coords)
    (hlong' : Scalar.zeroNorm * (xScale * xScale) < c.score.coords ⬝ᵥ c.score.coords) :
    step xScale w j x = .ok (c, x') := by
  obtain ⟨weight, score, loading, scoreSq⟩ := c
  have hscale := mul_nonneg hx hx
  have hone : w.coords ⬝ᵥ l.coords = 1 := by
    rw [hleaves, dotProduct_add, hw, dotProduct_smul, dotProduct_comm, hkept, smul_zero, add_zero]
  obtain rfl : (x.apply w).dividedBy w.normSq = t := Vec.coords_injective <| by
    rw [Vec.coords_dividedBy, Vec.normSq_real, hw, inv_one, one_smul, Mat.coords_apply, ht]
  obtain rfl : (x.apply weight).dividedBy weight.normSq = score := Vec.coords_injective <| by
    rw [Vec.coords_dividedBy, Vec.normSq_real, hunit, inv_one, one_smul, Mat.coords_apply, h.score]
  obtain rfl : ((x.apply weight).dividedBy weight.normSq).normSq = scoreSq :=
    (Vec.normSq_real _).trans hsq.symm
  have hresidual : divideBy (.residualLoading j) (x.applyT ((x.apply w).dividedBy w.normSq))
      ((x.apply w).dividedBy w.normSq).normSq (xScale * xScale) = .ok l :=
    divideBy_normSq hscale hl hlong
  have hweight : normalize (.orthogonalWeight j) (l.sub (w.scale (w.dot l / w.normSq))) 1 =
      .ok weight := by
    refine normalize_of_smul ?_ hunit zero_le_one hν
    rw [Vec.coords_sub, Vec.coords_scale, Vec.dot_real, Vec.normSq_real, hw, hone, div_one,
      one_smul, hleaves, add_sub_cancel_left]
  have hloading : divideBy (.orthogonalLoading j)
      (x.applyT ((x.apply weight).dividedBy weight.normSq))
      ((x.apply weight).dividedBy weight.normSq).normSq (xScale * xScale) = .ok loading :=
    divideBy_normSq hscale h.loading.symm hlong'
  unfold step
  simp only [bind, Except.bind, hresidual, hweight, hloading, pure, Except.pure]
  congr 2
  refine Mat.matrix_injective ?_
  rw [Mat.matrix_sub, Mat.matrix_outer, h.residual]

/-- **The direction that an extraction keeps:** it has length one and points along the covariance
of predictors and response, which is not zero. -/
structure Keeps (x : Mat ℝ n p) (y : Vec ℝ n) (w : Vec ℝ p) : Prop where
  covariance : ∃ a : ℝ, 0 < a ∧ x.matrixᵀ *ᵥ y.coords = a • w.coords
  unit : w.coords ⬝ᵥ w.coords = 1

/-- **An extraction that ends well** is a chain of steps that keep that direction. -/
theorem keeps_of_extraction {x x' : Mat ℝ n p} {y : Vec ℝ n} {count : ℕ}
    (h : (extraction x y count).ending = .ok x') :
    ∃ w : Vec ℝ p, Keeps x y w ∧ Chain (Extracts w) x (extraction x y count).components x' ∧
      (extraction x y count).components.length = count := by
  unfold extraction at h ⊢
  cases hw : initialWeight x y with
  | error e =>
    rw [hw] at h
    cases h
  | ok w =>
    rw [hw] at h
    obtain ⟨hlength, hcov, hunit⟩ := normalize_ok (mul_nonneg x.norm_nonneg y.norm_nonneg) hw
    rw [Mat.coords_applyT] at hcov
    exact ⟨w, ⟨⟨_, hlength, hcov⟩, hunit⟩,
      chain_of_extract (fun _ _ _ _ => extracts_of_step x.norm_nonneg hunit) h,
      length_components_extract h⟩

/-- An extraction that ends well is a chain of steps that keep one direction. -/
theorem chain_of_extraction {x x' : Mat ℝ n p} {y : Vec ℝ n} {count : ℕ}
    (h : (extraction x y count).ending = .ok x') :
    (extraction x y count).components.length = count ∧
      ∃ w : Vec ℝ p, Chain (Extracts w) x (extraction x y count).components x' := by
  obtain ⟨w, -, hchain, hlength⟩ := keeps_of_extraction h
  exact ⟨hlength, w, hchain⟩

/-! ## 2. What the removals leave -/

section Chains

variable {w : Vec ℝ p} {x x' x'' : Mat ℝ n p} {c d : Component ℝ n p}
  {cs : List (Component ℝ n p)}

/-- **A weight is orthogonal to what the predictors have lost,** if the direction that is kept is.
-/
theorem Extracts.weight_dot_eq_zero (h : Extracts w x c x') {u : Fin p → ℝ}
    (hu : x.matrix *ᵥ u = 0) (hw : w.coords ⬝ᵥ u = 0) : c.weight.coords ⬝ᵥ u = 0 := by
  obtain ⟨s, ν, hs, hν, himage⟩ := h.image
  have hzero : s * (ν * (c.weight.coords ⬝ᵥ u)) = 0 := by
    have hdot := congrArg (· ⬝ᵥ u) himage
    simp only [mulVec_dotProduct_eq, transpose_transpose, hu, dotProduct_zero,
      smul_dotProduct, add_dotProduct, hw, zero_add, smul_eq_mul] at hdot
    exact hdot.symm
  exact (mul_eq_zero.mp ((mul_eq_zero.mp hzero).resolve_left hs.ne')).resolve_left hν.ne'

/-- **A vector that the predictors have lost** is orthogonal to all loadings that follow, and stays
lost. -/
theorem chain_lost (h : Chain (Extracts w) x cs x') {v : Fin p → ℝ} (hv : x.matrix *ᵥ v = 0) :
    (∀ c ∈ cs, c.loading.coords ⬝ᵥ v = 0) ∧ x'.matrix *ᵥ v = 0 := by
  induction h with
  | nil => exact ⟨fun c hc => absurd hc List.not_mem_nil, hv⟩
  | cons first _ ih =>
    obtain ⟨hmem, hend⟩ := ih (first.deflates.mulVec_eq_zero hv)
    refine ⟨fun d hd => ?_, hend⟩
    rcases List.mem_cons.mp hd with rfl | hd
    · exact first.deflates.loading_dot_eq_zero hv
    · exact hmem d hd

/-- **A vector that explains nothing of the predictors** is orthogonal to all scores that follow,
and explains nothing in the end. -/
theorem chain_unexplained (h : Chain (Extracts w) x cs x') {u : Fin n → ℝ}
    (hu : x.matrixᵀ *ᵥ u = 0) :
    (∀ c ∈ cs, c.score.coords ⬝ᵥ u = 0) ∧ x'.matrixᵀ *ᵥ u = 0 := by
  induction h with
  | nil => exact ⟨fun c hc => absurd hc List.not_mem_nil, hu⟩
  | cons first _ ih =>
    obtain ⟨hmem, hend⟩ := ih (first.deflates.transpose_mulVec_eq_zero hu)
    refine ⟨fun d hd => ?_, hend⟩
    rcases List.mem_cons.mp hd with rfl | hd
    · exact first.deflates.score_dot_eq_zero hu
    · exact hmem d hd

/-- **What the removals leave carries nothing of a score that was removed.** -/
theorem chain_residual (h : Chain (Extracts w) x cs x') :
    x'.matrixᵀ * (scores cs).matrix = 0 := by
  refine Mat.mul_ofCols_eq_zero fun c hc => ?_
  induction h with
  | nil => exact absurd hc List.not_mem_nil
  | cons first rest ih =>
    rcases List.mem_cons.mp hc with rfl | hc
    · exact (chain_unexplained rest first.deflates.transpose_mulVec_score).2
    · exact ih hc

/-! ## 3. The cross terms -/

/-- **A loading is not orthogonal to the next direction.**  Along that direction the image of the
kept direction was nothing before the removal and is positive after it, and what makes the
difference is the product of the two cross terms. -/
theorem loading_dot_weight_neg (first : Extracts w x c x') (second : Extracts w x' d x'') :
    (c.loading.coords ⬝ᵥ w.coords) * (c.loading.coords ⬝ᵥ d.weight.coords) < 0 := by
  obtain ⟨s, ν, -, -, himage⟩ := first.image
  obtain ⟨s', ν', hs', hν', himage'⟩ := second.image
  have hpos : 0 < s' * ν' := mul_pos hs' hν'
  -- the two directions are orthogonal, because the first one is lost
  have hdirections : d.weight.coords ⬝ᵥ c.weight.coords = 0 :=
    second.weight_dot_eq_zero first.deflates.mulVec_weight
      ((dotProduct_comm _ _).trans first.kept)
  have hbefore : d.weight.coords ⬝ᵥ (x.matrixᵀ *ᵥ (x.matrix *ᵥ w.coords)) = 0 := by
    rw [himage, dotProduct_smul, dotProduct_add, dotProduct_smul, second.kept, hdirections,
      smul_zero, add_zero, smul_zero]
  have hafter : d.weight.coords ⬝ᵥ (x'.matrixᵀ *ᵥ (x'.matrix *ᵥ w.coords)) = s' * ν' := by
    rw [himage', dotProduct_smul, dotProduct_add, dotProduct_smul, second.kept, second.unit,
      zero_add, smul_eq_mul, smul_eq_mul, mul_one]
  have hdeflated : x'.matrixᵀ *ᵥ (x'.matrix *ᵥ w.coords) = x.matrixᵀ *ᵥ (x.matrix *ᵥ w.coords) -
      ((c.score.coords ⬝ᵥ c.score.coords) * (c.loading.coords ⬝ᵥ w.coords)) • c.loading.coords := by
    rw [first.deflates.mulVec, mulVec_sub, mulVec_smul, first.deflates.transpose_mulVec_score,
      smul_zero, sub_zero, first.deflates.transpose_mulVec, first.deflates.score_mul_loading_dot]
  have hprod : (c.score.coords ⬝ᵥ c.score.coords) *
      ((c.loading.coords ⬝ᵥ w.coords) * (c.loading.coords ⬝ᵥ d.weight.coords)) = -(s' * ν') := by
    rw [← hafter, hdeflated, dotProduct_sub, hbefore, dotProduct_smul, smul_eq_mul,
      dotProduct_comm d.weight.coords]
    ring
  by_contra hle
  have hnonneg := mul_nonneg first.deflates.score_pos.le (not_lt.mp hle)
  linarith

/-! ## 4. All at once -/

theorem matrix_apply {m : ℕ} (cs : List (Component ℝ n p)) (x : Mat ℝ m p) :
    (apply cs x).matrix = x.matrix - x.matrix * ((weights cs).matrix * (loadings cs).matrixᵀ) := by
  rw [apply, Mat.matrix_sub, Mat.matrix_mulT, Mat.matrix_mul, Matrix.mul_assoc]

theorem apply_nil (x : Mat ℝ n p) : apply ([] : List (Component ℝ n p)) x = x := by
  refine Mat.ext fun i j => ?_
  rw [apply, Mat.get_sub, Mat.get_mulT]
  exact (congrArg _ (Scalar.sum_zero _)).trans (sub_zero _)

/-- The filter of one component more removes it, and the shares of its loading that the others
have. -/
theorem matrix_apply_cons (first : Extracts w x c x') (cs : List (Component ℝ n p)) :
    (apply (c :: cs) x).matrix = (apply cs x').matrix - vecMulVec c.score.coords
      ((loadings cs).matrix *ᵥ ((weights cs).matrixᵀ *ᵥ c.loading.coords)) := by
  have hcons : (weights (c :: cs)).matrix * (loadings (c :: cs)).matrixᵀ =
      vecMulVec c.weight.coords c.loading.coords + (weights cs).matrix * (loadings cs).matrixᵀ :=
    Mat.ofCols_cons_mul_transpose c _
  have hx : x.matrix = x'.matrix + vecMulVec c.score.coords c.loading.coords := by
    rw [first.deflates.residual]
    abel
  have hshare : vecMulVec c.score.coords c.loading.coords *
      ((weights cs).matrix * (loadings cs).matrixᵀ) = vecMulVec c.score.coords
        ((loadings cs).matrix *ᵥ ((weights cs).matrixᵀ *ᵥ c.loading.coords)) := by
    rw [vecMulVec_mul, ← mulVec_transpose, transpose_mul, transpose_transpose, mulVec_mulVec]
  rw [matrix_apply, matrix_apply, hcons, Matrix.mul_add, mul_vecMulVec, ← first.deflates.score,
    ← hshare]
  nth_rewrite 1 2 [hx]
  rw [Matrix.add_mul]
  abel

/-- Filtered rows carry nothing of a score that explained nothing before. -/
theorem apply_transpose_mulVec {u : Fin n → ℝ} (hu : x.matrixᵀ *ᵥ u = 0)
    (cs : List (Component ℝ n p)) : (apply cs x).matrixᵀ *ᵥ u = 0 := by
  rw [matrix_apply, transpose_sub, transpose_mul, sub_mulVec, ← mulVec_mulVec, hu, mulVec_zero,
    sub_zero]

/-- **Of the first score something is left** as soon as there is a second component. -/
theorem apply_transpose_mulVec_score (first : Extracts w x c x') (second : Extracts w x' d x'')
    {x₃ : Mat ℝ n p} (rest : Chain (Extracts w) x'' cs x₃) :
    (apply (c :: d :: cs) x).matrixᵀ *ᵥ c.score.coords ≠ 0 := by
  intro hzero
  set z := (weights (d :: cs)).matrixᵀ *ᵥ c.loading.coords
  have hshare : (loadings (d :: cs)).matrix *ᵥ z = 0 := by
    rw [matrix_apply_cons first, transpose_sub, transpose_vecMulVec, sub_mulVec, vecMulVec_mulVec,
      apply_transpose_mulVec first.deflates.transpose_mulVec_score, zero_sub, neg_eq_zero,
      op_smul_eq_smul] at hzero
    exact (smul_eq_zero.mp hzero).resolve_left first.deflates.score_pos.ne'
  have hlater (u : Fin cs.length → ℝ) : d.weight.coords ⬝ᵥ ((loadings cs).matrix *ᵥ u) = 0 := by
    have hloadings : (loadings cs).matrixᵀ *ᵥ d.weight.coords = 0 :=
      Mat.ofCols_transpose_mulVec_eq_zero (chain_lost rest second.deflates.mulVec_weight).1
    rw [dotProduct_comm, mulVec_dotProduct_eq, hloadings, dotProduct_zero]
  have hcons : (loadings (d :: cs)).matrix *ᵥ z = z ⟨0, Nat.succ_pos _⟩ • d.loading.coords +
      (loadings cs).matrix *ᵥ fun j => z j.succ := Mat.ofCols_cons_mulVec d z
  have hfirst : z ⟨0, Nat.succ_pos _⟩ = d.weight.coords ⬝ᵥ c.loading.coords := by
    simp only [z, weights, Mat.matrix_ofCols]
    rfl
  have hcross : d.weight.coords ⬝ᵥ c.loading.coords = 0 := by
    have hdot := congrArg (fun u => d.weight.coords ⬝ᵥ u) (hcons.symm.trans hshare)
    simp only [dotProduct_add, dotProduct_smul, hlater, dotProduct_zero, add_zero,
      smul_eq_mul] at hdot
    rwa [dotProduct_comm, second.deflates.loading_dot_weight, mul_one, hfirst] at hdot
  have hneg := loading_dot_weight_neg first second
  rw [dotProduct_comm c.loading.coords d.weight.coords, hcross, mul_zero] at hneg
  exact lt_irrefl _ hneg

/-- **The filter and the removals leave the same exactly if there is one component,** and otherwise
the filter leaves something of the scores. -/
theorem chain_apply_eq_iff (h : Chain (Extracts w) x cs x') (hcs : cs ≠ []) :
    (apply cs x = x' ↔ cs.length = 1) ∧
      ((apply cs x).matrixᵀ * (scores cs).matrix = 0 ↔ cs.length = 1) := by
  have hresidual := chain_residual h
  cases h with
  | nil => exact absurd rfl hcs
  | @cons _ x₁ _ c cs first rest =>
    cases rest with
    | nil =>
      have hone : apply [c] x = x' := by
        refine Mat.matrix_injective ?_
        rw [matrix_apply_cons first, apply_nil,
          show (loadings ([] : List (Component ℝ n p))).matrix *ᵥ _ = 0 from
            Mat.ofCols_nil_mulVec _]
        have hnone : vecMulVec c.score.coords (0 : Fin p → ℝ) = 0 :=
          Matrix.ext fun _ _ => mul_zero _
        exact (congrArg (x'.matrix - ·) hnone).trans (sub_zero _)
      rw [hone]
      exact ⟨by simp, by simp [hresidual]⟩
    | @cons _ x₂ _ d cs second rest =>
      have hscore := apply_transpose_mulVec_score first second rest
      have hleft : (apply (c :: d :: cs) x).matrixᵀ * (scores (c :: d :: cs)).matrix ≠ 0 := by
        intro hzero
        refine hscore (funext fun i => ?_)
        have hentry := congrFun (congrFun hzero i) ⟨0, Nat.succ_pos _⟩
        rw [scores, Mat.matrix_ofCols] at hentry
        exact hentry
      have hmore : (c :: d :: cs).length ≠ 1 := by simp
      constructor
      · exact ⟨fun hsame => absurd hresidual (hsame ▸ hleft), fun h => absurd h hmore⟩
      · exact ⟨fun hzero => absurd hzero hleft, fun h => absurd h hmore⟩

end Chains

end PartialLeastSquares.OrthogonalFilter
