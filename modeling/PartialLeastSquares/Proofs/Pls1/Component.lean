/-
# The components of the method with one response, exactly

One step of the loop in `PLS1.fit_state` takes the direction of the covariance of what is left,
deflates the predictors by its score and takes from the response what the score explains
(`Extracts`).  A whole extraction is a chain of such steps, and this file says what a chain leaves
behind.

The chain runs forward, so the induction cannot say that a component is orthogonal to the earlier
ones: they are gone by then.  It says instead that what a state has lost stays lost (`chain_lost`,
`chain_unexplained`).  The first component of a chain is lost to all that follows, and pairwise
orthogonality is read off that.
-/
import Mathlib
import PartialLeastSquares.Method.Pls1
import PartialLeastSquares.Proofs.Chain
import PartialLeastSquares.Proofs.Deflation
import PartialLeastSquares.Proofs.Exact.Columns
import PartialLeastSquares.Proofs.Exact.Guard
import PartialLeastSquares.Proofs.Outcome

namespace PartialLeastSquares.Pls1

open Matrix

variable {n p : ℕ}

/-! ## 1. One step -/

/-- **What a step does, exactly:** the weight has length one and points along the covariance of
predictors and response, which is not zero; the predictors are deflated by its score; and the
response loses its regression on the score, whose coefficient is stored. -/
structure Extracts (r : Residual ℝ n p) (c : Component ℝ n p) (r' : Residual ℝ n p) : Prop where
  covariance : ∃ a : ℝ, 0 < a ∧ r.x.matrixᵀ *ᵥ r.y.coords = a • c.weight.coords
  unit : c.weight.coords ⬝ᵥ c.weight.coords = 1
  deflates : Deflates r.x.matrix c.weight.coords c.score.coords c.loading.coords r'.x.matrix
  coefficient : c.coefficient * (c.score.coords ⬝ᵥ c.score.coords) =
    c.score.coords ⬝ᵥ r.y.coords
  response : r'.y.coords = r.y.coords - c.coefficient • c.score.coords

theorem extracts_of_step {xScale yScale : ℝ} (hx : 0 ≤ xScale) (hy : 0 ≤ yScale) {j : ℕ}
    {r r' : Residual ℝ n p} {c : Component ℝ n p} (h : step xScale yScale j r = .ok (c, r')) :
    Extracts r c r' := by
  unfold step at h
  obtain ⟨weight, hweight, h⟩ := bind_eq_ok_iff.mp h
  obtain ⟨coefficient, hcoefficient, h⟩ := bind_eq_ok_iff.mp h
  obtain ⟨loading, hloading, h⟩ := bind_eq_ok_iff.mp h
  obtain ⟨rfl, rfl⟩ := Prod.mk.inj (Except.ok.inj h)
  obtain ⟨hlength, hcov, hunit⟩ := normalize_ok (mul_nonneg hx hy) hweight
  obtain ⟨hlt, rfl⟩ := quotient_eq_ok_iff.mp hcoefficient
  obtain ⟨-, rfl⟩ := divideBy_eq_ok_iff.mp hloading
  have hscoreSq := ne_zero_of_lt_abs (mul_nonneg hx hx) hlt
  rw [Vec.normSq_real] at hscoreSq
  have hpos : 0 < (r.x.apply weight).coords ⬝ᵥ (r.x.apply weight).coords :=
    lt_of_le_of_ne (Finset.sum_nonneg fun i _ => mul_self_nonneg _) hscoreSq.symm
  refine ⟨⟨_, hlength, ?_⟩, hunit, ⟨?_, hpos, ?_, ?_⟩, ?_, ?_⟩
  · rw [← Mat.coords_applyT]; exact hcov
  · exact Mat.coords_apply _ _
  · rw [Vec.coords_dividedBy, Vec.normSq_real, smul_inv_smul₀ hscoreSq, Mat.coords_applyT]
  · rw [Mat.matrix_sub, Mat.matrix_outer]
  · rw [Vec.dot_real, Vec.normSq_real]
    exact div_mul_cancel₀ _ hscoreSq
  · rw [Vec.coords_sub, Vec.coords_scale]

/-- **What is such a step succeeds,** if the covariance and the score pass their guards. -/
theorem step_of_extracts {xScale yScale a : ℝ} (hx : 0 ≤ xScale) (hy : 0 ≤ yScale) {j : ℕ}
    {r r' : Residual ℝ n p} {c : Component ℝ n p} (h : Extracts r c r')
    (hcov : r.x.matrixᵀ *ᵥ r.y.coords = a • c.weight.coords)
    (ha : Scalar.zeroNorm * (xScale * yScale) < a)
    (hsq : c.scoreSq = c.score.coords ⬝ᵥ c.score.coords)
    (hscoreSq : Scalar.zeroNorm * (xScale * xScale) < c.score.coords ⬝ᵥ c.score.coords) :
    step xScale yScale j r = .ok (c, r') := by
  obtain ⟨weight, score, loading, coefficient, scoreSq⟩ := c
  obtain ⟨x', y'⟩ := r'
  have hpos := h.deflates.score_pos
  have habs : Scalar.zeroNorm * (xScale * xScale) < |score.coords ⬝ᵥ score.coords| := by
    rw [abs_of_pos hpos]; exact hscoreSq
  obtain rfl : r.x.apply weight = score := Vec.coords_injective <| by
    rw [Mat.coords_apply]; exact h.deflates.score.symm
  obtain rfl : (r.x.apply weight).normSq = scoreSq := (Vec.normSq_real _).trans hsq.symm
  obtain rfl : (r.x.applyT (r.x.apply weight)).dividedBy (r.x.apply weight).normSq = loading :=
    Vec.coords_injective <| by
      rw [Vec.coords_dividedBy, Mat.coords_applyT, ← h.deflates.loading, Vec.normSq_real,
        inv_smul_smul₀ hpos.ne']
  obtain rfl : (r.x.apply weight).dot r.y / (r.x.apply weight).normSq = coefficient := by
    rw [Vec.normSq_real, Vec.dot_real, div_eq_iff hpos.ne']
    exact h.coefficient.symm
  rw [← Vec.normSq_real] at habs
  have hweight : normalize (.weight j) (r.x.applyT r.y) (xScale * yScale) = .ok weight :=
    normalize_of_smul ((Mat.coords_applyT _ _).trans hcov) h.unit (mul_nonneg hx hy) ha
  have hcoefficient : quotient (.regressionCoefficient j) ((r.x.apply weight).dot r.y)
      (r.x.apply weight).normSq (xScale * xScale) = .ok _ := quotient_eq_ok_iff.mpr ⟨habs, rfl⟩
  have hloading : divideBy (.loading j) (r.x.applyT (r.x.apply weight))
      (r.x.apply weight).normSq (xScale * xScale) = .ok _ := divideBy_eq_ok_iff.mpr ⟨habs, rfl⟩
  unfold step
  simp only [bind, Except.bind, hweight, hcoefficient, hloading, pure, Except.pure]
  congr 3
  · refine Mat.matrix_injective ?_
    rw [Mat.matrix_sub, Mat.matrix_outer, h.deflates.residual]
  · refine Vec.coords_injective ?_
    rw [Vec.coords_sub, Vec.coords_scale, h.response]

/-- **A step succeeds,** if the covariance and its image pass their guards. -/
theorem exists_step {xScale yScale : ℝ} (hx : 0 ≤ xScale) (hy : 0 ≤ yScale) {j : ℕ}
    {r : Residual ℝ n p} {v : Fin p → ℝ} (hv : r.x.matrixᵀ *ᵥ r.y.coords = v)
    (hcov : Scalar.zeroNorm * (xScale * yScale) < √(v ⬝ᵥ v))
    (hscore : Scalar.zeroNorm * (xScale * xScale) * (v ⬝ᵥ v) <
      (r.x.matrix *ᵥ v) ⬝ᵥ (r.x.matrix *ᵥ v)) :
    ∃ c r', step xScale yScale j r = .ok (c, r') := by
  have hpos : 0 < v ⬝ᵥ v := Real.sqrt_pos.mp <|
    (mul_nonneg Scalar.zeroNorm_pos.le (mul_nonneg hx hy)).trans_lt hcov
  have hnorm : (r.x.applyT r.y).norm = √(v ⬝ᵥ v) := by
    rw [Vec.norm_real, Mat.coords_applyT, hv]
  let weight := (r.x.applyT r.y).dividedBy (r.x.applyT r.y).norm
  have hweight : normalize (.weight j) (r.x.applyT r.y) (xScale * yScale) = .ok weight :=
    normalize_eq_ok_iff.mpr ⟨hnorm.symm ▸ hcov, rfl⟩
  have himage : (r.x.apply weight).normSq =
      ((r.x.matrix *ᵥ v) ⬝ᵥ (r.x.matrix *ᵥ v)) / (v ⬝ᵥ v) := by
    rw [Vec.normSq_real, Mat.coords_apply, Vec.coords_dividedBy, hnorm, Mat.coords_applyT, hv,
      mulVec_smul, smul_dotProduct, dotProduct_smul, smul_smul, smul_eq_mul, ← mul_inv,
      Real.mul_self_sqrt hpos.le, inv_mul_eq_div]
  have hguard : Scalar.zeroNorm * (xScale * xScale) < |(r.x.apply weight).normSq| := by
    rw [himage]
    exact ((lt_div_iff₀ hpos).mpr hscore).trans_le (le_abs_self _)
  exact ⟨_, _, bind_eq_ok_iff.mpr ⟨weight, hweight, bind_eq_ok_iff.mpr
    ⟨_, quotient_eq_ok_iff.mpr ⟨hguard, rfl⟩, bind_eq_ok_iff.mpr
      ⟨_, divideBy_eq_ok_iff.mpr ⟨hguard, rfl⟩, rfl⟩⟩⟩⟩

/-- An extraction that ends well is a chain of such steps. -/
theorem chain_of_extraction {x : Mat ℝ n p} {y : Vec ℝ n} {count : ℕ} {r : Residual ℝ n p}
    (h : (extraction x y count).ending = .ok r) :
    Chain Extracts ⟨x, y⟩ (extraction x y count).components r :=
  chain_of_extract (fun _ _ _ _ => extracts_of_step x.norm_nonneg y.norm_nonneg) h

namespace Extracts

variable {r r' : Residual ℝ n p} {c : Component ℝ n p}

/-- The score covaries with the response as much as the covariance is long. -/
theorem score_dot_eq (h : Extracts r c r') {a : ℝ}
    (hcov : r.x.matrixᵀ *ᵥ r.y.coords = a • c.weight.coords) :
    c.score.coords ⬝ᵥ r.y.coords = a := by
  rw [h.deflates.score, mulVec_dotProduct_eq, hcov, dotProduct_smul, h.unit, smul_eq_mul, mul_one]

/-- **What the weight is regressed by:** the multiple of the covariance whose image explains the
response best. -/
theorem coefficient_smul_weight (h : Extracts r c r') {v : Fin p → ℝ}
    (hv : r.x.matrixᵀ *ᵥ r.y.coords = v) : c.coefficient • c.weight.coords =
      ((v ⬝ᵥ v) / ((r.x.matrix *ᵥ v) ⬝ᵥ (r.x.matrix *ᵥ v))) • v := by
  obtain ⟨a, ha, hcov⟩ := h.covariance
  obtain rfl : v = a • c.weight.coords := hv.symm.trans hcov
  have hcoefficient : c.coefficient * (c.score.coords ⬝ᵥ c.score.coords) = a := by
    rw [h.coefficient, h.score_dot_eq hcov]
  rw [mulVec_smul, ← h.deflates.score, smul_dotProduct, dotProduct_smul, h.unit, smul_dotProduct,
    dotProduct_smul, smul_smul, ← hcoefficient]
  have hpos := h.deflates.score_pos
  congr 1
  simp only [smul_eq_mul]
  field_simp

theorem score_dot_response (h : Extracts r c r') : c.score.coords ⬝ᵥ r'.y.coords = 0 := by
  rw [h.response, dotProduct_sub, dotProduct_smul, smul_eq_mul, h.coefficient, sub_self]

/-- What the weight of a step is worth to a vector that the predictors have lost. -/
theorem weight_dot_eq_zero (h : Extracts r c r') {v : Fin p → ℝ} (hv : r.x.matrix *ᵥ v = 0) :
    c.weight.coords ⬝ᵥ v = 0 := by
  obtain ⟨a, ha, hcov⟩ := h.covariance
  have hmul : a * (c.weight.coords ⬝ᵥ v) = 0 := by
    rw [← smul_eq_mul, ← smul_dotProduct, ← hcov, dotProduct_comm, ← mulVec_dotProduct_eq, hv,
      zero_dotProduct]
  exact (mul_eq_zero.mp hmul).resolve_left ha.ne'

/-- **The coefficient is positive:** the covariance along its own direction is. -/
theorem coefficient_pos (h : Extracts r c r') : 0 < c.coefficient := by
  obtain ⟨a, ha, hcov⟩ := h.covariance
  have hprod : 0 < c.coefficient * (c.score.coords ⬝ᵥ c.score.coords) := by
    rw [h.coefficient, h.score_dot_eq hcov]; exact ha
  exact pos_of_mul_pos_left hprod h.deflates.score_pos.le

/-- **Every step explains some of the response.** -/
theorem response_lt (h : Extracts r c r') :
    r'.y.coords ⬝ᵥ r'.y.coords < r.y.coords ⬝ᵥ r.y.coords := by
  have hsplit : r.y.coords = r'.y.coords + c.coefficient • c.score.coords := by
    rw [h.response]; abel
  have hcross : r'.y.coords ⬝ᵥ c.score.coords = 0 :=
    (dotProduct_comm _ _).trans h.score_dot_response
  have hpos : 0 < c.coefficient * (c.coefficient * (c.score.coords ⬝ᵥ c.score.coords)) :=
    mul_pos h.coefficient_pos (mul_pos h.coefficient_pos h.deflates.score_pos)
  rw [hsplit]
  simp only [add_dotProduct, dotProduct_add, smul_dotProduct, dotProduct_smul, smul_eq_mul,
    hcross, h.score_dot_response]
  linarith

end Extracts

/-! ## 2. What a chain leaves -/

section Chains

variable {r r' : Residual ℝ n p} {cs : List (Component ℝ n p)}

/-- **A vector that the predictors have lost** is orthogonal to all weights and loadings that
follow, and stays lost. -/
theorem chain_lost (h : Chain Extracts r cs r') {v : Fin p → ℝ} (hv : r.x.matrix *ᵥ v = 0) :
    (∀ c ∈ cs, c.weight.coords ⬝ᵥ v = 0 ∧ c.loading.coords ⬝ᵥ v = 0) ∧ r'.x.matrix *ᵥ v = 0 := by
  induction h with
  | nil => exact ⟨fun c hc => absurd hc List.not_mem_nil, hv⟩
  | cons first _ ih =>
    obtain ⟨hmem, hend⟩ := ih (first.deflates.mulVec_eq_zero hv)
    refine ⟨fun d hd => ?_, hend⟩
    rcases List.mem_cons.mp hd with rfl | hd
    · exact ⟨first.weight_dot_eq_zero hv, first.deflates.loading_dot_eq_zero hv⟩
    · exact hmem d hd

/-- **A vector that explains nothing of the predictors** is orthogonal to all scores that follow,
and to what is left of the response if it was to the response. -/
theorem chain_unexplained (h : Chain Extracts r cs r') {u : Fin n → ℝ}
    (hu : r.x.matrixᵀ *ᵥ u = 0) (hy : u ⬝ᵥ r.y.coords = 0) :
    (∀ c ∈ cs, c.score.coords ⬝ᵥ u = 0) ∧ r'.x.matrixᵀ *ᵥ u = 0 ∧ u ⬝ᵥ r'.y.coords = 0 := by
  induction h with
  | nil => exact ⟨fun c hc => absurd hc List.not_mem_nil, hu, hy⟩
  | @cons s s' _ c _ first _ ih =>
    have hscore : c.score.coords ⬝ᵥ u = 0 := first.deflates.score_dot_eq_zero hu
    have hy' : u ⬝ᵥ s'.y.coords = 0 := by
      rw [first.response, dotProduct_sub, hy, dotProduct_smul, dotProduct_comm, hscore, smul_zero,
        sub_zero]
    obtain ⟨hmem, hend⟩ := ih (first.deflates.transpose_mulVec_eq_zero hu) hy'
    refine ⟨fun d hd => ?_, hend⟩
    rcases List.mem_cons.mp hd with rfl | hd
    · exact hscore
    · exact hmem d hd

/-- **The components are orthogonal in pairs:** their weights, their scores, and each loading to
the weights before its own. -/
theorem chain_pairwise (h : Chain Extracts r cs r') :
    cs.Pairwise fun c d => c.weight.coords ⬝ᵥ d.weight.coords = 0 ∧
      c.score.coords ⬝ᵥ d.score.coords = 0 ∧ d.loading.coords ⬝ᵥ c.weight.coords = 0 := by
  induction h with
  | nil => exact List.Pairwise.nil
  | cons first rest ih =>
    refine List.Pairwise.cons (fun d hd => ?_) ih
    obtain ⟨hweight, hloading⟩ := (chain_lost rest first.deflates.mulVec_weight).1 d hd
    have hscore := (chain_unexplained rest first.deflates.transpose_mulVec_score
      first.score_dot_response).1 d hd
    exact ⟨(dotProduct_comm _ _).trans hweight, (dotProduct_comm _ _).trans hscore, hloading⟩

theorem chain_each (h : Chain Extracts r cs r') {c : Component ℝ n p} (hc : c ∈ cs) :
    c.weight.coords ⬝ᵥ c.weight.coords = 1 ∧ 0 < c.score.coords ⬝ᵥ c.score.coords ∧
      c.loading.coords ⬝ᵥ c.weight.coords = 1 ∧ 0 < c.coefficient := by
  induction h with
  | nil => exact absurd hc List.not_mem_nil
  | cons first _ ih =>
    rcases List.mem_cons.mp hc with rfl | hc
    · exact ⟨first.unit, first.deflates.score_pos, first.deflates.loading_dot_weight,
        first.coefficient_pos⟩
    · exact ih hc

/-- **Nothing of a component is left at the end:** its weight has lost its image, and its score
explains nothing of the predictors or of the response. -/
theorem chain_end (h : Chain Extracts r cs r') {c : Component ℝ n p} (hc : c ∈ cs) :
    r'.x.matrix *ᵥ c.weight.coords = 0 ∧ r'.x.matrixᵀ *ᵥ c.score.coords = 0 ∧
      c.score.coords ⬝ᵥ r'.y.coords = 0 := by
  induction h with
  | nil => exact absurd hc List.not_mem_nil
  | cons first rest ih =>
    rcases List.mem_cons.mp hc with rfl | hc
    · exact ⟨(chain_lost rest first.deflates.mulVec_weight).2,
        (chain_unexplained rest first.deflates.transpose_mulVec_score first.score_dot_response).2⟩
    · exact ih hc

/-- **The components and what they leave make up the whole.** -/
theorem chain_split (h : Chain Extracts r cs r') :
    r.x.matrix = r'.x.matrix + (scores cs).matrix * (loadings cs).matrixᵀ ∧
      r.y.coords = r'.y.coords + (scores cs).matrix *ᵥ (coefficients cs).coords := by
  induction h with
  | nil s =>
    refine ⟨?_, ?_⟩
    · ext i j
      exact (add_zero _).symm
    · funext i
      exact (add_zero _).symm
  | @cons s s' s'' c cs first _ ih =>
    obtain ⟨hx, hy⟩ := ih
    refine ⟨?_, ?_⟩
    · have hstep : s.x.matrix = s'.x.matrix + vecMulVec c.score.coords c.loading.coords := by
        rw [first.deflates.residual]; abel
      have hcons : (scores (c :: cs)).matrix * (loadings (c :: cs)).matrixᵀ =
          vecMulVec c.score.coords c.loading.coords +
            (scores cs).matrix * (loadings cs).matrixᵀ :=
        Mat.ofCols_cons_mul_transpose c _
      rw [hstep, hx, hcons]
      abel
    · have hstep : s.y.coords = s'.y.coords + c.coefficient • c.score.coords := by
        rw [first.response]; abel
      have hcons : (scores (c :: cs)).matrix *ᵥ (coefficients (c :: cs)).coords =
          c.coefficient • c.score.coords + (scores cs).matrix *ᵥ (coefficients cs).coords := by
        refine (Mat.ofCols_cons_mulVec c _).trans ?_
        rw [coefficients, coefficients, Vec.coords_ofFn, Vec.coords_ofFn]
        rfl
      rw [hstep, hy, hcons]
      abel

end Chains

end PartialLeastSquares.Pls1
