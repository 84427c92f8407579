/-
# What the components of the method with one response make of the data

A chain of components splits the predictors into scores times loadings and a rest
(`chain_split`).  This file puts together what the matrices of that splitting are: the weights are
orthonormal, the scores orthogonal and not zero, and neither the scores nor the weights find
anything in the rest (`Decomposes`).

The loadings by the weights are the one matrix that is inverted later.  It is upper triangular
because a weight loses its image as soon as it has been used.  That nothing stands beyond the
first superdiagonal has another reason: two covariances in a row differ by a multiple of the
loading between them, so that loading lies in the span of two consecutive weights
(`chain_consecutive`), and all later weights are orthogonal to both.
-/
import Mathlib
import PartialLeastSquares.Proofs.Pls1.Component

namespace PartialLeastSquares.Pls1

open Matrix

variable {n p : ℕ}

/-! ## 1. Unit bidiagonal matrices -/

/-- **A matrix with ones on its diagonal** and nothing else but on the diagonal above it. -/
structure IsUnitBidiagonal {k : ℕ} (M : Matrix (Fin k) (Fin k) ℝ) : Prop where
  diagonal : ∀ i, M i i = 1
  elsewhere : ∀ i j : Fin k, j ≠ i → (j : ℕ) ≠ i + 1 → M i j = 0

theorem IsUnitBidiagonal.det_eq_one {k : ℕ} {M : Matrix (Fin k) (Fin k) ℝ}
    (h : IsUnitBidiagonal M) : M.det = 1 := by
  have hupper : M.IsUpperTriangular := fun i j hij =>
    h.elsewhere i j (ne_of_lt hij) (Nat.ne_of_lt (Nat.lt_succ_of_lt hij))
  rw [det_of_isUpperTriangular hupper]
  exact Finset.prod_eq_one fun i _ => h.diagonal i

/-! ## 2. Two consecutive weights -/

section Steps

variable {r r' r'' : Residual ℝ n p} {c d : Component ℝ n p}

/-- **What a step takes from the covariance** is a multiple of its loading. -/
theorem Extracts.covariance_eq (h : Extracts r c r') :
    r'.x.matrixᵀ *ᵥ r'.y.coords =
      r.x.matrixᵀ *ᵥ r.y.coords - (c.score.coords ⬝ᵥ r.y.coords) • c.loading.coords := by
  rw [h.response, mulVec_sub, mulVec_smul, h.deflates.transpose_mulVec_score, smul_zero, sub_zero,
    h.deflates.transpose_mulVec]

/-- **A loading lies in the span of its own weight and the next.** -/
theorem Extracts.loading_eq (h : Extracts r c r') (h' : Extracts r' d r'') :
    ∃ a : ℝ, 0 < a ∧ c.loading.coords = c.weight.coords - a • d.weight.coords := by
  obtain ⟨a, ha, hcov⟩ := h.covariance
  obtain ⟨b, hb, hcov'⟩ := h'.covariance
  have hloading : a • c.loading.coords = a • c.weight.coords - b • d.weight.coords := by
    have hnext := h.covariance_eq
    rw [h.score_dot_eq hcov, hcov, hcov'] at hnext
    rw [hnext, sub_sub_cancel]
  refine ⟨b / a, div_pos hb ha, ?_⟩
  calc c.loading.coords = a⁻¹ • (a • c.loading.coords) := (inv_smul_smul₀ ha.ne' _).symm
    _ = c.weight.coords - (b / a) • d.weight.coords := by
      rw [hloading, smul_sub, inv_smul_smul₀ ha.ne', smul_smul, inv_mul_eq_div]

end Steps

section Chains

variable {r r' : Residual ℝ n p} {cs : List (Component ℝ n p)}

/-- Every loading of a chain but the last lies in the span of two consecutive weights. -/
theorem chain_consecutive (h : Chain Extracts r cs r') :
    cs.IsChain fun c d => ∃ a : ℝ, 0 < a ∧
      c.loading.coords = c.weight.coords - a • d.weight.coords := by
  induction h with
  | nil => exact .nil
  | cons first rest ih =>
    cases rest with
    | nil => exact .singleton _
    | cons second rest => exact .cons_cons (first.loading_eq second) ih

/-- **The loadings by the weights are unit bidiagonal.** -/
theorem isUnitBidiagonal_of_chain (h : Chain Extracts r cs r') :
    IsUnitBidiagonal ((loadings cs).matrixᵀ * (weights cs).matrix) where
  diagonal i := by
    rw [loadings, weights, Mat.ofCols_transpose_mul_apply]
    exact (chain_each h (List.get_mem _ _)).2.2.1
  elsewhere i j hne hsucc := by
    have hpair := List.pairwise_iff_get.mp (chain_pairwise h)
    rw [loadings, weights, Mat.ofCols_transpose_mul_apply]
    rcases lt_or_gt_of_ne hne with hji | hij
    · exact (hpair j i hji).2.2
    · -- Both weights that span the loading come before the weight of column `j`.
      have hlt : (i : ℕ) + 1 < j := lt_of_le_of_ne hij hsucc.symm
      obtain ⟨a, -, hloading⟩ :=
        List.isChain_iff_getElem.mp (chain_consecutive h) i (hlt.trans j.isLt)
      have hself : (cs.get i).weight.coords ⬝ᵥ (cs.get j).weight.coords = 0 := (hpair i j hij).1
      have hnext : (cs.get ⟨i + 1, hlt.trans j.isLt⟩).weight.coords ⬝ᵥ
          (cs.get j).weight.coords = 0 := (hpair ⟨i + 1, _⟩ j hlt).1
      calc (cs.get i).loading.coords ⬝ᵥ (cs.get j).weight.coords
          = ((cs.get i).weight.coords - a • (cs.get ⟨i + 1, hlt.trans j.isLt⟩).weight.coords) ⬝ᵥ
              (cs.get j).weight.coords := congrArg (· ⬝ᵥ _) hloading
        _ = 0 := by rw [sub_dotProduct, smul_dotProduct, hself, hnext, smul_zero, sub_zero]

end Chains

/-! ## 3. The decomposition -/

/-- **How weights, loadings, scores and coefficients decompose predictors and a response.** The
weights are orthonormal, no score is zero and two of them are orthogonal, and every coefficient is
positive.  The loadings by the weights are bidiagonal with ones on the diagonal, and so never
singular.  The scores explain nothing more of the predictors, the weights find nothing in what is
left of them, and the scores explain nothing more of the response. -/
structure Decomposes {k : ℕ} (X : Matrix (Fin n) (Fin p) ℝ) (y : Fin n → ℝ)
    (W P : Matrix (Fin p) (Fin k) ℝ) (T : Matrix (Fin n) (Fin k) ℝ) (b : Fin k → ℝ) : Prop where
  weights : Wᵀ * W = 1
  scores_ne_zero : ∀ j, T.col j ≠ 0
  scores_orthogonal : ∀ i j, i ≠ j → T.col i ⬝ᵥ T.col j = 0
  coefficients_pos : ∀ j, 0 < b j
  bidiagonal : IsUnitBidiagonal (Pᵀ * W)
  det_eq_one : (Pᵀ * W).det = 1
  scores_mul_rest : Tᵀ * (X - T * Pᵀ) = 0
  rest_mul_weights : (X - T * Pᵀ) * W = 0
  scores_mulVec_rest : Tᵀ *ᵥ (y - T *ᵥ b) = 0

/-- **A chain decomposes what it starts from.** -/
theorem decomposes_of_chain {r r' : Residual ℝ n p} {cs : List (Component ℝ n p)}
    (h : Chain Extracts r cs r') :
    Decomposes r.x.matrix r.y.coords (weights cs).matrix (loadings cs).matrix (scores cs).matrix
      (coefficients cs).coords := by
  have hcol : ∀ j, (scores cs).matrix.col j = (cs.get j).score.coords := fun j =>
    funext fun i => Mat.matrix_ofCols_apply i j
  have hx : r.x.matrix - (scores cs).matrix * (loadings cs).matrixᵀ = r'.x.matrix :=
    sub_eq_iff_eq_add.mpr (chain_split h).1
  have hy : r.y.coords - (scores cs).matrix *ᵥ (coefficients cs).coords = r'.y.coords :=
    sub_eq_iff_eq_add.mpr (chain_split h).2
  have hpair := List.pairwise_iff_get.mp (chain_pairwise h)
  refine ⟨?_, fun j hj => ?_, fun i j hij => ?_, fun j => ?_, isUnitBidiagonal_of_chain h,
    (isUnitBidiagonal_of_chain h).det_eq_one, ?_, ?_, ?_⟩
  · rw [Pls1.weights, Mat.ofCols_gram_eq_diagonal ((chain_pairwise h).imp fun hcd => hcd.1),
      diagonal_eq_one]
    exact funext fun j => (chain_each h (List.get_mem _ _)).1
  · have hpos := (chain_each h (List.get_mem cs j)).2.1
    rw [← hcol j, hj, dotProduct_zero] at hpos
    exact lt_irrefl _ hpos
  · rw [hcol, hcol]
    rcases lt_or_gt_of_ne hij with hij | hji
    · exact (hpair i j hij).2.1
    · exact (dotProduct_comm _ _).trans (hpair j i hji).2.1
  · rw [coefficients, Vec.coords_ofFn]
    exact (chain_each h (List.get_mem _ _)).2.2.2
  · have hlost : r'.x.matrixᵀ * (scores cs).matrix = 0 :=
      Mat.mul_ofCols_eq_zero fun _ hc => (chain_end h hc).2.1
    rw [hx, ← transpose_transpose r'.x.matrix, ← transpose_mul, hlost, transpose_zero]
  · rw [hx]
    exact Mat.mul_ofCols_eq_zero fun _ hc => (chain_end h hc).1
  · rw [hy]
    exact Mat.ofCols_transpose_mulVec_eq_zero fun _ hc => (chain_end h hc).2.2

/-- **The components decompose the data.**  An extraction that ends well has as many components as
were asked for, and their matrices decompose predictors and response; what the loop is left
with is what they leave. -/
theorem extraction_decomposes (x : Mat ℝ n p) (y : Vec ℝ n) (k : ℕ)
    (cs : List (Component ℝ n p)) (r : Residual ℝ n p) (h : extraction x y k = ⟨cs, .ok r⟩) :
    cs.length = k ∧
      Decomposes x.matrix y.coords (weights cs).matrix (loadings cs).matrix (scores cs).matrix
        (coefficients cs).coords ∧
      r.x.matrix = x.matrix - (scores cs).matrix * (loadings cs).matrixᵀ ∧
      r.y.coords = y.coords - (scores cs).matrix *ᵥ (coefficients cs).coords := by
  have hending : (extraction x y k).ending = .ok r := by rw [h]
  have hlength : (extraction x y k).components.length = k := length_components_extract hending
  have hchain := chain_of_extraction hending
  rw [h] at hlength hchain
  obtain ⟨hx, hy⟩ := chain_split hchain
  exact ⟨hlength, decomposes_of_chain hchain, (sub_eq_iff_eq_add.mpr hx).symm,
    (sub_eq_iff_eq_add.mpr hy).symm⟩

/-! ## 4. Three components of three predictors -/

namespace ThreeComponents

noncomputable def x : Mat ℝ 3 3 := Mat.ofRat !![1, -1, 0; 0, 1, -1; 0, 0, 1]

noncomputable def y : Vec ℝ 3 := Vec.ofRat ![1, 1, 1]

/-- What is left after `j` components: the rows from `j` on. -/
noncomputable def left (j : ℕ) : Residual ℝ 3 3 :=
  ⟨Mat.ofFn fun i l => if j ≤ i then x.get i l else 0,
    Vec.ofFn fun i => if j ≤ i then y.get i else 0⟩

/-- Component `j`: its weight and its score pick the predictor and the row of its number. -/
noncomputable def component (j : Fin 3) : Component ℝ 3 3 :=
  ⟨Vec.ofFn (Pi.single j 1), Vec.ofFn (Pi.single j 1), Vec.ofFn fun l => x.get j l, 1, 1⟩

noncomputable def components : List (Component ℝ 3 3) := [component 0, component 1, component 2]

theorem left_zero : left 0 = ⟨x, y⟩ := rfl

theorem covariance (j : Fin 3) : (left j).x.matrixᵀ *ᵥ (left j).y.coords =
    (1 : ℝ) • (component j).weight.coords := by
  funext l
  fin_cases j <;> fin_cases l <;>
    simp [left, component, x, y, mulVec, dotProduct, Fin.sum_univ_succ]

theorem extracts (j : Fin 3) : Extracts (left j) (component j) (left (j + 1)) where
  covariance := ⟨1, one_pos, covariance j⟩
  unit := by simp [component]
  deflates := by
    refine ⟨?_, ?_, ?_, ?_⟩
    · funext i
      fin_cases j <;> fin_cases i <;>
        simp [left, component, x, mulVec, dotProduct, Fin.sum_univ_succ]
    · simp [component]
    · funext l
      fin_cases j <;> fin_cases l <;>
        simp [left, component, x, mulVec, dotProduct, Fin.sum_univ_succ]
    · ext i l
      fin_cases j <;> fin_cases i <;> fin_cases l <;>
        simp [left, component, x, vecMulVec]
  coefficient := by
    fin_cases j <;> simp [left, component, y, dotProduct, Fin.sum_univ_succ]
  response := by
    funext i
    fin_cases j <;> fin_cases i <;> simp [left, component, y]

theorem norm_x_le : x.norm ≤ 3 := by
  rw [Mat.norm_real]
  refine Real.sqrt_le_iff.mpr ⟨by norm_num, ?_⟩
  simp [x, dotProduct, Fin.sum_univ_succ]
  norm_num

theorem norm_y_le : y.norm ≤ 2 := by
  rw [Vec.norm_real]
  refine Real.sqrt_le_iff.mpr ⟨by norm_num, ?_⟩
  simp [y, dotProduct, Fin.sum_univ_succ]
  norm_num

theorem step_left (j : Fin 3) :
    step x.norm y.norm j (left j) = .ok (component j, left (j + 1)) := by
  have hx := norm_x_le
  have hy := norm_y_le
  have hx₀ := x.norm_nonneg
  have hy₀ := y.norm_nonneg
  have hscore : (component j).score.coords ⬝ᵥ (component j).score.coords = 1 := by simp [component]
  refine step_of_extracts hx₀ hy₀ (extracts j) (covariance j) ?_ hscore.symm ?_
  · exact Scalar.zeroNorm_mul_lt (by nlinarith)
  · exact Scalar.zeroNorm_mul_lt (by rw [hscore]; nlinarith)

theorem extraction_three :
    extraction x y 3 = ⟨components, .ok (left 3)⟩ := by
  have first : step x.norm y.norm 0 (left 0) = .ok (component 0, left 1) := step_left 0
  have second : step x.norm y.norm 1 (left 1) = .ok (component 1, left 2) := step_left 1
  have third : step x.norm y.norm 2 (left 2) = .ok (component 2, left 3) := step_left 2
  rw [extraction, ← left_zero, extract_succ_ok first, extract_succ_ok second,
    extract_succ_ok third, extract_zero, components]

end ThreeComponents

open ThreeComponents in
/-- Three components, the fewest whose loadings by the weights have a place above the two
diagonals. -/
theorem extraction_decomposes_three :
    extraction x y 3 = ⟨components, .ok (left 3)⟩ ∧
      Decomposes x.matrix y.coords (weights components).matrix (loadings components).matrix
        (scores components).matrix (coefficients components).coords :=
  ⟨extraction_three, (extraction_decomposes x y 3 _ _ extraction_three).2.1⟩

end PartialLeastSquares.Pls1
