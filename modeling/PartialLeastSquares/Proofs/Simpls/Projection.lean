/-
# What the method from cross-products fits

The method never forms a score.  It deflates the cross-product of the predictors and projects that
with the response, and its loadings are read off those.  All the same its scores are orthonormal,
its loadings are the ones that the whole data would give, and what it fits to the training rows is
the orthogonal projection of the response onto the scores (`trainSimpls_projects`).

Three facts on the chain carry this: a weight gives a score of length one (`chain_each`), a later
score has nothing of an earlier one (`chain_pairwise`), and on the weights the deflated
cross-product is the whole one (`chain_loading`).  The sign of the eigenvector is in none of them.
-/
import Mathlib
import PartialLeastSquares.Proofs.Exact.Tools
import PartialLeastSquares.Proofs.Model.Training
import PartialLeastSquares.Proofs.Projector
import PartialLeastSquares.Proofs.Simpls.Agreement

namespace PartialLeastSquares.Simpls

open Matrix

variable {n p : ℕ}

/-! ## 1. Fits that keep all coefficients -/

/-- **What a fit makes of its training data:** of the predictors as the method sees them, and of
the one response.  The scores are the predictors times the weights as they were extracted, and are
orthonormal; the loadings are those of the whole data; and the fitted values are what the
orthogonal projector onto the scores finds in the response. -/
structure Fit.Projects (f : Fit ℝ p) (x : Mat ℝ n p) (y : Vec ℝ n) : Prop where
  transform : f.transform x = x.mul (weights f.components)
  orthonormal : (f.transform x).matrixᵀ * (f.transform x).matrix = 1
  loadings : (loadings f.components).matrix = x.matrixᵀ * (f.transform x).matrix
  responseLoadings : (responseLoadings f.components).coords =
    (f.transform x).matrixᵀ *ᵥ y.coords
  predict : (f.predict x).coords =
    ((f.transform x).matrix * (f.transform x).matrixᵀ) *ᵥ y.coords
  projector : ProjectsOnto ((f.transform x).matrix * (f.transform x).matrixᵀ)
    (f.transform x).matrix

section Chains

variable {x : Mat ℝ n p} {y : Vec ℝ n} {cs : List (Component ℝ p)} {r : Cross ℝ p}

theorem matrix_loadings (h : Chain Extracts (Cross.start x y) cs r) :
    (loadings cs).matrix = x.matrixᵀ * (x.matrix * (weights cs).matrix) := by
  ext i j
  rw [loadings, Mat.matrix_ofCols_apply, chain_loading h (tracks_start x y) _ (List.get_mem _ _),
    ← matrix_scores, scores, Mat.matrix_ofCols, ← Mat.coords_apply]
  rfl

/-- **The components of a chain, all coefficients kept, project.** -/
theorem projects_of_chain (h : Chain Extracts (Cross.start x y) cs r) :
    Fit.Projects ⟨cs, weights cs⟩ x y := by
  have hscores : (x.mul (weights cs)).matrix = (scores x cs).matrix :=
    (Mat.matrix_mul _ _).trans (matrix_scores x cs).symm
  have horthonormal := scores_transpose_mul h
  have hresponse := scores_transpose_mulVec h
  rw [← hscores] at horthonormal hresponse
  refine ⟨rfl, horthonormal, ?_, hresponse.symm, ?_, projectsOnto_of_orthonormal horthonormal⟩
  · rw [matrix_loadings h, Fit.transform, Mat.matrix_mul]
  · show (x.apply ((weights cs).apply (responseLoadings cs))).coords =
      ((x.mul (weights cs)).matrix * (x.mul (weights cs)).matrixᵀ) *ᵥ y.coords
    rw [← mulVec_mulVec, hresponse, Mat.coords_apply, Mat.coords_apply, Mat.matrix_mul,
      mulVec_mulVec]

end Chains

/-! ## 2. Two rows -/

namespace TwoRows

noncomputable def x : Mat ℝ 2 2 := Mat.ofRat !![4, 3; 0, 1]

noncomputable def y : Vec ℝ 2 := Vec.ofRat ![1, -3]

noncomputable def envelope : Envelope ℝ 2 1 := (⟨2, .none⟩ : Plan).envelope true x (Mat.ofCol y)

theorem norm_x_le : x.norm ≤ 6 := by
  rw [Mat.norm_real, Real.sqrt_le_left (by norm_num)]
  simp [x, dotProduct, Fin.sum_univ_succ]
  norm_num

theorem norm_y_le : y.norm ≤ 4 := by
  rw [Vec.norm_real, Real.sqrt_le_left (by norm_num)]
  simp [y, dotProduct, Fin.sum_univ_succ]
  norm_num

/-- A magnitude that is not tiny passes every guard of this data. -/
theorem guards {t : ℝ} (ht : 1 / 2 < t) : Scalar.zeroNorm * (x.norm * y.norm) < t ∧
    Scalar.zeroNorm * (x.norm * x.norm) < t ∧ Scalar.zeroNorm * x.norm < t := by
  have hx := x.norm_nonneg
  have hy := y.norm_nonneg
  have hx' := norm_x_le
  have hy' := norm_y_le
  exact ⟨Scalar.zeroNorm_mul_lt (by nlinarith), Scalar.zeroNorm_mul_lt (by nlinarith),
    Scalar.zeroNorm_mul_lt (by linarith)⟩

theorem start_response : (Cross.start x y).response.coords = (4 : ℝ) • ![1, 0] := by
  rw [Cross.start, Mat.coords_applyT]
  funext i
  fin_cases i <;> simp [x, y, mulVec, dotProduct]

theorem start_predictors : (Cross.start x y).predictors.matrix = !![16, 12; 12, 10] := by
  rw [Cross.start, Mat.matrix_tmul]
  ext i j
  fin_cases i <;> fin_cases j <;> simp [x, mul_apply] <;> norm_num

theorem start_projector : (Cross.start x y).projector.matrix = 1 := Mat.matrix_identity

/-- **Both components are found,** with any exact tools. -/
theorem exists_extraction {tools : Toolkit ℝ} (ht : tools.Exact) :
    ∃ r, (extraction tools x y 2).ending = .ok r := by
  have hpredictors : !![16, 12; 12, 10] *ᵥ ![(1 : ℝ), 0] = (20 : ℝ) • ![4 / 5, 3 / 5] := by
    funext i
    fin_cases i <;> simp <;> norm_num
  obtain ⟨c, r, hfirst, hresponse, hmetric, hprojector⟩ := exists_step (l := 4) (b := 5)
    (v := ![4 / 5, 3 / 5]) ht x.norm_nonneg y.norm_nonneg 0 (by simp) start_response
    (guards (by norm_num)).1 (by norm_num)
    (by rw [start_predictors, hpredictors]; simp [dotProduct]; norm_num)
    (guards (by norm_num)).2.1 (by simp [dotProduct]; norm_num)
    (by rw [start_projector, start_predictors, hpredictors, one_mulVec]; norm_num)
    (guards (by norm_num)).2.2
  rw [start_predictors, hpredictors] at hmetric
  rw [start_projector] at hprojector hresponse
  rw [start_response] at hresponse
  have hcovariance : r.response.coords = (12 / 5 : ℝ) • ![3 / 5, -4 / 5] := by
    rw [hresponse]
    funext i
    fin_cases i <;> simp [sub_mulVec] <;> norm_num
  have himage : r.predictors.matrix *ᵥ ![3 / 5, -4 / 5] = ![0, -4 / 5] := by
    rw [hmetric]
    funext i
    fin_cases i <;> simp [mulVec, dotProduct] <;> norm_num
  obtain ⟨c', r', hsecond, -⟩ := exists_step (l := 4 / 5) (b := 4 / 5)
    (v := ![3 / 5, -4 / 5]) ht x.norm_nonneg y.norm_nonneg 1 (by simp [dotProduct]; norm_num)
    hcovariance (guards (by norm_num)).1 (by norm_num)
    (by rw [himage]; simp [dotProduct]; norm_num) (guards (by norm_num)).2.1
    (by simp [dotProduct]; norm_num)
    (by
      rw [himage, hprojector]
      funext i
      fin_cases i <;> simp [sub_mulVec] <;> norm_num)
    (guards (by norm_num)).2.2
  refine ⟨r', ?_⟩
  rw [extraction, extract_succ_ok hfirst, extract_succ_ok hsecond, extract_zero]

end TwoRows

end PartialLeastSquares.Simpls

/-! ## 3. Training -/

namespace PartialLeastSquares

variable {n p : ℕ}

/-- **Training from cross-products, all coefficients kept.**  With exact tools, whatever the signs
of their eigenvectors, a training that succeeds has found as many components as it was asked for;
its scores are orthonormal; its loadings, though they come from deflated cross-products, are those
of the whole data; and it fits the orthogonal projection of the response onto the scores. -/
theorem trainSimpls_projects {tools : Toolkit ℝ} (ht : tools.Exact) (count : ℕ)
    (env : Envelope ℝ p 1) (x : Mat ℝ n p) (y : Mat ℝ n 1) (f : Fitted ℝ n p 1)
    (h : (trainSimpls tools (.int 0) count env x y).outcome = .ok f) :
    ∃ fit : Simpls.Fit ℝ p, f = .simpls env fit ∧ fit.components.length = count ∧
      fit.Projects x y.only := by
  obtain ⟨r, number, fit, hend, hnumber, hfit, rfl⟩ := trainSimpls_eq_ok_iff.mp h
  obtain rfl : Number.whole 0 = number := Except.ok.inj hnumber
  obtain rfl := Option.some.inj ((Simpls.fit_keep_zero _).symm.trans hfit)
  exact ⟨_, rfl, length_components_extract hend,
    Simpls.projects_of_chain (Simpls.chain_of_extraction ht hend)⟩

open Simpls in
/-- Two components of two rows, all of whose responses they fit. -/
theorem trainSimpls_projects_two_rows : ∃ f fit,
    (trainSimpls FourRows.tools (.int 0) 2 TwoRows.envelope TwoRows.x
      (Mat.ofCol TwoRows.y)).outcome = .ok f ∧
      f = .simpls TwoRows.envelope fit ∧ fit.components.length = 2 ∧
        fit.Projects TwoRows.x TwoRows.y := by
  obtain ⟨r, hr⟩ := TwoRows.exists_extraction FourRows.tools_exact
  have hend : (extraction FourRows.tools TwoRows.x (Mat.ofCol TwoRows.y).only 2).ending = .ok r := by
    rw [Mat.only_ofCol]
    exact hr
  have htrain : (trainSimpls FourRows.tools (.int 0) 2 TwoRows.envelope TwoRows.x
      (Mat.ofCol TwoRows.y)).outcome = .ok (.simpls TwoRows.envelope _) :=
    trainSimpls_eq_ok_iff.mpr ⟨r, .whole 0, _, hend, rfl, fit_keep_zero _, rfl⟩
  obtain ⟨fit, hf, hcount, hprojects⟩ := trainSimpls_projects FourRows.tools_exact 2
    TwoRows.envelope TwoRows.x (Mat.ofCol TwoRows.y) _ htrain
  rw [Mat.only_ofCol] at hprojects
  exact ⟨_, fit, htrain, hf, hcount, hprojects⟩

end PartialLeastSquares
