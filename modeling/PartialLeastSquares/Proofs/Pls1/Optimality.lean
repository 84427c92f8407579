/-
# Optimality of the method with one response

The regression vector of a fit with `k` components is the one vector of the Krylov space of `k`
dimensions that leaves least of the response.  Since one component more takes something from what
is left, a longer fit always leaves strictly less on the training rows.
-/
import Mathlib
import PartialLeastSquares.Proofs.Exact.Tools
import PartialLeastSquares.Proofs.Pls1.Regression

namespace PartialLeastSquares.Pls1

open Matrix

open scoped Matrix.Norms.L2Operator

variable {n p : ℕ}

/-! ## 1. What a longer fit leaves -/

theorem norm_lt_norm {u v : Vec ℝ n} (h : u.coords ⬝ᵥ u.coords < v.coords ⬝ᵥ v.coords) :
    u.norm < v.norm := by
  rw [Vec.norm_real, Vec.norm_real]
  exact Real.sqrt_lt_sqrt (Finset.sum_nonneg fun i _ => mul_self_nonneg _) h

/-- **One component more leaves less of the response.** -/
theorem response_lt_of_succ {x : Mat ℝ n p} {y : Vec ℝ n} {k : ℕ} {r r' : Residual ℝ n p}
    (h : (extraction x y k).ending = .ok r) (h' : (extraction x y (k + 1)).ending = .ok r') :
    r'.y.coords ⬝ᵥ r'.y.coords < r.y.coords ⬝ᵥ r.y.coords := by
  obtain ⟨c, s, hs, hstep⟩ := ending_extract_succ_iff.mp h'
  obtain rfl : r = s := Except.ok.inj (h.symm.trans hs)
  exact (extracts_of_step x.norm_nonneg y.norm_nonneg hstep).response_lt

/-- What a fit leaves of the training responses is what its extraction leaves. -/
theorem residual_of_fit {tools : Toolkit ℝ} (ht : tools.ExactInverse) {x : Mat ℝ n p} {y : Vec ℝ n}
    {k : ℕ} {f : Fit ℝ n p} (h : fit tools (extraction x y k) = .ok f) :
    ∃ r, (extraction x y k).ending = .ok r ∧ (y.sub (x.apply f.regression)).coords = r.y.coords := by
  obtain ⟨r, hend, hchain, -, hregression⟩ := chain_of_fit h
  refine ⟨r, hend, ?_⟩
  rw [Vec.coords_sub, Mat.coords_apply]
  exact (regression_of_chain ht hchain hregression).2

/-! ## 2. Two components of two predictors -/

namespace TwoComponents

noncomputable def x : Mat ℝ 2 2 := Mat.ofRat !![1, 0; 0, 2]

noncomputable def y : Vec ℝ 2 := Vec.ofRat ![3, 2]

noncomputable def first : Component ℝ 2 2 :=
  ⟨Vec.ofRat ![3 / 5, 4 / 5], Vec.ofRat ![3 / 5, 8 / 5], Vec.ofRat ![15 / 73, 80 / 73],
    (125 / 73 : ℚ), (73 / 25 : ℚ)⟩

noncomputable def between : Residual ℝ 2 2 :=
  ⟨Mat.ofRat !![64 / 73, -48 / 73; -24 / 73, 18 / 73], Vec.ofRat ![144 / 73, -54 / 73]⟩

noncomputable def second : Component ℝ 2 2 :=
  ⟨Vec.ofRat ![4 / 5, -3 / 5], Vec.ofRat ![80 / 73, -30 / 73], Vec.ofRat ![4 / 5, -3 / 5],
    (9 / 5 : ℚ), (100 / 73 : ℚ)⟩

noncomputable def rest : Residual ℝ 2 2 := ⟨Mat.ofMatrix 0, Vec.ofFn 0⟩

theorem covariance_first : x.matrixᵀ *ᵥ y.coords = (5 : ℝ) • first.weight.coords := by
  funext i
  fin_cases i <;> simp [x, y, first, mulVec, dotProduct] <;> norm_num

theorem covariance_second :
    between.x.matrixᵀ *ᵥ between.y.coords = (180 / 73 : ℝ) • second.weight.coords := by
  funext i
  fin_cases i <;> simp [between, second, mulVec, dotProduct] <;> norm_num

theorem extracts_first : Extracts ⟨x, y⟩ first between where
  covariance := ⟨5, by norm_num, covariance_first⟩
  unit := by simp [first, dotProduct]; norm_num
  deflates := by
    refine ⟨?_, ?_, ?_, ?_⟩
    · funext i
      fin_cases i
      · simp [x, first, mulVec, dotProduct]
      · simp [x, first, mulVec, dotProduct]; norm_num
    · simp [first, dotProduct]; norm_num
    · funext i
      fin_cases i <;> simp [x, first, mulVec, dotProduct] <;> norm_num
    · ext i j
      fin_cases i <;> fin_cases j <;> simp [x, first, between, vecMulVec] <;> norm_num
  coefficient := by simp [y, first, dotProduct]; norm_num
  response := by
    funext i
    fin_cases i <;> simp [y, first, between] <;> norm_num

theorem extracts_second : Extracts between second rest where
  covariance := ⟨180 / 73, by norm_num, covariance_second⟩
  unit := by simp [second, dotProduct]; norm_num
  deflates := by
    refine ⟨?_, ?_, ?_, ?_⟩
    · funext i
      fin_cases i <;> simp [between, second, mulVec, dotProduct] <;> norm_num
    · simp [second, dotProduct]; norm_num
    · funext i
      fin_cases i <;> simp [between, second, mulVec, dotProduct] <;> norm_num
    · ext i j
      fin_cases i <;> fin_cases j <;> simp [between, second, rest, vecMulVec] <;> norm_num
  coefficient := by simp [between, second, dotProduct]; norm_num
  response := by
    funext i
    fin_cases i <;> simp [between, second, rest] <;> norm_num

theorem norm_x_le : x.norm ≤ 3 := by
  rw [Mat.norm_real]
  refine Real.sqrt_le_iff.mpr ⟨by norm_num, ?_⟩
  simp [x, dotProduct, Fin.sum_univ_succ]
  norm_num

theorem norm_y_le : y.norm ≤ 4 := by
  rw [Vec.norm_real]
  refine Real.sqrt_le_iff.mpr ⟨by norm_num, ?_⟩
  simp [y, dotProduct]
  norm_num

theorem step_first : step x.norm y.norm 0 ⟨x, y⟩ = .ok (first, between) := by
  have hx := norm_x_le
  have hy := norm_y_le
  have hx₀ := x.norm_nonneg
  have hy₀ := y.norm_nonneg
  refine step_of_extracts hx₀ hy₀ extracts_first covariance_first ?_ ?_ ?_
  · exact Scalar.zeroNorm_mul_lt (by nlinarith)
  · simp [first, dotProduct]; norm_num
  · refine Scalar.zeroNorm_mul_lt ?_
    simp only [first, dotProduct, Fin.sum_univ_two]
    norm_num
    nlinarith

theorem step_second : step x.norm y.norm 1 between = .ok (second, rest) := by
  have hx := norm_x_le
  have hy := norm_y_le
  have hx₀ := x.norm_nonneg
  have hy₀ := y.norm_nonneg
  refine step_of_extracts hx₀ hy₀ extracts_second covariance_second ?_ ?_ ?_
  · exact Scalar.zeroNorm_mul_lt (by nlinarith)
  · simp [second, dotProduct]; norm_num
  · refine Scalar.zeroNorm_mul_lt ?_
    simp only [second, dotProduct, Fin.sum_univ_two]
    norm_num
    nlinarith

theorem extraction_one : extraction x y 1 = ⟨[first], .ok between⟩ := by
  rw [extraction, extract_succ_ok step_first, extract_zero]

theorem extraction_two : extraction x y 2 = ⟨[first, second], .ok rest⟩ := by
  rw [extraction, extract_succ_ok step_first, extract_succ_ok step_second, extract_zero]

variable {start : (n seed : ℕ) → Vec ℝ n}

noncomputable def short : Fit ℝ 2 2 := ⟨[first], Vec.ofRat ![75 / 73, 100 / 73]⟩

noncomputable def long : Fit ℝ 2 2 := ⟨[first, second], Vec.ofRat ![3, 1]⟩

theorem fit_short : fit (.exact start) (extraction x y 1) = .ok short := by
  rw [extraction_one]
  refine fit_of_one ?_ (funext fun i => ?_)
  · simp [first, dotProduct]
    norm_num
  · fin_cases i <;> simp [first] <;> norm_num

noncomputable def inner : Mat ℝ [first, second].length [first, second].length :=
  Mat.ofRat !![1, 36 / 73; 0, 1]

theorem matrix_inner : inner.matrix = !![1, 36 / 73; 0, 1] := by
  rw [inner, Mat.matrix_ofRat]
  ext i j
  fin_cases i <;> fin_cases j <;> simp

theorem loadings_mul_weights :
    (Mat.tmul (loadings [first, second]) (weights [first, second])).matrix =
      !![1, -(36 / 73); 0, 1] := by
  rw [Mat.matrix_tmul, loadings, weights]
  ext i j
  fin_cases i <;> fin_cases j <;> rw [Mat.ofCols_transpose_mul_apply] <;>
    simp [first, second, dotProduct] <;> norm_num

theorem invert_loadings_mul_weights :
    invert (.exact start) .loadingsByWeights (Mat.tmul (loadings [first, second])
      (weights [first, second])) = .ok inner := by
  have hleft : ‖!![1, -(36 / 73 : ℝ); 0, 1]‖ ≤ 2 := by
    refine (Toolkit.norm_shear_le _).trans ?_
    rw [abs_neg, abs_of_pos] <;> norm_num
  have hright : ‖!![1, (36 / 73 : ℝ); 0, 1]‖ ≤ 2 := by
    refine (Toolkit.norm_shear_le _).trans ?_
    rw [abs_of_pos] <;> norm_num
  have hcond : ‖!![1, -(36 / 73 : ℝ); 0, 1]‖ * ‖!![1, (36 / 73 : ℝ); 0, 1]‖ ≤
      Scalar.conditionLimit := by
    refine (mul_le_mul hleft hright (norm_nonneg _) zero_le_two).trans ?_
    rw [Scalar.conditionLimit_real]
    norm_num
  refine Toolkit.invert_exact ?_ ?_
  · rw [loadings_mul_weights, matrix_inner]
    ext i j
    fin_cases i <;> fin_cases j <;> simp [mul_apply]
  · rw [loadings_mul_weights, matrix_inner]
    exact hcond

theorem fit_long : fit (.exact start) (extraction x y 2) = .ok long := by
  rw [extraction_two]
  refine fit_of_inverse invert_loadings_mul_weights ?_
  rw [matrix_inner, weights, Mat.ofCols_cons_mulVec, Mat.ofCols_cons_mulVec, Mat.ofCols_nil_mulVec]
  funext i
  fin_cases i <;> simp [coefficients, first, second, mulVec, dotProduct] <;> norm_num

end TwoComponents

/-! ## 3. Optimality -/

/-- **The regression vector is optimal.**  It lies in the Krylov space of as many dimensions as
there are components; every other vector of that space leaves more of the response; and a fit
with one component more leaves less. -/
theorem fit_regression_optimal {tools : Toolkit ℝ} (ht : tools.ExactInverse) (x : Mat ℝ n p)
    (y : Vec ℝ n) (k : ℕ) (f : Fit ℝ n p) (h : fit tools (extraction x y k) = .ok f) :
    f.regression.coords ∈ krylov x.matrix y.coords k ∧
      (∀ v : Vec ℝ p, v.coords ∈ krylov x.matrix y.coords k → v ≠ f.regression →
        (y.sub (x.apply f.regression)).norm < (y.sub (x.apply v)).norm) ∧
      ∀ g : Fit ℝ n p, fit tools (extraction x y (k + 1)) = .ok g →
        (y.sub (x.apply g.regression)).norm < (y.sub (x.apply f.regression)).norm := by
  have hsolution := regression_isLeastSquaresOn ht h
  refine ⟨hsolution.mem, fun v hv hne => norm_lt_norm ?_, fun g hg => norm_lt_norm ?_⟩
  · have hlt := hsolution.residual_lt hv fun hc => hne (Vec.coords_injective hc)
    rwa [Vec.coords_sub, Vec.coords_sub, Mat.coords_apply, Mat.coords_apply]
  · obtain ⟨r, hr, hf⟩ := residual_of_fit ht h
    obtain ⟨r', hr', hg⟩ := residual_of_fit ht hg
    rw [hf, hg]
    exact response_lt_of_succ hr hr'

open TwoComponents in
/-- Of two predictors, one component leaves some of the response and two leave none. -/
theorem fit_regression_optimal_two_predictors :
    fit (.exact fun _ _ => Vec.zero) (extraction x y 1) = .ok short ∧
      fit (.exact fun _ _ => Vec.zero) (extraction x y 2) = .ok long ∧
      short.regression.coords ∈ krylov x.matrix y.coords 1 ∧
      (∀ v : Vec ℝ 2, v.coords ∈ krylov x.matrix y.coords 1 → v ≠ short.regression →
        (y.sub (x.apply short.regression)).norm < (y.sub (x.apply v)).norm) ∧
      (y.sub (x.apply long.regression)).norm < (y.sub (x.apply short.regression)).norm := by
  have hexact : (Toolkit.exact fun _ _ => Vec.zero).ExactInverse :=
    Toolkit.exact_exact.toExactInverse
  have h := fit_regression_optimal hexact x y 1 short fit_short
  exact ⟨fit_short, fit_long, h.1, h.2.1, h.2.2 long fit_long⟩

end PartialLeastSquares.Pls1
