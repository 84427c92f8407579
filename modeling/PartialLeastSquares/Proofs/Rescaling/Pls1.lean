/-
# One response in other units

Let the predictors be in units `a` times as large and the response in units `b` times as large.  A
step then takes the same direction and leaves the same remainders, each in its units: scores are `a`
times as large, weights and loadings the same, and a coefficient, which turns a score into a
response, is `b / a` times as large (`step_rescale`).

The matrix that is inverted at the end is made of weights and loadings, so it is the same matrix.
The regression vector is `b / a` times the old one, and the predictions are `b` times the old ones
(`predict_rescale`).
-/
import Mathlib
import PartialLeastSquares.Proofs.Pls1.Regression
import PartialLeastSquares.Proofs.Rescaling.Arithmetic
import PartialLeastSquares.Proofs.Rescaling.Correspondence

namespace PartialLeastSquares.Pls1

variable {n p : ℕ} {a b : ℝ}

/-! ## 1. The components -/

noncomputable def Component.rescale (a b : ℝ) (c : Component ℝ n p) : Component ℝ n p :=
  ⟨c.weight, c.score.scale a, c.loading, b / a * c.coefficient, a * a * c.scoreSq⟩

noncomputable def Residual.rescale (a b : ℝ) (r : Residual ℝ n p) : Residual ℝ n p :=
  ⟨r.x.scale a, r.y.scale b⟩

noncomputable def Fit.rescale (a b : ℝ) (f : Fit ℝ n p) : Fit ℝ n p :=
  ⟨f.components.map (Component.rescale a b), f.regression.scale (b / a)⟩

/-- **A step in other units** finds the same component and leaves the same remainders. -/
theorem step_rescale (ha : 0 < a) (hb : 0 < b) (xScale yScale : ℝ) (j : ℕ) (r : Residual ℝ n p) :
    step (a * xScale) (b * yScale) j (r.rescale a b) =
      (step xScale yScale j r).map (Prod.map (Component.rescale a b) (Residual.rescale a b)) := by
  have haa : 0 < a * a := mul_pos ha ha
  have href : a * xScale * (a * xScale) = a * a * (xScale * xScale) := by ring
  have hweight : normalize (.weight j) ((r.rescale a b).x.applyT (r.rescale a b).y)
      (a * xScale * (b * yScale)) = normalize (.weight j) (r.x.applyT r.y) (xScale * yScale) :=
    normalize_scale (mul_pos ha hb) (by simp [Residual.rescale, mul_comm]) (by ring)
  unfold step
  rw [hweight]
  cases normalize (.weight j) (r.x.applyT r.y) (xScale * yScale) with
  | error e => rfl
  | ok w =>
    have hscore : (r.rescale a b).x.apply w = (r.x.apply w).scale a := Mat.scale_apply _ _ _
    have hsq : ((r.x.apply w).scale a).normSq = a * a * (r.x.apply w).normSq :=
      Vec.normSq_scale _ _
    have hdot : ((r.x.apply w).scale a).dot (r.rescale a b).y =
        a * b * (r.x.apply w).dot r.y := by
      rw [Residual.rescale, Vec.scale_dot, Vec.dot_scale, mul_assoc]
    have hloading : (r.rescale a b).x.applyT ((r.x.apply w).scale a) =
        (r.x.applyT (r.x.apply w)).scale (a * a) := by
      rw [Residual.rescale, Mat.scale_applyT, Mat.applyT_scale, Vec.scale_scale]
    simp only [bind, Except.bind, hscore, quotient_scale haa hdot hsq href,
      divideBy_scale haa hloading hsq href]
    generalize r.x.apply w = t
    cases quotient (.regressionCoefficient j) (t.dot r.y) t.normSq (xScale * xScale) with
    | error e => rfl
    | ok coefficient =>
      cases divideBy (.loading j) (r.x.applyT t) t.normSq (xScale * xScale) with
      | error e => rfl
      | ok loading =>
        have hfactor : a * b / (a * a) = b / a := mul_div_mul_left b a ha.ne'
        have hresponse : (r.y.scale b).sub ((t.scale a).scale (b / a * coefficient)) =
            (r.y.sub (t.scale coefficient)).scale b := by
          rw [Vec.scale_scale, show b / a * coefficient * a = b * coefficient by field_simp,
            ← Vec.scale_scale, Vec.scale_sub]
        simp only [Except.map, pure, Except.pure, Prod.map, Component.rescale, Residual.rescale,
          hfactor, Vec.normSq_scale, Mat.scale_outer, Mat.scale_sub, hresponse]

theorem extraction_rescale (ha : 0 < a) (hb : 0 < b) (x : Mat ℝ n p) (y : Vec ℝ n) (count : ℕ) :
    extraction (x.scale a) (y.scale b) count =
      ⟨(extraction x y count).components.map (Component.rescale a b),
        (extraction x y count).ending.map (Residual.rescale a b)⟩ := by
  unfold extraction
  rw [Mat.norm_scale x ha, Vec.norm_scale y hb]
  exact extract_map (fun j r => step_rescale ha hb x.norm y.norm j r) count 0 ⟨x, y⟩

/-! ## 2. The regression vector -/

/-- The regression vector of any weights, loadings and coefficients. -/
def solve {K : Type} [Scalar K] (tools : Toolkit K) {k : ℕ} (w l : Mat K p k) (c : Vec K k) :
    Except (NumericalError K) (Vec K p) :=
  (invert tools .loadingsByWeights (Mat.tmul l w)).map fun inner => (Mat.mul w inner).apply c

theorem regression_eq_solve {K : Type} [Scalar K] (tools : Toolkit K)
    (cs : List (Component K n p)) :
    regression tools cs = solve tools (weights cs) (loadings cs) (coefficients cs) := by
  unfold regression solve
  cases invert tools .loadingsByWeights (Mat.tmul (loadings cs) (weights cs)) <;> rfl

theorem solve_scale (tools : Toolkit ℝ) {k : ℕ} (w l : Mat ℝ p k) (c : Vec ℝ k) (e : ℝ) :
    solve tools w l (c.scale e) = (solve tools w l c).map fun v => v.scale e := by
  unfold solve
  cases invert tools .loadingsByWeights (Mat.tmul l w) with
  | error e => rfl
  | ok inner => exact congrArg Except.ok (Mat.apply_scale _ _ _)

/-- The same weights and loadings as columns, and coefficients, of another list. -/
theorem solve_congr {tools : Toolkit ℝ} {k k' : ℕ} (hk : k' = k) {w l : Mat ℝ p k} {c : Vec ℝ k}
    {w' l' : Mat ℝ p k'} {c' : Vec ℝ k'} (hw : HEq w' w) (hl : HEq l' l) (hc : HEq c' c) :
    solve tools w' l' c' = solve tools w l c := by
  subst hk
  cases hw
  cases hl
  cases hc
  rfl

theorem regression_rescale (tools : Toolkit ℝ) (a b : ℝ) (cs : List (Component ℝ n p)) :
    regression tools (cs.map (Component.rescale a b)) =
      (regression tools cs).map fun v => v.scale (b / a) := by
  have hcoefficients : HEq (coefficients (cs.map (Component.rescale a b)))
      ((coefficients cs).scale (b / a)) := by
    refine Vec.heq_ofFn (List.length_map _) fun j => ?_
    simp [coefficients, Component.rescale, mul_comm]
  rw [regression_eq_solve, regression_eq_solve, ← solve_scale]
  exact solve_congr (List.length_map _) (Mat.heq_ofCols_map cs _ _) (Mat.heq_ofCols_map cs _ _)
    hcoefficients

/-- **A fit in other units** is the fit, and fails for the same reason. -/
theorem fit_rescale (ha : 0 < a) (hb : 0 < b) (tools : Toolkit ℝ) (x : Mat ℝ n p) (y : Vec ℝ n)
    (count : ℕ) : fit tools (extraction (x.scale a) (y.scale b) count) =
      (fit tools (extraction x y count)).map (Fit.rescale a b) := by
  rw [extraction_rescale ha hb]
  unfold fit
  cases (extraction x y count).ending with
  | error e => rfl
  | ok r =>
    simp only [Except.map, bind, Except.bind, regression_rescale]
    cases regression tools (extraction x y count).components <;> rfl

theorem predict_rescale {tools : Toolkit ℝ} (ht : tools.ExactInverse) (ha : 0 < a) (hb : 0 < b)
    {x : Mat ℝ n p} {y : Vec ℝ n} {count : ℕ} {f : Fit ℝ n p}
    (h : fit tools (extraction x y count) = .ok f) {m : ℕ} (new : Mat ℝ m p) :
    (f.rescale a b).predict (new.scale a) = (f.predict new).scale b := by
  have h' : fit tools (extraction (x.scale a) (y.scale b) count) = .ok (f.rescale a b) := by
    rw [fit_rescale ha hb, h]
    rfl
  rw [predict_of_fit ht h', predict_of_fit ht h, Fit.rescale, Mat.scale_apply, Mat.apply_scale,
    Vec.scale_scale, mul_div_cancel₀ b ha.ne']

end PartialLeastSquares.Pls1
