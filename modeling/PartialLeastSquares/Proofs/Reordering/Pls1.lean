/-
# One response and predictors in another order

Let the rows come in another order, and the predictors in another.  A step then finds the same
component: its score has the order of the rows, its weight and its loading have that of the
predictors, and the two numbers that it computes are the same (`step_reorder`).  The matrix that is
inverted at the end is summed over the predictors, so it is the same matrix, and the regression
vector has the order of the predictors (`fit_reorder`).

New rows are told apart from the training rows by their own order: what is predicted for them
depends on the order of the predictors only in so far as both have the same (`predict_reorder`).
-/
import Mathlib
import PartialLeastSquares.Proofs.Reordering.Arithmetic
import PartialLeastSquares.Proofs.Rescaling.Pls1

namespace PartialLeastSquares.Pls1

variable {n m p : ℕ} {σ : Equiv.Perm (Fin n)} {τ : Equiv.Perm (Fin p)}

/-! ## 1. The components -/

def Component.reorder {K : Type} (σ : Equiv.Perm (Fin n)) (τ : Equiv.Perm (Fin p))
    (c : Component K n p) : Component K n p :=
  ⟨c.weight.reorder τ, c.score.reorder σ, c.loading.reorder τ, c.coefficient, c.scoreSq⟩

def Residual.reorder {K : Type} (σ : Equiv.Perm (Fin n)) (τ : Equiv.Perm (Fin p))
    (r : Residual K n p) : Residual K n p :=
  ⟨r.x.reorder σ τ, r.y.reorder σ⟩

def Fit.reorder {K : Type} (σ : Equiv.Perm (Fin n)) (τ : Equiv.Perm (Fin p)) (f : Fit K n p) :
    Fit K n p :=
  ⟨f.components.map (Component.reorder σ τ), f.regression.reorder τ⟩

/-- **A step in another order** finds the same component and leaves the same remainders. -/
theorem step_reorder (σ : Equiv.Perm (Fin n)) (τ : Equiv.Perm (Fin p)) (xScale yScale : ℝ) (j : ℕ)
    (r : Residual ℝ n p) :
    step xScale yScale j (r.reorder σ τ) =
      (step xScale yScale j r).map (Prod.map (Component.reorder σ τ) (Residual.reorder σ τ)) := by
  unfold step
  simp only [Residual.reorder, Mat.reorder_applyT, normalize_reorder]
  cases normalize (.weight j) (r.x.applyT r.y) (xScale * yScale) with
  | error e => rfl
  | ok w =>
    simp only [bind, Except.bind, Except.map, Mat.reorder_apply, Vec.reorder_dot,
      Vec.normSq_reorder, Mat.reorder_applyT, divideBy_reorder]
    generalize r.x.apply w = t
    cases quotient (.regressionCoefficient j) (t.dot r.y) t.normSq (xScale * xScale) with
    | error e => rfl
    | ok coefficient =>
      cases divideBy (.loading j) (r.x.applyT t) t.normSq (xScale * xScale) with
      | error e => rfl
      | ok loading =>
        simp only [pure, Except.pure, Prod.map, Component.reorder, Mat.reorder_outer,
          Mat.reorder_sub, Vec.reorder_scale, Vec.reorder_sub]
        rfl

theorem extraction_reorder (σ : Equiv.Perm (Fin n)) (τ : Equiv.Perm (Fin p)) (x : Mat ℝ n p)
    (y : Vec ℝ n) (count : ℕ) :
    extraction (x.reorder σ τ) (y.reorder σ) count =
      ⟨(extraction x y count).components.map (Component.reorder σ τ),
        (extraction x y count).ending.map (Residual.reorder σ τ)⟩ := by
  unfold extraction
  rw [Mat.norm_reorder, Vec.norm_reorder]
  exact extract_map (fun j r => step_reorder σ τ x.norm y.norm j r) count 0 ⟨x, y⟩

/-! ## 2. The regression vector -/

/-- **Weights and loadings in another order** give a regression vector in that order. -/
theorem solve_reorder (tools : Toolkit ℝ) {k : ℕ} (τ : Equiv.Perm (Fin p)) (w l : Mat ℝ p k)
    (c : Vec ℝ k) :
    solve tools (w.reorder τ 1) (l.reorder τ 1) c = (solve tools w l c).map (Vec.reorder τ) := by
  unfold solve
  rw [Mat.reorder_tmul, Mat.reorder_one]
  cases invert tools .loadingsByWeights (Mat.tmul l w) with
  | error e => rfl
  | ok inner =>
    simp only [Except.map, Mat.reorder_rows_mul, Mat.reorder_rows_apply]

theorem heq_coefficients_reorder (cs : List (Component ℝ n p)) :
    HEq (coefficients (cs.map (Component.reorder σ τ))) (coefficients cs) :=
  Vec.heq_ofFn (List.length_map _) fun j => by simp [coefficients, Component.reorder]

theorem regression_reorder (tools : Toolkit ℝ) (cs : List (Component ℝ n p)) :
    regression tools (cs.map (Component.reorder σ τ)) =
      (regression tools cs).map (Vec.reorder τ) := by
  rw [regression_eq_solve, regression_eq_solve, ← solve_reorder]
  exact solve_congr (List.length_map _) (Mat.heq_ofCols_reorder cs fun _ => rfl)
    (Mat.heq_ofCols_reorder cs fun _ => rfl) (heq_coefficients_reorder cs)

/-- **A fit in another order** is the fit, and fails for the same reason. -/
theorem fit_reorder (tools : Toolkit ℝ) (x : Mat ℝ n p) (y : Vec ℝ n) (count : ℕ) :
    fit tools (extraction (x.reorder σ τ) (y.reorder σ) count) =
      (fit tools (extraction x y count)).map (Fit.reorder σ τ) := by
  rw [extraction_reorder]
  unfold fit
  cases (extraction x y count).ending with
  | error e => rfl
  | ok r =>
    simp only [Except.map, bind, Except.bind, regression_reorder]
    cases regression tools (extraction x y count).components <;> rfl

/-! ## 3. New rows -/

/-- **The scores of new rows** are the same if the new rows have the order of the predictors.  The
induction is on the components, each of which takes its own part away. -/
theorem replay_reorder (cs : List (Component ℝ n p)) (x : Mat ℝ m p) :
    replay (cs.map (Component.reorder σ τ)) (x.reorder 1 τ) = replay cs x := by
  induction cs generalizing x with
  | nil => rfl
  | cons c rest ih =>
    rw [List.map_cons, replay, replay]
    simp only [Component.reorder, Mat.reorder_cols_apply, Mat.outer_reorder, Mat.reorder_sub]
    exact congrArg _ (ih _)

/-- The scores and the coefficients are all that a prediction depends on. -/
theorem columns_apply_congr {k k' : ℕ} (hk : k' = k) (ts : List (Vec ℝ m)) {c : Vec ℝ k}
    {c' : Vec ℝ k'} (hc : HEq c' c) : (columns k' ts).apply c' = (columns k ts).apply c := by
  subst hk
  cases hc
  rfl

/-- **The predictions** are the same if the new rows have the order of the predictors. -/
theorem predict_reorder (f : Fit ℝ n p) (x : Mat ℝ m p) :
    (f.reorder σ τ).predict (x.reorder 1 τ) = f.predict x := by
  unfold Fit.predict Fit.transform Fit.reorder
  dsimp only
  rw [replay_reorder]
  exact columns_apply_congr (List.length_map _) _ (heq_coefficients_reorder f.components)

end PartialLeastSquares.Pls1
