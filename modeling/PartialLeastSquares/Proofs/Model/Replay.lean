/-
# Replaying the removals

A fit of the method with one response answers for new rows by replaying its removals, component by
component, as `PLS1._scores` does.  On the training predictors the replay goes through the states
of the extraction itself, so it finds the scores that are stored
(`Pls1.columns_replay_of_extraction`); this needs no law of arithmetic, and holds of any scalars.

On other rows there are no stored scores to compare with.  There the replay is compared with the
regression vector `r_hat`, which takes one step for all components: both predict the same, because
the loadings by the weights are triangular (`Pls1.predict_of_fit`).
-/
import PartialLeastSquares.Proofs.OrthogonalFilter.Agreement
import PartialLeastSquares.Proofs.Pls1.Regression

namespace PartialLeastSquares

/-! ## 1. The training rows again -/

namespace Pls1

section Training

variable {K : Type} [Scalar K] {n p : ℕ}

/-- **What a step stores of its score:** the projection of what was left on the weight, which the
predictors lose. -/
structure Removes (r : Residual K n p) (c : Component K n p) (r' : Residual K n p) : Prop where
  score : r.x.apply c.weight = c.score
  predictors : r.x.sub (Mat.outer c.score c.loading) = r'.x

/-- **A step that succeeds removes the score that it stores.** -/
theorem removes_of_step {xScale yScale : K} {j : ℕ} {r r' : Residual K n p} {c : Component K n p}
    (h : step xScale yScale j r = .ok (c, r')) : Removes r c r' := by
  unfold step at h
  obtain ⟨weight, -, h⟩ := bind_eq_ok_iff.mp h
  obtain ⟨coefficient, -, h⟩ := bind_eq_ok_iff.mp h
  obtain ⟨loading, -, h⟩ := bind_eq_ok_iff.mp h
  obtain ⟨rfl, rfl⟩ := Prod.mk.inj (Except.ok.inj h)
  exact ⟨rfl, rfl⟩

/-- **Replaying a chain on what it started from** finds its scores. -/
theorem replay_of_chain {r r' : Residual K n p} {cs : List (Component K n p)}
    (h : Chain Removes r cs r') : replay cs r.x = cs.map Component.score := by
  induction h with
  | nil => rfl
  | cons first _ ih => rw [replay, first.score, first.predictors, ih, List.map_cons]

/-- The members of a list as columns are its images as columns. -/
theorem columns_map {α : Type} (cs : List α) (f : α → Vec K n) :
    columns cs.length (cs.map f) = Mat.ofCols cs f := by
  refine Mat.ext fun i j => ?_
  rw [columns, Mat.get_ofFn, Mat.get_ofCols]
  simp [Array.getD_eq_getD_getElem?]

/-- **The replay of the training predictors finds the stored scores.** -/
theorem columns_replay_of_extraction {x : Mat K n p} {y : Vec K n} {count : ℕ} {r : Residual K n p}
    (h : (extraction x y count).ending = .ok r) :
    columns (extraction x y count).components.length (replay (extraction x y count).components x) =
      scores (extraction x y count).components := by
  have hchain : Chain Removes ⟨x, y⟩ (extraction x y count).components r :=
    chain_of_extract (fun _ _ _ _ => removes_of_step) h
  have hreplay : replay (extraction x y count).components x =
      (extraction x y count).components.map Component.score := replay_of_chain hchain
  rw [hreplay, columns_map, scores]

/-- A fit that is applied to what it was fitted to finds its stored scores, too. -/
theorem transform_training {tools : Toolkit K} {x : Mat K n p} {y : Vec K n} {count : ℕ}
    {f : Fit K n p} (h : fit tools (extraction x y count) = .ok f) :
    f.transform x = scores f.components := by
  obtain ⟨⟨r, hend⟩, hcomponents, -⟩ := fit_eq_ok_iff.mp h
  unfold Fit.transform
  rw [← hcomponents]
  exact columns_replay_of_extraction hend

end Training

end Pls1

/-! ## 2. Models -/

namespace Model

/-- **What a fit of the method with one response has learned.** -/
theorem exists_pls1_of_fit {K : Type} [Scalar K] {tools : Toolkit K} {m : Model K}
    {x y : Reading K} (hmethod : m.algorithm.methodOr = .pls1)
    (hfit : (m.fit tools x y).2.outcome = .ok ()) :
    ∃ (plan : Plan) (n p : ℕ) (rows : Mat K n p) (responses : Mat K n 1) (flat : Bool)
      (fit : Pls1.Fit K n p),
      readRows x p = .ok ⟨n, rows⟩ ∧
      Pls1.fit tools (Pls1.extraction (plan.predictors rows) (plan.response responses)
        plan.components) = .ok fit ∧
      (m.fit tools x y).1.trained =
        some ⟨n, p, 1, .pls1 (plan.envelope flat rows responses) true fit⟩ := by
  obtain ⟨plan, ⟨n, p, q, rows, responses, flat⟩, f, hvalid, hf, hm⟩ := fit_eq_ok_iff.mp ⟨hfit, rfl⟩
  rw [hmethod] at hf
  obtain rfl : q = 1 := eq_one_of_train_pls1 hf
  obtain ⟨fit, hmade, rfl⟩ := train_pls1_eq_ok_iff.mp hf
  exact ⟨plan, n, p, rows, responses, flat, fit,
    readRows_of_readSample (validate_eq_ok_iff.mp hvalid).2.1, hmade, by rw [← hm]⟩

/-- **The replay and the regression vector agree.**  A model of the method with one response that
has been fitted predicts preprocessed rows, whatever they are, by its regression vector as well as
by its replay; and its representation of the training predictors is the matrix of scores that is
stored. -/
theorem replay_eq_regression {tools : Toolkit ℝ} (ht : tools.ExactInverse) (m : Model ℝ)
    (hmethod : m.algorithm.methodOr = .pls1) (x y : Reading ℝ)
    (hfit : (m.fit tools x y).2.outcome = .ok ()) :
    ∃ (n p : ℕ) (env : Envelope ℝ p 1) (fit : Pls1.Fit ℝ n p),
      (m.fit tools x y).1.trained = some ⟨n, p, 1, .pls1 env true fit⟩ ∧
      (m.fit tools x y).1.matrix? "r_hat" = some (Fitted.table (Mat.ofCol fit.regression)) ∧
      (∀ (l : ℕ) (new : Mat ℝ l p), fit.predict new = new.apply fit.regression) ∧
      ∃ T : Table ℝ, (m.fit tools x y).1.transform x = .ok T ∧
        (m.fit tools x y).1.matrix? "T" = some T := by
  obtain ⟨plan, n, p, rows, responses, flat, fit, hrows, hmade, htrained⟩ :=
    exists_pls1_of_fit hmethod hfit
  have hmatrix : ∀ name, (m.fit tools x y).1.matrix? name =
      (Fitted.pls1 (plan.envelope flat rows responses) true fit).matrix? name := fun name => by
    rw [matrix?, htrained]
    rfl
  refine ⟨n, p, _, fit, htrained, hmatrix _, fun l new => Pls1.predict_of_fit ht hmade new,
    Fitted.table (Pls1.scores fit.components), ?_, hmatrix _⟩
  rw [← Pls1.transform_training hmade]
  exact transform_eq_ok htrained hrows rfl

open CrossedRows in
theorem replay_eq_regression_crossed_rows :
    tools.ExactInverse ∧ pls1.algorithm.methodOr = .pls1 ∧
      (pls1.fit tools predictors responses).2.outcome = .ok () ∧
      ∃ (n p : ℕ) (env : Envelope ℝ p 1) (fit : Pls1.Fit ℝ n p),
        (pls1.fit tools predictors responses).1.trained = some ⟨n, p, 1, .pls1 env true fit⟩ ∧
        (∀ (l : ℕ) (new : Mat ℝ l p), fit.predict new = new.apply fit.regression) ∧
        ∃ T : Table ℝ, (pls1.fit tools predictors responses).1.transform predictors = .ok T ∧
          (pls1.fit tools predictors responses).1.matrix? "T" = some T := by
  obtain ⟨n, p, env, fit, htrained, -, hpredict, hscores⟩ :=
    replay_eq_regression tools_exact.toExactInverse pls1 rfl predictors responses pls1_fit
  exact ⟨tools_exact.toExactInverse, rfl, pls1_fit, n, p, env, fit, htrained, hpredict, hscores⟩

end Model

end PartialLeastSquares
