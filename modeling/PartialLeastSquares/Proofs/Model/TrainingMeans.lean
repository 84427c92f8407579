/-
# The means of the predictions for the training rows

A fit that subtracts means predicts its training rows right on average: the mean of the predictions
for each response is the mean of that response (`Model.training_means`).  Nothing else is needed, in
particular no law of the tools: it makes no difference how well a method predicts, whether its
iteration settled, or how far its weights have been thinned out.

The reason is one and the same for all methods.  Centered predictors are orthogonal to a column of
ones, every score is a combination of them, and so every prediction on the scale of the method sums
up to nothing (`Mat.Centered`); the envelope then adds the means, once.  A filter leaves centered
predictors and hands on a centered response, which is what the induction on the nesting asks for.
-/
import Mathlib
import PartialLeastSquares.Proofs.KernelPls.Preparation
import PartialLeastSquares.Proofs.Model.Nesting
import PartialLeastSquares.Proofs.OrthogonalFilter.Agreement
import PartialLeastSquares.Proofs.Pls1.Regression

namespace PartialLeastSquares

open Matrix

variable {n m p q : ℕ}

/-! ## 1. One method at a time -/

/-- **Replayed scores explain nothing that the rows do not,** and so do their combinations. -/
theorem Pls1.replay_dotProduct {cs : List (Pls1.Component ℝ n p)} {x : Mat ℝ m p} {u : Fin m → ℝ}
    (hu : x.matrixᵀ *ᵥ u = 0) (z : Fin cs.length → ℝ) :
    ((columns cs.length (replay cs x)).matrix *ᵥ z) ⬝ᵥ u = 0 := by
  induction cs generalizing x with
  | nil =>
    have hnone : (columns 0 (replay ([] : List (Component ℝ n p)) x)).matrix *ᵥ z = 0 :=
      funext fun i => Fin.sum_univ_zero fun j =>
        (columns 0 (replay ([] : List (Component ℝ n p)) x)).matrix i j * z j
    exact (congrArg (· ⬝ᵥ u) hnone).trans (zero_dotProduct u)
  | cons c cs ih =>
    have hscore : (x.apply c.weight).coords ⬝ᵥ u = 0 := by
      rw [Mat.coords_apply, mulVec_dotProduct_eq, hu, dotProduct_zero]
    have hrest : (x.sub (Mat.outer (x.apply c.weight) c.loading)).matrixᵀ *ᵥ u = 0 := by
      rw [Mat.matrix_sub, Mat.matrix_outer, transpose_sub, transpose_vecMulVec, sub_mulVec,
        vecMulVec_mulVec, op_smul_eq_smul, hscore, zero_smul, hu, sub_zero]
    have hcons := columns_cons_mulVec cs.length (x.apply c.weight)
      (replay cs (x.sub (Mat.outer (x.apply c.weight) c.loading))) z
    refine (congrArg (· ⬝ᵥ u) hcons).trans ?_
    rw [add_dotProduct, smul_dotProduct, hscore, smul_zero, zero_add]
    exact ih hrest _

/-- The method with one response predicts centered rows to be centered. -/
theorem Pls1.centered_predict (f : Pls1.Fit ℝ n p) {x : Mat ℝ m p} (h : x.Centered) :
    (Mat.ofCol (f.predict x)).Centered := by
  rw [Mat.centered_ofCol, Pls1.Fit.predict, Mat.coords_apply]
  exact replay_dotProduct (Mat.centered_iff.mp h) _

/-- So does the method from cross-products, however its weights have been thinned out. -/
theorem Simpls.centered_predict (f : Simpls.Fit ℝ p) {x : Mat ℝ m p} (h : x.Centered) :
    (Mat.ofCol (f.predict x)).Centered := by
  rw [Mat.centered_ofCol, Simpls.Fit.predict, Mat.coords_apply, mulVec_dotProduct_eq,
    Mat.centered_iff.mp h, dotProduct_zero]

/-- **The method in feature space predicts its training rows,** and the predictions are centered if
the responses are. -/
theorem KernelPls.Fit.Keeps.centered_predict {f : Fit ℝ n p q} {fn : KernelFn ℝ} {x : Mat ℝ n p}
    {y : Mat ℝ n q} (h : f.Keeps fn x y) (hy : y.Centered) :
    ∃ a, f.predict x = .ok a ∧ a.Centered := by
  have hcentered : f.centered.Centered := by
    rw [h.centered]
    exact centered_centerKernel f.raw
  refine ⟨_, predict_of_transform h.transform_training, fun j => ?_⟩
  rw [h.yStats, Scheme.sum_unapply (.inl Scheme.noConfusion) ((hcentered.mul _).mul _) j, hy j]

/-! ## 2. Trainings -/

section Trains

variable {tools : Toolkit ℝ} {method : Estimator} {plan : Plan} {flat : Bool} {x : Mat ℝ n p}
  {y : Mat ℝ n q} {f : Fitted ℝ n p q}

/-- **Whatever has been trained predicts its training rows, and in sum their responses,** if means
are subtracted or there are none to subtract.  The induction is on the nesting of the filters. -/
theorem Trains.sum_predict (h : Trains tools method plan flat x y f)
    (hanswers : method.answers = true)
    (hscheme : plan.scheme ≠ .none ∨ (x.Centered ∧ y.Centered)) :
    ∃ a, f.predict x = .ok a ∧ ∀ j, ∑ i, a.matrix i j = ∑ i, y.matrix i j := by
  induction h with
  | @pls1 method plan flat x y fit named made =>
    have hx := Scheme.centered_learn (hscheme.imp_right And.left)
    exact ⟨_, rfl, Scheme.sum_unapply (hscheme.imp_right And.right) (Pls1.centered_predict fit hx)⟩
  | transformOnly made => cases hanswers
  | @simpls coefficients plan flat x y r number fit ended made =>
    have hx := Scheme.centered_learn (hscheme.imp_right And.left)
    exact ⟨_, rfl,
      Scheme.sum_unapply (hscheme.imp_right And.right) (Simpls.centered_predict fit hx)⟩
  | @kernelPls q kernel tol maxIter seed plan flat x y settings stats k data r fit named centered
      prepared ended made =>
    obtain ⟨fn, hkeeps⟩ := KernelPls.keeps_of_fit centered prepared made
    have hy := Scheme.centered_learn (hscheme.imp_right And.right)
    obtain ⟨a, ha, hcentered⟩ := hkeeps.centered_predict hy
    refine ⟨_, ?_, Scheme.sum_unapply (hscheme.imp_right And.right) hcentered⟩
    have hpredict : fit.predict ((plan.envelope flat x y).x.apply x) = .ok a := ha
    simp only [Fitted.predict, hpredict, Mat.entryProblem?_real]
    rfl
  | @opls base algorithm count scheme plan inner flat x residual y follower following ended accepted
      follows ih =>
    have hinner := (Estimator.answers_opls following).symm.trans hanswers
    have hy := Scheme.centered_learn (hscheme.imp_right And.right)
    obtain ⟨a, ha, hsum⟩ := ih hinner
      (.inr ⟨Plan.centered_filtered (hscheme.imp_right And.left) y, hy⟩)
    have hcentered : a.Centered := fun j => (hsum j).trans (hy j)
    refine ⟨_, ?_, Scheme.sum_unapply (hscheme.imp_right And.right) hcentered⟩
    have hpredict : follower.predict (OrthogonalFilter.Fit.transform
        ⟨(OrthogonalFilter.extraction (plan.predictors x) (plan.response y)
          plan.components).components, residual⟩ ((plan.envelope flat x y).x.apply x)) = .ok a := ha
    simp only [Fitted.predict, follows.predicts hinner, if_true, hpredict, Mat.entryProblem?_real]
    rfl

end Trains

/-! ## 3. Models -/

/-- **The predictions for the training rows have the means of the responses,** whatever predicts
them, if the preprocessing subtracts means and the fit succeeds. -/
theorem Model.training_means {tools : Toolkit ℝ} {m : Model ℝ} {x y : Reading ℝ}
    (hanswers : m.algorithm.answers = true)
    (hscheme : Scheme.ofValue? m.preprocessing = some .center ∨
      Scheme.ofValue? m.preprocessing = some .standardize)
    (hfit : (m.fit tools x y).2.outcome = .ok ()) :
    ∃ (sample : Sample ℝ) (f : Fitted ℝ sample.rows sample.features sample.targets)
      (a : Mat ℝ sample.rows sample.targets),
      readSample x y = .ok sample ∧
      (m.fit tools x y).1.trained = some ⟨sample.rows, sample.features, sample.targets, f⟩ ∧
      (m.fit tools x y).1.predict x =
        .ok (Trained.answer ⟨sample.rows, sample.features, sample.targets, f⟩ a) ∧
      columnMeans a = columnMeans sample.y := by
  obtain ⟨plan, sample, f, hvalid, htrains, hlearned⟩ := exists_trains_of_fit hfit
  obtain ⟨hplan, hsample, -⟩ := validate_eq_ok_iff.mp hvalid
  have hmethod : m.algorithm.methodOr.answers = true := (Estimator.answers_methodOr _).trans hanswers
  have hmeans : plan.scheme ≠ .none := fun hnone => by
    rw [scheme_of_checkPlan hplan, hnone] at hscheme
    rcases hscheme with h | h <;> cases h
  obtain ⟨a, ha, hsum⟩ := htrains.sum_predict hmethod (.inl hmeans)
  refine ⟨sample, f, a, hsample, hlearned,
    predict_eq_ok hlearned (htrains.predicts hmethod) (readRows_of_readSample hsample) ha,
    Vec.ext fun j => ?_⟩
  rw [columnMeans, columnMeans, Vec.get_ofFn, Vec.get_ofFn, Scalar.sum_real, Scalar.sum_real]
  exact congrArg (· / _) (hsum j)

/-- A filter and its default model predict one on average for four rows whose responses are one on
average. -/
theorem Model.training_means_crossed_rows :
    (CrossedRows.opls.fit CrossedRows.tools CrossedRows.predictors CrossedRows.responses).2.outcome =
        .ok () ∧
      ∃ (f : Fitted ℝ 4 2 1) (a : Mat ℝ 4 1),
        (CrossedRows.opls.fit CrossedRows.tools CrossedRows.predictors
          CrossedRows.responses).1.predict CrossedRows.predictors =
            .ok (Trained.answer ⟨4, 2, 1, f⟩ a) ∧
        (columnMeans a).get 0 = 1 := by
  refine ⟨CrossedRows.opls_fit, ?_⟩
  obtain ⟨sample, f, a, hsample, -, hpredict, hmeans⟩ :=
    training_means (m := CrossedRows.opls) rfl (.inl (by cbv)) CrossedRows.opls_fit
  obtain rfl := Except.ok.inj (CrossedRows.readSample_eq.symm.trans hsample)
  exact ⟨f, a, hpredict, (congrArg (Vec.get · 0) hmeans).trans CrossedRows.mean_observed⟩

end PartialLeastSquares
