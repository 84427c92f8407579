/-
# Models in another order

The order of the training rows, of the predictors and of the responses is no part of what a model
learns.

With the rows of predictors and responses in another order (`Model.fit_reordered_rows`), a fit
succeeds if and only if it did, with the same weights, loadings and coefficients at every level of
nesting and the scores in the order of the rows, and predicts the same for any new rows.  The method
in feature space is left out: the vectors it starts from are drawn by place.

With the predictors in another order (`Model.fit_reordered_columns`), in training and in new rows,
a fit succeeds if and only if it did and predicts the same; and if the responses are in another
order too, so are the predictions.  What has a row or a column for each response follows, and
nothing else in feature space does.  Of the method from cross-products all coefficients are to be
kept: the ones to keep are chosen by place among equals.
-/
import Mathlib
import PartialLeastSquares.Proofs.KernelPls.Agreement
import PartialLeastSquares.Proofs.Model.Matrices
import PartialLeastSquares.Proofs.OrthogonalFilter.Agreement
import PartialLeastSquares.Proofs.Reordering.Training

namespace PartialLeastSquares

variable {n p q : ℕ} {σ : Equiv.Perm (Fin n)} {τ : Equiv.Perm (Fin p)} {ρ : Equiv.Perm (Fin q)}

/-! ## 1. Matrices by name -/

/-- **What an order does to a matrix with a name:** those named in `rows` have their rows in that
order, those named in `columns` their columns, and all others are as they were. -/
inductive Reorders {k : ℕ} (π : Equiv.Perm (Fin k)) (rows columns : List String) :
    String × Table ℝ → String × Table ℝ → Prop
  | rows {name : String} (named : name ∈ rows) {c : ℕ} (a : Mat ℝ k c) :
      Reorders π rows columns (name, ⟨k, c, a⟩) (name, ⟨k, c, a.reorder π 1⟩)
  | columns {name : String} (named : name ∈ columns) {r : ℕ} (a : Mat ℝ r k) :
      Reorders π rows columns (name, ⟨r, k, a⟩) (name, ⟨r, k, a.reorder 1 π⟩)
  | same {name : String} (unnamed : name ∉ rows ∧ name ∉ columns) (t : Table ℝ) :
      Reorders π rows columns (name, t) (name, t)

namespace Fitted

/-- **The matrices of every level:** those of the model itself, and then those of what follows the
filter, and so on. -/
def levels {K : Type} [Scalar K] : {q : ℕ} → Fitted K n p q → List (List (String × Table K))
  | _, pls1 env predicts fit => [(pls1 env predicts fit).matrices]
  | _, simpls env fit => [(simpls env fit : Fitted K n p 1).matrices]
  | _, kernelPls env fit => [(kernelPls env fit).matrices]
  | _, opls env filter base => (opls env filter base).matrices :: base.levels

theorem table_ofCol_congr {k k' : ℕ} (hk : k' = k) {v : Vec ℝ k} {v' : Vec ℝ k'} (h : HEq v' v) :
    table (Mat.ofCol v') = table (Mat.ofCol v) := by
  subst hk
  cases h
  rfl

/-- The columns of the members of a list that was mapped, each with its entries in an order. -/
theorem table_ofCols_map {α : Type} {k : ℕ} {π : Equiv.Perm (Fin k)} (cs : List α) {g : α → α}
    {f : α → Vec ℝ k} (h : ∀ c, f (g c) = (f c).reorder π) :
    table (Mat.ofCols (cs.map g) f) = table ((Mat.ofCols cs f).reorder π 1) := by
  refine table_ext rfl (List.length_map _) fun i j => ?_
  rw [Mat.get_ofCols, Mat.get_reorder, Mat.get_ofCols]
  simp [h]

theorem table_ofCols_map_same {α : Type} {k : ℕ} (cs : List α) {g : α → α} {f : α → Vec ℝ k}
    (h : ∀ c, f (g c) = f c) : table (Mat.ofCols (cs.map g) f) = table (Mat.ofCols cs f) := by
  rw [table_ofCols_map (π := 1) cs fun c => (h c).trans (Vec.reorder_one _).symm, Mat.reorder_one]

end Fitted

/-- **Rows in another order** change the scores of the method with one response, and nothing
else. -/
theorem Fitted.matrices_pls1_reorder (env : Envelope ℝ p 1) (predicts : Bool)
    (fit : Pls1.Fit ℝ n p) :
    List.Forall₂ (Reorders σ ["T", "T_orth", "X_osc"] []) (pls1 env predicts fit).matrices
      ((pls1 env predicts fit).reorder σ 1 1).matrices := by
  have hcoefficients : table (Mat.ofCol (Pls1.coefficients (fit.reorder σ 1).components)) =
      table (Mat.ofCol (Pls1.coefficients fit.components)) :=
    table_ofCol_congr (List.length_map _) (Pls1.heq_coefficients_reorder fit.components)
  have hloadings : table (Pls1.loadings (fit.reorder σ 1).components) =
      table (Pls1.loadings fit.components) :=
    table_ofCols_map_same fit.components fun c => Vec.reorder_one c.loading
  have hweights : table (Pls1.weights (fit.reorder σ 1).components) =
      table (Pls1.weights fit.components) :=
    table_ofCols_map_same fit.components fun c => Vec.reorder_one c.weight
  have hscores : table (Pls1.scores (fit.reorder σ 1).components) =
      table ((Pls1.scores fit.components).reorder σ 1) :=
    table_ofCols_map fit.components fun _ => rfl
  simp only [reorder, matrices]
  rw [hcoefficients, hloadings, hweights, hscores]
  simp only [Pls1.Fit.reorder, Vec.reorder_one]
  exact .cons (.same (by decide) _) (.cons (.same (by decide) _) (.cons (.same (by decide) _)
    (.cons (.rows (by decide) _) (.cons (.same (by decide) _) .nil))))

/-- **Rows in another order** change the scores of a filter and what it leaves, and nothing else.
-/
theorem Fitted.matrices_opls_reorder (env : Envelope ℝ p 1) (filter : OrthogonalFilter.Fit ℝ n p)
    (base : Fitted ℝ n p 1) :
    List.Forall₂ (Reorders σ ["T", "T_orth", "X_osc"] []) (opls env filter base).matrices
      ((opls env filter base).reorder σ 1 1).matrices := by
  have hloadings : table (OrthogonalFilter.loadings (filter.reorder σ 1).components) =
      table (OrthogonalFilter.loadings filter.components) :=
    table_ofCols_map_same filter.components fun c => Vec.reorder_one c.loading
  have hweights : table (OrthogonalFilter.weights (filter.reorder σ 1).components) =
      table (OrthogonalFilter.weights filter.components) :=
    table_ofCols_map_same filter.components fun c => Vec.reorder_one c.weight
  have hscores : table (OrthogonalFilter.scores (filter.reorder σ 1).components) =
      table ((OrthogonalFilter.scores filter.components).reorder σ 1) :=
    table_ofCols_map filter.components fun _ => rfl
  simp only [reorder, matrices]
  rw [hloadings, hweights, hscores]
  exact .cons (.same (by decide) _) (.cons (.same (by decide) _) (.cons (.rows (by decide) _)
    (.cons (.rows (by decide) _) .nil)))

/-- **What was trained on rows in another order,** at every level: the scores have their rows in
that order, and nothing else has changed.  The induction is on the nesting of the filters. -/
theorem Trains.levels_reorder {tools : Toolkit ℝ} {method : Estimator} {plan : Plan} {flat : Bool}
    {x : Mat ℝ n p} {y : Mat ℝ n q} {f : Fitted ℝ n p q} (h : Trains tools method plan flat x y f)
    (hmethod : method.kernelless = true) :
    List.Forall₂ (List.Forall₂ (Reorders σ ["T", "T_orth", "X_osc"] [])) f.levels
      (f.reorder σ 1 1).levels := by
  induction h with
  | pls1 => exact .cons (Fitted.matrices_pls1_reorder _ _ _) .nil
  | transformOnly => exact .cons (Fitted.matrices_pls1_reorder _ _ _) .nil
  | @simpls coefficients plan flat x y r number fit ended made =>
    refine .cons ?_ .nil
    simp only [Simpls.Fit.reorder_one]
    exact .cons (.same (by decide) _) (.cons (.same (by decide) _) (.cons (.same (by decide) _)
      (.cons (.same (by decide) _) .nil)))
  | kernelPls => cases hmethod
  | opls following ended accepted follows ih =>
    exact .cons (Fitted.matrices_opls_reorder _ _ _)
      (ih ((Estimator.kernelless_opls following).symm.trans hmethod))

/-- **Responses in another order** change what the method in feature space has a row or a column of
for each of them, and nothing else. -/
theorem Fitted.matrices_kernelPls_reorder (env : Envelope ℝ p q) (fit : KernelPls.Fit ℝ n p q) :
    List.Forall₂ (Reorders ρ ["Q"] ["B"]) (kernelPls env fit).matrices
      ((kernelPls env fit).reorder 1 τ ρ).matrices := by
  have hscores : table (KernelPls.scores (fit.reorder τ ρ).components) =
      table (KernelPls.scores fit.components) :=
    table_ofCols_map_same fit.components fun _ => rfl
  have hresponseScores : table (KernelPls.responseScores (fit.reorder τ ρ).components) =
      table (KernelPls.responseScores fit.components) :=
    table_ofCols_map_same fit.components fun _ => rfl
  have hloadings : table (KernelPls.loadings (fit.reorder τ ρ).components) =
      table (KernelPls.loadings fit.components) :=
    table_ofCols_map_same fit.components fun _ => rfl
  have hresponseLoadings : table (KernelPls.responseLoadings (fit.reorder τ ρ).components) =
      table ((KernelPls.responseLoadings fit.components).reorder ρ 1) :=
    table_ofCols_map fit.components fun _ => rfl
  have hcoefficients : table (fit.reorder τ ρ).coefficients =
      table (fit.coefficients.reorder 1 ρ) :=
    table_ext (List.length_map _) rfl fun i j =>
      (Mat.get_ofFn _ i j).trans (Mat.get_reorder 1 ρ fit.coefficients _ j).symm
  simp only [reorder, matrices]
  rw [hscores, hresponseScores, hloadings, hresponseLoadings, hcoefficients]
  exact .cons (.same (by decide) _) (.cons (.same (by decide) _) (.cons (.same (by decide) _)
    (.cons (.same (by decide) _) (.cons (.rows (by decide) _) (.cons (.columns (by decide) _)
      .nil)))))

/-! ## 2. Models -/

namespace Estimator

@[simp] theorem kernelless_methodOr (e : Estimator) : e.methodOr.kernelless = e.kernelless := by
  cases e with
  | plain v => cases v <;> rfl
  | _ => rfl

@[simp] theorem keepsWeights_methodOr (e : Estimator) :
    e.methodOr.keepsWeights = e.keepsWeights := by
  cases e with
  | plain v => cases v <;> rfl
  | _ => rfl

end Estimator

namespace Model

/-- **The order of the training rows is no part of what a model learns.**  Let no method in feature
space be used, at any level of nesting.  Fitted to rows in another order, a model succeeds or fails
as it does on the rows; and if it succeeds, the scores of every level have their rows in that order,
every other matrix is the same, and so is every prediction. -/
theorem fit_reordered_rows (tools : Toolkit ℝ) (m : Model ℝ)
    (hmethod : m.algorithm.kernelless = true) (flat : Bool) (x : Mat ℝ n p) (y : Mat ℝ n q)
    (σ : Equiv.Perm (Fin n)) :
    (m.fitTo tools flat (x.reorder σ 1) (y.reorder σ 1)).2.outcome =
        (m.fitTo tools flat x y).2.outcome ∧
      ((m.fitTo tools flat x y).2.outcome = .ok () →
        (∃ f f' : Fitted ℝ n p q, (m.fitTo tools flat x y).1.trained = some ⟨n, p, q, f⟩ ∧
          (m.fitTo tools flat (x.reorder σ 1) (y.reorder σ 1)).1.trained = some ⟨n, p, q, f'⟩ ∧
          List.Forall₂ (List.Forall₂ (Reorders σ ["T", "T_orth", "X_osc"] [])) f.levels
            f'.levels) ∧
        ∀ new, (m.fitTo tools flat (x.reorder σ 1) (y.reorder σ 1)).1.predict new =
          (m.fitTo tools flat x y).1.predict new) := by
  have htrain : ∀ plan, checkPlan m.nComponents m.preprocessing = .ok plan →
      (train tools m.algorithm.methodOr plan flat (x.reorder σ 1) (y.reorder σ 1)).outcome =
        (train tools m.algorithm.methodOr plan flat x y).outcome.map (Fitted.reorder σ 1 1) :=
    fun plan _ => train_reorder m.algorithm.methodOr plan flat x y
      (.inl (m.algorithm.kernelless_methodOr.trans hmethod)) (.inr rfl)
  rcases fitTo_map htrain with
    ⟨e, he, he'⟩ | ⟨hok, hok', -, plan, f, -, hf, htrained, htrained'⟩
  · exact ⟨he'.trans he.symm, fun hok => nomatch he.symm.trans hok⟩
  · refine ⟨hok'.trans hok.symm, fun _ => ⟨⟨f, f.reorder σ 1 1, htrained, htrained', ?_⟩, ?_⟩⟩
    · exact (trains_of_train _ hf).levels_reorder
        (m.algorithm.kernelless_methodOr.trans hmethod)
    · refine predict_eq_of_alike htrained htrained' f.predicts_reorder f.methodName_reorder
        (by rw [f.envelope_reorder]; rfl) fun new => ?_
      have hpredict : (f.reorder σ 1 1).predict (new.reorder 1 1) =
          (f.predict new).map (Mat.reorder 1 1) := f.predict_reorder new
      rw [Mat.reorder_one] at hpredict
      rw [hpredict]
      cases f.predict new with
      | error e => rfl
      | ok a => exact congrArg Except.ok a.reorder_one

open CrossedRows in
/-- A filter and what follows it, fitted to the crossed rows with the first two exchanged. -/
theorem fit_reordered_rows_crossed_rows :
    opls.algorithm.kernelless = true ∧ (opls.fitTo tools true x observed).2.outcome = .ok () ∧
      (opls.fitTo tools true (x.reorder (Equiv.swap 0 1) 1)
        (observed.reorder (Equiv.swap 0 1) 1)).2.outcome = .ok () ∧
      ∀ new, (opls.fitTo tools true (x.reorder (Equiv.swap 0 1) 1)
          (observed.reorder (Equiv.swap 0 1) 1)).1.predict new =
        (opls.fitTo tools true x observed).1.predict new := by
  have hfit : (opls.fitTo tools true x observed).2.outcome = .ok () := by
    rw [← fit_eq_fitTo (readSample_eq.trans (readSample_ofMat x observed true).symm)]
    exact opls_fit
  obtain ⟨houtcome, hlearned⟩ :=
    fit_reordered_rows tools opls rfl true x observed (Equiv.swap 0 1)
  exact ⟨rfl, hfit, houtcome.trans hfit, (hlearned hfit).2⟩

/-- **The orders of predictors and responses are no part of what a model learns.**  Let no method,
at any level of nesting, thin out weights.  Fitted to predictors and responses in other orders, a
model succeeds or fails as it does on the data; and if it succeeds, it predicts for rows in the
order of the predictors what it predicts for the rows, in the order of the responses.  If the method
is the one in feature space, its matrices are those for the data, but for the rows or columns that
belong to the responses, which are in their order. -/
theorem fit_reordered_columns (tools : Toolkit ℝ) (m : Model ℝ)
    (hmethod : m.algorithm.keepsWeights = true) (flat : Bool) (x : Mat ℝ n p) (y : Mat ℝ n q)
    (τ : Equiv.Perm (Fin p)) (ρ : Equiv.Perm (Fin q)) :
    (m.fitTo tools flat (x.reorder 1 τ) (y.reorder 1 ρ)).2.outcome =
        (m.fitTo tools flat x y).2.outcome ∧
      ((m.fitTo tools flat x y).2.outcome = .ok () →
        (∀ {l : ℕ} (new : Mat ℝ l p), ∃ predicted : Except (ModelError ℝ) (Mat ℝ l q),
          (m.fitTo tools flat x y).1.predict (.array (.ofMat new)) =
            predicted.map (.ofResponses flat) ∧
          (m.fitTo tools flat (x.reorder 1 τ) (y.reorder 1 ρ)).1.predict
              (.array (.ofMat (new.reorder 1 τ))) =
            predicted.map fun a => .ofResponses flat (a.reorder 1 ρ)) ∧
        ∀ kernel tol maxIter seed, m.algorithm = .kernelPls kernel tol maxIter seed →
          ∃ f f' : Fitted ℝ n p q, (m.fitTo tools flat x y).1.trained = some ⟨n, p, q, f⟩ ∧
            (m.fitTo tools flat (x.reorder 1 τ) (y.reorder 1 ρ)).1.trained =
              some ⟨n, p, q, f'⟩ ∧
            List.Forall₂ (Reorders ρ ["Q"] ["B"]) f.matrices f'.matrices) := by
  have htrain : ∀ plan, checkPlan m.nComponents m.preprocessing = .ok plan →
      (train tools m.algorithm.methodOr plan flat (x.reorder 1 τ) (y.reorder 1 ρ)).outcome =
        (train tools m.algorithm.methodOr plan flat x y).outcome.map (Fitted.reorder 1 τ ρ) :=
    fun plan _ => train_reorder m.algorithm.methodOr plan flat x y (.inr rfl)
      (.inl (m.algorithm.keepsWeights_methodOr.trans hmethod))
  rcases fitTo_map htrain with
    ⟨e, he, he'⟩ | ⟨hok, hok', hp, plan, f, -, hf, htrained, htrained'⟩
  · exact ⟨he'.trans he.symm, fun hok => nomatch he.symm.trans hok⟩
  · have htrains := trains_of_train _ hf
    refine ⟨hok'.trans hok.symm, fun _ => ⟨fun new => ⟨f.predict new, ?_, ?_⟩, ?_⟩⟩
    · rw [predict_ofMat htrained hp, htrains.envelope]
      rfl
    · rw [predict_ofMat htrained' hp, f.predict_reorder, f.envelope_reorder, htrains.envelope]
      cases f.predict new <;> rfl
    · intro kernel tol maxIter seed halgorithm
      refine ⟨f, f.reorder 1 τ ρ, htrained, htrained', ?_⟩
      rw [halgorithm] at htrains
      change Trains tools (.kernelPls kernel tol maxIter seed) plan flat x y f at htrains
      cases htrains with
      | pls1 named => cases named
      | kernelPls => exact Fitted.matrices_kernelPls_reorder _ _

open FourRows Equiv in
/-- The method in feature space, fitted to four rows with two responses: both predictors are
exchanged, and both responses, which are not equal.  The fits predict the responses, each in its
own order. -/
theorem fit_reordered_columns_two_responses :
    kernelPls.algorithm.keepsWeights = true ∧
      (kernelPls.fitTo tools false x both).2.outcome = .ok () ∧
      (kernelPls.fitTo tools false (x.reorder 1 (swap 0 1))
        (both.reorder 1 (swap 0 1))).2.outcome = .ok () ∧
      both.reorder 1 (swap 0 1) ≠ both ∧
      (kernelPls.fitTo tools false x both).1.predict (.array (.ofMat x)) =
        .ok (.ofResponses false both) ∧
      (kernelPls.fitTo tools false (x.reorder 1 (swap 0 1))
          (both.reorder 1 (swap 0 1))).1.predict (.array (.ofMat (x.reorder 1 (swap 0 1)))) =
        .ok (.ofResponses false (both.reorder 1 (swap 0 1))) ∧
      ∃ f f' : Fitted ℝ 4 2 2,
        (kernelPls.fitTo tools false x both).1.trained = some ⟨4, 2, 2, f⟩ ∧
        (kernelPls.fitTo tools false (x.reorder 1 (swap 0 1))
          (both.reorder 1 (swap 0 1))).1.trained = some ⟨4, 2, 2, f'⟩ ∧
        List.Forall₂ (Reorders (swap (0 : Fin 2) 1) ["Q"] ["B"]) f.matrices f'.matrices := by
  obtain ⟨g, htrain, -, hpredicted⟩ := kernelPls_train rankOne_both false
  have hvalid : kernelPls.validate (.array (.ofMat x)) (.array (.ofResponses false both)) =
      .ok ⟨⟨1, .center⟩, 4, 2, 2, x, both, false⟩ :=
    validate_eq_ok_iff.mpr ⟨checkPlan_eq, readSample_ofMat x both false, rfl⟩
  obtain ⟨hfit, hpredict⟩ := fitTo_predict hvalid htrain two_ne_zero
    (predict_along rankOne_both false hpredicted)
  have hother : both.reorder 1 (swap 0 1) ≠ both := by
    intro h
    have hentry := congrArg (fun a => a.get 0 0) h
    simp [both] at hentry
  obtain ⟨houtcome, hlearned⟩ :=
    fit_reordered_columns tools kernelPls rfl false x both (swap 0 1) (swap 0 1)
  obtain ⟨hpredicts, hmatrices⟩ := hlearned hfit
  obtain ⟨predicted, hbefore, hafter⟩ := hpredicts x
  have hsame : predicted = .ok both := by
    rw [hpredict] at hbefore
    cases predicted with
    | error e => cases hbefore
    | ok a => rw [NdArray.ofResponses_injective false (Except.ok.inj hbefore)]
  rw [hsame] at hafter
  exact ⟨rfl, hfit, houtcome.trans hfit, hother, hpredict, hafter, hmatrices _ _ _ _ rfl⟩

end Model

end PartialLeastSquares
