/-
# Components as many as the rank

A regression vector is the least-squares solution within a subspace of as many dimensions as there
are components.  The predictors lose nothing of the subspace, so with as many components as the
rank of the predictors its image is all that the predictors explain, and the solution within the
subspace solves the whole problem (`IsLeastSquaresOn.normal_equations`).  The predictors may have
any number of columns beyond their rank; the regression vector is then one solution of many, and
the predictions for the training rows are the only ones.

What is solved is the problem of the preprocessed data.  Columns from which means were subtracted,
and a response to which its mean is added again, turn it into ordinary least squares with an
intercept on the data as it was handed over (`ColumnStats.isOrdinaryLeastSquares_unapply`).
-/
import Mathlib
import PartialLeastSquares.Proofs.ColumnUnits.Data
import PartialLeastSquares.Proofs.Model.Replay
import PartialLeastSquares.Proofs.Rank
import PartialLeastSquares.Proofs.Simpls.Agreement

namespace PartialLeastSquares

open Matrix

variable {n p q k : ℕ}

/-! ## 1. The whole problem -/

/-- **A solution within a subspace solves the whole problem** if the subspace has independent images
as many as the rank: the residual is orthogonal to all predictors. -/
theorem IsLeastSquaresOn.normal_equations {X : Matrix (Fin n) (Fin p) ℝ} {y : Fin n → ℝ}
    {V : Submodule ℝ (Fin p → ℝ)} {r : Fin p → ℝ} (h : IsLeastSquaresOn X y V r)
    {W : Matrix (Fin p) (Fin k) ℝ} (hmem : ∀ z, W *ᵥ z ∈ V) (hinj : ∀ z, W *ᵥ z = 0 → z = 0)
    (hrank : X.rank ≤ k) : Xᵀ *ᵥ (y - X *ᵥ r) = 0 := by
  have himages (z : Fin k → ℝ) (hz : (X * W) *ᵥ z = 0) : z = 0 := by
    rw [← mulVec_mulVec] at hz
    exact hinj z (h.injective _ (hmem z) hz)
  have hrange (z : Fin k → ℝ) : (X * W) *ᵥ z ∈ LinearMap.range X.mulVecLin :=
    ⟨W *ᵥ z, by rw [mulVecLin_apply, mulVec_mulVec]⟩
  -- whatever the predictors explain, the subspace does
  have horthogonal (v : Fin p → ℝ) : (X *ᵥ v) ⬝ᵥ (y - X *ᵥ r) = 0 := by
    obtain ⟨z, hz⟩ := exists_mulVec_of_mem hrank hrange himages ⟨v, rfl⟩
    rw [mulVecLin_apply, ← mulVec_mulVec] at hz
    rw [← hz]
    exact h.normal _ (hmem z)
  refine dotProduct_self_eq_zero.mp ?_
  rw [← mulVec_dotProduct_eq]
  exact horthogonal _

/-- **As many components of the method with one response as the rank** solve the whole problem. -/
theorem Pls1.normal_equations {tools : Toolkit ℝ} (ht : tools.ExactInverse) {x : Mat ℝ n p}
    {y : Vec ℝ n} {count : ℕ} {f : Fit ℝ n p} (h : fit tools (extraction x y count) = .ok f)
    (hrank : x.matrix.rank = count) :
    x.matrixᵀ *ᵥ (y.coords - x.matrix *ᵥ f.regression.coords) = 0 := by
  obtain ⟨r, -, hchain, hlength, -⟩ := chain_of_fit h
  have hmem : ∀ c ∈ f.components, c.weight.coords ∈ krylov x.matrix y.coords count := by
    have hwithin := chain_within hchain (within_start x y (krylov x.matrix y.coords 0))
    rwa [zero_add, hlength] at hwithin
  have hunit : ∀ c ∈ f.components, 0 < c.weight.coords ⬝ᵥ c.weight.coords := fun c hc => by
    rw [(chain_each hchain hc).1]
    exact one_pos
  exact (regression_isLeastSquaresOn ht h).normal_equations (Mat.ofCols_mulVec_mem hmem)
    (Mat.ofCols_mulVec_eq_zero ((chain_pairwise hchain).imp And.left) hunit)
    (hrank.trans hlength.symm).le

/-- **As many components from cross-products as the rank** solve the whole problem, too. -/
theorem Simpls.normal_equations {tools : Toolkit ℝ} (ht : tools.Exact) {x : Mat ℝ n p}
    {y : Vec ℝ n} {count : ℕ} {r : Cross ℝ p} (h : (extraction tools x y count).ending = .ok r)
    (hrank : x.matrix.rank = count) : x.matrixᵀ *ᵥ (y.coords - x.matrix *ᵥ
      (regression (extraction tools x y count).components).coords) = 0 := by
  have hchain := chain_of_extraction ht h
  have hlength : (extraction tools x y count).components.length = count :=
    length_components_extract h
  set cs := (extraction tools x y count).components
  have hmem : ∀ c ∈ cs, c.weight.coords ∈ krylov x.matrix y.coords count := fun c hc => by
    have hwithin := (chain_each hchain (tracks_start x y) c hc).1
    rwa [zero_add, hlength] at hwithin
  have hinj (z : Fin cs.length → ℝ) (hz : (weights cs).matrix *ᵥ z = 0) : z = 0 := by
    have hscores : (scores x cs).matrix *ᵥ z = 0 := by
      rw [matrix_scores, ← mulVec_mulVec, hz, mulVec_zero]
    rw [← one_mulVec z, ← scores_transpose_mul hchain, ← mulVec_mulVec, hscores, mulVec_zero]
  exact (regression_isLeastSquaresOn ht h).normal_equations (Mat.ofCols_mulVec_mem hmem) hinj
    (hrank.trans hlength.symm).le

/-! ## 2. Least squares with an intercept -/

/-- **The fitted values of ordinary least squares with an intercept:** among all values that a
constant and a combination of the predictors give, they leave the least of the response. -/
structure IsOrdinaryLeastSquares (X : Matrix (Fin n) (Fin p) ℝ) (y a : Fin n → ℝ) : Prop where
  affine : ∃ (c : ℝ) (b : Fin p → ℝ), a = c • 1 + X *ᵥ b
  least : ∀ (c : ℝ) (b : Fin p → ℝ), (y - a) ⬝ᵥ (y - a) ≤
    (y - (c • 1 + X *ᵥ b)) ⬝ᵥ (y - (c • 1 + X *ᵥ b))

section Intercept

variable {X : Matrix (Fin n) (Fin p) ℝ} {y a : Fin n → ℝ} {c : ℝ} {b : Fin p → ℝ}

/-- **Where the residual is orthogonal to a constant and to the predictors,** any other values leave
more by the square of the difference. -/
theorem residual_dot_of_normal (ha : a = c • 1 + X *ᵥ b) (hone : 1 ⬝ᵥ (y - a) = 0)
    (hnormal : Xᵀ *ᵥ (y - a) = 0) (c' : ℝ) (b' : Fin p → ℝ) :
    (y - (c' • 1 + X *ᵥ b')) ⬝ᵥ (y - (c' • 1 + X *ᵥ b')) =
      (y - a) ⬝ᵥ (y - a) + (a - (c' • 1 + X *ᵥ b')) ⬝ᵥ (a - (c' • 1 + X *ᵥ b')) := by
  set d := a - (c' • 1 + X *ᵥ b') with hd
  have hdifference : d = (c - c') • 1 + X *ᵥ (b - b') := by
    rw [hd, ha, sub_smul, mulVec_sub]
    abel
  have hcross : d ⬝ᵥ (y - a) = 0 := by
    rw [hdifference, add_dotProduct, smul_dotProduct, hone, mulVec_dotProduct_eq, hnormal,
      dotProduct_zero, smul_zero, add_zero]
  have hcross' : (y - a) ⬝ᵥ d = 0 := (dotProduct_comm _ _).trans hcross
  have hsplit : y - (c' • 1 + X *ᵥ b') = (y - a) + d := by
    rw [hd]
    abel
  rw [hsplit, add_dotProduct, dotProduct_add, dotProduct_add, hcross, hcross']
  ring

/-- **Such values are the fitted ones, and the only ones.** -/
theorem isOrdinaryLeastSquares_iff (ha : a = c • 1 + X *ᵥ b) (hone : 1 ⬝ᵥ (y - a) = 0)
    (hnormal : Xᵀ *ᵥ (y - a) = 0) (a' : Fin n → ℝ) :
    IsOrdinaryLeastSquares X y a' ↔ a' = a := by
  have hsquares := residual_dot_of_normal ha hone hnormal
  constructor
  · rintro ⟨⟨c', b', rfl⟩, hleast⟩
    have hle := hleast c b
    rw [← ha, hsquares c' b'] at hle
    have hnonneg : 0 ≤ (a - (c' • 1 + X *ᵥ b')) ⬝ᵥ (a - (c' • 1 + X *ᵥ b')) :=
      Finset.sum_nonneg fun i _ => mul_self_nonneg _
    exact (sub_eq_zero.mp (dotProduct_self_eq_zero.mp (by linarith))).symm
  · rintro rfl
    refine ⟨⟨c, b, ha⟩, fun c' b' => ?_⟩
    rw [hsquares c' b']
    exact le_add_of_nonneg_right (Finset.sum_nonneg fun i _ => mul_self_nonneg _)

end Intercept

/-! ## 3. Columns that were shifted and scaled -/

namespace ColumnStats

variable {s : ColumnStats ℝ p} {x : Mat ℝ n p}

/-- A column is what preprocessing made of it, scaled and shifted back. -/
theorem matrix_eq_scaled (hs : ∀ j, 0 < s.scale.get j) (i : Fin n) (j : Fin p) :
    x.matrix i j = (s.apply x).matrix i j * s.scale.get j + s.mean.get j := by
  rw [Mat.matrix_apply, Mat.matrix_apply, ← get_unapply, unapply_apply hs]

/-- **What is orthogonal to a constant and to preprocessed columns** is orthogonal to the columns.
-/
theorem transpose_mulVec_eq_zero (hs : ∀ j, 0 < s.scale.get j) {e : Fin n → ℝ}
    (hone : 1 ⬝ᵥ e = 0) (hnormal : (s.apply x).matrixᵀ *ᵥ e = 0) : x.matrixᵀ *ᵥ e = 0 := by
  funext j
  have hpreprocessed : ∑ i, (s.apply x).matrix i j * e i = 0 := congrFun hnormal j
  have hconstant : ∑ i, e i = 0 := (one_dotProduct e).symm.trans hone
  calc ∑ i, x.matrix i j * e i
      = ∑ i, (s.scale.get j * ((s.apply x).matrix i j * e i) + s.mean.get j * e i) := by
        refine Finset.sum_congr rfl fun i _ => ?_
        rw [matrix_eq_scaled hs]
        ring
    _ = 0 := by
        rw [Finset.sum_add_distrib, ← Finset.mul_sum, ← Finset.mul_sum, hpreprocessed, hconstant,
          mul_zero, mul_zero, add_zero]

/-- A combination of preprocessed columns is a constant and a combination of the columns. -/
theorem apply_mulVec (s : ColumnStats ℝ p) (x : Mat ℝ n p) (r : Fin p → ℝ) :
    (s.apply x).matrix *ᵥ r = (-∑ j, s.mean.get j * (r j / s.scale.get j)) • 1 +
      x.matrix *ᵥ fun j => r j / s.scale.get j := by
  funext i
  simp only [mulVec, dotProduct, Pi.add_apply, Pi.smul_apply, Pi.one_apply, smul_eq_mul, mul_one]
  rw [neg_add_eq_sub, ← Finset.sum_sub_distrib]
  refine Finset.sum_congr rfl fun j _ => ?_
  rw [Mat.matrix_apply, Mat.matrix_apply, get_apply]
  ring

/-- **Solving the preprocessed problem is ordinary least squares with an intercept,** if the columns
and the response are centered. -/
theorem isOrdinaryLeastSquares_unapply {t : ColumnStats ℝ 1} {y : Mat ℝ n 1}
    (hs : ∀ j, 0 < s.scale.get j) (ht : ∀ j, 0 < t.scale.get j) (hx : (s.apply x).Centered)
    (hy : (t.apply y).Centered) {r : Vec ℝ p}
    (hnormal : (s.apply x).matrixᵀ *ᵥ
      ((t.apply y).only.coords - (s.apply x).matrix *ᵥ r.coords) = 0)
    (j : Fin 1) (a : Fin n → ℝ) :
    IsOrdinaryLeastSquares x.matrix (y.col j).coords a ↔
      a = ((t.unapply (Mat.ofCol ((s.apply x).apply r))).col j).coords := by
  set e := (t.apply y).only.coords - (s.apply x).matrix *ᵥ r.coords
  set fitted := ((t.unapply (Mat.ofCol ((s.apply x).apply r))).col j).coords with hfitted
  obtain rfl : j = 0 := Subsingleton.elim j 0
  have hentry : fitted = t.mean.get 0 • 1 + t.scale.get 0 • ((s.apply x).matrix *ᵥ r.coords) := by
    funext i
    rw [hfitted, Vec.coords_apply, Mat.get_col, get_unapply, ← Mat.matrix_apply, Mat.matrix_ofCol,
      Mat.coords_apply, Pi.add_apply, Pi.smul_apply, Pi.smul_apply, Pi.one_apply, smul_eq_mul,
      smul_eq_mul, mul_one, add_comm, mul_comm]
  have hresponse :
      (y.col 0).coords = t.mean.get 0 • 1 + t.scale.get 0 • (t.apply y).only.coords := by
    funext i
    rw [Vec.coords_apply, Mat.get_col, ← Mat.matrix_apply, matrix_eq_scaled ht, Pi.add_apply,
      Pi.smul_apply, Pi.smul_apply, Pi.one_apply, smul_eq_mul, smul_eq_mul, mul_one,
      Mat.coords_only, add_comm, mul_comm]
  have hresidual : (y.col 0).coords - fitted = t.scale.get 0 • e := by
    rw [hresponse, hentry, add_sub_add_left_eq_sub, ← smul_sub]
  have hone : (1 : Fin n → ℝ) ⬝ᵥ e = 0 := by
    have hlinear : (1 : Fin n → ℝ) ⬝ᵥ ((s.apply x).matrix *ᵥ r.coords) = 0 := by
      rw [dotProduct_comm, mulVec_dotProduct_eq, Mat.centered_iff.mp hx, dotProduct_zero]
    have hzero : (1 : Fin n → ℝ) ⬝ᵥ (t.apply y).only.coords = 0 := by
      rw [one_dotProduct]
      exact (Finset.sum_congr rfl fun i _ => Mat.coords_only _ i).trans (hy 0)
    rw [dotProduct_sub, hlinear, hzero, sub_zero]
  refine isOrdinaryLeastSquares_iff (c := t.mean.get 0 +
    t.scale.get 0 * -∑ j, s.mean.get j * (r.coords j / s.scale.get j))
    (b := t.scale.get 0 • fun j => r.coords j / s.scale.get j) ?_ ?_ ?_ a
  · rw [hentry, apply_mulVec, smul_add, smul_smul, mulVec_smul, add_smul, add_assoc]
  · rw [hresidual, dotProduct_smul, hone, smul_zero]
  · rw [hresidual, mulVec_smul, transpose_mulVec_eq_zero hs hone hnormal, smul_zero]

end ColumnStats

/-! ## 4. Models -/

/-- The name of the regression vector among the matrices of a method. -/
def Estimator.regressionName : Estimator → String
  | simpls _ => "B"
  | _ => "r_hat"

/-- **Methods that regress with all coefficients:** the one with one response, by name or by
default, and the one from cross-products if its number of coefficients is not above zero, which
keeps them all. -/
inductive Estimator.KeepsAll : Estimator → Prop
  | pls1 {method : Estimator} (named : method.methodOr = .pls1) : KeepsAll method
  | simpls {coefficients : Value} {number : Number} (given : coefficients.number? = some number)
      (none : number.above 0 = false) : KeepsAll (.simpls coefficients)

/-- A number of coefficients that is not above zero thins nothing out. -/
theorem Simpls.fit_of_not_above {K : Type} [Scalar K] {number : Number}
    (h : number.above 0 = false) (cs : List (Simpls.Component K p)) :
    Simpls.fit (thinning p number) cs = some ⟨cs, Simpls.weights cs⟩ := by
  cases number with
  | whole count =>
    have hle : count ≤ 0 := not_lt.mp (of_decide_eq_false h)
    simp only [thinning, Simpls.fit, slim, if_pos (Or.inl hle)]
  | real x =>
    have hzero : (0.0 : Float) = Float.ofInt 0 := by decide
    have hle : ¬ (0.0 : Float) < x := hzero ▸ of_decide_eq_false h
    simp only [thinning, if_neg hle, Simpls.fit]

section Trainings

variable {tools : Toolkit ℝ} {method : Estimator} {plan : Plan} {flat : Bool} {x : Mat ℝ n p}

theorem Estimator.KeepsAll.eq_one_of_train (hmethod : method.KeepsAll) {y : Mat ℝ n q}
    {f : Fitted ℝ n p q} (hf : (train tools method.methodOr plan flat x y).outcome = .ok f) :
    q = 1 := by
  cases hmethod with
  | pls1 named =>
    rw [named] at hf
    exact eq_one_of_train_pls1 hf
  | simpls => exact eq_one_of_train_simpls hf

/-- **What these methods learn** is a regression vector by which rows are predicted, and which
solves the whole problem if there are as many components as the rank. -/
theorem Estimator.KeepsAll.exists_regression (ht : tools.Exact) (hmethod : method.KeepsAll)
    {y : Mat ℝ n 1} {f : Fitted ℝ n p 1}
    (hf : (train tools method.methodOr plan flat x y).outcome = .ok f)
    (hrank : (plan.predictors x).matrix.rank = plan.components) :
    ∃ r : Vec ℝ p, f.matrix? method.regressionName = some (Fitted.table (Mat.ofCol r)) ∧
      f.predicts = true ∧ f.predict x = .ok ((plan.scheme.learn y).unapply
        (Mat.ofCol ((plan.predictors x).apply r))) ∧
      (plan.predictors x).matrixᵀ *ᵥ ((plan.response y).coords -
        (plan.predictors x).matrix *ᵥ r.coords) = 0 := by
  cases hmethod with
  | pls1 named =>
    rw [named] at hf
    obtain ⟨fit, hmade, rfl⟩ := train_pls1_eq_ok_iff.mp hf
    have hname : method.regressionName = "r_hat" := by
      cases method with
      | simpls => cases named
      | _ => rfl
    have hpredict := Pls1.predict_of_fit ht.toExactInverse hmade (plan.predictors x)
    refine ⟨fit.regression, by rw [hname]; rfl, rfl, ?_,
      Pls1.normal_equations ht.toExactInverse hmade hrank⟩
    exact congrArg (fun v => Except.ok ((plan.scheme.learn y).unapply (Mat.ofCol v))) hpredict
  | @simpls coefficients number given keepsAll =>
    obtain ⟨r, number', fit, hend, hnumber, hthinned, rfl⟩ := train_simpls_eq_ok_iff.mp hf
    obtain rfl : number = number' := by
      unfold checkCoefficients at hnumber
      rw [given] at hnumber
      dsimp only at hnumber
      split at hnumber
      · cases hnumber
      · exact Except.ok.inj hnumber
    obtain rfl := Option.some.inj ((Simpls.fit_of_not_above keepsAll _).symm.trans hthinned)
    exact ⟨_, rfl, rfl, rfl, Simpls.normal_equations ht hend hrank⟩

end Trainings

namespace Model

/-- **With as many components as the rank of the preprocessed predictors, a fit is ordinary least
squares.**  The regression vector solves the normal equations of the preprocessed data; and if
means were subtracted, the predictions for the training rows are the fitted values of ordinary
least squares with an intercept, of which there is only one. -/
theorem full_rank_least_squares {tools : Toolkit ℝ} (ht : tools.Exact) {m : Model ℝ}
    (hmethod : m.algorithm.KeepsAll) {x y : Reading ℝ} {plan : Plan} {sample : Sample ℝ}
    (hvalid : m.validate x y = .ok ⟨plan, sample⟩)
    (hfit : (m.fit tools x y).2.outcome = .ok ())
    (hrank : (plan.predictors sample.x).matrix.rank = plan.components) :
    ∃ r : Mat ℝ sample.features sample.targets,
      (m.fit tools x y).1.matrix? m.algorithm.regressionName = some (Fitted.table r) ∧
      (plan.predictors sample.x).matrixᵀ * (((plan.scheme.learn sample.y).apply sample.y).matrix -
        (plan.predictors sample.x).matrix * r.matrix) = 0 ∧
      (plan.scheme = .center ∨ plan.scheme = .standardize →
        ∃ (f : Fitted ℝ sample.rows sample.features sample.targets)
          (a : Mat ℝ sample.rows sample.targets),
          (m.fit tools x y).1.trained =
            some ⟨sample.rows, sample.features, sample.targets, f⟩ ∧
          (m.fit tools x y).1.predict x =
            .ok (Trained.answer ⟨sample.rows, sample.features, sample.targets, f⟩ a) ∧
          ∀ j b, IsOrdinaryLeastSquares sample.x.matrix (sample.y.col j).coords b ↔
            b = (a.col j).coords) := by
  obtain ⟨plan', sample', f, hvalid', hf, hm⟩ := fit_eq_ok_iff.mp ⟨hfit, rfl⟩
  obtain ⟨rfl, rfl⟩ := Accepted.mk.inj (Except.ok.inj (hvalid'.symm.trans hvalid))
  have hrows := readRows_of_readSample (validate_eq_ok_iff.mp hvalid).2.1
  have hlearned := congrArg Model.trained hm.symm
  obtain ⟨n, p, q, predictors, responses, flat⟩ := sample'
  obtain rfl : q = 1 := hmethod.eq_one_of_train hf
  obtain ⟨r, hmatrix, hpredicts, hpredict, hnormal⟩ := hmethod.exists_regression ht hf hrank
  refine ⟨Mat.ofCol r, ?_, ?_, fun hscheme => ⟨f, _, hlearned,
    predict_eq_ok hlearned hpredicts hrows hpredict, fun j b => ?_⟩⟩
  · rw [matrix?, hlearned]
    exact hmatrix
  · ext i j
    have hentry := congrFun hnormal i
    obtain rfl : j = 0 := Subsingleton.elim j 0
    rw [mul_apply]
    refine Eq.trans (Finset.sum_congr rfl fun l _ => ?_) hentry
    rw [Matrix.sub_apply, mul_apply, Pi.sub_apply, Plan.response, Mat.coords_only]
    exact congrArg (fun s => _ * (_ - s)) (Finset.sum_congr rfl fun l _ => by
      rw [Mat.matrix_ofCol])
  · have hcenters : plan'.scheme ≠ .none := by
      rintro hnone
      rw [hnone] at hscheme
      rcases hscheme with h | h <;> cases h
    exact ColumnStats.isOrdinaryLeastSquares_unapply (Scheme.scale_pos _ predictors)
      (Scheme.scale_pos _ responses) (Scheme.centered_of_ne_none hcenters predictors)
      (Scheme.centered_of_ne_none hcenters responses) hnormal j b

end Model

theorem FourRows.rank_x : x.matrix.rank = 1 := by
  refine le_antisymm ?_ ?_
  · have hdirection : x.matrix = vecMulVec ![1, -1, 1, -1] ![3, 4] := by
      ext i j
      fin_cases i <;> fin_cases j <;> simp [x, vecMulVec]
    rw [hdirection]
    exact rank_vecMulVec_le _ _
  · obtain ⟨r, hr⟩ := simpls_extraction
    exact Simpls.count_le_rank tools_exact hr

open FourRows in
/-- One component of two predictors that have rank one: the predictions for the four rows are the
fitted values. -/
theorem Model.full_rank_least_squares_four_rows :
    (simpls.fit tools predictors responses).2.outcome = .ok () ∧ x.matrix.rank = 1 ∧
      ∃ (f : Fitted ℝ 4 2 1) (a : Mat ℝ 4 1),
        (simpls.fit tools predictors responses).1.predict predictors =
          .ok (Trained.answer ⟨4, 2, 1, f⟩ a) ∧
        ∀ b, IsOrdinaryLeastSquares x.matrix ((Mat.ofCol y).col 0).coords b ↔
          b = (a.col 0).coords := by
  have hvalid : simpls.validate predictors responses =
      .ok ⟨⟨1, .center⟩, ⟨4, 2, 1, x, Mat.ofCol y, true⟩⟩ :=
    validate_eq_ok_iff.mpr ⟨checkPlan_eq, readSample_eq, rfl⟩
  obtain ⟨-, -, -, hfitted⟩ := full_rank_least_squares tools_exact
    (@Estimator.KeepsAll.simpls (.int 0) (.whole 0) rfl rfl) hvalid simpls_fit
    ((congrArg (fun a => a.matrix.rank) predictors_eq).trans rank_x)
  obtain ⟨f, a, -, hpredict, hall⟩ := hfitted (.inl rfl)
  exact ⟨simpls_fit, rank_x, f, a, hpredict, fun b => hall 0 b⟩

end PartialLeastSquares
