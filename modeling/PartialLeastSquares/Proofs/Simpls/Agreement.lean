/-
# Both methods for one response agree

The method that deflates the data and the method that works on cross-products share no quantity
on the way, but both solve the same least-squares problem, which has one solution.  So their
regression vectors are equal, and so are their predictions, whatever the scheme of preprocessing
and whatever sign the eigenvectors were given.
-/
import Mathlib
import PartialLeastSquares.Proofs.Exact.Tools
import PartialLeastSquares.Proofs.Model.Prediction
import PartialLeastSquares.Proofs.Model.Training
import PartialLeastSquares.Proofs.Pls1.Regression
import PartialLeastSquares.Proofs.Preprocessing
import PartialLeastSquares.Proofs.Simpls.Regression

namespace PartialLeastSquares

open Matrix

variable {n p : ℕ}

/-! ## 1. Fits -/

/-- **The regression vectors of the two methods are equal.** -/
theorem regression_eq_simpls {tools : Toolkit ℝ} (ht : tools.Exact) {x : Mat ℝ n p} {y : Vec ℝ n}
    {count : ℕ} {f : Pls1.Fit ℝ n p} {r : Simpls.Cross ℝ p}
    (h : Pls1.fit tools (Pls1.extraction x y count) = .ok f)
    (h' : (Simpls.extraction tools x y count).ending = .ok r) :
    f.regression = Simpls.regression (Simpls.extraction tools x y count).components :=
  Vec.coords_injective <|
    (Pls1.regression_isLeastSquaresOn ht.toExactInverse h).unique
      (Simpls.regression_isLeastSquaresOn ht h')

/-- A fit that keeps no number of coefficients keeps all of them. -/
theorem Simpls.fit_keep_zero {K : Type} [Scalar K] (cs : List (Simpls.Component K p)) :
    Simpls.fit (thinning p (.whole 0)) cs = some ⟨cs, Simpls.weights cs⟩ := by
  unfold thinning Simpls.fit slim
  simp

/-! ## 2. Four rows -/

namespace FourRows

noncomputable def x : Mat ℝ 4 2 := Mat.ofRat !![3, 4; -3, -4; 3, 4; -3, -4]

noncomputable def y : Vec ℝ 4 := Vec.ofRat ![1, -1, 1, -1]

noncomputable def predictors : Reading ℝ :=
  .array (.ofRat [4, 2] [3, 4, -3, -4, 3, 4, -3, -4])

noncomputable def responses : Reading ℝ := .array (.ofRat [4] [1, -1, 1, -1])

theorem toMat_x : (NdArray.ofRat [4, 2] [3, 4, -3, -4, 3, 4, -3, -4]).toMat 4 2 = x := by
  refine Mat.ext fun i j => ?_
  fin_cases i <;> fin_cases j <;> simp [NdArray.toMat, x]

theorem toMat_y : (NdArray.ofRat [4] [1, -1, 1, -1]).toMat 4 1 = Mat.ofCol y := by
  refine Mat.ext fun i j => ?_
  fin_cases i <;> fin_cases j <;> simp [NdArray.toMat, y]

theorem readSample_eq : readSample predictors responses = .ok ⟨4, 2, 1, x, Mat.ofCol y, true⟩ := by
  rw [predictors, responses, ← toMat_x, ← toMat_y]
  exact readSample_real (by decide) (by decide) _ _ rfl rfl rfl

theorem x_centered : x.Centered := by
  intro j
  fin_cases j <;> simp [x, Fin.sum_univ_succ]

theorem y_centered : (Mat.ofCol y).Centered := by
  intro j
  fin_cases j
  simp [y, Fin.sum_univ_succ]

theorem norm_x : x.norm = 10 := by
  rw [Mat.norm_real, Real.sqrt_eq_iff_mul_self_eq_of_pos (by norm_num)]
  simp [x, dotProduct, Fin.sum_univ_succ]
  norm_num

theorem norm_y : y.norm = 2 := by
  rw [Vec.norm_real, Real.sqrt_eq_iff_mul_self_eq_of_pos (by norm_num)]
  simp [y, dotProduct, Fin.sum_univ_succ]
  norm_num

noncomputable def component : Pls1.Component ℝ 4 2 :=
  ⟨Vec.ofRat ![3 / 5, 4 / 5], Vec.ofRat ![5, -5, 5, -5], Vec.ofRat ![3 / 5, 4 / 5],
    (1 / 5 : ℚ), (100 : ℚ)⟩

noncomputable def rest : Pls1.Residual ℝ 4 2 := ⟨Mat.ofMatrix 0, Vec.ofFn 0⟩

theorem covariance : x.matrixᵀ *ᵥ y.coords = (20 : ℝ) • component.weight.coords := by
  funext i
  fin_cases i <;> simp [x, y, component, mulVec, dotProduct, Fin.sum_univ_succ] <;> norm_num

theorem extracts : Pls1.Extracts ⟨x, y⟩ component rest where
  covariance := ⟨20, by norm_num, covariance⟩
  unit := by simp [component, dotProduct]; norm_num
  deflates := by
    refine ⟨?_, ?_, ?_, ?_⟩
    · funext i
      fin_cases i <;> simp [x, component, mulVec, dotProduct] <;> norm_num
    · simp [component, dotProduct, Fin.sum_univ_succ]; norm_num
    · funext i
      fin_cases i <;> simp [x, component, mulVec, dotProduct, Fin.sum_univ_succ] <;> norm_num
    · ext i j
      fin_cases i <;> fin_cases j <;> simp [x, component, rest, vecMulVec] <;> norm_num
  coefficient := by simp [y, component, dotProduct, Fin.sum_univ_succ]; norm_num
  response := by
    funext i
    fin_cases i <;> simp [y, component, rest]

theorem step_eq : Pls1.step x.norm y.norm 0 ⟨x, y⟩ = .ok (component, rest) := by
  have hscoreSq : component.score.coords ⬝ᵥ component.score.coords = 100 := by
    simp [component, dotProduct, Fin.sum_univ_succ]; norm_num
  refine Pls1.step_of_extracts x.norm_nonneg y.norm_nonneg extracts covariance ?_ ?_ ?_
  · rw [norm_x, norm_y]
    exact Scalar.zeroNorm_mul_lt (by norm_num)
  · rw [hscoreSq]; rfl
  · rw [hscoreSq, norm_x]
    exact Scalar.zeroNorm_mul_lt (by norm_num)

variable {start : (n seed : ℕ) → Vec ℝ n}

noncomputable def fit : Pls1.Fit ℝ 4 2 := ⟨[component], Vec.ofRat ![3 / 25, 4 / 25]⟩

theorem fit_eq : Pls1.fit (.exact start) (Pls1.extraction x y 1) = .ok fit := by
  rw [Pls1.extraction, extract_succ_ok step_eq, extract_zero]
  refine Pls1.fit_of_one ?_ (funext fun i => ?_)
  · simp [component, dotProduct]
    norm_num
  · fin_cases i <;> simp [component] <;> norm_num

/-- The cross-product of the predictors with themselves. -/
noncomputable def gram : Matrix (Fin 2) (Fin 2) ℝ := (Mat.ofRat !![36, 48; 48, 64]).matrix

theorem gram_eq : (Simpls.Cross.start x y).predictors.matrix = gram := by
  rw [Simpls.Cross.start, Mat.matrix_tmul]
  ext i j
  fin_cases i <;> fin_cases j <;> simp [x, gram, mul_apply, Fin.sum_univ_succ] <;> norm_num

noncomputable def unitWeight : Fin 2 → ℝ := component.weight.coords

theorem unitWeight_unit : unitWeight ⬝ᵥ unitWeight = 1 := extracts.unit

theorem gram_unitWeight : gram *ᵥ unitWeight = (100 : ℝ) • unitWeight := by
  funext i
  fin_cases i <;> simp [gram, unitWeight, component, mulVec, dotProduct] <;> norm_num

/-- The method from cross-products finds a component, whatever the sign of the direction. -/
theorem simpls_step : ∃ c r,
    Simpls.step (.exact start) x.norm y.norm 0 (Simpls.Cross.start x y) = .ok (c, r) := by
  have hmetric : (Simpls.Cross.start x y).predictors.matrix *ᵥ unitWeight =
      (10 * 10 : ℝ) • unitWeight := by
    rw [gram_eq, gram_unitWeight]
    norm_num
  have hone : (Simpls.Cross.start x y).projector.matrix = 1 := Mat.matrix_identity
  obtain ⟨c, r, hstep, -⟩ := Simpls.exists_step (a := 20) (b := 10) (l := 10)
    (show (Toolkit.exact start).Exact from Toolkit.exact_exact) x.norm_nonneg y.norm_nonneg 0
    unitWeight_unit
    ((Mat.coords_applyT x y).trans covariance)
    (by rw [norm_x, norm_y]; exact Scalar.zeroNorm_mul_lt (by norm_num)) (by norm_num)
    (by rw [hmetric, dotProduct_smul, unitWeight_unit, smul_eq_mul, mul_one])
    (by rw [norm_x]; exact Scalar.zeroNorm_mul_lt (by norm_num)) unitWeight_unit
    (by rw [hmetric, hone, one_mulVec])
    (by rw [norm_x]; exact Scalar.zeroNorm_mul_lt (by norm_num))
  exact ⟨c, r, hstep⟩

theorem simpls_extraction : ∃ r, (Simpls.extraction (.exact start) x y 1).ending = .ok r := by
  obtain ⟨c, r, h⟩ : ∃ c r,
    Simpls.step (.exact start) x.norm y.norm 0 (Simpls.Cross.start x y) = .ok (c, r) := simpls_step
  exact ⟨r, by rw [Simpls.extraction, extract_succ_ok h, extract_zero]⟩

/-- Exact tools, whose start vectors have one entry that is not zero. -/
noncomputable def tools : Toolkit ℝ :=
  .exact fun _ _ => Vec.ofRat fun i => if i.val = 0 then 3 else 0

theorem tools_exact : tools.Exact := Toolkit.exact_exact

noncomputable def pls1 : Model ℝ := .new .pls1 (.int 1) (.text "center")

noncomputable def simpls : Model ℝ := .new (.simpls (.int 0)) (.int 1) (.text "center")

theorem predictors_eq : (⟨1, .center⟩ : Plan).predictors x = x :=
  Plan.predictors_of_centered x_centered

theorem response_eq : (⟨1, .center⟩ : Plan).response (Mat.ofCol y) = y :=
  (Plan.response_of_centered y_centered).trans (Mat.only_ofCol y)

theorem checkPlan_eq : checkPlan (.int 1) (.text "center") = .ok ⟨1, .center⟩ := by cbv

theorem pls1_train : (train tools pls1.algorithm.methodOr ⟨1, .center⟩ true x (Mat.ofCol y)).outcome =
    .ok (.pls1 ((⟨1, .center⟩ : Plan).envelope true x (Mat.ofCol y)) true fit) := by
  refine train_pls1_eq_ok_iff.mpr ⟨fit, ?_, rfl⟩
  rw [predictors_eq, response_eq]
  exact fit_eq

theorem pls1_fit : (pls1.fit tools predictors responses).2.outcome = .ok () :=
  (Model.fit_eq_ok_iff.mpr ⟨⟨1, .center⟩, _, _,
    Model.validate_eq_ok_iff.mpr ⟨checkPlan_eq, readSample_eq, rfl⟩, pls1_train, rfl⟩).1

theorem simpls_fit : (simpls.fit tools predictors responses).2.outcome = .ok () := by
  obtain ⟨r, hr⟩ : ∃ r, (Simpls.extraction tools x y 1).ending = .ok r := simpls_extraction
  refine (Model.fit_eq_ok_iff.mpr ⟨⟨1, .center⟩, _, _,
    Model.validate_eq_ok_iff.mpr ⟨checkPlan_eq, readSample_eq, rfl⟩,
    train_simpls_eq_ok_iff.mpr ⟨r, .whole 0, _, ?_, rfl, Simpls.fit_keep_zero _, rfl⟩, rfl⟩).1
  rw [predictors_eq, response_eq]
  exact hr

end FourRows

/-! ## 3. Models -/

/-- **Both methods for one response agree.**  Of two models with the same number of components and
the same scheme, fitted to the same data, one by deflation and one from cross-products with all
coefficients kept, the regression vectors are equal, and so is what they predict for any rows;
and they do predict for all rows that they accept. -/
theorem simpls_agrees_with_pls1 {tools : Toolkit ℝ} (ht : tools.Exact) (m m' : Model ℝ)
    (x y : Reading ℝ) (hm : m.algorithm.methodOr = .pls1) (hm' : m'.algorithm = .simpls (.int 0))
    (hcount : m.nComponents = m'.nComponents) (hscheme : m.preprocessing = m'.preprocessing)
    (hfit : (m.fit tools x y).2.outcome = .ok ()) (hfit' : (m'.fit tools x y).2.outcome = .ok ()) :
    (∃ b, (m.fit tools x y).1.matrix? "r_hat" = some b ∧
      (m'.fit tools x y).1.matrix? "B" = some b) ∧
    ∀ new, (m.fit tools x y).1.predict new = (m'.fit tools x y).1.predict new ∧
      ((m.fit tools x y).1.Accepts new ↔ ∃ a, (m.fit tools x y).1.predict new = .ok a) := by
  obtain ⟨plan, ⟨n, p, q, x', y', flat⟩, f, f', -, hf, hf', htrained, htrained'⟩ :=
    Model.exists_trained_of_fit_ok hcount hscheme hfit hfit'
  rw [hm] at hf
  rw [hm'] at hf'
  obtain rfl : q = 1 := eq_one_of_train_pls1 hf
  obtain ⟨fit, hpls1, rfl⟩ := train_pls1_eq_ok_iff.mp hf
  obtain ⟨r, number, fit', hend, hnumber, hthinned, rfl⟩ := train_simpls_eq_ok_iff.mp hf'
  obtain rfl : Number.whole 0 = number := Except.ok.inj hnumber
  obtain rfl := Option.some.inj ((Simpls.fit_keep_zero _).symm.trans hthinned)
  have hregression := regression_eq_simpls ht hpls1 hend
  refine ⟨⟨Fitted.table (Mat.ofCol fit.regression), ?_, ?_⟩, fun new => ⟨?_, ?_⟩⟩
  · unfold Model.matrix?
    rw [htrained]
    rfl
  · unfold Model.matrix?
    rw [htrained', hregression]
    rfl
  · refine Model.predict_congr htrained htrained' rfl rfl rfl fun rows _ => ?_
    have hpredict := Pls1.predict_of_fit ht.toExactInverse hpls1
      ((plan.envelope flat x' y').x.apply rows.2)
    rw [hregression] at hpredict
    exact congrArg (fun v => Except.ok ((plan.envelope flat x' y').y.unapply (Mat.ofCol v))) hpredict
  · exact Model.accepts_iff htrained rfl fun rows _ => ⟨_, rfl⟩

open FourRows in
/-- Both methods fit one component to the four rows, and agree on it. -/
theorem simpls_agrees_with_pls1_on_four_rows :
    (pls1.fit tools predictors responses).2.outcome = .ok () ∧
      (simpls.fit tools predictors responses).2.outcome = .ok () ∧
      (∃ b, (pls1.fit tools predictors responses).1.matrix? "r_hat" = some b ∧
        (simpls.fit tools predictors responses).1.matrix? "B" = some b) ∧
      ∀ new, (pls1.fit tools predictors responses).1.predict new =
        (simpls.fit tools predictors responses).1.predict new := by
  have h := simpls_agrees_with_pls1 tools_exact pls1 simpls predictors responses rfl rfl rfl rfl
    pls1_fit simpls_fit
  exact ⟨pls1_fit, simpls_fit, h.1, fun new => (h.2 new).1⟩

end PartialLeastSquares
