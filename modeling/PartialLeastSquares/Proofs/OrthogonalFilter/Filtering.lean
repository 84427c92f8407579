/-
# What an orthogonal filter leaves of its training rows

A fitted filter stores two accounts of its training rows.  `X_osc` is what the removals left, one
component after the other.  Filtering the training rows again, as new rows are filtered, takes all
projections away at once, and that is what the model after the filter is fitted to.

The first account carries nothing of a score that was removed, however many there are.  The second
is the same exactly if there is one component; with two or more it is another matrix, and it carries
something of the scores (`Model.filtered_training_rows`).
-/
import Mathlib
import PartialLeastSquares.Proofs.Model.Refusal
import PartialLeastSquares.Proofs.OrthogonalFilter.Component
import PartialLeastSquares.Proofs.Model.Prediction

namespace PartialLeastSquares

open Matrix

/-! ## 1. A filter and what follows it -/

section Following

variable {K : Type} [Scalar K] {n p q : ℕ} {tools : Toolkit K} {plan : Plan} {flat : Bool}
  {x : Mat K n p}

/-- **A filter has learned something** when its extraction ends well and what follows is accepted
and has learned something from the filtered rows. -/
theorem trainOpls_eq_ok_iff {follow : Mat K n p → Mat K n 1 → Run K (Fitted K n p 1)} {count : ℕ}
    {env : Envelope K p 1} {y : Mat K n 1} {f : Fitted K n p 1} :
    (trainOpls follow count env x y).outcome = .ok f ↔
      ∃ residual inner,
        (OrthogonalFilter.extraction x y.only count).ending = .ok residual ∧
        (follow (OrthogonalFilter.apply
          (OrthogonalFilter.extraction x y.only count).components x) y).outcome = .ok inner ∧
        .opls env ⟨(OrthogonalFilter.extraction x y.only count).components, residual⟩ inner = f := by
  unfold trainOpls
  rw [Run.outcome_record_bind, Run.outcome_bind_eq_ok_iff]
  simp only [Run.outcome_numerical_eq_ok_iff, Run.outcome_bind_eq_ok_iff, Run.outcome_pure,
    Except.ok.injEq, exists_and_left]

theorem train_opls_eq_ok_iff {base : Estimator} {y : Mat K n 1} {f : Fitted K n p 1} :
    (train tools (.opls base) plan flat x y).outcome = .ok f ↔
      ∃ algorithm count scheme residual inner follower,
        base.following = some (algorithm, count, scheme) ∧
        (OrthogonalFilter.extraction (plan.predictors x) (plan.response y)
          plan.components).ending = .ok residual ∧
        checkFollowing algorithm count scheme (plan.filtered x y)
          ((plan.scheme.learn y).apply y) = .ok inner ∧
        (train tools algorithm inner false (plan.filtered x y)
          ((plan.scheme.learn y).apply y)).outcome = .ok follower ∧
        .opls (plan.envelope flat x y) ⟨(OrthogonalFilter.extraction (plan.predictors x)
          (plan.response y) plan.components).components, residual⟩ follower = f := by
  constructor
  · intro h
    cases base with
    | plain v =>
      cases v with
      | null =>
        rw [train, outcome_around, forOne_one, trainOpls_eq_ok_iff] at h
        obtain ⟨residual, follower, hend, hfollow, hf⟩ := h
        obtain ⟨inner, hcheck, htrain⟩ := Run.outcome_bind_eq_ok_iff.mp hfollow
        refine ⟨.pls1, .int 1, .text "center", residual, inner, follower, rfl, hend, hcheck, ?_, hf⟩
        rw [train]
        exact htrain
      | _ => cases h
    | model algorithm count scheme =>
      rw [train, outcome_around, forOne_one, trainOpls_eq_ok_iff] at h
      obtain ⟨residual, follower, hend, hfollow, hf⟩ := h
      obtain ⟨inner, hcheck, htrain⟩ := Run.outcome_bind_eq_ok_iff.mp hfollow
      exact ⟨algorithm, count, scheme, residual, inner, follower, rfl, hend, hcheck, htrain, hf⟩
    | _ => cases h
  · rintro ⟨algorithm, count, scheme, residual, inner, follower, following, hend, hcheck, htrain,
      hf⟩
    rcases Estimator.following_cases following with ⟨rfl, rfl, rfl, rfl⟩ | rfl
    · rw [train, outcome_around, forOne_one, trainOpls_eq_ok_iff]
      rw [train] at htrain
      exact ⟨residual, follower, hend, Run.outcome_bind_eq_ok_iff.mpr ⟨inner, hcheck, htrain⟩, hf⟩
    · rw [train, outcome_around, forOne_one, trainOpls_eq_ok_iff]
      exact ⟨residual, follower, hend, Run.outcome_bind_eq_ok_iff.mpr ⟨inner, hcheck, htrain⟩, hf⟩

end Following

/-! ## 2. The training rows again -/

/-- An accepted plan asks for as many components as the setting says, and for one at least. -/
theorem components_of_checkPlan {nComponents preprocessing : Value} {plan : Plan}
    (h : checkPlan nComponents preprocessing = .ok plan) :
    nComponents.strictInteger? = some (plan.components : Int) ∧ 1 ≤ plan.components := by
  unfold checkPlan at h
  split at h
  · cases h
  · rename_i count hcount
    split at h
    · cases h
    · rename_i hpos
      split at h
      · cases h
      · cases h
        refine ⟨?_, ?_⟩
        · rw [hcount]
          simp only [Option.some.injEq]
          omega
        · simp only
          omega

/-- Data that has been read for a fit can be read again as new rows. -/
theorem readRows_of_readSample {K : Type} [Scalar K] {x y : Reading K} {sample : Sample K}
    (h : readSample x y = .ok sample) :
    Model.readRows x sample.features = .ok ⟨sample.rows, sample.x⟩ := by
  have htable {a : NdArray K} {t : Table K} (h : Table.ofArray? false a = .ok t) :
      Table.ofArray? true a = .ok t := by
    unfold Table.ofArray? at h ⊢
    split at h
    · cases h
    · cases h
    · simp only at h ⊢
      split at h
      · cases h
      · split_ifs at h with hrows hcols
        rw [if_neg (by simp), if_neg hcols]
        exact h
    · cases h
  have hpredictors : ∃ t, readPredictors x = .ok t ∧
      t = ⟨sample.rows, sample.features, sample.x⟩ := by
    unfold readSample at h
    dsimp only at h
    split at h
    · cases h
    · cases h
    · rw [if_neg Bool.false_ne_true] at h
      obtain ⟨t, ht, h⟩ := bind_eq_ok_iff.mp h
      obtain ⟨response, -, h⟩ := bind_eq_ok_iff.mp h
      refine ⟨t, ht, ?_⟩
      generalize (if (response.axes == 1) = true then response.column else response) = shaped at h
      split at h
      · split_ifs at h
        all_goals cases h
        rfl
      · cases h
  obtain ⟨t, ht, rfl⟩ := hpredictors
  unfold readPredictors at ht
  split at ht
  · cases ht
  · cases ht
  · split at ht
    · rename_i t' ht'
      cases ht
      simp only [Model.readRows, htable ht']
      exact dif_pos trivial
    · cases ht

/-- The representation of new rows is what was learned, applied to the rows that were read. -/
theorem Model.transform_eq_ok {K : Type} [Scalar K] {m : Model K} {t : Trained K}
    (h : m.trained = some t) {new : Reading K} {rows : (n : ℕ) × Mat K n t.features}
    (hrows : readRows new t.features = .ok rows) {a : Mat K rows.1 t.fitted.width}
    (ha : t.fitted.transform rows.2 = .ok a) :
    m.transform new = .ok ⟨rows.1, t.fitted.width, a⟩ := by
  unfold transform
  rw [learned_eq h]
  exact bind_eq_ok_iff.mpr ⟨t, rfl, bind_eq_ok_iff.mpr ⟨rows, hrows,
    bind_eq_ok_iff.mpr ⟨a, ha, rfl⟩⟩⟩

/-! ## 3. Three rows, two components -/

namespace ThreeRows

open OrthogonalFilter

noncomputable def x : Mat ℝ 3 3 := Mat.ofRat !![1, 0, 0; 1, 1, 0; 0, 1, 1]

noncomputable def y : Vec ℝ 3 := Vec.ofRat ![1, 0, 0]

noncomputable def kept : Vec ℝ 3 := Vec.ofRat ![1, 0, 0]

noncomputable def first : Component ℝ 3 3 :=
  ⟨Vec.ofRat ![0, 1, 0], Vec.ofRat ![0, 1, 1], Vec.ofRat ![1 / 2, 1, 1 / 2], (2 : ℚ)⟩

noncomputable def between : Mat ℝ 3 3 :=
  Mat.ofRat !![1, 0, 0; 1 / 2, 0, -1 / 2; -1 / 2, 0, 1 / 2]

noncomputable def second : Component ℝ 3 3 :=
  ⟨Vec.ofRat ![0, 0, -1], Vec.ofRat ![0, 1 / 2, -1 / 2], Vec.ofRat ![1, 0, -1], (1 / 2 : ℚ)⟩

noncomputable def remainder : Mat ℝ 3 3 := Mat.ofRat !![1, 0, 0; 0, 0, 0; 0, 0, 0]

noncomputable def filtered : Mat ℝ 3 3 :=
  Mat.ofRat !![1, 0, 0; 1 / 2, 0, -1 / 2; 1 / 2, 0, -1 / 2]

noncomputable def predictive : Pls1.Component ℝ 3 3 :=
  ⟨Vec.ofRat ![1, 0, 0], Vec.ofRat ![1, 1 / 2, 1 / 2], Vec.ofRat ![1, 0, -1 / 3], (2 / 3 : ℚ),
    (3 / 2 : ℚ)⟩

noncomputable def rest : Pls1.Residual ℝ 3 3 :=
  ⟨Mat.ofRat !![0, 0, 1 / 3; 0, 0, -1 / 3; 0, 0, -1 / 3], Vec.ofRat ![1 / 3, -1 / 3, -1 / 3]⟩

theorem norm_x_le : x.norm ≤ 3 := by
  rw [Mat.norm_real]
  refine Real.sqrt_le_iff.mpr ⟨by norm_num, ?_⟩
  simp [x, dotProduct, Fin.sum_univ_succ]
  norm_num

theorem norm_filtered_le : filtered.norm ≤ 3 := by
  rw [Mat.norm_real]
  refine Real.sqrt_le_iff.mpr ⟨by norm_num, ?_⟩
  simp [filtered, dotProduct, Fin.sum_univ_succ]
  norm_num

theorem norm_y_le : y.norm ≤ 1 := by
  rw [Vec.norm_real]
  refine Real.sqrt_le_iff.mpr ⟨by norm_num, ?_⟩
  simp [y, dotProduct, Fin.sum_univ_succ]

theorem long_of_le {s : ℝ} (hs : 1 / 2 ≤ s) : Scalar.zeroNorm * (x.norm * x.norm) < s :=
  Scalar.zeroNorm_mul_lt (by nlinarith [norm_x_le, x.norm_nonneg])

theorem initialWeight_eq : initialWeight x y = .ok kept := by
  refine normalize_of_smul (a := 1) ?_ ?_ (mul_nonneg x.norm_nonneg y.norm_nonneg)
    (Scalar.zeroNorm_mul_lt ?_)
  · funext i
    fin_cases i <;> simp [x, y, kept, mulVec, dotProduct, Fin.sum_univ_succ]
  · simp [kept, dotProduct, Fin.sum_univ_succ]
  · nlinarith [norm_x_le, norm_y_le, x.norm_nonneg, y.norm_nonneg]

theorem kept_unit : kept.coords ⬝ᵥ kept.coords = 1 := by
  simp [kept, dotProduct, Fin.sum_univ_succ]

theorem deflates_first : Deflates x.matrix first.weight.coords first.score.coords
    first.loading.coords between.matrix := by
  refine ⟨?_, ?_, ?_, ?_⟩
  · funext i
    fin_cases i <;> simp [x, first, mulVec, dotProduct, Fin.sum_univ_succ]
  · simp [first, dotProduct, Fin.sum_univ_succ]
  · funext i
    fin_cases i <;> simp [x, first, mulVec, dotProduct, Fin.sum_univ_succ] <;> norm_num
  · ext i j
    fin_cases i <;> fin_cases j <;> simp [x, first, between, vecMulVec] <;> norm_num

theorem deflates_second : Deflates between.matrix second.weight.coords second.score.coords
    second.loading.coords remainder.matrix := by
  refine ⟨?_, ?_, ?_, ?_⟩
  · funext i
    fin_cases i <;> simp [between, second, mulVec, dotProduct, Fin.sum_univ_succ] <;> norm_num
  · simp [second, dotProduct, Fin.sum_univ_succ]; norm_num
  · funext i
    fin_cases i <;> simp [between, second, mulVec, dotProduct, Fin.sum_univ_succ]
    norm_num
  · ext i j
    fin_cases i <;> fin_cases j <;> simp [between, second, remainder, vecMulVec] <;> norm_num

theorem step_first : step x.norm kept 0 x = .ok (first, between) := by
  refine step_of_deflates (t := Vec.ofRat ![1, 1, 0]) (l := Vec.ofRat ![1, 1 / 2, 0]) (ν := 1 / 2)
    x.norm_nonneg kept_unit ?_ ?_ deflates_first ?_ ?_ ?_ ?_
    (Scalar.zeroNorm_mul_lt (by norm_num)) (long_of_le ?_) (long_of_le ?_)
  · simp [first, dotProduct, Fin.sum_univ_succ]
  · simp [first, kept, dotProduct, Fin.sum_univ_succ]
  · simp [first, dotProduct, Fin.sum_univ_succ]
    norm_num
  · funext i
    fin_cases i <;> simp [x, kept, mulVec, dotProduct, Fin.sum_univ_succ]
  · funext i
    fin_cases i <;> simp [x, mulVec, dotProduct, Fin.sum_univ_succ]
    norm_num
  · funext i
    fin_cases i <;> simp [kept, first]
  · simp [dotProduct, Fin.sum_univ_succ]
    norm_num
  · simp [first, dotProduct, Fin.sum_univ_succ]
    norm_num

theorem step_second : step x.norm kept 1 between = .ok (second, remainder) := by
  refine step_of_deflates (t := Vec.ofRat ![1, 1 / 2, -1 / 2]) (l := Vec.ofRat ![1, 0, -1 / 3])
    (ν := 1 / 3) x.norm_nonneg kept_unit ?_ ?_ deflates_second ?_ ?_ ?_ ?_
    (Scalar.zeroNorm_mul_lt (by norm_num)) (long_of_le ?_) (long_of_le ?_)
  · simp [second, dotProduct, Fin.sum_univ_succ]
  · simp [second, kept, dotProduct, Fin.sum_univ_succ]
  · simp [second, dotProduct, Fin.sum_univ_succ]
    norm_num
  · funext i
    fin_cases i <;> simp [between, kept, mulVec, dotProduct, Fin.sum_univ_succ]
  · funext i
    fin_cases i <;> simp [between, mulVec, dotProduct, Fin.sum_univ_succ]
    norm_num
  · funext i
    fin_cases i <;> simp [kept, second]
    norm_num
  · simp [dotProduct, Fin.sum_univ_succ]
    norm_num
  · simp [second, dotProduct, Fin.sum_univ_succ]
    norm_num

theorem extraction_two : extraction x y 2 = ⟨[first, second], .ok remainder⟩ := by
  rw [extraction, initialWeight_eq]
  dsimp only
  rw [extract_succ_ok step_first, extract_succ_ok step_second, extract_zero]

theorem apply_two : apply [first, second] x = filtered := by
  have hprod : (weights [first, second]).matrix * (loadings [first, second]).matrixᵀ =
      !![0, 0, 0; 1 / 2, 1, 1 / 2; -1, 0, 1] := by
    rw [weights, loadings, Mat.ofCols_cons_mul_transpose, Mat.ofCols_cons_mul_transpose]
    ext i j
    fin_cases i <;> fin_cases j <;> simp [first, second, vecMulVec]
  refine Mat.matrix_injective (Matrix.ext fun i j => ?_)
  rw [matrix_apply, hprod]
  fin_cases i <;> fin_cases j <;>
    simp [x, filtered, mul_apply, Fin.sum_univ_succ] <;> norm_num

theorem predictive_unit : predictive.weight.coords ⬝ᵥ predictive.weight.coords = 1 := by
  simp [predictive, dotProduct, Fin.sum_univ_succ]

theorem covariance_predictive :
    filtered.matrixᵀ *ᵥ y.coords = (1 : ℝ) • predictive.weight.coords := by
  funext i
  fin_cases i <;> simp [filtered, y, predictive, mulVec, dotProduct, Fin.sum_univ_succ]

theorem extracts_predictive : Pls1.Extracts ⟨filtered, y⟩ predictive rest where
  covariance := ⟨1, one_pos, covariance_predictive⟩
  unit := predictive_unit
  deflates := by
    refine ⟨?_, ?_, ?_, ?_⟩
    · funext i
      fin_cases i <;> simp [filtered, predictive, mulVec, dotProduct, Fin.sum_univ_succ]
    · simp [predictive, dotProduct, Fin.sum_univ_succ]
      norm_num
    · funext i
      fin_cases i <;> simp [filtered, predictive, mulVec, dotProduct, Fin.sum_univ_succ]
      norm_num
    · ext i j
      fin_cases i <;> fin_cases j <;> simp [filtered, predictive, rest, vecMulVec] <;> norm_num
  coefficient := by
    simp [y, predictive, dotProduct, Fin.sum_univ_succ]
    norm_num
  response := by
    funext i
    fin_cases i <;> simp [y, predictive, rest] <;> norm_num

theorem step_predictive :
    Pls1.step filtered.norm y.norm 0 ⟨filtered, y⟩ = .ok (predictive, rest) := by
  have hfiltered := norm_filtered_le
  have hy := norm_y_le
  have hfiltered₀ := filtered.norm_nonneg
  have hy₀ := y.norm_nonneg
  have hsq : predictive.score.coords ⬝ᵥ predictive.score.coords = 3 / 2 := by
    simp [predictive, dotProduct, Fin.sum_univ_succ]
    norm_num
  refine Pls1.step_of_extracts hfiltered₀ hy₀ extracts_predictive covariance_predictive ?_ ?_ ?_
  · exact Scalar.zeroNorm_mul_lt (by nlinarith)
  · rw [hsq]
    simp [predictive]
  · rw [hsq]
    exact Scalar.zeroNorm_mul_lt (by nlinarith)

noncomputable def tools : Toolkit ℝ := .exact fun _ _ => Vec.zero

theorem fit_predictive : Pls1.fit tools (Pls1.extraction filtered y 1) =
    .ok ⟨[predictive], Vec.ofRat ![2 / 3, 0, 0]⟩ := by
  rw [Pls1.extraction, extract_succ_ok step_predictive, extract_zero]
  refine Pls1.fit_of_one ?_ (funext fun i => ?_)
  · simp [predictive, dotProduct, Fin.sum_univ_succ]
  · fin_cases i <;> simp [predictive]

noncomputable def predictors : Reading ℝ := .array (.ofRat [3, 3] [1, 0, 0, 1, 1, 0, 0, 1, 1])

noncomputable def responses : Reading ℝ := .array (.ofRat [3] [1, 0, 0])

theorem readSample_eq : readSample predictors responses = .ok ⟨3, 3, 1, x, Mat.ofCol y, true⟩ := by
  have hx : (NdArray.ofRat [3, 3] [1, 0, 0, 1, 1, 0, 0, 1, 1]).toMat 3 3 = x := by
    refine Mat.ext fun i j => ?_
    fin_cases i <;> fin_cases j <;> simp [NdArray.toMat, x]
  have hy : (NdArray.ofRat [3] [1, 0, 0]).toMat 3 1 = Mat.ofCol y := by
    refine Mat.ext fun i j => ?_
    fin_cases i <;> fin_cases j <;> simp [NdArray.toMat, y]
  rw [predictors, responses, ← hx, ← hy]
  exact readSample_real (by decide) (by decide) _ _ rfl rfl rfl

/-- A filter of two components and a model that deflates once. -/
noncomputable def model : Model ℝ :=
  .new (.opls (.model .pls1 (.int 1) (.text "none"))) (.int 2) (.text "none")

def plan : Plan := ⟨2, .none⟩

theorem filter_eq : extraction (plan.predictors x) (plan.response (Mat.ofCol y)) plan.components =
    ⟨[first, second], .ok remainder⟩ := by
  rw [plan, Plan.predictors_none, Plan.response_none]
  exact extraction_two

theorem filtered_eq : plan.filtered x (Mat.ofCol y) = filtered := by
  rw [Plan.filtered, filter_eq, plan, Plan.predictors_none, apply_two]

theorem checkFollowing_eq : checkFollowing .pls1 (.int 1) (.text "none")
    (plan.filtered x (Mat.ofCol y)) ((plan.scheme.learn (Mat.ofCol y)).apply (Mat.ofCol y)) =
      .ok ⟨1, .none⟩ :=
  checkFollowing_eq_ok_iff.mpr ⟨by cbv, checkEntries_real _ _, rfl⟩

noncomputable def follower : Fitted ℝ 3 3 1 :=
  .pls1 ((⟨1, .none⟩ : Plan).envelope false (plan.filtered x (Mat.ofCol y))
    ((plan.scheme.learn (Mat.ofCol y)).apply (Mat.ofCol y))) true
    ⟨[predictive], Vec.ofRat ![2 / 3, 0, 0]⟩

theorem train_follower : (train tools .pls1 ⟨1, .none⟩ false (plan.filtered x (Mat.ofCol y))
    ((plan.scheme.learn (Mat.ofCol y)).apply (Mat.ofCol y))).outcome = .ok follower := by
  have hresponse : (plan.scheme.learn (Mat.ofCol y)).apply (Mat.ofCol y) = Mat.ofCol y :=
    ColumnStats.trivial_apply _
  refine train_pls1_eq_ok_iff.mpr ⟨_, ?_, rfl⟩
  rw [Plan.predictors_none, hresponse, Plan.response_none, filtered_eq]
  exact fit_predictive

noncomputable def learned : Trained ℝ :=
  ⟨3, 3, 1, .opls (plan.envelope true x (Mat.ofCol y)) ⟨[first, second], remainder⟩ follower⟩

theorem model_fit : (model.fit tools predictors responses).2.outcome = .ok () ∧
    (model.fit tools predictors responses).1 = { model with trained := some learned } := by
  refine Model.fit_eq_ok_iff.mpr ⟨plan, _, _,
    Model.validate_eq_ok_iff.mpr ⟨by cbv, readSample_eq, rfl⟩,
    train_opls_eq_ok_iff.mpr ⟨.pls1, .int 1, .text "none", remainder, ⟨1, .none⟩, follower, rfl,
      congrArg Extraction.ending filter_eq, checkFollowing_eq, train_follower, rfl⟩, ?_⟩
  dsimp only
  rw [filter_eq]
  rfl

end ThreeRows

/-! ## 4. Two accounts of the training rows -/

namespace Model

section Accounts

variable {tools : Toolkit ℝ} {m : Model ℝ} {base : Estimator} {x y : Reading ℝ}

/-- **What a fitted filter leaves of its training rows.**  `X_osc` carries nothing of a score in
`T_orth`.  The training rows filtered again, to which the model after the filter is fitted, are
`X_osc` if and only if one component was asked for, and carry nothing of the scores if and only if
one was. -/
theorem filtered_training_rows (hmethod : m.algorithm = .opls base)
    (hfit : (m.fit tools x y).2.outcome = .ok ()) :
    ∃ (n p k : ℕ) (filtered residual : Mat ℝ n p) (scores : Mat ℝ n k),
      (m.fit tools x y).1.transform x = .ok ⟨n, p, filtered⟩ ∧
      (m.fit tools x y).1.matrix? "X_osc" = some ⟨n, p, residual⟩ ∧
      (m.fit tools x y).1.matrix? "T_orth" = some ⟨n, k, scores⟩ ∧
      m.nComponents.strictInteger? = some (k : Int) ∧ 1 ≤ k ∧
      residual.matrixᵀ * scores.matrix = 0 ∧
      (filtered = residual ↔ k = 1) ∧
      (filtered.matrixᵀ * scores.matrix = 0 ↔ k = 1) ∧
      ∃ algorithm count scheme inner response env filter follower,
        base.following = some (algorithm, count, scheme) ∧
        checkFollowing algorithm count scheme filtered response = .ok inner ∧
        (train tools algorithm inner false filtered response).outcome = .ok follower ∧
        (m.fit tools x y).1.trained = some ⟨n, p, 1, .opls env filter follower⟩ := by
  obtain ⟨plan, sample, f, hvalid, htrain, hm⟩ := fit_eq_ok_iff.mp ⟨hfit, rfl⟩
  obtain ⟨hplan, hsample, hcheck⟩ := validate_eq_ok_iff.mp hvalid
  obtain ⟨rows, features, targets, a, b, flat⟩ := sample
  rw [hmethod] at htrain hcheck
  obtain rfl : targets = 1 := eq_one_of_checkMethod (.inr (.inr (.inr ⟨_, rfl⟩))) hcheck
  obtain ⟨algorithm, count, scheme, residual, inner, follower, following, hend, hfollow, hinner,
    rfl⟩ := train_opls_eq_ok_iff.mp htrain
  obtain ⟨hlength, w, hchain⟩ := OrthogonalFilter.chain_of_extraction hend
  obtain ⟨hcount, hpos⟩ := components_of_checkPlan hplan
  have hrows := readRows_of_readSample hsample
  set comps := (OrthogonalFilter.extraction (plan.predictors a) (plan.response b)
    plan.components).components
  have htrained : (m.fit tools x y).1.trained =
      some ⟨rows, features, 1, .opls (plan.envelope flat a b) ⟨comps, residual⟩ follower⟩ :=
    (congrArg Model.trained hm).symm
  have hsome : comps ≠ [] := by
    intro hnil
    rw [hnil, List.length_nil] at hlength
    omega
  obtain ⟨hsame, hnothing⟩ := OrthogonalFilter.chain_apply_eq_iff hchain hsome
  refine ⟨rows, features, comps.length, plan.filtered a b, residual, OrthogonalFilter.scores comps,
    ?_, ?_, ?_, ?_, ?_, OrthogonalFilter.chain_residual hchain, hsame, hnothing,
    algorithm, count, scheme, inner, _, _, _, follower, following, hfollow, hinner, htrained⟩
  · exact transform_eq_ok htrained hrows rfl
  · rw [matrix?, htrained]
    rfl
  · rw [matrix?, htrained]
    rfl
  · rw [hlength, hcount]
  · rw [hlength]
    exact hpos

end Accounts

open ThreeRows in
/-- The training rows filtered again are not what two removals leave of them, and carry something of
the scores that were removed. -/
theorem three_rows_filtered_again :
    (model.fit tools predictors responses).2.outcome = .ok () ∧
      (model.fit tools predictors responses).1.transform predictors = .ok ⟨3, 3, filtered⟩ ∧
      (model.fit tools predictors responses).1.matrix? "X_osc" = some ⟨3, 3, remainder⟩ ∧
      (model.fit tools predictors responses).1.matrix? "T_orth" =
        some ⟨3, 2, OrthogonalFilter.scores [first, second]⟩ ∧
      filtered ≠ remainder ∧
      filtered.matrixᵀ * (OrthogonalFilter.scores [first, second]).matrix ≠ 0 := by
  refine ⟨model_fit.1, ?_, ?_, ?_, ?_, ?_⟩
  · rw [model_fit.2]
    exact transform_eq_ok (t := ThreeRows.learned) rfl (readRows_of_readSample readSample_eq)
      (congrArg Except.ok ((congrArg _ (ColumnStats.trivial_apply x)).trans apply_two))
  · rw [model_fit.2]
    rfl
  · rw [model_fit.2]
    rfl
  · intro hsame
    have hentry := congrArg (fun a => a.get 1 0) hsame
    simp [filtered, remainder] at hentry
  · intro hzero
    have hentry := congrFun (congrFun hzero 0) ⟨0, by decide⟩
    rw [mul_apply] at hentry
    simp [OrthogonalFilter.scores, filtered, first, Mat.matrix_ofCols, Fin.sum_univ_succ] at hentry

open ThreeRows in
/-- A filter of two components: its two accounts of those rows differ. -/
theorem filtered_training_rows_three_rows :
    (model.fit tools predictors responses).2.outcome = .ok () ∧
      ∃ (n p : ℕ) (filtered residual : Mat ℝ n p) (scores : Mat ℝ n 2),
        (model.fit tools predictors responses).1.transform predictors = .ok ⟨n, p, filtered⟩ ∧
        (model.fit tools predictors responses).1.matrix? "X_osc" = some ⟨n, p, residual⟩ ∧
        (model.fit tools predictors responses).1.matrix? "T_orth" = some ⟨n, 2, scores⟩ ∧
        residual.matrixᵀ * scores.matrix = 0 ∧ filtered ≠ residual ∧
        filtered.matrixᵀ * scores.matrix ≠ 0 := by
  refine ⟨model_fit.1, ?_⟩
  obtain ⟨n, p, k, filtered, residual, scores, htransform, hosc, horth, hk, -, hzero, hsame,
    hnothing, -⟩ := filtered_training_rows rfl model_fit.1
  obtain rfl : k = 2 := by
    have hcount : (2 : Int) = k := Option.some.inj hk
    omega
  exact ⟨n, p, filtered, residual, scores, htransform, hosc, horth, hzero,
    fun h => absurd (hsame.mp h) (by decide), fun h => absurd (hnothing.mp h) (by decide)⟩

end Model

end PartialLeastSquares
