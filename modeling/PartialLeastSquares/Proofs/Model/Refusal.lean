/-
# Refusals

`PLSModel.fit` refuses settings or data that it cannot accept.  Most refusals come from
`_validate`, before anything is changed, and leave a model what it has learned.  The model that
follows an orthogonal filter is only looked at in `OPLS.fit_state`, once the filter has been
fitted, and by then the outer fit has begun: a refusal of the inner model, at any depth, costs the
outer model what it had learned (`RefusedWithin`).

There is no other way to lose it by a refusal: a method that has been checked refuses nothing
(`train_refused_iff`).
-/
import Mathlib
import PartialLeastSquares.Proofs.Model.Training
import PartialLeastSquares.Proofs.Pls1.Optimality
import PartialLeastSquares.Proofs.Preprocessing

namespace PartialLeastSquares

/-! ## 1. Where a refusal can come from -/

/-- The model that follows a filter, as it is configured or by default. -/
def Estimator.following : Estimator → Option (Estimator × Value × Value)
  | .plain .null => some (.pls1, .int 1, .text "center")
  | .model algorithm nComponents preprocessing => some (algorithm, nComponents, preprocessing)
  | _ => none

/-- What follows a filter is the default, or what it is configured with. -/
theorem Estimator.following_cases {base algorithm : Estimator} {count scheme : Value}
    (h : base.following = some (algorithm, count, scheme)) :
    base = .plain .null ∧ algorithm = .pls1 ∧ count = .int 1 ∧ scheme = .text "center" ∨
      base = .model algorithm count scheme := by
  unfold following at h
  split at h
  · simp only [Option.some.injEq, Prod.mk.injEq] at h
    obtain ⟨rfl, rfl, rfl⟩ := h
    exact .inl ⟨rfl, rfl, rfl, rfl⟩
  · obtain ⟨rfl, rfl, rfl⟩ := h
    exact .inr rfl
  · cases h

section Within

variable {K : Type} [Scalar K] {n p q : Nat}

/-- What the filter of a fit leaves of the predictors. -/
def Plan.filtered (plan : Plan) (x : Mat K n p) (y : Mat K n 1) : Mat K n p :=
  OrthogonalFilter.apply (OrthogonalFilter.extraction (plan.predictors x) (plan.response y)
    plan.components).components (plan.predictors x)

/-- **A refusal from within a filter:** the filter is fitted, and the model that follows it is
refused for its settings or the filtered data, or is a filter itself and refused from within. -/
inductive RefusedWithin : {q : Nat} → Estimator → Plan → Mat K n p → Mat K n q → Invalid → Prop
  | here {base algorithm : Estimator} {count scheme : Value} {plan : Plan} {x residual : Mat K n p}
      {y : Mat K n 1} {why : Invalid} (following : base.following = some (algorithm, count, scheme))
      (filter : (OrthogonalFilter.extraction (plan.predictors x) (plan.response y)
        plan.components).ending = .ok residual)
      (refused : checkFollowing algorithm count scheme (plan.filtered x y)
        ((plan.scheme.learn y).apply y) = .error (.invalid why)) :
      RefusedWithin (.opls base) plan x y why
  | deeper {base algorithm : Estimator} {count scheme : Value} {plan inner : Plan}
      {x residual : Mat K n p} {y : Mat K n 1} {why : Invalid}
      (following : base.following = some (algorithm, count, scheme))
      (filter : (OrthogonalFilter.extraction (plan.predictors x) (plan.response y)
        plan.components).ending = .ok residual)
      (accepted : checkFollowing algorithm count scheme (plan.filtered x y)
        ((plan.scheme.learn y).apply y) = .ok inner)
      (refused : RefusedWithin algorithm inner (plan.filtered x y)
        ((plan.scheme.learn y).apply y) why) :
      RefusedWithin (.opls base) plan x y why

end Within

/-! ## 2. Methods that have been checked -/

/-- One response is required of a method exactly when there is one. -/
theorem eq_one_of_checkResponses {q : Nat} (h : checkResponses .one q = .ok ()) : q = 1 := by
  unfold checkResponses ResponseBounds.refusal? at h
  rw [if_pos rfl] at h
  split at h
  · rename_i hnone
    split at hnone
    · assumption
    · cases hnone
  · cases h

theorem Run.outcome_numerical_ne_invalid {K α : Type} {outcome : Except (NumericalError K) α}
    {why : Invalid} : (numerical outcome).outcome ≠ .error (.invalid why) := by
  cases outcome with
  | error e => exact fun h => nomatch h
  | ok a => exact fun h => nomatch h

section Methods

variable {K : Type} [Scalar K] {n p q : Nat} {tools : Toolkit K} {plan : Plan} {flat : Bool}
  {x : Mat K n p} {why : Invalid}

theorem trainPls1_ne_invalid {predicts : Bool} {count : Nat} {env : Envelope K p 1} {y : Mat K n 1} :
    (trainPls1 tools predicts count env x y).outcome ≠ .error (.invalid why) := by
  unfold trainPls1
  rw [Run.outcome_record_bind]
  intro h
  rcases Run.outcome_bind_eq_error_iff.mp h with h | ⟨_, _, h⟩
  · exact Run.outcome_numerical_ne_invalid h
  · cases h

/-- The method from cross-products refuses nothing once its coefficients are accepted. -/
theorem trainSimpls_ne_invalid {coefficients : Value} {number : Number} {count : Nat}
    {env : Envelope K p 1} {y : Mat K n 1}
    (hc : checkCoefficients (K := K) coefficients = .ok number) :
    (trainSimpls tools coefficients count env x y).outcome ≠ .error (.invalid why) := by
  unfold trainSimpls
  rw [Run.outcome_record_bind]
  intro h
  rcases Run.outcome_bind_eq_error_iff.mp h with h | ⟨_, _, h⟩
  · exact Run.outcome_numerical_ne_invalid h
  · rcases Run.outcome_bind_eq_error_iff.mp h with h | ⟨_, _, h⟩
    · exact nomatch hc.symm.trans h
    · split at h
      · cases h
      · cases h

/-- The method in feature space refuses nothing once its settings are accepted. -/
theorem trainKernelPls_ne_invalid {kernel : Estimator} {tol maxIter seed : Value}
    {settings : KernelPls.Settings K} {count : Nat} {env : Envelope K p q} {y : Mat K n q}
    (hs : checkIteration tol maxIter seed = .ok settings) :
    (trainKernelPls tools kernel tol maxIter seed count env x y).outcome ≠
      .error (.invalid why) := by
  unfold trainKernelPls
  simp only [hs, Run.outcome_ok_bind]
  intro h
  split at h
  · rw [Run.outcome_ok_bind] at h
    rcases Run.outcome_bind_eq_error_iff.mp h with h | ⟨_, _, h⟩
    · unfold kernelOf at h
      split at h <;> cases h
    · split at h
      · rw [Run.outcome_ok_bind, Run.outcome_record_bind] at h
        split at h
        · cases h
        · cases h
        · cases h
        · rcases Run.outcome_bind_eq_error_iff.mp h with h | ⟨_, _, h⟩
          · exact Run.outcome_numerical_ne_invalid h
          · cases h
      · cases h
  · cases h

/-- **A filter is refused** when it is fitted and what follows it is refused. -/
theorem trainOpls_refused_iff {follow : Mat K n p → Mat K n 1 → Run K (Fitted K n p 1)}
    {count : Nat} {env : Envelope K p 1} {y : Mat K n 1} :
    (trainOpls follow count env x y).outcome = .error (.invalid why) ↔
      (∃ r, (OrthogonalFilter.extraction x y.only count).ending = .ok r) ∧
      (follow (OrthogonalFilter.apply
        (OrthogonalFilter.extraction x y.only count).components x) y).outcome =
          .error (.invalid why) := by
  unfold trainOpls
  rw [Run.outcome_record_bind, Run.outcome_bind_eq_error_iff]
  constructor
  · rintro (h | ⟨r, hr, h⟩)
    · exact absurd h Run.outcome_numerical_ne_invalid
    · refine ⟨⟨r, Run.outcome_numerical_eq_ok_iff.mp hr⟩, ?_⟩
      rcases Run.outcome_bind_eq_error_iff.mp h with h | ⟨_, _, h⟩
      · exact h
      · cases h
  · rintro ⟨⟨r, hr⟩, h⟩
    exact .inr ⟨r, Run.outcome_numerical_eq_ok_iff.mpr hr,
      Run.outcome_bind_eq_error_iff.mpr (.inl h)⟩

/-- **What a filter is followed by** is checked and fitted to what the filter leaves. -/
theorem train_opls_refused_iff {base algorithm : Estimator} {count scheme : Value} {y : Mat K n 1}
    (following : base.following = some (algorithm, count, scheme)) :
    (train tools (.opls base) plan flat x y).outcome = .error (.invalid why) ↔
      (∃ r, (OrthogonalFilter.extraction (plan.predictors x) (plan.response y)
        plan.components).ending = .ok r) ∧
      (checkFollowing algorithm count scheme (plan.filtered x y)
          ((plan.scheme.learn y).apply y) = .error (.invalid why) ∨
        ∃ inner, checkFollowing (K := K) algorithm count scheme (plan.filtered x y)
            ((plan.scheme.learn y).apply y) = .ok inner ∧
          (train tools algorithm inner false (plan.filtered x y)
            ((plan.scheme.learn y).apply y)).outcome = .error (.invalid why)) := by
  rcases Estimator.following_cases following with ⟨rfl, rfl, rfl, rfl⟩ | rfl
  · rw [train, outcome_around, forOne_one, trainOpls_refused_iff, Run.outcome_bind_eq_error_iff]
    simp only [train]
    rfl
  · rw [train, outcome_around, forOne_one, trainOpls_refused_iff, Run.outcome_bind_eq_error_iff]
    rfl

/-- The requirement on the number of responses is one of the requirements of a method. -/
theorem eq_one_of_checkMethod {method : Estimator} (hone : method = .pls1 ∨
      method = .transformOnly ∨ (∃ c, method = .simpls c) ∨ ∃ base, method = .opls base)
    (h : checkMethod (K := K) method q = .ok ()) : q = 1 := by
  have hresponses : checkResponses .one q = .ok () := by
    cases hr : checkResponses .one q with
    | ok _ => rfl
    | error why =>
      rcases hone with rfl | rfl | ⟨c, rfl⟩ | ⟨base, rfl⟩
      · simp only [checkMethod, hr] at h
        cases h
      · simp only [checkMethod, hr] at h
        cases h
      · simp only [checkMethod, hr] at h
        split at h <;> cases h
      · unfold checkMethod at h
        split at h <;> simp_all
  exact eq_one_of_checkResponses hresponses

/-- **A method that is no filter refuses nothing** once it has been checked. -/
theorem train_ne_invalid {method : Estimator} {y : Mat K n q} (hleaf : ∀ base, method ≠ .opls base)
    (hcheck : checkMethod (K := K) method.methodOr q = .ok ()) :
    (train tools method plan flat x y).outcome ≠ .error (.invalid why) := by
  cases method with
  | plain v =>
    cases v with
    | null =>
      obtain rfl : q = 1 := eq_one_of_checkMethod (.inl rfl) hcheck
      rw [train, outcome_around, forOne_one]
      exact trainPls1_ne_invalid
    | _ => cases hcheck
  | kernel k => cases hcheck
  | pls1 =>
    obtain rfl : q = 1 := eq_one_of_checkMethod (.inl rfl) hcheck
    rw [train, outcome_around, forOne_one]
    exact trainPls1_ne_invalid
  | transformOnly =>
    obtain rfl : q = 1 := eq_one_of_checkMethod (.inr (.inl rfl)) hcheck
    rw [train, outcome_around, forOne_one]
    exact trainPls1_ne_invalid
  | simpls c =>
    obtain rfl : q = 1 := eq_one_of_checkMethod (.inr (.inr (.inl ⟨c, rfl⟩))) hcheck
    rw [train, outcome_around, forOne_one]
    cases hc : checkCoefficients (K := K) c with
    | ok number => exact trainSimpls_ne_invalid hc
    | error e =>
      simp only [Estimator.methodOr, checkMethod, hc] at hcheck
      cases hcheck
  | kernelPls kernel tol maxIter seed =>
    rw [train, outcome_around]
    cases hs : (checkIteration tol maxIter seed : Except Invalid (KernelPls.Settings K)) with
    | ok settings => exact trainKernelPls_ne_invalid hs
    | error e =>
      simp only [Estimator.methodOr, checkMethod, hs] at hcheck
      cases hcheck
  | opls base => exact absurd rfl (hleaf base)
  | model algorithm count scheme => cases hcheck

theorem RefusedWithin.exists_opls {method : Estimator} {y : Mat K n q}
    (h : RefusedWithin method plan x y why) : ∃ base, method = .opls base := by
  cases h with
  | here => exact ⟨_, rfl⟩
  | deeper => exact ⟨_, rfl⟩

/-- **A filter refuses from within and in no other way,** if what follows it does. -/
theorem train_opls_refusedWithin_iff {base algorithm : Estimator} {count scheme : Value}
    {y : Mat K n 1} (following : base.following = some (algorithm, count, scheme))
    (hinner : ∀ (inner : Plan) (x : Mat K n p) (y : Mat K n 1),
      checkMethod (K := K) algorithm.methodOr 1 = .ok () →
      ((train tools algorithm inner false x y).outcome = .error (.invalid why) ↔
        RefusedWithin algorithm inner x y why)) :
    (train tools (.opls base) plan flat x y).outcome = .error (.invalid why) ↔
      RefusedWithin (.opls base) plan x y why := by
  rw [train_opls_refused_iff following]
  constructor
  · rintro ⟨⟨r, hr⟩, h | ⟨inner, haccepted, h⟩⟩
    · exact .here following hr h
    · exact .deeper following hr haccepted
        ((hinner inner _ _ (checkFollowing_eq_ok_iff.mp haccepted).2.2).mp h)
  · intro h
    cases h with
    | here following' hr h =>
      obtain ⟨rfl, rfl, rfl⟩ := Option.some.inj (following.symm.trans following')
      exact ⟨⟨_, hr⟩, .inl h⟩
    | deeper following' hr haccepted h =>
      obtain ⟨rfl, rfl, rfl⟩ := Option.some.inj (following.symm.trans following')
      exact ⟨⟨_, hr⟩, .inr ⟨_, haccepted,
        (hinner _ _ _ (checkFollowing_eq_ok_iff.mp haccepted).2.2).mpr h⟩⟩

/-- A method that is no filter refuses nothing, from within or otherwise. -/
theorem train_refused_iff_of_leaf {method : Estimator} {y : Mat K n q}
    (hleaf : ∀ base, method ≠ .opls base)
    (hcheck : checkMethod (K := K) method.methodOr q = .ok ()) :
    (train tools method plan flat x y).outcome = .error (.invalid why) ↔
      RefusedWithin method plan x y why := by
  refine ⟨fun h => absurd h (train_ne_invalid hleaf hcheck), fun h => ?_⟩
  obtain ⟨base, rfl⟩ := h.exists_opls
  exact absurd rfl (hleaf base)

end Methods

/-- **A method that has been checked refuses from within a filter and in no other way.**  The
recursion follows the nesting of the filters. -/
theorem train_refused_iff {K : Type} [Scalar K] {n p : Nat} {tools : Toolkit K} {why : Invalid} :
    ∀ (method : Estimator) {q : Nat} (plan : Plan) (flat : Bool) (x : Mat K n p) (y : Mat K n q),
      checkMethod (K := K) method.methodOr q = .ok () →
      ((train tools method plan flat x y).outcome = .error (.invalid why) ↔
        RefusedWithin method plan x y why)
  | .opls (.plain v), q, plan, flat, x, y, hcheck => by
    cases v with
    | null =>
      obtain rfl : q = 1 := eq_one_of_checkMethod (.inr (.inr (.inr ⟨_, rfl⟩))) hcheck
      exact train_opls_refusedWithin_iff rfl fun inner x y h =>
        train_refused_iff_of_leaf (fun _ hc => nomatch hc) h
    | _ => cases hcheck
  | .opls (.model algorithm count scheme), q, plan, flat, x, y, hcheck => by
    obtain rfl : q = 1 := eq_one_of_checkMethod (.inr (.inr (.inr ⟨_, rfl⟩))) hcheck
    exact train_opls_refusedWithin_iff rfl fun inner x y h =>
      train_refused_iff algorithm inner false x y h
  | .opls (.kernel _), _, _, _, _, _, hcheck
  | .opls .pls1, _, _, _, _, _, hcheck
  | .opls .transformOnly, _, _, _, _, _, hcheck
  | .opls (.simpls _), _, _, _, _, _, hcheck
  | .opls (.kernelPls _ _ _ _), _, _, _, _, _, hcheck
  | .opls (.opls _), _, _, _, _, _, hcheck => by cases hcheck
  | .plain _, _, _, _, _, _, hcheck
  | .kernel _, _, _, _, _, _, hcheck
  | .pls1, _, _, _, _, _, hcheck
  | .transformOnly, _, _, _, _, _, hcheck
  | .simpls _, _, _, _, _, _, hcheck
  | .kernelPls _ _ _ _, _, _, _, _, _, hcheck
  | .model _ _ _, _, _, _, _, _, hcheck =>
    train_refused_iff_of_leaf (fun _ hc => nomatch hc) hcheck

/-! ## 3. Models -/

namespace Model

section Refusals

variable {K : Type} [Scalar K] {tools : Toolkit K} {m : Model K} {x y : Reading K} {why : Invalid}

/-- **A model is refused from within** if its own settings and data are accepted and its method is a
filter that refuses from within. -/
def RefusedInside (m : Model K) (x y : Reading K) (why : Invalid) : Prop :=
  ∃ (plan : Plan) (sample : Sample K), m.validate x y = .ok ⟨plan, sample⟩ ∧
    RefusedWithin m.algorithm.methodOr plan sample.x sample.y why

/-- A model whose settings or data are not accepted stays as it was. -/
theorem fit_of_validate_error {e : ModelError K} (h : m.validate x y = .error e) :
    m.fit tools x y = (m, .fail e) := by
  unfold fit
  rw [h]

theorem methodOr_methodOr (e : Estimator) : e.methodOr.methodOr = e.methodOr := by
  cases e with
  | plain v => cases v <;> rfl
  | _ => rfl

theorem train_refused_iff_refusedInside (tools : Toolkit K) {plan : Plan} {sample : Sample K}
    (h : m.validate x y = .ok ⟨plan, sample⟩) :
    (train tools m.algorithm.methodOr plan sample.flat sample.x sample.y).outcome =
      .error (.invalid why) ↔ m.RefusedInside x y why := by
  have hcheck := (validate_eq_ok_iff.mp h).2.2
  rw [← methodOr_methodOr] at hcheck
  rw [train_refused_iff _ _ _ _ _ hcheck]
  refine ⟨fun hr => ⟨plan, sample, h, hr⟩, ?_⟩
  rintro ⟨plan', sample', h', hr⟩
  obtain ⟨rfl, rfl⟩ := Accepted.mk.inj (Except.ok.inj (h.symm.trans h'))
  exact hr

/-- **Every refusal of a fit** comes from its own checks, and then the model is what it was, or from
within, and then it has learned nothing. -/
theorem fit_refused_iff :
    (m.fit tools x y).2.outcome = .error (.invalid why) ↔
      (m.validate x y = .error (.invalid why) ∧ (m.fit tools x y).1 = m) ∨
      (m.RefusedInside x y why ∧ (m.fit tools x y).1 = m.clone) := by
  cases hvalid : m.validate x y with
  | error e =>
    rw [fit_of_validate_error hvalid]
    constructor
    · intro h
      exact .inl ⟨congrArg _ (Except.error.inj h), rfl⟩
    · rintro (⟨h, -⟩ | ⟨⟨plan, sample, h, -⟩, -⟩)
      · exact congrArg _ (Except.error.inj h)
      · exact nomatch hvalid.symm.trans h
  | ok accepted =>
    obtain ⟨plan, sample⟩ := accepted
    rw [← train_refused_iff_refusedInside tools hvalid]
    unfold fit
    rw [hvalid]
    dsimp only
    cases htrain : (train tools m.algorithm.methodOr plan sample.flat sample.x sample.y).outcome with
    | ok f => exact ⟨fun h => (nomatch h), fun h => h.elim (fun h => (nomatch h.1)) fun h => (nomatch h.1)⟩
    | error e =>
      constructor
      · intro h
        exact .inr ⟨congrArg _ (Except.error.inj h), rfl⟩
      · rintro (⟨h, -⟩ | ⟨h, -⟩)
        · cases h
        · exact congrArg _ (Except.error.inj h)

/-- A fit that answers with its refusal is the same fit. -/
theorem initialize?_fst : (m.initialize? tools x y).1 = (m.fit tools x y).1 := by
  unfold initialize?
  split <;> rename_i h <;> rw [h]

/-- A fit that answers with its refusal does so exactly when the fit fails with it. -/
theorem initialize?_refused_iff :
    (m.initialize? tools x y).2.outcome = .ok (some why) ↔
      (m.fit tools x y).2.outcome = .error (.invalid why) := by
  unfold initialize?
  split
  · rename_i h
    rw [h]
    exact ⟨fun h => (nomatch h), fun h => (nomatch h)⟩
  · rename_i why' h
    rw [h]
    constructor
    · intro h
      rw [Option.some.inj (Except.ok.inj h)]
    · intro h
      rw [ModelError.invalid.inj (Except.error.inj h)]
  · rename_i e hne h
    rw [h]
    refine ⟨fun h => (nomatch h), fun h => ?_⟩
    exact absurd (Except.error.inj h) (hne why)

end Refusals

end Model

/-! ## 4. A filter whose model asks for nothing -/

namespace TwoPredictors

open Matrix Pls1.TwoComponents

noncomputable def predictors : Reading ℝ := .array (.ofRat [2, 2] [1, 0, 0, 2])

noncomputable def responses : Reading ℝ := .array (.ofRat [2] [3, 2])

theorem toMat_x : (NdArray.ofRat [2, 2] [1, 0, 0, 2]).toMat 2 2 = x := by
  refine Mat.ext fun i j => ?_
  fin_cases i <;> fin_cases j <;> simp [NdArray.toMat, x]

theorem toMat_y : (NdArray.ofRat [2] [3, 2]).toMat 2 1 = Mat.ofCol y := by
  refine Mat.ext fun i j => ?_
  fin_cases i <;> fin_cases j <;> simp [NdArray.toMat, y]

theorem readSample_eq : readSample predictors responses = .ok ⟨2, 2, 1, x, Mat.ofCol y, true⟩ := by
  rw [predictors, responses, ← toMat_x, ← toMat_y]
  exact readSample_real (by decide) (by decide) _ _ rfl rfl rfl

noncomputable def tools : Toolkit ℝ := .exact fun _ _ => Vec.zero

noncomputable def pls1 : Model ℝ := .new .pls1 (.int 1) (.text "none")

theorem checkPlan_eq : checkPlan (.int 1) (.text "none") = .ok ⟨1, .none⟩ := by cbv

noncomputable def earlier : Trained ℝ :=
  ⟨2, 2, 1, .pls1 ((⟨1, .none⟩ : Plan).envelope true x (Mat.ofCol y)) true short⟩

theorem pls1_fit : (pls1.fit tools predictors responses).2.outcome = .ok () ∧
    (pls1.fit tools predictors responses).1 = { pls1 with trained := some earlier } := by
  refine Model.fit_eq_ok_iff.mpr ⟨⟨1, .none⟩, _, _,
    Model.validate_eq_ok_iff.mpr ⟨checkPlan_eq, readSample_eq, rfl⟩,
    train_pls1_eq_ok_iff.mpr ⟨short, ?_, rfl⟩, rfl⟩
  rw [Plan.predictors_none, Plan.response_none]
  exact fit_short

/-- The fitted model, with a filter in place of its method; what follows the filter is asked for no
components. -/
noncomputable def refused : Model ℝ :=
  { (pls1.fit tools predictors responses).1 with
    algorithm := .opls (.model .pls1 (.int 0) (.text "center")) }

noncomputable def orthogonal : OrthogonalFilter.Component ℝ 2 2 :=
  ⟨Vec.ofRat ![-4 / 5, 3 / 5], Vec.ofRat ![-4 / 5, 6 / 5], Vec.ofRat ![-5 / 13, 15 / 13],
    (52 / 25 : ℚ)⟩

theorem loading_eq {what : Quantity} {score loading : Vec ℝ 2}
    (hlong : 1 ≤ score.coords ⬝ᵥ score.coords)
    (hloading : x.matrixᵀ *ᵥ score.coords = (score.coords ⬝ᵥ score.coords) • loading.coords) :
    divideBy what (x.applyT score) score.normSq (x.norm * x.norm) = .ok loading := by
  have hx : x.norm * x.norm ≤ 9 := by
    nlinarith [norm_x_le, x.norm_nonneg]
  rw [Vec.normSq_real]
  refine divideBy_of_smul ((Mat.coords_applyT _ _).trans hloading) (mul_self_nonneg _)
    (Scalar.zeroNorm_mul_lt ?_)
  rw [abs_of_pos (by linarith)]
  linarith

theorem orthogonal_unit : orthogonal.weight.coords ⬝ᵥ orthogonal.weight.coords = 1 := by
  simp [orthogonal, dotProduct]
  norm_num

theorem residualLoading_eq :
    divideBy (.residualLoading 0) (x.applyT first.score) first.score.normSq (x.norm * x.norm) =
      .ok first.loading := by
  have hsq : first.score.coords ⬝ᵥ first.score.coords = 73 / 25 := by
    simp [first, dotProduct]
    norm_num
  refine loading_eq (by rw [hsq]; norm_num) ?_
  rw [hsq]
  funext i
  fin_cases i <;> simp [x, first] <;> norm_num

theorem orthogonalWeight_eq :
    normalize (.orthogonalWeight 0) (first.loading.sub (first.weight.scale
      (first.weight.dot first.loading / first.weight.normSq))) 1 = .ok orthogonal.weight := by
  refine normalize_of_smul (a := 36 / 73) ?_ orthogonal_unit zero_le_one
    (Scalar.zeroNorm_mul_lt (by norm_num))
  funext i
  fin_cases i <;> simp [first, orthogonal, dotProduct] <;> norm_num

theorem orthogonalLoading_eq :
    divideBy (.orthogonalLoading 0) (x.applyT orthogonal.score) orthogonal.score.normSq
      (x.norm * x.norm) = .ok orthogonal.loading := by
  have hsq : orthogonal.score.coords ⬝ᵥ orthogonal.score.coords = 52 / 25 := by
    simp [orthogonal, dotProduct]
    norm_num
  refine loading_eq (by rw [hsq]; norm_num) ?_
  rw [hsq]
  funext i
  fin_cases i <;> simp [x, orthogonal] <;> norm_num

theorem filter_step : OrthogonalFilter.step x.norm first.weight 0 x =
    .ok (orthogonal, x.sub (Mat.outer orthogonal.score orthogonal.loading)) := by
  have hscore : (x.apply first.weight).dividedBy first.weight.normSq = first.score := by
    refine Vec.coords_injective (funext fun i => ?_)
    fin_cases i <;> simp [x, first, dotProduct] <;> norm_num
  have hscore' : (x.apply orthogonal.weight).dividedBy orthogonal.weight.normSq =
      orthogonal.score := by
    refine Vec.coords_injective (funext fun i => ?_)
    fin_cases i <;> simp [x, orthogonal, dotProduct] <;> norm_num
  have hsq : orthogonal.score.normSq = orthogonal.scoreSq := by
    simp [orthogonal, dotProduct]
    norm_num
  unfold OrthogonalFilter.step
  simp only [hscore, residualLoading_eq, orthogonalWeight_eq, hscore', orthogonalLoading_eq,
    bind, Except.bind, pure, Except.pure]
  rw [hsq]

/-- The filter is fitted, and then what follows it is refused. -/
theorem refusedInside : refused.RefusedInside predictors responses (.nComponents (.int 0)) := by
  have hweight : OrthogonalFilter.initialWeight x y = .ok first.weight := by
    refine normalize_of_smul ((Mat.coords_applyT x y).trans covariance_first) extracts_first.unit
      (mul_nonneg x.norm_nonneg y.norm_nonneg) (Scalar.zeroNorm_mul_lt ?_)
    nlinarith [norm_x_le, norm_y_le, x.norm_nonneg, y.norm_nonneg]
  have hfilter : (OrthogonalFilter.extraction ((⟨1, .none⟩ : Plan).predictors x)
      ((⟨1, .none⟩ : Plan).response (Mat.ofCol y)) 1).ending =
      .ok (x.sub (Mat.outer orthogonal.score orthogonal.loading)) := by
    rw [Plan.predictors_none, Plan.response_none, OrthogonalFilter.extraction, hweight]
    dsimp only
    rw [extract_succ_ok filter_step, extract_zero]
  refine ⟨⟨1, .none⟩, _, Model.validate_eq_ok_iff.mpr ⟨?_, readSample_eq, rfl⟩,
    .here rfl hfilter rfl⟩
  rw [refused, pls1_fit.2]
  exact checkPlan_eq

theorem refused_fit : (refused.fit tools predictors responses).2.outcome =
    .error (.invalid (.nComponents (.int 0))) := by
  obtain ⟨plan, sample, hvalid, -⟩ := id refusedInside
  have htrain := (Model.train_refused_iff_refusedInside tools hvalid).mpr refusedInside
  unfold Model.fit
  rw [hvalid]
  dsimp only
  rw [htrain]

end TwoPredictors

/-! ## 5. Keeping what was learned -/

namespace Model

/-- **A refusal keeps what a model has learned, unless it comes from within a filter.**  When a fit
is refused, as a failure or as an answer, the model is what it was exactly if it had learned nothing
or the refusal is its own; a refusal from within costs it all that it had learned, and it answers
no more. -/
theorem refusal_keeps_model_iff {K : Type} [Scalar K] {tools : Toolkit K} (m : Model K)
    (x y : Reading K) (why : Invalid)
    (h : (m.fit tools x y).2.outcome = .error (.invalid why) ∨
      (m.initialize? tools x y).2.outcome = .ok (some why)) :
    (m.initialize? tools x y).1 = (m.fit tools x y).1 ∧
      ((m.fit tools x y).1 = m ↔ m.trained = none ∨ ¬ m.RefusedInside x y why) ∧
      (m.RefusedInside x y why → (m.fit tools x y).1 = m.clone ∧
        ∀ new, (m.fit tools x y).1.transform new = .error .notFitted ∧
          (m.fit tools x y).1.predict new = .error .notFitted) := by
  have hrefused : (m.fit tools x y).2.outcome = .error (.invalid why) :=
    h.elim id initialize?_refused_iff.mp
  have hclone : m.RefusedInside x y why → (m.fit tools x y).1 = m.clone := by
    intro hinside
    rcases fit_refused_iff.mp hrefused with ⟨hvalid, -⟩ | ⟨-, hclone⟩
    · obtain ⟨plan, sample, hok, -⟩ := hinside
      exact nomatch hvalid.symm.trans hok
    · exact hclone
  refine ⟨initialize?_fst, ⟨fun hkept => ?_, ?_⟩, fun hinside => ⟨hclone hinside, fun new => ?_⟩⟩
  · by_cases hinside : m.RefusedInside x y why
    · left
      rw [← hkept, hclone hinside]
      rfl
    · exact .inr hinside
  · rintro (hnone | hinside)
    · rcases fit_refused_iff.mp hrefused with ⟨-, hkept⟩ | ⟨-, hclone⟩
      · exact hkept
      · rw [hclone, clone, ← hnone]
    · rcases fit_refused_iff.mp hrefused with ⟨-, hkept⟩ | ⟨hinside', -⟩
      · exact hkept
      · exact absurd hinside' hinside
  · rw [hclone hinside]
    exact ⟨rfl, rfl⟩

open TwoPredictors in
/-- A fitted model is refused from within a filter, and has lost its fit. -/
theorem refusal_keeps_model_iff_two_predictors :
    (refused.fit tools predictors responses).2.outcome = .error (.invalid (.nComponents (.int 0))) ∧
      refused.trained = some earlier ∧ (refused.fit tools predictors responses).1 ≠ refused ∧
      ∀ new, (refused.fit tools predictors responses).1.predict new = .error .notFitted := by
  have hrefused : (refused.fit tools predictors responses).2.outcome =
      .error (.invalid (.nComponents (.int 0))) := refused_fit
  have htrained : refused.trained = some earlier := by
    rw [refused, pls1_fit.2]
  have h := refusal_keeps_model_iff refused predictors responses _ (.inl hrefused)
  refine ⟨hrefused, htrained, fun hkept => ?_, fun new => ((h.2.2 refusedInside).2 new).2⟩
  rcases h.2.1.mp hkept with hnone | hinside
  · exact nomatch htrained.symm.trans hnone
  · exact hinside refusedInside

end Model

end PartialLeastSquares
