/-
# How a fitted model came about

A fit trains one method, or a filter and the model that follows it, and so on as deep as filters are
nested.  `Trains` is the account of that: one constructor for each method, with what its training
has computed, and for a filter the account of what follows.  Every successful training has one
(`trains_of_train`), so a property of fitted models is an induction with one case for each method.

Whether a model predicts is decided at the innermost one: a filter predicts what follows it
predicts, so it has no answer if that is used for scores alone (`Estimator.answers`).
-/
import Mathlib
import PartialLeastSquares.Proofs.Model.Learned
import PartialLeastSquares.Proofs.OrthogonalFilter.Filtering

namespace PartialLeastSquares

/-! ## 1. Trainings -/

section Trains

variable {K : Type} [Scalar K] {n p : Nat}

/-- **A training:** which method, on which data, has learned what, and how.  Of an orthogonal
filter it tells also how the model that follows it was trained. -/
inductive Trains (tools : Toolkit K) : {q : Nat} → Estimator → Plan → Bool → Mat K n p →
    Mat K n q → Fitted K n p q → Prop
  | pls1 {method : Estimator} {plan : Plan} {flat : Bool} {x : Mat K n p} {y : Mat K n 1}
      {fit : Pls1.Fit K n p} (named : method.methodOr = .pls1)
      (made : Pls1.fit tools (Pls1.extraction (plan.predictors x) (plan.response y)
        plan.components) = .ok fit) :
      Trains tools method plan flat x y (.pls1 (plan.envelope flat x y) true fit)
  | transformOnly {plan : Plan} {flat : Bool} {x : Mat K n p} {y : Mat K n 1}
      {fit : Pls1.Fit K n p}
      (made : Pls1.fit tools (Pls1.extraction (plan.predictors x) (plan.response y)
        plan.components) = .ok fit) :
      Trains tools .transformOnly plan flat x y (.pls1 (plan.envelope flat x y) false fit)
  | simpls {coefficients : Value} {plan : Plan} {flat : Bool} {x : Mat K n p} {y : Mat K n 1}
      {r : Simpls.Cross K p} {number : Number} {fit : Simpls.Fit K p}
      (ended : (Simpls.extraction tools (plan.predictors x) (plan.response y)
        plan.components).ending = .ok r)
      (made : Simpls.fit (thinning p number) (Simpls.extraction tools (plan.predictors x)
        (plan.response y) plan.components).components = some fit) :
      Trains tools (.simpls coefficients) plan flat x y (.simpls (plan.envelope flat x y) fit)
  | kernelPls {q : Nat} {kernel : Estimator} {tol maxIter seed : Value} {plan : Plan} {flat : Bool}
      {x : Mat K n p} {y : Mat K n q} {settings : KernelPls.Settings K}
      {stats : ColumnStats K p × ColumnStats K q} {k : Kernel}
      {data : KernelPls.Prepared K n p q} {r : KernelPls.Residual K n q}
      {fit : KernelPls.Fit K n p q} (named : kernelOf (K := K) kernel = .ok k)
      (centered : KernelPls.center (plan.predictors x) ((plan.scheme.learn y).apply y) = .ok stats)
      (prepared : KernelPls.prepare k (plan.predictors x) ((plan.scheme.learn y).apply y) stats =
        .ok data)
      (ended : (KernelPls.extraction tools settings data.centered data.y plan.components).ending =
        .ok r)
      (made : KernelPls.fit tools data (KernelPls.extraction tools settings data.centered data.y
        plan.components).components r = .ok fit) :
      Trains tools (.kernelPls kernel tol maxIter seed) plan flat x y
        (.kernelPls (plan.envelope flat x y) fit)
  | opls {base algorithm : Estimator} {count scheme : Value} {plan inner : Plan} {flat : Bool}
      {x residual : Mat K n p} {y : Mat K n 1} {follower : Fitted K n p 1}
      (following : base.following = some (algorithm, count, scheme))
      (ended : (OrthogonalFilter.extraction (plan.predictors x) (plan.response y)
        plan.components).ending = .ok residual)
      (accepted : checkFollowing algorithm count scheme (plan.filtered x y)
        ((plan.scheme.learn y).apply y) = .ok inner)
      (follows : Trains tools algorithm inner false (plan.filtered x y)
        ((plan.scheme.learn y).apply y) follower) :
      Trains tools (.opls base) plan flat x y
        (.opls (plan.envelope flat x y) ⟨(OrthogonalFilter.extraction (plan.predictors x)
          (plan.response y) plan.components).components, residual⟩ follower)

theorem Estimator.sizeOf_following {base algorithm : Estimator} {count scheme : Value}
    (h : base.following = some (algorithm, count, scheme)) :
    sizeOf algorithm < sizeOf (opls base) := by
  rcases following_cases h with ⟨rfl, rfl, -, -⟩ | rfl
  · simp only [Estimator.opls.sizeOf_spec, Estimator.pls1.sizeOf_spec,
      Estimator.plain.sizeOf_spec]
    omega
  · simp only [Estimator.opls.sizeOf_spec, Estimator.model.sizeOf_spec]
    omega

/-- **A filter trains itself and then what follows it.** -/
theorem train_opls_of_following {tools : Toolkit K} {base algorithm : Estimator}
    {count scheme : Value} (h : base.following = some (algorithm, count, scheme)) {q : Nat}
    (plan : Plan) (flat : Bool) (x : Mat K n p) (y : Mat K n q) :
    train tools (.opls base) plan flat x y =
      around "OPLS" plan flat x y (forOne (trainOpls fun x y => do
        let inner ← Run.silent (checkFollowing algorithm count scheme x y)
        train tools algorithm inner false x y)) := by
  rcases Estimator.following_cases h with ⟨rfl, rfl, rfl, rfl⟩ | rfl
  · simp only [train]
  · rw [train]

theorem train_opls_of_not_following {tools : Toolkit K} {base : Estimator}
    (h : base.following = none) {q : Nat} (plan : Plan) (flat : Bool) (x : Mat K n p)
    (y : Mat K n q) :
    train tools (.opls base) plan flat x y = .fail (.invalid (.base base.className)) := by
  cases base with
  | plain v =>
    cases v with
    | null => cases h
    | _ => rfl
  | model algorithm count scheme => cases h
  | _ => rfl

/-- The method with one response, used for scores alone, has learned the fit of its extraction. -/
theorem train_transformOnly_eq_ok_iff {tools : Toolkit K} {plan : Plan} {flat : Bool}
    {x : Mat K n p} {y : Mat K n 1} {f : Fitted K n p 1} :
    (train tools .transformOnly plan flat x y).outcome = .ok f ↔
      ∃ fit, Pls1.fit tools (Pls1.extraction (plan.predictors x) (plan.response y)
        plan.components) = .ok fit ∧ .pls1 (plan.envelope flat x y) false fit = f := by
  rw [train, outcome_around, forOne_one]
  unfold trainPls1
  rw [Run.outcome_record_bind, Run.outcome_bind_eq_ok_iff]
  simp only [Run.outcome_numerical_eq_ok_iff, Run.outcome_pure, Except.ok.injEq]
  rfl

theorem eq_one_of_train_simpls {tools : Toolkit K} {coefficients : Value} {q : Nat} {plan : Plan}
    {flat : Bool} {x : Mat K n p} {y : Mat K n q} {f : Fitted K n p q}
    (h : (train tools (.simpls coefficients) plan flat x y).outcome = .ok f) : q = 1 := by
  rw [train, outcome_around] at h
  exact eq_one_of_forOne h

/-- The method with one response takes no other number when it is used for scores alone. -/
theorem eq_one_of_train_transformOnly {tools : Toolkit K} {q : Nat} {plan : Plan} {flat : Bool}
    {x : Mat K n p} {y : Mat K n q} {f : Fitted K n p q}
    (h : (train tools .transformOnly plan flat x y).outcome = .ok f) : q = 1 := by
  rw [train, outcome_around] at h
  exact eq_one_of_forOne h

/-- **Whatever has been learned has been trained.**  The recursion follows the nesting of the
filters. -/
theorem trains_of_train {tools : Toolkit K} :
    ∀ (method : Estimator) {q : Nat} {plan : Plan} {flat : Bool} {x : Mat K n p} {y : Mat K n q}
      {f : Fitted K n p q}, (train tools method plan flat x y).outcome = .ok f →
      Trains tools method plan flat x y f
  | .plain .null, _, _, _, _, _, _, h => by
    -- the method that stands in for none is trained in the same way
    rw [train, ← train] at h
    obtain rfl := eq_one_of_train_pls1 h
    obtain ⟨fit, hfit, rfl⟩ := train_pls1_eq_ok_iff.mp h
    exact .pls1 rfl hfit
  | .pls1, _, _, _, _, _, _, h => by
    obtain rfl := eq_one_of_train_pls1 h
    obtain ⟨fit, hfit, rfl⟩ := train_pls1_eq_ok_iff.mp h
    exact .pls1 rfl hfit
  | .transformOnly, _, _, _, _, _, _, h => by
    obtain rfl := eq_one_of_train_transformOnly h
    obtain ⟨fit, hfit, rfl⟩ := train_transformOnly_eq_ok_iff.mp h
    exact .transformOnly hfit
  | .simpls coefficients, _, _, _, _, _, _, h => by
    obtain rfl := eq_one_of_train_simpls h
    obtain ⟨r, number, fit, hend, -, hfit, rfl⟩ := train_simpls_eq_ok_iff.mp h
    exact .simpls hend hfit
  | .kernelPls kernel tol maxIter seed, _, _, _, _, _, _, h => by
    obtain ⟨settings, stats, k, data, r, fit, -, hstats, hk, hdata, hend, hfit, rfl⟩ :=
      train_kernelPls_eq_ok_iff.mp h
    exact .kernelPls hk hstats hdata hend hfit
  | .opls base, _, _, _, _, _, _, h => by
    obtain rfl := eq_one_of_train_opls h
    obtain ⟨algorithm, count, scheme, residual, inner, follower, hfollowing, hend, haccepted,
      hfollower, rfl⟩ := train_opls_eq_ok_iff.mp h
    exact .opls hfollowing hend haccepted (trains_of_train algorithm hfollower)
termination_by method => sizeOf method
decreasing_by exact Estimator.sizeOf_following hfollowing

/-- What has been trained is in the envelope of its own data. -/
theorem Trains.envelope {tools : Toolkit K} {q : Nat} {method : Estimator} {plan : Plan}
    {flat : Bool} {x : Mat K n p} {y : Mat K n q} {f : Fitted K n p q}
    (h : Trains tools method plan flat x y f) : f.envelope = plan.envelope flat x y := by
  cases h <;> rfl

theorem Model.exists_trains_of_fit {tools : Toolkit K} {m : Model K} {x y : Reading K}
    (h : (m.fit tools x y).2.outcome = .ok ()) :
    ∃ (plan : Plan) (sample : Sample K)
      (f : Fitted K sample.rows sample.features sample.targets),
      m.validate x y = .ok ⟨plan, sample⟩ ∧
      Trains tools m.algorithm.methodOr plan sample.flat sample.x sample.y f ∧
      (m.fit tools x y).1.trained =
        some ⟨sample.rows, sample.features, sample.targets, f⟩ := by
  obtain ⟨plan, sample, f, hvalid, hf, hm⟩ := Model.fit_eq_ok_iff.mp ⟨h, rfl⟩
  exact ⟨plan, sample, f, hvalid, trains_of_train _ hf, by rw [← hm]⟩

end Trains

/-! ## 2. Methods that predict -/

/-- **Whether a method predicts,** also when its filters are looked through. -/
def Estimator.answers : Estimator → Bool
  | .transformOnly => false
  | .opls (.model algorithm _ _) => algorithm.answers
  | _ => true

namespace Estimator

theorem answers_opls {base algorithm : Estimator} {count scheme : Value}
    (h : base.following = some (algorithm, count, scheme)) :
    (opls base).answers = algorithm.answers := by
  rcases following_cases h with ⟨rfl, rfl, -, -⟩ | rfl
  · rfl
  · rw [answers]

@[simp] theorem answers_methodOr (e : Estimator) : e.methodOr.answers = e.answers := by
  cases e with
  | plain v => cases v <;> rfl
  | _ => rfl

theorem answers_of_methodOr_pls1 {e : Estimator} (h : e.methodOr = pls1) : e.answers = true := by
  rw [← answers_methodOr, h]
  rfl

end Estimator

theorem Trains.predicts {K : Type} [Scalar K] {tools : Toolkit K} {n p q : Nat}
    {method : Estimator} {plan : Plan} {flat : Bool} {x : Mat K n p} {y : Mat K n q}
    {f : Fitted K n p q} (h : Trains tools method plan flat x y f)
    (hanswers : method.answers = true) : f.predicts = true := by
  cases h with
  | transformOnly => cases hanswers
  | _ => rfl

end PartialLeastSquares
