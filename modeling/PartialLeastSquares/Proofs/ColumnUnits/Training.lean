/-
# Training on columns in other units

A method sees preprocessed data only, and does nothing with the statistics it was preprocessed by
but store them.  So two trainings on data that is the same once it is preprocessed learn the same,
each with its own statistics (`train_withEnvelope`).

New rows go through those statistics.  What was learned is then used on rows that agree, but for the
columns in which the training rows are zero; there the new rows may differ.  A method that looks at
inner products does not notice (`Trains.predict_withEnvelope`).  A filter lets these columns through
as they are, so what follows it is in the same place.
-/
import Mathlib
import PartialLeastSquares.Proofs.ColumnUnits.Idle
import PartialLeastSquares.Proofs.Model.Nesting

namespace PartialLeastSquares

variable {n m p q : ℕ}

/-! ## 1. Envelopes -/

section Envelopes

variable {K : Type}

/-- **A fitted model in another envelope.** -/
def Fitted.withEnvelope : {q : ℕ} → Envelope K p q → Fitted K n p q → Fitted K n p q
  | _, env, pls1 _ predicts fit => pls1 env predicts fit
  | _, env, simpls _ fit => simpls env fit
  | _, env, kernelPls _ fit => kernelPls env fit
  | _, env, opls _ filter base => opls env filter base

@[simp] theorem Fitted.withEnvelope_self (f : Fitted K n p q) : f.withEnvelope f.envelope = f := by
  cases f <;> rfl

@[simp] theorem Fitted.envelope_withEnvelope (env : Envelope K p q) (f : Fitted K n p q) :
    (f.withEnvelope env).envelope = env := by
  cases f <;> rfl

variable [Scalar K] {tools : Toolkit K}

/-- **A method stores its envelope** if it does nothing else with it. -/
def StoresEnvelope
    (method : ℕ → Envelope K p q → Mat K n p → Mat K n q → Run K (Fitted K n p q)) : Prop :=
  ∀ count env env' x y, (method count env' x y).outcome =
    (method count env x y).outcome.map (Fitted.withEnvelope env')

namespace StoresEnvelope

theorem pls1 {predicts : Bool} : StoresEnvelope (n := n) (p := p) (trainPls1 tools predicts) := by
  intro count env env' x y
  unfold trainPls1
  rw [Run.outcome_record_bind, Run.outcome_record_bind]
  cases Pls1.fit tools (Pls1.extraction x y.only count) <;> rfl

theorem simpls {coefficients : Value} :
    StoresEnvelope (n := n) (p := p) (trainSimpls tools coefficients) := by
  intro count env env' x y
  unfold trainSimpls
  rw [Run.outcome_record_bind, Run.outcome_record_bind]
  cases (Simpls.extraction tools x y.only count).ending with
  | error e => rfl
  | ok r =>
    cases (checkCoefficients coefficients : Except (ModelError K) Number) with
    | error e => rfl
    | ok number =>
      simp only [Run.numerical, Run.outcome_ok_bind, Run.outcome_silent_ok_bind]
      cases Simpls.fit (thinning p number) (Simpls.extraction tools x y.only count).components <;>
        rfl

theorem kernelPls {kernel : Estimator} {tol maxIter seed : Value} :
    StoresEnvelope (n := n) (p := p) (q := q) (trainKernelPls tools kernel tol maxIter seed) := by
  intro count env env' x y
  unfold trainKernelPls
  dsimp only
  cases (checkIteration tol maxIter seed : Except Invalid (KernelPls.Settings K)) with
  | error why => rfl
  | ok settings =>
    cases KernelPls.center x y with
    | error problem => rfl
    | ok stats =>
      cases (kernelOf kernel : Except (ModelError K) Kernel) with
      | error e => rfl
      | ok k =>
        simp only [Run.outcome_ok_bind, Run.outcome_silent_ok_bind]
        cases KernelPls.prepare k x y stats with
        | error e => rfl
        | ok data =>
          simp only [Run.outcome_ok_bind, Run.outcome_record_bind]
          cases (KernelPls.extraction tools settings data.centered data.y count).ending with
          | error halt => cases halt <;> rfl
          | ok r =>
            dsimp only
            cases KernelPls.fit tools data (KernelPls.extraction tools settings data.centered
              data.y count).components r <;> rfl

theorem opls {follow : Mat K n p → Mat K n 1 → Run K (Fitted K n p 1)} :
    StoresEnvelope (trainOpls follow) := by
  intro count env env' x y
  unfold trainOpls
  rw [Run.outcome_record_bind, Run.outcome_record_bind]
  cases (OrthogonalFilter.extraction x y.only count).ending with
  | error e => rfl
  | ok residual =>
    simp only [Run.numerical, Run.outcome_bind]
    cases (follow (OrthogonalFilter.apply
      (OrthogonalFilter.extraction x y.only count).components x) y).outcome <;> rfl

omit [Scalar K] in
theorem forOne {method : ℕ → Envelope K p 1 → Mat K n p → Mat K n 1 → Run K (Fitted K n p 1)}
    (h : StoresEnvelope method) : StoresEnvelope (PartialLeastSquares.forOne (q := q) method) := by
  intro count env env' x y
  match q, env, env', y with
  | 0, _, _, _ => rfl
  | 1, env, env', y => exact h count env env' x y
  | _ + 2, _, _, _ => rfl

/-- **Preprocessing around a method** that stores its envelope, of predictors that are preprocessed
to the same. -/
theorem around {method : ℕ → Envelope K p q → Mat K n p → Mat K n q → Run K (Fitted K n p q)}
    (hmethod : StoresEnvelope method) (name : String) {plan : Plan} (flat : Bool) {x x' : Mat K n p}
    (h : plan.predictors x' = plan.predictors x) (y : Mat K n q) :
    (PartialLeastSquares.around name plan flat x' y method).outcome =
      (PartialLeastSquares.around name plan flat x y method).outcome.map
        (Fitted.withEnvelope (plan.envelope flat x' y)) := by
  rw [outcome_around, outcome_around]
  change (method _ _ (plan.predictors x') _).outcome = _
  rw [h]
  exact hmethod _ _ _ _ _

end StoresEnvelope

/-- **Predictors that are preprocessed to the same are trained on alike:** what is learned differs
in the statistics alone. -/
theorem train_withEnvelope (tools : Toolkit K) (method : Estimator) {plan : Plan} (flat : Bool)
    {x x' : Mat K n p} (h : plan.predictors x' = plan.predictors x) (y : Mat K n q) :
    (train tools method plan flat x' y).outcome =
      (train tools method plan flat x y).outcome.map
        (Fitted.withEnvelope (plan.envelope flat x' y)) := by
  cases method with
  | pls1 =>
    rw [train, train]
    exact StoresEnvelope.pls1.forOne.around _ flat h y
  | plain v =>
    cases v with
    | null =>
      rw [train, train]
      exact StoresEnvelope.pls1.forOne.around _ flat h y
    | _ => rfl
  | transformOnly =>
    rw [train, train]
    exact StoresEnvelope.pls1.forOne.around _ flat h y
  | simpls coefficients =>
    rw [train, train]
    exact StoresEnvelope.simpls.forOne.around _ flat h y
  | kernelPls kernel tol maxIter seed =>
    rw [train, train]
    exact StoresEnvelope.kernelPls.around _ flat h y
  | opls base =>
    cases hfollowing : base.following with
    | none =>
      rw [train_opls_of_not_following hfollowing, train_opls_of_not_following hfollowing]
      rfl
    | some after =>
      obtain ⟨algorithm, count, scheme⟩ := after
      rw [train_opls_of_following hfollowing, train_opls_of_following hfollowing]
      exact StoresEnvelope.opls.forOne.around _ flat h y
  | kernel k => rfl
  | model algorithm count scheme => rfl

end Envelopes

/-! ## 2. New rows -/

namespace Estimator

/-- **A method looks at distances** if its kernel does, also when filters are looked through.  The
kernel that stands in for none is the Gaussian. -/
def looksAtDistances : Estimator → Bool
  | .kernelPls (.kernel k) _ _ _ => k.looksAtDistances
  | .kernelPls (.plain .null) _ _ _ => true
  | .opls (.model algorithm _ _) => algorithm.looksAtDistances
  | _ => false

theorem looksAtDistances_kernelPls {kernel : Estimator} {k : Kernel} {tol maxIter seed : Value}
    (h : kernelOf (K := ℝ) kernel = .ok k) :
    (kernelPls kernel tol maxIter seed).looksAtDistances = k.looksAtDistances := by
  cases kernel with
  | kernel k' =>
    obtain rfl := Except.ok.inj h
    rfl
  | plain v =>
    cases v with
    | null =>
      obtain rfl := Except.ok.inj h
      rfl
    | _ => cases h
  | _ => cases h

theorem looksAtDistances_opls {base algorithm : Estimator} {count scheme : Value}
    (h : base.following = some (algorithm, count, scheme)) :
    (opls base).looksAtDistances = algorithm.looksAtDistances := by
  rcases following_cases h with ⟨rfl, rfl, -, -⟩ | rfl
  · rfl
  · rw [looksAtDistances]

@[simp] theorem looksAtDistances_methodOr (e : Estimator) :
    e.methodOr.looksAtDistances = e.looksAtDistances := by
  cases e with
  | plain v => cases v <;> rfl
  | _ => rfl

/-- **Rows are the same to a method** that was trained on a matrix, if they agree in every column,
or in every column that is not idle and the method does not look at distances. -/
def Same (method : Estimator) (x : Mat ℝ n p) (a a' : Mat ℝ m p) : Prop :=
  ∀ j, (method.looksAtDistances = false ∧ x.Idle j) ∨ ∀ i, a.get i j = a'.get i j

namespace Same

variable {method : Estimator} {x : Mat ℝ n p} {a a' : Mat ℝ m p}

theorem alike (h : method.Same x a a') : x.Alike a a' := by
  intro j
  exact (h j).imp_left And.right

theorem eq (h : method.Same x a a') (hmethod : method.looksAtDistances = true) : a = a' := by
  refine Mat.ext fun i j => ?_
  rcases h j with ⟨hfalse, -⟩ | hj
  · exact absurd (hmethod.symm.trans hfalse) (by decide)
  · exact hj i

/-- **Rows that are the same to a filter are the same to what follows it,** once they are filtered
and preprocessed. -/
theorem filtered {base algorithm : Estimator} {count scheme : Value} {plan : Plan}
    {x residual : Mat ℝ n p} {y : Mat ℝ n 1} (h : (opls base).Same (plan.predictors x) a a')
    (hfollowing : base.following = some (algorithm, count, scheme))
    (hended : (OrthogonalFilter.extraction (plan.predictors x) (plan.response y)
      plan.components).ending = .ok residual) (inner : Plan) :
    algorithm.Same (inner.predictors (plan.filtered x y))
      ((inner.scheme.learn (plan.filtered x y)).apply (OrthogonalFilter.apply
        (OrthogonalFilter.extraction (plan.predictors x) (plan.response y)
          plan.components).components a))
      ((inner.scheme.learn (plan.filtered x y)).apply (OrthogonalFilter.apply
        (OrthogonalFilter.extraction (plan.predictors x) (plan.response y)
          plan.components).components a')) := by
  have hidle := OrthogonalFilter.idleWith_of_extraction hended
  intro j
  rcases h j with ⟨hdistances, hj⟩ | hj
  · refine .inl ⟨(looksAtDistances_opls hfollowing).symm.trans hdistances, ?_⟩
    exact Scheme.idle_predictors _
      (OrthogonalFilter.idle_apply (fun c hc => (hidle c hc).2) hj)
  · refine .inr fun i => ?_
    rw [ColumnStats.get_apply, ColumnStats.get_apply,
      OrthogonalFilter.get_apply_of_alike (fun c hc => (hidle c hc).1) h.alike (hj i)]

end Same

end Estimator

/-- **What was trained predicts the same from rows that are the same to the method,** each in an
envelope of its own.  The induction is on the nesting of the filters. -/
theorem Trains.predict_withEnvelope {tools : Toolkit ℝ} {method : Estimator} {plan : Plan}
    {flat : Bool} {x : Mat ℝ n p} {y : Mat ℝ n q} {f : Fitted ℝ n p q}
    (h : Trains tools method plan flat x y f) {env : Envelope ℝ p q}
    (hy : env.y = f.envelope.y) {new new' : Mat ℝ m p}
    (hsame : method.Same (plan.predictors x) (env.x.apply new') (f.envelope.x.apply new)) :
    (f.withEnvelope env).predict new' = f.predict new := by
  induction h generalizing new new' with
  | pls1 named made =>
    have hfit := Pls1.predict_of_alike made hsame.alike
    simp only [Fitted.envelope] at hy hfit
    simp only [Fitted.withEnvelope, Fitted.predict, hfit, hy]
  | transformOnly made => rfl
  | simpls ended made =>
    have hfit := Simpls.predict_of_alike ended made hsame.alike
    simp only [Fitted.envelope] at hy hfit
    simp only [Fitted.withEnvelope, Fitted.predict, hfit, hy]
  | @kernelPls _ _ _ _ _ plan flat x y _ _ k _ _ fit named centered prepared ended made =>
    have hfit : fit.predict (env.x.apply new') =
        fit.predict ((plan.envelope flat x y).x.apply new) := by
      cases hk : k.looksAtDistances with
      | true => exact congrArg _ (hsame.eq ((Estimator.looksAtDistances_kernelPls named).trans hk))
      | false => exact KernelPls.predict_of_alike hk centered prepared made hsame.alike
    simp only [Fitted.envelope] at hy
    simp only [Fitted.withEnvelope, Fitted.predict, hfit, hy]
  | @opls _ _ _ _ plan inner _ x _ y follower following ended accepted follows ih =>
    -- what follows keeps its envelope; it is given other rows, which are the same to it
    have hinner := hsame.filtered following ended inner
    have hstats : follower.envelope.x = inner.scheme.learn (plan.filtered x y) :=
      congrArg Envelope.x follows.envelope
    rw [← hstats] at hinner
    have hbase := ih rfl hinner
    rw [Fitted.withEnvelope_self] at hbase
    simp only [Fitted.envelope] at hy hbase
    simp only [Fitted.withEnvelope, Fitted.predict, OrthogonalFilter.Fit.transform,
      Mat.entryProblem?_real, hbase, hy]

end PartialLeastSquares
