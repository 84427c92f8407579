/-
# What a fit has learned

A fit checks its settings and its data, preprocesses, and runs the `fit_state` of a method.  This
file takes the outcome of a fit apart in that order, once for every method, and says what a method
with one response has learned when the fit succeeds.  From then on a statement about fitted models is
a statement about extractions.
-/
import Mathlib
import PartialLeastSquares.Model
import PartialLeastSquares.Proofs.Exact.Scalar
import PartialLeastSquares.Proofs.Outcome
import PartialLeastSquares.Proofs.Preprocessing

namespace PartialLeastSquares

/-! ## 1. Around a method -/

section Around

variable {K : Type} {n p q : Nat}

namespace Run

/-- A numerical result is a result of the run, and nothing else is. -/
theorem outcome_numerical_eq_ok_iff {α : Type} {outcome : Except (NumericalError K) α} {a : α} :
    (numerical outcome).outcome = .ok a ↔ outcome = .ok a := by
  cases outcome with
  | error e => exact ⟨fun h => (nomatch h), fun h => (nomatch h)⟩
  | ok b => exact ⟨fun h => congrArg _ (Except.ok.inj h), fun h => congrArg _ (Except.ok.inj h)⟩

theorem outcome_numerical_error {α : Type} {outcome : Except (NumericalError K) α}
    {e : NumericalError K} (h : outcome = .error e) :
    (numerical outcome).outcome = .error (.numerical e) := by
  rw [h]
  rfl

end Run

theorem forOne_one (method : Nat → Envelope K p 1 → Mat K n p → Mat K n 1 →
    Run K (Fitted K n p 1)) (count : Nat) (env : Envelope K p 1) (x : Mat K n p) (y : Mat K n 1) :
    forOne method count env x y = method count env x y := rfl

/-- A method for one response takes no other number of responses. -/
theorem eq_one_of_forOne {method : Nat → Envelope K p 1 → Mat K n p → Mat K n 1 →
    Run K (Fitted K n p 1)} {count : Nat} {env : Envelope K p q} {x : Mat K n p} {y : Mat K n q}
    {f : Fitted K n p q} (h : (forOne method count env x y).outcome = .ok f) : q = 1 := by
  unfold forOne at h
  split at h
  · rfl
  · cases h

variable [Scalar K]

/-- What data goes through on the way to a method. -/
def Plan.envelope (plan : Plan) (flat : Bool) (x : Mat K n p) (y : Mat K n q) : Envelope K p q :=
  ⟨plan.scheme, plan.scheme.learn x, plan.scheme.learn y, flat⟩

/-- **What is put on record around a method has no influence on its outcome.** -/
theorem outcome_around (name : String) (plan : Plan) (flat : Bool) (x : Mat K n p) (y : Mat K n q)
    (method : Nat → Envelope K p q → Mat K n p → Mat K n q → Run K (Fitted K n p q)) :
    (around name plan flat x y method).outcome =
      (method plan.components (plan.envelope flat x y) ((plan.scheme.learn x).apply x)
        ((plan.scheme.learn y).apply y)).outcome := by
  have hend : ∀ run : Run K (Fitted K n p q),
      (run >>= fun fitted => Run.record [.fitted name plan.components] >>= fun _ =>
        pure fitted).outcome = run.outcome := fun run => by
    rw [Run.outcome_bind]
    cases run.outcome <;> rfl
  unfold around
  split
  · rw [Run.outcome_record_bind, Run.outcome_record_bind, hend]
    rfl
  · rw [Run.outcome_record_bind, hend]
    rfl

end Around

/-! ## 2. One method at a time -/

section Methods

variable {K : Type} [Scalar K] {n p q : Nat} {tools : Toolkit K} {plan : Plan} {flat : Bool}
  {x : Mat K n p}

def Plan.predictors (plan : Plan) (x : Mat K n p) : Mat K n p := (plan.scheme.learn x).apply x

def Plan.response (plan : Plan) (y : Mat K n 1) : Vec K n :=
  ((plan.scheme.learn y).apply y).only

/-- **The method with one response has learned** the fit of its extraction. -/
theorem train_pls1_eq_ok_iff {y : Mat K n 1} {f : Fitted K n p 1} :
    (train tools .pls1 plan flat x y).outcome = .ok f ↔
      ∃ fit, Pls1.fit tools (Pls1.extraction (plan.predictors x) (plan.response y)
        plan.components) = .ok fit ∧ .pls1 (plan.envelope flat x y) true fit = f := by
  rw [train, outcome_around, forOne_one]
  unfold trainPls1
  rw [Run.outcome_record_bind, Run.outcome_bind_eq_ok_iff]
  simp only [Run.outcome_numerical_eq_ok_iff, Run.outcome_pure, Except.ok.injEq]
  rfl

/-- **The method from cross-products has learned** the thinned components of its extraction. -/
theorem trainSimpls_eq_ok_iff {coefficients : Value} {count : Nat} {env : Envelope K p 1}
    {y : Mat K n 1} {f : Fitted K n p 1} :
    (trainSimpls tools coefficients count env x y).outcome = .ok f ↔
      ∃ (r : Simpls.Cross K p) (number : Number) (fit : Simpls.Fit K p),
        (Simpls.extraction tools x y.only count).ending = .ok r ∧
        (checkCoefficients coefficients : Except (ModelError K) Number) = .ok number ∧
        Simpls.fit (thinning p number) (Simpls.extraction tools x y.only count).components =
          some fit ∧
        .simpls env fit = f := by
  unfold trainSimpls
  rw [Run.outcome_record_bind, Run.outcome_bind_eq_ok_iff]
  simp only [Run.outcome_numerical_eq_ok_iff, Run.outcome_bind_eq_ok_iff, Run.outcome_silent]
  constructor
  · rintro ⟨r, hr, number, hnumber, h⟩
    split at h
    · rename_i fit hfit
      exact ⟨r, number, fit, hr, hnumber, hfit, Except.ok.inj h⟩
    · cases h
  · rintro ⟨r, number, fit, hr, hnumber, hfit, rfl⟩
    refine ⟨r, hr, number, hnumber, ?_⟩
    split
    · rename_i fit' hfit'
      rw [Option.some.inj (hfit'.symm.trans hfit)]
      rfl
    · rename_i hnone
      exact nomatch hnone.symm.trans hfit

theorem train_simpls_eq_ok_iff {coefficients : Value} {y : Mat K n 1} {f : Fitted K n p 1} :
    (train tools (.simpls coefficients) plan flat x y).outcome = .ok f ↔
      ∃ (r : Simpls.Cross K p) (number : Number) (fit : Simpls.Fit K p),
        (Simpls.extraction tools (plan.predictors x) (plan.response y) plan.components).ending =
          .ok r ∧
        (checkCoefficients coefficients : Except (ModelError K) Number) = .ok number ∧
        Simpls.fit (thinning p number) (Simpls.extraction tools (plan.predictors x)
          (plan.response y) plan.components).components = some fit ∧
        .simpls (plan.envelope flat x y) fit = f := by
  rw [train, outcome_around, forOne_one]
  exact trainSimpls_eq_ok_iff

theorem eq_one_of_train_pls1 {y : Mat K n q} {f : Fitted K n p q}
    (h : (train tools .pls1 plan flat x y).outcome = .ok f) : q = 1 := by
  rw [train, outcome_around] at h
  exact eq_one_of_forOne h

/-- **The method in feature space has learned** the fit of its extraction from a centered kernel. -/
theorem trainKernelPls_eq_ok_iff {kernel : Estimator} {tol maxIter seed : Value} {count : Nat}
    {env : Envelope K p q} {y : Mat K n q} {f : Fitted K n p q} :
    (trainKernelPls tools kernel tol maxIter seed count env x y).outcome = .ok f ↔
      ∃ (settings : KernelPls.Settings K) (stats : ColumnStats K p × ColumnStats K q)
        (k : Kernel) (data : KernelPls.Prepared K n p q) (r : KernelPls.Residual K n q)
        (fit : KernelPls.Fit K n p q),
        checkIteration tol maxIter seed = .ok settings ∧
        KernelPls.center x y = .ok stats ∧
        kernelOf (K := K) kernel = .ok k ∧
        KernelPls.prepare k x y stats = .ok data ∧
        (KernelPls.extraction tools settings data.centered data.y count).ending = .ok r ∧
        KernelPls.fit tools data
          (KernelPls.extraction tools settings data.centered data.y count).components r = .ok fit ∧
        .kernelPls env fit = f := by
  unfold trainKernelPls
  constructor
  · intro h
    dsimp only at h
    split at h
    · rename_i settings hsettings
      rw [Run.outcome_ok_bind] at h
      split at h
      · rename_i stats hstats
        rw [Run.outcome_ok_bind] at h
        obtain ⟨k, hk, h⟩ := Run.outcome_bind_eq_ok_iff.mp h
        split at h
        · rename_i data hdata
          rw [Run.outcome_ok_bind, Run.outcome_record_bind] at h
          split at h
          · cases h
          · cases h
          · cases h
          · rename_i r hr
            obtain ⟨fit, hfit, h⟩ := Run.outcome_bind_eq_ok_iff.mp h
            exact ⟨settings, stats, k, data, r, fit, hsettings, hstats, hk, hdata, hr,
              Run.outcome_numerical_eq_ok_iff.mp hfit, Except.ok.inj h⟩
        · cases h
      · cases h
    · cases h
  · rintro ⟨settings, stats, k, data, r, fit, hsettings, hstats, hk, hdata, hr, hfit, rfl⟩
    simp only [hsettings, hstats, Run.outcome_ok_bind]
    refine Run.outcome_bind_eq_ok_iff.mpr ⟨k, hk, ?_⟩
    simp only [hdata, Run.outcome_ok_bind, Run.outcome_record_bind, hr]
    exact Run.outcome_bind_eq_ok_iff.mpr ⟨fit, Run.outcome_numerical_eq_ok_iff.mpr hfit, rfl⟩

theorem train_kernelPls_eq_ok_iff {kernel : Estimator} {tol maxIter seed : Value} {y : Mat K n q}
    {f : Fitted K n p q} :
    (train tools (.kernelPls kernel tol maxIter seed) plan flat x y).outcome = .ok f ↔
      ∃ (settings : KernelPls.Settings K) (stats : ColumnStats K p × ColumnStats K q)
        (k : Kernel) (data : KernelPls.Prepared K n p q) (r : KernelPls.Residual K n q)
        (fit : KernelPls.Fit K n p q),
        checkIteration tol maxIter seed = .ok settings ∧
        KernelPls.center (plan.predictors x) ((plan.scheme.learn y).apply y) = .ok stats ∧
        kernelOf (K := K) kernel = .ok k ∧
        KernelPls.prepare k (plan.predictors x) ((plan.scheme.learn y).apply y) stats =
          .ok data ∧
        (KernelPls.extraction tools settings data.centered data.y plan.components).ending =
          .ok r ∧
        KernelPls.fit tools data (KernelPls.extraction tools settings data.centered data.y
          plan.components).components r = .ok fit ∧
        .kernelPls (plan.envelope flat x y) fit = f := by
  rw [train, outcome_around]
  exact trainKernelPls_eq_ok_iff

/-- **What follows a filter is accepted** like a model is: its settings, its data, its method. -/
theorem checkFollowing_eq_ok_iff {algorithm : Estimator} {count scheme : Value} {y : Mat K n q}
    {inner : Plan} : checkFollowing algorithm count scheme x y = .ok inner ↔
      checkPlan count scheme = .ok inner ∧ checkEntries x y = .ok () ∧
        checkMethod (K := K) algorithm.methodOr q = .ok () := by
  unfold checkFollowing
  constructor
  · intro h
    split at h
    · cases h
    · rename_i hplan
      split at h
      · cases h
      · rename_i hentries
        split at h
        · cases h
        · rename_i hmethod
          exact ⟨hplan.trans (congrArg _ (Except.ok.inj h)), hentries, hmethod⟩
  · rintro ⟨hplan, hentries, hmethod⟩
    rw [hplan, hentries, hmethod]

end Methods

/-! ## 3. Models -/

namespace Model

variable {K : Type} [Scalar K] {tools : Toolkit K} {m m' : Model K} {x y : Reading K}

theorem scheme_of_checkPlan {nComponents preprocessing : Value} {plan : Plan}
    (h : checkPlan nComponents preprocessing = .ok plan) :
    Scheme.ofValue? preprocessing = some plan.scheme := by
  unfold checkPlan at h
  split at h
  · cases h
  · split at h
    · cases h
    · split at h
      · cases h
      · rename_i scheme hscheme
        rw [hscheme, ← Except.ok.inj h]

/-- **Settings and data are accepted** when each of the three checks accepts them. -/
theorem validate_eq_ok_iff {plan : Plan} {sample : Sample K} :
    m.validate x y = .ok (⟨plan, sample⟩ : Accepted K) ↔
      checkPlan m.nComponents m.preprocessing = .ok plan ∧ readSample x y = .ok sample ∧
        checkMethod (K := K) m.algorithm.methodOr sample.targets = .ok () := by
  unfold validate
  constructor
  · intro h
    split at h
    · rename_i plan' hplan
      obtain ⟨_, hpure, h⟩ := bind_eq_ok_iff.mp h
      obtain ⟨sample', hsample, h⟩ := bind_eq_ok_iff.mp h
      obtain ⟨_, hmethod, h⟩ := bind_eq_ok_iff.mp h
      obtain ⟨rfl, rfl⟩ := Accepted.mk.inj (Except.ok.inj h)
      exact ⟨hplan.trans (congrArg _ (Except.ok.inj hpure)), hsample, hmethod⟩
    · cases h
  · rintro ⟨hplan, hsample, hmethod⟩
    rw [hplan]
    exact bind_eq_ok_iff.mpr ⟨plan, rfl, bind_eq_ok_iff.mpr ⟨sample, hsample,
      bind_eq_ok_iff.mpr ⟨(), hmethod, rfl⟩⟩⟩

/-- **A fit succeeds** when its settings and data are accepted and the method learns something,
and that is what the model has learned. -/
theorem fit_eq_ok_iff : (m.fit tools x y).2.outcome = .ok () ∧ (m.fit tools x y).1 = m' ↔
    ∃ (plan : Plan) (sample : Sample K) (f : Fitted K sample.rows sample.features sample.targets),
      m.validate x y = .ok ⟨plan, sample⟩ ∧
      (train tools m.algorithm.methodOr plan sample.flat sample.x sample.y).outcome = .ok f ∧
      { m with trained := some ⟨sample.rows, sample.features, sample.targets, f⟩ } = m' := by
  unfold fit
  constructor
  · rintro ⟨hok, rfl⟩
    split at hok
    · cases hok
    · rename_i plan sample hvalid
      dsimp only at hok
      split at hok
      · cases hok
      · rename_i f hf
        refine ⟨plan, sample, f, hvalid, hf, ?_⟩
        dsimp only
        rw [hf]
  · rintro ⟨plan, sample, f, hvalid, hf, rfl⟩
    rw [hvalid]
    dsimp only
    rw [hf]
    exact ⟨rfl, rfl⟩

/-- **Two models with the same number of components and the same scheme,** if both can be fitted to
the same data, are fitted by their methods to the same matrices. -/
theorem exists_trained_of_fit_ok (hcount : m.nComponents = m'.nComponents)
    (hscheme : m.preprocessing = m'.preprocessing) (hfit : (m.fit tools x y).2.outcome = .ok ())
    (hfit' : (m'.fit tools x y).2.outcome = .ok ()) :
    ∃ (plan : Plan) (sample : Sample K)
      (f f' : Fitted K sample.rows sample.features sample.targets),
      checkPlan m.nComponents m.preprocessing = .ok plan ∧
      (train tools m.algorithm.methodOr plan sample.flat sample.x sample.y).outcome = .ok f ∧
      (train tools m'.algorithm.methodOr plan sample.flat sample.x sample.y).outcome = .ok f' ∧
      (m.fit tools x y).1.trained = some ⟨sample.rows, sample.features, sample.targets, f⟩ ∧
      (m'.fit tools x y).1.trained = some ⟨sample.rows, sample.features, sample.targets, f'⟩ := by
  obtain ⟨plan, sample, f, hvalid, hf, htrained⟩ := fit_eq_ok_iff.mp ⟨hfit, rfl⟩
  obtain ⟨plan', sample', f', hvalid', hf', htrained'⟩ := fit_eq_ok_iff.mp ⟨hfit', rfl⟩
  obtain ⟨hplan, hsample, -⟩ := validate_eq_ok_iff.mp hvalid
  obtain ⟨hplan', hsample', -⟩ := validate_eq_ok_iff.mp hvalid'
  rw [hcount, hscheme] at hplan
  obtain rfl : plan = plan' := Except.ok.inj (hplan.symm.trans hplan')
  obtain rfl : sample = sample' := Except.ok.inj (hsample.symm.trans hsample')
  refine ⟨plan, sample, f, f', ?_, hf, hf', by rw [← htrained], by rw [← htrained']⟩
  rw [hcount, hscheme, hplan]

end Model

/-! ## 4. Exact data -/

namespace Plan

variable {n p count : ℕ}

/-- A scheme that does nothing leaves the predictors as they are. -/
theorem predictors_none (x : Mat ℝ n p) : (⟨count, .none⟩ : Plan).predictors x = x :=
  ColumnStats.trivial_apply x

theorem response_none (y : Vec ℝ n) : (⟨count, .none⟩ : Plan).response (Mat.ofCol y) = y :=
  (congrArg Mat.only (ColumnStats.trivial_apply (Mat.ofCol y))).trans (Mat.only_ofCol y)

/-- **Centered predictors are not centered again.** -/
theorem predictors_of_centered {x : Mat ℝ n p} (h : x.Centered) :
    (⟨count, .center⟩ : Plan).predictors x = x := by
  unfold predictors
  rw [Scheme.center_learn h, ColumnStats.trivial_apply]

theorem response_of_centered {y : Mat ℝ n 1} (h : y.Centered) :
    (⟨count, .center⟩ : Plan).response y = y.only := by
  unfold response
  rw [Scheme.center_learn h, ColumnStats.trivial_apply]

end Plan

theorem checkEntries_real {n p q : ℕ} (x : Mat ℝ n p) (y : Mat ℝ n q) :
    checkEntries x y = .ok () := by
  unfold checkEntries Mat.finite
  rw [Mat.entryProblem?_real, Mat.all_isFinite_real]
  rfl

/-- An array of rows and a list of as many responses are a sample: over the reals no entry is
refused. -/
theorem readSample_real {n p : ℕ} (hn : n ≠ 0) (hp : p ≠ 0) (a b : NdArray ℝ)
    (ha : a.shape = [n, p]) (hb : b.shape = [b.entries.length]) (hlen : b.entries.length = n) :
    readSample (.array a) (.array b) = .ok ⟨n, p, 1, a.toMat n p, b.toMat n 1, true⟩ := by
  have hx : readPredictors (.array a) = .ok ⟨n, p, a.toMat n p⟩ := by
    unfold readPredictors Table.ofArray? Mat.entryProblem? Mat.finite
    simp [ha, hn, hp]
  subst hlen
  unfold readSample
  rw [hx]
  simp [readResponse, NdArray.axes, NdArray.column, hb, Mat.finite, bind, Except.bind, pure,
    Except.pure]
  rfl

/-- An iteration that tolerates a change of one, from seed zero, is accepted. -/
theorem checkIteration_one {most : ℕ} (h : 1 ≤ most) :
    checkIteration (.int 1) (.int most) (.int 0) = .ok ⟨.within (1 : ℝ), most, 0⟩ := by
  have hsmall : 1 < Number.wholeLimit := by decide +kernel
  have hone : (Scalar.ofInt 1 : ℝ) = 1 := Int.cast_one
  unfold checkIteration
  simp [Value.number?, Number.above, Value.strictInteger?, hsmall, hone]
  omega

end PartialLeastSquares
