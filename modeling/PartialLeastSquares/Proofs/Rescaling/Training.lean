/-
# Training in other units

What a method learns from data in other units is what it learns from the data, in those units: it
learns something in one case if it does in the other, it fails with errors of the same class, and
new rows in the units of the predictors are given predictions in the units of the responses
(`Fitted.Rescales`).

This is proved of each method, and from a method that stands after a filter it passes to the filter
(`corresponds_train`), for any nesting of filters.  What is left out are kernels other than the
linear one, which mix units, and division by deviations (`Estimator.Homogeneous`).
-/
import Mathlib
import PartialLeastSquares.Proofs.Model.Training
import PartialLeastSquares.Proofs.Rescaling.Data
import PartialLeastSquares.Proofs.Rescaling.KernelPls
import PartialLeastSquares.Proofs.Rescaling.OrthogonalFilter
import PartialLeastSquares.Proofs.Rescaling.Pls1
import PartialLeastSquares.Proofs.Rescaling.Simpls

namespace PartialLeastSquares

variable {n p q : ℕ} {a b : ℝ} {tools : Toolkit ℝ}

/-! ## 1. Fitted models -/

noncomputable def Envelope.rescale (a b : ℝ) (env : Envelope ℝ p q) : Envelope ℝ p q :=
  ⟨env.scheme, env.x.rescale a, env.y.rescale b, env.flat⟩

/-- **What is fitted to data in other units predicts in other units:** the answers have the same
shape, and for rows in other units they are those for the rows, in other units. -/
structure Fitted.Rescales (a b : ℝ) (f f' : Fitted ℝ n p q) : Prop where
  predicts : f.predicts = true ∧ f'.predicts = true
  flat : f'.envelope.flat = f.envelope.flat
  predict : ∀ {m : ℕ} (x : Mat ℝ m p),
    f'.predict (x.scale a) = (f.predict x).map fun y => y.scale b

/-- **A method carries the units along** if what it learns from data in other units corresponds to
what it learns from the data. -/
def CarriesUnits (a b : ℝ)
    (method : ℕ → Envelope ℝ p q → Mat ℝ n p → Mat ℝ n q → Run ℝ (Fitted ℝ n p q)) : Prop :=
  ∀ count env x y, Run.Corresponds (Fitted.Rescales a b) (method count env x y)
    (method count (env.rescale a b) (x.scale a) (y.scale b))

/-! ## 2. One method at a time -/

namespace CarriesUnits

theorem pls1 (ht : tools.ExactInverse) (ha : 0 < a) (hb : 0 < b) :
    CarriesUnits a b (trainPls1 (n := n) (p := p) tools true) := by
  intro count env x y
  have hfit : Corresponds (fun _ _ => True)
      (fun f f' => Pls1.fit tools (Pls1.extraction x y.only count) = .ok f ∧ f' = f.rescale a b)
      (Pls1.fit tools (Pls1.extraction x y.only count))
      (Pls1.fit tools (Pls1.extraction (x.scale a) (y.scale b).only count)) := by
    rw [Mat.only_scale]
    exact .of_eq_map (Pls1.fit_rescale ha hb tools x y.only count) (fun _ => trivial)
      fun _ hf => ⟨hf, rfl⟩
  unfold trainPls1
  refine Run.corresponds_record_bind ((Run.corresponds_numerical hfit).bind ?_)
  rintro f _ ⟨hf, rfl⟩
  refine Run.corresponds_pure ⟨⟨rfl, rfl⟩, rfl, fun {m} new => ?_⟩
  refine congrArg Except.ok ?_
  rw [Envelope.rescale, ColumnStats.rescale_apply, Pls1.predict_rescale ht ha hb hf,
    Mat.ofCol_scale, ColumnStats.rescale_unapply]

theorem simpls (ht : tools.Exact) (ha : 0 < a) (hb : 0 < b) (coefficients : Value) :
    CarriesUnits a b (trainSimpls (n := n) (p := p) tools coefficients) := by
  intro count env x y
  obtain ⟨hcomponents, hending⟩ := Simpls.corresponds_extraction ht ha hb x y.only count
  rw [← Mat.only_scale] at hcomponents hending
  unfold trainSimpls
  refine Run.corresponds_record_bind ((Run.corresponds_numerical hending).bind fun _ _ _ => ?_)
  refine Run.corresponds_bind_self fun number _ => ?_
  rcases Simpls.fit_rescaled ha hcomponents (thinning p number) with
    ⟨hnone, hnone'⟩ | ⟨f, f', hf, hf', hregression⟩
  · rw [hnone, hnone']
    exact Run.corresponds_fail rfl
  · rw [hf, hf']
    refine Run.corresponds_pure ⟨⟨rfl, rfl⟩, rfl, fun {m} new => ?_⟩
    refine congrArg Except.ok ?_
    rw [Envelope.rescale, ColumnStats.rescale_apply, Simpls.predict_rescaled ha hregression,
      Mat.ofCol_scale, ColumnStats.rescale_unapply]

/-- **The method in feature space,** with the linear kernel. -/
theorem kernelPls (ht : tools.ExactInverse) (hcond : tools.ExactCondition) (ha : 0 < a)
    (hb : 0 < b) (tol maxIter seed : Value) :
    CarriesUnits a b
      (trainKernelPls (n := n) (p := p) (q := q) tools (.kernel .linear) tol maxIter seed) := by
  intro count env x y
  unfold trainKernelPls
  dsimp only
  cases (checkIteration tol maxIter seed : Except Invalid (KernelPls.Settings ℝ)) with
  | error why => exact Run.corresponds_fail_bind rfl
  | ok settings =>
    refine Run.corresponds_ok_bind ?_
    rw [KernelPls.center_real, KernelPls.center_real]
    refine Run.corresponds_ok_bind (Run.corresponds_ok_bind ?_)
    rw [KernelPls.prepare_rescale]
    cases hdata : KernelPls.prepare .linear x y
        (Scheme.center.learn x, Scheme.center.learn y) with
    | error e => exact Run.corresponds_fail_bind rfl
    | ok data =>
      have hlinear : data.kernel = .linear := by
        obtain ⟨raw, -, hdata⟩ := bind_eq_ok_iff.mp hdata
        rw [← Except.ok.inj hdata]
      have hfound : KernelPls.extraction tools settings (data.rescale a b).centered
          (data.rescale a b).y count = _ :=
        KernelPls.extraction_rescale (mul_pos ha ha) hb tools settings data.centered data.y count
      refine Run.corresponds_ok_bind (Run.corresponds_record_bind ?_)
      rw [hfound]
      dsimp only
      cases (KernelPls.extraction tools settings data.centered data.y count).ending with
      | error halt =>
        cases halt with
        | inPass e => exact Run.corresponds_fail rfl
        | afterPasses c e => exact Run.corresponds_fail rfl
        | noPass => exact Run.corresponds_fail rfl
      | ok r =>
        have hfit := KernelPls.corresponds_fit (b := b) ht hcond ha hlinear
          (KernelPls.extraction tools settings data.centered data.y count).components r
          (r.rescale (a * a) b)
        refine (Run.corresponds_numerical hfit).bind fun f f' hf =>
          Run.corresponds_pure ⟨⟨rfl, rfl⟩, rfl, fun {m} new => ?_⟩
        simp only [Fitted.predict, Envelope.rescale, ColumnStats.rescale_apply,
          KernelPls.predict_rescaled ha hf]
        cases f.predict (env.x.apply new) with
        | error e => rfl
        | ok raw =>
          simp only [Except.map, Mat.entryProblem?_real, ColumnStats.rescale_unapply]

/-- **An orthogonal filter,** if what follows it does. -/
theorem opls (ha : 0 < a) (hb : 0 < b) {follow : Mat ℝ n p → Mat ℝ n 1 → Run ℝ (Fitted ℝ n p 1)}
    (hfollow : ∀ x y, Run.Corresponds (Fitted.Rescales a b) (follow x y)
      (follow (x.scale a) (y.scale b))) :
    CarriesUnits a b (trainOpls follow) := by
  intro count env x y
  unfold trainOpls
  rw [Mat.only_scale, OrthogonalFilter.extraction_rescale ha hb]
  dsimp only
  refine Run.corresponds_record_bind ?_
  cases (OrthogonalFilter.extraction x y.only count).ending with
  | error e => exact Run.corresponds_fail_bind rfl
  | ok residual =>
    refine Run.corresponds_ok_bind ?_
    rw [OrthogonalFilter.apply_rescale]
    refine (hfollow _ y).bind fun f f' hf =>
      Run.corresponds_pure ⟨⟨rfl, rfl⟩, rfl, fun {m} new => ?_⟩
    simp only [Fitted.predict, hf.predicts, if_true, Envelope.rescale, ColumnStats.rescale_apply,
      OrthogonalFilter.Fit.transform, OrthogonalFilter.apply_rescale, Mat.entryProblem?_real,
      hf.predict]
    cases f.predict _ with
    | error e => rfl
    | ok raw => simp only [Except.map, ColumnStats.rescale_unapply]

/-! ## 3. Around a method -/

/-- **A method for one response,** for responses of any number of columns. -/
theorem forOne {method : ℕ → Envelope ℝ p 1 → Mat ℝ n p → Mat ℝ n 1 → Run ℝ (Fitted ℝ n p 1)}
    (hmethod : CarriesUnits a b method) :
    CarriesUnits (q := q) a b (PartialLeastSquares.forOne method) := by
  intro count env x y
  match q, env, y with
  | 0, _, _ => exact Run.corresponds_fail rfl
  | 1, env, y => exact hmethod count env x y
  | _ + 2, _, _ => exact Run.corresponds_fail rfl

/-- **Preprocessing around a method,** if it divides by no deviations. -/
theorem around {method : ℕ → Envelope ℝ p q → Mat ℝ n p → Mat ℝ n q → Run ℝ (Fitted ℝ n p q)}
    (hmethod : CarriesUnits a b method) {name : String} {plan : Plan}
    (hscheme : plan.scheme ≠ .standardize) (flat : Bool) (x : Mat ℝ n p) (y : Mat ℝ n q) :
    Run.Corresponds (Fitted.Rescales a b)
      (PartialLeastSquares.around name plan flat x y method)
      (PartialLeastSquares.around name plan flat (x.scale a) (y.scale b) method) := by
  have henvelope : plan.envelope flat (x.scale a) (y.scale b) =
      (plan.envelope flat x y).rescale a b := by
    rw [Plan.envelope, Scheme.learn_scale hscheme, Scheme.learn_scale hscheme]
    rfl
  unfold Run.Corresponds
  rw [outcome_around, outcome_around, henvelope, Scheme.learn_apply_scale hscheme,
    Scheme.learn_apply_scale hscheme]
  exact hmethod _ _ _ _

end CarriesUnits

/-! ## 4. Any method -/

/-- **Methods that keep to their units:** no kernel but the linear one, and no division by
deviations in a model after a filter.  Weights may be thinned out in any way. -/
inductive Estimator.Homogeneous : Estimator → Prop
  | pls1 : Homogeneous .pls1
  | default : Homogeneous (.plain .null)
  | simpls (coefficients : Value) : Homogeneous (.simpls coefficients)
  | kernelPls (tol maxIter seed : Value) :
      Homogeneous (.kernelPls (.kernel .linear) tol maxIter seed)
  | opls : Homogeneous (.opls (.plain .null))
  | oplsModel {algorithm : Estimator} {count scheme : Value} (after : Homogeneous algorithm)
      (hscheme : Scheme.ofValue? scheme ≠ some .standardize) :
      Homogeneous (.opls (.model algorithm count scheme))

/-- Over the reals data in other units is accepted after a filter if and only if the data is. -/
theorem checkFollowing_scale (algorithm : Estimator) (count scheme : Value) (x : Mat ℝ n p)
    (y : Mat ℝ n q) : checkFollowing algorithm count scheme (x.scale a) (y.scale b) =
      checkFollowing algorithm count scheme x y := by
  unfold checkFollowing
  rw [checkEntries_real, checkEntries_real]

/-- The scheme of a plan that was accepted after a filter. -/
theorem scheme_of_checkFollowing {algorithm : Estimator} {count scheme : Value} {x : Mat ℝ n p}
    {y : Mat ℝ n q} {plan : Plan} (h : checkFollowing algorithm count scheme x y = .ok plan) :
    Scheme.ofValue? scheme = some plan.scheme :=
  Model.scheme_of_checkPlan (checkFollowing_eq_ok_iff.mp h).1

theorem scheme_of_default {x : Mat ℝ n p} {y : Mat ℝ n q} {plan : Plan}
    (h : checkFollowing .pls1 (.int 1) (.text "center") x y = .ok plan) :
    plan.scheme = .center := by
  have hcenter : Scheme.ofValue? (.text "center") = some .center := by cbv
  exact (Option.some.inj (hcenter.symm.trans (scheme_of_checkFollowing h))).symm

theorem corresponds_train (ht : tools.Exact) (hcond : tools.ExactCondition) (ha : 0 < a)
    (hb : 0 < b) {method : Estimator} (h : method.Homogeneous) :
    ∀ {n p q : ℕ} {plan : Plan} (flat : Bool) (x : Mat ℝ n p) (y : Mat ℝ n q),
      plan.scheme ≠ .standardize →
      Run.Corresponds (Fitted.Rescales a b) (train tools method plan flat x y)
        (train tools method plan flat (x.scale a) (y.scale b)) := by
  have hpls1 {n p q : ℕ} {plan : Plan} (flat : Bool) (x : Mat ℝ n p) (y : Mat ℝ n q)
      (hscheme : plan.scheme ≠ .standardize) :
      Run.Corresponds (Fitted.Rescales a b)
        (around "PLS1" plan flat x y (forOne (trainPls1 tools true)))
        (around "PLS1" plan flat (x.scale a) (y.scale b) (forOne (trainPls1 tools true))) :=
    (CarriesUnits.pls1 ht.toExactInverse ha hb).forOne.around hscheme flat x y
  induction h with
  | pls1 =>
    intro n p q plan flat x y hscheme
    rw [train, train]
    exact hpls1 flat x y hscheme
  | default =>
    intro n p q plan flat x y hscheme
    rw [train, train]
    exact hpls1 flat x y hscheme
  | simpls coefficients =>
    intro n p q plan flat x y hscheme
    rw [train, train]
    exact (CarriesUnits.simpls ht ha hb coefficients).forOne.around hscheme flat x y
  | kernelPls tol maxIter seed =>
    intro n p q plan flat x y hscheme
    rw [train, train]
    exact (CarriesUnits.kernelPls ht.toExactInverse hcond ha hb tol maxIter seed).around hscheme
      flat x y
  | opls =>
    intro n p q plan flat x y hscheme
    rw [train, train]
    refine (CarriesUnits.opls ha hb fun x y => ?_).forOne.around hscheme flat x y
    rw [checkFollowing_scale]
    refine Run.corresponds_bind_self fun inner hinner => hpls1 false x y ?_
    rw [scheme_of_default hinner]
    decide
  | oplsModel after hafter ih =>
    intro n p q plan flat x y hscheme
    rw [train, train]
    refine (CarriesUnits.opls ha hb fun x y => ?_).forOne.around hscheme flat x y
    rw [checkFollowing_scale]
    refine Run.corresponds_bind_self fun inner hinner => ih false x y fun hstandardize => ?_
    exact hafter ((scheme_of_checkFollowing hinner).trans (congrArg some hstandardize))

end PartialLeastSquares
