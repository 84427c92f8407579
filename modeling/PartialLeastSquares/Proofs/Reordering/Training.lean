/-
# Training in another order

What a method learns from rows, predictors and responses in other orders is what it learns from the
data, in these orders: it learns something in one case if and only if it does in the other, and
fails for the same reason (`train_reorder`).  New rows in the order of the predictors are then given
predictions in the order of the responses (`Fitted.predict_reorder`).

This is proved of each method (`Respects`), and passes from what follows a filter to the filter.
Two orders are not respected by every method, whatever stands in front of it.  The method in feature
space starts from vectors that are drawn for the places of the rows, so the rows must stay where
they are (`Estimator.kernelless`); and weights that are thinned out are ranked by their places among
equals, so then the predictors must stay (`Estimator.keepsWeights`).
-/
import Mathlib
import PartialLeastSquares.Proofs.Model.Nesting
import PartialLeastSquares.Proofs.Reordering.KernelPls
import PartialLeastSquares.Proofs.Reordering.OrthogonalFilter
import PartialLeastSquares.Proofs.Reordering.Pls1
import PartialLeastSquares.Proofs.Reordering.Simpls
import PartialLeastSquares.Proofs.Rescaling.Training

namespace PartialLeastSquares

variable {n m p q : ℕ} {σ : Equiv.Perm (Fin n)} {τ : Equiv.Perm (Fin p)} {ρ : Equiv.Perm (Fin q)}
  {tools : Toolkit ℝ}

/-! ## 1. Fitted models -/

def Envelope.reorder {K : Type} (τ : Equiv.Perm (Fin p)) (ρ : Equiv.Perm (Fin q))
    (env : Envelope K p q) : Envelope K p q :=
  ⟨env.scheme, env.x.reorder τ, env.y.reorder ρ, env.flat⟩

/-- **A fitted model in other orders:** of its training rows, of the predictors and of the
responses, at every level. -/
def Fitted.reorder {K : Type} (σ : Equiv.Perm (Fin n)) (τ : Equiv.Perm (Fin p)) :
    {q : ℕ} → Equiv.Perm (Fin q) → Fitted K n p q → Fitted K n p q
  | _, ρ, pls1 env predicts fit => pls1 (env.reorder τ ρ) predicts (fit.reorder σ τ)
  | _, ρ, simpls env fit => simpls (env.reorder τ ρ) (fit.reorder τ)
  | _, ρ, kernelPls env fit => kernelPls (env.reorder τ ρ) (fit.reorder τ ρ)
  | _, ρ, opls env filter base =>
    opls (env.reorder τ ρ) (filter.reorder σ τ) (base.reorder σ τ ρ)

namespace Fitted

theorem envelope_reorder {K : Type} (f : Fitted K n p q) :
    (f.reorder σ τ ρ).envelope = f.envelope.reorder τ ρ := by
  cases f <;> rfl

@[simp] theorem predicts_reorder {K : Type} (f : Fitted K n p q) :
    (f.reorder σ τ ρ).predicts = f.predicts := by
  cases f <;> rfl

@[simp] theorem methodName_reorder {K : Type} (f : Fitted K n p q) :
    (f.reorder σ τ ρ).methodName = f.methodName := by
  cases f with
  | pls1 env predicts fit => cases predicts <;> rfl
  | _ => rfl

/-- **New rows in the order of the predictors** are given predictions in the order of the
responses.  The induction is on the nesting of the filters. -/
theorem predict_reorder (f : Fitted ℝ n p q) (new : Mat ℝ m p) :
    (f.reorder σ τ ρ).predict (new.reorder 1 τ) = (f.predict new).map (Mat.reorder 1 ρ) := by
  induction f generalizing new with
  | pls1 env predicts fit =>
    cases predicts with
    | false => rfl
    | true =>
      refine congrArg Except.ok ?_
      rw [Envelope.reorder, ColumnStats.reorder_apply, Pls1.predict_reorder,
        ← ColumnStats.reorder_unapply, ← Mat.ofCol_reorder, Vec.reorder_one]
  | simpls env fit =>
    refine congrArg Except.ok ?_
    rw [Envelope.reorder, ColumnStats.reorder_apply, Simpls.predict_reorder,
      ← ColumnStats.reorder_unapply, ← Mat.ofCol_reorder, Vec.reorder_one]
  | kernelPls env fit =>
    simp only [predict, reorder, Envelope.reorder, ColumnStats.reorder_apply,
      KernelPls.predict_reorder]
    cases fit.predict (env.x.apply new) with
    | error e => rfl
    | ok raw => simp only [Except.map, Mat.entryProblem?_real, ColumnStats.reorder_unapply]
  | opls env filter base ih =>
    have hfilter : (filter.reorder σ τ).transform ((env.x.reorder τ).apply (new.reorder 1 τ)) =
        (filter.transform (env.x.apply new)).reorder 1 τ := by
      rw [ColumnStats.reorder_apply]
      exact OrthogonalFilter.apply_reorder 1 filter.components (env.x.apply new)
    simp only [predict, reorder, Envelope.reorder, predicts_reorder, methodName_reorder, hfilter,
      Mat.entryProblem?_real, ih]
    split
    · cases base.predict (filter.transform (env.x.apply new)) with
      | error e => rfl
      | ok raw => simp only [Except.map, ColumnStats.reorder_unapply]
    · rfl

end Fitted

/-! ## 2. One method at a time -/

/-- **A method respects orders** if what it learns from reordered data is what it learns from the
data, reordered. -/
def Respects (σ : Equiv.Perm (Fin n)) (τ : Equiv.Perm (Fin p)) (ρ : Equiv.Perm (Fin q))
    (method : ℕ → Envelope ℝ p q → Mat ℝ n p → Mat ℝ n q → Run ℝ (Fitted ℝ n p q)) : Prop :=
  ∀ count env x y,
    (method count (env.reorder τ ρ) (x.reorder σ τ) (y.reorder σ ρ)).outcome =
      (method count env x y).outcome.map (Fitted.reorder σ τ ρ)

namespace Respects

theorem pls1 {ρ : Equiv.Perm (Fin 1)} {predicts : Bool} :
    Respects σ τ ρ (trainPls1 tools predicts) := by
  intro count env x y
  unfold trainPls1
  rw [Run.outcome_record_bind, Run.outcome_record_bind, Mat.only_reorder, Pls1.fit_reorder]
  cases Pls1.fit tools (Pls1.extraction x y.only count) <;> rfl

/-- **The method from cross-products,** if all weights are kept or the predictors stay where they
are. -/
theorem simpls {ρ : Equiv.Perm (Fin 1)} {coefficients : Value}
    (h : (∀ number, checkCoefficients (K := ℝ) coefficients = .ok number →
      (thinning p number).KeepsAll) ∨ τ = 1) :
    Respects σ τ ρ (trainSimpls tools coefficients) := by
  intro count env x y
  unfold trainSimpls
  rw [Run.outcome_record_bind, Run.outcome_record_bind, Mat.only_reorder,
    Simpls.extraction_reorder]
  dsimp only
  cases (Simpls.extraction tools x y.only count).ending with
  | error e => rfl
  | ok r =>
    cases hnumber : checkCoefficients (K := ℝ) coefficients with
    | error e => rfl
    | ok number =>
      have hfit := Simpls.fit_reorder (h.imp_left fun h => h number hnumber)
        (Simpls.extraction tools x y.only count).components
      simp only [Except.map, Run.numerical, Run.outcome_bind, Run.outcome_silent]
      simp only [bind, Except.bind, hfit]
      cases Simpls.fit (thinning p number) (Simpls.extraction tools x y.only count).components <;>
        rfl

/-- **The method in feature space,** if the rows stay where they are. -/
theorem kernelPls {kernel : Estimator} {tol maxIter seed : Value} :
    Respects 1 τ ρ (trainKernelPls (n := n) tools kernel tol maxIter seed) := by
  intro count env x y
  unfold trainKernelPls
  dsimp only
  cases (checkIteration tol maxIter seed : Except Invalid (KernelPls.Settings ℝ)) with
  | error why => rfl
  | ok settings =>
    simp only [KernelPls.center_real, Run.outcome_ok_bind]
    cases hkernel : (kernelOf kernel : Except (ModelError ℝ) Kernel) with
    | error e => rfl
    | ok k =>
      simp only [Run.outcome_silent_ok_bind, KernelPls.prepare_reorder]
      cases KernelPls.prepare k x y (Scheme.center.learn x, Scheme.center.learn y) with
      | error e => rfl
      | ok data =>
        have hfound : KernelPls.extraction tools settings (data.reorder τ ρ).centered
            (data.reorder τ ρ).y count = _ :=
          KernelPls.extraction_reorder tools settings ρ data.centered data.y count
        simp only [Except.map, Run.outcome_ok_bind, Run.outcome_record_bind]
        rw [hfound]
        dsimp only
        cases (KernelPls.extraction tools settings data.centered data.y count).ending with
        | error halt => cases halt <;> rfl
        | ok r =>
          simp only [Except.map, KernelPls.fit_reorder]
          cases KernelPls.fit tools data (KernelPls.extraction tools settings data.centered data.y
            count).components r <;> rfl

/-- **An orthogonal filter,** if what follows it does. -/
theorem opls {ρ : Equiv.Perm (Fin 1)} {follow : Mat ℝ n p → Mat ℝ n 1 → Run ℝ (Fitted ℝ n p 1)}
    (hfollow : ∀ x y, (follow (x.reorder σ τ) (y.reorder σ ρ)).outcome =
      (follow x y).outcome.map (Fitted.reorder σ τ ρ)) :
    Respects σ τ ρ (trainOpls follow) := by
  intro count env x y
  unfold trainOpls
  rw [Run.outcome_record_bind, Run.outcome_record_bind, Mat.only_reorder,
    OrthogonalFilter.extraction_reorder]
  dsimp only
  cases (OrthogonalFilter.extraction x y.only count).ending with
  | error e => rfl
  | ok residual =>
    simp only [Except.map, Run.numerical, Run.outcome_bind, OrthogonalFilter.apply_reorder,
      hfollow]
    cases (follow (OrthogonalFilter.apply
      (OrthogonalFilter.extraction x y.only count).components x) y).outcome <;> rfl

/-- **A method for one response,** for responses of any number of columns. -/
theorem forOne {method : ℕ → Envelope ℝ p 1 → Mat ℝ n p → Mat ℝ n 1 → Run ℝ (Fitted ℝ n p 1)}
    (hmethod : ∀ ρ, Respects σ τ ρ method) :
    Respects σ τ ρ (PartialLeastSquares.forOne (q := q) method) := by
  intro count env x y
  match q, ρ, env, y with
  | 0, _, _, _ => rfl
  | 1, ρ, env, y => exact hmethod ρ count env x y
  | _ + 2, _, _, _ => rfl

theorem around {method : ℕ → Envelope ℝ p q → Mat ℝ n p → Mat ℝ n q → Run ℝ (Fitted ℝ n p q)}
    (hmethod : Respects σ τ ρ method) (name : String) (plan : Plan) (flat : Bool) (x : Mat ℝ n p)
    (y : Mat ℝ n q) :
    (PartialLeastSquares.around name plan flat (x.reorder σ τ) (y.reorder σ ρ) method).outcome =
      (PartialLeastSquares.around name plan flat x y method).outcome.map
        (Fitted.reorder σ τ ρ) := by
  have henvelope : plan.envelope flat (x.reorder σ τ) (y.reorder σ ρ) =
      (plan.envelope flat x y).reorder τ ρ := by
    rw [Plan.envelope, Scheme.learn_reorder, Scheme.learn_reorder]
    rfl
  rw [outcome_around, outcome_around, henvelope, Scheme.learn_reorder, Scheme.learn_reorder,
    ColumnStats.reorder_apply, ColumnStats.reorder_apply]
  exact hmethod _ _ _ _

end Respects

/-! ## 3. Any method -/

namespace Estimator

/-- **No method in feature space** is used, also when filters are looked through. -/
def kernelless : Estimator → Bool
  | .kernelPls _ _ _ _ => false
  | .opls (.model algorithm _ _) => algorithm.kernelless
  | _ => true

/-- **No weights are thinned out,** also when filters are looked through: the number of
coefficients to keep is zero, which keeps them all. -/
def keepsWeights : Estimator → Bool
  | .simpls coefficients =>
    match coefficients.number? with
    | some (.whole count) => decide (count ≤ 0)
    | _ => true
  | .opls (.model algorithm _ _) => algorithm.keepsWeights
  | _ => true

section Following

variable {base algorithm : Estimator} {count scheme : Value}

theorem kernelless_opls (h : base.following = some (algorithm, count, scheme)) :
    (opls base).kernelless = algorithm.kernelless := by
  rcases following_cases h with ⟨rfl, rfl, -, -⟩ | rfl
  · rfl
  · rw [kernelless]

theorem keepsWeights_opls (h : base.following = some (algorithm, count, scheme)) :
    (opls base).keepsWeights = algorithm.keepsWeights := by
  rcases following_cases h with ⟨rfl, rfl, -, -⟩ | rfl
  · rfl
  · rw [keepsWeights]

end Following

end Estimator

/-- A method that thins out no weights keeps all of them. -/
theorem keepsAll_thinning {coefficients : Value} {number : Number}
    (h : (Estimator.simpls coefficients).keepsWeights = true)
    (hnumber : checkCoefficients (K := ℝ) coefficients = .ok number) :
    (thinning p number).KeepsAll := by
  unfold checkCoefficients at hnumber
  unfold Estimator.keepsWeights at h
  cases hcount : coefficients.number? with
  | none =>
    rw [hcount] at hnumber
    cases hnumber
  | some a =>
    rw [hcount] at h hnumber
    dsimp only at hnumber
    split at hnumber
    · cases hnumber
    · obtain rfl := Except.ok.inj hnumber
      cases a with
      | whole count => exact (of_decide_eq_true h : count ≤ 0)
      | real c =>
        unfold thinning
        dsimp only
        split_ifs <;> exact trivial

theorem checkFollowing_reorder (algorithm : Estimator) (count scheme : Value) (x : Mat ℝ n p)
    (y : Mat ℝ n q) : checkFollowing algorithm count scheme (x.reorder σ τ) (y.reorder σ ρ) =
      checkFollowing algorithm count scheme x y := by
  unfold checkFollowing
  rw [checkEntries_real, checkEntries_real]

/-- **What a method learns from data in other orders.**  The recursion follows the nesting of the
filters. -/
theorem train_reorder {n p : ℕ} {σ : Equiv.Perm (Fin n)} {τ : Equiv.Perm (Fin p)}
    {tools : Toolkit ℝ} :
    ∀ (method : Estimator) {q : ℕ} {ρ : Equiv.Perm (Fin q)} (plan : Plan) (flat : Bool)
      (x : Mat ℝ n p) (y : Mat ℝ n q), (method.kernelless = true ∨ σ = 1) →
      (method.keepsWeights = true ∨ τ = 1) →
      (train tools method plan flat (x.reorder σ τ) (y.reorder σ ρ)).outcome =
        (train tools method plan flat x y).outcome.map (Fitted.reorder σ τ ρ)
  | .pls1, _, _, plan, flat, x, y, _, _ => by
    rw [train, train]
    exact (Respects.forOne fun _ => Respects.pls1).around _ plan flat x y
  | .plain v, _, _, plan, flat, x, y, _, _ => by
    cases v with
    | null =>
      rw [train, train]
      exact (Respects.forOne fun _ => Respects.pls1).around _ plan flat x y
    | _ => rfl
  | .transformOnly, _, _, plan, flat, x, y, _, _ => by
    rw [train, train]
    exact (Respects.forOne fun _ => Respects.pls1).around _ plan flat x y
  | .simpls coefficients, _, _, plan, flat, x, y, _, hτ => by
    rw [train, train]
    refine (Respects.forOne fun _ => Respects.simpls ?_).around _ plan flat x y
    exact hτ.imp_left fun h _ hnumber => keepsAll_thinning h hnumber
  | .kernelPls kernel tol maxIter seed, _, _, plan, flat, x, y, hσ, _ => by
    obtain rfl : σ = 1 := hσ.resolve_left Bool.false_ne_true
    rw [train, train]
    exact Respects.kernelPls.around _ plan flat x y
  | .opls base, _, _, plan, flat, x, y, hσ, hτ => by
    cases hfollowing : base.following with
    | none =>
      rw [train_opls_of_not_following hfollowing, train_opls_of_not_following hfollowing]
      rfl
    | some after =>
      obtain ⟨algorithm, count, scheme⟩ := after
      rw [train_opls_of_following hfollowing, train_opls_of_following hfollowing]
      refine (Respects.forOne fun ρ => Respects.opls fun x y => ?_).around _ plan flat x y
      rw [Run.outcome_bind, Run.outcome_bind, checkFollowing_reorder]
      cases checkFollowing algorithm count scheme x y with
      | error e => rfl
      | ok inner =>
        rw [Estimator.kernelless_opls hfollowing] at hσ
        rw [Estimator.keepsWeights_opls hfollowing] at hτ
        exact train_reorder algorithm inner false x y hσ hτ
  | .kernel _, _, _, _, _, _, _, _, _ => rfl
  | .model _ _ _, _, _, _, _, _, _, _, _ => rfl
termination_by method => sizeOf method
decreasing_by exact Estimator.sizeOf_following hfollowing

end PartialLeastSquares
