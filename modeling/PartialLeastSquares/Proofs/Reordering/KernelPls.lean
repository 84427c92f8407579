/-
# The method in feature space, with columns in another order

The kernel of the rows does not change with the order of the predictors, and nothing after it looks
at the predictors.  The order of the responses goes further: a pass of the iteration multiplies them
with a score, and then with what came of it, and after that their order is gone.  So the iterates
are the same, how far they move is the same, and every iteration takes as many passes, whether or
not it settles (`passes_reorder`).  What has the order of the responses at the end are their
loadings, the coefficients and the predictions (`fit_reorder`, `predict_reorder`).

The rows stay where they are: each start vector is drawn for the places of the rows.
-/
import Mathlib
import PartialLeastSquares.Proofs.Reordering.Data
import PartialLeastSquares.Proofs.Rescaling.KernelPls

namespace PartialLeastSquares.KernelPls

variable {n m p q : ℕ} {τ : Equiv.Perm (Fin p)} {ρ : Equiv.Perm (Fin q)}

/-! ## 1. The iteration -/

def Pass.reorder {K : Type} (ρ : Equiv.Perm (Fin q)) (made : Pass K n q) : Pass K n q :=
  ⟨made.raw, made.score, made.responseLoading.reorder ρ, made.responseScore, made.change⟩

def Component.reorder {K : Type} (ρ : Equiv.Perm (Fin q)) (c : Component K n q) :
    Component K n q :=
  ⟨c.score, c.responseScore, c.loading, c.responseLoading.reorder ρ, c.convergence⟩

def Residual.reorder {K : Type} (ρ : Equiv.Perm (Fin q)) (r : Residual K n q) : Residual K n q :=
  ⟨r.kernel, r.y.reorder 1 ρ⟩

/-- **A pass with responses in another order** moves the iterate to the same place. -/
theorem pass_reorder (ρ : Equiv.Perm (Fin q)) (j : ℕ) (kScale yScale : ℝ) (r : Residual ℝ n q)
    (u : Vec ℝ n) : pass j kScale yScale (r.reorder ρ) u =
      (pass j kScale yScale r u).map (Pass.reorder ρ) := by
  unfold pass
  simp only [Residual.reorder, Mat.reorder_cols_applyT, Mat.reorder_cols_apply]
  cases normalize (.kernelScore j) (r.kernel.apply u) (kScale * u.norm) with
  | error e => rfl
  | ok score =>
    simp only [bind, Except.bind]
    cases normalize (.responseScore j) (r.y.apply (r.y.applyT score)) (yScale * yScale) <;> rfl

/-- **Passes with responses in another order** end after as many of them. -/
theorem passes_reorder (tol : Tolerance ℝ)
    {next next' : Vec ℝ n → Except (NumericalError ℝ) (Pass ℝ n q)}
    (hnext : ∀ u, next' u = (next u).map (Pass.reorder ρ)) :
    ∀ (more done : ℕ) (u : Vec ℝ n), passes tol next' more done u =
      (passes tol next more done u).map (Prod.map (Pass.reorder ρ) id) := by
  intro more
  induction more with
  | zero =>
    intro done u
    simp only [passes, hnext]
    cases next u <;> rfl
  | succ more ih =>
    intro done u
    simp only [passes, hnext]
    cases next u with
    | error e => rfl
    | ok made =>
      simp only [Except.map, Pass.reorder]
      split
      · exact ih (done + 1) made.responseScore
      · rfl

/-! ## 2. The components -/

/-- **A step with responses in another order** finds the same component and leaves the same kernel
and responses. -/
theorem step_reorder (tools : Toolkit ℝ) (settings : Settings ℝ) (ρ : Equiv.Perm (Fin q))
    (kScale yScale : ℝ) (j : ℕ) (r : Residual ℝ n q) :
    step tools settings kScale yScale j (r.reorder ρ) =
      (step tools settings kScale yScale j r).map
        (Prod.map (Component.reorder ρ) (Residual.reorder ρ)) := by
  have hpasses := passes_reorder settings.tol (pass_reorder ρ j kScale yScale r)
    (settings.maxPasses - 1) 0 (tools.start n (settings.seed + j))
  unfold step
  rw [hpasses]
  split
  · rfl
  · cases passes settings.tol (pass j kScale yScale r) (settings.maxPasses - 1) 0
        (tools.start n (settings.seed + j)) with
    | error e => rfl
    | ok found =>
      obtain ⟨last, count⟩ := found
      simp only [Except.map, Prod.map, Pass.reorder, Residual.reorder, id]
      generalize (((Mat.identity n).sub (Mat.outer last.score last.score)).mul r.kernel).mul
        ((Mat.identity n).sub (Mat.outer last.score last.score)) = kernel
      cases divideBy (.kernelLoading j) (kernel.applyT last.raw) last.raw.normSq
          (kScale * kScale) with
      | error e => rfl
      | ok loading =>
        simp only [Component.reorder, Mat.outer_reorder, Mat.reorder_sub]

theorem extraction_reorder (tools : Toolkit ℝ) (settings : Settings ℝ) (ρ : Equiv.Perm (Fin q))
    (kernel : Mat ℝ n n) (y : Mat ℝ n q) (count : ℕ) :
    extraction tools settings kernel (y.reorder 1 ρ) count =
      ⟨(extraction tools settings kernel y count).components.map (Component.reorder ρ),
        (extraction tools settings kernel y count).ending.map (Residual.reorder ρ)⟩ := by
  unfold extraction
  rw [Mat.norm_reorder]
  exact extract_map (fun j r => step_reorder tools settings ρ kernel.norm y.norm j r) count 0
    ⟨kernel, y⟩

/-! ## 3. Fits -/

def Fit.reorder {K : Type} (τ : Equiv.Perm (Fin p)) (ρ : Equiv.Perm (Fin q)) (f : Fit K n p q) :
    Fit K n p q :=
  ⟨f.kernel, f.xStats.reorder τ, f.yStats.reorder ρ, f.training.reorder 1 τ, f.raw, f.centered,
    f.deflated, f.components.map (Component.reorder ρ),
    Mat.ofFn fun i j => f.coefficients.get (i.cast (List.length_map _)) (ρ j)⟩

def Prepared.reorder {K : Type} (τ : Equiv.Perm (Fin p)) (ρ : Equiv.Perm (Fin q))
    (d : Prepared K n p q) : Prepared K n p q :=
  ⟨d.kernel, d.xStats.reorder τ, d.yStats.reorder ρ, d.x.reorder 1 τ, d.y.reorder 1 ρ, d.raw,
    d.centered⟩

/-- **Columns in another order are prepared if and only if the columns are,** with the same
kernel. -/
theorem prepare_reorder (kernel : Kernel) (x : Mat ℝ n p) (y : Mat ℝ n q) :
    prepare kernel (x.reorder 1 τ) (y.reorder 1 ρ)
        (Scheme.center.learn (x.reorder 1 τ), Scheme.center.learn (y.reorder 1 ρ)) =
      (prepare kernel x y (Scheme.center.learn x, Scheme.center.learn y)).map
        (Prepared.reorder τ ρ) := by
  unfold prepare
  simp only [Scheme.learn_reorder, ColumnStats.reorder_apply, Kernel.selfGram_reorder_cols]
  cases kernel.selfGram ((Scheme.center.learn x).apply x) <;> rfl

/-- The coefficients of any scores and loadings, as many as there are. -/
def coefficientsOf {K : Type} [Scalar K] (tools : Toolkit K) {count : ℕ} (kernel : Mat K n n)
    (t u : Mat K n count) (l : Mat K q count) : Except (NumericalError K) (Mat K count q) :=
  (invert tools .scoresByScores (Mat.mul (Mat.tmul t kernel) u)).map fun inner => Mat.mulT inner l

theorem coefficients_eq_coefficientsOf {K : Type} [Scalar K] (tools : Toolkit K)
    (kernel : Mat K n n) (cs : List (Component K n q)) :
    coefficients tools kernel cs =
      coefficientsOf tools kernel (scores cs) (responseScores cs) (responseLoadings cs) := by
  unfold coefficients coefficientsOf
  cases invert tools .scoresByScores
    (Mat.mul (Mat.tmul (scores cs) kernel) (responseScores cs)) <;> rfl

/-- The coefficients of the same scores, and of loadings in another order. -/
theorem coefficientsOf_reorder {tools : Toolkit ℝ} {count count' : ℕ} (hcount : count' = count)
    {kernel : Mat ℝ n n} {t u : Mat ℝ n count} {l : Mat ℝ q count} {t' u' : Mat ℝ n count'}
    {l' : Mat ℝ q count'} (ht : HEq t' t) (hu : HEq u' u) (hl : HEq l' (l.reorder ρ 1)) :
    coefficientsOf tools kernel t' u' l' =
      (coefficientsOf tools kernel t u l).map fun b =>
        Mat.ofFn fun i j => b.get (i.cast hcount) (ρ j) := by
  subst hcount
  cases ht
  cases hu
  cases hl
  unfold coefficientsOf
  cases invert tools .scoresByScores (Mat.mul (Mat.tmul t' kernel) u') with
  | error e => rfl
  | ok inner =>
    refine congrArg Except.ok (Mat.ext fun i j => ?_)
    rw [Mat.get_mulT, Mat.get_ofFn, Mat.get_mulT]
    exact Scalar.sum_congr fun l => by rw [Mat.get_reorder]; rfl

/-- **The fit of components with columns in other orders.** -/
theorem fit_reorder (tools : Toolkit ℝ) (data : Prepared ℝ n p q) (cs : List (Component ℝ n q))
    (r : Residual ℝ n q) :
    fit tools (data.reorder τ ρ) (cs.map (Component.reorder ρ)) (r.reorder ρ) =
      (fit tools data cs r).map (Fit.reorder τ ρ) := by
  have hcoefficients : coefficients tools data.centered (cs.map (Component.reorder ρ)) =
      (coefficients tools data.centered cs).map fun b =>
        Mat.ofFn fun i j => b.get (i.cast (List.length_map _)) (ρ j) := by
    rw [coefficients_eq_coefficientsOf, coefficients_eq_coefficientsOf]
    exact coefficientsOf_reorder (List.length_map _) (Mat.heq_ofCols_map cs _ _)
      (Mat.heq_ofCols_map cs _ _) (Mat.heq_ofCols_reorder cs fun _ => rfl)
  unfold fit
  simp only [Prepared.reorder, hcoefficients]
  cases coefficients tools data.centered cs <;> rfl

/-! ## 4. New rows -/

/-- The scores of rows times the coefficients, in the order of the responses. -/
theorem mul_coefficients_reorder (f : Fit ℝ n p q) (c : Mat ℝ m n) :
    (c.mul (responseScores (f.reorder τ ρ).components)).mul (f.reorder τ ρ).coefficients =
      ((c.mul (responseScores f.components)).mul f.coefficients).reorder 1 ρ := by
  refine Mat.ext fun i j => ?_
  rw [Mat.get_reorder, Mat.get_mul, Mat.get_mul, Scalar.sum_real, Scalar.sum_real]
  refine Fintype.sum_equiv (finCongr (List.length_map _)) _ _ fun k => ?_
  simp [Fit.reorder, responseScores, Component.reorder]

/-- **The predictions** for new rows in the order of the predictors have that of the responses. -/
theorem predict_reorder (f : Fit ℝ n p q) (new : Mat ℝ m p) :
    (f.reorder τ ρ).predict (new.reorder 1 τ) = (f.predict new).map (Mat.reorder 1 ρ) := by
  have hgram : (f.reorder τ ρ).kernel.gram ((f.reorder τ ρ).xStats.apply (new.reorder 1 τ))
      (f.reorder τ ρ).training = f.kernel.gram (f.xStats.apply new) f.training := by
    simp only [Fit.reorder, ColumnStats.reorder_apply, Kernel.gram_reorder_cols]
  unfold Fit.predict Fit.transform
  rw [Mat.entryProblem?_real, Mat.entryProblem?_real, hgram]
  dsimp only
  cases f.kernel.gram (f.xStats.apply new) f.training with
  | error e => rfl
  | ok cross =>
    dsimp only
    rw [Mat.entryProblem?_real, Mat.entryProblem?_real, mul_coefficients_reorder]
    exact congrArg Except.ok (ColumnStats.reorder_unapply 1 ρ _ f.yStats)

end PartialLeastSquares.KernelPls
