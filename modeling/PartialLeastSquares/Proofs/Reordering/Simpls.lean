/-
# Cross-products in another order

Cross-products are summed over the rows, so the order of the rows does not show in them at all, and
everything after them is the same.  The order of the predictors goes through to weights, loadings
and the regression vector (`extraction_reorder`).

Weights that are thinned out are the exception: which entries rank first among equals is decided by
their place.  So an order of the predictors is carried through only if all weights are kept
(`fit_reorder`).
-/
import Mathlib
import PartialLeastSquares.Proofs.Reordering.Arithmetic
import PartialLeastSquares.Proofs.Rescaling.Correspondence
import PartialLeastSquares.Method.Simpls

namespace PartialLeastSquares.Simpls

variable {n m p : ℕ} {σ : Equiv.Perm (Fin n)} {τ : Equiv.Perm (Fin p)}

/-! ## 1. The components -/

def Component.reorder {K : Type} (τ : Equiv.Perm (Fin p)) (c : Component K p) : Component K p :=
  ⟨c.weight.reorder τ, c.loading.reorder τ, c.responseLoading⟩

def Cross.reorder {K : Type} (τ : Equiv.Perm (Fin p)) (r : Cross K p) : Cross K p :=
  ⟨r.response.reorder τ, r.predictors.reorder τ τ, r.projector.reorder τ τ⟩

def Fit.reorder {K : Type} (τ : Equiv.Perm (Fin p)) (f : Fit K p) : Fit K p :=
  ⟨f.components.map (Component.reorder τ),
    Mat.ofFn fun i j => f.slimmed.get (τ i) (j.cast (List.length_map _))⟩

/-- **A step in another order** finds the same component and leaves the same cross-products. -/
theorem step_reorder (tools : Toolkit ℝ) (τ : Equiv.Perm (Fin p)) (xScale yScale : ℝ) (j : ℕ)
    (r : Cross ℝ p) :
    step tools xScale yScale j (r.reorder τ) =
      (step tools xScale yScale j r).map (Prod.map (Component.reorder τ) (Cross.reorder τ)) := by
  unfold step
  simp only [Cross.reorder, Vec.normSq_reorder, Vec.reorder_scale]
  cases dominantEigenvector tools j (Mat.ofFn fun (_ _ : Fin 1) => r.response.normSq) with
  | error e => rfl
  | ok direction =>
    simp only [bind, Except.bind, normalize_reorder]
    cases normalize (.weight j) (r.response.scale direction.only) (xScale * yScale) with
    | error e => rfl
    | ok raw =>
      simp only [Except.map, Mat.reorder_applyT, Vec.reorder_dot]
      split_ifs with hlength
      · rfl
      · simp only [Vec.reorder_dividedBy, Mat.reorder_apply, normalize_reorder]
        generalize raw.dividedBy (Scalar.sqrt ((r.predictors.applyT raw).dot raw)) = weight
        cases normalize (.deflationDirection j) (r.projector.apply (r.predictors.apply weight))
            xScale with
        | error e => rfl
        | ok v =>
          simp only [Except.map, pure, Except.pure, Prod.map, Component.reorder, Cross.reorder,
            Mat.reorder_outer, Mat.reorder_sub, Mat.reorder_apply, Vec.reorder_dot]

/-- **The cross-products** do not depend on the order of the rows. -/
theorem start_reorder (x : Mat ℝ n p) (y : Vec ℝ n) :
    Cross.start (x.reorder σ τ) (y.reorder σ) = (Cross.start x y).reorder τ := by
  unfold Cross.start Cross.reorder
  rw [Mat.reorder_applyT, Mat.reorder_tmul, Mat.identity_reorder]

theorem extraction_reorder (tools : Toolkit ℝ) (σ : Equiv.Perm (Fin n)) (τ : Equiv.Perm (Fin p))
    (x : Mat ℝ n p) (y : Vec ℝ n) (count : ℕ) :
    extraction tools (x.reorder σ τ) (y.reorder σ) count =
      ⟨(extraction tools x y count).components.map (Component.reorder τ),
        (extraction tools x y count).ending.map (Cross.reorder τ)⟩ := by
  unfold extraction
  rw [Mat.norm_reorder, Vec.norm_reorder, start_reorder]
  exact extract_map (fun j r => step_reorder tools τ x.norm y.norm j r) count 0 (Cross.start x y)

/-! ## 2. The weights that are kept -/

/-- **Every weight is kept.** -/
def Thinning.KeepsAll : Thinning → Prop
  | keepAll => True
  | keep count => count ≤ 0
  | meaningless => True

@[simp] theorem Component.reorder_one {K : Type} (c : Component K p) : c.reorder 1 = c := by
  unfold Component.reorder
  rw [Vec.reorder_one, Vec.reorder_one]

@[simp] theorem Fit.reorder_one (f : Fit ℝ p) : f.reorder 1 = f := by
  have hcomponents : f.components.map (Component.reorder 1) = f.components :=
    List.map_id'' Component.reorder_one _
  unfold Fit.reorder
  refine Fit.mk.injEq _ _ _ _ ▸ ⟨hcomponents, ?_⟩
  refine Mat.heq_of_get (List.length_map _) fun i j => ?_
  rw [Mat.get_ofFn]
  rfl

theorem slim_of_nonpos {K : Type} [Scalar K] {k : ℕ} {count : ℤ} (h : count ≤ 0) (a : Mat K p k) :
    slim a count = a :=
  if_pos (.inl h)

/-- **What is fitted in another order,** if all weights are kept or the predictors stay where they
are. -/
theorem fit_reorder {thinning : Thinning} (h : thinning.KeepsAll ∨ τ = 1)
    (cs : List (Component ℝ p)) :
    fit thinning (cs.map (Component.reorder τ)) = (fit thinning cs).map (Fit.reorder τ) := by
  rcases h with h | rfl
  · have hweights : weights (cs.map (Component.reorder τ)) =
        Mat.ofFn fun i j => (weights cs).get (τ i) (j.cast (List.length_map _)) := by
      refine Mat.ext fun i j => ?_
      rw [weights, weights, Mat.get_ofCols, Mat.get_ofFn, Mat.get_ofCols]
      simp [Component.reorder]
    cases thinning with
    | keepAll => exact congrArg some (congrArg (Fit.mk _) hweights)
    | keep count =>
      simp only [fit, slim_of_nonpos h, hweights, Option.map_some, Fit.reorder]
    | meaningless => rfl
  · rw [List.map_id'' Component.reorder_one]
    cases fit thinning cs with
    | none => rfl
    | some f => rw [Option.map_some, Fit.reorder_one]

/-! ## 3. New rows -/

/-- **The regression vector** has the order of the predictors. -/
theorem regression_reorder (f : Fit ℝ p) : (f.reorder τ).regression = f.regression.reorder τ := by
  refine Vec.ext fun i => ?_
  rw [Vec.get_reorder, Fit.regression, Fit.regression, Mat.get_apply, Mat.get_apply,
    Scalar.sum_real, Scalar.sum_real]
  refine Fintype.sum_equiv (finCongr (List.length_map _)) _ _ fun j => ?_
  simp [Fit.reorder, responseLoadings, Component.reorder]

/-- **The predictions** are the same if the new rows have the order of the predictors. -/
theorem predict_reorder (f : Fit ℝ p) (x : Mat ℝ m p) :
    (f.reorder τ).predict (x.reorder 1 τ) = f.predict x := by
  unfold Fit.predict
  rw [regression_reorder, Mat.reorder_cols_apply]

end PartialLeastSquares.Simpls
