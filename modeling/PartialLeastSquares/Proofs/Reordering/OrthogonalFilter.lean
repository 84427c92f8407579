/-
# An orthogonal filter in another order

What a filter finds in reordered rows and predictors is what it finds in the old order, reordered:
scores have the order of the rows, directions and loadings that of the predictors, and what is left
has both (`extraction_reorder`).  New rows that have the order of the predictors are filtered as
they were, and stay in it (`apply_reorder`).
-/
import Mathlib
import PartialLeastSquares.Proofs.Reordering.Arithmetic
import PartialLeastSquares.Proofs.Rescaling.OrthogonalFilter

namespace PartialLeastSquares.OrthogonalFilter

variable {n m p : ℕ} {σ : Equiv.Perm (Fin n)} {τ : Equiv.Perm (Fin p)}

def Component.reorder {K : Type} (σ : Equiv.Perm (Fin n)) (τ : Equiv.Perm (Fin p))
    (c : Component K n p) : Component K n p :=
  ⟨c.weight.reorder τ, c.score.reorder σ, c.loading.reorder τ, c.scoreSq⟩

def Fit.reorder {K : Type} (σ : Equiv.Perm (Fin n)) (τ : Equiv.Perm (Fin p)) (f : Fit K n p) :
    Fit K n p :=
  ⟨f.components.map (Component.reorder σ τ), f.residual.reorder σ τ⟩

/-- **The direction that is kept** has the order of the predictors. -/
theorem initialWeight_reorder (x : Mat ℝ n p) (y : Vec ℝ n) :
    initialWeight (x.reorder σ τ) (y.reorder σ) = (initialWeight x y).map (Vec.reorder τ) := by
  unfold initialWeight
  rw [Mat.reorder_applyT, Mat.norm_reorder, Vec.norm_reorder, normalize_reorder]

/-- **A step in another order** finds the same component and leaves the same predictors. -/
theorem step_reorder (σ : Equiv.Perm (Fin n)) (τ : Equiv.Perm (Fin p)) (xScale : ℝ) (w : Vec ℝ p)
    (j : ℕ) (x : Mat ℝ n p) :
    step xScale (w.reorder τ) j (x.reorder σ τ) =
      (step xScale w j x).map (Prod.map (Component.reorder σ τ) (Mat.reorder σ τ)) := by
  unfold step
  simp only [Mat.reorder_apply, Vec.normSq_reorder, Vec.reorder_dividedBy, Mat.reorder_applyT,
    divideBy_reorder]
  cases divideBy (.residualLoading j) (x.applyT ((x.apply w).dividedBy w.normSq))
      ((x.apply w).dividedBy w.normSq).normSq (xScale * xScale) with
  | error e => rfl
  | ok loading =>
    simp only [bind, Except.bind, Except.map, Vec.reorder_dot, Vec.reorder_scale, Vec.reorder_sub,
      normalize_reorder]
    cases normalize (.orthogonalWeight j)
        (loading.sub (w.scale (w.dot loading / w.normSq))) 1 with
    | error e => rfl
    | ok weight =>
      simp only [Mat.reorder_apply, Vec.normSq_reorder, Vec.reorder_dividedBy, Mat.reorder_applyT,
        divideBy_reorder]
      generalize (x.apply weight).dividedBy weight.normSq = t
      cases divideBy (.orthogonalLoading j) (x.applyT t) t.normSq (xScale * xScale) with
      | error e => rfl
      | ok loading =>
        simp only [Except.map, pure, Except.pure, Prod.map, Component.reorder, Mat.reorder_outer,
          Mat.reorder_sub]

theorem extraction_reorder (σ : Equiv.Perm (Fin n)) (τ : Equiv.Perm (Fin p)) (x : Mat ℝ n p)
    (y : Vec ℝ n) (count : ℕ) :
    extraction (x.reorder σ τ) (y.reorder σ) count =
      ⟨(extraction x y count).components.map (Component.reorder σ τ),
        (extraction x y count).ending.map (Mat.reorder σ τ)⟩ := by
  unfold extraction
  rw [initialWeight_reorder, Mat.norm_reorder]
  cases initialWeight x y with
  | error e => rfl
  | ok w => exact extract_map (fun j x' => step_reorder σ τ x.norm w j x') count 0 x

/-- **New rows in the order of the predictors** are filtered as they were, in any order of their
own. -/
theorem apply_reorder (μ : Equiv.Perm (Fin m)) (cs : List (Component ℝ n p)) (x : Mat ℝ m p) :
    apply (cs.map (Component.reorder σ τ)) (x.reorder μ τ) = (apply cs x).reorder μ τ := by
  have hsame : apply (cs.map (Component.reorder σ τ)) (x.reorder μ τ) =
      remove ((weights cs).reorder τ 1) ((loadings cs).reorder τ 1) (x.reorder μ τ) :=
    remove_congr (List.length_map _) (Mat.heq_ofCols_reorder cs fun _ => rfl)
      (Mat.heq_ofCols_reorder cs fun _ => rfl) _
  rw [hsame, remove, Mat.reorder_mul, Mat.reorder_mulT, Mat.reorder_sub]
  rfl

end PartialLeastSquares.OrthogonalFilter
