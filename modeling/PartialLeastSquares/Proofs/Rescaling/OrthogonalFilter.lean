/-
# An orthogonal filter in other units

The direction that is kept depends on the directions of the predictors and the response only, so it
is the same in all units.  What is removed then does not depend on the units of the response at all:
scores and remainders are in the units of the predictors, weights and loadings in none
(`extraction_rescale`).  A filter with these weights and loadings takes new rows in their own units
(`apply_rescale`).
-/
import Mathlib
import PartialLeastSquares.Method.OrthogonalFilter
import PartialLeastSquares.Proofs.Rescaling.Arithmetic
import PartialLeastSquares.Proofs.Rescaling.Correspondence

namespace PartialLeastSquares.OrthogonalFilter

variable {n m p : ℕ} {a b : ℝ}

noncomputable def Component.rescale (a : ℝ) (c : Component ℝ n p) : Component ℝ n p :=
  ⟨c.weight, c.score.scale a, c.loading, a * a * c.scoreSq⟩

/-- **The direction that is kept** has no units. -/
theorem initialWeight_rescale (ha : 0 < a) (hb : 0 < b) (x : Mat ℝ n p) (y : Vec ℝ n) :
    initialWeight (x.scale a) (y.scale b) = initialWeight x y := by
  unfold initialWeight
  rw [Mat.norm_scale x ha, Vec.norm_scale y hb]
  exact normalize_scale (mul_pos ha hb) (by simp [mul_comm]) (by ring)

/-- **A step in other units** finds the same component and leaves the same predictors. -/
theorem step_rescale (ha : 0 < a) (xScale : ℝ) (w : Vec ℝ p) (j : ℕ) (x : Mat ℝ n p) :
    step (a * xScale) w j (x.scale a) =
      (step xScale w j x).map (Prod.map (Component.rescale a) fun rest => rest.scale a) := by
  have haa : 0 < a * a := mul_pos ha ha
  have href : a * xScale * (a * xScale) = a * a * (xScale * xScale) := by ring
  -- a score and its loading, for the direction that is kept and for the new one
  have hscore (v : Vec ℝ p) : ((x.scale a).apply v).dividedBy v.normSq =
      ((x.apply v).dividedBy v.normSq).scale a := by
    have hdivided := Vec.scale_dividedBy (x.apply v) a 1 v.normSq
    rwa [one_mul, div_one, ← Mat.scale_apply] at hdivided
  have hloading (what : Quantity) (t : Vec ℝ n) :
      divideBy what ((x.scale a).applyT (t.scale a)) (t.scale a).normSq
        (a * xScale * (a * xScale)) = divideBy what (x.applyT t) t.normSq (xScale * xScale) :=
    divideBy_scale haa (by simp) (Vec.normSq_scale t a) href
  unfold step
  simp only [bind, Except.bind, hscore, hloading]
  cases divideBy (.residualLoading j) (x.applyT ((x.apply w).dividedBy w.normSq))
      ((x.apply w).dividedBy w.normSq).normSq (xScale * xScale) with
  | error e => rfl
  | ok loading =>
    dsimp only
    cases normalize (.orthogonalWeight j)
        (loading.sub (w.scale (w.dot loading / w.normSq))) 1 with
    | error e => rfl
    | ok weight =>
      dsimp only
      generalize (x.apply weight).dividedBy weight.normSq = t
      cases divideBy (.orthogonalLoading j) (x.applyT t) t.normSq (xScale * xScale) with
      | error e => rfl
      | ok loading =>
        simp only [Except.map, pure, Except.pure, Prod.map, Component.rescale, Vec.normSq_scale,
          Mat.scale_outer, Mat.scale_sub]

theorem extraction_rescale (ha : 0 < a) (hb : 0 < b) (x : Mat ℝ n p) (y : Vec ℝ n) (count : ℕ) :
    extraction (x.scale a) (y.scale b) count =
      ⟨(extraction x y count).components.map (Component.rescale a),
        (extraction x y count).ending.map fun rest => rest.scale a⟩ := by
  unfold extraction
  rw [initialWeight_rescale ha hb, Mat.norm_scale x ha]
  cases initialWeight x y with
  | error e => rfl
  | ok w => exact extract_map (fun j x' => step_rescale ha x.norm w j x') count 0 x

/-- The rows less their projections on any weights. -/
def remove {K : Type} [Scalar K] {k : ℕ} (w l : Mat K p k) (x : Mat K m p) : Mat K m p :=
  x.sub (Mat.mulT (x.mul w) l)

theorem remove_congr {k k' : ℕ} (hk : k' = k) {w l : Mat ℝ p k} {w' l' : Mat ℝ p k'}
    (hw : HEq w' w) (hl : HEq l' l) (x : Mat ℝ m p) : remove w' l' x = remove w l x := by
  subst hk
  cases hw
  cases hl
  rfl

theorem apply_rescale (cs : List (Component ℝ n p)) (x : Mat ℝ m p) :
    apply (cs.map (Component.rescale a)) (x.scale a) = (apply cs x).scale a := by
  have hsame : apply (cs.map (Component.rescale a)) (x.scale a) = apply cs (x.scale a) :=
    remove_congr (List.length_map _) (Mat.heq_ofCols_map cs _ _) (Mat.heq_ofCols_map cs _ _) _
  rw [hsame, apply, Mat.scale_mul, Mat.scale_mulT, Mat.scale_sub]
  rfl

end PartialLeastSquares.OrthogonalFilter
