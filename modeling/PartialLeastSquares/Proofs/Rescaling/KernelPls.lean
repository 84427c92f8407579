/-
# The method in feature space, in other units

The linear kernel of predictors in units `a` times as large carries the factor `a * a`, so this file
speaks of a kernel times a factor `k` and of responses times a factor `b`.  A pass of the iteration
starts from the same vector, and it normalises what it finds, so the iterates are the same in all
units and so is how far they move; an iteration takes as many passes and settles or does not settle
alike (`passes_rescale`).

Predictions multiply the kernel of new rows with the training rows by one matrix, the scores on the
responses times the coefficients.  It carries the factor `b / k` (`dualOf_rescale`), and the kernel
of new rows in other units carries `k`, so the predictions carry `b` (`predict_rescaled`).
-/
import Mathlib
import PartialLeastSquares.Method.KernelPls
import PartialLeastSquares.Proofs.KernelPls.Preparation
import PartialLeastSquares.Proofs.Rescaling.Arithmetic
import PartialLeastSquares.Proofs.Rescaling.Correspondence
import PartialLeastSquares.Proofs.Rescaling.Data

namespace PartialLeastSquares.KernelPls

variable {n m p q : ℕ} {a b k : ℝ}

/-! ## 1. The iteration -/

noncomputable def Pass.rescale (k b : ℝ) (made : Pass ℝ n q) : Pass ℝ n q :=
  ⟨made.raw.scale k, made.score, made.responseLoading.scale b, made.responseScore, made.change⟩

noncomputable def Component.rescale (b : ℝ) (c : Component ℝ n q) : Component ℝ n q :=
  ⟨c.score, c.responseScore, c.loading, c.responseLoading.scale b, c.convergence⟩

noncomputable def Residual.rescale (k b : ℝ) (r : Residual ℝ n q) : Residual ℝ n q :=
  ⟨r.kernel.scale k, r.y.scale b⟩

/-- **A pass in other units** moves the iterate to the same place. -/
theorem pass_rescale (hk : 0 < k) (hb : 0 < b) (j : ℕ) (kScale yScale : ℝ) (r : Residual ℝ n q)
    (u : Vec ℝ n) : pass j (k * kScale) (b * yScale) (r.rescale k b) u =
      (pass j kScale yScale r u).map (Pass.rescale k b) := by
  have hraw : (r.rescale k b).kernel.apply u = (r.kernel.apply u).scale k := Mat.scale_apply _ _ _
  have hscore : normalize (.kernelScore j) ((r.kernel.apply u).scale k) (k * kScale * u.norm) =
      normalize (.kernelScore j) (r.kernel.apply u) (kScale * u.norm) :=
    normalize_scale hk rfl (mul_assoc _ _ _)
  unfold pass
  simp only [hraw, hscore]
  cases normalize (.kernelScore j) (r.kernel.apply u) (kScale * u.norm) with
  | error e => rfl
  | ok score =>
    have hloading : (r.rescale k b).y.applyT score = (r.y.applyT score).scale b :=
      Mat.scale_applyT _ _ _
    have himage : (r.rescale k b).y.apply ((r.y.applyT score).scale b) =
        (r.y.apply (r.y.applyT score)).scale (b * b) := by
      rw [Residual.rescale, Mat.scale_apply, Mat.apply_scale, Vec.scale_scale]
    have hresponse : normalize (.responseScore j)
        ((r.y.apply (r.y.applyT score)).scale (b * b)) (b * yScale * (b * yScale)) =
          normalize (.responseScore j) (r.y.apply (r.y.applyT score)) (yScale * yScale) :=
      normalize_scale (mul_pos hb hb) rfl (by ring)
    simp only [bind, Except.bind, hloading, himage, hresponse]
    cases normalize (.responseScore j) (r.y.apply (r.y.applyT score)) (yScale * yScale) <;> rfl

/-- **Passes in other units** end after as many of them. -/
theorem passes_rescale (tol : Tolerance ℝ)
    {next next' : Vec ℝ n → Except (NumericalError ℝ) (Pass ℝ n q)}
    (hnext : ∀ u, next' u = (next u).map (Pass.rescale k b)) :
    ∀ (more done : ℕ) (u : Vec ℝ n), passes tol next' more done u =
      (passes tol next more done u).map (Prod.map (Pass.rescale k b) id) := by
  intro more
  induction more with
  | zero =>
    intro done u
    simp only [passes, hnext]
    cases next u <;> rfl
  | succ more ih =>
    intro done u
    simp only [passes, hnext]
    cases next u with
    | error e => rfl
    | ok made =>
      simp only [Except.map, Pass.rescale]
      split
      · exact ih (done + 1) made.responseScore
      · rfl

/-! ## 2. The components -/

/-- **A step in other units** finds the same component and leaves the same kernel and
responses. -/
theorem step_rescale (hk : 0 < k) (hb : 0 < b) (tools : Toolkit ℝ) (settings : Settings ℝ)
    (kScale yScale : ℝ) (j : ℕ) (r : Residual ℝ n q) :
    step tools settings (k * kScale) (b * yScale) j (r.rescale k b) =
      (step tools settings kScale yScale j r).map
        (Prod.map (Component.rescale b) (Residual.rescale k b)) := by
  have hpasses := passes_rescale settings.tol (pass_rescale hk hb j kScale yScale r)
    (settings.maxPasses - 1) 0 (tools.start n (settings.seed + j))
  unfold step
  rw [hpasses]
  split
  · rfl
  · cases passes settings.tol (pass j kScale yScale r) (settings.maxPasses - 1) 0
        (tools.start n (settings.seed + j)) with
    | error e => rfl
    | ok found =>
      obtain ⟨last, count⟩ := found
      have hkernel (part : Mat ℝ n n) : (part.mul (r.rescale k b).kernel).mul part =
          ((part.mul r.kernel).mul part).scale k := by
        rw [Residual.rescale, Mat.mul_scale, Mat.scale_mul]
      have hloading (kernel : Mat ℝ n n) :
          divideBy (.kernelLoading j) ((kernel.scale k).applyT (last.raw.scale k))
            (last.raw.scale k).normSq (k * kScale * (k * kScale)) =
          divideBy (.kernelLoading j) (kernel.applyT last.raw) last.raw.normSq
            (kScale * kScale) :=
        divideBy_scale (mul_pos hk hk) (by simp) (Vec.normSq_scale _ _) (by ring)
      simp only [Except.map, Prod.map, Pass.rescale, id, hkernel, hloading]
      generalize (((Mat.identity n).sub (Mat.outer last.score last.score)).mul r.kernel).mul
        ((Mat.identity n).sub (Mat.outer last.score last.score)) = kernel
      cases divideBy (.kernelLoading j) (kernel.applyT last.raw) last.raw.normSq
          (kScale * kScale) with
      | error e => rfl
      | ok loading =>
        simp only [Component.rescale, Residual.rescale, Mat.outer_scale, Mat.scale_sub]

theorem extraction_rescale (hk : 0 < k) (hb : 0 < b) (tools : Toolkit ℝ) (settings : Settings ℝ)
    (kernel : Mat ℝ n n) (y : Mat ℝ n q) (count : ℕ) :
    extraction tools settings (kernel.scale k) (y.scale b) count =
      ⟨(extraction tools settings kernel y count).components.map (Component.rescale b),
        (extraction tools settings kernel y count).ending.map (Residual.rescale k b)⟩ := by
  unfold extraction
  rw [Mat.norm_scale kernel hk, Mat.norm_scale y hb]
  exact extract_map (fun j r => step_rescale hk hb tools settings kernel.norm y.norm j r) count 0
    ⟨kernel, y⟩

/-! ## 3. The coefficients -/

/-- What the kernel of new rows is multiplied by to predict: the scores on the responses times the
coefficients. -/
def Fit.dual {K : Type} [Scalar K] (f : Fit K n p q) : Mat K n q :=
  (responseScores f.components).mul f.coefficients

/-- The matrix of any scores and loadings by which the kernel is multiplied. -/
def dualOf {K : Type} [Scalar K] (tools : Toolkit K) {count : ℕ} (kernel : Mat K n n)
    (t u : Mat K n count) (l : Mat K q count) : Except (NumericalError K) (Mat K n q) :=
  (invert tools .scoresByScores (Mat.mul (Mat.tmul t kernel) u)).map fun inner =>
    u.mul (Mat.mulT inner l)

theorem map_coefficients {K : Type} [Scalar K] (tools : Toolkit K) (kernel : Mat K n n)
    (cs : List (Component K n q)) :
    (coefficients tools kernel cs).map (fun c => (responseScores cs).mul c) =
      dualOf tools kernel (scores cs) (responseScores cs) (responseLoadings cs) := by
  unfold coefficients dualOf
  cases invert tools .scoresByScores
    (Mat.mul (Mat.tmul (scores cs) kernel) (responseScores cs)) <;> rfl

theorem dualOf_congr {tools : Toolkit ℝ} {count count' : ℕ} (hcount : count' = count)
    {kernel : Mat ℝ n n} {t u : Mat ℝ n count} {l : Mat ℝ q count} {t' u' : Mat ℝ n count'}
    {l' : Mat ℝ q count'} (ht : HEq t' t) (hu : HEq u' u) (hl : HEq l' l) :
    dualOf tools kernel t' u' l' = dualOf tools kernel t u l := by
  subst hcount
  cases ht
  cases hu
  cases hl
  rfl

theorem dualOf_scale {tools : Toolkit ℝ} (ht : tools.ExactInverse)
    (hcond : tools.ExactCondition) (hk : k ≠ 0) {count : ℕ} (kernel : Mat ℝ n n)
    (t u : Mat ℝ n count) (l : Mat ℝ q count) :
    dualOf tools (kernel.scale k) t u (l.scale b) =
      (dualOf tools kernel t u l).map fun d => d.scale (b / k) := by
  unfold dualOf
  rw [Mat.tmul_scale, Mat.scale_mul, invert_scale ht hcond hk]
  cases invert tools .scoresByScores (Mat.mul (Mat.tmul t kernel) u) with
  | error e => rfl
  | ok inner =>
    simp only [Except.map, Mat.scale_mulT, Mat.mulT_scale, Mat.scale_scale, Mat.mul_scale]
    rw [div_eq_mul_inv]

theorem dualOf_rescale {tools : Toolkit ℝ} (ht : tools.ExactInverse)
    (hcond : tools.ExactCondition) (hk : k ≠ 0) (kernel : Mat ℝ n n)
    (cs : List (Component ℝ n q)) :
    dualOf tools (kernel.scale k) (scores (cs.map (Component.rescale b)))
        (responseScores (cs.map (Component.rescale b)))
        (responseLoadings (cs.map (Component.rescale b))) =
      (dualOf tools kernel (scores cs) (responseScores cs) (responseLoadings cs)).map
        fun d => d.scale (b / k) := by
  have hloadings : HEq (responseLoadings (cs.map (Component.rescale b)))
      ((responseLoadings cs).scale b) := by
    refine Mat.heq_of_get (List.length_map _) fun i j => ?_
    rw [Mat.get_scale, responseLoadings, responseLoadings, Mat.get_ofCols, Mat.get_ofCols]
    simp [Component.rescale]
  rw [← dualOf_scale ht hcond hk]
  exact dualOf_congr (List.length_map _) (Mat.heq_ofCols_map cs _ _) (Mat.heq_ofCols_map cs _ _)
    hloadings

/-! ## 4. Fits -/

noncomputable def Prepared.rescale (a b : ℝ) (d : Prepared ℝ n p q) : Prepared ℝ n p q :=
  ⟨d.kernel, d.xStats.rescale a, d.yStats.rescale b, d.x.scale a, d.y.scale b, d.raw.scale (a * a),
    d.centered.scale (a * a)⟩

/-- **Data in other units is prepared if and only if the data is.** -/
theorem prepare_rescale (x : Mat ℝ n p) (y : Mat ℝ n q) (a b : ℝ) :
    prepare .linear (x.scale a) (y.scale b)
        (Scheme.center.learn (x.scale a), Scheme.center.learn (y.scale b)) =
      (prepare .linear x y (Scheme.center.learn x, Scheme.center.learn y)).map
        (Prepared.rescale a b) := by
  have hcenter : Scheme.center ≠ .standardize := by decide
  unfold prepare
  simp only [Scheme.learn_scale hcenter, ColumnStats.rescale_apply, Kernel.selfGram_scale]
  cases Kernel.linear.selfGram ((Scheme.center.learn x).apply x) with
  | error e => rfl
  | ok raw =>
    refine congrArg Except.ok ?_
    rw [Prepared.rescale, centerKernel_scale]

/-- **A fit with the linear kernel in other units.** Means, training predictors and the kernel of
the training rows carry their factors, and so does what the kernel of new rows is multiplied by.
-/
structure Fit.Rescaled (a b : ℝ) (f f' : Fit ℝ n p q) : Prop where
  linear : f.kernel = .linear ∧ f'.kernel = .linear
  xStats : f'.xStats = f.xStats.rescale a
  yStats : f'.yStats = f.yStats.rescale b
  training : f'.training = f.training.scale a
  raw : f'.raw = f.raw.scale (a * a)
  dual : f'.dual = f.dual.scale (b / (a * a))

/-- **Components in other units make a fit if and only if the components do.** -/
theorem corresponds_fit {tools : Toolkit ℝ} (ht : tools.ExactInverse)
    (hcond : tools.ExactCondition) (ha : 0 < a) {data : Prepared ℝ n p q}
    (hlinear : data.kernel = .linear) (cs : List (Component ℝ n q)) (r r' : Residual ℝ n q) :
    Corresponds (fun _ _ => True) (Fit.Rescaled a b) (fit tools data cs r)
      (fit tools (data.rescale a b) (cs.map (Component.rescale b)) r') := by
  have hdual := dualOf_rescale (b := b) ht hcond (mul_pos ha ha).ne' data.centered cs
  rw [← map_coefficients, ← map_coefficients] at hdual
  unfold fit
  show Corresponds _ _ (coefficients tools data.centered cs >>= _)
    (coefficients tools (data.centered.scale (a * a)) (cs.map (Component.rescale b)) >>= _)
  cases hc : coefficients tools data.centered cs with
  | error e =>
    rw [hc] at hdual
    cases hc' : coefficients tools (data.centered.scale (a * a))
        (cs.map (Component.rescale b)) with
    | error e' => exact .error trivial
    | ok c' =>
      rw [hc'] at hdual
      cases hdual
  | ok c =>
    rw [hc] at hdual
    cases hc' : coefficients tools (data.centered.scale (a * a))
        (cs.map (Component.rescale b)) with
    | error e' =>
      rw [hc'] at hdual
      cases hdual
    | ok c' =>
      rw [hc'] at hdual
      exact .ok ⟨⟨hlinear, hlinear⟩, rfl, rfl, rfl, rfl, Except.ok.inj hdual⟩

/-- A prediction is the centered kernel of the new rows times one matrix. -/
theorem predict_eq_dual (f : Fit ℝ n p q) (x : Mat ℝ m p) :
    f.predict x = match f.kernel.gram (f.xStats.apply x) f.training with
      | .error e => .error (.kernel e)
      | .ok cross => .ok (f.yStats.unapply ((centerCrossKernel cross f.raw).mul f.dual)) := by
  unfold Fit.predict Fit.transform
  rw [Mat.entryProblem?_real]
  dsimp only
  cases f.kernel.gram (f.xStats.apply x) f.training with
  | error e => rfl
  | ok cross =>
    have hassoc : (Mat.mul (centerCrossKernel cross f.raw) (responseScores f.components)).mul
        f.coefficients = (centerCrossKernel cross f.raw).mul f.dual := by
      refine Mat.matrix_injective ?_
      rw [Fit.dual, Mat.matrix_mul, Mat.matrix_mul, Mat.matrix_mul, Mat.matrix_mul,
        Matrix.mul_assoc]
    dsimp only
    rw [Mat.entryProblem?_real, hassoc]

theorem predict_rescaled (ha : 0 < a) {f f' : Fit ℝ n p q} (h : f.Rescaled a b f')
    (new : Mat ℝ m p) :
    f'.predict (new.scale a) = (f.predict new).map fun y => y.scale b := by
  rw [predict_eq_dual, predict_eq_dual, h.linear.1, h.linear.2, h.xStats, h.yStats, h.training,
    h.raw, h.dual, ColumnStats.rescale_apply, Kernel.gram_scale]
  cases Kernel.linear.gram (f.xStats.apply new) f.training with
  | error e => rfl
  | ok cross =>
    simp only [Except.map, centerCrossKernel_scale, Mat.scale_mul, Mat.mul_scale, Mat.scale_scale,
      div_mul_cancel₀ b (mul_pos ha ha).ne', ColumnStats.rescale_unapply]

end PartialLeastSquares.KernelPls
