/-
# Kernels of rank one

If a kernel is a multiple of one direction with itself, and the responses are along it, then the
power iteration has nothing to look for: a single pass ends at that direction, wherever it starts,
as long as it does not start across (`RankOne.pass_eq`).  One component explains everything, and the
weight of the responses is known (`RankOne.coefficients_eq`).
-/
import Mathlib
import PartialLeastSquares.Proofs.Exact.Columns
import PartialLeastSquares.Proofs.Exact.Tools
import PartialLeastSquares.Proofs.KernelPls.Component
import PartialLeastSquares.Proofs.KernelPls.Preparation
import PartialLeastSquares.Proofs.KernelPls.Regression

namespace PartialLeastSquares.KernelPls

open Matrix

variable {n q : ℕ} {kernel : Mat ℝ n n} {y : Mat ℝ n q} {t u : Vec ℝ n} {w : Vec ℝ q} {μ : ℝ}

/-- **A kernel of rank one, and responses along its direction.**  The direction `t` has length one,
the kernel is a positive multiple of it with itself, and each response is a multiple of it; the
multiples are the loadings `w`, and not all of them are zero. -/
structure RankOne (kernel : Mat ℝ n n) (y : Mat ℝ n q) (t : Vec ℝ n) (μ : ℝ) (w : Vec ℝ q) :
    Prop where
  unit : t.coords ⬝ᵥ t.coords = 1
  kernel_eq : kernel.matrix = μ • vecMulVec t.coords t.coords
  pos : 0 < μ
  responses : y.matrix = vecMulVec t.coords w.coords
  loading_pos : 0 < w.coords ⬝ᵥ w.coords

namespace RankOne

/-! ## 1. One pass -/

theorem mulVec (h : RankOne kernel y t μ w) (u : Fin n → ℝ) :
    kernel.matrix *ᵥ u = (μ * (t.coords ⬝ᵥ u)) • t.coords := by
  rw [h.kernel_eq, smul_mulVec, vecMulVec_mulVec, op_smul_eq_smul, smul_smul]

theorem norm_kernel (h : RankOne kernel y t μ w) : kernel.norm = μ := by
  have hrow : ∀ i, kernel.matrix i ⬝ᵥ kernel.matrix i = μ * μ * (t.coords i * t.coords i) := by
    intro i
    have hentry : kernel.matrix i = (μ * t.coords i) • t.coords := by
      funext j
      rw [h.kernel_eq, Matrix.smul_apply, vecMulVec_apply, Pi.smul_apply, smul_eq_mul, smul_eq_mul,
        mul_assoc]
    rw [hentry, smul_dotProduct, dotProduct_smul, h.unit, smul_eq_mul, smul_eq_mul]
    ring
  rw [Mat.norm_real, Finset.sum_congr rfl fun i _ => hrow i, ← Finset.mul_sum]
  change √(μ * μ * (t.coords ⬝ᵥ t.coords)) = μ
  rw [h.unit, mul_one, Real.sqrt_mul_self h.pos.le]

theorem norm_responses (h : RankOne kernel y t μ w) :
    y.norm * y.norm = w.coords ⬝ᵥ w.coords := by
  have hrow : ∀ i, y.matrix i ⬝ᵥ y.matrix i =
      (w.coords ⬝ᵥ w.coords) * (t.coords i * t.coords i) := by
    intro i
    have hentry : y.matrix i = t.coords i • w.coords := by
      funext j
      rw [h.responses, vecMulVec_apply, Pi.smul_apply, smul_eq_mul]
    rw [hentry, smul_dotProduct, dotProduct_smul, smul_eq_mul, smul_eq_mul]
    ring
  rw [Mat.norm_real, Finset.sum_congr rfl fun i _ => hrow i, ← Finset.mul_sum]
  change √((w.coords ⬝ᵥ w.coords) * (t.coords ⬝ᵥ t.coords)) *
    √((w.coords ⬝ᵥ w.coords) * (t.coords ⬝ᵥ t.coords)) = w.coords ⬝ᵥ w.coords
  rw [h.unit, mul_one, Real.mul_self_sqrt h.loading_pos.le]

theorem applyT_responses (h : RankOne kernel y t μ w) : y.applyT t = w := by
  refine Vec.coords_injective ?_
  rw [Mat.coords_applyT, h.responses, transpose_vecMulVec, vecMulVec_mulVec, h.unit,
    MulOpposite.op_one, one_smul]

theorem apply_responses (h : RankOne kernel y t μ w) :
    y.matrix *ᵥ w.coords = (w.coords ⬝ᵥ w.coords) • t.coords := by
  rw [h.responses, vecMulVec_mulVec, op_smul_eq_smul]

/-- **A pass ends at the direction,** if its iterate is not across. -/
theorem pass_eq (h : RankOne kernel y t μ w) (j : ℕ)
    (hu : Scalar.zeroNorm * u.norm < t.coords ⬝ᵥ u.coords) :
    pass j kernel.norm y.norm ⟨kernel, y⟩ u =
      .ok ⟨kernel.apply u, t, w, t, (t.sub u).norm⟩ := by
  have hguard : Scalar.zeroNorm * (kernel.norm * u.norm) < μ * (t.coords ⬝ᵥ u.coords) := by
    rw [h.norm_kernel, mul_left_comm]
    exact mul_lt_mul_of_pos_left hu h.pos
  have hresponse : y.matrix *ᵥ (y.matrixᵀ *ᵥ t.coords) = (w.coords ⬝ᵥ w.coords) • t.coords := by
    rw [← Mat.coords_applyT, h.applyT_responses, h.apply_responses]
  rw [pass_of_smul (r := ⟨kernel, y⟩) kernel.norm_nonneg j (h.mulVec _) h.unit hguard hresponse
    h.unit (by rw [h.norm_responses]; exact Scalar.zeroNorm_mul_lt (by linarith [h.loading_pos])),
    h.applyT_responses]

/-! ## 2. One component -/

section Component

variable {start : (n seed : ℕ) → Vec ℝ n} {settings : Settings ℝ}

theorem normSq_apply (h : RankOne kernel y t μ w) (u : Vec ℝ n) : (kernel.apply u).normSq =
    μ * μ * ((t.coords ⬝ᵥ u.coords) * (t.coords ⬝ᵥ u.coords)) := by
  rw [Vec.normSq_real, Mat.coords_apply, h.mulVec, smul_dotProduct, dotProduct_smul, h.unit,
    smul_eq_mul, smul_eq_mul]
  ring

/-- **The component of passes that end,** with the direction as both of its scores. -/
theorem exists_extraction (h : RankOne kernel y t μ w) (htol : settings.tol ≠ .infinite)
    {count : ℕ} {change : ℝ}
    (hlast : passes settings.tol (pass 0 kernel.norm y.norm ⟨kernel, y⟩) (settings.maxPasses - 1) 0
      (start n settings.seed) =
        .ok (⟨kernel.apply u, t, w, t, change⟩, count))
    (hu : Scalar.zeroNorm < (t.coords ⬝ᵥ u.coords) * (t.coords ⬝ᵥ u.coords)) :
    ∃ c r, extraction (.exact start) settings kernel y 1 = ⟨[c], .ok r⟩ ∧ c.score = t ∧
      c.responseScore = t ∧ c.responseLoading = w ∧
      c.convergence.passes = count := by
  have hguard : Scalar.zeroNorm * (kernel.norm * kernel.norm) < |(kernel.apply u).normSq| := by
    rw [h.normSq_apply, h.norm_kernel, mul_comm,
      abs_of_nonneg (mul_nonneg (mul_self_nonneg _) (mul_self_nonneg _))]
    exact mul_lt_mul_of_pos_left hu (mul_pos h.pos h.pos)
  obtain ⟨c, r, hstep, hscore, hresponseScore, hloading, hconvergence⟩ : ∃ c r,
      step (.exact start) settings kernel.norm y.norm 0 ⟨kernel, y⟩ = .ok (c, r) ∧ _ :=
    exists_step_of_passes htol hlast hguard
  refine ⟨c, r, ?_, hscore, hresponseScore, hloading, congrArg Convergence.passes hconvergence⟩
  rw [extraction]
  exact extract_succ_ok hstep 0

/-- **What scores are multiplied by to predict.** -/
theorem coefficients_eq (h : RankOne kernel y t μ w) {c : Component ℝ n q} (hscore : c.score = t)
    (hresponseScore : c.responseScore = t) (hloading : c.responseLoading = w) :
    coefficients (.exact start) kernel [c] = .ok (Mat.ofFn fun _ j => w.get j / μ) := by
  have hinner : (Mat.mul (Mat.tmul (scores [c]) kernel) (responseScores [c])).matrix =
      μ • (1 : Matrix (Fin 1) (Fin 1) ℝ) := by
    have hdot : t.coords ⬝ᵥ (kernel.matrix *ᵥ t.coords) = μ := by
      rw [h.mulVec, dotProduct_smul, h.unit, smul_eq_mul, mul_one, mul_one]
    ext i j
    fin_cases i; fin_cases j
    rw [Mat.matrix_mul, Mat.matrix_tmul, scores_mul_mul_apply, Matrix.smul_apply,
      Matrix.one_apply_eq, smul_eq_mul, mul_one, ← hdot]
    show c.score.coords ⬝ᵥ (kernel.matrix *ᵥ c.responseScore.coords) = _
    rw [hscore, hresponseScore]
  have hinverse : invert (.exact start) .scoresByScores
      (Mat.mul (Mat.tmul (scores [c]) kernel) (responseScores [c])) =
        .ok (Mat.ofMatrix (μ⁻¹ • 1)) :=
    Toolkit.invert_exact_of_matrix_eq_smul Nat.one_pos h.pos.ne' hinner
  refine bind_eq_ok_iff.mpr ⟨_, hinverse, congrArg Except.ok (Mat.ext fun i j => ?_)⟩
  have hi : i = 0 := Fin.ext (Nat.lt_one_iff.mp i.isLt)
  subst hi
  rw [Mat.get_mulT, Scalar.sum_real, Mat.get_ofFn]
  show ∑ l : Fin 1, (Mat.ofMatrix (μ⁻¹ • (1 : Matrix (Fin 1) (Fin 1) ℝ))).get 0 l *
    (responseLoadings [c]).get j l = _
  rw [Fin.sum_univ_one, responseLoadings, Mat.get_ofCols]
  show _ * c.responseLoading.get j = _
  rw [hloading, Mat.ofMatrix, Mat.get_ofFn, Matrix.smul_apply, Matrix.one_apply_eq,
    smul_eq_mul, mul_one, inv_mul_eq_div]

/-- **The fit of this component** succeeds. -/
theorem exists_fit {p : ℕ} {data : Prepared ℝ n p q} (h : RankOne data.centered data.y t μ w)
    (htol : settings.tol ≠ .infinite) {count : ℕ} {change : ℝ}
    (hlast : passes settings.tol (pass 0 data.centered.norm data.y.norm ⟨data.centered, data.y⟩)
      (settings.maxPasses - 1) 0 (start n settings.seed) =
        .ok (⟨data.centered.apply u, t, w, t, change⟩, count))
    (hu : Scalar.zeroNorm < (t.coords ⬝ᵥ u.coords) * (t.coords ⬝ᵥ u.coords)) :
    ∃ c r, extraction (.exact start) settings data.centered data.y 1 = ⟨[c], .ok r⟩ ∧
      c.responseScore = t ∧ c.convergence.passes = count ∧
      fit (.exact start) data [c] r = .ok ⟨data.kernel, data.xStats, data.yStats, data.x, data.raw,
        data.centered, r.kernel, [c], Mat.ofFn fun _ j => w.get j / μ⟩ := by
  obtain ⟨c, r, hextraction, hscore, hresponseScore, hloading, hcount⟩ :=
    h.exists_extraction htol hlast hu
  exact ⟨c, r, hextraction, hresponseScore, hcount,
    fit_eq_ok_iff.mpr ⟨_, h.coefficients_eq hscore hresponseScore hloading, rfl⟩⟩

end Component

end RankOne

/-! ## 3. New rows -/

/-- **What one component predicts:** the centered kernel of a row along the score on the responses,
times the weight of each response. -/
theorem Fit.Keeps.predict_one {m p q : ℕ} {x : Mat ℝ n p} {w : Mat ℝ n q} {fn : KernelFn ℝ}
    {k : Kernel} {xStats : ColumnStats ℝ p} {yStats : ColumnStats ℝ q} {training : Mat ℝ n p}
    {raw centered deflated : Mat ℝ n n} {c : Component ℝ n q} {b : Mat ℝ 1 q}
    (h : Keeps ⟨k, xStats, yStats, training, raw, centered, deflated, [c], b⟩ fn x w) (hm : m ≠ 0)
    (new : Mat ℝ m p) :
    predict ⟨k, xStats, yStats, training, raw, centered, deflated, [c], b⟩ new =
      .ok (yStats.unapply (Mat.ofFn fun i j =>
        ((centerCrossKernel (fn.gram (xStats.apply new) training) raw).matrix *ᵥ
          c.responseScore.coords) i * b.get 0 j)) := by
  rw [predict_of_transform (h.transform_eq hm new)]
  refine congrArg (fun a => Except.ok (yStats.unapply a)) (Mat.ext fun i j => ?_)
  rw [Mat.get_mul, Mat.get_ofFn, Scalar.sum_real]
  show ∑ l : Fin 1, _ * b.get l j = _
  rw [Fin.sum_univ_one]
  refine congrArg (· * b.get 0 j) ?_
  rw [Mat.get_mul, Scalar.sum_real]
  exact Finset.sum_congr rfl fun l _ =>
    congrArg (_ * ·) (Mat.get_ofCols [c] Component.responseScore l 0)

end PartialLeastSquares.KernelPls
