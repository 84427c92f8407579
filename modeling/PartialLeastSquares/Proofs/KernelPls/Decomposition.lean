/-
# What the components in feature space take, whether or not they settled

The score of a component of `KernelPLS.fit_state` is where a power iteration was stopped, and
nothing says that it had settled, or where it began.  What the components are to each other does
not depend on that.  It comes from the deflation on both sides: the scores are orthonormal, the
kernel that is left is the whole one with the scores taken out on both sides, and the score on the
responses has nothing of an earlier score on the kernel (`trainKernelPls_decomposes`).

The loading on the kernel is taken after the deflation, from a kernel that has nothing left of the
score, and so it is zero, for any data (`Takes.loading`).
-/
import Mathlib
import PartialLeastSquares.Proofs.Exact.Tools
import PartialLeastSquares.Proofs.KernelPls.Preparation
import PartialLeastSquares.Proofs.KernelPls.Regression
import PartialLeastSquares.Proofs.Model.Training
import PartialLeastSquares.Proofs.Projector

namespace PartialLeastSquares.KernelPls

open Matrix

variable {n p q : ℕ}

/-! ## 1. Components -/

/-- **What a component has,** whatever the responses and the passes, besides what it takes out: a
score on the responses of length one, and no loading on the kernel. -/
structure Takes (r : Residual ℝ n q) (c : Component ℝ n q) (r' : Residual ℝ n q) : Prop
    extends Deflates r c r' where
  responseScore_unit : c.responseScore.coords ⬝ᵥ c.responseScore.coords = 1
  loading : c.loading.coords = 0

/-- **A step that succeeds has found such a component.** -/
theorem takes_of_step {tools : Toolkit ℝ} {settings : Settings ℝ} {kScale yScale : ℝ}
    (hk : 0 ≤ kScale) {j : ℕ} {r r' : Residual ℝ n q} {c : Component ℝ n q}
    (h : step tools settings kScale yScale j r = .ok (c, r')) : Takes r c r' := by
  have hdeflates := deflates_of_step hk h
  obtain ⟨u, last, hpass, hloading, hc, -⟩ := exists_pass_of_step h
  have hpass := isPass_of_pass hk hpass
  refine ⟨hdeflates, ?_, ?_⟩
  · rw [congrArg Component.responseScore hc]
    exact hpass.responseScore_unit
  · -- Of the score, which the kernel was just relieved of, its transpose leaves nothing.
    obtain ⟨b, -, hraw⟩ := hpass.score
    have hscore : c.score = last.score := congrArg Component.score hc
    have hpart : IsProjector (1 - vecMulVec c.score.coords c.score.coords) :=
      IsProjector.one.remove (one_mulVec _) hdeflates.unit
    have hgone : r'.kernel.matrixᵀ *ᵥ c.score.coords = 0 := by
      rw [hdeflates.kernel, transpose_mul, hpart.symm, ← mulVec_mulVec, transpose_mul, hpart.symm,
        ← mulVec_mulVec, IsProjector.sub_vecMulVec_mulVec_self (one_mulVec _) hdeflates.unit,
        mulVec_zero, mulVec_zero]
    rw [hloading, Vec.coords_dividedBy, Mat.coords_applyT, hraw, ← hscore, mulVec_smul, hgone,
      smul_zero, smul_zero]

theorem chain_takes_each {r r' : Residual ℝ n q} {cs : List (Component ℝ n q)}
    (h : Chain Takes r cs r') : ∀ c ∈ cs,
      c.responseScore.coords ⬝ᵥ c.responseScore.coords = 1 ∧ c.loading.coords = 0 :=
  h.forall_mem (I := fun _ => True) trivial fun _ _ _ _ hc =>
    ⟨⟨hc.responseScore_unit, hc.loading⟩, trivial⟩

/-- **What the components of a fit are to its kernel and its responses.** The scores on the kernel
are orthonormal, and the kernel that is left has lost them on both sides.  The loadings on the
responses are what the scores explain of them; a score on the responses has length one, and
nothing of an earlier score on the kernel.  There are no loadings on the kernel. -/
structure Fit.Decomposes (f : Fit ℝ n p q) (y : Mat ℝ n q) : Prop where
  orthonormal : (scores f.components).matrixᵀ * (scores f.components).matrix = 1
  deflated : f.deflated.matrix =
    (1 - (scores f.components).matrix * (scores f.components).matrixᵀ) * f.centered.matrix *
      (1 - (scores f.components).matrix * (scores f.components).matrixᵀ)
  responseLoadings : (responseLoadings f.components).matrix =
    y.matrixᵀ * (scores f.components).matrix
  responseScore_norm : ∀ j, ((responseScores f.components).col j).norm = 1
  responseScore_later : ∀ i j, i < j →
    ((scores f.components).col i).dot ((responseScores f.components).col j) = 0
  loadings : (loadings f.components).matrix = 0

/-! ## 2. Extractions that end well -/

/-- **The components of some data, when all that were asked for were found:** the data is
prepared, the loop ends well, and what is left is at hand.  The fit may still fail, at its last
step. -/
structure Completes (tools : Toolkit ℝ) (settings : Settings ℝ) (kernel : Kernel) (x : Mat ℝ n p)
    (y : Mat ℝ n q) (count : ℕ) (data : Prepared ℝ n p q) (cs : List (Component ℝ n q))
    (r : Residual ℝ n q) : Prop where
  prepared : ∃ stats, center x y = .ok stats ∧ prepare kernel x y stats = .ok data
  extraction : extraction tools settings data.centered data.y count = ⟨cs, .ok r⟩

/-- **Training in feature space succeeds** if the components are found and the last step does not
fail. -/
theorem trainKernelPls_eq_ok_iff_completes {tools : Toolkit ℝ} {kernel : Estimator}
    {tol maxIter seed : Value} {count : ℕ} {env : Envelope ℝ p q} {x : Mat ℝ n p} {y : Mat ℝ n q}
    {f : Fitted ℝ n p q} :
    (trainKernelPls tools kernel tol maxIter seed count env x y).outcome = .ok f ↔
      ∃ settings k data cs r fit, checkIteration tol maxIter seed = .ok settings ∧
        kernelOf (K := ℝ) kernel = .ok k ∧ Completes tools settings k x y count data cs r ∧
        KernelPls.fit tools data cs r = .ok fit ∧ .kernelPls env fit = f := by
  rw [trainKernelPls_eq_ok_iff]
  constructor
  · rintro ⟨settings, stats, k, data, r, fit, hsettings, hstats, hk, hdata, hend, hfit, hf⟩
    refine ⟨settings, k, data, _, r, fit, hsettings, hk, ⟨⟨stats, hstats, hdata⟩, ?_⟩, hfit, hf⟩
    rw [← hend]
  · rintro ⟨settings, k, data, cs, r, fit, hsettings, hk, ⟨⟨stats, hstats, hdata⟩, hfound⟩, hfit, hf⟩
    refine ⟨settings, stats, k, data, r, fit, hsettings, hstats, hk, hdata, ?_, ?_, hf⟩
    · rw [hfound]
    · rw [hfound]
      exact hfit

namespace Completes

variable {tools : Toolkit ℝ} {settings : Settings ℝ} {kernel : Kernel} {x : Mat ℝ n p}
  {y : Mat ℝ n q} {count : ℕ} {data : Prepared ℝ n p q} {cs : List (Component ℝ n q)}
  {r : Residual ℝ n q} {f : Fit ℝ n p q}

theorem length_eq (h : Completes tools settings kernel x y count data cs r) :
    cs.length = count := by
  have hlength : (KernelPls.extraction tools settings data.centered data.y count).components.length =
      count := length_components_extract (congrArg Extraction.ending h.extraction)
  rwa [h.extraction] at hlength

/-- The components that were found are a chain, for any account of what a step does. -/
theorem chain (h : Completes tools settings kernel x y count data cs r)
    {R : Residual ℝ n q → Component ℝ n q → Residual ℝ n q → Prop}
    (hstep : ∀ j s c s', KernelPls.step tools settings data.centered.norm data.y.norm j s =
      .ok (c, s') → R s c s') : Chain R ⟨data.centered, data.y⟩ cs r := by
  have hchain : Chain R ⟨data.centered, data.y⟩
      (KernelPls.extraction tools settings data.centered data.y count).components r :=
    chain_of_extract hstep (congrArg Extraction.ending h.extraction)
  rwa [h.extraction] at hchain

theorem chain_takes (h : Completes tools settings kernel x y count data cs r) :
    Chain Takes ⟨data.centered, data.y⟩ cs r :=
  h.chain fun _ _ _ _ => takes_of_step data.centered.norm_nonneg

/-- The responses that they are extracted from are the centered ones. -/
theorem data_y (h : Completes tools settings kernel x y count data cs r) :
    data.y = (Scheme.center.learn y).apply y := by
  obtain ⟨stats, hstats, hdata⟩ := h.prepared
  obtain rfl := Except.ok.inj ((center_real x y).symm.trans hstats)
  obtain ⟨-, -, fn, -, rfl⟩ := prepare_kernel_eq_ok_iff.mp hdata
  rfl

theorem keeps (h : Completes tools settings kernel x y count data cs r)
    (hfit : KernelPls.fit tools data cs r = .ok f) : ∃ fn, f.Keeps fn x y := by
  obtain ⟨stats, hstats, hdata⟩ := h.prepared
  exact keeps_of_fit hstats hdata hfit

theorem decomposes (h : Completes tools settings kernel x y count data cs r)
    (hfit : KernelPls.fit tools data cs r = .ok f) : f.Decomposes data.y := by
  obtain ⟨b, -, rfl⟩ := fit_eq_ok_iff.mp hfit
  have htakes := chain_takes_each h.chain_takes
  have hchain : Chain Deflates ⟨data.centered, data.y⟩ cs r :=
    h.chain_takes.imp fun _ _ _ _ hc => hc.toDeflates
  have hstart := seenThrough_start (⟨data.centered, data.y⟩ : Residual ℝ n q)
  have hpairwise := List.pairwise_iff_get.mp (hstart.chain_pairwise hchain)
  refine ⟨hstart.scores_transpose_mul hchain, (hstart.chain_end hchain).kernel,
    hstart.matrix_responseLoadings hchain, fun j => ?_, fun i j hij => ?_, ?_⟩
  · rw [responseScores, Mat.col_ofCols, Vec.norm_real, (htakes _ (List.get_mem _ _)).1,
      Real.sqrt_one]
  · rw [scores, responseScores, Mat.col_ofCols, Mat.col_ofCols, Vec.dot_real]
    exact (hpairwise i j hij).2
  · ext i j
    rw [loadings, Mat.matrix_ofCols_apply, (htakes _ (List.get_mem _ _)).2]
    rfl

end Completes

/-! ## 3. A component of two passes -/

/-- **A response of which the kernel is known:** the response is a multiple of the unit vector
`u`, and what the kernel makes of `u` is a multiple of the unit vector `t`. -/
structure Turns (r : Residual ℝ n 1) (u t : Vec ℝ n) (ν μ : ℝ) : Prop where
  unit : u.coords ⬝ᵥ u.coords = 1
  response : r.response.coords = ν • u.coords
  score_unit : t.coords ⬝ᵥ t.coords = 1
  image : r.kernel.matrix *ᵥ u.coords = μ • t.coords

namespace Turns

variable {r : Residual ℝ n 1} {u t : Vec ℝ n} {ν μ kScale yScale : ℝ}

theorem scale_unit {v : Vec ℝ n} (hv : v.coords ⬝ᵥ v.coords = 1) {σ : ℝ} (hσ : σ * σ = 1) :
    (v.scale σ).coords ⬝ᵥ (v.scale σ).coords = 1 := by
  rw [Vec.coords_scale, smul_dotProduct, dotProduct_smul, hv, smul_eq_mul, smul_eq_mul, mul_one, hσ]

/-- **A pass from either side of the response** ends on that side. -/
theorem pass_eq (h : Turns r u t ν μ) (hk : 0 ≤ kScale) (j : ℕ) {σ m : ℝ} (hσ : σ * σ = 1)
    (hm : 0 < m) (hμ : Scalar.zeroNorm * kScale < μ)
    (hν : Scalar.zeroNorm * (yScale * yScale) < ν * ν * (u.coords ⬝ᵥ t.coords)) :
    pass j kScale yScale r (u.scale (m * σ)) = .ok ⟨r.kernel.apply (u.scale (m * σ)), t.scale σ,
      r.y.applyT (t.scale σ), u.scale σ, ((u.scale σ).sub (u.scale (m * σ))).norm⟩ := by
  have hnorm : (u.scale (m * σ)).norm = m := by
    rw [Vec.norm_real, Vec.coords_scale, smul_dotProduct, dotProduct_smul, h.unit, smul_eq_mul,
      smul_eq_mul, mul_one, mul_mul_mul_comm, hσ, mul_one, Real.sqrt_mul_self hm.le]
  refine pass_of_smul hk j (b := m * μ) (a := ν * ν * (u.coords ⬝ᵥ t.coords)) ?_
    (scale_unit h.score_unit hσ) ?_ ?_ (scale_unit h.unit hσ) hν
  · rw [Vec.coords_scale, Vec.coords_scale, mulVec_smul, h.image, smul_smul, smul_smul]
    congr 1
    ring
  · rw [hnorm, ← mul_assoc, mul_comm m]
    exact mul_lt_mul_of_pos_right hμ hm
  · have hresponse : r.y.only.coords = ν • u.coords := h.response
    rw [mulVec_of_one, transpose_mulVec_of_one, hresponse, Vec.coords_scale, Vec.coords_scale,
      smul_dotProduct, dotProduct_smul, smul_eq_mul, smul_eq_mul, smul_smul, smul_smul]
    congr 1
    ring

/-- **Three times too long a start is corrected by the first pass,** and the second changes
nothing. -/
theorem passes_eq (h : Turns r u t ν μ) (hk : 0 ≤ kScale) (j : ℕ) {σ : ℝ} (hσ : σ * σ = 1)
    (hμ : Scalar.zeroNorm * kScale < μ)
    (hν : Scalar.zeroNorm * (yScale * yScale) < ν * ν * (u.coords ⬝ᵥ t.coords)) :
    passes (.within 1) (pass j kScale yScale r) 1 0 (u.scale (3 * σ)) =
      .ok (⟨r.kernel.apply (u.scale σ), t.scale σ, r.y.applyT (t.scale σ), u.scale σ, 0⟩, 2) := by
  have hfirst := h.pass_eq hk j hσ three_pos hμ hν
  have hsecond := h.pass_eq hk j hσ one_pos hμ hν
  rw [one_mul] at hsecond
  have hmoved : (Tolerance.within 1).exceededBy ((u.scale σ).sub (u.scale (3 * σ))).norm = true := by
    refine decide_eq_true ?_
    rw [Vec.norm_real, Real.lt_sqrt zero_le_one, Vec.coords_sub, Vec.coords_scale,
      Vec.coords_scale, ← sub_smul, smul_dotProduct, dotProduct_smul, h.unit, smul_eq_mul,
      smul_eq_mul]
    linarith
  have hrest : ((u.scale σ).sub (u.scale σ)).norm = 0 := by
    rw [Vec.norm_real, Vec.coords_sub, sub_self, zero_dotProduct, Real.sqrt_zero]
  rw [hrest] at hsecond
  exact (passes_moved hfirst hmoved).trans (passes_last hsecond)

/-- **The component of these two passes,** and what it leaves. -/
theorem exists_step (h : Turns r u t ν μ) (hk : 0 ≤ kScale) {j : ℕ} {σ : ℝ} (hσ : σ * σ = 1)
    (hμ : Scalar.zeroNorm * kScale < μ)
    (hν : Scalar.zeroNorm * (yScale * yScale) < ν * ν * (u.coords ⬝ᵥ t.coords))
    (hloading : Scalar.zeroNorm * (kScale * kScale) < μ * μ) {tools : Toolkit ℝ} {seed : ℕ}
    (hstart : tools.start n (seed + j) = u.scale (3 * σ)) :
    ∃ c r', step tools ⟨.within 1, 2, seed⟩ kScale yScale j r = .ok (c, r') ∧
      c.score = t.scale σ ∧ c.responseScore = u.scale σ ∧
      c.convergence = ⟨2, 0, true⟩ ∧
      r'.kernel.matrix = (1 - vecMulVec t.coords t.coords) * r.kernel.matrix *
        (1 - vecMulVec t.coords t.coords) ∧
      r'.response.coords =
        r.response.coords - (t.coords ⬝ᵥ r.response.coords) • t.coords := by
  have hsquare : (r.kernel.apply (u.scale σ)).normSq = μ * μ := by
    rw [Vec.normSq_real, Mat.coords_apply, Vec.coords_scale, mulVec_smul, h.image, smul_smul,
      smul_dotProduct, dotProduct_smul, h.score_unit, smul_eq_mul, smul_eq_mul, mul_one,
      mul_mul_mul_comm, hσ, one_mul]
  have hsettled : (!(Tolerance.within (1 : ℝ)).exceededBy 0) = true :=
    congrArg not (decide_eq_false (not_lt.mpr zero_le_one))
  have hguard : Scalar.zeroNorm * (kScale * kScale) < |(r.kernel.apply (u.scale σ)).normSq| := by
    rw [hsquare, abs_of_nonneg (mul_self_nonneg μ)]
    exact hloading
  have hlast := h.passes_eq hk j hσ hμ hν
  rw [← hstart] at hlast
  obtain ⟨c, r', hstep, hc, hresponseScore, -, hconvergence⟩ : ∃ c r',
      step tools ⟨.within 1, 2, seed⟩ kScale yScale j r = .ok (c, r') ∧ _ :=
    exists_step_of_passes nofun hlast hguard
  have hpasses : c.convergence.passes = 2 := congrArg Convergence.passes hconvergence
  have hextracts := extracts_of_step hk hstep hpasses.ge
  have hscore : c.score.coords = σ • t.coords := (congrArg Vec.coords hc).trans (Vec.coords_scale t σ)
  refine ⟨c, r', hstep, hc, hresponseScore, hconvergence.trans (congrArg (Convergence.mk 2 0) hsettled),
    ?_, ?_⟩
  · rw [hextracts.kernel, hscore, smul_vecMulVec, vecMulVec_smul, smul_smul, hσ, one_smul]
  · rw [hextracts.response, hscore, smul_dotProduct, smul_smul, smul_eq_mul, mul_right_comm, hσ,
      one_mul]

end Turns

/-! ## 4. Four rows with two scores -/

namespace TwoScores

open scoped Matrix.Norms.L2Operator

/-- Four rows, centered, whose columns are orthogonal. -/
noncomputable def x : Mat ℝ 4 2 := Mat.ofRat !![2, 3 / 2; -2, 3 / 2; 2, -3 / 2; -2, -3 / 2]

noncomputable def y : Vec ℝ 4 := Vec.ofRat ![7 / 2, 1 / 2, -1 / 2, -7 / 2]

noncomputable def direction : Vec ℝ 4 := Vec.ofRat ![7 / 10, 1 / 10, -1 / 10, -7 / 10]

/-- What the kernel turns it into: the first score. -/
noncomputable def score : Vec ℝ 4 := Vec.ofRat ![7 / 10, -1 / 10, 1 / 10, -7 / 10]

/-- What is left: the second score, and the direction of the responses that are left. -/
noncomputable def rest : Vec ℝ 4 := Vec.ofRat ![1 / 10, 7 / 10, -7 / 10, -1 / 10]

noncomputable def envelope : Envelope ℝ 2 1 := (⟨2, .none⟩ : Plan).envelope true x (Mat.ofCol y)

noncomputable def data : Prepared ℝ 4 2 1 := prepared x (Mat.ofCol y)

theorem x_centered : x.Centered := by
  intro j
  fin_cases j
  · simp [x, Fin.sum_univ_succ]
  · simp [x, Fin.sum_univ_succ]
    norm_num

theorem y_centered : (Mat.ofCol y).Centered := by
  intro j
  fin_cases j
  simp [y, Fin.sum_univ_succ]
  norm_num

theorem centered_y : (Scheme.center.learn (Mat.ofCol y)).apply (Mat.ofCol y) = Mat.ofCol y := by
  rw [Scheme.center_learn y_centered, ColumnStats.trivial_apply]

theorem prepared_data : ∃ stats, center x (Mat.ofCol y) = .ok stats ∧
    prepare .linear x (Mat.ofCol y) stats = .ok data :=
  ⟨_, center_of_centered x_centered y_centered,
    prepare_eq_ok_iff.mpr ⟨⟨by decide, by decide⟩, rfl⟩⟩

theorem matrix_centered : data.centered.matrix = x.matrix * x.matrixᵀ := centerKernel_gram x_centered

theorem direction_unit : direction.coords ⬝ᵥ direction.coords = 1 := by
  simp [direction, dotProduct, Fin.sum_univ_succ]
  norm_num

theorem score_unit : score.coords ⬝ᵥ score.coords = 1 := by
  simp [score, dotProduct, Fin.sum_univ_succ]
  norm_num

theorem rest_unit : rest.coords ⬝ᵥ rest.coords = 1 := by
  simp [rest, dotProduct, Fin.sum_univ_succ]
  norm_num

theorem score_dot_rest : score.coords ⬝ᵥ rest.coords = 0 := by
  simp [score, rest, dotProduct, Fin.sum_univ_succ]
  norm_num

theorem centered_direction :
    data.centered.matrix *ᵥ direction.coords = (12 : ℝ) • score.coords := by
  rw [matrix_centered, ← mulVec_mulVec]
  funext i
  fin_cases i <;> simp [x, direction, score, mulVec, dotProduct, Fin.sum_univ_succ] <;> norm_num

theorem centered_rest : data.centered.matrix *ᵥ rest.coords =
    (288 / 25 : ℝ) • rest.coords - (84 / 25 : ℝ) • score.coords := by
  rw [matrix_centered, ← mulVec_mulVec]
  funext i
  fin_cases i <;> simp [x, rest, score, mulVec, dotProduct, Fin.sum_univ_succ] <;> norm_num

theorem norm_centered_le : data.centered.norm ≤ 25 := by
  rw [Mat.norm_real, matrix_centered, Real.sqrt_le_left (by norm_num)]
  simp [x, mul_apply, dotProduct, Fin.sum_univ_succ]
  norm_num

theorem norm_responses_le : (Mat.ofCol y).norm ≤ 5 := by
  rw [Mat.norm_real, Real.sqrt_le_left (by norm_num)]
  simp [y, dotProduct, Fin.sum_univ_succ]
  norm_num

/-- A magnitude that is not tiny passes every guard of this data. -/
theorem guards {t : ℝ} (ht : 1 < t) : Scalar.zeroNorm * data.centered.norm < t ∧
    Scalar.zeroNorm * (data.centered.norm * data.centered.norm) < t ∧
    Scalar.zeroNorm * ((Mat.ofCol y).norm * (Mat.ofCol y).norm) < t := by
  have hk := data.centered.norm_nonneg
  have hk' := norm_centered_le
  have hy := (Mat.ofCol y).norm_nonneg
  have hy' := norm_responses_le
  exact ⟨Scalar.zeroNorm_mul_lt (by linarith), Scalar.zeroNorm_mul_lt (by nlinarith),
    Scalar.zeroNorm_mul_lt (by nlinarith)⟩

/-- The kernel turns the direction of the responses into the first score. -/
theorem turns_first : Turns ⟨data.centered, data.y⟩ direction score 5 12 where
  unit := direction_unit
  response := by
    show (Mat.ofCol y).only.coords = _
    rw [Mat.only_ofCol]
    funext i
    fin_cases i <;> simp [y, direction] <;> norm_num
  score_unit := score_unit
  image := centered_direction

/-- What the first component leaves of it maps what is left of them to a multiple. -/
theorem turns_second {r : Residual ℝ 4 1}
    (hkernel : r.kernel.matrix = (1 - vecMulVec score.coords score.coords) *
      data.centered.matrix * (1 - vecMulVec score.coords score.coords))
    (hresponse : r.response.coords =
      y.coords - (score.coords ⬝ᵥ y.coords) • score.coords) :
    Turns r rest rest (7 / 5) (288 / 25) where
  unit := rest_unit
  response := by
    rw [hresponse]
    funext i
    fin_cases i <;> simp [y, score, rest, dotProduct, Fin.sum_univ_succ] <;> norm_num
  score_unit := rest_unit
  image := by
    have hkept : (1 - vecMulVec score.coords score.coords) *ᵥ rest.coords = rest.coords := by
      rw [IsProjector.sub_vecMulVec_mulVec, one_mulVec, score_dot_rest, zero_smul, sub_zero]
    rw [hkernel, ← mulVec_mulVec, ← mulVec_mulVec, hkept, centered_rest, mulVec_sub, mulVec_smul,
      mulVec_smul, hkept,
      IsProjector.sub_vecMulVec_mulVec_self (one_mulVec _) score_unit, smul_zero, sub_zero]

/-- Where the iterations start: three times too far along the directions that they look for, on one
side or the other. -/
def starts : ℕ → List ℚ
  | 0 => [21 / 10, 3 / 10, -3 / 10, -21 / 10]
  | 2 => [-21 / 10, -3 / 10, 3 / 10, 21 / 10]
  | _ => [3 / 10, 21 / 10, -21 / 10, -3 / 10]

noncomputable def tools : Toolkit ℝ :=
  .exact fun _ seed => Vec.ofRat fun i => (starts seed).getD i.val 0

theorem tools_exact : tools.Exact := Toolkit.exact_exact

/-- **The sides on which the first component of a seed is found,** `σ` being one or minus one: the
first component starts on that side, and the second on the same side for all seeds. -/
structure Starts (seed : ℕ) (σ : ℝ) : Prop where
  sign : σ * σ = 1
  first : tools.start 4 seed = direction.scale (3 * σ)
  second : tools.start 4 (seed + 1) = rest.scale (3 * 1)

theorem start_eq {seed : ℕ} {v : Vec ℝ 4} {σ : ℝ}
    (h : ∀ i : Fin 4, (((starts seed).getD i.val 0 : ℚ) : ℝ) = σ * v.coords i) :
    tools.start 4 seed = v.scale σ := by
  refine Vec.coords_injective ?_
  rw [Vec.coords_scale]
  show (Vec.ofRat fun i : Fin 4 => (starts seed).getD i.val 0).coords = _
  rw [Vec.coords_ofRat]
  exact funext h

theorem starts_zero : Starts 0 1 where
  sign := one_mul 1
  first := start_eq fun i => by
    fin_cases i <;> simp [starts, direction] <;> norm_num
  second := start_eq fun i => by
    fin_cases i <;> simp [starts, rest] <;> norm_num

theorem starts_two : Starts 2 (-1) where
  sign := by norm_num
  first := start_eq fun i => by
    fin_cases i <;> simp [starts, direction] <;> norm_num
  second := start_eq fun i => by
    fin_cases i <;> simp [starts, rest] <;> norm_num

/-- **The two components,** the first of them on one side or the other, which the second does not
depend on.  Of two passes the second changes nothing. -/
structure Found (σ : ℝ) (c c' : Component ℝ 4 1) : Prop where
  score : c.score = score.scale σ
  responseScore : c.responseScore = direction.scale σ
  second_score : c'.score = rest.scale 1
  second_responseScore : c'.responseScore = rest.scale 1
  convergence : ∀ d ∈ [c, c'], d.convergence = ⟨2, 0, true⟩

theorem exists_completes {seed : ℕ} {σ : ℝ} (h : Starts seed σ) : ∃ c c' r, Found σ c c' ∧
    Completes tools ⟨.within 1, 2, seed⟩ .linear x (Mat.ofCol y) 2 data [c, c'] r := by
  have hcosine : direction.coords ⬝ᵥ score.coords = 24 / 25 := by
    simp [direction, score, dotProduct, Fin.sum_univ_succ]
    norm_num
  obtain ⟨c, r, hfirst, hscore, hresponseScore, hconvergence, hkernel, hresponse⟩ :=
    turns_first.exists_step data.centered.norm_nonneg (j := 0) h.sign (guards (by norm_num)).1
      (guards (by rw [hcosine]; norm_num)).2.2 (guards (by norm_num)).2.1 h.first
  have hy : (⟨data.centered, data.y⟩ : Residual ℝ 4 1).response = y := Mat.only_ofCol y
  rw [hy] at hresponse
  obtain ⟨c', r', hsecond, hscore', hresponseScore', hconvergence', -, -⟩ :=
    (turns_second hkernel hresponse).exists_step data.centered.norm_nonneg (j := 1) (one_mul 1)
      (guards (by norm_num)).1 (guards (by rw [rest_unit]; norm_num)).2.2
      (guards (by norm_num)).2.1 h.second
  refine ⟨c, c', r', ⟨hscore, hresponseScore, hscore', hresponseScore', ?_⟩, prepared_data, ?_⟩
  · rintro d (_ | ⟨_, _ | ⟨_, ⟨⟩⟩⟩)
    · exact hconvergence
    · exact hconvergence'
  · rw [KernelPls.extraction]
    exact (extract_succ_ok hfirst 1).trans (by rw [extract_succ_ok hsecond, extract_zero])

/-- What the scores find in the images of the scores on the responses. -/
theorem inner_of_found {σ : ℝ} (hσ : σ * σ = 1) {c c' : Component ℝ 4 1} (h : Found σ c c') :
    (Mat.mul (Mat.tmul (scores [c, c']) data.centered) (responseScores [c, c'])).matrix =
      !![12, -(84 / 25) * σ; 0, 288 / 25] := by
  have hfirst : data.centered.matrix *ᵥ (direction.scale σ).coords =
      (σ * 12) • score.coords := by
    rw [Vec.coords_scale, mulVec_smul, centered_direction, smul_smul]
  have hsecond : data.centered.matrix *ᵥ (rest.scale 1).coords =
      (288 / 25 : ℝ) • rest.coords - (84 / 25 : ℝ) • score.coords := by
    rw [Vec.coords_scale, one_smul, centered_rest]
  ext i j
  rw [Mat.matrix_mul, Mat.matrix_tmul, scores_mul_mul_apply]
  fin_cases i <;> fin_cases j
  · show c.score.coords ⬝ᵥ (data.centered.matrix *ᵥ c.responseScore.coords) = 12
    rw [h.score, h.responseScore, hfirst, Vec.coords_scale, smul_dotProduct, dotProduct_smul,
      score_unit, smul_eq_mul, smul_eq_mul, mul_one, ← mul_assoc, hσ, one_mul]
  · show c.score.coords ⬝ᵥ (data.centered.matrix *ᵥ c'.responseScore.coords) = -(84 / 25) * σ
    rw [h.score, h.second_responseScore, hsecond, Vec.coords_scale, smul_dotProduct,
      dotProduct_sub, dotProduct_smul, dotProduct_smul, score_dot_rest, score_unit, smul_eq_mul,
      smul_eq_mul, smul_eq_mul]
    ring
  · show c'.score.coords ⬝ᵥ (data.centered.matrix *ᵥ c.responseScore.coords) = 0
    rw [h.second_score, h.responseScore, hfirst, Vec.coords_scale, one_smul, dotProduct_smul,
      dotProduct_comm, score_dot_rest, smul_zero]
  · show c'.score.coords ⬝ᵥ (data.centered.matrix *ᵥ c'.responseScore.coords) = 288 / 25
    rw [h.second_score, h.second_responseScore, hsecond, Vec.coords_scale, one_smul,
      dotProduct_sub, dotProduct_smul, dotProduct_smul, rest_unit, dotProduct_comm, score_dot_rest,
      smul_zero, sub_zero, smul_eq_mul, mul_one]

/-- **Their fit succeeds:** the matrix that it inverts is well conditioned. -/
theorem Found.exists_fit {σ : ℝ} (hσ : σ * σ = 1) {c c' : Component ℝ 4 1} (h : Found σ c c')
    (r : Residual ℝ 4 1) : ∃ f : Fit ℝ 4 2 1, fit tools data [c, c'] r = .ok f := by
  have habs : |σ| = 1 := by rw [← Real.sqrt_mul_self_eq_abs, hσ, Real.sqrt_one]
  let inverse : Mat ℝ 2 2 := Mat.ofMatrix !![1 / 12, 7 / 288 * σ; 0, 25 / 288]
  have hinverse : inverse.matrix = !![1 / 12, 7 / 288 * σ; 0, 25 / 288] := Mat.matrix_ofMatrix _
  have hleft : ‖!![12, -(84 / 25) * σ; 0, 288 / 25]‖ ≤ 16 := by
    refine (Toolkit.norm_triangular_le _ _ _).trans ?_
    rw [abs_mul, habs, abs_neg, abs_of_pos (by norm_num), abs_of_pos (by norm_num),
      abs_of_pos (by norm_num), max_eq_left (by norm_num)]
    norm_num
  have hright : ‖!![1 / 12, 7 / 288 * σ; 0, 25 / 288]‖ ≤ 1 := by
    refine (Toolkit.norm_triangular_le _ _ _).trans ?_
    rw [abs_mul, habs, abs_of_pos (by norm_num), abs_of_pos (by norm_num),
      abs_of_pos (by norm_num), max_eq_right (by norm_num)]
    norm_num
  have hfound : invert tools .scoresByScores
      (Mat.mul (Mat.tmul (scores [c, c']) data.centered) (responseScores [c, c'])) =
        .ok inverse := by
    refine Toolkit.invert_exact ?_ ?_
    · rw [inner_of_found hσ h, hinverse]
      ext i j
      fin_cases i <;> fin_cases j
      · simp [mul_apply]
      · simp [mul_apply]
        ring
      · simp [mul_apply]
      · simp [mul_apply]
    · rw [inner_of_found hσ h, hinverse]
      refine (mul_le_mul hleft hright (norm_nonneg _) (by norm_num)).trans ?_
      rw [Scalar.conditionLimit_real]
      norm_num
  exact ⟨_, fit_eq_ok_iff.mpr ⟨_, bind_eq_ok_iff.mpr ⟨inverse, hfound, rfl⟩, rfl⟩⟩

end TwoScores

end PartialLeastSquares.KernelPls

/-! ## 5. Training -/

namespace PartialLeastSquares

variable {n p q : ℕ}

/-- **Training in feature space decomposes the centered kernel.**  For any number of responses, any
kernel, any seed, tolerance and number of passes, settled or not: a training that succeeds has found
as many components as it was asked for; their scores are orthonormal and are taken out of the kernel
on both sides; what loads on the responses is what the scores explain of them, centered; each score
on the responses has length one and nothing of the earlier scores on the kernel; and the loadings on
the kernel are zero. -/
theorem trainKernelPls_decomposes (tools : Toolkit ℝ) (kernel : Estimator)
    (tol maxIter seed : Value) (count : ℕ) (env : Envelope ℝ p q) (x : Mat ℝ n p) (y : Mat ℝ n q)
    (f : Fitted ℝ n p q)
    (h : (trainKernelPls tools kernel tol maxIter seed count env x y).outcome = .ok f) :
    ∃ (fit : KernelPls.Fit ℝ n p q) (fn : KernelFn ℝ), f = .kernelPls env fit ∧ fit.Keeps fn x y ∧
      fit.components.length = count ∧ fit.Decomposes ((Scheme.center.learn y).apply y) := by
  obtain ⟨settings, k, data, cs, r, fit, -, -, hcompletes, hfit, rfl⟩ :=
    KernelPls.trainKernelPls_eq_ok_iff_completes.mp h
  obtain ⟨fn, hkeeps⟩ := hcompletes.keeps hfit
  have hdecomposes := hcompletes.decomposes hfit
  rw [hcompletes.data_y] at hdecomposes
  refine ⟨fit, fn, rfl, hkeeps, ?_, hdecomposes⟩
  obtain ⟨b, -, rfl⟩ := KernelPls.fit_eq_ok_iff.mp hfit
  exact hcompletes.length_eq

open KernelPls in
/-- Two components of four rows, of the kernel that is their Gram matrix. -/
theorem trainKernelPls_decomposes_two_scores : ∃ f fit fn,
    (trainKernelPls TwoScores.tools (.kernel .linear) (.int 1) (.int 2) (.int 0) 2
      TwoScores.envelope TwoScores.x (Mat.ofCol TwoScores.y)).outcome = .ok f ∧
      f = .kernelPls TwoScores.envelope fit ∧ fit.Keeps fn TwoScores.x (Mat.ofCol TwoScores.y) ∧
        fit.components.length = 2 ∧ fit.Decomposes (Mat.ofCol TwoScores.y) := by
  obtain ⟨c, c', r, hfound, hcompletes⟩ := TwoScores.exists_completes TwoScores.starts_zero
  obtain ⟨fit, hfit⟩ := hfound.exists_fit TwoScores.starts_zero.sign r
  have htrain : (trainKernelPls TwoScores.tools (.kernel .linear) (.int 1) (.int 2) (.int 0) 2
      TwoScores.envelope TwoScores.x (Mat.ofCol TwoScores.y)).outcome =
        .ok (.kernelPls TwoScores.envelope fit) :=
    trainKernelPls_eq_ok_iff_completes.mpr ⟨_, _, _, _, _, fit, checkIteration_one one_le_two, rfl,
      hcompletes, hfit, rfl⟩
  obtain ⟨fit', fn, hf, hkeeps, hcount, hdecomposes⟩ := trainKernelPls_decomposes _ _ _ _ _ _ _ _ _
    _ htrain
  rw [TwoScores.centered_y] at hdecomposes
  exact ⟨_, fit', fn, htrain, hf, hkeeps, hcount, hdecomposes⟩

end PartialLeastSquares
