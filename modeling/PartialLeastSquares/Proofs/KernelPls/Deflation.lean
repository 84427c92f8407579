/-
# Deflation on both sides

Each component in feature space takes its score out of the kernel on both sides and out of the
responses on one (`Deflates`).  What is left of both is therefore the whole data seen through one
projector (`SeenThrough`), which loses one score after the other: for any number of responses, and
whether or not the iterations of the components have settled.

So the scores are orthonormal, and the loadings on the responses are what the scores explain of the
whole responses.  A component whose score on the responses is mapped to a multiple of the score by
what is left of the kernel (`Images`) leaves nothing of what the whole kernel makes of it, but for
earlier scores; so a chain of such components explains the kernel (`kernel_mul_responseScores`).
-/
import Mathlib
import PartialLeastSquares.Proofs.KernelPls.Component

namespace PartialLeastSquares.KernelPls

open Matrix

variable {n q : ℕ}

/-! ## 1. The invariant -/

/-- **What the residual stands for:** the kernel `K`, seen through one projector on both sides,
and the responses `Y`, seen through it on one. -/
structure SeenThrough (K : Matrix (Fin n) (Fin n) ℝ) (Y : Matrix (Fin n) (Fin q) ℝ)
    (A : Matrix (Fin n) (Fin n) ℝ) (r : Residual ℝ n q) : Prop where
  isProjector : IsProjector A
  kernel : r.kernel.matrix = A * K * A
  y : r.y.matrix = A * Y

/-- **A component of which the kernel knows:** what is left of the kernel maps its score on the
responses to a multiple of its score. -/
structure Images (r : Residual ℝ n q) (c : Component ℝ n q) (r' : Residual ℝ n q) : Prop
    extends Deflates r c r' where
  image : ∃ b : ℝ, r.kernel.matrix *ᵥ c.responseScore.coords = b • c.score.coords

theorem seenThrough_start (r : Residual ℝ n q) : SeenThrough r.kernel.matrix r.y.matrix 1 r where
  isProjector := .one
  kernel := by rw [Matrix.one_mul, Matrix.mul_one]
  y := by rw [Matrix.one_mul]

namespace SeenThrough

variable {K : Matrix (Fin n) (Fin n) ℝ} {Y : Matrix (Fin n) (Fin q) ℝ}
  {A : Matrix (Fin n) (Fin n) ℝ} {r r' : Residual ℝ n q}

section Steps

variable {c : Component ℝ n q}

theorem mulVec_kernel (h : SeenThrough K Y A r) (u : Fin n → ℝ) :
    A *ᵥ (r.kernel.matrix *ᵥ u) = r.kernel.matrix *ᵥ u := by
  rw [h.kernel, mulVec_mulVec, ← Matrix.mul_assoc, ← Matrix.mul_assoc, h.isProjector.idem]

theorem projector_score (h : SeenThrough K Y A r) (hc : Deflates r c r') :
    A *ᵥ c.score.coords = c.score.coords := by
  obtain ⟨u, hu⟩ := hc.score
  rw [← hu, mulVecLin_apply, h.mulVec_kernel]

theorem projector_responseScore (h : SeenThrough K Y A r) (hc : Deflates r c r') :
    A *ᵥ c.responseScore.coords = c.responseScore.coords := by
  obtain ⟨z, hz⟩ := hc.responseScore
  rw [← hz, mulVecLin_apply, h.y, mulVec_mulVec, ← Matrix.mul_assoc, h.isProjector.idem]

/-- The score explains of what is left what it explains of the whole responses. -/
theorem responseLoading_eq (h : SeenThrough K Y A r) (hc : Deflates r c r') :
    c.responseLoading.coords = Yᵀ *ᵥ c.score.coords := by
  rw [hc.responseLoading, h.y, transpose_mul, h.isProjector.symm, ← mulVec_mulVec,
    h.projector_score hc]

/-- **A step keeps the invariant:** the projector loses the score. -/
theorem step (h : SeenThrough K Y A r) (hc : Deflates r c r') :
    SeenThrough K Y (A - vecMulVec c.score.coords c.score.coords) r' where
  isProjector := h.isProjector.remove (h.projector_score hc) hc.unit
  kernel := by rw [hc.kernel, h.kernel, h.isProjector.mul_mul_remove (h.projector_score hc)]
  y := by
    rw [hc.y, h.y, h.responseLoading_eq hc, Matrix.sub_mul, vecMulVec_mul, mulVec_transpose]

/-- On the score on the responses the projector turns the whole kernel into what was left of it. -/
theorem projector_image (h : SeenThrough K Y A r) (hc : Deflates r c r') :
    A *ᵥ (K *ᵥ c.responseScore.coords) = r.kernel.matrix *ᵥ c.responseScore.coords := by
  rw [h.kernel, ← mulVec_mulVec, ← mulVec_mulVec, h.projector_responseScore hc]

/-- The score finds in the image what the kernel made of it. -/
theorem score_dot_image (h : SeenThrough K Y A r) (hc : Deflates r c r') {b : ℝ}
    (himage : r.kernel.matrix *ᵥ c.responseScore.coords = b • c.score.coords) :
    c.score.coords ⬝ᵥ (K *ᵥ c.responseScore.coords) = b := by
  rw [← h.projector_score hc, h.isProjector.mulVec_dotProduct, h.projector_image hc, himage,
    dotProduct_smul, hc.unit, smul_eq_mul, mul_one]

/-- **The smaller projector leaves nothing of the image.** -/
theorem image_lost (h : SeenThrough K Y A r) (hc : Images r c r') :
    (A - vecMulVec c.score.coords c.score.coords) *ᵥ (K *ᵥ c.responseScore.coords) = 0 := by
  obtain ⟨b, himage⟩ := hc.image
  rw [IsProjector.sub_vecMulVec_mulVec, h.score_dot_image hc.toDeflates himage,
    h.projector_image hc.toDeflates, himage, sub_self]

end Steps

/-! ## 2. Chains -/

section Chains

variable {cs : List (Component ℝ n q)}

/-- **The projector leaves alone what follows,** the scores on the kernel and those on the
responses. -/
theorem chain_projected (hr : SeenThrough K Y A r) (h : Chain Deflates r cs r') :
    ∀ c ∈ cs, A *ᵥ c.score.coords = c.score.coords ∧
      A *ᵥ c.responseScore.coords = c.responseScore.coords := by
  induction h generalizing A with
  | nil => exact fun c hc => absurd hc List.not_mem_nil
  | cons first _ ih =>
    intro d hd
    rcases List.mem_cons.mp hd with rfl | hd
    · exact ⟨hr.projector_score first, hr.projector_responseScore first⟩
    · obtain ⟨hscore, hresponseScore⟩ := ih (hr.step first) d hd
      have hremoved := hr.projector_score first
      exact ⟨(hr.isProjector.of_remove hremoved first.unit hscore).1,
        (hr.isProjector.of_remove hremoved first.unit hresponseScore).1⟩

/-- A vector of which the projector leaves nothing is orthogonal to all scores that follow. -/
theorem chain_lost (hr : SeenThrough K Y A r) (h : Chain Deflates r cs r') {v : Fin n → ℝ}
    (hv : A *ᵥ v = 0) : ∀ c ∈ cs, c.score.coords ⬝ᵥ v = 0 := by
  intro c hc
  rw [← (hr.chain_projected h c hc).1, hr.isProjector.mulVec_dotProduct, hv, dotProduct_zero]

/-- **What follows has nothing of a score.** -/
theorem chain_pairwise (hr : SeenThrough K Y A r) (h : Chain Deflates r cs r') :
    cs.Pairwise fun c d => c.score.coords ⬝ᵥ d.score.coords = 0 ∧
      c.score.coords ⬝ᵥ d.responseScore.coords = 0 := by
  induction h generalizing A with
  | nil => exact List.Pairwise.nil
  | cons first rest ih =>
    refine List.Pairwise.cons (fun d hd => ?_) (ih (hr.step first))
    obtain ⟨hscore, hresponseScore⟩ := (hr.step first).chain_projected rest d hd
    have hremoved := hr.projector_score first
    exact ⟨(hr.isProjector.of_remove hremoved first.unit hscore).2,
      (hr.isProjector.of_remove hremoved first.unit hresponseScore).2⟩

theorem chain_each (hr : SeenThrough K Y A r) (h : Chain Deflates r cs r') :
    ∀ c ∈ cs, c.score.coords ⬝ᵥ c.score.coords = 1 ∧
      c.responseLoading.coords = Yᵀ *ᵥ c.score.coords :=
  h.forall_mem (I := fun s => ∃ A, SeenThrough K Y A s) ⟨A, hr⟩ fun _ _ _ ⟨_, hs⟩ hc =>
    ⟨⟨hc.unit, hs.responseLoading_eq hc⟩, _, hs.step hc⟩

/-- **At the end** the projector has lost all scores. -/
theorem chain_end (hr : SeenThrough K Y A r) (h : Chain Deflates r cs r') :
    SeenThrough K Y (A - (scores cs).matrix * (scores cs).matrixᵀ) r' := by
  induction h generalizing A with
  | nil =>
    rw [scores, Mat.ofCols_nil_mul_transpose, sub_zero]
    exact hr
  | cons first _ ih =>
    rw [scores, Mat.ofCols_cons_mul_transpose, ← sub_sub]
    exact ih (hr.step first)

theorem scores_transpose_mul (hr : SeenThrough K Y A r) (h : Chain Deflates r cs r') :
    (scores cs).matrixᵀ * (scores cs).matrix = 1 := by
  have hpair := (hr.chain_pairwise h).imp fun hcd => hcd.1
  rw [scores, Mat.ofCols_gram_eq_diagonal hpair, ← diagonal_one]
  exact congrArg diagonal (funext fun j => (hr.chain_each h _ (List.get_mem _ _)).1)

/-- **The loadings on the responses** are what the scores explain of them. -/
theorem matrix_responseLoadings (hr : SeenThrough K Y A r) (h : Chain Deflates r cs r') :
    (responseLoadings cs).matrix = Yᵀ * (scores cs).matrix := by
  ext i j
  rw [responseLoadings, Mat.matrix_ofCols_apply, (hr.chain_each h _ (List.get_mem _ _)).2, scores,
    Mat.matrix_ofCols]
  rfl

end Chains

/-! ## 3. Images -/

section Chains

variable {cs : List (Component ℝ n q)}

theorem chain_deflates (h : Chain Images r cs r') : Chain Deflates r cs r' :=
  h.imp fun _ _ _ _ hc => hc.toDeflates

/-- **Without the scores nothing of an image is left.** -/
theorem chain_image (hr : SeenThrough K Y A r) (h : Chain Images r cs r') :
    ∀ c ∈ cs, (A - (scores cs).matrix * (scores cs).matrixᵀ) *ᵥ
      (K *ᵥ c.responseScore.coords) = 0 := by
  induction h generalizing A with
  | nil => exact fun c hc => absurd hc List.not_mem_nil
  | @cons _ _ _ d ds first rest ih =>
    have hstep := hr.step first.toDeflates
    have hcons : A - (scores (d :: ds)).matrix * (scores (d :: ds)).matrixᵀ =
        (A - vecMulVec d.score.coords d.score.coords) -
          (scores ds).matrix * (scores ds).matrixᵀ := by
      rw [sub_sub]
      exact congrArg (A - ·) (Mat.ofCols_cons_mul_transpose d Component.score)
    intro c hc
    rw [hcons]
    rcases List.mem_cons.mp hc with rfl | hc
    · have hlost := hr.image_lost first
      have hscores : (scores ds).matrixᵀ *ᵥ (K *ᵥ c.responseScore.coords) = 0 :=
        Mat.ofCols_transpose_mulVec_eq_zero (hstep.chain_lost (chain_deflates rest) hlost)
      rw [sub_mulVec, hlost, ← mulVec_mulVec, hscores, mulVec_zero, sub_zero]
    · exact ih hstep c hc

/-- **The kernel turns the scores on the responses into scores.** -/
theorem kernel_mul_responseScores (hr : SeenThrough K Y 1 r) (h : Chain Images r cs r') :
    K * (responseScores cs).matrix =
      (scores cs).matrix * ((scores cs).matrixᵀ * K * (responseScores cs).matrix) := by
  have hlost : (1 - (scores cs).matrix * (scores cs).matrixᵀ) * K *
      (responseScores cs).matrix = 0 := by
    refine Mat.mul_ofCols_eq_zero fun c hc => ?_
    rw [← mulVec_mulVec]
    exact hr.chain_image h c hc
  rw [Matrix.sub_mul, Matrix.sub_mul, Matrix.one_mul, sub_eq_zero] at hlost
  rw [hlost]
  simp only [Matrix.mul_assoc]

end Chains

end SeenThrough

end PartialLeastSquares.KernelPls
