/-
# Components whose iteration has come to rest

The score of a component is half a pass older than its score on the responses.  If the last pass of
its iteration has left the iterate unchanged, then the two fit together: what is left of the kernel
maps the score on the responses to a positive multiple of the score (`Rests`).

The fit uses the whole kernel, not what was left of it.  On the score on the responses the whole
kernel gives more than that multiple, but what it gives beyond it lies along the earlier scores
(`SeenThrough.image_lost`).  With the scores `T` and the scores on the responses `U`, the matrix
`Tᵀ K U` is therefore upper triangular with a positive diagonal, so that its inverse, the last step
of a fit, exists; and `K U = T (Tᵀ K U)`, so that nothing is lost between the two.  A fit then
predicts for its training rows the projection of the responses onto the scores.
-/
import Mathlib
import PartialLeastSquares.Proofs.KernelPls.Decomposition

namespace PartialLeastSquares.KernelPls

open Matrix

variable {n p q : ℕ}

/-! ## 1. One step -/

theorem change_of_pass {j : ℕ} {kScale yScale : ℝ} {r : Residual ℝ n q} {u : Vec ℝ n}
    {made : Pass ℝ n q} (h : pass j kScale yScale r u = .ok made) :
    made.change = (made.responseScore.sub u).norm := by
  unfold pass at h
  obtain ⟨score, -, h⟩ := bind_eq_ok_iff.mp h
  obtain ⟨responseScore, -, h⟩ := bind_eq_ok_iff.mp h
  rw [← Except.ok.inj h]

/-- **A component whose iteration has come to rest:** what was left of the kernel maps its score
on the responses to a positive multiple of its score. -/
structure Rests (r : Residual ℝ n q) (c : Component ℝ n q) (r' : Residual ℝ n q) : Prop
    extends Deflates r c r' where
  image : ∃ b : ℝ, 0 < b ∧ r.kernel.matrix *ᵥ c.responseScore.coords = b • c.score.coords

theorem Rests.images {r r' : Residual ℝ n q} {c : Component ℝ n q} (h : Rests r c r') :
    Images r c r' where
  toDeflates := h.toDeflates
  image := by
    obtain ⟨b, -, himage⟩ := h.image
    exact ⟨b, himage⟩

/-- **A step whose last pass has changed nothing** finds such a component. -/
theorem rests_of_step {tools : Toolkit ℝ} {settings : Settings ℝ} {kScale yScale : ℝ}
    (hk : 0 ≤ kScale) {j : ℕ} {r r' : Residual ℝ n q} {c : Component ℝ n q}
    (h : step tools settings kScale yScale j r = .ok (c, r')) (hrest : c.convergence.change = 0) :
    Rests r c r' := by
  obtain ⟨u, last, hpass, -, hc, -⟩ := exists_pass_of_step h
  have hchange : c.convergence.change = last.change :=
    congrArg (fun d => d.convergence.change) hc
  have hsame : c.responseScore.coords = u.coords := by
    have hnorm := change_of_pass hpass
    rw [← hchange, hrest] at hnorm
    have hzero : (last.responseScore.sub u).coords = 0 := by
      rw [← dotProduct_self_eq_zero, ← Vec.norm_mul_norm, ← hnorm, mul_zero]
    rw [Vec.coords_sub, sub_eq_zero] at hzero
    rw [congrArg Component.responseScore hc, hzero]
  have hpass := isPass_of_pass hk hpass
  obtain ⟨b, hb, hraw⟩ := hpass.score
  refine ⟨deflates_of_step hk h, b, hb, ?_⟩
  rw [hsame, ← hpass.raw, hraw, congrArg Component.score hc]

/-! ## 2. The image of a score on the responses -/

namespace SeenThrough

variable {K : Matrix (Fin n) (Fin n) ℝ} {Y : Matrix (Fin n) (Fin q) ℝ}
  {A : Matrix (Fin n) (Fin n) ℝ} {r r' : Residual ℝ n q} {cs : List (Component ℝ n q)}

/-- **Later scores have nothing of an earlier image.** -/
theorem chain_image_pairwise (hr : SeenThrough K Y A r) (h : Chain Images r cs r') :
    cs.Pairwise fun c d => d.score.coords ⬝ᵥ (K *ᵥ c.responseScore.coords) = 0 := by
  induction h generalizing A with
  | nil => exact List.Pairwise.nil
  | cons first rest ih =>
    have hstep := hr.step first.toDeflates
    refine List.Pairwise.cons ?_ (ih hstep)
    exact hstep.chain_lost (chain_deflates rest) (hr.image_lost first)

theorem chain_image_pos (hr : SeenThrough K Y A r) (h : Chain Rests r cs r') :
    ∀ c ∈ cs, 0 < c.score.coords ⬝ᵥ (K *ᵥ c.responseScore.coords) := by
  refine h.forall_mem (I := fun s => ∃ A, SeenThrough K Y A s) ⟨A, hr⟩ ?_
  rintro s c s' ⟨A, hs⟩ hc
  obtain ⟨b, hb, himage⟩ := hc.image
  refine ⟨?_, _, hs.step hc.toDeflates⟩
  rw [hs.score_dot_image hc.toDeflates himage]
  exact hb

end SeenThrough

/-! ## 3. The matrices of a fit -/

/-- **The scores explain what the kernel makes of the scores on the responses,** one after the
other: no score finds anything in the image of an earlier score on the responses, each finds
something in that of its own, and together they find everything. -/
structure Explains (K : Matrix (Fin n) (Fin n) ℝ) (cs : List (Component ℝ n q)) : Prop where
  triangular : ((scores cs).matrixᵀ * K * (responseScores cs).matrix).IsUpperTriangular
  diagonal_pos : ∀ j, 0 < ((scores cs).matrixᵀ * K * (responseScores cs).matrix) j j
  image : K * (responseScores cs).matrix =
    (scores cs).matrix * ((scores cs).matrixᵀ * K * (responseScores cs).matrix)

/-- **So the matrix that a fit inverts has an inverse.** -/
theorem Explains.isUnit_det {K : Matrix (Fin n) (Fin n) ℝ} {cs : List (Component ℝ n q)}
    (h : Explains K cs) :
    IsUnit ((scores cs).matrixᵀ * K * (responseScores cs).matrix).det := by
  rw [det_of_isUpperTriangular h.triangular, isUnit_iff_ne_zero]
  exact (Finset.prod_pos fun j _ => h.diagonal_pos j).ne'

section Chains

variable {kernel : Mat ℝ n n} {y : Mat ℝ n q} {r : Residual ℝ n q} {cs : List (Component ℝ n q)}

/-- **Components at rest explain the kernel.** -/
theorem explains_of_chain (h : Chain Rests ⟨kernel, y⟩ cs r) : Explains kernel.matrix cs := by
  have hstart := seenThrough_start (⟨kernel, y⟩ : Residual ℝ n q)
  have himages : Chain Images ⟨kernel, y⟩ cs r := h.imp fun _ _ _ _ hc => hc.images
  refine ⟨fun i j hij => ?_, fun j => ?_, hstart.kernel_mul_responseScores himages⟩
  · rw [scores_mul_mul_apply]
    exact List.pairwise_iff_get.mp (hstart.chain_image_pairwise himages) j i hij
  · rw [scores_mul_mul_apply]
    exact hstart.chain_image_pos h _ (List.get_mem _ _)

end Chains

/-! ## 4. Fits -/

/-- **A fit that predicts for its training rows** what its scores explain of their responses.  The
rows are mapped to the kernel times the scores on the responses; their predictions are what the
orthogonal projector onto the scores makes of the centered responses, with the means put back. -/
structure Fit.ProjectsResponses (f : Fit ℝ n p q) (x : Mat ℝ n p) (y : Mat ℝ n q) : Prop where
  transform : f.transform x = .ok (f.centered.mul (responseScores f.components))
  predict : ∃ a : Mat ℝ n q, f.predict x = .ok (f.yStats.unapply a) ∧
    a.matrix = (scores f.components).matrix * (scores f.components).matrixᵀ * y.matrix
  projector : ProjectsOnto ((scores f.components).matrix * (scores f.components).matrixᵀ)
    (scores f.components).matrix

namespace Completes

variable {tools : Toolkit ℝ} {settings : Settings ℝ} {kernel : Kernel} {x : Mat ℝ n p}
  {y : Mat ℝ n q} {count : ℕ} {data : Prepared ℝ n p q} {cs : List (Component ℝ n q)}
  {r : Residual ℝ n q} {f : Fit ℝ n p q}

/-- Components that were all at rest are a chain of such. -/
theorem chain_rests (h : Completes tools settings kernel x y count data cs r)
    (hrest : ∀ c ∈ cs, c.convergence.change = 0) :
    Chain Rests ⟨data.centered, data.y⟩ cs r :=
  (h.chain fun _ _ _ _ => rests_of_step data.centered.norm_nonneg).imp
    fun _ c _ hc hstep => hstep (hrest c hc)

/-- **The last step of their fit** can fail for the condition of the matrix, and for nothing
else. -/
theorem fit_error (ht : tools.ExactInverse) (hexplains : Explains data.centered.matrix cs)
    {e : NumericalError ℝ} (hfit : KernelPls.fit tools data cs r = .error e) :
    e = .uninvertible .scoresByScores .illConditioned := by
  have hdet : IsUnit
      (Mat.mul (Mat.tmul (scores cs) data.centered) (responseScores cs)).matrix.det := by
    rw [Mat.matrix_mul, Mat.matrix_tmul]
    exact hexplains.isUnit_det
  unfold KernelPls.fit coefficients at hfit
  rcases ht.invert_of_isUnit .scoresByScores hdet with ⟨b, hb⟩ | hcondition
  · rw [hb] at hfit
    cases hfit
  · rw [hcondition] at hfit
    exact (Except.error.inj hfit).symm

theorem projectsResponses (h : Completes tools settings kernel x y count data cs r)
    (ht : tools.ExactInverse) (hexplains : Explains data.centered.matrix cs)
    (hfit : KernelPls.fit tools data cs r = .ok f) : f.ProjectsResponses x data.y := by
  obtain ⟨fn, hkeeps⟩ := h.keeps hfit
  have hdecomposes := h.decomposes hfit
  obtain ⟨b, hb, rfl⟩ := fit_eq_ok_iff.mp hfit
  have htransform := hkeeps.transform_training
  refine ⟨htransform, ⟨_, Fit.predict_of_transform htransform, ?_⟩,
    projectsOnto_of_orthonormal hdecomposes.orthonormal⟩
  unfold coefficients at hb
  obtain ⟨inner, hinner, hb⟩ := bind_eq_ok_iff.mp hb
  obtain rfl := Except.ok.inj hb
  have hinverse := ht.mul_eq_one_of_invert hinner
  rw [Mat.matrix_mul, Mat.matrix_tmul] at hinverse
  have hloadings : (responseLoadings cs).matrix = data.y.matrixᵀ * (scores cs).matrix :=
    hdecomposes.responseLoadings
  show ((data.centered.mul (responseScores cs)).mul (Mat.mulT inner (responseLoadings cs))).matrix =
    (scores cs).matrix * (scores cs).matrixᵀ * data.y.matrix
  calc ((data.centered.mul (responseScores cs)).mul
          (Mat.mulT inner (responseLoadings cs))).matrix
      = data.centered.matrix * (responseScores cs).matrix *
          (inner.matrix * (responseLoadings cs).matrixᵀ) := by
        rw [Mat.matrix_mul, Mat.matrix_mul, Mat.matrix_mulT]
    _ = (scores cs).matrix *
          ((scores cs).matrixᵀ * data.centered.matrix * (responseScores cs).matrix *
            inner.matrix) * (responseLoadings cs).matrixᵀ := by
        rw [hexplains.image]
        simp only [Matrix.mul_assoc]
    _ = (scores cs).matrix * (responseLoadings cs).matrixᵀ := by
        rw [hinverse, Matrix.mul_one]
    _ = (scores cs).matrix * (scores cs).matrixᵀ * data.y.matrix := by
        rw [hloadings, transpose_mul, transpose_transpose, Matrix.mul_assoc]

end Completes

/-- **Components whose iterations have all come to rest.**  The scores explain what the whole kernel
makes of the scores on the responses, by a triangular matrix with a positive diagonal.  So the last
step of a fit never meets a singular matrix; it can only find the matrix badly conditioned.  A fit
that succeeds maps its training rows to what the kernel makes of the scores on the responses, and
predicts for them the orthogonal projection of the centered responses onto the scores. -/
theorem projects_of_rest {tools : Toolkit ℝ} (ht : tools.ExactInverse) {settings : Settings ℝ}
    {kernel : Kernel} {x : Mat ℝ n p} {y : Mat ℝ n q} {count : ℕ} {data : Prepared ℝ n p q}
    {cs : List (Component ℝ n q)} {r : Residual ℝ n q}
    (h : Completes tools settings kernel x y count data cs r)
    (hrest : ∀ c ∈ cs, c.convergence.change = 0) :
    Explains data.centered.matrix cs ∧
      IsUnit ((scores cs).matrixᵀ * data.centered.matrix * (responseScores cs).matrix).det ∧
      (∀ e, fit tools data cs r = .error e → e = .uninvertible .scoresByScores .illConditioned) ∧
      ∀ f, fit tools data cs r = .ok f → f.components = cs ∧ f.centered = data.centered ∧
        (∃ fn, f.Keeps fn x y) ∧ f.ProjectsResponses x ((Scheme.center.learn y).apply y) := by
  have hexplains : Explains data.centered.matrix cs := explains_of_chain (h.chain_rests hrest)
  refine ⟨hexplains, hexplains.isUnit_det, fun e => Completes.fit_error ht hexplains,
    fun f hfit => ?_⟩
  have hprojects := h.projectsResponses ht hexplains hfit
  rw [h.data_y] at hprojects
  have hkeeps := h.keeps hfit
  obtain ⟨b, -, rfl⟩ := fit_eq_ok_iff.mp hfit
  exact ⟨rfl, rfl, hkeeps, hprojects⟩

open TwoScores in
/-- Two components of four rows, each of which its second pass leaves as it is. -/
theorem projects_of_rest_two_scores : ∃ cs r f,
    Completes tools ⟨.within 1, 2, 0⟩ .linear x (Mat.ofCol y) 2 data cs r ∧
      (∀ c ∈ cs, c.convergence.change = 0) ∧ cs.length = 2 ∧ fit tools data cs r = .ok f ∧
      Explains data.centered.matrix cs ∧ f.ProjectsResponses x (Mat.ofCol y) := by
  obtain ⟨c, c', r, hfound, hcompletes⟩ := exists_completes starts_zero
  obtain ⟨f, hfit⟩ := hfound.exists_fit starts_zero.sign r
  have hrest : ∀ d ∈ [c, c'], d.convergence.change = 0 := fun d hd => by
    rw [hfound.convergence d hd]
  obtain ⟨hexplains, -, -, hfits⟩ :=
    projects_of_rest tools_exact.toExactInverse hcompletes hrest
  obtain ⟨-, -, -, hprojects⟩ := hfits f hfit
  rw [centered_y] at hprojects
  exact ⟨[c, c'], r, f, hcompletes, hrest, rfl, hfit, hexplains, hprojects⟩

end PartialLeastSquares.KernelPls
