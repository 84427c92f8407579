/-
# The regression vector in feature space

With the inner product for its kernel the method works on the predictors after all: the cross
kernel of new rows is linear in them, so their predictions come from one vector (`regression`,
`predict_of_fit`).  That vector is the least-squares solution within the Krylov space
(`regression_isLeastSquaresOn`), the problem that the other methods for one response solve.

What is left of the kernel and the response is the whole of both, seen through one projector, and
what that projector removes is explained by the Krylov space (`Tracks`).

The data comes centered, which makes the centering in feature space the identity, for the training
kernel and for the kernel of new rows alike.  Rows must be there for a kernel to be evaluated: of
no rows this method makes a failure.
-/
import Mathlib
import PartialLeastSquares.Proofs.KernelPls.Deflation
import PartialLeastSquares.Proofs.LeastSquares
import PartialLeastSquares.Proofs.LinearKernel

namespace PartialLeastSquares.KernelPls

open Matrix

variable {n m p q : ℕ}

/-! ## 1. The invariant -/

/-- **What the residual stands for** after `k` components: the kernel of the whole predictors and
the whole response, both seen through one projector; what it removes is explained by the Krylov
space. -/
structure Tracks (X : Matrix (Fin n) (Fin p) ℝ) (y : Fin n → ℝ) (k : ℕ)
    (A : Matrix (Fin n) (Fin n) ℝ) (r : Residual ℝ n 1) : Prop where
  isProjector : IsProjector A
  kernel : r.kernel.matrix = A * (X * Xᵀ) * A
  response : r.response.coords = A *ᵥ y
  removed : ∀ u, u - A *ᵥ u ∈ (krylov X y k).map X.mulVecLin

theorem tracks_start {X : Matrix (Fin n) (Fin p) ℝ} {y : Fin n → ℝ} {r : Residual ℝ n 1}
    (hkernel : r.kernel.matrix = X * Xᵀ) (hresponse : r.response.coords = y) :
    Tracks X y 0 1 r where
  isProjector := .one
  kernel := by rw [hkernel, Matrix.one_mul, Matrix.mul_one]
  response := by rw [hresponse, one_mulVec]
  removed u := by
    rw [one_mulVec, sub_self]
    exact Submodule.zero_mem _

namespace Tracks

variable {X : Matrix (Fin n) (Fin p) ℝ} {y : Fin n → ℝ} {k : ℕ} {A : Matrix (Fin n) (Fin n) ℝ}
  {r r' : Residual ℝ n 1} {c : Component ℝ n 1}

theorem seenThrough (h : Tracks X y k A r) :
    SeenThrough (X * Xᵀ) (replicateCol (Fin 1) y) A r where
  isProjector := h.isProjector
  kernel := h.kernel
  y := by rw [r.matrix_y, h.response, replicateCol_mulVec]

/-- On the response the kernel is the whole one, projected once. -/
theorem kernel_response (h : Tracks X y k A r) :
    r.kernel.matrix *ᵥ r.response.coords = A *ᵥ (X *ᵥ (Xᵀ *ᵥ r.response.coords)) := by
  have hresponse : A *ᵥ r.response.coords = r.response.coords := by
    rw [h.response, h.isProjector.mulVec_mulVec]
  rw [h.kernel, ← mulVec_mulVec, hresponse, ← mulVec_mulVec, ← mulVec_mulVec]

/-- What the predictors covary with the score on the response lies one dimension further. -/
theorem weight_mem (h : Tracks X y k A r) (hc : Extracts r c r') :
    Xᵀ *ᵥ c.responseScore.coords ∈ krylov X y (k + 1) := by
  obtain ⟨a, -, hscore⟩ := hc.responseScore
  rw [hscore, mulVec_smul]
  refine Submodule.smul_mem _ _ (covariance_left_mem_krylov ?_)
  rw [h.response]
  exact h.removed y

theorem score_mem (h : Tracks X y k A r) (hc : Extracts r c r') :
    c.score.coords ∈ (krylov X y (k + 1)).map X.mulVecLin := by
  obtain ⟨b, hb, himage⟩ := hc.score
  have hmono : (krylov X y k).map X.mulVecLin ≤ (krylov X y (k + 1)).map X.mulVecLin :=
    Submodule.map_mono (krylov_mono k.le_succ)
  have hcov : Xᵀ *ᵥ r.response.coords ∈ krylov X y (k + 1) := by
    refine covariance_left_mem_krylov ?_
    rw [h.response]
    exact h.removed y
  have hsplit : b • c.score.coords = X *ᵥ (Xᵀ *ᵥ r.response.coords) -
      (X *ᵥ (Xᵀ *ᵥ r.response.coords) - A *ᵥ (X *ᵥ (Xᵀ *ᵥ r.response.coords))) := by
    rw [sub_sub_cancel, ← himage, h.kernel_response]
  have hmem : b • c.score.coords ∈ (krylov X y (k + 1)).map X.mulVecLin := by
    rw [hsplit]
    exact Submodule.sub_mem _ (Submodule.mem_map_of_mem hcov) (hmono (h.removed _))
  exact (Submodule.smul_mem_iff _ hb).mp hmem

/-- **A step keeps the invariant:** the projector loses the score. -/
theorem step (h : Tracks X y k A r) (hc : Extracts r c r') :
    Tracks X y (k + 1) (A - vecMulVec c.score.coords c.score.coords) r' := by
  have hseen := h.seenThrough.step hc.deflates
  have hmono : (krylov X y k).map X.mulVecLin ≤ (krylov X y (k + 1)).map X.mulVecLin :=
    Submodule.map_mono (krylov_mono k.le_succ)
  refine ⟨hseen.isProjector, hseen.kernel, ?_, fun u => ?_⟩
  · rw [hc.response, IsProjector.sub_vecMulVec_mulVec, h.response, ← h.isProjector.mulVec_dotProduct,
      h.seenThrough.projector_score hc.deflates]
  · have hsplit : u - (A - vecMulVec c.score.coords c.score.coords) *ᵥ u =
        (u - A *ᵥ u) + (c.score.coords ⬝ᵥ u) • c.score.coords := by
      rw [IsProjector.sub_vecMulVec_mulVec]
      abel
    rw [hsplit]
    exact Submodule.add_mem _ (hmono (h.removed u)) (Submodule.smul_mem _ _ (h.score_mem hc))

/-- **The predictors covary with the scores on the response** within the Krylov space. -/
theorem chain_weight_mem {cs : List (Component ℝ n 1)} (h : Chain Extracts r cs r')
    (hr : Tracks X y k A r) :
    ∀ c ∈ cs, Xᵀ *ᵥ c.responseScore.coords ∈ krylov X y (k + cs.length) := by
  induction h generalizing k A with
  | nil => exact fun c hc => absurd hc List.not_mem_nil
  | @cons _ _ _ d ds first _ ih =>
    intro c hc
    rcases List.mem_cons.mp hc with rfl | hc
    · exact krylov_mono (by rw [List.length_cons]; omega) (hr.weight_mem first)
    · have hlen : k + (d :: ds).length = k + 1 + ds.length := by rw [List.length_cons]; omega
      rw [hlen]
      exact ih (hr.step first) c hc

end Tracks

/-! ## 2. The regression vector -/

/-- The predictors' covariances with the scores on the response, as the coefficients combine
them. -/
def regression {K : Type} [Scalar K] (x : Mat K n p) (cs : List (Component K n 1))
    (b : Mat K cs.length 1) : Vec K p :=
  (Mat.tmul x (responseScores cs)).apply b.only

/-- A score on the kernel finds what the kernel makes of a score on the responses. -/
theorem scores_mul_mul_apply (K : Matrix (Fin n) (Fin n) ℝ) (cs : List (Component ℝ n q))
    (i j : Fin cs.length) : ((scores cs).matrixᵀ * K * (responseScores cs).matrix) i j =
      (cs.get i).score.coords ⬝ᵥ (K *ᵥ (cs.get j).responseScore.coords) := by
  rw [Matrix.mul_assoc, scores, responseScores, Mat.matrix_ofCols, Mat.matrix_ofCols]
  rfl

section Regression

variable {y : Fin n → ℝ} {r r' : Residual ℝ n 1} {cs : List (Component ℝ n 1)}

/-- A component of two passes or more is one of which the kernel knows. -/
theorem chain_images (h : Chain Extracts r cs r') : Chain Images r cs r' :=
  h.imp fun _ _ _ _ hc => ⟨hc.deflates, hc.image⟩

/-- **The regression vector of a chain is the least-squares solution within the Krylov space.** -/
theorem regression_of_chain {tools : Toolkit ℝ} (ht : tools.ExactInverse) {x : Mat ℝ n p}
    {kernel : Mat ℝ n n} (hkernel : kernel.matrix = x.matrix * x.matrixᵀ)
    (h : Chain Extracts r cs r') (hr : Tracks x.matrix y 0 1 r) {b : Mat ℝ cs.length 1}
    (hb : coefficients tools kernel cs = .ok b) :
    IsLeastSquaresOn x.matrix y (krylov x.matrix y cs.length) (regression x cs b).coords := by
  unfold coefficients at hb
  obtain ⟨inner, hinner, hb⟩ := bind_eq_ok_iff.mp hb
  obtain rfl := Except.ok.inj hb
  have hinverse := ht.mul_eq_one_of_invert hinner
  rw [Mat.matrix_mul, Mat.matrix_tmul, hkernel] at hinverse
  have hmem : ∀ z, (x.matrixᵀ * (responseScores cs).matrix) *ᵥ z ∈
      krylov x.matrix y cs.length := fun z => by
    rw [← mulVec_mulVec]
    have hle : ∀ c ∈ cs, c.responseScore.coords ∈
        (krylov x.matrix y cs.length).comap x.matrixᵀ.mulVecLin := fun c hc => by
      have hw := hr.chain_weight_mem h c hc
      rwa [zero_add] at hw
    exact Mat.ofCols_mulVec_mem hle z
  have hdeflates := SeenThrough.chain_deflates (chain_images h)
  have horthonormal := hr.seenThrough.scores_transpose_mul hdeflates
  have hindep : ∀ z, (scores cs).matrix *ᵥ z = 0 → z = 0 := fun z hz => by
    rw [← one_mulVec z, ← horthonormal, ← mulVec_mulVec, hz, mulVec_zero]
  have hloadings : (scores cs).matrixᵀ *ᵥ y = (responseLoadings cs).matrix 0 := by
    rw [hr.seenThrough.matrix_responseLoadings hdeflates, mul_apply_eq_vecMul, mulVec_transpose]
    rfl
  have hrest : (scores cs).matrixᵀ *ᵥ
      (y - (scores cs).matrix *ᵥ (responseLoadings cs).matrix 0) = 0 := by
    rw [mulVec_sub, hloadings, mulVec_mulVec, horthonormal, one_mulVec, sub_self]
  have himages := hr.seenThrough.kernel_mul_responseScores (chain_images h)
  rw [Matrix.mul_assoc] at himages
  have hcol : ((Mat.mulT inner (responseLoadings cs)).only).coords =
      inner.matrix *ᵥ (responseLoadings cs).matrix 0 := by
    funext i
    rw [Mat.coords_only, Mat.matrix_mulT]
    rfl
  rw [regression, Mat.coords_apply, Mat.matrix_tmul, hcol]
  exact (isLeastSquaresOn_of_factor finrank_krylov_le hmem himages hinverse hindep hrest).1

end Regression

/-! ## 3. Fits to centered data -/

section Fits

variable {tools : Toolkit ℝ} {settings : Settings ℝ} {x : Mat ℝ n p} {y : Mat ℝ n q}

/-- Centered data, prepared for the linear kernel. -/
def prepared {K : Type} [Scalar K] (x : Mat K n p) (y : Mat K n q) : Prepared K n p q :=
  ⟨.linear, .trivial p, .trivial q, x, y, KernelFn.linear.gram x x,
    centerKernel (KernelFn.linear.gram x x)⟩

theorem center_of_centered (hx : x.Centered) (hy : y.Centered) :
    center x y = .ok (.trivial p, .trivial q) := by
  unfold center
  rw [Mat.entryProblem?_real, Mat.entryProblem?_real, Scheme.center_learn hx,
    Scheme.center_learn hy]

/-- **The data is prepared as it is** if it has rows and columns. -/
theorem prepare_eq_ok_iff {data : Prepared ℝ n p q} :
    prepare .linear x y (.trivial p, .trivial q) = .ok data ↔
      (n ≠ 0 ∧ p ≠ 0) ∧ prepared x y = data := by
  unfold prepare
  constructor
  · intro h
    obtain ⟨raw, hraw, h⟩ := bind_eq_ok_iff.mp h
    obtain ⟨hsize, rfl⟩ := Kernel.selfGram_linear_eq_ok_iff.mp hraw
    refine ⟨hsize, ?_⟩
    rw [← Except.ok.inj h, ColumnStats.trivial_apply, ColumnStats.trivial_apply]
    rfl
  · rintro ⟨hsize, rfl⟩
    refine bind_eq_ok_iff.mpr ⟨_, Kernel.selfGram_linear_eq_ok_iff.mpr ⟨hsize, rfl⟩, ?_⟩
    rw [ColumnStats.trivial_apply, ColumnStats.trivial_apply]
    rfl

/-- **A fit is made of its components and their coefficients.** -/
theorem fit_eq_ok_iff {data : Prepared ℝ n p q} {cs : List (Component ℝ n q)}
    {residual : Residual ℝ n q} {f : Fit ℝ n p q} :
    fit tools data cs residual = .ok f ↔
      ∃ b, coefficients tools data.centered cs = .ok b ∧
        ⟨data.kernel, data.xStats, data.yStats, data.x, data.raw, data.centered, residual.kernel,
          cs, b⟩ = f := by
  unfold fit
  rw [bind_eq_ok_iff]
  exact exists_congr fun b => and_congr_right fun _ =>
    ⟨fun h => Except.ok.inj h, fun h => congrArg _ h⟩

/-- An extraction that ends well, each component after two passes or more, is a chain. -/
theorem chain_of_extraction {kernel : Mat ℝ n n} {y : Mat ℝ n 1} {count : ℕ} {r : Residual ℝ n 1}
    (h : (extraction tools settings kernel y count).ending = .ok r)
    (hpasses : ∀ c ∈ (extraction tools settings kernel y count).components,
      2 ≤ c.convergence.passes) :
    Chain Extracts ⟨kernel, y⟩ (extraction tools settings kernel y count).components r :=
  (chain_of_extract (fun _ _ _ _ => extracts_of_step kernel.norm_nonneg) h).imp
    fun _ c _ hc hextracts => hextracts (hpasses c hc)

/-- **The regression vector of a fit** is the least-squares solution within the Krylov space of as
many dimensions as components were asked for. -/
theorem regression_isLeastSquaresOn (ht : tools.ExactInverse) (hx : x.Centered) {y : Mat ℝ n 1}
    {count : ℕ} {r : Residual ℝ n 1} {f : Fit ℝ n p 1}
    (hend : (extraction tools settings (prepared x y).centered y count).ending = .ok r)
    (hfit : fit tools (prepared x y)
      (extraction tools settings (prepared x y).centered y count).components r = .ok f)
    (hpasses : ∀ c ∈ f.components, 2 ≤ c.convergence.passes) :
    IsLeastSquaresOn x.matrix y.only.coords (krylov x.matrix y.only.coords count)
      (regression x f.components f.coefficients).coords := by
  obtain ⟨b, hb, rfl⟩ := fit_eq_ok_iff.mp hfit
  have hkernel : (prepared x y).centered.matrix = x.matrix * x.matrixᵀ := centerKernel_gram hx
  have hspace : krylov x.matrix y.only.coords
      (extraction tools settings (prepared x y).centered y count).components.length =
        krylov x.matrix y.only.coords count :=
    congrArg _ (length_components_extract hend)
  rw [← hspace]
  exact regression_of_chain ht hkernel (chain_of_extraction hend hpasses)
    (tracks_start hkernel rfl) hb

end Fits

/-! ## 4. New rows -/

section NewRows

variable {tools : Toolkit ℝ} {x : Mat ℝ n p} {y : Mat ℝ n 1} {cs : List (Component ℝ n 1)}
  {r : Residual ℝ n 1} {f : Fit ℝ n p 1}

/-- **The predictions of a fit are those of its regression vector,** for any number of rows but
none. -/
theorem predict_of_fit (hx : x.Centered) (hn : n ≠ 0) (hp : p ≠ 0)
    (hfit : fit tools (prepared x y) cs r = .ok f) (hm : m ≠ 0) (new : Mat ℝ m p) :
    f.predict new = .ok (Mat.ofCol (new.apply (regression x f.components f.coefficients))) := by
  obtain ⟨b, -, rfl⟩ := fit_eq_ok_iff.mp hfit
  have hraw : ((centerCrossKernel (KernelFn.linear.gram new x) (KernelFn.linear.gram x x)).mul
      (responseScores cs)).mul b = Mat.ofCol (new.apply (regression x cs b)) := by
    refine Mat.matrix_injective (Matrix.ext fun i j => ?_)
    have hb : ∀ l, b.matrix l j = b.only.coords l := fun l => by
      rw [Mat.coords_only, Subsingleton.elim j 0]
    have hcol : ∀ M : Matrix (Fin m) (Fin cs.length) ℝ,
        (M * b.matrix) i j = (M *ᵥ b.only.coords) i := fun M => by
      rw [mul_apply, mulVec, dotProduct]
      exact Finset.sum_congr rfl fun l _ => by rw [hb]
    rw [Mat.matrix_ofCol, Mat.matrix_mul, hcol, Mat.matrix_mul, centerCrossKernel_gram hx,
      Mat.coords_apply, regression, Mat.coords_apply, Mat.matrix_tmul, mulVec_mulVec,
      Matrix.mul_assoc]
  unfold Fit.predict Fit.transform prepared
  simp only [Mat.entryProblem?_real, ColumnStats.trivial_apply, Kernel.gram_linear hm hn hp, hraw,
    ColumnStats.trivial_unapply]

theorem predict_no_rows (hfit : fit tools (prepared x y) cs r = .ok f) (new : Mat ℝ 0 p) :
    f.predict new = .error (.kernel (.unsuitable (.noRows [0, p]))) := by
  obtain ⟨b, -, rfl⟩ := fit_eq_ok_iff.mp hfit
  unfold Fit.predict Fit.transform prepared
  simp only [Mat.entryProblem?_real, ColumnStats.trivial_apply, Kernel.gram_linear_no_rows]

end NewRows

end PartialLeastSquares.KernelPls
