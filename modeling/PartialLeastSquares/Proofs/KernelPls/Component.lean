/-
# The components in feature space, exactly

The last pass alone decides what a component takes out of the kernel and the responses, so that is
the same for any number of responses and after any number of passes (`deflates_of_step`).

With one response every pass of the iteration ends at a multiple of what is left of the response,
wherever it began (`IsPass.responseScore_one`).  So the second pass is the last that changes
anything: a component that took two passes or more has the kernel times the response for its
score, up to length and sign, and no trace is left of the start vector (`extracts_of_step`).
-/
import Mathlib
import PartialLeastSquares.Method.KernelPls
import PartialLeastSquares.Proofs.Chain
import PartialLeastSquares.Proofs.Exact.Columns
import PartialLeastSquares.Proofs.Exact.Guard
import PartialLeastSquares.Proofs.Outcome
import PartialLeastSquares.Proofs.Projector

namespace PartialLeastSquares.KernelPls

open Matrix

variable {n p q : ℕ}

/-! ## 1. The iteration -/

section Passes

variable {K : Type} [Scalar K] {tol : Tolerance K}
  {next : Vec K n → Except (NumericalError K) (Pass K n q)} {more done : ℕ} {u : Vec K n}

theorem passes_error {e : NumericalError K} (h : next u = .error e) :
    passes tol next more done u = .error e := by
  cases more with
  | zero => rw [passes, h]; rfl
  | succ more => rw [passes, h]

theorem passes_last {made : Pass K n q} (h : next u = .ok made) :
    passes tol next 0 done u = .ok (made, done + 1) := by
  rw [passes, h]
  rfl

/-- Passes end with one that moves the iterate no more than is tolerated. -/
theorem passes_settled {made : Pass K n q} (h : next u = .ok made)
    (hsettled : tol.exceededBy made.change = false) :
    passes tol next more done u = .ok (made, done + 1) := by
  cases more with
  | zero => exact passes_last h
  | succ more =>
    rw [passes, h]
    dsimp only
    rw [hsettled, if_neg Bool.false_ne_true]

theorem passes_moved {made : Pass K n q} (h : next u = .ok made)
    (hmoved : tol.exceededBy made.change = true) : passes tol next (more + 1) done u =
      passes tol next more (done + 1) made.responseScore := by
  rw [passes, h]
  dsimp only
  rw [if_pos hmoved]

end Passes

/-- **The last pass of an iteration** is its first, or follows another pass from where that one
ended.  The induction is on the passes that are still allowed. -/
theorem last_of_passes {K : Type} [Scalar K] {tol : Tolerance K}
    {next : Vec K n → Except (NumericalError K) (Pass K n q)} {last : Pass K n q} {count : ℕ} :
    ∀ {more done : ℕ} {u : Vec K n}, passes tol next more done u = .ok (last, count) →
      (count = done + 1 ∧ next u = .ok last) ∨
        ∃ u' before, done + 2 ≤ count ∧ next u' = .ok before ∧
          next before.responseScore = .ok last := by
  intro more
  induction more with
  | zero =>
    intro done u h
    unfold passes at h
    cases hnext : next u with
    | error e => rw [hnext] at h; cases h
    | ok made =>
      rw [hnext] at h
      obtain ⟨rfl, rfl⟩ := Prod.mk.inj (Except.ok.inj h)
      exact .inl ⟨rfl, rfl⟩
  | succ more ih =>
    intro done u h
    unfold passes at h
    split at h
    · cases h
    · rename_i made hnext
      split at h
      · right
        rcases ih h with ⟨rfl, hlast⟩ | ⟨u', before, hcount, hbefore, hlast⟩
        · exact ⟨u, made, le_rfl, hnext, hlast⟩
        · exact ⟨u', before, by omega, hbefore, hlast⟩
      · obtain ⟨rfl, rfl⟩ := Prod.mk.inj (Except.ok.inj h)
        exact .inl ⟨rfl, hnext⟩

/-- **What a pass does, exactly.** The score has length one and points along what the kernel makes
of the iterate, which is not zero; the loading is what the score explains of the responses; and
the new iterate has length one and points along the responses as they are loaded. -/
structure IsPass (r : Residual ℝ n q) (u : Vec ℝ n) (made : Pass ℝ n q) : Prop where
  raw : made.raw.coords = r.kernel.matrix *ᵥ u.coords
  score : ∃ b : ℝ, 0 < b ∧ made.raw.coords = b • made.score.coords
  score_unit : made.score.coords ⬝ᵥ made.score.coords = 1
  responseLoading : made.responseLoading.coords = r.y.matrixᵀ *ᵥ made.score.coords
  responseScore : ∃ a : ℝ, 0 < a ∧
    r.y.matrix *ᵥ made.responseLoading.coords = a • made.responseScore.coords
  responseScore_unit : made.responseScore.coords ⬝ᵥ made.responseScore.coords = 1

theorem isPass_of_pass {j : ℕ} {kScale yScale : ℝ} (hk : 0 ≤ kScale) {r : Residual ℝ n q}
    {u : Vec ℝ n} {made : Pass ℝ n q} (h : pass j kScale yScale r u = .ok made) :
    IsPass r u made := by
  unfold pass at h
  obtain ⟨score, hscore, h⟩ := bind_eq_ok_iff.mp h
  obtain ⟨responseScore, hresponse, h⟩ := bind_eq_ok_iff.mp h
  obtain rfl := Except.ok.inj h
  obtain ⟨hlength, hraw, hunit⟩ := normalize_ok (mul_nonneg hk u.norm_nonneg) hscore
  obtain ⟨hlength', hraw', hunit'⟩ := normalize_ok (mul_self_nonneg yScale) hresponse
  refine ⟨Mat.coords_apply _ _, ⟨_, hlength, hraw⟩, hunit, Mat.coords_applyT _ _,
    ⟨_, hlength', ?_⟩, hunit'⟩
  rw [← Mat.coords_apply]
  exact hraw'

/-- **A pass that can be made:** the score and the new iterate are the unit vectors to which the
kernel and the responses point. -/
theorem pass_of_smul {kScale yScale : ℝ} (hk : 0 ≤ kScale) (j : ℕ) {r : Residual ℝ n q}
    {u t s : Vec ℝ n} {a b : ℝ} (hraw : r.kernel.matrix *ᵥ u.coords = b • t.coords)
    (ht : t.coords ⬝ᵥ t.coords = 1) (hb : Scalar.zeroNorm * (kScale * u.norm) < b)
    (hresponse : r.y.matrix *ᵥ (r.y.matrixᵀ *ᵥ t.coords) = a • s.coords)
    (hs : s.coords ⬝ᵥ s.coords = 1) (ha : Scalar.zeroNorm * (yScale * yScale) < a) :
    pass j kScale yScale r u =
      .ok ⟨r.kernel.apply u, t, r.y.applyT t, s, (s.sub u).norm⟩ := by
  have hscore : normalize (.kernelScore j) (r.kernel.apply u) (kScale * u.norm) = .ok t :=
    normalize_of_smul ((Mat.coords_apply _ _).trans hraw) ht (mul_nonneg hk u.norm_nonneg) hb
  have hiterate : normalize (.responseScore j) (r.y.apply (r.y.applyT t)) (yScale * yScale) =
      .ok s := by
    refine normalize_of_smul ?_ hs (mul_self_nonneg _) ha
    rw [Mat.coords_apply, Mat.coords_applyT, hresponse]
  unfold pass
  exact bind_eq_ok_iff.mpr ⟨t, hscore, bind_eq_ok_iff.mpr ⟨s, hiterate, rfl⟩⟩

/-- **When a step succeeds,** and with what: a pass must be made at all, the iteration must end with
one, and the length of what the kernel made of the iterate passes its guard. -/
theorem step_eq_ok_iff {tools : Toolkit ℝ} {settings : Settings ℝ} {kScale yScale : ℝ} {j : ℕ}
    {r r' : Residual ℝ n q} {c : Component ℝ n q} :
    step tools settings kScale yScale j r = .ok (c, r') ↔
      ∃ last : Pass ℝ n q, settings.tol ≠ .infinite ∧
        passes settings.tol (pass j kScale yScale r) (settings.maxPasses - 1) 0
          (tools.start n (settings.seed + j)) = .ok (last, c.convergence.passes) ∧
        divideBy (.kernelLoading j) (r'.kernel.applyT last.raw) last.raw.normSq
          (kScale * kScale) = .ok c.loading ∧
        c = ⟨last.score, last.responseScore, c.loading, last.responseLoading,
          ⟨c.convergence.passes, last.change, !settings.tol.exceededBy last.change⟩⟩ ∧
        r' = ⟨(((Mat.identity n).sub (Mat.outer c.score c.score)).mul r.kernel).mul
          ((Mat.identity n).sub (Mat.outer c.score c.score)),
          r.y.sub (Mat.outer c.score c.responseLoading)⟩ := by
  constructor
  · intro h
    unfold step at h
    split at h
    · cases h
    · rename_i htol
      split at h
      · cases h
      · rename_i last count hlast
        dsimp only at h
        split at h
        · cases h
        · rename_i loading hloading
          obtain ⟨rfl, rfl⟩ := Prod.mk.inj (Except.ok.inj h)
          exact ⟨last, htol, hlast, hloading, rfl, rfl⟩
  · rintro ⟨last, htol, hlast, hloading, hc, hr'⟩
    obtain ⟨score, responseScore, loading, responseLoading, count, change, settled⟩ := c
    obtain ⟨kernel, y⟩ := r'
    dsimp only at hlast hloading hc hr'
    obtain ⟨rfl, rfl, -, rfl, hconvergence⟩ := Component.mk.inj hc
    obtain ⟨-, rfl, rfl⟩ := Convergence.mk.inj hconvergence
    obtain ⟨rfl, rfl⟩ := Residual.mk.inj hr'
    unfold step
    split
    · rename_i hinfinite
      exact absurd hinfinite htol
    · rw [hlast]
      dsimp only
      rw [hloading]

/-- **A step that can be made:** its iteration ends, and what the kernel made of the last iterate
passes the guard. -/
theorem exists_step_of_passes {tools : Toolkit ℝ} {settings : Settings ℝ} {kScale yScale : ℝ}
    {j : ℕ} {r : Residual ℝ n q} {last : Pass ℝ n q} {count : ℕ}
    (htol : settings.tol ≠ .infinite)
    (hlast : passes settings.tol (pass j kScale yScale r) (settings.maxPasses - 1) 0
      (tools.start n (settings.seed + j)) = .ok (last, count))
    (hguard : Scalar.zeroNorm * (kScale * kScale) < |last.raw.normSq|) :
    ∃ c r', step tools settings kScale yScale j r = .ok (c, r') ∧ c.score = last.score ∧
      c.responseScore = last.responseScore ∧ c.responseLoading = last.responseLoading ∧
      c.convergence = ⟨count, last.change, !settings.tol.exceededBy last.change⟩ := by
  let part := (Mat.identity n).sub (Mat.outer last.score last.score)
  let r' : Residual ℝ n q :=
    ⟨(part.mul r.kernel).mul part, r.y.sub (Mat.outer last.score last.responseLoading)⟩
  let c : Component ℝ n q := ⟨last.score, last.responseScore,
    (r'.kernel.applyT last.raw).dividedBy last.raw.normSq, last.responseLoading,
    ⟨count, last.change, !settings.tol.exceededBy last.change⟩⟩
  have hstep : step tools settings kScale yScale j r = .ok (c, r') :=
    step_eq_ok_iff.mpr ⟨last, htol, hlast, divideBy_eq_ok_iff.mpr ⟨hguard, rfl⟩, rfl, rfl⟩
  exact ⟨c, r', hstep, rfl, rfl, rfl, rfl⟩

/-- **What a component has, it has from one pass,** the last of its iteration. -/
theorem exists_pass_of_step {tools : Toolkit ℝ} {settings : Settings ℝ} {kScale yScale : ℝ} {j : ℕ}
    {r r' : Residual ℝ n q} {c : Component ℝ n q}
    (h : step tools settings kScale yScale j r = .ok (c, r')) :
    ∃ (u : Vec ℝ n) (last : Pass ℝ n q), pass j kScale yScale r u = .ok last ∧
      c.loading = (r'.kernel.applyT last.raw).dividedBy last.raw.normSq ∧
      c = ⟨last.score, last.responseScore, c.loading, last.responseLoading,
        ⟨c.convergence.passes, last.change, !settings.tol.exceededBy last.change⟩⟩ ∧
      r' = ⟨(((Mat.identity n).sub (Mat.outer c.score c.score)).mul r.kernel).mul
        ((Mat.identity n).sub (Mat.outer c.score c.score)),
        r.y.sub (Mat.outer c.score c.responseLoading)⟩ := by
  obtain ⟨last, -, hlast, hloading, hc, hr'⟩ := step_eq_ok_iff.mp h
  obtain ⟨u, hpass⟩ : ∃ u, pass j kScale yScale r u = .ok last := by
    rcases last_of_passes hlast with ⟨-, hfirst⟩ | ⟨u, before, -, -, hlast⟩
    · exact ⟨_, hfirst⟩
    · exact ⟨_, hlast⟩
  exact ⟨u, last, hpass, (divideBy_eq_ok_iff.mp hloading).2, hc, hr'⟩

/-- **What a component does to the kernel,** whatever the responses, which are not zero, and the
passes: its score lies in the range, has length one, and is removed on both sides. -/
structure Removes (r : Residual ℝ n q) (c : Component ℝ n q) (r' : Residual ℝ n q) : Prop where
  score : c.score.coords ∈ LinearMap.range r.kernel.matrix.mulVecLin
  unit : c.score.coords ⬝ᵥ c.score.coords = 1
  kernel : r'.kernel.matrix = (1 - vecMulVec c.score.coords c.score.coords) * r.kernel.matrix *
    (1 - vecMulVec c.score.coords c.score.coords)
  responses : r.y.matrix ≠ 0

theorem removes_of_step {tools : Toolkit ℝ} {settings : Settings ℝ} {kScale yScale : ℝ}
    (hk : 0 ≤ kScale) {j : ℕ} {r r' : Residual ℝ n q} {c : Component ℝ n q}
    (h : step tools settings kScale yScale j r = .ok (c, r')) : Removes r c r' := by
  obtain ⟨u, last, hpass, -, hc, hr'⟩ := exists_pass_of_step h
  have hscore : c.score = last.score := congrArg Component.score hc
  have hpass := isPass_of_pass hk hpass
  obtain ⟨b, hb, himage⟩ := hpass.score
  obtain ⟨a, ha, hresponse⟩ := hpass.responseScore
  refine ⟨⟨b⁻¹ • u.coords, ?_⟩, ?_, ?_, fun hzero => ?_⟩
  · rw [mulVecLin_apply, mulVec_smul, ← hpass.raw, himage, inv_smul_smul₀ hb.ne', hscore]
  · rw [hscore]
    exact hpass.score_unit
  · rw [congrArg Residual.kernel hr', Mat.matrix_mul, Mat.matrix_mul, Mat.matrix_sub,
      Mat.matrix_identity, Mat.matrix_outer]
  · rw [hzero, zero_mulVec] at hresponse
    exact smul_ne_zero ha.ne' (ne_zero_of_dotProduct_eq_one hpass.responseScore_unit)
      hresponse.symm

/-- **What a component takes out of the kernel and the responses,** whatever the passes.  The
loading on the responses is what the score explains of them, the score on the responses is one of
their combinations, and the responses lose what the score explains. -/
structure Deflates (r : Residual ℝ n q) (c : Component ℝ n q) (r' : Residual ℝ n q) : Prop
    extends Removes r c r' where
  responseLoading : c.responseLoading.coords = r.y.matrixᵀ *ᵥ c.score.coords
  responseScore : c.responseScore.coords ∈ LinearMap.range r.y.matrix.mulVecLin
  y : r'.y.matrix = r.y.matrix - vecMulVec c.score.coords c.responseLoading.coords

/-- **A step that succeeds takes that out** of the kernel and the responses. -/
theorem deflates_of_step {tools : Toolkit ℝ} {settings : Settings ℝ} {kScale yScale : ℝ}
    (hk : 0 ≤ kScale) {j : ℕ} {r r' : Residual ℝ n q} {c : Component ℝ n q}
    (h : step tools settings kScale yScale j r = .ok (c, r')) : Deflates r c r' := by
  obtain ⟨u, last, hpass, -, hc, hr'⟩ := exists_pass_of_step h
  have hpass := isPass_of_pass hk hpass
  refine ⟨removes_of_step hk h, ?_, ?_, ?_⟩
  · rw [congrArg Component.responseLoading hc, congrArg Component.score hc]
    exact hpass.responseLoading
  · obtain ⟨a, ha, hiterate⟩ := hpass.responseScore
    refine ⟨a⁻¹ • last.responseLoading.coords, ?_⟩
    rw [mulVecLin_apply, mulVec_smul, hiterate, inv_smul_smul₀ ha.ne',
      congrArg Component.responseScore hc]
  · rw [congrArg Residual.y hr', Mat.matrix_sub, Mat.matrix_outer]

/-! ## 2. One response -/

def Residual.response {K : Type} (r : Residual K n 1) : Vec K n := r.y.only

theorem Residual.matrix_y (r : Residual ℝ n 1) :
    r.y.matrix = replicateCol (Fin 1) r.response.coords := by
  ext i j
  rw [Subsingleton.elim j 0, replicateCol_apply, Residual.response, Mat.coords_only]

theorem mulVec_of_one (a : Mat ℝ n 1) (z : Fin 1 → ℝ) : a.matrix *ᵥ z = z 0 • a.only.coords := by
  funext i
  rw [mulVec, dotProduct, Fin.sum_univ_one, Pi.smul_apply, Mat.coords_only, smul_eq_mul, mul_comm]

theorem transpose_mulVec_of_one (a : Mat ℝ n 1) (t : Fin n → ℝ) :
    (a.matrixᵀ *ᵥ t) 0 = a.only.coords ⬝ᵥ t := by
  rw [mulVec, dotProduct, dotProduct]
  exact Finset.sum_congr rfl fun i _ => by rw [transpose_apply, Mat.coords_only]

section OneResponse

variable {r r' : Residual ℝ n 1} {u : Vec ℝ n} {made : Pass ℝ n 1}

/-- **A pass ends at a multiple of the response,** wherever it began. -/
theorem IsPass.responseScore_one (h : IsPass r u made) :
    ∃ a : ℝ, a ≠ 0 ∧ made.responseScore.coords = a • r.response.coords := by
  obtain ⟨a, ha, hresponse⟩ := h.responseScore
  rw [mulVec_of_one] at hresponse
  have hscore : made.responseScore.coords =
      (a⁻¹ * made.responseLoading.coords 0) • r.response.coords := by
    rw [mul_smul, Residual.response, hresponse, inv_smul_smul₀ ha.ne']
  refine ⟨_, fun hzero => ?_, hscore⟩
  have hunit := h.responseScore_unit
  rw [hscore, hzero, zero_smul, zero_dotProduct] at hunit
  exact zero_ne_one hunit

/-- **What a component is, exactly,** once two passes have been made.  Its score has length one
and lies along the image of the response under the kernel, which is not zero, and its score on the
response is a multiple of the response.  The loading is what the score explains; the kernel loses
the score on both sides, and the response what the score explains. -/
structure Extracts (r : Residual ℝ n 1) (c : Component ℝ n 1) (r' : Residual ℝ n 1) : Prop where
  score : ∃ b : ℝ, b ≠ 0 ∧ r.kernel.matrix *ᵥ r.response.coords = b • c.score.coords
  unit : c.score.coords ⬝ᵥ c.score.coords = 1
  responseScore : ∃ a : ℝ, a ≠ 0 ∧ c.responseScore.coords = a • r.response.coords
  responseLoading : c.responseLoading.coords 0 = c.score.coords ⬝ᵥ r.response.coords
  kernel : r'.kernel.matrix = (1 - vecMulVec c.score.coords c.score.coords) * r.kernel.matrix *
    (1 - vecMulVec c.score.coords c.score.coords)
  response : r'.response.coords =
    r.response.coords - (c.score.coords ⬝ᵥ r.response.coords) • c.score.coords

/-- **A step of two passes or more** is such a component. -/
theorem extracts_of_step {tools : Toolkit ℝ} {settings : Settings ℝ} {kScale yScale : ℝ}
    (hk : 0 ≤ kScale) {j : ℕ} {c : Component ℝ n 1}
    (h : step tools settings kScale yScale j r = .ok (c, r'))
    (hpasses : 2 ≤ c.convergence.passes) : Extracts r c r' := by
  obtain ⟨last, -, hlast, -, hc, -⟩ := step_eq_ok_iff.mp h
  have hscore : c.score = last.score := congrArg Component.score hc
  obtain ⟨u, before, hbefore, hlast⟩ : ∃ u before, pass j kScale yScale r u = .ok before ∧
      pass j kScale yScale r before.responseScore = .ok last := by
    rcases last_of_passes hlast with ⟨hcount, -⟩ | ⟨u, before, -, hbefore, hlast⟩
    · omega
    · exact ⟨u, before, hbefore, hlast⟩
  have hdeflates := deflates_of_step hk h
  have hpass := isPass_of_pass hk hlast
  obtain ⟨a, ha, hiterate⟩ := (isPass_of_pass hk hbefore).responseScore_one
  obtain ⟨b, hb, hraw⟩ := hpass.score
  have himage : a • (r.kernel.matrix *ᵥ r.response.coords) = b • last.score.coords := by
    rw [← mulVec_smul, ← hiterate, ← hpass.raw, hraw]
  have hloading : c.responseLoading.coords 0 = c.score.coords ⬝ᵥ r.response.coords := by
    rw [hdeflates.responseLoading, transpose_mulVec_of_one, dotProduct_comm]
    rfl
  refine ⟨⟨a⁻¹ * b, mul_ne_zero (inv_ne_zero ha) hb.ne', ?_⟩, hdeflates.unit, ?_, hloading,
    hdeflates.kernel, ?_⟩
  · rw [hscore, mul_smul, ← himage, inv_smul_smul₀ ha]
  · rw [congrArg Component.responseScore hc]
    exact hpass.responseScore_one
  · rw [← hloading]
    funext i
    rw [Residual.response, Mat.coords_only, hdeflates.y, Matrix.sub_apply, vecMulVec_apply,
      Pi.sub_apply, Pi.smul_apply, smul_eq_mul, mul_comm, Residual.response, Mat.coords_only]

namespace Extracts

variable {c : Component ℝ n 1}

theorem deflates (h : Extracts r c r') : Deflates r c r' where
  score := by
    obtain ⟨b, hb, himage⟩ := h.score
    exact ⟨b⁻¹ • r.response.coords, by
      rw [mulVecLin_apply, mulVec_smul, himage, inv_smul_smul₀ hb]⟩
  unit := h.unit
  kernel := h.kernel
  responses hzero := by
    obtain ⟨b, hb, himage⟩ := h.score
    have hresponse : r.response.coords = 0 := by
      funext i
      rw [Residual.response, Mat.coords_only, hzero]
      rfl
    rw [hresponse, mulVec_zero] at himage
    exact smul_ne_zero hb (ne_zero_of_dotProduct_eq_one h.unit) himage.symm
  responseLoading := by
    funext i
    rw [Subsingleton.elim i 0, h.responseLoading, transpose_mulVec_of_one, dotProduct_comm]
    rfl
  responseScore := by
    obtain ⟨a, -, hscore⟩ := h.responseScore
    exact ⟨fun _ => a, by rw [mulVecLin_apply, mulVec_of_one, hscore, Residual.response]⟩
  y := by
    rw [r'.matrix_y, r.matrix_y, h.response, ← h.responseLoading]
    ext i j
    rw [Subsingleton.elim j 0, Matrix.sub_apply, replicateCol_apply, replicateCol_apply,
      Pi.sub_apply, Pi.smul_apply, vecMulVec_apply, smul_eq_mul, mul_comm]

/-- What is left of the kernel maps the score on the response to a multiple of the score. -/
theorem image (h : Extracts r c r') :
    ∃ b : ℝ, r.kernel.matrix *ᵥ c.responseScore.coords = b • c.score.coords := by
  obtain ⟨a, -, hresponseScore⟩ := h.responseScore
  obtain ⟨b, -, himage⟩ := h.score
  exact ⟨a * b, by rw [hresponseScore, mulVec_smul, himage, smul_smul]⟩

end Extracts

end OneResponse

end PartialLeastSquares.KernelPls
