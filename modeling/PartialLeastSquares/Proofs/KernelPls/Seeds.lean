/-
# One response: two passes, from any start

With one response a pass ends at the direction of that response, with one sign or the other.  The
next pass starts from there, and if the kernel of the training rows is positive semidefinite, then
it ends there with the same sign: the iteration has come to rest.  So two passes are enough for
every component (`Completes.passes_le_two`).  Deflating on both sides is what keeps the kernel
positive semidefinite from one component to the next; on an indefinite kernel the sign may change
for ever.

After two passes no trace is left of the start but that sign.  It is the same for both scores and
for the loading on the responses (`Component.Opposes`), and it is gone from what the component
leaves, so the next component knows nothing of it.  In the matrix of a fit the signs of all
components cancel (`dualOf_signs`): fits from different seeds predict alike.
-/
import Mathlib
import PartialLeastSquares.Proofs.KernelPls.Decomposition
import PartialLeastSquares.Proofs.KernelPls.FixedPoint
import PartialLeastSquares.Proofs.Rescaling.KernelPls

namespace PartialLeastSquares

open Matrix

variable {n p q : ℕ}

/-! ## 1. Unit vectors on a line -/

section UnitVectors

variable {u v : Fin n → ℝ} {a b : ℝ}

theorem exists_sign_of_smul (hu : u ⬝ᵥ u = 1) (hv : v ⬝ᵥ v = 1) (ha : a ≠ 0)
    (h : a • u = b • v) : (a⁻¹ * b) * (a⁻¹ * b) = 1 ∧ u = (a⁻¹ * b) • v := by
  have hline : u = (a⁻¹ * b) • v := by
    rw [mul_smul, ← h, inv_smul_smul₀ ha]
  refine ⟨?_, hline⟩
  rw [hline, smul_dotProduct, dotProduct_smul, hv, smul_eq_mul, smul_eq_mul, mul_one] at hu
  exact hu

theorem eq_of_smul_of_pos (hu : u ⬝ᵥ u = 1) (hv : v ⬝ᵥ v = 1) (ha : 0 < a) (hb : 0 ≤ b)
    (h : a • u = b • v) : u = v := by
  obtain ⟨hsign, hline⟩ := exists_sign_of_smul hu hv ha.ne' h
  have hnonneg : 0 ≤ a⁻¹ * b := mul_nonneg (inv_nonneg.mpr ha.le) hb
  have hone : a⁻¹ * b = 1 := by
    rcases mul_self_eq_one_iff.mp hsign with hone | hminus
    · exact hone
    · linarith
  rw [hline, hone, one_smul]

end UnitVectors

namespace KernelPls

/-! ## 2. Two passes -/

/-- **An iteration that the second pass brings to rest** takes at most two. -/
theorem count_le_of_passes {K : Type} [Scalar K] {tol : Tolerance K}
    {next : Vec K n → Except (NumericalError K) (Pass K n q)}
    (hrest : ∀ u made made', next u = .ok made → next made.responseScore = .ok made' →
      tol.exceededBy made'.change = false) {more done count : ℕ} {u : Vec K n} {last : Pass K n q}
    (h : passes tol next more done u = .ok (last, count)) : count ≤ done + 2 := by
  cases hfirst : next u with
  | error e => cases (passes_error hfirst).symm.trans h
  | ok made =>
    cases hmoved : tol.exceededBy made.change with
    | false =>
      obtain ⟨-, rfl⟩ := Prod.mk.inj (Except.ok.inj ((passes_settled hfirst hmoved).symm.trans h))
      exact Nat.le_succ _
    | true =>
      cases more with
      | zero =>
        obtain ⟨-, rfl⟩ := Prod.mk.inj (Except.ok.inj ((passes_last hfirst).symm.trans h))
        exact Nat.le_succ _
      | succ more =>
        rw [passes_moved hfirst hmoved] at h
        cases hsecond : next made.responseScore with
        | error e => cases (passes_error hsecond).symm.trans h
        | ok made' =>
          obtain ⟨-, rfl⟩ := Prod.mk.inj (Except.ok.inj
            ((passes_settled hsecond (hrest u made made' hfirst hsecond)).symm.trans h))
          exact le_rfl

section OneResponse

variable {r r' : Residual ℝ n 1} {c : Component ℝ n 1}

/-- **Which of the two directions of the response a pass ends at:** the one on the side of its
score. -/
theorem IsPass.direction {u : Vec ℝ n} {made : Pass ℝ n 1} (h : IsPass r u made) :
    ∃ a : ℝ, 0 < a ∧ (made.score.coords ⬝ᵥ r.response.coords) • r.response.coords =
      a • made.responseScore.coords := by
  obtain ⟨a, ha, hresponse⟩ := h.responseScore
  rw [h.responseLoading, mulVec_of_one, transpose_mulVec_of_one, dotProduct_comm] at hresponse
  exact ⟨a, ha, hresponse⟩

/-- **On a positive semidefinite kernel the second pass ends where the first one did.** -/
theorem IsPass.responseScore_eq {u : Vec ℝ n} {made made' : Pass ℝ n 1} (h : IsPass r u made)
    (h' : IsPass r made.responseScore made')
    (hpos : 0 ≤ made.responseScore.coords ⬝ᵥ (r.kernel.matrix *ᵥ made.responseScore.coords)) :
    made'.responseScore.coords = made.responseScore.coords := by
  obtain ⟨a, ha, hfirst⟩ := h.responseScore_one
  obtain ⟨b, hb, hraw⟩ := h'.score
  obtain ⟨d, hd, hsecond⟩ := h'.direction
  rw [h'.raw] at hraw
  have hresponse : r.response.coords = a⁻¹ • made.responseScore.coords := by
    rw [hfirst, inv_smul_smul₀ ha]
  have hscore : made'.score.coords =
      b⁻¹ • (r.kernel.matrix *ᵥ made.responseScore.coords) := by
    rw [hraw, inv_smul_smul₀ hb.ne']
  refine eq_of_smul_of_pos h'.responseScore_unit h.responseScore_unit hd (b := a⁻¹ * a⁻¹ * b⁻¹ *
    (made.responseScore.coords ⬝ᵥ (r.kernel.matrix *ᵥ made.responseScore.coords))) ?_ ?_
  · exact mul_nonneg (mul_nonneg (mul_self_nonneg _) (inv_nonneg.mpr hb.le)) hpos
  · rw [← hsecond, hresponse, hscore, smul_dotProduct, dotProduct_smul, smul_smul,
      dotProduct_comm (r.kernel.matrix *ᵥ _), smul_eq_mul, smul_eq_mul]
    congr 1
    ring

/-- **A step takes at most two passes** if its kernel is positive semidefinite. -/
theorem passes_le_two_of_step {tools : Toolkit ℝ} {settings : Settings ℝ} {kScale yScale : ℝ}
    (hk : 0 ≤ kScale) (htol : ∀ ε, settings.tol = .within ε → 0 < ε) {j : ℕ}
    (h : step tools settings kScale yScale j r = .ok (c, r'))
    (hpos : ∀ v, 0 ≤ v ⬝ᵥ (r.kernel.matrix *ᵥ v)) : c.convergence.passes ≤ 2 := by
  obtain ⟨last, -, hlast, -, -, -⟩ := step_eq_ok_iff.mp h
  refine count_le_of_passes (fun u made made' hfirst hsecond => ?_) hlast
  have hsame := (isPass_of_pass hk hfirst).responseScore_eq (isPass_of_pass hk hsecond) (hpos _)
  have hchange : made'.change = 0 := by
    rw [change_of_pass hsecond, Vec.norm_real, Vec.coords_sub, hsame, sub_self, zero_dotProduct,
      Real.sqrt_zero]
  rw [hchange]
  cases hbound : settings.tol with
  | within ε => exact decide_eq_false (htol ε hbound).le.not_gt
  | boundless => rfl
  | infinite => rfl

end OneResponse

/-- **What is seen through a projector stays positive semidefinite.** -/
theorem SeenThrough.nonneg {K : Matrix (Fin n) (Fin n) ℝ} {Y : Matrix (Fin n) (Fin q) ℝ}
    {A : Matrix (Fin n) (Fin n) ℝ} {r : Residual ℝ n q} (h : SeenThrough K Y A r)
    (hK : K.PosSemidef) (v : Fin n → ℝ) : 0 ≤ v ⬝ᵥ (r.kernel.matrix *ᵥ v) := by
  rw [h.kernel, ← mulVec_mulVec, ← mulVec_mulVec, ← h.isProjector.mulVec_dotProduct]
  exact hK.dotProduct_mulVec_nonneg (A *ᵥ v)

/-- The account of a step that takes two passes at most on such a kernel. -/
def Hurries (r : Residual ℝ n 1) (c : Component ℝ n 1) (r' : Residual ℝ n 1) : Prop :=
  Deflates r c r' ∧ ((∀ v, 0 ≤ v ⬝ᵥ (r.kernel.matrix *ᵥ v)) → c.convergence.passes ≤ 2)

/-- **A chain that starts from a positive semidefinite kernel** takes two passes at most for each
component. -/
theorem SeenThrough.chain_passes_le {K : Matrix (Fin n) (Fin n) ℝ} {Y : Matrix (Fin n) (Fin 1) ℝ}
    {A : Matrix (Fin n) (Fin n) ℝ} {r r' : Residual ℝ n 1} {cs : List (Component ℝ n 1)}
    (hr : SeenThrough K Y A r) (hK : K.PosSemidef) (h : Chain Hurries r cs r') :
    ∀ c ∈ cs, c.convergence.passes ≤ 2 :=
  h.forall_mem (I := fun s => ∃ A, SeenThrough K Y A s) ⟨A, hr⟩ fun _ _ _ ⟨_, hs⟩ hc =>
    ⟨hc.2 (hs.nonneg hK), _, hs.step hc.1⟩

/-! ## 3. Two starts -/

/-- **Two components alike but for a sign,** the same for both scores and for the loading on the
responses. -/
def Component.Opposes (c c' : Component ℝ n q) : Prop :=
  ∃ σ : ℝ, σ * σ = 1 ∧ c'.score.coords = σ • c.score.coords ∧
    c'.responseScore.coords = σ • c.responseScore.coords ∧
    c'.responseLoading.coords = σ • c.responseLoading.coords

/-- **A component of two passes or more:** its score on the response is the direction of the
response on the side of its score. -/
structure Leads (r : Residual ℝ n 1) (c : Component ℝ n 1) (r' : Residual ℝ n 1) : Prop
    extends Extracts r c r' where
  direction : ∃ a : ℝ, 0 < a ∧ (c.score.coords ⬝ᵥ r.response.coords) • r.response.coords =
    a • c.responseScore.coords
  responseScore_unit : c.responseScore.coords ⬝ᵥ c.responseScore.coords = 1

theorem leads_of_step {tools : Toolkit ℝ} {settings : Settings ℝ} {kScale yScale : ℝ}
    (hk : 0 ≤ kScale) {j : ℕ} {r r' : Residual ℝ n 1} {c : Component ℝ n 1}
    (h : step tools settings kScale yScale j r = .ok (c, r'))
    (hpasses : 2 ≤ c.convergence.passes) : Leads r c r' := by
  obtain ⟨u, last, hpass, -, hc, -⟩ := exists_pass_of_step h
  have hpass := isPass_of_pass hk hpass
  refine ⟨extracts_of_step hk h hpasses, ?_, ?_⟩
  · rw [congrArg Component.score hc, congrArg Component.responseScore hc]
    exact hpass.direction
  · rw [congrArg Component.responseScore hc]
    exact hpass.responseScore_unit

/-- What is left of one response is known by its kernel and that response. -/
theorem Residual.ext_one {r s : Residual ℝ n 1} (hkernel : r.kernel.matrix = s.kernel.matrix)
    (hresponse : r.response.coords = s.response.coords) : r = s := by
  have hy : r.y.matrix = s.y.matrix := by rw [r.matrix_y, s.matrix_y, hresponse]
  obtain ⟨kernel, y⟩ := r
  obtain ⟨kernel', y'⟩ := s
  obtain rfl : kernel = kernel' := Mat.matrix_injective hkernel
  obtain rfl : y = y' := Mat.matrix_injective hy
  rfl

/-- **Two components of the same residual are alike but for a sign,** and leave the same. -/
theorem Leads.opposes {r s s' : Residual ℝ n 1} {c c' : Component ℝ n 1} (h : Leads r c s)
    (h' : Leads r c' s') : c.Opposes c' ∧ s = s' := by
  obtain ⟨b, hb, himage⟩ := h.score
  obtain ⟨b', hb', himage'⟩ := h'.score
  obtain ⟨hsign, hscore⟩ := exists_sign_of_smul h'.unit h.unit hb' (himage'.symm.trans himage)
  generalize b'⁻¹ * b = σ at hsign hscore
  have houter : vecMulVec c'.score.coords c'.score.coords =
      vecMulVec c.score.coords c.score.coords := by
    rw [hscore, smul_vecMulVec, vecMulVec_smul, smul_smul, hsign, one_smul]
  refine ⟨⟨σ, hsign, hscore, ?_, ?_⟩, Residual.ext_one ?_ ?_⟩
  · obtain ⟨a, ha, hdirection⟩ := h.direction
    obtain ⟨a', ha', hdirection'⟩ := h'.direction
    refine eq_of_smul_of_pos h'.responseScore_unit ?_ ha' ha.le ?_
    · rw [smul_dotProduct, dotProduct_smul, smul_smul, hsign, one_smul, h.responseScore_unit]
    · rw [← hdirection', hscore, smul_dotProduct, smul_assoc, hdirection, smul_comm]
  · funext i
    rw [Subsingleton.elim i 0, h'.responseLoading, Pi.smul_apply, h.responseLoading, hscore,
      smul_dotProduct]
  · rw [h.kernel, h'.kernel, houter]
  · rw [h.response, h'.response, hscore, smul_dotProduct, smul_smul, smul_eq_mul, mul_right_comm,
      hsign, one_mul]

/-- **Two chains from the same residual are alike but for signs,** component by component. -/
theorem chain_opposes {r s s' : Residual ℝ n 1} {cs cs' : List (Component ℝ n 1)}
    (h : Chain Leads r cs s) (h' : Chain Leads r cs' s') (hlength : cs.length = cs'.length) :
    List.Forall₂ Component.Opposes cs cs' := by
  induction h generalizing cs' with
  | nil =>
    obtain rfl := List.eq_nil_of_length_eq_zero hlength.symm
    exact .nil
  | cons first _ ih =>
    cases h' with
    | nil => cases hlength
    | cons first' rest' =>
      obtain ⟨hopposes, rfl⟩ := first.opposes first'
      exact .cons hopposes (ih rest' (Nat.succ.inj hlength))

end KernelPls

/-! ## 4. Signs -/

section Signs

open scoped Matrix.Norms.L2Operator

variable {m : ℕ} {σ : Fin m → ℝ}

/-- The matrix that multiplies each column by its sign. -/
def signs (σ : Fin m → ℝ) : Mat ℝ m m := Mat.ofMatrix (diagonal σ)

theorem matrix_signs (σ : Fin m → ℝ) : (signs σ).matrix = diagonal σ := Mat.matrix_ofMatrix _

theorem get_mul_signs (a : Mat ℝ n m) (σ : Fin m → ℝ) (i : Fin n) (j : Fin m) :
    (a.mul (signs σ)).get i j = σ j * a.get i j := by
  rw [← Mat.matrix_apply, Mat.matrix_mul, matrix_signs, mul_diagonal, mul_comm]
  rfl

theorem signs_mul_signs (hσ : ∀ j, σ j * σ j = 1) : (signs σ).matrix * (signs σ).matrix = 1 := by
  rw [matrix_signs, diagonal_mul_diagonal, ← diagonal_one]
  exact congrArg diagonal (funext hσ)

theorem norm_signs_le (hσ : ∀ j, σ j * σ j = 1) : ‖(signs σ).matrix‖ ≤ 1 := by
  rw [matrix_signs, l2_opNorm_diagonal]
  refine (pi_norm_le_iff_of_nonneg zero_le_one).mpr fun j => ?_
  rw [Real.norm_eq_abs, abs_le_one_iff_mul_self_le_one, hσ]

/-- **Signs on both sides do not change the length of a matrix.** -/
theorem norm_signs_mul_mul (hσ : ∀ j, σ j * σ j = 1) (a : Matrix (Fin m) (Fin m) ℝ) :
    ‖(signs σ).matrix * a * (signs σ).matrix‖ = ‖a‖ := by
  have hle (b : Matrix (Fin m) (Fin m) ℝ) :
      ‖(signs σ).matrix * b * (signs σ).matrix‖ ≤ ‖b‖ := by
    calc ‖(signs σ).matrix * b * (signs σ).matrix‖
        ≤ ‖(signs σ).matrix‖ * ‖b‖ * ‖(signs σ).matrix‖ :=
          (norm_mul_le _ _).trans (mul_le_mul_of_nonneg_right (norm_mul_le _ _) (norm_nonneg _))
      _ ≤ 1 * ‖b‖ * 1 := by
          gcongr
          · exact norm_signs_le hσ
          · exact norm_signs_le hσ
      _ = ‖b‖ := by rw [one_mul, mul_one]
  refine le_antisymm (hle a) ?_
  have hback := hle ((signs σ).matrix * a * (signs σ).matrix)
  rwa [← Matrix.mul_assoc, ← Matrix.mul_assoc, signs_mul_signs hσ, Matrix.one_mul,
    Matrix.mul_assoc, signs_mul_signs hσ, Matrix.mul_one] at hback

theorem mul_signs_eq_one (hσ : ∀ j, σ j * σ j = 1) {a b : Matrix (Fin m) (Fin m) ℝ}
    (h : a * b = 1) : ((signs σ).matrix * a * (signs σ).matrix) *
      ((signs σ).matrix * b * (signs σ).matrix) = 1 := by
  calc ((signs σ).matrix * a * (signs σ).matrix) * ((signs σ).matrix * b * (signs σ).matrix)
      = (signs σ).matrix * a * ((signs σ).matrix * (signs σ).matrix) * b * (signs σ).matrix := by
        simp only [Matrix.mul_assoc]
    _ = 1 := by
        rw [signs_mul_signs hσ, Matrix.mul_one, Matrix.mul_assoc _ a, h, Matrix.mul_one,
          signs_mul_signs hσ]

variable {tools : Toolkit ℝ}

/-- **A matrix with signs on both sides is inverted if and only if the matrix is,** and otherwise
refused for the same reason. -/
theorem invert_signs (ht : tools.ExactInverse) (hcond : tools.ExactCondition)
    (hσ : ∀ j, σ j * σ j = 1) (what : Quantity) (a : Mat ℝ m m) :
    invert tools what (((signs σ).mul a).mul (signs σ)) =
      (invert tools what a).map fun b => ((signs σ).mul b).mul (signs σ) := by
  have hsigned (b : Mat ℝ m m) : (((signs σ).mul b).mul (signs σ)).matrix =
      (signs σ).matrix * b.matrix * (signs σ).matrix := by
    rw [Mat.matrix_mul, Mat.matrix_mul]
  have htwice (b : Mat ℝ m m) :
      ((signs σ).mul (((signs σ).mul b).mul (signs σ))).mul (signs σ) = b := by
    refine Mat.matrix_injective ?_
    rw [hsigned, hsigned, ← Matrix.mul_assoc, ← Matrix.mul_assoc, signs_mul_signs hσ,
      Matrix.one_mul, Matrix.mul_assoc, signs_mul_signs hσ, Matrix.mul_one]
  have hinverse : tools.inverse (((signs σ).mul a).mul (signs σ)) =
      (tools.inverse a).map fun b => ((signs σ).mul b).mul (signs σ) := by
    refine Option.ext fun b => ?_
    rw [ht.inverse_eq_some_iff, Option.map_eq_some_iff]
    constructor
    · intro h
      refine ⟨((signs σ).mul b).mul (signs σ), (ht.inverse_eq_some_iff _ _).mpr ?_, htwice b⟩
      have hback := mul_signs_eq_one hσ h
      rwa [← hsigned, ← hsigned, htwice] at hback
    · rintro ⟨b, hb, rfl⟩
      rw [hsigned, hsigned]
      exact mul_signs_eq_one hσ ((ht.inverse_eq_some_iff a b).mp hb)
  unfold invert
  simp only [Mat.all_isFinite_real, Bool.not_true, Bool.false_eq_true, if_false]
  rw [hinverse]
  cases hsome : tools.inverse a with
  | none => rfl
  | some b =>
    have hab := (ht.inverse_eq_some_iff a b).mp hsome
    have hsignedInverse := mul_signs_eq_one hσ hab
    have hcondition : tools.condition (((signs σ).mul a).mul (signs σ)) = tools.condition a := by
      rw [← hsigned, ← hsigned] at hsignedInverse
      rw [hcond.condition_eq a (isUnit_det_of_right_inverse hab),
        hcond.condition_eq _ (isUnit_det_of_right_inverse hsignedInverse),
        inv_eq_right_inv hsignedInverse, inv_eq_right_inv hab, hsigned, hsigned,
        norm_signs_mul_mul hσ, norm_signs_mul_mul hσ]
    simp only [Option.map_some, hcondition]
    split <;> rfl

end Signs

namespace KernelPls

/-! ## 5. Fits from different seeds -/

/-- **The signs cancel in the matrix by which a kernel is multiplied to predict.** -/
theorem dualOf_signs {tools : Toolkit ℝ} (ht : tools.ExactInverse) (hcond : tools.ExactCondition)
    {count : ℕ} {σ : Fin count → ℝ} (hσ : ∀ j, σ j * σ j = 1) (kernel : Mat ℝ n n)
    (t u : Mat ℝ n count) (l : Mat ℝ q count) :
    dualOf tools kernel (t.mul (signs σ)) (u.mul (signs σ)) (l.mul (signs σ)) =
      dualOf tools kernel t u l := by
  have htranspose : (signs σ).matrixᵀ = (signs σ).matrix := by
    rw [matrix_signs, diagonal_transpose]
  have hinner : ((t.mul (signs σ)).tmul kernel).mul (u.mul (signs σ)) =
      ((signs σ).mul ((t.tmul kernel).mul u)).mul (signs σ) := by
    refine Mat.matrix_injective ?_
    simp only [Mat.matrix_mul, Mat.matrix_tmul, transpose_mul, htranspose, Matrix.mul_assoc]
  have hcancel (c : Matrix (Fin count) (Fin q) ℝ) :
      (signs σ).matrix * ((signs σ).matrix * c) = c := by
    rw [← Matrix.mul_assoc, signs_mul_signs hσ, Matrix.one_mul]
  have houter (b : Mat ℝ count count) :
      (u.mul (signs σ)).mul (Mat.mulT (((signs σ).mul b).mul (signs σ)) (l.mul (signs σ))) =
        u.mul (Mat.mulT b l) := by
    refine Mat.matrix_injective ?_
    simp only [Mat.matrix_mul, Mat.matrix_mulT, transpose_mul, htranspose, Matrix.mul_assoc,
      hcancel]
  unfold dualOf
  rw [hinner, invert_signs ht hcond hσ]
  cases invert tools .scoresByScores ((t.tmul kernel).mul u) with
  | error e => simp only [Except.map]
  | ok b => simp only [Except.map, houter]

theorem exists_signs {cs cs' : List (Component ℝ n q)} (h : List.Forall₂ Component.Opposes cs cs') :
    ∃ σ : Fin cs.length → ℝ, (∀ j, σ j * σ j = 1) ∧
      HEq (scores cs') ((scores cs).mul (signs σ)) ∧
      HEq (responseScores cs') ((responseScores cs).mul (signs σ)) ∧
      HEq (responseLoadings cs') ((responseLoadings cs).mul (signs σ)) := by
  obtain ⟨hlength, hget⟩ := List.forall₂_iff_get.mp h
  have hsign (j : Fin cs.length) : (cs.get j).Opposes (cs'.get (j.cast hlength)) :=
    hget j.val j.isLt (hlength ▸ j.isLt)
  choose σ hσ hscore hresponseScore hloading using hsign
  have hcolumns {k : ℕ} {f : Component ℝ n q → Vec ℝ k}
      (hf : ∀ j, (f (cs'.get (j.cast hlength))).coords = σ j • (f (cs.get j)).coords) :
      HEq (Mat.ofCols cs' f) ((Mat.ofCols cs f).mul (signs σ)) := by
    refine Mat.heq_of_get hlength.symm fun i j => ?_
    rw [get_mul_signs, Mat.get_ofCols, Mat.get_ofCols]
    exact congrFun (hf (j.cast hlength.symm)) i
  exact ⟨σ, hσ, hcolumns hscore, hcolumns hresponseScore, hcolumns hloading⟩

/-- **Components that are alike but for signs make the same predictions:** if a fit is made of one
list, one is made of the other. -/
theorem exists_fit_of_opposes {tools : Toolkit ℝ} (ht : tools.ExactInverse)
    (hcond : tools.ExactCondition) {data : Prepared ℝ n p q} {cs cs' : List (Component ℝ n q)}
    (h : List.Forall₂ Component.Opposes cs cs') {r r' : Residual ℝ n q} {f : Fit ℝ n p q}
    (hfit : fit tools data cs r = .ok f) : ∃ f', fit tools data cs' r' = .ok f' ∧
      ∀ {m : ℕ} (new : Mat ℝ m p), f'.predict new = f.predict new := by
  obtain ⟨σ, hσ, hscores, hresponseScores, hloadings⟩ := exists_signs h
  obtain ⟨b, hb, rfl⟩ := fit_eq_ok_iff.mp hfit
  have hdual : (coefficients tools data.centered cs').map (fun c => (responseScores cs').mul c) =
      .ok ((responseScores cs).mul b) := by
    rw [map_coefficients, dualOf_congr h.length_eq.symm hscores hresponseScores hloadings,
      dualOf_signs ht hcond hσ, ← map_coefficients, hb]
    rfl
  cases hb' : coefficients tools data.centered cs' with
  | error e =>
    rw [hb'] at hdual
    cases hdual
  | ok b' =>
    rw [hb'] at hdual
    refine ⟨_, fit_eq_ok_iff.mpr ⟨b', hb', rfl⟩, fun new => ?_⟩
    have hsame : (responseScores cs').mul b' = (responseScores cs).mul b := Except.ok.inj hdual
    rw [predict_eq_dual, predict_eq_dual, Fit.dual, Fit.dual]
    dsimp only
    rw [hsame]

namespace Completes

variable {tools : Toolkit ℝ} {settings settings' : Settings ℝ} {kernel : Kernel} {x : Mat ℝ n p}
  {y : Mat ℝ n 1} {count : ℕ} {data : Prepared ℝ n p 1} {cs cs' : List (Component ℝ n 1)}
  {r r' : Residual ℝ n 1}

/-- **Two passes are enough,** if the kernel of the training rows is positive semidefinite. -/
theorem passes_le_two (h : Completes tools settings kernel x y count data cs r)
    (hraw : data.raw.matrix.PosSemidef) (htol : ∀ ε, settings.tol = .within ε → 0 < ε) :
    ∀ c ∈ cs, c.convergence.passes ≤ 2 := by
  have hcentered : data.centered.matrix.PosSemidef := by
    obtain ⟨stats, -, hdata⟩ := h.prepared
    obtain ⟨-, -, fn, -, rfl⟩ := prepare_kernel_eq_ok_iff.mp hdata
    have hsymm : (centering n : Mat ℝ n n).matrixᴴ = (centering n).matrix := by
      rw [conjTranspose_eq_transpose_of_trivial, centering, Mat.matrix_sub, Mat.matrix_identity,
        Mat.matrix_const, transpose_sub, transpose_one]
      rfl
    have hboth := hraw.mul_mul_conjTranspose_same (centering n).matrix
    rw [hsymm] at hboth
    show (centerKernel _).matrix.PosSemidef
    rw [centerKernel, Mat.matrix_mul, Mat.matrix_mul]
    exact hboth
  refine (seenThrough_start ⟨data.centered, data.y⟩).chain_passes_le hcentered (h.chain ?_)
  exact fun j s c s' hstep => ⟨deflates_of_step data.centered.norm_nonneg hstep,
    passes_le_two_of_step data.centered.norm_nonneg htol hstep⟩

theorem chain_leads (h : Completes tools settings kernel x y count data cs r)
    (hpasses : ∀ c ∈ cs, c.convergence.passes = 2) :
    Chain Leads ⟨data.centered, data.y⟩ cs r :=
  (h.chain fun _ _ _ _ => leads_of_step data.centered.norm_nonneg).imp
    fun _ c _ hc hstep => hstep (hpasses c hc).ge

/-- **From different seeds the components are alike but for signs.** -/
theorem opposes (h : Completes tools settings kernel x y count data cs r)
    (h' : Completes tools settings' kernel x y count data cs' r')
    (hpasses : ∀ c ∈ cs, c.convergence.passes = 2)
    (hpasses' : ∀ c ∈ cs', c.convergence.passes = 2) : List.Forall₂ Component.Opposes cs cs' :=
  chain_opposes (h.chain_leads hpasses) (h'.chain_leads hpasses')
    (h.length_eq.trans h'.length_eq.symm)

end Completes

/-- **One response and a positive semidefinite kernel.**  With a positive tolerance every component
is found after two passes at most.  Two seeds from which every component takes two passes find the
same components but for signs; and if the fit of the one succeeds, then so does that of the other,
with the same predictions for any rows. -/
theorem seeds_agree {tools : Toolkit ℝ} (ht : tools.ExactInverse) (hcond : tools.ExactCondition)
    {settings : Settings ℝ} {kernel : Kernel} {x : Mat ℝ n p} {y : Mat ℝ n 1} {count : ℕ}
    {data : Prepared ℝ n p 1} {cs : List (Component ℝ n 1)} {r : Residual ℝ n 1}
    (h : Completes tools settings kernel x y count data cs r)
    (hraw : data.raw.matrix.PosSemidef) (htol : ∀ ε, settings.tol = .within ε → 0 < ε) :
    (∀ c ∈ cs, c.convergence.passes ≤ 2) ∧
      ∀ (seed : ℕ) (cs' : List (Component ℝ n 1)) (r' : Residual ℝ n 1),
        Completes tools { settings with seed := seed } kernel x y count data cs' r' →
        (∀ c ∈ cs, c.convergence.passes = 2) → (∀ c ∈ cs', c.convergence.passes = 2) →
        List.Forall₂ Component.Opposes cs cs' ∧
          ∀ f, fit tools data cs r = .ok f → ∃ f', fit tools data cs' r' = .ok f' ∧
            ∀ (m : ℕ) (new : Mat ℝ m p), f'.predict new = f.predict new := by
  refine ⟨h.passes_le_two hraw htol, fun seed cs' r' h' hpasses hpasses' => ?_⟩
  have hopposes := h.opposes h' hpasses hpasses'
  refine ⟨hopposes, fun f hfit => ?_⟩
  obtain ⟨f', hfit', hpredict⟩ := exists_fit_of_opposes ht hcond hopposes hfit
  exact ⟨f', hfit', fun m new => hpredict new⟩

open TwoScores in
/-- Two seeds that find the first component of four rows on opposite sides. -/
theorem seeds_agree_two_scores : ∃ cs cs' r r' f f',
    Completes tools ⟨.within 1, 2, 0⟩ .linear x (Mat.ofCol y) 2 data cs r ∧
      Completes tools ⟨.within 1, 2, 2⟩ .linear x (Mat.ofCol y) 2 data cs' r' ∧
      (∀ c ∈ cs, c.convergence.passes = 2) ∧ (∀ c ∈ cs', c.convergence.passes = 2) ∧
      data.raw.matrix.PosSemidef ∧ List.Forall₂ Component.Opposes cs cs' ∧
      fit tools data cs r = .ok f ∧ fit tools data cs' r' = .ok f' ∧
      ∀ (m : ℕ) (new : Mat ℝ m 2), f'.predict new = f.predict new := by
  obtain ⟨c, d, r, hfound, hcompletes⟩ := exists_completes starts_zero
  obtain ⟨c', d', r', hfound', hcompletes'⟩ := exists_completes starts_two
  obtain ⟨f, hfit⟩ := hfound.exists_fit starts_zero.sign r
  have hpasses : ∀ e ∈ [c, d], e.convergence.passes = 2 := fun e he => by
    rw [hfound.convergence e he]
  have hpasses' : ∀ e ∈ [c', d'], e.convergence.passes = 2 := fun e he => by
    rw [hfound'.convergence e he]
  have htol : ∀ ε : ℝ, Tolerance.within (1 : ℝ) = .within ε → 0 < ε := by
    rintro _ ⟨⟩
    exact one_pos
  have hraw : data.raw.matrix.PosSemidef := posSemidef_gram_linear x
  obtain ⟨-, hseeds⟩ := seeds_agree tools_exact.toExactInverse Toolkit.exact_exactCondition
    hcompletes hraw htol
  obtain ⟨hopposes, hfits⟩ := hseeds 2 _ r' hcompletes' hpasses hpasses'
  obtain ⟨f', hfit', hpredict⟩ := hfits f hfit
  exact ⟨_, _, r, r', f, f', hcompletes, hcompletes', hpasses, hpasses', hraw, hopposes,
    hfit, hfit', hpredict⟩

end KernelPls

end PartialLeastSquares
