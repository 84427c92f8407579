/-
# The components from cross-products, exactly

One step of the loop in `SIMPLS.fit_state` takes its weight along what is left of the covariance,
scales it to a score of length one, and removes from the projector the direction of its loading
(`Extracts`).  The cross-products are deflated as well, and the induction shows that this makes no
difference: on the vectors that the projector leaves alone the deflated cross-product is the whole
one (`Tracks.predictors`).

The weights of all later components are left alone by the projector of an earlier one
(`chain_projected`), which makes their scores orthogonal to the earlier ones.
-/
import Mathlib
import PartialLeastSquares.Method.Simpls
import PartialLeastSquares.Proofs.Chain
import PartialLeastSquares.Proofs.Exact.Columns
import PartialLeastSquares.Proofs.Exact.Guard
import PartialLeastSquares.Proofs.LeastSquares
import PartialLeastSquares.Proofs.Outcome
import PartialLeastSquares.Proofs.Projector

namespace PartialLeastSquares.Simpls

open Matrix

variable {n p : ℕ}

/-! ## 1. One step -/

/-- **What a step does, exactly.** The weight lies along the covariance, and its score has length
one; both loadings are read off the cross-products.  The projector loses the direction of the
loading, the covariance is projected, and the cross-product of the predictors is deflated. -/
structure Extracts (r : Cross ℝ p) (c : Component ℝ p) (r' : Cross ℝ p) : Prop where
  covariance : ∃ a : ℝ, a ≠ 0 ∧ r.response.coords = a • c.weight.coords
  unit : c.weight.coords ⬝ᵥ (r.predictors.matrix *ᵥ c.weight.coords) = 1
  loading : c.loading.coords = r.predictors.matrix *ᵥ c.weight.coords
  responseLoading : c.responseLoading = r.response.coords ⬝ᵥ c.weight.coords
  projector : ∃ (b : ℝ) (v : Fin p → ℝ), 0 < b ∧ v ⬝ᵥ v = 1 ∧
    r.projector.matrix *ᵥ c.loading.coords = b • v ∧
    r'.projector.matrix = r.projector.matrix - vecMulVec v v
  response : r'.response.coords = r'.projector.matrix *ᵥ r.response.coords
  predictors : r'.predictors.matrix =
    r.predictors.matrix - vecMulVec c.loading.coords c.loading.coords

/-- With one response the dominant eigenvector has one entry. -/
def direction {K : Type} [Scalar K] (tools : Toolkit K) (j : ℕ) (r : Cross K p) : K :=
  (tools.eigenvector j (Mat.ofFn fun (_ _ : Fin 1) => r.response.normSq)).only

theorem direction_mul_self {tools : Toolkit ℝ} (ht : tools.Exact) (j : ℕ) (r : Cross ℝ p) :
    direction tools j r * direction tools j r = 1 := by
  have hsymm : (Mat.ofFn fun (_ _ : Fin 1) => r.response.normSq).matrix.IsSymm := by
    ext i l
    rw [Subsingleton.elim i l, transpose_apply]
  have hunit := (ht.eigenvector_isDominant j _ Nat.one_pos hsymm).1
  rwa [dotProduct, Fin.sum_univ_one] at hunit

/-- **When a step succeeds,** and with what: the weight and the direction of the loading pass their
guards, and so does the length of the weight in the metric of the cross-product. -/
theorem step_eq_ok_iff {tools : Toolkit ℝ} {xScale yScale : ℝ} {j : ℕ} {r r' : Cross ℝ p}
    {c : Component ℝ p} : step tools xScale yScale j r = .ok (c, r') ↔
      ∃ raw v : Vec ℝ p,
        normalize (.weight j) (r.response.scale (direction tools j r)) (xScale * yScale) =
          .ok raw ∧
        Scalar.zeroNorm * (xScale * xScale) < (r.predictors.applyT raw).dot raw ∧
        normalize (.deflationDirection j) (r.projector.apply c.loading) xScale = .ok v ∧
        c = ⟨raw.dividedBy (√((r.predictors.applyT raw).dot raw)), r.predictors.apply c.weight,
          r.response.dot c.weight⟩ ∧
        r' = ⟨r'.projector.apply r.response, r.predictors.sub (Mat.outer c.loading c.loading),
          r.projector.sub (Mat.outer v v)⟩ := by
  constructor
  · intro h
    unfold step at h
    obtain ⟨_, hdirection, h⟩ := bind_eq_ok_iff.mp h
    obtain rfl := Except.ok.inj ((dominantEigenvector_real _ _ _).symm.trans hdirection)
    obtain ⟨raw, hraw, h⟩ := bind_eq_ok_iff.mp h
    dsimp only at h
    split at h
    · obtain ⟨_, hthrow, _⟩ := bind_eq_ok_iff.mp h
      cases hthrow
    · rename_i hlength
      simp only [Scalar.isFinite_real, Bool.not_true, Bool.false_or, decide_eq_true_eq, not_le]
        at hlength
      obtain ⟨v, hv, h⟩ := bind_eq_ok_iff.mp h
      obtain ⟨rfl, rfl⟩ := Prod.mk.inj (Except.ok.inj h)
      exact ⟨raw, v, hraw, hlength, hv, rfl, rfl⟩
  · rintro ⟨raw, v, hraw, hlength, hv, hc, hr'⟩
    obtain ⟨weight, loading, responseLoading⟩ := c
    obtain ⟨response, predictors, projector⟩ := r'
    dsimp only at hc hr' hv
    obtain ⟨rfl, rfl, rfl⟩ := Component.mk.inj hc
    obtain ⟨rfl, rfl, rfl⟩ := Cross.mk.inj hr'
    have hguard : ¬ (!Scalar.isFinite ((r.predictors.applyT raw).dot raw) ||
        decide ((r.predictors.applyT raw).dot raw ≤
          Scalar.zeroNorm * (xScale * xScale))) = true := by
      simp only [Scalar.isFinite_real, Bool.not_true, Bool.false_or, decide_eq_true_eq, not_le]
      exact hlength
    unfold step
    rw [dominantEigenvector_real]
    refine bind_eq_ok_iff.mpr ⟨_, rfl, bind_eq_ok_iff.mpr ⟨raw, hraw, ?_⟩⟩
    dsimp only
    rw [if_neg hguard]
    exact bind_eq_ok_iff.mpr ⟨v, hv, rfl⟩

/-- **A step that succeeds is one,** whatever the sign of its eigenvector. -/
theorem extracts_of_step {tools : Toolkit ℝ} (ht : tools.Exact) {xScale yScale : ℝ}
    (hx : 0 ≤ xScale) (hy : 0 ≤ yScale) {j : ℕ} {r r' : Cross ℝ p} {c : Component ℝ p}
    (h : step tools xScale yScale j r = .ok (c, r')) : Extracts r c r' := by
  obtain ⟨raw, v, hraw, hlength, hv, hc, hr'⟩ := step_eq_ok_iff.mp h
  have hdirection := left_ne_zero_of_mul_eq_one (direction_mul_self ht j r)
  obtain ⟨hnorm, hrawScale, -⟩ := normalize_ok (mul_nonneg hx hy) hraw
  obtain ⟨hdeflation, hvScale, hvUnit⟩ := normalize_ok hx hv
  have hpos : 0 < (r.predictors.applyT raw).dot raw :=
    lt_of_le_of_lt (mul_nonneg Scalar.zeroNorm_pos.le (mul_nonneg hx hx)) hlength
  have hsquare : (r.predictors.applyT raw).dot raw =
      raw.coords ⬝ᵥ (r.predictors.matrix *ᵥ raw.coords) := by
    rw [Vec.dot_real, Mat.coords_applyT, mulVec_dotProduct_eq, transpose_transpose]
  generalize (r.predictors.applyT raw).dot raw = L at hc hpos hsquare
  have hroot : 0 < √L := Real.sqrt_pos.mpr hpos
  have hweight : c.weight.coords = (√L)⁻¹ • raw.coords := by
    rw [hc, Vec.coords_dividedBy]
  generalize direction tools j r = d at *
  refine ⟨⟨d⁻¹ * ((r.response.scale d).norm * √L), ?_, ?_⟩, ?_, ?_, ?_,
    ⟨_, v.coords, hdeflation, hvUnit, ?_, ?_⟩, ?_, ?_⟩
  · exact mul_ne_zero (inv_ne_zero hdirection) (mul_ne_zero hnorm.ne' hroot.ne')
  · rw [Vec.coords_scale] at hrawScale
    rw [hweight, smul_smul, mul_assoc, mul_assoc, mul_inv_cancel₀ hroot.ne', mul_one, ← smul_smul,
      ← hrawScale, inv_smul_smul₀ hdirection]
  · rw [hweight, mulVec_smul, smul_dotProduct, dotProduct_smul, ← hsquare, smul_eq_mul,
      smul_eq_mul, ← mul_assoc, ← mul_inv, Real.mul_self_sqrt hpos.le, inv_mul_cancel₀ hpos.ne']
  · rw [congrArg Component.loading hc, Mat.coords_apply]
  · rw [congrArg Component.responseLoading hc, Vec.dot_real]
  · rw [← Mat.coords_apply, hvScale]
  · rw [congrArg Cross.projector hr', Mat.matrix_sub, Mat.matrix_outer]
  · rw [congrArg Cross.response hr', Mat.coords_apply]
  · rw [congrArg Cross.predictors hr', Mat.matrix_sub, Mat.matrix_outer]

/-- **A step that can be made:** `w` is the unit direction of the covariance, of length `l` in the
metric of the cross-product, and `v` that of the loading.  The sign of the eigenvector drops out of
what is left. -/
theorem exists_step {tools : Toolkit ℝ} (ht : tools.Exact) {xScale yScale : ℝ} (hx : 0 ≤ xScale)
    (hy : 0 ≤ yScale) (j : ℕ) {r : Cross ℝ p} {w v : Fin p → ℝ} {a b l : ℝ}
    (hw : w ⬝ᵥ w = 1) (hcovariance : r.response.coords = a • w)
    (ha : Scalar.zeroNorm * (xScale * yScale) < a) (hl : 0 < l)
    (hmetric : w ⬝ᵥ (r.predictors.matrix *ᵥ w) = l * l)
    (hlength : Scalar.zeroNorm * (xScale * xScale) < l * l) (hv : v ⬝ᵥ v = 1)
    (hloading : r.projector.matrix *ᵥ (r.predictors.matrix *ᵥ w) = (l * b) • v)
    (hb : Scalar.zeroNorm * xScale < b) :
    ∃ c r', step tools xScale yScale j r = .ok (c, r') ∧
      r'.response.coords =
        (r.projector.matrix - vecMulVec v v) *ᵥ r.response.coords ∧
      r'.predictors.matrix = r.predictors.matrix -
        (l * l)⁻¹ • vecMulVec (r.predictors.matrix *ᵥ w) (r.predictors.matrix *ᵥ w) ∧
      r'.projector.matrix = r.projector.matrix - vecMulVec v v := by
  have hd := direction_mul_self ht j r
  have hstep := @step_eq_ok_iff p tools xScale yScale j r
  generalize direction tools j r = d at hd hstep
  have hsigned {u : Fin p → ℝ} (hu : u ⬝ᵥ u = 1) : (d • u) ⬝ᵥ (d • u) = 1 := by
    rw [smul_dotProduct, dotProduct_smul, hu, smul_eq_mul, smul_eq_mul, mul_one, hd]
  have hraw : normalize (.weight j) (r.response.scale d) (xScale * yScale) =
      .ok (Vec.ofFn (d • w)) := by
    refine normalize_of_smul (a := a) ?_ (by rw [Vec.coords_ofFn, hsigned hw])
      (mul_nonneg hx hy) ha
    rw [Vec.coords_scale, Vec.coords_ofFn, hcovariance, smul_comm]
  have hsquare : (r.predictors.applyT (Vec.ofFn (d • w))).dot (Vec.ofFn (d • w)) = l * l := by
    rw [Vec.dot_real, Mat.coords_applyT, mulVec_dotProduct_eq, transpose_transpose,
      Vec.coords_ofFn, mulVec_smul, smul_dotProduct, dotProduct_smul, smul_smul, hd, one_smul,
      hmetric]
  let weight := (Vec.ofFn (d • w)).dividedBy l
  let loading := r.predictors.apply weight
  have hloaded : loading.coords = (d * l⁻¹) • (r.predictors.matrix *ᵥ w) := by
    rw [Mat.coords_apply, Vec.coords_dividedBy, Vec.coords_ofFn, mulVec_smul, mulVec_smul,
      smul_smul, mul_comm]
  have hnormal : normalize (.deflationDirection j) (r.projector.apply loading) xScale =
      .ok (Vec.ofFn (d • v)) := by
    refine normalize_of_smul (a := b) ?_ (by rw [Vec.coords_ofFn, hsigned hv]) hx hb
    rw [Mat.coords_apply, hloaded, mulVec_smul, hloading, Vec.coords_ofFn, smul_smul, smul_smul,
      mul_assoc, inv_mul_cancel_left₀ hl.ne', mul_comm]
  have hprojector : (r.projector.sub
      (Mat.outer (Vec.ofFn (d • v)) (Vec.ofFn (d • v)))).matrix =
        r.projector.matrix - vecMulVec v v := by
    rw [Mat.matrix_sub, Mat.matrix_outer, Vec.coords_ofFn, smul_vecMulVec, vecMulVec_smul,
      smul_smul, hd, one_smul]
  refine ⟨⟨weight, loading, r.response.dot weight⟩,
    ⟨(r.projector.sub (Mat.outer (Vec.ofFn (d • v)) (Vec.ofFn (d • v)))).apply r.response,
      r.predictors.sub (Mat.outer loading loading),
      r.projector.sub (Mat.outer (Vec.ofFn (d • v)) (Vec.ofFn (d • v)))⟩,
    hstep.mpr ⟨Vec.ofFn (d • w), Vec.ofFn (d • v), hraw, ?_, hnormal, ?_, rfl⟩, ?_, ?_, hprojector⟩
  · rw [hsquare]
    exact hlength
  · rw [hsquare, Real.sqrt_mul_self hl.le]
  · rw [Mat.coords_apply, hprojector]
  · rw [Mat.matrix_sub, Mat.matrix_outer, hloaded, smul_vecMulVec, vecMulVec_smul, smul_smul,
      mul_mul_mul_comm, hd, one_mul, mul_inv]

/-! ## 2. The invariant -/

/-- **What the cross-products stand for** after `k` components: a projector has been applied to
the covariance; on the vectors that it leaves alone the deflated cross-product of the predictors
is the whole one; and what it removes lies in the Krylov space. -/
structure Tracks (X : Matrix (Fin n) (Fin p) ℝ) (y : Fin n → ℝ) (k : ℕ) (r : Cross ℝ p) :
    Prop where
  isProjector : IsProjector r.projector.matrix
  response : r.response.coords = r.projector.matrix *ᵥ (Xᵀ *ᵥ y)
  predictors : ∀ u, r.projector.matrix *ᵥ u = u →
    r.predictors.matrix *ᵥ u = Xᵀ *ᵥ (X *ᵥ u)
  removed : ∀ u, u - r.projector.matrix *ᵥ u ∈ krylov X y (k + 1)

theorem tracks_start (x : Mat ℝ n p) (y : Vec ℝ n) :
    Tracks x.matrix y.coords 0 (Cross.start x y) where
  isProjector := by
    rw [Cross.start, Mat.matrix_identity]; exact .one
  response := by
    rw [Cross.start, Mat.matrix_identity, one_mulVec, Mat.coords_applyT]
  predictors u _ := by
    rw [Cross.start, Mat.matrix_tmul, mulVec_mulVec]
  removed u := by
    rw [Cross.start, Mat.matrix_identity, one_mulVec, sub_self]
    exact Submodule.zero_mem _

section Steps

variable {X : Matrix (Fin n) (Fin p) ℝ} {y : Fin n → ℝ} {k : ℕ} {r r' : Cross ℝ p}
  {c : Component ℝ p}

namespace Tracks

theorem projector_weight (h : Tracks X y k r) (hc : Extracts r c r') :
    r.projector.matrix *ᵥ c.weight.coords = c.weight.coords := by
  obtain ⟨a, ha, hcov⟩ := hc.covariance
  have hresponse : r.projector.matrix *ᵥ r.response.coords = r.response.coords := by
    rw [h.response, h.isProjector.mulVec_mulVec]
  rw [hcov, mulVec_smul] at hresponse
  exact smul_right_injective _ ha hresponse

theorem loading_eq (h : Tracks X y k r) (hc : Extracts r c r') :
    c.loading.coords = Xᵀ *ᵥ (X *ᵥ c.weight.coords) := by
  rw [hc.loading, h.predictors _ (h.projector_weight hc)]

theorem score_unit (h : Tracks X y k r) (hc : Extracts r c r') :
    (X *ᵥ c.weight.coords) ⬝ᵥ (X *ᵥ c.weight.coords) = 1 := by
  rw [mulVec_dotProduct_eq, ← h.predictors _ (h.projector_weight hc), hc.unit]

/-- The loading of the response is what the score explains of the whole response. -/
theorem responseLoading_eq (h : Tracks X y k r) (hc : Extracts r c r') :
    c.responseLoading = (X *ᵥ c.weight.coords) ⬝ᵥ y := by
  rw [hc.responseLoading, h.response, h.isProjector.mulVec_dotProduct, h.projector_weight hc,
    dotProduct_comm, mulVec_dotProduct_eq]

theorem weight_mem (h : Tracks X y k r) (hc : Extracts r c r') :
    c.weight.coords ∈ krylov X y (k + 1) := by
  obtain ⟨a, ha, hcov⟩ := hc.covariance
  have hmem : a • c.weight.coords ∈ krylov X y (k + 1) := by
    have hsplit : r.response.coords =
        Xᵀ *ᵥ y - (Xᵀ *ᵥ y - r.projector.matrix *ᵥ (Xᵀ *ᵥ y)) := by
      rw [h.response, sub_sub_cancel]
    rw [← hcov, hsplit]
    exact Submodule.sub_mem _ covariance_mem_krylov (h.removed _)
  exact (Submodule.smul_mem_iff _ ha).mp hmem

/-- **A step keeps the invariant,** and what its smaller projector leaves alone, the larger one
left alone and the loading does not see. -/
theorem step (h : Tracks X y k r) (hc : Extracts r c r') :
    Tracks X y (k + 1) r' ∧ ∀ u, r'.projector.matrix *ᵥ u = u →
      r.projector.matrix *ᵥ u = u ∧ c.loading.coords ⬝ᵥ u = 0 := by
  obtain ⟨b, v, hb, hunit, hdirection, hprojector⟩ := hc.projector
  have hv : r.projector.matrix *ᵥ v = v := by
    have hbv : b • (r.projector.matrix *ᵥ v) = b • v := by
      rw [← mulVec_smul, ← hdirection, h.isProjector.mulVec_mulVec]
    exact smul_right_injective _ hb.ne' hbv
  have hleft : ∀ u, r'.projector.matrix *ᵥ u = u →
      r.projector.matrix *ᵥ u = u ∧ c.loading.coords ⬝ᵥ u = 0 := fun u hu => by
    rw [hprojector] at hu
    obtain ⟨hfixed, hdot⟩ := h.isProjector.of_remove hv hunit hu
    refine ⟨hfixed, ?_⟩
    rw [← hfixed, ← h.isProjector.mulVec_dotProduct, hdirection, smul_dotProduct, hdot, smul_zero]
  refine ⟨⟨?_, ?_, fun u hu => ?_, fun u => ?_⟩, hleft⟩
  · rw [hprojector]
    exact h.isProjector.remove hv hunit
  · rw [hc.response, h.response, hprojector, mulVec_mulVec, h.isProjector.sub_vecMulVec_mul hv]
  · obtain ⟨hfixed, hdot⟩ := hleft u hu
    rw [hc.predictors, sub_mulVec, vecMulVec_mulVec, hdot, op_smul_eq_smul, zero_smul, sub_zero,
      h.predictors u hfixed]
  · have hmono : krylov X y (k + 1) ≤ krylov X y (k + 2) := krylov_mono (Nat.le_succ _)
    have hloading : c.loading.coords ∈ krylov X y (k + 2) := by
      rw [h.loading_eq hc]
      exact mulVec_mem_krylov_succ (h.weight_mem hc)
    have hmem : v ∈ krylov X y (k + 2) := by
      have hbv : b • v ∈ krylov X y (k + 2) := by
        rw [← hdirection, ← sub_sub_cancel c.loading.coords (r.projector.matrix *ᵥ _)]
        exact Submodule.sub_mem _ hloading (hmono (h.removed _))
      exact (Submodule.smul_mem_iff _ hb.ne').mp hbv
    have hsplit : u - r'.projector.matrix *ᵥ u =
        (u - r.projector.matrix *ᵥ u) + (v ⬝ᵥ u) • v := by
      rw [hprojector, IsProjector.sub_vecMulVec_mulVec]
      abel
    rw [hsplit]
    exact Submodule.add_mem _ (hmono (h.removed u)) (Submodule.smul_mem _ _ hmem)

end Tracks

end Steps

/-! ## 3. Chains -/

section Chains

variable {X : Matrix (Fin n) (Fin p) ℝ} {y : Fin n → ℝ} {r r' : Cross ℝ p}
  {cs : List (Component ℝ p)}

/-- **The projector leaves all weights alone that follow.** -/
theorem chain_projected (h : Chain Extracts r cs r') {k : ℕ} (hr : Tracks X y k r) :
    ∀ c ∈ cs, r.projector.matrix *ᵥ c.weight.coords = c.weight.coords := by
  induction h generalizing k with
  | nil => exact fun c hc => absurd hc List.not_mem_nil
  | cons first _ ih =>
    intro d hd
    rcases List.mem_cons.mp hd with rfl | hd
    · exact hr.projector_weight first
    · obtain ⟨htracks, hleft⟩ := hr.step first
      exact (hleft _ (ih htracks d hd)).1

/-- **The scores are orthogonal in pairs.** -/
theorem chain_pairwise (h : Chain Extracts r cs r') {k : ℕ} (hr : Tracks X y k r) :
    cs.Pairwise fun c d => (X *ᵥ c.weight.coords) ⬝ᵥ (X *ᵥ d.weight.coords) = 0 := by
  induction h generalizing k with
  | nil => exact List.Pairwise.nil
  | cons first rest ih =>
    obtain ⟨htracks, hleft⟩ := hr.step first
    refine List.Pairwise.cons (fun d hd => ?_) (ih htracks)
    have hdot := (hleft _ (chain_projected rest htracks d hd)).2
    rw [hr.loading_eq first, dotProduct_comm] at hdot
    rw [dotProduct_comm, mulVec_dotProduct_eq, hdot]

/-- **Each component on its own:** its weight lies in the Krylov space, its score has length one,
and its loadings are those of the whole data. -/
theorem chain_each (h : Chain Extracts r cs r') {k : ℕ} (hr : Tracks X y k r) :
    ∀ c ∈ cs, c.weight.coords ∈ krylov X y (k + cs.length) ∧
      (X *ᵥ c.weight.coords) ⬝ᵥ (X *ᵥ c.weight.coords) = 1 ∧
      c.responseLoading = (X *ᵥ c.weight.coords) ⬝ᵥ y := by
  induction h generalizing k with
  | nil => exact fun c hc => absurd hc List.not_mem_nil
  | @cons _ _ _ d ds first _ ih =>
    intro c hc
    rcases List.mem_cons.mp hc with rfl | hc
    · exact ⟨krylov_mono (by rw [List.length_cons]; omega) (hr.weight_mem first),
        hr.score_unit first, hr.responseLoading_eq first⟩
    · have hlen : k + (d :: ds).length = k + 1 + ds.length := by rw [List.length_cons]; omega
      rw [hlen]
      exact ih (hr.step first).1 c hc

/-- **The deflation of the cross-product does not show in the loadings.** -/
theorem chain_loading (h : Chain Extracts r cs r') {k : ℕ} (hr : Tracks X y k r) :
    ∀ c ∈ cs, c.loading.coords = Xᵀ *ᵥ (X *ᵥ c.weight.coords) :=
  h.forall_mem (I := fun s => ∃ k, Tracks X y k s) ⟨k, hr⟩ fun _ _ _ ⟨_, hs⟩ hc =>
    ⟨hs.loading_eq hc, _, (hs.step hc).1⟩

end Chains

end PartialLeastSquares.Simpls
