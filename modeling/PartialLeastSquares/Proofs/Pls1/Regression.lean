/-
# The regression vector of the method with one response

The weights of an extraction lie in the Krylov space of the data (`chain_within`).  With what a
chain leaves, this makes the regression vector the least-squares solution within that space
(`regression_isLeastSquaresOn`).

New rows are predicted by replaying the removals, not by the regression vector.  Both routes give
the same prediction (`predict_eq_regression`), because each loading is orthogonal to the weights
before its own.
-/
import Mathlib
import PartialLeastSquares.Proofs.Exact.Tools
import PartialLeastSquares.Proofs.LeastSquares
import PartialLeastSquares.Proofs.Pls1.Component

namespace PartialLeastSquares.Pls1

open Matrix

variable {n p : ℕ}

/-! ## 1. The weights lie in the Krylov space -/

/-- **What has been removed is explained by a subspace:** everything taken from the predictors and
from the response is an image of it, and what is left of either is orthogonal to what was removed
from the predictors. -/
structure Within (X : Matrix (Fin n) (Fin p) ℝ) (y : Fin n → ℝ) (V : Submodule ℝ (Fin p → ℝ))
    (r : Residual ℝ n p) : Prop where
  remainder : IsRemainder X r.x.matrix
  unexplained : (X - r.x.matrix)ᵀ *ᵥ r.y.coords = 0
  predictors : ∀ v, (X - r.x.matrix) *ᵥ v ∈ V.map X.mulVecLin
  response : y - r.y.coords ∈ V.map X.mulVecLin

section Krylov

variable {X : Matrix (Fin n) (Fin p) ℝ} {y : Fin n → ℝ} {r r' : Residual ℝ n p}

theorem within_start (x : Mat ℝ n p) (z : Vec ℝ n) (V : Submodule ℝ (Fin p → ℝ)) :
    Within x.matrix z.coords V ⟨x, z⟩ where
  remainder := .refl _
  unexplained := by rw [sub_self, transpose_zero, zero_mulVec]
  predictors v := by
    rw [sub_self, zero_mulVec]
    exact Submodule.zero_mem _
  response := by
    rw [sub_self]
    exact Submodule.zero_mem _

/-- What is left covaries with the response as the whole does. -/
theorem Within.covariance_eq {V : Submodule ℝ (Fin p → ℝ)} (h : Within X y V r) :
    r.x.matrixᵀ *ᵥ r.y.coords = Xᵀ *ᵥ r.y.coords := by
  have hsub := h.unexplained
  rw [transpose_sub, sub_mulVec] at hsub
  exact (sub_eq_zero.mp hsub).symm

theorem Within.weight_mem {k : ℕ} {c : Component ℝ n p} (h : Within X y (krylov X y k) r)
    (hc : Extracts r c r') : c.weight.coords ∈ krylov X y (k + 1) := by
  obtain ⟨a, ha, hcov⟩ := hc.covariance
  have hmem : a • c.weight.coords ∈ krylov X y (k + 1) := by
    rw [← hcov, h.covariance_eq]
    exact covariance_left_mem_krylov h.response
  exact (Submodule.smul_mem_iff _ ha.ne').mp hmem

/-- **A step removes nothing but what one dimension more explains.** -/
theorem Within.step {k : ℕ} {c : Component ℝ n p} (h : Within X y (krylov X y k) r)
    (hc : Extracts r c r') : Within X y (krylov X y (k + 1)) r' := by
  have hmono : (krylov X y k).map X.mulVecLin ≤ (krylov X y (k + 1)).map X.mulVecLin :=
    Submodule.map_mono (krylov_mono k.le_succ)
  have hscore : c.score.coords ∈ (krylov X y (k + 1)).map X.mulVecLin := by
    have hsplit : c.score.coords =
        X *ᵥ c.weight.coords - (X - r.x.matrix) *ᵥ c.weight.coords := by
      rw [sub_mulVec, sub_sub_cancel, hc.deflates.score]
    rw [hsplit]
    exact Submodule.sub_mem _ (Submodule.mem_map_of_mem (h.weight_mem hc))
      (hmono (h.predictors _))
  refine ⟨h.remainder.deflate hc.deflates, ?_, fun v => ?_, ?_⟩
  · have hlost : (X - r.x.matrix)ᵀ *ᵥ c.score.coords = 0 := by
      rw [hc.deflates.score, h.remainder]
    rw [IsRemainder.removed_transpose_mulVec hc.deflates, hc.score_dot_response, hc.response,
      mulVec_sub, mulVec_smul, h.unexplained, hlost, smul_zero, zero_smul, sub_zero, add_zero]
  · rw [IsRemainder.removed_mulVec hc.deflates]
    exact Submodule.add_mem _ (hmono (h.predictors v)) (Submodule.smul_mem _ _ hscore)
  · have hsplit : y - r'.y.coords = (y - r.y.coords) + c.coefficient • c.score.coords := by
      rw [hc.response]; abel
    rw [hsplit]
    exact Submodule.add_mem _ (hmono h.response) (Submodule.smul_mem _ _ hscore)

/-- **All weights of a chain lie in the Krylov space** of as many dimensions as it has
components. -/
theorem chain_within {cs : List (Component ℝ n p)} (h : Chain Extracts r cs r') {k : ℕ}
    (hr : Within X y (krylov X y k) r) :
    ∀ c ∈ cs, c.weight.coords ∈ krylov X y (k + cs.length) := by
  induction h generalizing k with
  | nil => exact fun c hc => absurd hc List.not_mem_nil
  | @cons _ _ _ d ds first _ ih =>
    intro c hc
    rcases List.mem_cons.mp hc with rfl | hc
    · exact krylov_mono (by rw [List.length_cons]; omega) (hr.weight_mem first)
    · have hlen : k + (d :: ds).length = k + 1 + ds.length := by rw [List.length_cons]; omega
      rw [hlen]
      exact ih (hr.step first) c hc

end Krylov

/-! ## 2. The regression vector -/

section Regression

variable {cs : List (Component ℝ n p)} {r r' : Residual ℝ n p}

/-- **The predictors turn the weights into scores.** -/
theorem mul_weights (h : Chain Extracts r cs r') :
    r.x.matrix * (weights cs).matrix =
      (scores cs).matrix * ((loadings cs).matrixᵀ * (weights cs).matrix) := by
  have hlost : r'.x.matrix * (weights cs).matrix = 0 :=
    Mat.mul_ofCols_eq_zero fun _ hc => (chain_end h hc).1
  rw [(chain_split h).1, Matrix.add_mul, hlost, zero_add, Matrix.mul_assoc]

theorem scores_mulVec_eq_zero (h : Chain Extracts r cs r') (z : Fin cs.length → ℝ)
    (hz : (scores cs).matrix *ᵥ z = 0) : z = 0 :=
  Mat.ofCols_mulVec_eq_zero ((chain_pairwise h).imp fun hcd => hcd.2.1)
    (fun _ hc => (chain_each h hc).2.1) z hz

theorem sub_scores_mulVec (h : Chain Extracts r cs r') :
    r.y.coords - (scores cs).matrix *ᵥ (coefficients cs).coords = r'.y.coords := by
  rw [(chain_split h).2, add_sub_cancel_right]

/-- **The regression vector of a chain is the least-squares solution within the Krylov space,** and
leaves of the response what the chain leaves. -/
theorem regression_of_chain {tools : Toolkit ℝ} (ht : tools.ExactInverse) (h : Chain Extracts r cs r')
    {v : Vec ℝ p} (hv : regression tools cs = .ok v) :
    IsLeastSquaresOn r.x.matrix r.y.coords (krylov r.x.matrix r.y.coords cs.length) v.coords ∧
      r.y.coords - r.x.matrix *ᵥ v.coords = r'.y.coords := by
  unfold regression at hv
  obtain ⟨inner, hinner, hv⟩ := bind_eq_ok_iff.mp hv
  obtain rfl := Except.ok.inj hv
  have hinverse := ht.mul_eq_one_of_invert hinner
  rw [Mat.matrix_tmul] at hinverse
  have hmem : ∀ c ∈ cs, c.weight.coords ∈ krylov r.x.matrix r.y.coords cs.length := by
    have hw := chain_within h (within_start r.x r.y (krylov r.x.matrix r.y.coords 0))
    rwa [zero_add] at hw
  have hrest : (scores cs).matrixᵀ *ᵥ
      (r.y.coords - (scores cs).matrix *ᵥ (coefficients cs).coords) = 0 := by
    rw [sub_scores_mulVec h]
    exact Mat.ofCols_transpose_mulVec_eq_zero fun _ hc => (chain_end h hc).2.2
  have hcoords : ((Mat.mul (weights cs) inner).apply (coefficients cs)).coords =
      (weights cs).matrix *ᵥ (inner.matrix *ᵥ (coefficients cs).coords) := by
    rw [Mat.coords_apply, Mat.matrix_mul, mulVec_mulVec]
  obtain ⟨hsolution, himage⟩ := isLeastSquaresOn_of_factor
    (W := (weights cs).matrix) finrank_krylov_le (Mat.ofCols_mulVec_mem hmem)
    (mul_weights h) hinverse (scores_mulVec_eq_zero h) hrest
  rw [hcoords, himage]
  exact ⟨hsolution, sub_scores_mulVec h⟩

/-- **A fit** is made of an extraction that ended well and its regression vector. -/
theorem fit_eq_ok_iff {K : Type} [Scalar K] {tools : Toolkit K}
    {found : Extraction (Component K n p) (Residual K n p) (NumericalError K)} {f : Fit K n p} :
    fit tools found = .ok f ↔ (∃ r, found.ending = .ok r) ∧ found.components = f.components ∧
      regression tools f.components = .ok f.regression := by
  unfold fit
  constructor
  · intro h
    obtain ⟨r, hend, h⟩ := bind_eq_ok_iff.mp h
    obtain ⟨vector, hvector, h⟩ := bind_eq_ok_iff.mp h
    obtain rfl := Except.ok.inj h
    exact ⟨⟨r, hend⟩, rfl, hvector⟩
  · rintro ⟨⟨r, hend⟩, hcomponents, hvector⟩
    refine bind_eq_ok_iff.mpr ⟨r, hend, bind_eq_ok_iff.mpr ⟨f.regression, ?_, ?_⟩⟩
    · rw [hcomponents]
      exact hvector
    · rw [hcomponents]
      rfl

/-- A fit that succeeds has a chain and its regression vector. -/
theorem chain_of_fit {tools : Toolkit ℝ} {x : Mat ℝ n p} {y : Vec ℝ n} {count : ℕ} {f : Fit ℝ n p}
    (h : fit tools (extraction x y count) = .ok f) :
    ∃ r', (extraction x y count).ending = .ok r' ∧ Chain Extracts ⟨x, y⟩ f.components r' ∧
      f.components.length = count ∧ regression tools f.components = .ok f.regression := by
  obtain ⟨⟨r', hend⟩, hcomponents, hvector⟩ := fit_eq_ok_iff.mp h
  rw [← hcomponents]
  exact ⟨r', hend, chain_of_extraction hend, length_components_extract hend, hcomponents ▸ hvector⟩

theorem fit_of_inverse {tools : Toolkit ℝ} {inner : Mat ℝ cs.length cs.length} {v : Vec ℝ p}
    (hinner : invert tools .loadingsByWeights (Mat.tmul (loadings cs) (weights cs)) = .ok inner)
    (hv : (weights cs).matrix *ᵥ (inner.matrix *ᵥ (coefficients cs).coords) = v.coords) :
    fit tools ⟨cs, .ok r⟩ = .ok ⟨cs, v⟩ := by
  have hvector : (Mat.mul (weights cs) inner).apply (coefficients cs) = v :=
    Vec.coords_injective <| by rw [Mat.coords_apply, Mat.matrix_mul, ← mulVec_mulVec, hv]
  unfold fit regression
  rw [hinner, ← hvector]
  rfl

/-- One component whose loading is one along its weight makes a fit by itself. -/
theorem fit_of_one {start : (n seed : ℕ) → Vec ℝ n} {c : Component ℝ n p} {v : Vec ℝ p}
    (hloading : c.loading.coords ⬝ᵥ c.weight.coords = 1)
    (hv : c.coefficient • c.weight.coords = v.coords) :
    fit (.exact start) ⟨[c], .ok r⟩ = .ok ⟨[c], v⟩ := by
  have hone : (Mat.tmul (loadings [c]) (weights [c])).matrix = 1 := by
    rw [Mat.matrix_tmul, loadings, weights]
    ext i j
    fin_cases i; fin_cases j
    rw [Mat.ofCols_transpose_mul_apply]
    exact hloading
  have hinner : invert (.exact start) .loadingsByWeights (Mat.tmul (loadings [c]) (weights [c])) =
      .ok (Mat.identity [c].length) := Toolkit.invert_exact_of_matrix_eq_one Nat.one_pos hone
  refine fit_of_inverse hinner ?_
  rw [Mat.matrix_identity, one_mulVec, weights, Mat.ofCols_cons_mulVec, Mat.ofCols_nil_mulVec,
    add_zero]
  exact hv

/-- **One component regresses on the covariance** of predictors and response.  If the covariance and
its image pass their guards, the fit succeeds, and its regression vector is the multiple of the
covariance that explains the response best. -/
theorem fit_one_component {start : (n seed : ℕ) → Vec ℝ n} {x : Mat ℝ n p} {y : Vec ℝ n}
    {v : Fin p → ℝ} (hv : x.matrixᵀ *ᵥ y.coords = v)
    (hcov : Scalar.zeroNorm * (x.norm * y.norm) < √(v ⬝ᵥ v))
    (hscore : Scalar.zeroNorm * (x.norm * x.norm) * (v ⬝ᵥ v) <
      (x.matrix *ᵥ v) ⬝ᵥ (x.matrix *ᵥ v)) :
    ∃ f : Fit ℝ n p, fit (.exact start) (extraction x y 1) = .ok f ∧
      f.regression.coords = ((v ⬝ᵥ v) / ((x.matrix *ᵥ v) ⬝ᵥ (x.matrix *ᵥ v))) • v := by
  obtain ⟨c, r, hstep⟩ : ∃ c r, step x.norm y.norm 0 ⟨x, y⟩ = .ok (c, r) :=
    exists_step x.norm_nonneg y.norm_nonneg hv hcov hscore
  have hextracts := extracts_of_step x.norm_nonneg y.norm_nonneg hstep
  refine ⟨⟨[c], Vec.ofFn (c.coefficient • c.weight.coords)⟩, ?_, ?_⟩
  · rw [extraction, extract_succ_ok hstep, extract_zero]
    exact fit_of_one hextracts.deflates.loading_dot_weight (Vec.coords_ofFn _).symm
  · rw [Vec.coords_ofFn, hextracts.coefficient_smul_weight hv]

/-- **The regression vector of a fit** is the least-squares solution within the Krylov space of
as many dimensions as components were asked for. -/
theorem regression_isLeastSquaresOn {tools : Toolkit ℝ} (ht : tools.ExactInverse) {x : Mat ℝ n p}
    {y : Vec ℝ n} {count : ℕ} {f : Fit ℝ n p} (h : fit tools (extraction x y count) = .ok f) :
    IsLeastSquaresOn x.matrix y.coords (krylov x.matrix y.coords count) f.regression.coords := by
  obtain ⟨_, _, hchain, hlen, hregression⟩ := chain_of_fit h
  have hsolution := (regression_of_chain ht hchain hregression).1
  rwa [hlen] at hsolution

end Regression

/-! ## 3. New rows -/

section Replay

variable {m : ℕ}

/-- What is left of new rows when all removals have been replayed. -/
def remainder {K : Type} [Scalar K] : List (Component K n p) → Mat K m p → Mat K m p
  | [], x => x
  | c :: cs, x => remainder cs (x.sub (Mat.outer (x.apply c.weight) c.loading))

theorem removal_mulVec (c : Component ℝ n p) (x : Mat ℝ m p) (v : Fin p → ℝ) :
    (x.sub (Mat.outer (x.apply c.weight) c.loading)).matrix *ᵥ v =
      x.matrix *ᵥ v - (c.loading.coords ⬝ᵥ v) • (x.apply c.weight).coords := by
  rw [Mat.matrix_sub, Mat.matrix_outer, sub_mulVec, vecMulVec_mulVec, op_smul_eq_smul]

theorem columns_cons_mulVec (k : ℕ) (t : Vec ℝ m) (ts : List (Vec ℝ m)) (z : Fin (k + 1) → ℝ) :
    (columns (k + 1) (t :: ts)).matrix *ᵥ z =
      z 0 • t.coords + (columns k ts).matrix *ᵥ fun j => z j.succ := by
  funext i
  simp only [mulVec, dotProduct, columns, Mat.matrix_ofFn, of_apply, Fin.sum_univ_succ,
    Pi.add_apply, Pi.smul_apply, smul_eq_mul, Array.getD_eq_getD_getElem?, List.getElem?_toArray,
    Fin.val_zero, Fin.val_succ, List.getElem?_cons_zero, List.getElem?_cons_succ,
    Option.getD_some]
  rw [mul_comm]
  rfl

/-- **The scores and what is left make up the new rows.** -/
theorem replay_mulVec (cs : List (Component ℝ n p)) (x : Mat ℝ m p) (v : Fin p → ℝ) :
    x.matrix *ᵥ v = (remainder cs x).matrix *ᵥ v +
      (columns cs.length (replay cs x)).matrix *ᵥ ((loadings cs).matrixᵀ *ᵥ v) := by
  induction cs generalizing x with
  | nil =>
    funext i
    exact (add_zero _).symm
  | cons c cs ih =>
    have hscores : (columns (c :: cs).length (replay (c :: cs) x)).matrix *ᵥ
        ((loadings (c :: cs)).matrixᵀ *ᵥ v) =
          (c.loading.coords ⬝ᵥ v) • (x.apply c.weight).coords +
            (columns cs.length (replay cs
              (x.sub (Mat.outer (x.apply c.weight) c.loading)))).matrix *ᵥ
                ((loadings cs).matrixᵀ *ᵥ v) := by
      refine (columns_cons_mulVec cs.length _ _ _).trans ?_
      rw [loadings, loadings, Mat.matrix_ofCols, Mat.matrix_ofCols]
      rfl
    have hih := ih (x.sub (Mat.outer (x.apply c.weight) c.loading))
    rw [removal_mulVec, sub_eq_iff_eq_add] at hih
    rw [hscores, hih]
    exact add_right_comm _ _ _ |>.trans (add_assoc _ _ _)

/-- What the new rows have lost stays lost, if no loading brings it back. -/
theorem remainder_mulVec_eq_zero (cs : List (Component ℝ n p)) {x : Mat ℝ m p} {v : Fin p → ℝ}
    (hx : x.matrix *ᵥ v = 0) (hcs : ∀ c ∈ cs, c.loading.coords ⬝ᵥ v = 0) :
    (remainder cs x).matrix *ᵥ v = 0 := by
  induction cs generalizing x with
  | nil => exact hx
  | cons c cs ih =>
    refine ih ?_ fun d hd => hcs d (List.mem_cons_of_mem _ hd)
    rw [removal_mulVec, hx, hcs c List.mem_cons_self, zero_smul, sub_zero]

/-- **Every weight has lost its image** when all removals have been replayed, on any rows. -/
theorem remainder_mulVec_weight {cs : List (Component ℝ n p)} {x : Mat ℝ m p}
    (hpair : cs.Pairwise fun c d => d.loading.coords ⬝ᵥ c.weight.coords = 0)
    (hself : ∀ c ∈ cs, c.loading.coords ⬝ᵥ c.weight.coords = 1) :
    ∀ c ∈ cs, (remainder cs x).matrix *ᵥ c.weight.coords = 0 := by
  induction cs generalizing x with
  | nil => exact fun c hc => absurd hc List.not_mem_nil
  | cons c cs ih =>
    obtain ⟨hlater, hpair⟩ := List.pairwise_cons.mp hpair
    intro d hd
    rcases List.mem_cons.mp hd with rfl | hd
    · refine remainder_mulVec_eq_zero cs ?_ hlater
      rw [removal_mulVec, hself d List.mem_cons_self, one_smul, Mat.coords_apply, sub_self]
    · exact ih hpair (fun e he => hself e (List.mem_cons_of_mem _ he)) d hd

/-- **Replaying the removals and applying the regression vector give the same prediction.** -/
theorem predict_eq_regression {tools : Toolkit ℝ} (ht : tools.ExactInverse) {r r' : Residual ℝ n p}
    {f : Fit ℝ n p} (h : Chain Extracts r f.components r')
    (hf : regression tools f.components = .ok f.regression) (x : Mat ℝ m p) :
    f.predict x = x.apply f.regression := by
  unfold regression at hf
  obtain ⟨inner, hinner, hf⟩ := bind_eq_ok_iff.mp hf
  have hinverse := ht.mul_eq_one_of_invert hinner
  rw [Mat.matrix_tmul] at hinverse
  have hlost : (remainder f.components x).matrix * (weights f.components).matrix = 0 :=
    Mat.mul_ofCols_eq_zero <| remainder_mulVec_weight ((chain_pairwise h).imp fun hcd => hcd.2.2)
      fun _ hc => (chain_each h hc).2.2.1
  have himage : ∀ z, x.matrix *ᵥ ((weights f.components).matrix *ᵥ z) =
      (columns f.components.length (replay f.components x)).matrix *ᵥ
        (((loadings f.components).matrixᵀ * (weights f.components).matrix) *ᵥ z) := fun z => by
    rw [replay_mulVec f.components x, mulVec_mulVec, hlost, zero_mulVec, zero_add,
      mulVec_mulVec z (loadings f.components).matrixᵀ]
  refine Vec.coords_injective ?_
  rw [← Except.ok.inj hf, Mat.coords_apply, Mat.coords_apply, Mat.matrix_mul, ← mulVec_mulVec,
    himage, mulVec_mulVec _ _ inner.matrix, hinverse, one_mulVec]
  exact Mat.coords_apply _ _

/-- The predictions of a fit are those of its regression vector. -/
theorem predict_of_fit {tools : Toolkit ℝ} (ht : tools.ExactInverse) {x : Mat ℝ n p} {y : Vec ℝ n}
    {count : ℕ} {f : Fit ℝ n p} (h : fit tools (extraction x y count) = .ok f) (new : Mat ℝ m p) :
    f.predict new = new.apply f.regression := by
  obtain ⟨_, _, hchain, -, hregression⟩ := chain_of_fit h
  exact predict_eq_regression ht hchain hregression new

end Replay

end PartialLeastSquares.Pls1
