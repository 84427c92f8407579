/-
# What is learned of idle columns

Training rows that are zero in a column say nothing about it, and nothing is learned of it: every
weight is zero there, and so is every loading (`Vec.IdleWith`).  New rows may be what they like in
such a column.  If they agree in all others (`Mat.Alike`), each method gives them the same
predictions.

For three of the methods this is read off their components.  The method in feature space sees new
rows through its kernel alone, so it holds for a kernel that looks at inner products with the
training rows, and not for one that looks at distances (`Kernel.gram_of_alike`).
-/
import Mathlib
import PartialLeastSquares.Proofs.ColumnUnits.Data
import PartialLeastSquares.Proofs.KernelPls.Preparation
import PartialLeastSquares.Proofs.OrthogonalFilter.Component
import PartialLeastSquares.Proofs.Pls1.Component
import PartialLeastSquares.Proofs.Simpls.Component

namespace PartialLeastSquares

open Matrix

variable {n m p q : ℕ} {x : Mat ℝ n p} {a a' : Mat ℝ m p} {j : Fin p}

/-! ## 1. Idle columns -/

/-- A column is idle if the rows have nothing along it. -/
theorem Mat.idle_iff : x.Idle j ↔ x.matrix *ᵥ Pi.single j 1 = 0 := by
  rw [mulVec_single_one, funext_iff]
  exact Iff.rfl

/-- **A vector is idle with a matrix** if it is zero at every idle column. -/
def Vec.IdleWith (v : Vec ℝ p) (x : Mat ℝ n p) : Prop := ∀ j, x.Idle j → v.get j = 0

/-- A vector that is orthogonal to whatever a matrix has lost is idle with it. -/
theorem Vec.idleWith_of_lost {v : Vec ℝ p}
    (h : ∀ u : Fin p → ℝ, x.matrix *ᵥ u = 0 → v.coords ⬝ᵥ u = 0) : v.IdleWith x := by
  intro j hj
  have hdot := h _ (Mat.idle_iff.mp hj)
  rw [dotProduct_single_one] at hdot
  exact hdot

/-- **Rows are alike to a matrix** if they agree in every column that is not idle. -/
def Mat.Alike (x : Mat ℝ n p) (a a' : Mat ℝ m p) : Prop :=
  ∀ j, x.Idle j ∨ ∀ i, a.get i j = a'.get i j

namespace Mat.Alike

/-- Rows that are alike have the same products with a vector that is idle. -/
theorem sum_eq (h : x.Alike a a') {v : Vec ℝ p} (hv : v.IdleWith x) (i : Fin m) :
    ∑ j, a.get i j * v.get j = ∑ j, a'.get i j * v.get j := by
  refine Finset.sum_congr rfl fun j _ => ?_
  rcases h j with hj | hj
  · rw [hv j hj, mul_zero, mul_zero]
  · rw [hj i]

theorem apply (h : x.Alike a a') {v : Vec ℝ p} (hv : v.IdleWith x) : a.apply v = a'.apply v := by
  refine Vec.ext fun i => ?_
  rw [Mat.get_apply, Mat.get_apply, Scalar.sum_real, Scalar.sum_real]
  exact h.sum_eq hv i

theorem sub (h : x.Alike a a') (b : Mat ℝ m p) : x.Alike (a.sub b) (a'.sub b) := by
  intro j
  rcases h j with hj | hj
  · exact .inl hj
  · refine .inr fun i => ?_
    rw [Mat.get_sub, Mat.get_sub, hj i]

/-- Rows that are alike have the same inner products with the rows of the matrix. -/
theorem dot (h : x.Alike a a') (i : Fin m) (l : Fin n) :
    (a.row i).dot (x.row l) = (a'.row i).dot (x.row l) := by
  rw [Vec.dot, Vec.dot, Scalar.sum_real, Scalar.sum_real]
  simp only [Mat.get_row]
  refine Finset.sum_congr rfl fun j _ => ?_
  rcases h j with hj | hj
  · rw [hj l, mul_zero, mul_zero]
  · rw [hj i]

end Mat.Alike

/-- **Preprocessing leaves idle columns idle,** whatever the scheme. -/
theorem Scheme.idle_predictors (scheme : Scheme) (h : x.Idle j) :
    ((scheme.learn x).apply x).Idle j := by
  have hlevel : x.Level j := fun i i' => (h i).trans (h i').symm
  intro i
  cases scheme with
  | none =>
    rw [ColumnStats.get_apply, h i]
    simp only [learn, Vec.zero, Vec.get_ofFn]
    exact (div_one _).trans (sub_zero _)
  | center =>
    rw [ColumnStats.get_apply, show (center.learn x).mean.get j = x.get i j from hlevel.mean i,
      sub_self, zero_div]
  | standardize => exact idle_of_level hlevel i

/-- Rows that are alike before preprocessing are alike after it. -/
theorem Scheme.alike_apply (scheme : Scheme) (h : x.Alike a a') :
    ((scheme.learn x).apply x).Alike ((scheme.learn x).apply a) ((scheme.learn x).apply a') := by
  intro j
  rcases h j with hj | hj
  · exact .inl (scheme.idle_predictors hj)
  · refine .inr fun i => ?_
    rw [ColumnStats.get_apply, ColumnStats.get_apply, hj i]

/-! ## 2. The method with one response -/

namespace Pls1

theorem idleWith_of_chain {y : Vec ℝ n} {cs : List (Component ℝ n p)} {r : Residual ℝ n p}
    (h : Chain Extracts ⟨x, y⟩ cs r) : ∀ c ∈ cs, c.weight.IdleWith x := by
  intro c hc
  refine Vec.idleWith_of_lost fun u hu => ?_
  exact ((chain_lost h hu).1 c hc).1

/-- **Rows that are alike have the same scores.**  The induction is on the components, each of which
takes the same from both. -/
theorem replay_of_alike {cs : List (Component ℝ n p)} (hcs : ∀ c ∈ cs, c.weight.IdleWith x)
    (h : x.Alike a a') : replay cs a = replay cs a' := by
  induction cs generalizing a a' with
  | nil => rfl
  | cons c rest ih =>
    have hscore : a.apply c.weight = a'.apply c.weight := h.apply (hcs c List.mem_cons_self)
    rw [replay, replay, hscore]
    exact congrArg _ (ih (fun d hd => hcs d (List.mem_cons_of_mem _ hd)) (h.sub _))

theorem predict_of_alike {tools : Toolkit ℝ} {y : Vec ℝ n} {count : ℕ} {f : Fit ℝ n p}
    (hfit : fit tools (extraction x y count) = .ok f) (h : x.Alike a a') :
    f.predict a = f.predict a' := by
  obtain ⟨r, hending, hfit⟩ := bind_eq_ok_iff.mp hfit
  obtain ⟨b, -, hfit⟩ := bind_eq_ok_iff.mp hfit
  obtain rfl := Except.ok.inj hfit
  have hreplay := replay_of_alike (idleWith_of_chain (chain_of_extraction hending)) h
  unfold Fit.predict Fit.transform
  rw [hreplay]

end Pls1

/-! ## 3. The method from cross-products -/

namespace Simpls

/-- **A vector is lost** if nothing of the covariance and nothing of the predictors is along it,
and the projector has taken nothing of it. -/
structure Loses (u : Fin p → ℝ) (r : Cross ℝ p) : Prop where
  response : r.response.coords ⬝ᵥ u = 0
  predictors : r.predictors.matrixᵀ *ᵥ u = 0
  projector : r.projector.matrixᵀ *ᵥ u = u

theorem loses_start (y : Vec ℝ n) {u : Fin p → ℝ} (hu : x.matrix *ᵥ u = 0) :
    Loses u (Cross.start x y) where
  response := by
    rw [Cross.start, Mat.coords_applyT, mulVec_dotProduct_eq, transpose_transpose, hu,
      dotProduct_zero]
  predictors := by
    rw [Cross.start, Mat.matrix_tmul, transpose_mul, transpose_transpose, ← mulVec_mulVec, hu,
      mulVec_zero]
  projector := by
    rw [Cross.start, Mat.matrix_identity, transpose_one, one_mulVec]

/-- **What is lost is orthogonal to the next weight, and stays lost.** -/
theorem Loses.step {tools : Toolkit ℝ} {xScale yScale : ℝ} {k : ℕ} {r r' : Cross ℝ p}
    {c : Component ℝ p} {u : Fin p → ℝ} (hu : Loses u r)
    (h : Simpls.step tools xScale yScale k r = .ok (c, r')) :
    c.weight.coords ⬝ᵥ u = 0 ∧ Loses u r' := by
  obtain ⟨raw, v, hraw, -, hv, hc, hr'⟩ := step_eq_ok_iff.mp h
  obtain ⟨-, hraw⟩ := normalize_eq_ok_iff.mp hraw
  obtain ⟨-, hv⟩ := normalize_eq_ok_iff.mp hv
  have hweight : c.weight.coords ⬝ᵥ u = 0 := by
    rw [congrArg Component.weight hc, Vec.coords_dividedBy, hraw, Vec.coords_dividedBy,
      Vec.coords_scale, smul_dotProduct, smul_dotProduct, smul_dotProduct, hu.response, smul_zero,
      smul_zero, smul_zero]
  have hloading : c.loading.coords ⬝ᵥ u = 0 := by
    rw [congrArg Component.loading hc, Mat.coords_apply, mulVec_dotProduct_eq, hu.predictors,
      dotProduct_zero]
  have hdirection : v.coords ⬝ᵥ u = 0 := by
    rw [hv, Vec.coords_dividedBy, Mat.coords_apply, smul_dotProduct, mulVec_dotProduct_eq,
      hu.projector, hloading, smul_zero]
  have hprojector : r'.projector.matrixᵀ *ᵥ u = u := by
    rw [congrArg Cross.projector hr', Mat.matrix_sub, Mat.matrix_outer, transpose_sub, sub_mulVec,
      transpose_vecMulVec, vecMulVec_mulVec, hdirection, MulOpposite.op_zero, zero_smul, sub_zero,
      hu.projector]
  refine ⟨hweight, ?_, ?_, hprojector⟩
  · rw [congrArg Cross.response hr', Mat.coords_apply, mulVec_dotProduct_eq, hprojector,
      hu.response]
  · rw [congrArg Cross.predictors hr', Mat.matrix_sub, Mat.matrix_outer, transpose_sub, sub_mulVec,
      transpose_vecMulVec, vecMulVec_mulVec, hloading, MulOpposite.op_zero, zero_smul, sub_zero,
      hu.predictors]

/-- **All weights are orthogonal to what is lost.** -/
theorem chain_lost {tools : Toolkit ℝ} {xScale yScale : ℝ} {r r' : Cross ℝ p}
    {cs : List (Component ℝ p)} {u : Fin p → ℝ} (hu : Loses u r)
    (h : Chain (fun r c r' => ∃ k, Simpls.step tools xScale yScale k r = .ok (c, r')) r cs r') :
    ∀ c ∈ cs, c.weight.coords ⬝ᵥ u = 0 := by
  induction h with
  | nil => exact fun c hc => absurd hc List.not_mem_nil
  | cons first _ ih =>
    obtain ⟨k, hstep⟩ := first
    obtain ⟨hweight, hu'⟩ := hu.step hstep
    intro c hc
    rcases List.mem_cons.mp hc with rfl | hc
    · exact hweight
    · exact ih hu' c hc

theorem idleWith_of_extraction {tools : Toolkit ℝ} {y : Vec ℝ n} {count : ℕ} {r : Cross ℝ p}
    (h : (extraction tools x y count).ending = .ok r) :
    ∀ c ∈ (extraction tools x y count).components, c.weight.IdleWith x := by
  intro c hc
  refine Vec.idleWith_of_lost fun u hu => ?_
  exact chain_lost (loses_start y hu)
    (chain_of_extract (fun k _ _ _ hstep => ⟨k, hstep⟩) h) c hc

theorem slim_of_zero {k : ℕ} {w : Mat ℝ p k} {i : Fin p} {l : Fin k} (h : w.get i l = 0)
    (count : ℤ) : (slim w count).get i l = 0 := by
  unfold slim
  by_cases hall : count ≤ 0 ∨ (p : ℤ) ≤ count
  · rw [if_pos hall, h]
  · rw [if_neg hall, Mat.get_ofFn, h]
    exact ite_self _

/-- **The regression vector is idle with the predictors,** also when weights are thinned out. -/
theorem regression_idleWith {thinning : Thinning} {cs : List (Component ℝ p)} {f : Fit ℝ p}
    (hfit : fit thinning cs = some f) (hcs : ∀ c ∈ cs, c.weight.IdleWith x) :
    f.regression.IdleWith x := by
  intro j hj
  have hweights : ∀ l, (weights cs).get j l = 0 := by
    intro l
    rw [weights, Mat.get_ofCols]
    exact hcs _ (List.getElem_mem _) j hj
  have hslimmed : ∀ l, f.slimmed.get j l = 0 := by
    cases thinning with
    | keepAll =>
      obtain rfl := Option.some.inj hfit
      exact hweights
    | keep count =>
      obtain rfl := Option.some.inj hfit
      exact fun l => slim_of_zero (hweights l) count
    | meaningless => cases hfit
  rw [Fit.regression, Mat.get_apply, Scalar.sum_real]
  exact Finset.sum_eq_zero fun l _ => by rw [hslimmed l, zero_mul]

theorem predict_of_alike {tools : Toolkit ℝ} {thinning : Thinning} {y : Vec ℝ n} {count : ℕ}
    {r : Cross ℝ p} {f : Fit ℝ p} (hending : (extraction tools x y count).ending = .ok r)
    (hfit : fit thinning (extraction tools x y count).components = some f) (h : x.Alike a a') :
    f.predict a = f.predict a' :=
  h.apply (regression_idleWith hfit (idleWith_of_extraction hending))

end Simpls

/-! ## 4. The orthogonal filter -/

namespace OrthogonalFilter

/-- **All weights and loadings are orthogonal to what the predictors have lost,** if the direction
that is kept is. -/
theorem chain_lost_both {w : Vec ℝ p} {x x' : Mat ℝ n p} {cs : List (Component ℝ n p)}
    (h : Chain (Extracts w) x cs x') {u : Fin p → ℝ} (hu : x.matrix *ᵥ u = 0)
    (hw : w.coords ⬝ᵥ u = 0) :
    ∀ c ∈ cs, c.weight.coords ⬝ᵥ u = 0 ∧ c.loading.coords ⬝ᵥ u = 0 := by
  induction h with
  | nil => exact fun c hc => absurd hc List.not_mem_nil
  | cons first _ ih =>
    intro c hc
    rcases List.mem_cons.mp hc with rfl | hc
    · exact ⟨first.weight_dot_eq_zero hu hw, first.deflates.loading_dot_eq_zero hu⟩
    · exact ih (first.deflates.mulVec_eq_zero hu) c hc

/-- **Weights and loadings are idle with the predictors,** since the direction that is kept is. -/
theorem idleWith_of_extraction {y : Vec ℝ n} {count : ℕ} {x' : Mat ℝ n p}
    (h : (extraction x y count).ending = .ok x') :
    ∀ c ∈ (extraction x y count).components, c.weight.IdleWith x ∧ c.loading.IdleWith x := by
  obtain ⟨w, ⟨⟨s, hs, hcov⟩, -⟩, hchain, -⟩ := keeps_of_extraction h
  have hlost : ∀ u : Fin p → ℝ, x.matrix *ᵥ u = 0 → w.coords ⬝ᵥ u = 0 := by
    intro u hu
    have hdot := congrArg (· ⬝ᵥ u) hcov
    simp only [mulVec_dotProduct_eq, transpose_transpose, hu, dotProduct_zero, smul_dotProduct,
      smul_eq_mul] at hdot
    exact (mul_eq_zero.mp hdot.symm).resolve_left hs.ne'
  intro c hc
  constructor
  · exact Vec.idleWith_of_lost fun u hu => (chain_lost_both hchain hu (hlost u hu) c hc).1
  · exact Vec.idleWith_of_lost fun u hu => (chain_lost_both hchain hu (hlost u hu) c hc).2

variable {cs : List (Component ℝ n p)}

/-- **Rows that are alike lose the same** to a filter, so that they agree where they did. -/
theorem get_apply_of_alike (hcs : ∀ c ∈ cs, c.weight.IdleWith x) (h : x.Alike a a') {i : Fin m}
    (hj : a.get i j = a'.get i j) : (apply cs a).get i j = (apply cs a').get i j := by
  have hscores : a.mul (weights cs) = a'.mul (weights cs) := by
    refine Mat.ext fun i l => ?_
    rw [Mat.get_mul, Mat.get_mul, Scalar.sum_real, Scalar.sum_real]
    simp only [weights, Mat.get_ofCols]
    exact h.sum_eq (hcs _ (List.getElem_mem _)) i
  rw [apply, apply, Mat.get_sub, Mat.get_sub, hj, hscores]

theorem idle_apply (hcs : ∀ c ∈ cs, c.loading.IdleWith x) (h : x.Idle j) :
    (apply cs x).Idle j := by
  intro i
  rw [apply, Mat.get_sub, Mat.get_mulT, Scalar.sum_real, h i, zero_sub, neg_eq_zero]
  refine Finset.sum_eq_zero fun l _ => ?_
  rw [loadings, Mat.get_ofCols, hcs _ (List.get_mem cs l) j h, mul_zero]

end OrthogonalFilter

/-! ## 5. The method in feature space -/

namespace Kernel

/-- **A kernel looks at distances** if it is the Gaussian. -/
def looksAtDistances : Kernel → Bool
  | rbf _ => true
  | _ => false

/-- **A kernel that looks at inner products** does not tell rows apart that are alike to the rows
they are compared with. -/
theorem gram_of_alike {kernel : Kernel} (hkernel : kernel.looksAtDistances = false)
    (h : x.Alike a a') : kernel.gram a x = kernel.gram a' x := by
  have hgram : ∀ f : KernelFn ℝ, kernel.function = .ok f → f.gram a x = f.gram a' x := by
    intro f hf
    refine Mat.ext fun i l => ?_
    rw [KernelFn.get_gram, KernelFn.get_gram]
    cases f with
    | linear => exact h.dot i l
    | poly degree gamma coef0 =>
      unfold KernelFn.value
      rw [h.dot i l]
    | rbf gamma =>
      cases kernel with
      | linear => cases hf
      | poly degree gamma coef0 =>
        obtain ⟨_, -, hf⟩ := bind_eq_ok_iff.mp hf
        obtain ⟨_, -, hf⟩ := bind_eq_ok_iff.mp hf
        obtain ⟨_, -, hf⟩ := bind_eq_ok_iff.mp hf
        cases hf
      | rbf gamma => cases hkernel
  unfold gram
  rw [checkMatrix_real_congr a a']
  cases hfunction : (kernel.function : Except KernelError (KernelFn ℝ)) with
  | error e => simp only [bind, Except.bind]
  | ok f => simp only [bind, Except.bind, hgram f hfunction]

end Kernel

namespace KernelPls

/-- **Rows that are alike are predicted alike,** unless the kernel looks at distances. -/
theorem predict_of_alike {tools : Toolkit ℝ} {kernel : Kernel} {y : Mat ℝ n q}
    {stats : ColumnStats ℝ p × ColumnStats ℝ q} {data : Prepared ℝ n p q}
    {cs : List (Component ℝ n q)} {r : Residual ℝ n q} {f : Fit ℝ n p q}
    (hkernel : kernel.looksAtDistances = false) (hstats : center x y = .ok stats)
    (hdata : prepare kernel x y stats = .ok data) (hfit : fit tools data cs r = .ok f)
    (h : x.Alike a a') : f.predict a = f.predict a' := by
  obtain ⟨fn, hkeeps⟩ := keeps_of_fit hstats hdata hfit
  obtain ⟨-, -, _, -, rfl⟩ := prepare_kernel_eq_ok_iff.mp hdata
  obtain ⟨b, -, hfit⟩ := bind_eq_ok_iff.mp hfit
  have hkept : f.kernel = kernel := by rw [← Except.ok.inj hfit]
  have hgram : f.kernel.gram (f.xStats.apply a) f.training =
      f.kernel.gram (f.xStats.apply a') f.training := by
    rw [hkept, hkeeps.training, hkeeps.xStats]
    exact Kernel.gram_of_alike hkernel (Scheme.center.alike_apply h)
  unfold Fit.predict Fit.transform
  rw [Mat.entryProblem?_real, Mat.entryProblem?_real, hgram]

end KernelPls

end PartialLeastSquares
