/-
# The method in feature space agrees with deflation

With the linear kernel, centered data and two passes or more for each component, the method in
feature space solves the least-squares problem that the method with one response solves by
deflation.  Both therefore predict alike, whatever the start vectors, the tolerance and the number
of passes allowed.

They differ on one thing only: asked for no rows, the method that deflates predicts nothing, and
the kernel refuses to be evaluated.
-/
import Mathlib
import PartialLeastSquares.Proofs.KernelPls.RankOne
import PartialLeastSquares.Proofs.KernelPls.Regression
import PartialLeastSquares.Proofs.Simpls.Agreement

namespace PartialLeastSquares

open Matrix

variable {n p : ℕ}

/-! ## 1. Fits -/

/-- **The regression vectors of the two methods are equal.** -/
theorem regression_eq_kernelPls {tools : Toolkit ℝ} (ht : tools.ExactInverse)
    {settings : KernelPls.Settings ℝ} {x : Mat ℝ n p} (hx : x.Centered) {y : Mat ℝ n 1} {count : ℕ}
    {f : Pls1.Fit ℝ n p} {r : KernelPls.Residual ℝ n 1} {g : KernelPls.Fit ℝ n p 1}
    (h : Pls1.fit tools (Pls1.extraction x y.only count) = .ok f)
    (hend : (KernelPls.extraction tools settings (KernelPls.prepared x y).centered y count).ending =
      .ok r)
    (hfit : KernelPls.fit tools (KernelPls.prepared x y)
      (KernelPls.extraction tools settings (KernelPls.prepared x y).centered y count).components r =
        .ok g)
    (hpasses : ∀ c ∈ g.components, 2 ≤ c.convergence.passes) :
    f.regression = KernelPls.regression x g.components g.coefficients :=
  Vec.coords_injective <|
    (Pls1.regression_isLeastSquaresOn ht h).unique
      (KernelPls.regression_isLeastSquaresOn ht hx hend hfit hpasses)

section Fitted

variable {m : ℕ} {tools : Toolkit ℝ} {x : Mat ℝ n p} {y : Mat ℝ n 1}
  {cs : List (KernelPls.Component ℝ n 1)} {r : KernelPls.Residual ℝ n 1} {g : KernelPls.Fit ℝ n p 1}

/-- **What is learned in feature space predicts by its regression vector,** for any number of rows
but none. -/
theorem Fitted.predict_kernelPls (hx : x.Centered) (hn : n ≠ 0) (hp : p ≠ 0)
    (hfit : KernelPls.fit tools (KernelPls.prepared x y) cs r = .ok g) (env : Envelope ℝ p 1)
    (hm : m ≠ 0) (new : Mat ℝ m p) :
    (Fitted.kernelPls env g).predict new = .ok (env.y.unapply (Mat.ofCol
      ((env.x.apply new).apply (KernelPls.regression x g.components g.coefficients)))) := by
  unfold Fitted.predict
  rw [KernelPls.predict_of_fit hx hn hp hfit hm]
  dsimp only
  rw [Mat.entryProblem?_real]

theorem Fitted.predict_kernelPls_no_rows
    (hfit : KernelPls.fit tools (KernelPls.prepared x y) cs r = .ok g) (env : Envelope ℝ p 1)
    (new : Mat ℝ 0 p) :
    (Fitted.kernelPls env g).predict new =
      .error (.ofUse (.kernel (.unsuitable (.noRows [0, p])))) := by
  unfold Fitted.predict
  rw [KernelPls.predict_no_rows hfit]

end Fitted

/-- The passes that the components of a model took. -/
def Model.passes {K : Type} (m : Model K) : List ℕ :=
  match m.trained with
  | some ⟨_, _, _, .kernelPls _ fit⟩ => fit.components.map fun c => c.convergence.passes
  | _ => []

/-! ## 2. Four rows in feature space -/

namespace FourRows

noncomputable def kernel : Mat ℝ 4 4 := (KernelPls.prepared x (Mat.ofCol y)).centered

noncomputable def half : Vec ℝ 4 := Vec.ofRat ![1 / 2, -1 / 2, 1 / 2, -1 / 2]

noncomputable def begin : Vec ℝ 4 := Vec.ofRat ![3, 0, 0, 0]

theorem half_unit : half.coords ⬝ᵥ half.coords = 1 := by
  simp [half, dotProduct, Fin.sum_univ_succ]
  norm_num

theorem kernel_eq : kernel.matrix = (100 : ℝ) • vecMulVec half.coords half.coords := by
  have hgram : kernel.matrix = x.matrix * x.matrixᵀ := centerKernel_gram x_centered
  rw [hgram]
  ext i j
  fin_cases i <;> fin_cases j <;> simp [x, half, mul_apply, vecMulVec] <;> norm_num

noncomputable def loading : Vec ℝ 1 := Vec.ofRat ![2]

/-- **The kernel has rank one,** and the responses are along it. -/
theorem rankOne : KernelPls.RankOne kernel (Mat.ofCol y) half 100 loading where
  unit := half_unit
  kernel_eq := kernel_eq
  pos := by norm_num
  responses := by
    ext i j
    fin_cases i <;> fin_cases j <;> norm_num [y, half, loading, vecMulVec]
  loading_pos := by simp [loading, dotProduct]

noncomputable def both : Mat ℝ 4 2 := Mat.ofRat !![1, 2; -1, -2; 1, 2; -1, -2]

noncomputable def bothLoading : Vec ℝ 2 := Vec.ofRat ![2, 4]

theorem rankOne_both : KernelPls.RankOne kernel both half 100 bothLoading where
  unit := half_unit
  kernel_eq := kernel_eq
  pos := by norm_num
  responses := by
    ext i j
    fin_cases i <;> fin_cases j <;> norm_num [both, half, bothLoading, vecMulVec]
  loading_pos := by
    simp [bothLoading, dotProduct]
    norm_num

theorem half_dot_begin : half.coords ⬝ᵥ begin.coords = 3 / 2 := by
  simp [half, begin, dotProduct, Fin.sum_univ_succ]
  norm_num

theorem norm_begin : begin.norm = 3 := by
  rw [Vec.norm_real, Real.sqrt_eq_iff_mul_self_eq_of_pos (by norm_num)]
  simp [begin, dotProduct, Fin.sum_univ_succ]

theorem norm_half : half.norm = 1 := by
  rw [Vec.norm_real, half_unit, Real.sqrt_one]

/-- The settings: two passes are allowed, and a change of one is tolerated. -/
noncomputable def settings : KernelPls.Settings ℝ := ⟨.within 1, 2, 0⟩

noncomputable def kernelPls : Model ℝ :=
  .new (.kernelPls (.kernel .linear) (.int 1) (.int 2) (.int 0)) (.int 1) (.text "center")

section Along

variable {q : ℕ} {z : Mat ℝ 4 q} {w : Vec ℝ q}

/-- **The first pass moves too far, and the second not at all,** whatever responses are along the
kernel. -/
theorem passes_eq (h : KernelPls.RankOne kernel z half 100 w) : KernelPls.passes settings.tol
    (KernelPls.pass 0 kernel.norm z.norm ⟨kernel, z⟩) 1 0 begin =
      .ok (⟨kernel.apply half, half, w, half, (half.sub half).norm⟩, 2) := by
  have hfirst := h.pass_eq 0 (u := begin) (by
    rw [half_dot_begin, norm_begin]
    exact Scalar.zeroNorm_mul_lt (by norm_num))
  have hsecond := h.pass_eq 0 (u := half) (by
    rw [half_unit, norm_half]
    exact Scalar.zeroNorm_mul_lt (by norm_num))
  have hmoved : settings.tol.exceededBy (half.sub begin).norm = true := by
    refine decide_eq_true ?_
    rw [Vec.norm_real, Real.lt_sqrt zero_le_one]
    simp [half, begin, dotProduct, Fin.sum_univ_succ]
    norm_num
  exact (KernelPls.passes_moved hfirst hmoved).trans (KernelPls.passes_last hsecond)

theorem centered_along (h : KernelPls.RankOne kernel z half 100 w) : z.Centered := by
  intro j
  simp [h.responses, half, vecMulVec, Fin.sum_univ_succ]
  ring

/-- **Two passes suffice** for the one component, and it predicts the responses. -/
theorem kernelPls_train (h : KernelPls.RankOne kernel z half 100 w) (flat : Bool) :
    ∃ g : KernelPls.Fit ℝ 4 2 q,
      (train tools kernelPls.algorithm.methodOr ⟨1, .center⟩ flat x z).outcome =
        .ok (.kernelPls ((⟨1, .center⟩ : Plan).envelope flat x z) g) ∧
      g.components.map (fun c => c.convergence.passes) = [2] ∧ g.predict x = .ok z := by
  have hz : z.Centered := centered_along h
  have hresponses : ((⟨1, .center⟩ : Plan).scheme.learn z).apply z = z := by
    rw [Scheme.center_learn hz, ColumnStats.trivial_apply]
  obtain ⟨c, r, hextraction, hscore, hpasses, hfit⟩ : ∃ c r, KernelPls.extraction tools settings
      (KernelPls.prepared x z).centered z 1 = ⟨[c], .ok r⟩ ∧ _ :=
    KernelPls.RankOne.exists_fit h (by simp [settings]) (passes_eq h)
      (by
        rw [half_unit, ← mul_one Scalar.zeroNorm]
        exact Scalar.zeroNorm_mul_lt (by norm_num))
  refine ⟨⟨.linear, .trivial 2, .trivial q, x, KernelFn.linear.gram x x, kernel, r.kernel, [c],
      Mat.ofFn fun _ j => w.get j / 100⟩, train_kernelPls_eq_ok_iff.mpr ⟨settings,
      (.trivial 2, .trivial q), .linear, KernelPls.prepared x z, r, _,
      checkIteration_one one_le_two, ?_, rfl, ?_, ?_, ?_, rfl⟩, congrArg (fun k => [k]) hpasses, ?_⟩
  · rw [predictors_eq, hresponses]
    exact KernelPls.center_of_centered x_centered hz
  · rw [predictors_eq, hresponses]
    exact KernelPls.prepare_eq_ok_iff.mpr ⟨⟨by decide, by decide⟩, rfl⟩
  · exact congrArg Extraction.ending hextraction
  · show KernelPls.fit tools (KernelPls.prepared x z) (KernelPls.extraction tools settings
      (KernelPls.prepared x z).centered z 1).components r = _
    rw [hextraction]
    exact hfit
  · obtain ⟨fn, hkeeps⟩ := KernelPls.keeps_of_fit (KernelPls.center_of_centered x_centered hz)
      (KernelPls.prepare_eq_ok_iff.mpr ⟨⟨by decide, by decide⟩, rfl⟩) hfit
    obtain rfl : KernelFn.linear = fn := Except.ok.inj hkeeps.function
    refine (hkeeps.predict_one (by decide) x).trans (congrArg Except.ok (Mat.ext fun i j => ?_))
    simp only [KernelPls.prepared, ColumnStats.trivial_unapply, ColumnStats.trivial_apply, hscore,
      Mat.get_ofFn, centerCrossKernel_self]
    have hentry : z.get i j = half.coords i * w.coords j :=
      congrFun (congrFun h.responses i) j
    show (kernel.matrix *ᵥ half.coords) i * (w.coords j / 100) = z.get i j
    rw [h.mulVec, half_unit, hentry, Pi.smul_apply, smul_eq_mul]
    ring

/-- Around the method nothing is subtracted or added, so the model predicts the responses, too. -/
theorem predict_along (h : KernelPls.RankOne kernel z half 100 w) (flat : Bool)
    {g : KernelPls.Fit ℝ 4 2 q} (hg : g.predict x = .ok z) :
    (Fitted.kernelPls ((⟨1, .center⟩ : Plan).envelope flat x z) g).predict x = .ok z := by
  have hx : ((⟨1, .center⟩ : Plan).envelope flat x z).x = .trivial 2 :=
    Scheme.center_learn x_centered
  have hy : ((⟨1, .center⟩ : Plan).envelope flat x z).y = .trivial q :=
    Scheme.center_learn (centered_along h)
  unfold Fitted.predict
  rw [hx, ColumnStats.trivial_apply, hg]
  dsimp only
  rw [Mat.entryProblem?_real, hy, ColumnStats.trivial_unapply]

end Along

theorem kernelPls_fit : (kernelPls.fit tools predictors responses).2.outcome = .ok () ∧
    (kernelPls.fit tools predictors responses).1.passes = [2] := by
  obtain ⟨g, htrain, hpasses, -⟩ := kernelPls_train rankOne true
  obtain ⟨hok, hmodel⟩ := Model.fit_eq_ok_iff.mpr ⟨⟨1, .center⟩, _, _,
    Model.validate_eq_ok_iff.mpr ⟨checkPlan_eq, readSample_eq, rfl⟩, htrain, rfl⟩
  refine ⟨hok, ?_⟩
  rw [hmodel]
  exact hpasses

noncomputable def noRows : Reading ℝ := .array ⟨[0, 2], []⟩

theorem readsNoRows : (pls1.fit tools predictors responses).1.ReadsNoRows noRows := by
  obtain ⟨-, hmodel⟩ := Model.fit_eq_ok_iff.mpr ⟨⟨1, .center⟩, _, _,
    Model.validate_eq_ok_iff.mpr ⟨checkPlan_eq, readSample_eq, rfl⟩, pls1_train, rfl⟩
  refine (Model.readsNoRows_iff (by rw [hmodel])).mpr ⟨(⟨[0, 2], []⟩ : NdArray ℝ).toMat 0 2, ?_⟩
  unfold Model.readRows noRows Table.ofArray?
  simp

end FourRows

/-! ## 3. Models -/

/-- **The method in feature space agrees with deflation** for all rows but none.  Of two models with
the same number of components and the same scheme that subtracts means, fitted to the same data,
one by deflation and one with the linear kernel, the predictions are equal if each component of the
latter took two passes or more; only of no rows does the kernel make a failure. -/
theorem kernelPls_agrees_with_pls1 {tools : Toolkit ℝ} (ht : tools.ExactInverse) (m m' : Model ℝ)
    (x y : Reading ℝ) (tol maxIter seed : Value) (hm : m.algorithm.methodOr = .pls1)
    (hm' : m'.algorithm = .kernelPls (.kernel .linear) tol maxIter seed)
    (hcount : m.nComponents = m'.nComponents) (hscheme : m.preprocessing = m'.preprocessing)
    (hcenter : Scheme.ofValue? m.preprocessing = some .center ∨
      Scheme.ofValue? m.preprocessing = some .standardize)
    (hfit : (m.fit tools x y).2.outcome = .ok ()) (hfit' : (m'.fit tools x y).2.outcome = .ok ())
    (hpasses : ∀ k ∈ (m'.fit tools x y).1.passes, 2 ≤ k) :
    ∀ new, ((m.fit tools x y).1.predict new = (m'.fit tools x y).1.predict new ↔
        ¬ (m.fit tools x y).1.ReadsNoRows new) ∧
      ((m.fit tools x y).1.Accepts new ↔ ∃ a, (m.fit tools x y).1.predict new = .ok a) ∧
      ((m.fit tools x y).1.ReadsNoRows new → ∃ p, (m'.fit tools x y).1.predict new =
        .error (.ofUse (.kernel (.unsuitable (.noRows [0, p]))))) := by
  obtain ⟨plan, ⟨n, p, q, x', y', flat⟩, f, f', hplan, hf, hf', htrained, htrained'⟩ :=
    Model.exists_trained_of_fit_ok hcount hscheme hfit hfit'
  rw [hm] at hf
  rw [hm'] at hf'
  obtain rfl : q = 1 := eq_one_of_train_pls1 hf
  obtain ⟨fit, hpls1, rfl⟩ := train_pls1_eq_ok_iff.mp hf
  obtain ⟨settings, stats, kernel, data, r, fit', -, hstats, hkernel, hdata, hend, hkernelFit, rfl⟩ :=
    train_kernelPls_eq_ok_iff.mp hf'
  have hne : plan.scheme ≠ .none := by
    intro hnone
    rw [Model.scheme_of_checkPlan hplan, hnone] at hcenter
    rcases hcenter with h | h <;> cases h
  have hx : (plan.predictors x').Centered := Scheme.centered_of_ne_none hne x'
  have hy : ((plan.scheme.learn y').apply y').Centered := Scheme.centered_of_ne_none hne y'
  -- Centered data is not centered again, so both methods see the same matrices.
  obtain rfl : _ = stats :=
    Except.ok.inj ((KernelPls.center_of_centered hx hy).symm.trans hstats)
  obtain rfl : Kernel.linear = kernel := Except.ok.inj hkernel
  obtain ⟨⟨hn, hp⟩, rfl⟩ := KernelPls.prepare_eq_ok_iff.mp hdata
  have hpasses' : ∀ c ∈ fit'.components, 2 ≤ c.convergence.passes := fun c hc => by
    unfold Model.passes at hpasses
    rw [htrained'] at hpasses
    exact hpasses _ (List.mem_map_of_mem hc)
  have hregression := regression_eq_kernelPls ht hx hpls1 hend hkernelFit hpasses'
  have haccepts : ∀ new, (m.fit tools x y).1.Accepts new ↔
      ∃ a, (m.fit tools x y).1.predict new = .ok a := fun new =>
    Model.accepts_iff htrained rfl fun rows _ => ⟨_, rfl⟩
  have hfails : ∀ new, (m.fit tools x y).1.ReadsNoRows new → ∃ p,
      (m'.fit tools x y).1.predict new =
        .error (.ofUse (.kernel (.unsuitable (.noRows [0, p])))) := fun new hnone => by
    obtain ⟨a, hrows⟩ := (Model.readsNoRows_iff htrained).mp hnone
    exact ⟨p, Model.predict_eq_error htrained' rfl hrows
      (Fitted.predict_kernelPls_no_rows hkernelFit _ a)⟩
  refine fun new => ⟨⟨fun heq hnone => ?_, fun hsome => ?_⟩, haccepts new, hfails new⟩
  · obtain ⟨p, hfail⟩ := hfails new hnone
    obtain ⟨b, hb⟩ := (haccepts new).mp hnone.accepts
    exact nomatch hb.symm.trans (heq.trans hfail)
  · refine Model.predict_congr htrained htrained' rfl rfl rfl fun rows hrows => ?_
    obtain ⟨count, a⟩ := rows
    have hm : count ≠ 0 := by
      rintro rfl
      exact hsome ((Model.readsNoRows_iff htrained).mpr ⟨a, hrows⟩)
    have hpredict := Pls1.predict_of_fit ht hpls1 ((plan.envelope flat x' y').x.apply a)
    rw [Fitted.predict_kernelPls hx hn hp hkernelFit _ hm, ← hregression, ← hpredict]
    rfl

open FourRows in
/-- Both methods fit one component to the four rows, in two passes, and agree on it; of no rows one
predicts nothing and the other fails. -/
theorem kernelPls_agrees_with_pls1_on_four_rows :
    (pls1.fit tools predictors responses).2.outcome = .ok () ∧
      (kernelPls.fit tools predictors responses).2.outcome = .ok () ∧
      (kernelPls.fit tools predictors responses).1.passes = [2] ∧
      (∀ new, (pls1.fit tools predictors responses).1.predict new =
        (kernelPls.fit tools predictors responses).1.predict new ↔
          ¬ (pls1.fit tools predictors responses).1.ReadsNoRows new) ∧
      (pls1.fit tools predictors responses).1.predict noRows ≠
        (kernelPls.fit tools predictors responses).1.predict noRows := by
  have hpasses : ∀ k ∈ (kernelPls.fit tools predictors responses).1.passes, 2 ≤ k := by
    rw [kernelPls_fit.2]
    decide
  have h := kernelPls_agrees_with_pls1 tools_exact.toExactInverse pls1 kernelPls predictors
    responses _ _ _ rfl rfl rfl rfl (.inl (Model.scheme_of_checkPlan checkPlan_eq)) pls1_fit
    kernelPls_fit.1 hpasses
  exact ⟨pls1_fit, kernelPls_fit.1, kernelPls_fit.2, fun new => (h new).1,
    fun heq => (h noRows).1.mp heq readsNoRows⟩

end PartialLeastSquares
