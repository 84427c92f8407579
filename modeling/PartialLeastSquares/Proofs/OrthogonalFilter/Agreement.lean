/-
# A filter of one component agrees with two components

One component orthogonal to the response, and one component of what is left, predict what two
components of the whole predict (`opls_agrees_with_pls1`).

Both begin with the direction `w` of the covariance.  The filter takes the direction in which the
image of `w` leaves it, so the two directions span the Krylov space of two dimensions
(`krylov_two_le`).  The score that is filtered explains nothing of the response, and what is
filtered covaries with the response as the whole did.  So the solution for the filtered predictors,
seen through the filter, is a least-squares solution within that space, and there is only one.

The model after the filter centers its data once more.  Filtered predictors are centered if the
predictors were, so this changes nothing.
-/
import Mathlib
import PartialLeastSquares.Proofs.Model.Nesting
import PartialLeastSquares.Proofs.OrthogonalFilter.Component
import PartialLeastSquares.Proofs.Pls1.Regression

namespace PartialLeastSquares

open Matrix

open scoped Matrix.Norms.L2Operator

variable {n m p : ℕ}

/-! ## 1. Two directions -/

namespace OrthogonalFilter

section Directions

variable {x x' : Mat ℝ n p} {y : Vec ℝ n} {w : Vec ℝ p} {c : Component ℝ n p}

theorem Keeps.mem_krylov (h : Keeps x y w) (k : ℕ) :
    w.coords ∈ krylov x.matrix y.coords (k + 1) := by
  obtain ⟨a, ha, hcov⟩ := h.covariance
  have hmem : a • w.coords ∈ krylov x.matrix y.coords (k + 1) := hcov ▸ covariance_mem_krylov
  exact (Submodule.smul_mem_iff _ ha.ne').mp hmem

theorem Extracts.weight_mem_krylov (hw : Keeps x y w) (h : Extracts w x c x') :
    c.weight.coords ∈ krylov x.matrix y.coords 2 := by
  obtain ⟨s, ν, hs, hν, himage⟩ := h.image
  have hscaled : s • (w.coords + ν • c.weight.coords) ∈ krylov x.matrix y.coords 2 := by
    rw [← himage]
    exact mulVec_mem_krylov_succ (hw.mem_krylov 0)
  have hsum := (Submodule.smul_mem_iff _ hs.ne').mp hscaled
  have hmul : ν • c.weight.coords ∈ krylov x.matrix y.coords 2 :=
    (Submodule.add_mem_iff_right _ (hw.mem_krylov 1)).mp hsum
  exact (Submodule.smul_mem_iff _ hν.ne').mp hmul

/-- **The two directions span the Krylov space** of two dimensions. -/
theorem Extracts.krylov_two_le (hw : Keeps x y w) (h : Extracts w x c x') :
    krylov x.matrix y.coords 2 ≤ Submodule.span ℝ {w.coords, c.weight.coords} := by
  obtain ⟨a, -, hcov⟩ := hw.covariance
  obtain ⟨s, ν, -, -, himage⟩ := h.image
  refine Submodule.span_le.mpr ?_
  rintro _ ⟨i, rfl⟩
  refine Submodule.mem_span_pair.mpr ?_
  fin_cases i
  · refine ⟨a, 0, ?_⟩
    simp only [pow_zero, one_mulVec]
    rw [hcov, zero_smul, add_zero]
  · refine ⟨a * s, a * (s * ν), ?_⟩
    simp only [pow_one]
    rw [hcov, mulVec_smul, ← mulVec_mulVec, himage, smul_add, smul_add, mul_smul, mul_smul,
      mul_smul]

/-- **The score that is filtered explains nothing of the response.** -/
theorem Extracts.score_dot_response (hw : Keeps x y w) (h : Extracts w x c x') :
    c.score.coords ⬝ᵥ y.coords = 0 := by
  obtain ⟨a, -, hcov⟩ := hw.covariance
  rw [h.deflates.score, mulVec_dotProduct_eq, hcov, dotProduct_smul, h.kept, smul_zero]

theorem Extracts.covariance_left (hw : Keeps x y w) (h : Extracts w x c x') :
    x'.matrixᵀ *ᵥ y.coords = x.matrixᵀ *ᵥ y.coords := by
  rw [h.deflates.transpose_mulVec, h.score_dot_response hw, zero_smul, sub_zero]

/-! ## 2. One solution -/

/-- What a regression vector for filtered predictors is for the whole ones. -/
noncomputable def unfiltered (c : Component ℝ n p) (r : Vec ℝ p) : Vec ℝ p :=
  r.sub (c.weight.scale (c.loading.dot r))

theorem coords_unfiltered (c : Component ℝ n p) (r : Vec ℝ p) : (unfiltered c r).coords =
    r.coords - (c.loading.coords ⬝ᵥ r.coords) • c.weight.coords := by
  rw [unfiltered, Vec.coords_sub, Vec.coords_scale, Vec.dot_real]

/-- **Filtered rows see a regression vector as the rows see it without the filter.** -/
theorem apply_one_apply (c : Component ℝ n p) (new : Mat ℝ m p) (r : Vec ℝ p) :
    (apply [c] new).apply r = new.apply (unfiltered c r) := by
  have hshare : ((weights [c]).matrix * (loadings [c]).matrixᵀ) *ᵥ r.coords =
      (c.loading.coords ⬝ᵥ r.coords) • c.weight.coords := by
    have hfirst : ((loadings [c]).matrixᵀ *ᵥ r.coords) ⟨0, Nat.one_pos⟩ =
        c.loading.coords ⬝ᵥ r.coords := by
      rw [loadings, Mat.matrix_ofCols]
      rfl
    rw [← mulVec_mulVec, weights, Mat.ofCols_cons_mulVec, Mat.ofCols_nil_mulVec, add_zero]
    exact congrArg (· • c.weight.coords) hfirst
  refine Vec.coords_injective ?_
  rw [Mat.coords_apply, Mat.coords_apply, matrix_apply, sub_mulVec, coords_unfiltered, mulVec_sub,
    ← hshare, mulVec_mulVec]

/-- **The solution for the filtered predictors is one for the whole,** within one dimension more. -/
theorem Extracts.isLeastSquaresOn (hw : Keeps x y w) (h : Extracts w x c x') {r : Vec ℝ p}
    (hr : IsLeastSquaresOn x'.matrix y.coords (krylov x'.matrix y.coords 1) r.coords)
    (hinjective : ∀ v ∈ krylov x.matrix y.coords 2, x.matrix *ᵥ v = 0 → v = 0) :
    IsLeastSquaresOn x.matrix y.coords (krylov x.matrix y.coords 2) (unfiltered c r).coords := by
  have himage : x.matrix *ᵥ (unfiltered c r).coords = x'.matrix *ᵥ r.coords := by
    rw [coords_unfiltered, mulVec_sub, mulVec_smul, ← h.deflates.score, h.deflates.mulVec]
  have hsmaller : krylov x'.matrix y.coords 1 ≤ krylov x.matrix y.coords 2 := by
    refine Submodule.span_le.mpr ?_
    rintro _ ⟨i, rfl⟩
    have hfirst : (x'.matrixᵀ * x'.matrix) ^ (i : ℕ) *ᵥ (x'.matrixᵀ *ᵥ y.coords) =
        x.matrixᵀ *ᵥ y.coords := by
      rw [Nat.lt_one_iff.mp i.isLt, pow_zero, one_mulVec, h.covariance_left hw]
    exact Set.mem_of_eq_of_mem hfirst covariance_mem_krylov
  have hkept : w.coords ∈ krylov x'.matrix y.coords 1 := by
    obtain ⟨a, ha, hcov⟩ := hw.covariance
    exact Keeps.mem_krylov ⟨⟨a, ha, (h.covariance_left hw).trans hcov⟩, hw.unit⟩ 0
  -- the residual is orthogonal to the images of both directions
  have hscore : c.score.coords ⬝ᵥ (y.coords - x'.matrix *ᵥ r.coords) = 0 := by
    rw [dotProduct_sub, h.score_dot_response hw, dotProduct_comm, mulVec_dotProduct_eq,
      h.deflates.transpose_mulVec_score, dotProduct_zero, sub_zero]
  have hdirection : (x.matrix *ᵥ w.coords) ⬝ᵥ (y.coords - x'.matrix *ᵥ r.coords) = 0 := by
    have hsplit : x.matrix *ᵥ w.coords =
        x'.matrix *ᵥ w.coords + (c.loading.coords ⬝ᵥ w.coords) • c.score.coords := by
      rw [h.deflates.mulVec, sub_add_cancel]
    rw [hsplit, add_dotProduct, smul_dotProduct, hscore, smul_zero, add_zero]
    exact hr.normal _ hkept
  refine ⟨?_, fun v hv => ?_, hinjective⟩
  · rw [coords_unfiltered]
    exact Submodule.sub_mem _ (hsmaller hr.mem)
      (Submodule.smul_mem _ _ (h.weight_mem_krylov hw))
  · obtain ⟨a, b, rfl⟩ := Submodule.mem_span_pair.mp (h.krylov_two_le hw hv)
    rw [himage, mulVec_add, mulVec_smul, mulVec_smul, ← h.deflates.score, add_dotProduct,
      smul_dotProduct, smul_dotProduct, hdirection, hscore, smul_zero, smul_zero, add_zero]

end Directions

/-- **A filter of one component** has one, and leaves what its removal leaves. -/
theorem exists_component {x x' : Mat ℝ n p} {y : Vec ℝ n}
    (h : (extraction x y 1).ending = .ok x') :
    ∃ w c, Keeps x y w ∧ Extracts w x c x' ∧ (extraction x y 1).components = [c] ∧
      apply [c] x = x' := by
  obtain ⟨w, hw, hchain, hlength⟩ := keeps_of_extraction h
  obtain ⟨c, hc⟩ := List.length_eq_one_iff.mp hlength
  rw [hc] at hchain
  have hsame : apply [c] x = x' :=
    (chain_apply_eq_iff hchain (List.cons_ne_nil c [])).1.mpr (List.length_singleton)
  cases hchain with
  | cons first rest =>
    cases rest with
    | nil => exact ⟨w, c, hw, first, hc, hsame⟩

/-- **Two components of the whole and one of what a filter leaves** have the same regression
vector, up to the filter. -/
theorem regression_eq_unfiltered {tools : Toolkit ℝ} (ht : tools.ExactInverse) {x x' : Mat ℝ n p}
    {y : Vec ℝ n} {w : Vec ℝ p} {c : Component ℝ n p} (hw : Keeps x y w) (h : Extracts w x c x')
    {f g : Pls1.Fit ℝ n p} (hf : Pls1.fit tools (Pls1.extraction x y 2) = .ok f)
    (hg : Pls1.fit tools (Pls1.extraction x' y 1) = .ok g) :
    f.regression = unfiltered c g.regression := by
  have hwhole := Pls1.regression_isLeastSquaresOn ht hf
  have hleft := Pls1.regression_isLeastSquaresOn ht hg
  exact Vec.coords_injective (hwhole.unique (h.isLeastSquaresOn hw hleft hwhole.injective))

/-- **So they predict alike,** for rows that are filtered on one way and not on the other. -/
theorem predict_apply_eq {tools : Toolkit ℝ} (ht : tools.ExactInverse) {x x' : Mat ℝ n p}
    {y : Vec ℝ n} {f g : Pls1.Fit ℝ n p} (h : (extraction x y 1).ending = .ok x')
    (hf : Pls1.fit tools (Pls1.extraction x y 2) = .ok f)
    (hg : Pls1.fit tools (Pls1.extraction (apply (extraction x y 1).components x) y 1) = .ok g)
    (new : Mat ℝ m p) : g.predict (apply (extraction x y 1).components new) = f.predict new := by
  obtain ⟨w, c, hw, hc, hcomponents, happly⟩ := exists_component h
  rw [hcomponents] at hg ⊢
  have hleft := Pls1.predict_of_fit ht hg (apply [c] new)
  rw [happly] at hg
  rw [hleft, Pls1.predict_of_fit ht hf, apply_one_apply, regression_eq_unfiltered ht hw hc hf hg]

end OrthogonalFilter

/-! ## 3. Trainings -/

theorem Plan.centered_filtered {plan : Plan} {x : Mat ℝ n p} (h : plan.scheme ≠ .none ∨ x.Centered)
    (y : Mat ℝ n 1) : (plan.filtered x y).Centered := by
  rw [Mat.centered_iff]
  exact OrthogonalFilter.apply_transpose_mulVec (Mat.centered_iff.mp (Scheme.centered_learn h)) _

section Trains

variable {tools : Toolkit ℝ} {x : Mat ℝ n p} {y : Mat ℝ n 1} {flat flat' : Bool}

/-- The model that follows a filter by default has one component, and centers. -/
theorem plan_of_default {x : Mat ℝ n p} {y : Mat ℝ n 1} {inner : Plan}
    (h : checkFollowing .pls1 (.int 1) (.text "center") x y = .ok inner) : inner = ⟨1, .center⟩ := by
  have hplan : checkPlan (.int 1) (.text "center") = .ok ⟨1, .center⟩ := by cbv
  exact Except.ok.inj ((checkFollowing_eq_ok_iff.mp h).1.symm.trans hplan)

/-- **What a filter of one component and its default model have learned predicts alike** what two
components have learned, on all rows, and always has a prediction. -/
theorem Trains.predict_opls_eq (ht : tools.ExactInverse) {scheme : Scheme} (hscheme : scheme ≠ .none)
    {base : Estimator} (hbase : base.following = some (.pls1, .int 1, .text "center"))
    {f f' : Fitted ℝ n p 1} (h : Trains tools (.opls base) ⟨1, scheme⟩ flat x y f)
    (h' : Trains tools .pls1 ⟨2, scheme⟩ flat' x y f') (new : Mat ℝ m p) :
    f.predict new = f'.predict new ∧ ∃ a, f.predict new = .ok a := by
  cases h' with
  | @pls1 _ _ _ _ _ fit' _ made' =>
  cases h with
  | pls1 named _ => cases named
  | @opls _ _ _ _ _ _ _ _ residual _ _ following ended accepted follows =>
    obtain ⟨rfl, rfl, rfl⟩ : _ ∧ _ ∧ _ := by simpa using hbase.symm.trans following
    obtain rfl := plan_of_default accepted
    cases follows with
    | @pls1 _ _ _ _ _ fit _ made =>
    -- centered data is not centered again
    have hx : ((⟨1, scheme⟩ : Plan).filtered x y).Centered := Plan.centered_filtered (.inl hscheme) y
    have hy : ((scheme.learn y).apply y).Centered := Scheme.centered_of_ne_none hscheme y
    rw [Plan.predictors_of_centered hx, Plan.response_of_centered hy] at made
    have hrows := OrthogonalFilter.predict_apply_eq ht ended made' made ((scheme.learn x).apply new)
    have hanswer : Fitted.predict (.opls ((⟨1, scheme⟩ : Plan).envelope flat x y)
        ⟨(OrthogonalFilter.extraction ((⟨1, scheme⟩ : Plan).predictors x)
          ((⟨1, scheme⟩ : Plan).response y) 1).components, residual⟩
        (.pls1 ((⟨1, .center⟩ : Plan).envelope false ((⟨1, scheme⟩ : Plan).filtered x y)
          ((scheme.learn y).apply y)) true fit)) new =
            .ok ((scheme.learn y).unapply (Mat.ofCol (fit'.predict ((scheme.learn x).apply new)))) := by
      simp only [Fitted.predict, Fitted.predicts, if_true, Mat.entryProblem?_real]
      rw [← hrows]
      refine congrArg (fun a => Except.ok ((scheme.learn y).unapply a)) ?_
      rw [Plan.envelope, Scheme.center_learn hx, Scheme.center_learn hy,
        ColumnStats.trivial_unapply, ColumnStats.trivial_apply]
      rfl
    exact ⟨hanswer, _, hanswer⟩

end Trains

/-! ## 4. Four rows across -/

namespace CrossedRows

noncomputable def x : Mat ℝ 4 2 := Mat.ofRat !![1, 1; 1, 0; -1, -1; -1, 0]

noncomputable def observed : Mat ℝ 4 1 := Mat.ofCol (Vec.ofRat ![1, 2, 1, 0])

noncomputable def y : Vec ℝ 4 := Vec.ofRat ![0, 1, 0, -1]

noncomputable def kept : Vec ℝ 2 := Vec.ofRat ![1, 0]

noncomputable def orthogonal : OrthogonalFilter.Component ℝ 4 2 :=
  ⟨Vec.ofRat ![0, 1], Vec.ofRat ![1, 0, -1, 0], Vec.ofRat ![1, 1], (2 : ℚ)⟩

noncomputable def filtered : Mat ℝ 4 2 := Mat.ofRat !![0, 0; 1, 0; 0, 0; -1, 0]

noncomputable def predictive : Pls1.Component ℝ 4 2 :=
  ⟨Vec.ofRat ![1, 0], Vec.ofRat ![0, 1, 0, -1], Vec.ofRat ![1, 0], (1 : ℚ), (2 : ℚ)⟩

noncomputable def first : Pls1.Component ℝ 4 2 :=
  ⟨Vec.ofRat ![1, 0], Vec.ofRat ![1, 1, -1, -1], Vec.ofRat ![1, 1 / 2], (1 / 2 : ℚ), (4 : ℚ)⟩

noncomputable def between : Pls1.Residual ℝ 4 2 :=
  ⟨Mat.ofRat !![0, 1 / 2; 0, -1 / 2; 0, -1 / 2; 0, 1 / 2], Vec.ofRat ![-1 / 2, 1 / 2, 1 / 2, -1 / 2]⟩

noncomputable def second : Pls1.Component ℝ 4 2 :=
  ⟨Vec.ofRat ![0, -1], Vec.ofRat ![-1 / 2, 1 / 2, 1 / 2, -1 / 2], Vec.ofRat ![0, -1], (1 : ℚ),
    (1 : ℚ)⟩

/-- Nothing is left by the last component, on either way. -/
noncomputable def rest : Pls1.Residual ℝ 4 2 := ⟨Mat.ofMatrix 0, Vec.ofFn 0⟩

theorem norm_x_le : x.norm ≤ 3 := by
  rw [Mat.norm_real]
  refine Real.sqrt_le_iff.mpr ⟨by norm_num, ?_⟩
  simp [x, dotProduct, Fin.sum_univ_succ]
  norm_num

theorem norm_filtered_le : filtered.norm ≤ 3 := by
  rw [Mat.norm_real]
  refine Real.sqrt_le_iff.mpr ⟨by norm_num, ?_⟩
  simp [filtered, dotProduct, Fin.sum_univ_succ]
  norm_num

theorem norm_y_le : y.norm ≤ 2 := by
  rw [Vec.norm_real]
  refine Real.sqrt_le_iff.mpr ⟨by norm_num, ?_⟩
  simp [y, dotProduct, Fin.sum_univ_succ]
  norm_num

theorem passes {a : Mat ℝ 4 2} (ha : a.norm ≤ 3) {s : ℝ} (hs : 1 ≤ s) :
    Scalar.zeroNorm * (a.norm * y.norm) < s ∧ Scalar.zeroNorm * (a.norm * a.norm) < s := by
  have hy := norm_y_le
  have ha₀ := a.norm_nonneg
  have hy₀ := y.norm_nonneg
  exact ⟨Scalar.zeroNorm_mul_lt (by nlinarith), Scalar.zeroNorm_mul_lt (by nlinarith)⟩

theorem kept_unit : kept.coords ⬝ᵥ kept.coords = 1 := by
  simp [kept, dotProduct]

theorem initialWeight_eq : OrthogonalFilter.initialWeight x y = .ok kept := by
  refine normalize_of_smul (a := 2) ?_ kept_unit (mul_nonneg x.norm_nonneg y.norm_nonneg)
    (passes norm_x_le one_le_two).1
  funext i
  fin_cases i <;> simp [x, y, kept, mulVec, dotProduct, Fin.sum_univ_succ]
  norm_num

theorem deflates_orthogonal : Deflates x.matrix orthogonal.weight.coords orthogonal.score.coords
    orthogonal.loading.coords filtered.matrix := by
  refine ⟨?_, ?_, ?_, ?_⟩
  · funext i
    fin_cases i <;> simp [x, orthogonal, mulVec, dotProduct]
  · simp [orthogonal, dotProduct, Fin.sum_univ_succ]
  · funext i
    fin_cases i <;> simp [x, orthogonal, mulVec, dotProduct, Fin.sum_univ_succ]
  · ext i j
    fin_cases i <;> fin_cases j <;> simp [x, orthogonal, filtered, vecMulVec]

theorem step_orthogonal : OrthogonalFilter.step x.norm kept 0 x = .ok (orthogonal, filtered) := by
  have hscore : orthogonal.score.coords ⬝ᵥ orthogonal.score.coords = 2 := by
    simp [orthogonal, dotProduct, Fin.sum_univ_succ]
    norm_num
  refine OrthogonalFilter.step_of_deflates (t := Vec.ofRat ![1, 1, -1, -1])
    (l := Vec.ofRat ![1, 1 / 2]) (ν := 1 / 2) x.norm_nonneg kept_unit ?_ ?_ deflates_orthogonal
    ?_ ?_ ?_ ?_ (Scalar.zeroNorm_mul_lt (by norm_num)) (passes norm_x_le ?_).2
    (passes norm_x_le ?_).2
  · simp [orthogonal, dotProduct]
  · simp [orthogonal, kept, dotProduct]
  · rw [hscore]
    simp [orthogonal]
  · funext i
    fin_cases i <;> simp [x, kept, mulVec, dotProduct]
  · funext i
    fin_cases i <;> simp [x, mulVec, dotProduct, Fin.sum_univ_succ]
    norm_num
  · funext i
    fin_cases i <;> simp [kept, orthogonal]
  · simp [dotProduct, Fin.sum_univ_succ]
    norm_num
  · rw [hscore]
    norm_num

theorem extraction_orthogonal :
    OrthogonalFilter.extraction x y 1 = ⟨[orthogonal], .ok filtered⟩ := by
  rw [OrthogonalFilter.extraction, initialWeight_eq]
  dsimp only
  rw [extract_succ_ok step_orthogonal, extract_zero]

theorem covariance_predictive :
    filtered.matrixᵀ *ᵥ y.coords = (2 : ℝ) • predictive.weight.coords := by
  funext i
  fin_cases i <;> simp [filtered, y, predictive, mulVec, dotProduct, Fin.sum_univ_succ]
  norm_num

theorem extracts_predictive : Pls1.Extracts ⟨filtered, y⟩ predictive rest where
  covariance := ⟨2, two_pos, covariance_predictive⟩
  unit := by simp [predictive, dotProduct]
  deflates := by
    refine ⟨?_, ?_, ?_, ?_⟩
    · funext i
      fin_cases i <;> simp [filtered, predictive, mulVec, dotProduct]
    · simp [predictive, dotProduct, Fin.sum_univ_succ]
    · funext i
      fin_cases i <;> simp [filtered, predictive, mulVec, dotProduct, Fin.sum_univ_succ]
    · ext i j
      fin_cases i <;> fin_cases j <;> simp [filtered, predictive, rest, vecMulVec]
  coefficient := by simp [y, predictive, dotProduct, Fin.sum_univ_succ]
  response := by
    funext i
    fin_cases i <;> simp [y, predictive, rest]

theorem step_predictive :
    Pls1.step filtered.norm y.norm 0 ⟨filtered, y⟩ = .ok (predictive, rest) := by
  have hsq : predictive.score.coords ⬝ᵥ predictive.score.coords = 2 := by
    simp [predictive, dotProduct, Fin.sum_univ_succ]
    norm_num
  refine Pls1.step_of_extracts filtered.norm_nonneg y.norm_nonneg extracts_predictive
    covariance_predictive (passes norm_filtered_le one_le_two).1 ?_ ?_
  · rw [hsq]
    simp [predictive]
  · rw [hsq]
    exact (passes norm_filtered_le one_le_two).2

theorem covariance_first : x.matrixᵀ *ᵥ y.coords = (2 : ℝ) • first.weight.coords := by
  funext i
  fin_cases i <;> simp [x, y, first, mulVec, dotProduct, Fin.sum_univ_succ]
  norm_num

theorem extracts_first : Pls1.Extracts ⟨x, y⟩ first between where
  covariance := ⟨2, two_pos, covariance_first⟩
  unit := by simp [first, dotProduct]
  deflates := by
    refine ⟨?_, ?_, ?_, ?_⟩
    · funext i
      fin_cases i <;> simp [x, first, mulVec, dotProduct]
    · simp [first, dotProduct, Fin.sum_univ_succ]
      norm_num
    · funext i
      fin_cases i <;> simp [x, first, mulVec, dotProduct, Fin.sum_univ_succ]
      norm_num
    · ext i j
      fin_cases i <;> fin_cases j <;> simp [x, first, between, vecMulVec] <;> norm_num
  coefficient := by
    simp [y, first, dotProduct, Fin.sum_univ_succ]
    norm_num
  response := by
    funext i
    fin_cases i <;> simp [y, first, between] <;> norm_num

theorem step_first : Pls1.step x.norm y.norm 0 ⟨x, y⟩ = .ok (first, between) := by
  have hsq : first.score.coords ⬝ᵥ first.score.coords = 4 := by
    simp [first, dotProduct, Fin.sum_univ_succ]
    norm_num
  refine Pls1.step_of_extracts x.norm_nonneg y.norm_nonneg extracts_first covariance_first
    (passes norm_x_le one_le_two).1 ?_ ?_
  · rw [hsq]
    simp [first]
  · rw [hsq]
    exact (passes norm_x_le (by norm_num)).2

theorem covariance_second :
    between.x.matrixᵀ *ᵥ between.y.coords = (1 : ℝ) • second.weight.coords := by
  funext i
  fin_cases i <;> simp [between, second, mulVec, dotProduct, Fin.sum_univ_succ]
  norm_num

theorem extracts_second : Pls1.Extracts between second rest where
  covariance := ⟨1, one_pos, covariance_second⟩
  unit := by simp [second, dotProduct]
  deflates := by
    refine ⟨?_, ?_, ?_, ?_⟩
    · funext i
      fin_cases i <;> simp [between, second, mulVec, dotProduct] <;> norm_num
    · simp [second, dotProduct, Fin.sum_univ_succ]
      norm_num
    · funext i
      fin_cases i <;> simp [between, second, mulVec, dotProduct, Fin.sum_univ_succ]
      norm_num
    · ext i j
      fin_cases i <;> fin_cases j <;> simp [between, second, rest, vecMulVec] <;> norm_num
  coefficient := by simp [between, second, dotProduct, Fin.sum_univ_succ]
  response := by
    funext i
    fin_cases i <;> simp [between, second, rest]

theorem step_second : Pls1.step x.norm y.norm 1 between = .ok (second, rest) := by
  have hsq : second.score.coords ⬝ᵥ second.score.coords = 1 := by
    simp [second, dotProduct, Fin.sum_univ_succ]
    norm_num
  refine Pls1.step_of_extracts x.norm_nonneg y.norm_nonneg extracts_second covariance_second
    (passes norm_x_le le_rfl).1 ?_ ?_
  · rw [hsq]
    simp [second]
  · rw [hsq]
    exact (passes norm_x_le le_rfl).2

theorem extraction_two : Pls1.extraction x y 2 = ⟨[first, second], .ok rest⟩ := by
  rw [Pls1.extraction, extract_succ_ok step_first, extract_succ_ok step_second, extract_zero]

variable {start : (n seed : ℕ) → Vec ℝ n}

noncomputable def short : Pls1.Fit ℝ 4 2 := ⟨[predictive], Vec.ofRat ![1, 0]⟩

noncomputable def long : Pls1.Fit ℝ 4 2 := ⟨[first, second], Vec.ofRat ![1, -1]⟩

theorem fit_short : Pls1.fit (.exact start) (Pls1.extraction filtered y 1) = .ok short := by
  rw [Pls1.extraction, extract_succ_ok step_predictive, extract_zero]
  refine Pls1.fit_of_one ?_ (funext fun i => ?_)
  · simp [predictive, dotProduct]
  · fin_cases i <;> simp [predictive]

theorem loadings_mul_weights :
    (Mat.tmul (Pls1.loadings [first, second]) (Pls1.weights [first, second])).matrix =
      !![1, -(1 / 2); 0, 1] := by
  rw [Mat.matrix_tmul, Pls1.loadings, Pls1.weights]
  ext i j
  fin_cases i <;> fin_cases j <;> rw [Mat.ofCols_transpose_mul_apply] <;>
    simp [first, second, dotProduct]

noncomputable def inner : Mat ℝ [first, second].length [first, second].length :=
  Mat.ofRat !![1, 1 / 2; 0, 1]

theorem matrix_inner : inner.matrix = !![1, 1 / 2; 0, 1] := by
  rw [inner, Mat.matrix_ofRat]
  ext i j
  fin_cases i <;> fin_cases j <;> simp

theorem invert_loadings_mul_weights :
    invert (.exact start) .loadingsByWeights (Mat.tmul (Pls1.loadings [first, second])
      (Pls1.weights [first, second])) = .ok inner := by
  have hleft : ‖!![1, -(1 / 2 : ℝ); 0, 1]‖ ≤ 2 := by
    refine (Toolkit.norm_shear_le _).trans ?_
    rw [abs_neg, abs_of_pos] <;> norm_num
  have hright : ‖!![1, (1 / 2 : ℝ); 0, 1]‖ ≤ 2 := by
    refine (Toolkit.norm_shear_le _).trans ?_
    rw [abs_of_pos] <;> norm_num
  refine Toolkit.invert_exact ?_ ?_
  · rw [loadings_mul_weights, matrix_inner]
    ext i j
    fin_cases i <;> fin_cases j <;> simp [mul_apply]
  · rw [loadings_mul_weights, matrix_inner]
    refine (mul_le_mul hleft hright (norm_nonneg _) zero_le_two).trans ?_
    rw [Scalar.conditionLimit_real]
    norm_num

theorem fit_long : Pls1.fit (.exact start) (Pls1.extraction x y 2) = .ok long := by
  rw [extraction_two]
  refine Pls1.fit_of_inverse invert_loadings_mul_weights ?_
  rw [matrix_inner, Pls1.weights, Mat.ofCols_cons_mulVec, Mat.ofCols_cons_mulVec,
    Mat.ofCols_nil_mulVec]
  funext i
  fin_cases i <;> simp [Pls1.coefficients, first, second, mulVec, dotProduct]
  norm_num

noncomputable def predictors : Reading ℝ := .array (.ofRat [4, 2] [1, 1, 1, 0, -1, -1, -1, 0])

noncomputable def responses : Reading ℝ := .array (.ofRat [4] [1, 2, 1, 0])

theorem readSample_eq : readSample predictors responses = .ok ⟨4, 2, 1, x, observed, true⟩ := by
  have hx : (NdArray.ofRat [4, 2] [1, 1, 1, 0, -1, -1, -1, 0]).toMat 4 2 = x := by
    refine Mat.ext fun i j => ?_
    fin_cases i <;> fin_cases j <;> simp [NdArray.toMat, x]
  have hy : (NdArray.ofRat [4] [1, 2, 1, 0]).toMat 4 1 = observed := by
    refine Mat.ext fun i j => ?_
    fin_cases i <;> fin_cases j <;> simp [NdArray.toMat, observed]
  rw [predictors, responses, ← hx, ← hy]
  exact readSample_real (by decide) (by decide) _ _ rfl rfl rfl

theorem x_centered : x.Centered := by
  intro j
  fin_cases j <;> simp [x, Fin.sum_univ_succ]

theorem filtered_centered : filtered.Centered := by
  intro j
  fin_cases j <;> simp [filtered, Fin.sum_univ_succ]

theorem mean_observed : (columnMeans observed).get 0 = 1 := by
  rw [columnMeans, Vec.get_ofFn, Scalar.sum_real, Scalar.ofNat_real]
  simp [observed, Fin.sum_univ_succ]
  norm_num

theorem centered_observed : (Scheme.center.learn observed).apply observed = Mat.ofCol y := by
  refine Mat.ext fun i j => ?_
  rw [ColumnStats.get_apply, Subsingleton.elim j 0]
  show (observed.get i 0 - (columnMeans observed).get 0) / (Vec.ofFn fun _ => (1 : ℝ)).get 0 = _
  rw [mean_observed, Vec.get_ofFn]
  fin_cases i <;> simp [observed, y]
  norm_num

theorem y_centered : (Mat.ofCol y).Centered :=
  centered_observed ▸ Scheme.centered_of_ne_none Scheme.noConfusion observed

theorem response_eq {count : ℕ} : (⟨count, .center⟩ : Plan).response observed = y := by
  unfold Plan.response
  rw [centered_observed, Mat.only_ofCol]

theorem response_y_eq {count : ℕ} : (⟨count, .center⟩ : Plan).response (Mat.ofCol y) = y :=
  (Plan.response_of_centered y_centered).trans (Mat.only_ofCol y)

/-- Exact tools, whose iterations start from nothing. -/
noncomputable def tools : Toolkit ℝ := .exact fun _ _ => Vec.zero

theorem tools_exact : tools.Exact := Toolkit.exact_exact

/-- A filter of one component, followed by the default model. -/
noncomputable def opls : Model ℝ := .new (.opls (.plain .null)) (.int 1) (.text "center")

noncomputable def pls1 : Model ℝ := .new .pls1 (.int 2) (.text "center")

theorem filter_eq : OrthogonalFilter.extraction ((⟨1, .center⟩ : Plan).predictors x)
    ((⟨1, .center⟩ : Plan).response observed) 1 = ⟨[orthogonal], .ok filtered⟩ := by
  rw [Plan.predictors_of_centered x_centered, response_eq]
  exact extraction_orthogonal

theorem filtered_eq : (⟨1, .center⟩ : Plan).filtered x observed = filtered := by
  have hchain : Chain (OrthogonalFilter.Extracts kept) x [orthogonal] filtered :=
    .cons (OrthogonalFilter.extracts_of_step x.norm_nonneg kept_unit step_orthogonal) (.nil _)
  rw [Plan.filtered, filter_eq, Plan.predictors_of_centered x_centered]
  exact (OrthogonalFilter.chain_apply_eq_iff hchain (List.cons_ne_nil _ _)).1.mpr rfl

theorem checkFollowing_eq : checkFollowing .pls1 (.int 1) (.text "center") filtered (Mat.ofCol y) =
    .ok ⟨1, .center⟩ :=
  checkFollowing_eq_ok_iff.mpr ⟨by cbv, checkEntries_real _ _, rfl⟩

noncomputable def follower : Fitted ℝ 4 2 1 :=
  .pls1 ((⟨1, .center⟩ : Plan).envelope false filtered (Mat.ofCol y)) true short

theorem train_follower :
    (train tools .pls1 ⟨1, .center⟩ false filtered (Mat.ofCol y)).outcome = .ok follower := by
  refine train_pls1_eq_ok_iff.mpr ⟨short, ?_, rfl⟩
  rw [Plan.predictors_of_centered filtered_centered, response_y_eq]
  exact fit_short

theorem opls_fit : (opls.fit tools predictors responses).2.outcome = .ok () := by
  refine (Model.fit_eq_ok_iff.mpr ⟨⟨1, .center⟩, _, _,
    Model.validate_eq_ok_iff.mpr ⟨by cbv, readSample_eq, rfl⟩,
    train_opls_eq_ok_iff.mpr ⟨.pls1, .int 1, .text "center", filtered, ⟨1, .center⟩, follower, rfl,
      congrArg Extraction.ending filter_eq, ?_, ?_, rfl⟩, rfl⟩).1
  · dsimp only
    rw [filtered_eq, centered_observed]
    exact checkFollowing_eq
  · dsimp only
    rw [filtered_eq, centered_observed]
    exact train_follower

theorem pls1_fit : (pls1.fit tools predictors responses).2.outcome = .ok () := by
  refine (Model.fit_eq_ok_iff.mpr ⟨⟨2, .center⟩, _, _,
    Model.validate_eq_ok_iff.mpr ⟨by cbv, readSample_eq, rfl⟩,
    train_pls1_eq_ok_iff.mpr ⟨long, ?_, rfl⟩, rfl⟩).1
  dsimp only
  rw [Plan.predictors_of_centered x_centered, response_eq]
  exact fit_long

end CrossedRows

/-! ## 5. Models -/

/-- **A filter of one component agrees with two components.**  Of two models with the same scheme
that subtracts means, fitted to the same data, one that filters one component and is followed by the
default model, and one of two components, the predictions are equal for any rows; and they do
predict for all rows that they accept. -/
theorem opls_agrees_with_pls1 {tools : Toolkit ℝ} (ht : tools.ExactInverse) (m m' : Model ℝ)
    (base : Estimator) (x y : Reading ℝ) (hm : m.algorithm = .opls base)
    (hbase : base.following = some (.pls1, .int 1, .text "center"))
    (hm' : m'.algorithm.methodOr = .pls1) (hcount : m.nComponents.strictInteger? = some 1)
    (hcount' : m'.nComponents.strictInteger? = some 2)
    (hscheme : m.preprocessing = m'.preprocessing)
    (hcenter : Scheme.ofValue? m.preprocessing = some .center ∨
      Scheme.ofValue? m.preprocessing = some .standardize)
    (hfit : (m.fit tools x y).2.outcome = .ok ()) (hfit' : (m'.fit tools x y).2.outcome = .ok ()) :
    ∀ new, (m.fit tools x y).1.predict new = (m'.fit tools x y).1.predict new ∧
      ((m.fit tools x y).1.Accepts new ↔ ∃ a, (m.fit tools x y).1.predict new = .ok a) := by
  obtain ⟨plan, sample, f, hvalid, htrains, htrained⟩ := Model.exists_trains_of_fit hfit
  obtain ⟨plan', sample', f', hvalid', htrains', htrained'⟩ := Model.exists_trains_of_fit hfit'
  obtain ⟨hplan, hsample, hmethod⟩ := Model.validate_eq_ok_iff.mp hvalid
  obtain ⟨hplan', hsample', -⟩ := Model.validate_eq_ok_iff.mp hvalid'
  obtain rfl : sample = sample' := Except.ok.inj (hsample.symm.trans hsample')
  -- both plans have the same scheme, and the numbers of components are known
  have hsame : plan.scheme = plan'.scheme := by
    have h := Model.scheme_of_checkPlan hplan
    rw [hscheme, Model.scheme_of_checkPlan hplan'] at h
    exact (Option.some.inj h).symm
  have hne : plan.scheme ≠ .none := fun hnone => by
    rw [Model.scheme_of_checkPlan hplan, hnone] at hcenter
    rcases hcenter with h | h <;> cases h
  have hone : plan.components = 1 := by
    have h := Option.some.inj (hcount.symm.trans (components_of_checkPlan hplan).1)
    omega
  have htwo : plan'.components = 2 := by
    have h := Option.some.inj (hcount'.symm.trans (components_of_checkPlan hplan').1)
    omega
  obtain ⟨count, scheme⟩ := plan
  obtain ⟨count', scheme'⟩ := plan'
  obtain rfl : count = 1 := hone
  obtain rfl : count' = 2 := htwo
  obtain rfl : scheme = scheme' := hsame
  obtain ⟨n, p, q, x', y', flat⟩ := sample
  rw [hm] at htrains hmethod
  rw [hm'] at htrains'
  obtain rfl : q = 1 := eq_one_of_checkMethod (.inr (.inr (.inr ⟨_, rfl⟩))) hmethod
  have hpredict {rows : ℕ} (new : Mat ℝ rows p) := htrains.predict_opls_eq ht hne hbase htrains' new
  have hp : f.predicts = true := htrains.predicts (Estimator.answers_opls hbase)
  have hflat : f.envelope.flat = f'.envelope.flat := by
    rw [htrains.envelope, htrains'.envelope]
    rfl
  exact fun new =>
    ⟨Model.predict_congr htrained htrained' hp (htrains'.predicts rfl) hflat fun rows _ =>
      (hpredict rows.2).1, Model.accepts_iff htrained hp fun rows _ => (hpredict rows.2).2⟩

theorem opls_agrees_with_pls1_on_crossed_rows :
    (CrossedRows.opls.fit CrossedRows.tools CrossedRows.predictors CrossedRows.responses).2.outcome =
        .ok () ∧
      (CrossedRows.pls1.fit CrossedRows.tools CrossedRows.predictors
        CrossedRows.responses).2.outcome = .ok () ∧
      ∀ new, (CrossedRows.opls.fit CrossedRows.tools CrossedRows.predictors
          CrossedRows.responses).1.predict new =
        (CrossedRows.pls1.fit CrossedRows.tools CrossedRows.predictors
          CrossedRows.responses).1.predict new :=
  ⟨CrossedRows.opls_fit, CrossedRows.pls1_fit, fun new =>
    (opls_agrees_with_pls1 CrossedRows.tools_exact.toExactInverse CrossedRows.opls CrossedRows.pls1
      (.plain .null) CrossedRows.predictors CrossedRows.responses rfl rfl rfl rfl rfl rfl
      (.inl (by cbv)) CrossedRows.opls_fit CrossedRows.pls1_fit new).1⟩

end PartialLeastSquares
