/-
# What an orthogonal filter protects

The direction `w` of the covariance is computed once, from the whole predictors, and the predictors
change under it while the components are removed.  It stays the direction of the covariance all the
same: a weight is orthogonal to `w`, so its score is orthogonal to the response, so its removal does
not touch the covariance (`Extracts.keeps`).  That step is the invariant of the loop, and what is
said here of the response is read off it.

What is said of the components among each other needs no response.  A weight that was removed is a
direction that the predictors have lost, and the image of `w`, from which the next weights are
taken, has nothing along such a direction (`Extracts.weight_dot_eq_zero`).

The filter of new rows removes all components at once and is another map than the removals one by
one, but it protects the covariance for a simpler reason: the weights are orthogonal to it.
-/
import Mathlib
import PartialLeastSquares.Proofs.OrthogonalFilter.Agreement
import PartialLeastSquares.Proofs.OrthogonalFilter.Filtering
import PartialLeastSquares.Proofs.Rank

namespace PartialLeastSquares

open Matrix

variable {n p : ℕ}

namespace OrthogonalFilter

variable {w : Vec ℝ p} {x x' : Mat ℝ n p} {y : Vec ℝ n} {c : Component ℝ n p}
  {cs : List (Component ℝ n p)}

/-! ## 1. One step -/

/-- **A step keeps the direction of the covariance.** -/
theorem Extracts.keeps (hw : Keeps x y w) (h : Extracts w x c x') : Keeps x' y w :=
  hw.chain (.cons h (.nil x'))

/-! ## 2. The components of a chain -/

theorem chain_unit (h : Chain (Extracts w) x cs x') :
    ∀ c ∈ cs, c.weight.coords ⬝ᵥ c.weight.coords = 1 :=
  h.forall_mem (I := fun _ => True) trivial fun _ _ _ _ hc => ⟨hc.unit, trivial⟩

theorem chain_kept (h : Chain (Extracts w) x cs x') :
    ∀ c ∈ cs, c.weight.coords ⬝ᵥ w.coords = 0 :=
  h.forall_mem (I := fun _ => True) trivial fun _ _ _ _ hc => ⟨hc.kept, trivial⟩

theorem chain_score_pos (h : Chain (Extracts w) x cs x') :
    ∀ c ∈ cs, 0 < c.score.coords ⬝ᵥ c.score.coords :=
  h.forall_mem (I := fun _ => True) trivial fun _ _ _ _ hc => ⟨hc.deflates.score_pos, trivial⟩

/-- **The weights are orthogonal in pairs:** the first one is lost to all that follow. -/
theorem chain_weights_pairwise (h : Chain (Extracts w) x cs x') :
    cs.Pairwise fun c d => c.weight.coords ⬝ᵥ d.weight.coords = 0 := by
  induction h with
  | nil => exact .nil
  | @cons x _ _ c _ first rest ih =>
    refine .cons (rest.forall_mem (I := fun left => left.matrix *ᵥ c.weight.coords = 0)
      first.deflates.mulVec_weight fun left d left' hlost hd => ?_) ih
    refine ⟨?_, hd.deflates.mulVec_eq_zero hlost⟩
    rw [dotProduct_comm]
    exact hd.weight_dot_eq_zero hlost ((dotProduct_comm _ _).trans first.kept)

/-- **So are the scores:** the first one explains nothing of what follows. -/
theorem chain_scores_pairwise (h : Chain (Extracts w) x cs x') :
    cs.Pairwise fun c d => c.score.coords ⬝ᵥ d.score.coords = 0 := by
  induction h with
  | nil => exact .nil
  | cons first rest ih =>
    refine .cons (fun d hd => ?_) ih
    rw [dotProduct_comm]
    exact (chain_unexplained rest first.deflates.transpose_mulVec_score).1 d hd

/-- **The scores say nothing of the response,** because every step finds the direction kept. -/
theorem chain_score_dot_response (hw : Keeps x y w) (h : Chain (Extracts w) x cs x') :
    ∀ c ∈ cs, c.score.coords ⬝ᵥ y.coords = 0 :=
  h.forall_mem hw fun _ _ _ hkeeps hc => ⟨hc.score_dot_response hkeeps, hc.keeps hkeeps⟩

/-- **The removals leave the covariance as it was.** -/
theorem chain_covariance (hw : Keeps x y w) (h : Chain (Extracts w) x cs x') :
    x'.matrixᵀ *ᵥ y.coords = x.matrixᵀ *ᵥ y.coords := by
  induction h with
  | nil => rfl
  | cons first _ ih => rw [ih (first.keeps hw), first.covariance_left hw]

/-- **So does the filter,** for weights that are orthogonal to it. -/
theorem apply_covariance
    (h : (weights cs).matrixᵀ *ᵥ (x.matrixᵀ *ᵥ y.coords) = 0) :
    (apply cs x).matrixᵀ *ᵥ y.coords = x.matrixᵀ *ᵥ y.coords := by
  rw [matrix_apply, transpose_sub, transpose_mul, transpose_mul, transpose_transpose, sub_mulVec,
    ← mulVec_mulVec, ← mulVec_mulVec, h, mulVec_zero, sub_zero]

/-! ## 3. A fitted filter -/

/-- **What a filter protects** of predictors and a response.  The weights are orthonormal, and
orthogonal to the covariance, along which the initial weight points.  No score is zero; the scores
are orthogonal in pairs and to the response.  What the removals leave is orthogonal to them, and
both that and what the filter leaves have the covariance of the whole with the response. -/
structure Protects (f : Fit ℝ n p) (x : Mat ℝ n p) (y : Vec ℝ n) : Prop where
  weights_orthonormal : (weights f.components).matrixᵀ * (weights f.components).matrix = 1
  weights_covariance : (weights f.components).matrixᵀ *ᵥ (x.matrixᵀ *ᵥ y.coords) = 0
  scores_ne_zero : ∀ j, ((scores f.components).col j).coords ≠ 0
  scores_orthogonal : ∀ i j, i ≠ j →
    ((scores f.components).col i).coords ⬝ᵥ ((scores f.components).col j).coords = 0
  scores_response : (scores f.components).matrixᵀ *ᵥ y.coords = 0
  residual_scores : f.residual.matrixᵀ * (scores f.components).matrix = 0
  residual_covariance : f.residual.matrixᵀ *ᵥ y.coords = x.matrixᵀ *ᵥ y.coords
  transform_covariance : (f.transform x).matrixᵀ *ᵥ y.coords = x.matrixᵀ *ᵥ y.coords

/-- **A chain of steps that keep the direction of the covariance protects it.** -/
theorem protects_of_chain (hw : Keeps x y w) (h : Chain (Extracts w) x cs x') :
    Protects ⟨cs, x'⟩ x y := by
  obtain ⟨a, -, hcov⟩ := hw.covariance
  have hweights : (weights cs).matrixᵀ *ᵥ (x.matrixᵀ *ᵥ y.coords) = 0 := by
    refine Mat.ofCols_transpose_mulVec_eq_zero fun c hc => ?_
    rw [hcov, dotProduct_smul, chain_kept h c hc, smul_zero]
  have hscores : (scores cs).matrixᵀ * (scores cs).matrix =
      diagonal fun j => (cs.get j).score.coords ⬝ᵥ (cs.get j).score.coords :=
    Mat.ofCols_gram_eq_diagonal (chain_scores_pairwise h)
  refine ⟨?_, hweights, fun j hzero => ?_, fun i j hij => ?_,
    Mat.ofCols_transpose_mulVec_eq_zero (chain_score_dot_response hw h), chain_residual h,
    chain_covariance hw h, apply_covariance hweights⟩
  · rw [weights, Mat.ofCols_gram_eq_diagonal (chain_weights_pairwise h)]
    exact (congrArg diagonal (funext fun j => chain_unit h _ (List.get_mem _ j))).trans diagonal_one
  · have hpos := chain_score_pos h _ (List.get_mem cs j)
    rw [scores, Mat.col_ofCols] at hzero
    rw [hzero, dotProduct_zero] at hpos
    exact lt_irrefl _ hpos
  · have hentry := congrFun (congrFun hscores i) j
    rw [diagonal_apply_ne _ hij, scores, Mat.ofCols_transpose_mul_apply] at hentry
    rw [scores, Mat.col_ofCols, Mat.col_ofCols]
    exact hentry

end OrthogonalFilter

/-! ## 4. Trainings -/

/-- **A filter that has been fitted protects the response.**  Whatever model follows it and however
many components it has, `W_orth` is orthonormal and orthogonal to the covariance of predictors and
response, `T_orth` has columns that are not zero and are orthogonal in pairs and to the response,
`X_osc` is orthogonal to them, and neither the removals nor the filter touch the covariance. -/
theorem trainOpls_protects {follow : Mat ℝ n p → Mat ℝ n 1 → Run ℝ (Fitted ℝ n p 1)} {count : ℕ}
    {env : Envelope ℝ p 1} {x : Mat ℝ n p} {y : Mat ℝ n 1} {f : Fitted ℝ n p 1}
    (h : (trainOpls follow count env x y).outcome = .ok f) :
    ∃ filter base, f = .opls env filter base ∧ filter.components.length = count ∧
      f.matrix? "W_orth" = some ⟨p, _, OrthogonalFilter.weights filter.components⟩ ∧
      f.matrix? "T_orth" = some ⟨n, _, OrthogonalFilter.scores filter.components⟩ ∧
      f.matrix? "X_osc" = some ⟨n, p, filter.residual⟩ ∧
      OrthogonalFilter.Protects filter x y.only := by
  obtain ⟨residual, base, hending, -, rfl⟩ := trainOpls_eq_ok_iff.mp h
  obtain ⟨w, hw, hchain, hlength⟩ := OrthogonalFilter.keeps_of_extraction hending
  exact ⟨_, base, rfl, hlength, rfl, rfl, rfl, OrthogonalFilter.protects_of_chain hw hchain⟩

namespace ThreeRows

noncomputable def follow (filtered : Mat ℝ 3 3) (response : Mat ℝ 3 1) :
    Run ℝ (Fitted ℝ 3 3 1) := do
  let inner ← Run.silent (checkFollowing .pls1 (.int 1) (.text "none") filtered response)
  train tools .pls1 inner false filtered response

/-- The statistics of the rows, which are taken as they are. -/
noncomputable def envelope : Envelope ℝ 3 1 := plan.envelope true x (Mat.ofCol y)

theorem trainOpls_eq : (trainOpls follow 2 envelope x (Mat.ofCol y)).outcome =
    .ok (.opls envelope ⟨[first, second], remainder⟩ follower) := by
  have hextraction : OrthogonalFilter.extraction x (Mat.ofCol y).only 2 =
      ⟨[first, second], .ok remainder⟩ := by
    rw [Mat.only_ofCol]
    exact extraction_two
  have hresponse : (plan.scheme.learn (Mat.ofCol y)).apply (Mat.ofCol y) = Mat.ofCol y :=
    ColumnStats.trivial_apply _
  have hfiltered : plan.filtered x (Mat.ofCol y) = OrthogonalFilter.apply [first, second] x :=
    filtered_eq.trans apply_two.symm
  have hcheck := checkFollowing_eq
  have htrain := train_follower
  rw [hresponse, hfiltered] at hcheck htrain
  have hfollow : (follow (OrthogonalFilter.apply [first, second] x) (Mat.ofCol y)).outcome =
      .ok follower := Run.outcome_bind_eq_ok_iff.mpr ⟨⟨1, .none⟩, hcheck, htrain⟩
  refine trainOpls_eq_ok_iff.mpr ⟨remainder, follower, ?_, ?_, ?_⟩
  · rw [hextraction]
  · rw [hextraction]
    exact hfollow
  · rw [hextraction]

end ThreeRows

open ThreeRows in
/-- Two components of three rows, followed by a model of one component. -/
theorem trainOpls_protects_three_rows :
    (trainOpls follow 2 envelope x (Mat.ofCol y)).outcome =
        .ok (.opls envelope ⟨[first, second], remainder⟩ follower) ∧
      ∃ filter base, (Fitted.opls envelope ⟨[first, second], remainder⟩ follower) =
          .opls envelope filter base ∧ filter.components.length = 2 ∧
        OrthogonalFilter.Protects filter x (Mat.ofCol y).only := by
  obtain ⟨filter, base, hf, hlength, -, -, -, hprotects⟩ := trainOpls_protects trainOpls_eq
  exact ⟨trainOpls_eq, filter, base, hf, hlength, hprotects⟩

end PartialLeastSquares
