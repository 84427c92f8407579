/-
# What the data allows

A model asks for `n_components`, and the rank of its data says how many there can be
(`Estimator.capacity`): the rank of the preprocessed predictors, one less for an orthogonal
filter, and for the method in feature space the rank of the centered kernel of the training rows,
which is smaller than the number of rows.  A fit that succeeds has asked for no more.  One that
asks for more fails, and so does one that has nothing to predict or nothing to predict it from;
whatever the model had learned before is gone then (`Model.fit_within_capacity`).
-/
import Mathlib
import PartialLeastSquares.Proofs.KernelPls.Rank
import PartialLeastSquares.Proofs.Model.Nesting
import PartialLeastSquares.Proofs.Pls1.Regression

namespace PartialLeastSquares

open Matrix

variable {n p q : ℕ}

/-! ## 1. Capacities -/

/-- **The rank of the centered kernel** of training rows, when there is such a kernel. -/
noncomputable def kernelRank (kernel : Estimator) (x : Mat ℝ n p) : ℕ :=
  match (kernelOf kernel : Except (ModelError ℝ) Kernel) with
  | .error _ => 0
  | .ok k =>
    match k.selfGram ((Scheme.center.learn x).apply x) with
    | .error _ => 0
    | .ok raw => (centerKernel raw).matrix.rank

/-- **How many components there can be at most,** for a method and the predictors that it sees. -/
noncomputable def Estimator.capacity (method : Estimator) (x : Mat ℝ n p) : ℕ :=
  match method with
  | .kernelPls k _ _ _ => kernelRank k x
  | .opls _ => x.matrix.rank - 1
  | _ => x.matrix.rank

/-- A kernel of the rows has fewer dimensions than there are rows. -/
theorem kernelRank_le (kernel : Estimator) (x : Mat ℝ n p) : kernelRank kernel x ≤ n - 1 := by
  unfold kernelRank
  split
  · exact Nat.zero_le _
  · split
    · exact Nat.zero_le _
    · rename_i k _ raw hraw
      obtain ⟨-, ⟨hn, -⟩, -⟩ := Kernel.selfGram_eq_ok_iff.mp hraw
      have hlt := rank_centerKernel_lt hn raw
      omega

/-- Rows that are all the same have a kernel of no dimension. -/
theorem kernelRank_of_constant {x : Mat ℝ n p} (h : x.Constant) (kernel : Estimator) :
    kernelRank kernel x = 0 := by
  unfold kernelRank
  split
  · rfl
  · split
    · rfl
    · rename_i hraw
      obtain ⟨-, -, f, -, rfl⟩ := Kernel.selfGram_eq_ok_iff.mp hraw
      exact rank_centerKernel_of_constant
        (fun i i' => ColumnStats.row_apply_congr _ (h i i')) f

/-- **Rows of which nothing is left by a scheme** allow no components. -/
theorem Estimator.capacity_of_constant (method : Estimator) {scheme : Scheme} {x : Mat ℝ n p}
    (hscheme : scheme ≠ .none) (h : x.Constant) :
    method.capacity ((scheme.learn x).apply x) = 0 := by
  have hsame : ((scheme.learn x).apply x).Constant := fun i i' =>
    ColumnStats.row_apply_congr _ (h i i')
  have hzero := (Scheme.centered_of_ne_none hscheme x).eq_zero hsame
  unfold capacity
  split
  · exact kernelRank_of_constant hsame _
  · rw [hzero, rank_zero]
  · rw [hzero, rank_zero]

theorem Estimator.capacity_methodOr (e : Estimator) (x : Mat ℝ n p) :
    e.methodOr.capacity x = e.capacity x := by
  cases e with
  | plain v => cases v <;> rfl
  | _ => rfl

/-! ## 2. Trainings -/

section Trains

variable {tools : Toolkit ℝ} {method : Estimator} {plan : Plan} {flat : Bool} {x : Mat ℝ n p}
  {y : Mat ℝ n q} {f : Fitted ℝ n p q}

/-- **Whatever has been trained has no more components than the data allows.** -/
theorem Trains.components_le_capacity (ht : tools.Exact)
    (h : Trains tools method plan flat x y f) :
    plan.components ≤ method.capacity (plan.predictors x) := by
  cases h with
  | pls1 named made =>
    obtain ⟨r, hend, -⟩ := Pls1.chain_of_fit made
    rw [← Estimator.capacity_methodOr, named]
    exact Pls1.count_le_rank hend
  | transformOnly made =>
    obtain ⟨r, hend, -⟩ := Pls1.chain_of_fit made
    exact Pls1.count_le_rank hend
  | simpls ended => exact Simpls.count_le_rank ht ended
  | @kernelPls _ kernel tol maxIter seed _ _ _ _ settings stats k data r fit named centered prepared
      ended made =>
    obtain rfl := Except.ok.inj ((KernelPls.center_real _ _).symm.trans centered)
    obtain ⟨raw, hraw, hdata⟩ := bind_eq_ok_iff.mp prepared
    obtain rfl := Except.ok.inj hdata
    have hrank : kernelRank kernel (plan.predictors x) = (centerKernel raw).matrix.rank := by
      unfold kernelRank
      simp only [named, hraw]
    exact (KernelPls.count_le_rank ended).trans_eq hrank.symm
  | opls following ended =>
    have hlt := OrthogonalFilter.count_lt_rank ended
    exact Nat.le_sub_one_of_lt hlt

/-- A response that is not zero comes from responses that are not. -/
theorem Plan.responses_ne_zero {plan : Plan} {y : Mat ℝ n 1} (h : (plan.response y).coords ≠ 0) :
    ((plan.scheme.learn y).apply y).matrix ≠ 0 := fun hzero => h <| funext fun i => by
  rw [Plan.response, Mat.coords_only, hzero]
  rfl

/-- **Nothing is trained without a response.** -/
theorem Trains.responses_ne_zero (ht : tools.Exact) (h : Trains tools method plan flat x y f)
    (hcount : plan.components ≠ 0) : ((plan.scheme.learn y).apply y).matrix ≠ 0 := by
  cases h with
  | pls1 named made =>
    obtain ⟨r, hend, -⟩ := Pls1.chain_of_fit made
    exact Plan.responses_ne_zero (Pls1.response_ne_zero hend hcount)
  | transformOnly made =>
    obtain ⟨r, hend, -⟩ := Pls1.chain_of_fit made
    exact Plan.responses_ne_zero (Pls1.response_ne_zero hend hcount)
  | simpls ended => exact Plan.responses_ne_zero (Simpls.response_ne_zero ht ended hcount)
  | kernelPls named centered prepared ended made =>
    obtain rfl := Except.ok.inj ((KernelPls.center_real _ _).symm.trans centered)
    obtain ⟨-, -, fn, -, rfl⟩ := KernelPls.prepare_kernel_eq_ok_iff.mp prepared
    intro hzero
    have hcentered : ((plan.scheme.learn y).apply y).Centered := fun j => by
      rw [hzero]
      exact Finset.sum_const_zero
    refine KernelPls.responses_ne_zero ended hcount ?_
    dsimp only
    rw [Scheme.center_learn hcentered, ColumnStats.trivial_apply, hzero]
  | opls following ended => exact Plan.responses_ne_zero (OrthogonalFilter.response_ne_zero ended)

end Trains

/-! ## 3. Models -/

/-- A model that has learned something before, and asks for three components. -/
noncomputable def CrossedRows.overfull : Model ℝ :=
  ⟨.pls1, .int 3, .text "center", some ⟨4, 2, 1, follower⟩⟩

namespace Model

/-- A model that was accepted and could not be fitted has learned nothing. -/
theorem fit_of_error {K : Type} [Scalar K] {tools : Toolkit K} {m : Model K} {x y : Reading K}
    {accepted : Accepted K} (hvalid : m.validate x y = .ok accepted)
    (hfails : (m.fit tools x y).2.outcome ≠ .ok ()) :
    ∃ e, (m.fit tools x y).2.outcome = .error e ∧ (m.fit tools x y).1.trained = none := by
  obtain ⟨plan, sample⟩ := accepted
  unfold fit at hfails ⊢
  rw [hvalid] at hfails ⊢
  dsimp only at hfails ⊢
  split at hfails
  · rename_i e _
    exact ⟨e, rfl, rfl⟩
  · exact absurd rfl hfails

variable {tools : Toolkit ℝ}

/-- **A fit succeeds only within what the data allows.**  If it succeeds, the number of components
is at most the capacity of the method for the preprocessed predictors, and in feature space it is
less than the number of rows.  An accepted fit that asks for more, or whose scheme subtracts means
while the responses or the rows of predictors are all the same, ends in an error and leaves a model
that has learned nothing.  A fit that is not even accepted is an error as well, and leaves the
model alone. -/
theorem fit_within_capacity (ht : tools.Exact) (m : Model ℝ) (x y : Reading ℝ) :
    ((m.fit tools x y).2.outcome = .ok () →
      ∃ (plan : Plan) (sample : Sample ℝ), m.validate x y = .ok ⟨plan, sample⟩ ∧
        plan.components ≤ m.algorithm.capacity (plan.predictors sample.x) ∧
        ∀ kernel tol maxIter seed, m.algorithm = .kernelPls kernel tol maxIter seed →
          plan.components ≤ sample.rows - 1) ∧
    (∀ (plan : Plan) (sample : Sample ℝ), m.validate x y = .ok ⟨plan, sample⟩ →
      (m.algorithm.capacity (plan.predictors sample.x) < plan.components ∨
        plan.scheme ≠ .none ∧ (sample.y.Constant ∨ sample.x.Constant)) →
      ∃ e, (m.fit tools x y).2.outcome = .error e ∧ (m.fit tools x y).1.trained = none) ∧
    ∀ e, m.validate x y = .error e → m.fit tools x y = (m, .fail e) := by
  have hwithin : ∀ (plan : Plan) (sample : Sample ℝ), m.validate x y = .ok ⟨plan, sample⟩ →
      (m.fit tools x y).2.outcome = .ok () →
      plan.components ≤ m.algorithm.capacity (plan.predictors sample.x) ∧
        ((plan.scheme.learn sample.y).apply sample.y).matrix ≠ 0 ∧ 1 ≤ plan.components := by
    intro plan sample hvalid hfit
    obtain ⟨plan', sample', f, hvalid', htrains, -⟩ := exists_trains_of_fit hfit
    obtain ⟨rfl, rfl⟩ := Accepted.mk.inj (Except.ok.inj (hvalid'.symm.trans hvalid))
    have hpos := (components_of_checkPlan (validate_eq_ok_iff.mp hvalid).1).2
    rw [← Estimator.capacity_methodOr]
    exact ⟨htrains.components_le_capacity ht,
      htrains.responses_ne_zero ht (Nat.one_le_iff_ne_zero.mp hpos), hpos⟩
  refine ⟨fun hfit => ?_, fun plan sample hvalid hbeyond => fit_of_error hvalid fun hfit => ?_,
    fun e => fit_of_validate_error⟩
  · obtain ⟨plan, sample, f, hvalid, -⟩ := exists_trains_of_fit hfit
    obtain ⟨hle, -⟩ := hwithin plan sample hvalid hfit
    refine ⟨plan, sample, hvalid, hle, fun kernel tol maxIter seed hmethod => ?_⟩
    rw [hmethod] at hle
    exact hle.trans (kernelRank_le kernel _)
  · obtain ⟨hle, hresponses, hpos⟩ := hwithin plan sample hvalid hfit
    rcases hbeyond with hlt | ⟨hscheme, hy | hx⟩
    · exact hle.not_gt hlt
    · exact hresponses ((Scheme.centered_of_ne_none hscheme sample.y).eq_zero fun i i' =>
        ColumnStats.row_apply_congr _ (hy i i'))
    · rw [Plan.predictors, m.algorithm.capacity_of_constant hscheme hx] at hle
      omega

/-- Four rows of two predictors allow two components.  A model that asks for a third is not fitted,
and loses what it had learned. -/
theorem fit_within_capacity_crossed_rows :
    (CrossedRows.pls1.fit CrossedRows.tools CrossedRows.predictors CrossedRows.responses).2.outcome =
        .ok () ∧ 2 ≤ CrossedRows.x.matrix.rank ∧
      CrossedRows.overfull.trained ≠ none ∧
      ∃ e, (CrossedRows.overfull.fit CrossedRows.tools CrossedRows.predictors
          CrossedRows.responses).2.outcome = .error e ∧
        (CrossedRows.overfull.fit CrossedRows.tools CrossedRows.predictors
          CrossedRows.responses).1.trained = none := by
  have htwo : CrossedRows.pls1.validate CrossedRows.predictors CrossedRows.responses =
      .ok ⟨⟨2, .center⟩, ⟨4, 2, 1, CrossedRows.x, CrossedRows.observed, true⟩⟩ :=
    validate_eq_ok_iff.mpr ⟨by cbv, CrossedRows.readSample_eq, rfl⟩
  have hplan : checkPlan (.int 3) (.text "center") = .ok ⟨3, .center⟩ := by cbv
  have hthree : CrossedRows.overfull.validate CrossedRows.predictors CrossedRows.responses =
      .ok ⟨⟨3, .center⟩, ⟨4, 2, 1, CrossedRows.x, CrossedRows.observed, true⟩⟩ :=
    validate_eq_ok_iff.mpr ⟨hplan, CrossedRows.readSample_eq, rfl⟩
  refine ⟨CrossedRows.pls1_fit, ?_, by simp [CrossedRows.overfull], ?_⟩
  · obtain ⟨plan, sample, hvalid, hle, -⟩ := (fit_within_capacity CrossedRows.tools_exact
      CrossedRows.pls1 CrossedRows.predictors CrossedRows.responses).1 CrossedRows.pls1_fit
    obtain ⟨rfl, rfl⟩ := Accepted.mk.inj (Except.ok.inj (htwo.symm.trans hvalid))
    rwa [Plan.predictors_of_centered CrossedRows.x_centered] at hle
  · refine (fit_within_capacity CrossedRows.tools_exact CrossedRows.overfull CrossedRows.predictors
      CrossedRows.responses).2.1 _ _ hthree (.inl ?_)
    rw [Plan.predictors_of_centered CrossedRows.x_centered]
    exact Nat.lt_succ_of_le (rank_le_width _)

end Model

end PartialLeastSquares
