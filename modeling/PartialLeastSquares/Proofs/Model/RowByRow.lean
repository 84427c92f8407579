/-
# New rows, one by one

A fitted model answers a call row by row.  What it maps or predicts for the rows of one matrix
followed by the rows of another is what it maps or predicts for the first, followed by what it maps
or predicts for the second (`Model.row_by_row`).

Two things are shown.  A row of an answer is made from the row in its place, for whatever has been
learned (`Fitted.row_transform_congr`, `Fitted.row_predict_congr`); this holds for scalars of any
kind.  And over the reals there is an answer for any rows but none, for what a fit has learned
(`Trains.exists_transform`, `Trains.exists_predict`): a kernel that was applied to the training
rows can be applied to others.  A filter in front of a method for scores alone predicts nothing,
and says so for any rows alike (`Trains.predict_eq_unsupported`).
-/
import Mathlib
import PartialLeastSquares.Proofs.KernelPls.Preparation
import PartialLeastSquares.Proofs.Model.Nesting
import PartialLeastSquares.Proofs.OrthogonalFilter.Agreement
import PartialLeastSquares.Proofs.RowByRow

namespace PartialLeastSquares

variable {n m m' p q : ℕ}

/-! ## 1. What has been learned -/

namespace Fitted

variable {K : Type} [Scalar K] {a : Mat K m p} {a' : Mat K m' p} {i : Fin m} {i' : Fin m'}

/-- **A row is mapped on its own.** -/
theorem row_transform_congr {f : Fitted K n p q} {t : Mat K m f.width} {t' : Mat K m' f.width}
    (ht : f.transform a = .ok t) (ht' : f.transform a' = .ok t') (h : a.row i = a'.row i') :
    t.row i = t'.row i' := by
  have hx := f.envelope.x.row_apply_congr h
  cases f with
  | pls1 env predicts fit =>
    obtain rfl := Except.ok.inj ht
    obtain rfl := Except.ok.inj ht'
    exact fit.row_transform_congr hx
  | simpls env fit =>
    obtain rfl := Except.ok.inj ht
    obtain rfl := Except.ok.inj ht'
    exact fit.row_transform_congr hx
  | kernelPls env fit =>
    have hmapped {l : ℕ} {b : Mat K l p} {u : Mat K l fit.components.length}
        (hu : (kernelPls env fit).transform b = .ok u) : fit.transform (env.x.apply b) = .ok u := by
      cases hfit : fit.transform (env.x.apply b) with
      | error e => simp only [transform, hfit, reduceCtorEq] at hu
      | ok v =>
        simp only [transform, hfit] at hu
        exact congrArg _ (Except.ok.inj hu)
    exact KernelPls.Fit.row_transform_congr (hmapped ht) (hmapped ht') hx
  | opls env filter base =>
    obtain rfl := Except.ok.inj ht
    obtain rfl := Except.ok.inj ht'
    exact filter.row_transform_congr hx

/-- What the method in feature space predicts is put back in the envelope. -/
theorem exists_of_predict_kernelPls {env : Envelope K p q} {fit : KernelPls.Fit K n p q}
    {y : Mat K m q} (h : (kernelPls env fit).predict a = .ok y) :
    ∃ raw, fit.predict (env.x.apply a) = .ok raw ∧ env.y.unapply raw = y := by
  unfold predict at h
  split at h
  · cases h
  · rename_i raw hraw
    split at h
    · cases h
    · exact ⟨raw, hraw, Except.ok.inj h⟩

theorem exists_of_predict_opls {env : Envelope K p 1} {filter : OrthogonalFilter.Fit K n p}
    {base : Fitted K n p 1} {y : Mat K m 1} (h : (opls env filter base).predict a = .ok y) :
    ∃ raw, base.predict (filter.transform (env.x.apply a)) = .ok raw ∧ env.y.unapply raw = y := by
  unfold predict at h
  split at h
  · dsimp only at h
    split at h
    · cases h
    · split at h
      · cases h
      · rename_i raw hraw
        exact ⟨raw, hraw, Except.ok.inj h⟩
  · cases h

/-- **A row is predicted on its own.**  The induction is on the nesting of the filters. -/
theorem row_predict_congr {f : Fitted K n p q} {y : Mat K m q} {y' : Mat K m' q}
    (hy : f.predict a = .ok y) (hy' : f.predict a' = .ok y') (h : a.row i = a'.row i') :
    y.row i = y'.row i' := by
  induction f generalizing a a' with
  | pls1 env predicts fit =>
    cases predicts with
    | false => cases hy
    | true =>
      obtain rfl := Except.ok.inj hy
      obtain rfl := Except.ok.inj hy'
      exact env.y.row_unapply_congr
        (Mat.row_ofCol_congr (fit.get_predict_congr (env.x.row_apply_congr h)))
  | simpls env fit =>
    obtain rfl := Except.ok.inj hy
    obtain rfl := Except.ok.inj hy'
    exact env.y.row_unapply_congr
      (Mat.row_ofCol_congr (fit.get_predict_congr (env.x.row_apply_congr h)))
  | kernelPls env fit =>
    obtain ⟨raw, hraw, rfl⟩ := exists_of_predict_kernelPls hy
    obtain ⟨raw', hraw', rfl⟩ := exists_of_predict_kernelPls hy'
    exact env.y.row_unapply_congr
      (KernelPls.Fit.row_predict_congr hraw hraw' (env.x.row_apply_congr h))
  | opls env filter base ih =>
    obtain ⟨raw, hraw, rfl⟩ := exists_of_predict_opls hy
    obtain ⟨raw', hraw', rfl⟩ := exists_of_predict_opls hy'
    exact env.y.row_unapply_congr
      (ih hraw hraw' (filter.row_transform_congr (env.x.row_apply_congr h)))

omit [Scalar K] in
theorem methodName_of_predicts {f : Fitted K n p q} (h : f.predicts = false) :
    f.methodName = "TransformOnly" := by
  cases f with
  | pls1 env predicts fit =>
    obtain rfl : predicts = false := h
    rfl
  | simpls => cases h
  | kernelPls => cases h
  | opls => cases h

end Fitted

/-! ## 2. Trainings -/

namespace Trains

variable {tools : Toolkit ℝ} {method : Estimator} {plan : Plan} {flat : Bool} {x : Mat ℝ n p}
  {y : Mat ℝ n q} {f : Fitted ℝ n p q}

/-- **Any rows but none are mapped.** -/
theorem exists_transform (h : Trains tools method plan flat x y f) (hm : m ≠ 0) (new : Mat ℝ m p) :
    ∃ t, f.transform new = .ok t := by
  cases h with
  | pls1 => exact ⟨_, rfl⟩
  | transformOnly => exact ⟨_, rfl⟩
  | simpls => exact ⟨_, rfl⟩
  | kernelPls named centered prepared ended made =>
    obtain ⟨fn, hkeeps⟩ := KernelPls.keeps_of_fit centered prepared made
    have hfit := hkeeps.transform_eq hm ((plan.envelope flat x y).x.apply new)
    simp only [Fitted.transform, hfit]
    exact ⟨_, rfl⟩
  | opls => exact ⟨_, rfl⟩

/-- **Any rows but none are predicted,** if the method predicts.  The induction is on the nesting of
the filters. -/
theorem exists_predict (h : Trains tools method plan flat x y f) (hanswers : method.answers = true)
    (hm : m ≠ 0) (new : Mat ℝ m p) : ∃ a, f.predict new = .ok a := by
  induction h generalizing new with
  | pls1 => exact ⟨_, rfl⟩
  | transformOnly => cases hanswers
  | simpls => exact ⟨_, rfl⟩
  | @kernelPls q kernel tol maxIter seed plan flat x y settings stats k data r fit named centered
      prepared ended made =>
    obtain ⟨fn, hkeeps⟩ := KernelPls.keeps_of_fit centered prepared made
    have hfit := KernelPls.Fit.predict_of_transform
      (hkeeps.transform_eq hm ((plan.envelope flat x y).x.apply new))
    simp only [Fitted.predict, hfit, Mat.entryProblem?_real]
    exact ⟨_, rfl⟩
  | @opls base algorithm count scheme plan inner flat x residual y follower following ended accepted
      follows ih =>
    have hinner := (Estimator.answers_opls following).symm.trans hanswers
    obtain ⟨a, ha⟩ := ih hinner (OrthogonalFilter.Fit.transform
      ⟨(OrthogonalFilter.extraction (plan.predictors x) (plan.response y)
        plan.components).components, residual⟩ ((plan.envelope flat x y).x.apply new))
    simp only [Fitted.predict, follows.predicts hinner, if_true, ha, Mat.entryProblem?_real]
    exact ⟨_, rfl⟩

/-- **A method that does not predict predicts no rows,** and gives the reason for which it does
not. -/
theorem predict_eq_unsupported (h : Trains tools method plan flat x y f)
    (hanswers : method.answers = false) (new : Mat ℝ m p) :
    f.predict new = .error (.unsupported "TransformOnly") := by
  induction h generalizing new with
  | pls1 named =>
    rw [Estimator.answers_of_methodOr_pls1 named] at hanswers
    cases hanswers
  | transformOnly => rfl
  | simpls => cases hanswers
  | kernelPls => cases hanswers
  | @opls base algorithm count scheme plan inner flat x residual y follower following ended accepted
      follows ih =>
    have hinner := (Estimator.answers_opls following).symm.trans hanswers
    cases hpredicts : follower.predicts with
    | true => simp only [Fitted.predict, hpredicts, if_true, Mat.entryProblem?_real, ih hinner]
    | false =>
      simp only [Fitted.predict, hpredicts, Bool.false_eq_true, if_false,
        Fitted.methodName_of_predicts hpredicts]

variable {r s : ℕ}

/-- **The rows of two matrices are mapped like those of each.** -/
theorem exists_transform_stack (h : Trains tools method plan flat x y f) (hr : r ≠ 0) (hs : s ≠ 0)
    (a : Mat ℝ r p) (b : Mat ℝ s p) : ∃ u v, f.transform a = .ok u ∧ f.transform b = .ok v ∧
      f.transform (a.stack b) = .ok (u.stack v) := by
  obtain ⟨u, hu⟩ := h.exists_transform hr a
  obtain ⟨v, hv⟩ := h.exists_transform hs b
  obtain ⟨w, hw⟩ := h.exists_transform (fun h => hr (Nat.eq_zero_of_add_eq_zero_right h)) (a.stack b)
  obtain rfl : w = u.stack v := Mat.eq_stack
    (fun i => Fitted.row_transform_congr hw hu (Mat.row_stack_left a b i))
    (fun i => Fitted.row_transform_congr hw hv (Mat.row_stack_right a b i))
  exact ⟨u, v, hu, hv, hw⟩

/-- **They are predicted like those of each,** if the method predicts. -/
theorem exists_predict_stack (h : Trains tools method plan flat x y f)
    (hanswers : method.answers = true) (hr : r ≠ 0) (hs : s ≠ 0) (a : Mat ℝ r p) (b : Mat ℝ s p) :
    ∃ u v, f.predict a = .ok u ∧ f.predict b = .ok v ∧ f.predict (a.stack b) = .ok (u.stack v) := by
  obtain ⟨u, hu⟩ := h.exists_predict hanswers hr a
  obtain ⟨v, hv⟩ := h.exists_predict hanswers hs b
  obtain ⟨w, hw⟩ := h.exists_predict hanswers (fun h => hr (Nat.eq_zero_of_add_eq_zero_right h))
    (a.stack b)
  obtain rfl : w = u.stack v := Mat.eq_stack
    (fun i => Fitted.row_predict_congr hw hu (Mat.row_stack_left a b i))
    (fun i => Fitted.row_predict_congr hw hv (Mat.row_stack_right a b i))
  exact ⟨u, v, hu, hv, hw⟩

end Trains

/-! ## 3. Models -/

/-- An answer for the rows of one matrix, followed by the answer for the rows of another. -/
theorem Trained.answer_stack {K : Type} (t : Trained K) {r s : ℕ} (u : Mat K r t.targets)
    (v : Mat K s t.targets) : t.answer (u.stack v) = (t.answer u).stack (t.answer v) := by
  unfold answer
  split
  · rw [Mat.toList_stack, Nat.add_mul]
    rfl
  · exact NdArray.ofMat_stack u v

namespace Model

theorem columns_of_readRows {K : Type} [Scalar K] {x : Reading K} {rows : (r : ℕ) × Mat K r p}
    (h : readRows x p = .ok rows) : p ≠ 0 := by
  unfold readRows at h
  split at h
  · cases h
  · cases h
  · split at h
    · cases h
    · rename_i t ht
      split at h
      · rename_i hcols
        exact hcols ▸ Table.cols_of_ofArray? ht
      · cases h

theorem readRows_ofMat (hp : p ≠ 0) (a : Mat ℝ m p) :
    readRows (.array (.ofMat a)) p = .ok ⟨m, a⟩ := by
  simp only [readRows, Table.ofArray?_ofMat hp (Mat.entryProblem?_real a), dif_pos]

/-- **New rows are answered one by one.**  What a fitted model maps or predicts for the rows of one
matrix followed by the rows of another is what it maps or predicts for the first followed by what it
maps or predicts for the second, and none of these calls fails; except that a model that predicts
nothing refuses all of them alike. -/
theorem row_by_row {tools : Toolkit ℝ} {m : Model ℝ} {x y : Reading ℝ}
    (hfit : (m.fit tools x y).2.outcome = .ok ()) :
    ∃ t : Trained ℝ, (m.fit tools x y).1.trained = some t ∧
      ∀ {r s : ℕ} (a : Mat ℝ r t.features) (b : Mat ℝ s t.features), r ≠ 0 → s ≠ 0 →
        (∃ (u : Mat ℝ r t.fitted.width) (v : Mat ℝ s t.fitted.width),
          (m.fit tools x y).1.transform (.array (.ofMat a)) = .ok ⟨r, _, u⟩ ∧
          (m.fit tools x y).1.transform (.array (.ofMat b)) = .ok ⟨s, _, v⟩ ∧
          (m.fit tools x y).1.transform (.array ((NdArray.ofMat a).stack (.ofMat b))) =
            .ok ⟨r + s, _, u.stack v⟩) ∧
        if m.algorithm.answers then
          ∃ u v, (m.fit tools x y).1.predict (.array (.ofMat a)) = .ok u ∧
            (m.fit tools x y).1.predict (.array (.ofMat b)) = .ok v ∧
            (m.fit tools x y).1.predict (.array ((NdArray.ofMat a).stack (.ofMat b))) =
              .ok (u.stack v)
        else ∀ {l : ℕ} (c : Mat ℝ l t.features), (m.fit tools x y).1.predict (.array (.ofMat c)) =
          .error (.unsupported "TransformOnly") := by
  obtain ⟨plan, sample, f, hvalid, htrains, hlearned⟩ := exists_trains_of_fit hfit
  obtain ⟨-, hsample, -⟩ := validate_eq_ok_iff.mp hvalid
  have hp : sample.features ≠ 0 := columns_of_readRows (readRows_of_readSample hsample)
  refine ⟨_, hlearned, fun {r s} a b hr hs => ?_⟩
  dsimp only at a b
  have hstack := readRows_ofMat hp (a.stack b)
  rw [NdArray.ofMat_stack] at hstack
  have hmethod := Estimator.answers_methodOr m.algorithm
  refine ⟨?_, ?_⟩
  · obtain ⟨u, v, hu, hv, hw⟩ := htrains.exists_transform_stack hr hs a b
    exact ⟨u, v, transform_eq_ok hlearned (readRows_ofMat hp a) hu,
      transform_eq_ok hlearned (readRows_ofMat hp b) hv, transform_eq_ok hlearned hstack hw⟩
  · split
    · rename_i hanswers
      have hpredicts := htrains.predicts (hmethod.trans hanswers)
      obtain ⟨u, v, hu, hv, hw⟩ :=
        htrains.exists_predict_stack (hmethod.trans hanswers) hr hs a b
      refine ⟨_, _, predict_eq_ok hlearned hpredicts (readRows_ofMat hp a) hu,
        predict_eq_ok hlearned hpredicts (readRows_ofMat hp b) hv, ?_⟩
      rw [← Trained.answer_stack]
      exact predict_eq_ok hlearned hpredicts hstack hw
    · rename_i hanswers
      intro l c
      have hrefuses := htrains.predict_eq_unsupported (hmethod.trans (Bool.eq_false_iff.mpr hanswers)) c
      cases hpredicts : f.predicts with
      | true => exact predict_eq_error hlearned hpredicts (readRows_ofMat hp c) hrefuses
      | false =>
        rw [predict_eq_unsupported hlearned hpredicts]
        exact congrArg _ (congrArg _ (Fitted.methodName_of_predicts hpredicts))

/-- A filter and its default model answer for two single rows as they answer for each. -/
theorem row_by_row_crossed_rows :
    (CrossedRows.opls.fit CrossedRows.tools CrossedRows.predictors CrossedRows.responses).2.outcome =
        .ok () ∧
      ∃ t : Trained ℝ,
        (CrossedRows.opls.fit CrossedRows.tools CrossedRows.predictors
          CrossedRows.responses).1.trained = some t ∧
        ∀ a b : Mat ℝ 1 t.features, ∃ u v,
          (CrossedRows.opls.fit CrossedRows.tools CrossedRows.predictors
            CrossedRows.responses).1.predict (.array (.ofMat a)) = .ok u ∧
          (CrossedRows.opls.fit CrossedRows.tools CrossedRows.predictors
            CrossedRows.responses).1.predict (.array (.ofMat b)) = .ok v ∧
          (CrossedRows.opls.fit CrossedRows.tools CrossedRows.predictors
            CrossedRows.responses).1.predict (.array ((NdArray.ofMat a).stack (.ofMat b))) =
              .ok (u.stack v) := by
  refine ⟨CrossedRows.opls_fit, ?_⟩
  obtain ⟨t, ht, hanswers⟩ := row_by_row CrossedRows.opls_fit
  exact ⟨t, ht, fun a b => (hanswers a b one_ne_zero one_ne_zero).2⟩

end Model

end PartialLeastSquares
