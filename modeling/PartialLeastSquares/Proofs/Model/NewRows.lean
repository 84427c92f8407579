/-
# New rows, however many

`_preprocess` admits matrices without rows.  What a fit has learned then answers with no rows as
well, as it does for any other number, with one exception: a kernel refuses to be applied to
nothing.  So the method in feature space fails for no rows, in `transform` and in `predict`, and a
filter whose innermost model is that method fails in `predict` (`Model.new_rows`).

Rows are mapped by the outermost method and predicted by the innermost one, so there are two
accounts of where the kernel comes in (`Estimator.mapsByKernel`, `Estimator.predictsByKernel`).
-/
import Mathlib
import PartialLeastSquares.Proofs.KernelPls.Agreement
import PartialLeastSquares.Proofs.Model.Matrices
import PartialLeastSquares.Proofs.Model.RowByRow

namespace PartialLeastSquares

variable {n m p q : ℕ}

/-! ## 1. Where a kernel comes in -/

namespace Estimator

/-- Whether a method maps new rows by a kernel. -/
def mapsByKernel : Estimator → Bool
  | kernelPls _ _ _ _ => true
  | _ => false

/-- **Whether a method predicts new rows by a kernel,** also when its filters are looked through. -/
def predictsByKernel : Estimator → Bool
  | kernelPls _ _ _ _ => true
  | opls (model algorithm _ _) => algorithm.predictsByKernel
  | _ => false

@[simp] theorem mapsByKernel_methodOr (e : Estimator) :
    e.methodOr.mapsByKernel = e.mapsByKernel := by
  cases e with
  | plain v => cases v <;> rfl
  | _ => rfl

@[simp] theorem predictsByKernel_methodOr (e : Estimator) :
    e.methodOr.predictsByKernel = e.predictsByKernel := by
  cases e with
  | plain v => cases v <;> rfl
  | _ => rfl

/-- A filter predicts by a kernel if what follows it does. -/
theorem predictsByKernel_opls {base algorithm : Estimator} {count scheme : Value}
    (h : base.following = some (algorithm, count, scheme)) :
    (opls base).predictsByKernel = algorithm.predictsByKernel := by
  rcases following_cases h with ⟨rfl, rfl, -, -⟩ | rfl
  · rfl
  · rw [predictsByKernel]

end Estimator

/-! ## 2. What a kernel refuses -/

/-- **No kernel is applied to nothing.** -/
theorem Kernel.gram_no_rows {kernel : Kernel} (h : kernel.checkParameters = .ok ())
    (a : Mat ℝ 0 p) (b : Mat ℝ m p) :
    kernel.gram a b = .error (.unsuitable (.noRows [0, p])) := by
  unfold gram
  rw [h, checkMatrix_no_rows]
  rfl

theorem KernelPls.Fit.Keeps.transform_no_rows {f : Fit ℝ n p q} {fn : KernelFn ℝ} {x : Mat ℝ n p}
    {y : Mat ℝ n q} (h : f.Keeps fn x y) (new : Mat ℝ 0 p) :
    f.transform new = .error (.kernel (.unsuitable (.noRows [0, p]))) := by
  unfold transform
  rw [Mat.entryProblem?_real]
  simp only [Kernel.gram_no_rows h.parameters]

/-- Filtered rows are finite over the reals, so a filter answers as what follows it does. -/
theorem Fitted.predict_opls {env : Envelope ℝ p 1} {filter : OrthogonalFilter.Fit ℝ n p}
    {base : Fitted ℝ n p 1} (hp : base.predicts = true) (new : Mat ℝ m p) :
    (opls env filter base).predict new =
      (base.predict (filter.transform (env.x.apply new))).map env.y.unapply := by
  simp only [predict, hp, if_true, Mat.entryProblem?_real]
  cases base.predict (filter.transform (env.x.apply new)) <;> rfl

namespace Trains

variable {tools : Toolkit ℝ} {method : Estimator} {plan : Plan} {flat : Bool} {x : Mat ℝ n p}
  {y : Mat ℝ n q} {f : Fitted ℝ n p q}

/-! ## 3. Without a kernel -/

theorem exists_transform_of_not_kernel (h : Trains tools method plan flat x y f)
    (hkernel : method.mapsByKernel = false) (new : Mat ℝ m p) :
    ∃ t, f.transform new = .ok t := by
  cases h with
  | kernelPls => cases hkernel
  | _ => exact ⟨_, rfl⟩

/-- **Any rows are predicted,** if the method predicts.  The induction is on the nesting of the
filters. -/
theorem exists_predict_of_not_kernel (h : Trains tools method plan flat x y f)
    (hanswers : method.answers = true) (hkernel : method.predictsByKernel = false)
    (new : Mat ℝ m p) : ∃ a, f.predict new = .ok a := by
  induction h generalizing new with
  | pls1 => exact ⟨_, rfl⟩
  | transformOnly => cases hanswers
  | simpls => exact ⟨_, rfl⟩
  | kernelPls => cases hkernel
  | opls following ended accepted follows ih =>
    have hinner := (Estimator.answers_opls following).symm.trans hanswers
    obtain ⟨a, ha⟩ := ih hinner ((Estimator.predictsByKernel_opls following).symm.trans hkernel) _
    rw [Fitted.predict_opls (follows.predicts hinner), ha]
    exact ⟨_, rfl⟩

/-! ## 4. No rows for a kernel -/

/-- **No rows are not mapped by a kernel.** -/
theorem transform_no_rows (h : Trains tools method plan flat x y f)
    (hkernel : method.mapsByKernel = true) (new : Mat ℝ 0 p) :
    f.transform new = .error (.ofUse (.kernel (.unsuitable (.noRows [0, p])))) := by
  cases h with
  | pls1 named =>
    rw [← Estimator.mapsByKernel_methodOr, named] at hkernel
    cases hkernel
  | transformOnly => cases hkernel
  | simpls => cases hkernel
  | kernelPls named centered prepared ended made =>
    obtain ⟨fn, hkeeps⟩ := KernelPls.keeps_of_fit centered prepared made
    simp only [Fitted.transform, hkeeps.transform_no_rows]
  | opls => cases hkernel

/-- **Nor are they predicted by one,** through any number of filters. -/
theorem predict_no_rows (h : Trains tools method plan flat x y f)
    (hanswers : method.answers = true) (hkernel : method.predictsByKernel = true)
    (new : Mat ℝ 0 p) :
    f.predict new = .error (.ofUse (.kernel (.unsuitable (.noRows [0, p])))) := by
  induction h generalizing new with
  | pls1 named =>
    rw [← Estimator.predictsByKernel_methodOr, named] at hkernel
    cases hkernel
  | transformOnly => cases hkernel
  | simpls => cases hkernel
  | kernelPls named centered prepared ended made =>
    obtain ⟨fn, hkeeps⟩ := KernelPls.keeps_of_fit centered prepared made
    simp only [Fitted.predict, KernelPls.Fit.predict, hkeeps.transform_no_rows]
  | opls following ended accepted follows ih =>
    have hinner := (Estimator.answers_opls following).symm.trans hanswers
    rw [Fitted.predict_opls (follows.predicts hinner),
      ih hinner ((Estimator.predictsByKernel_opls following).symm.trans hkernel)]
    rfl

end Trains

/-! ## 5. Models -/

section Responses

variable {K : Type} [Scalar K]

/-- A sample has as many responses as there are columns in what they were read from. -/
theorem shape_of_sampleOf {t : Table K} {flat : Bool} {response : NdArray K} {sample : Sample K}
    (h : sampleOf t flat response = .ok sample) :
    sample.flat = flat ∧ ∃ rows, response.shape = [rows, sample.targets] := by
  unfold sampleOf at h
  split at h
  · rename_i rows targets hshape
    split at h
    · cases h
    · split at h
      · obtain rfl := Except.ok.inj h
        exact ⟨rfl, rows, hshape⟩
      · cases h
  · cases h

theorem targets_of_readSample {x y : Reading K} {sample : Sample K}
    (h : readSample x y = .ok sample) (hflat : sample.flat = true) : sample.targets = 1 := by
  cases x with
  | sparse => cases h
  | unreadable e => cases y <;> cases h
  | array u =>
    cases y with
    | sparse => cases h
    | unreadable e =>
      have hfails : readSample (.array u) (.unreadable e : Reading K) =
          readPredictors (.array u) >>= fun _ => .error (readFailure e) := rfl
      rw [hfails] at h
      obtain ⟨_, -, h⟩ := bind_eq_ok_iff.mp h
      cases h
    | array v =>
      rw [readSample_arrays] at h
      obtain ⟨t, -, h⟩ := bind_eq_ok_iff.mp h
      obtain ⟨haxes, rows, hshape⟩ := shape_of_sampleOf h
      rw [← haxes, hflat, if_pos rfl] at hshape
      exact (List.cons.inj (List.cons.inj hshape).2).1.symm

end Responses

/-- **An answer has as many rows as were asked about:** one number for each row if the responses
came in one axis, and otherwise one row for each. -/
theorem Trained.shape_answer {t : Trained ℝ} (h : t.fitted.envelope.flat = true → t.targets = 1)
    (u : Mat ℝ m t.targets) : (t.answer u).entries.length = m * t.targets ∧
      (t.answer u).shape = if t.fitted.envelope.flat then [m] else [m, t.targets] := by
  unfold answer
  split
  · rename_i hflat
    refine ⟨u.length_toList, ?_⟩
    show [m * t.targets] = [m]
    rw [h hflat, Nat.mul_one]
  · exact ⟨u.length_toList, rfl⟩

namespace Model

/-- A method that does not predict refuses before it looks at the rows, or when it comes to its
innermost model. -/
theorem predict_unsupported {tools : Toolkit ℝ} {method : Estimator} {plan : Plan} {flat : Bool}
    {x : Mat ℝ n p} {y : Mat ℝ n q} {f : Fitted ℝ n p q} {fitted : Model ℝ}
    (h : Trains tools method plan flat x y f) (hlearned : fitted.trained = some ⟨n, p, q, f⟩)
    (hp : p ≠ 0) (hanswers : method.answers = false) (new : Mat ℝ m p) :
    fitted.predict (.array (.ofMat new)) = .error (.unsupported "TransformOnly") := by
  have hrefuses := h.predict_eq_unsupported hanswers new
  cases hpredicts : f.predicts with
  | true => exact predict_eq_error hlearned hpredicts (readRows_ofMat hp new) hrefuses
  | false =>
    rw [predict_eq_unsupported hlearned hpredicts]
    exact congrArg _ (congrArg _ (Fitted.methodName_of_predicts hpredicts))

/-- **A fitted model answers for any number of rows, except that a kernel does not answer for
none.** Whatever matrix of the fitted width is handed over, with rows or without, `transform`
returns as many rows, and so does `predict` if the method and its nested models predict; the only
failures are those of the method in feature space on a matrix without rows. -/
theorem new_rows {tools : Toolkit ℝ} {m : Model ℝ} {x y : Reading ℝ}
    (hfit : (m.fit tools x y).2.outcome = .ok ()) :
    ∃ t : Trained ℝ, (m.fit tools x y).1.trained = some t ∧
      ∀ {rows : ℕ} (new : Mat ℝ rows t.features),
        (if rows = 0 ∧ m.algorithm.mapsByKernel then
          (m.fit tools x y).1.transform (.array (.ofMat new)) =
            .error (.ofUse (.kernel (.unsuitable (.noRows [0, t.features]))))
        else ∃ u : Mat ℝ rows t.fitted.width,
          (m.fit tools x y).1.transform (.array (.ofMat new)) = .ok ⟨rows, t.fitted.width, u⟩) ∧
        if m.algorithm.answers then
          if rows = 0 ∧ m.algorithm.predictsByKernel then
            (m.fit tools x y).1.predict (.array (.ofMat new)) =
              .error (.ofUse (.kernel (.unsuitable (.noRows [0, t.features]))))
          else ∃ a, (m.fit tools x y).1.predict (.array (.ofMat new)) = .ok a ∧
            a.entries.length = rows * t.targets ∧
            a.shape = if t.fitted.envelope.flat then [rows] else [rows, t.targets]
        else (m.fit tools x y).1.predict (.array (.ofMat new)) =
          .error (.unsupported "TransformOnly") := by
  obtain ⟨plan, sample, f, hvalid, htrains, hlearned⟩ := exists_trains_of_fit hfit
  obtain ⟨-, hsample, -⟩ := validate_eq_ok_iff.mp hvalid
  have hp : sample.features ≠ 0 := columns_of_readRows (readRows_of_readSample hsample)
  have hmaps := Estimator.mapsByKernel_methodOr m.algorithm
  have hpredicts := Estimator.predictsByKernel_methodOr m.algorithm
  have hanswers := Estimator.answers_methodOr m.algorithm
  refine ⟨_, hlearned, fun {rows} new => ⟨?_, ?_⟩⟩
  · split
    · rename_i hnone
      obtain ⟨rfl, hkernel⟩ := hnone
      unfold transform
      rw [learned_eq hlearned]
      refine bind_eq_error_iff.mpr (.inr ⟨_, rfl, bind_eq_error_iff.mpr (.inr ⟨_,
        readRows_ofMat hp new, bind_eq_error_iff.mpr (.inl ?_)⟩)⟩)
      exact htrains.transform_no_rows (hmaps.trans hkernel) new
    · rename_i hsome
      obtain ⟨u, hu⟩ : ∃ u, f.transform new = .ok u := by
        by_cases hrows : rows = 0
        · have hkernel := Bool.eq_false_iff.mpr fun h => hsome ⟨hrows, h⟩
          exact htrains.exists_transform_of_not_kernel (hmaps.trans hkernel) new
        · exact htrains.exists_transform hrows new
      exact ⟨u, transform_eq_ok hlearned (readRows_ofMat hp new) hu⟩
  · split
    · rename_i hyes
      have hpredict := htrains.predicts (hanswers.trans hyes)
      split
      · rename_i hnone
        obtain ⟨rfl, hkernel⟩ := hnone
        exact predict_eq_error hlearned hpredict (readRows_ofMat hp new)
          (htrains.predict_no_rows (hanswers.trans hyes) (hpredicts.trans hkernel) new)
      · rename_i hsome
        obtain ⟨u, hu⟩ : ∃ u, f.predict new = .ok u := by
          by_cases hrows : rows = 0
          · have hkernel := Bool.eq_false_iff.mpr fun h => hsome ⟨hrows, h⟩
            exact htrains.exists_predict_of_not_kernel (hanswers.trans hyes)
              (hpredicts.trans hkernel) new
          · exact htrains.exists_predict (hanswers.trans hyes) hrows new
        have hflat : f.envelope.flat = sample.flat := congrArg Envelope.flat htrains.envelope
        refine ⟨_, predict_eq_ok hlearned hpredict (readRows_ofMat hp new) hu, ?_⟩
        exact Trained.shape_answer (t := ⟨sample.rows, sample.features, sample.targets, f⟩)
          (fun h => targets_of_readSample hsample (hflat.symm.trans h)) u
    · rename_i hno
      exact predict_unsupported htrains hlearned hp (hanswers.trans (Bool.eq_false_iff.mpr hno)) new

open FourRows in
/-- A model in feature space answers for two rows, and fails for none. -/
theorem new_rows_four_rows :
    (kernelPls.fit tools predictors responses).2.outcome = .ok () ∧
      ∃ t : Trained ℝ, (kernelPls.fit tools predictors responses).1.trained = some t ∧
        (∀ new : Mat ℝ 0 t.features,
          (kernelPls.fit tools predictors responses).1.transform (.array (.ofMat new)) =
              .error (.ofUse (.kernel (.unsuitable (.noRows [0, t.features])))) ∧
            (kernelPls.fit tools predictors responses).1.predict (.array (.ofMat new)) =
              .error (.ofUse (.kernel (.unsuitable (.noRows [0, t.features]))))) ∧
        ∀ new : Mat ℝ 2 t.features, ∃ u a,
          (kernelPls.fit tools predictors responses).1.transform (.array (.ofMat new)) =
              .ok ⟨2, t.fitted.width, u⟩ ∧
            (kernelPls.fit tools predictors responses).1.predict (.array (.ofMat new)) = .ok a ∧
            a.entries.length = 2 * t.targets := by
  refine ⟨kernelPls_fit.1, ?_⟩
  obtain ⟨t, ht, hrows⟩ := new_rows kernelPls_fit.1
  refine ⟨t, ht, fun new => hrows new, fun new => ?_⟩
  obtain ⟨⟨u, hu⟩, a, ha, hlength, -⟩ := hrows new
  exact ⟨u, a, hu, ha, hlength⟩

end Model

end PartialLeastSquares
