/-
# What a method has learned, and how it fails

What a method has learned is known by the method's name and has the matrices that the method lists
(`learns_of_train`), so that it makes no difference whether the method or what it has learned is
asked.

A failure belongs to a class, and two classes are looked at here.  Nothing that has been learned
fails for want of a fit, however it is used; and the checks before a fit, which leave a model as it
was, never fail in the class of numerical failures.
-/
import Mathlib
import PartialLeastSquares.Model.Object
import PartialLeastSquares.Proofs.Model.Prediction
import PartialLeastSquares.Proofs.Model.Refusal

namespace PartialLeastSquares

/-! ## 1. What a method learns is its own -/

section Learns

variable {K : Type} [Scalar K] {n p q : Nat}

/-- **What has been learned is a method's own:** it has the method's name, predicts if the method
does, and has the matrices and the loadings that the method names. -/
structure Estimator.Learns (method : Estimator) (f : Fitted K n p q) : Prop where
  name : method.className = f.methodName
  predicts : method.predicts = f.predicts
  matrices : method.matrixNames = f.matrices.map Prod.fst
  loadings : method.loadingsName = f.loadingsName

variable {tools : Toolkit K} {plan : Plan} {flat : Bool} {x : Mat K n p}

/-- The method with one response has learned a fit of it. -/
theorem eq_of_trainPls1 {predicts : Bool} {count : Nat} {env : Envelope K p 1} {y : Mat K n 1}
    {f : Fitted K n p 1} (h : (trainPls1 tools predicts count env x y).outcome = .ok f) :
    ∃ fit, f = .pls1 env predicts fit := by
  unfold trainPls1 at h
  rw [Run.outcome_record_bind] at h
  obtain ⟨fit, -, h⟩ := Run.outcome_bind_eq_ok_iff.mp h
  exact ⟨fit, (Except.ok.inj h).symm⟩

theorem eq_of_trainOpls {follow : Mat K n p → Mat K n 1 → Run K (Fitted K n p 1)} {count : Nat}
    {env : Envelope K p 1} {y : Mat K n 1} {f : Fitted K n p 1}
    (h : (trainOpls follow count env x y).outcome = .ok f) :
    ∃ filter base, f = .opls env filter base := by
  unfold trainOpls at h
  rw [Run.outcome_record_bind] at h
  obtain ⟨residual, -, h⟩ := Run.outcome_bind_eq_ok_iff.mp h
  obtain ⟨base, -, h⟩ := Run.outcome_bind_eq_ok_iff.mp h
  exact ⟨_, base, (Except.ok.inj h).symm⟩

theorem eq_one_of_train_opls {base : Estimator} {y : Mat K n q} {f : Fitted K n p q}
    (h : (train tools (.opls base) plan flat x y).outcome = .ok f) : q = 1 := by
  cases base with
  | plain v =>
    cases v with
    | null =>
      rw [train, outcome_around] at h
      exact eq_one_of_forOne h
    | _ => cases h
  | model algorithm count scheme =>
    rw [train, outcome_around] at h
    exact eq_one_of_forOne h
  | _ => cases h

theorem eq_of_train_opls {base : Estimator} {y : Mat K n 1} {f : Fitted K n p 1}
    (h : (train tools (.opls base) plan flat x y).outcome = .ok f) :
    ∃ env filter inner, f = .opls env filter inner := by
  cases base with
  | plain v =>
    cases v with
    | null =>
      rw [train, outcome_around, forOne_one] at h
      exact ⟨_, eq_of_trainOpls h⟩
    | _ => cases h
  | model algorithm count scheme =>
    rw [train, outcome_around, forOne_one] at h
    exact ⟨_, eq_of_trainOpls h⟩
  | _ => cases h

/-- **Whatever a method learns is its own.** -/
theorem learns_of_train {method : Estimator} (hmethod : method ≠ .plain .null) {y : Mat K n q}
    {f : Fitted K n p q} (h : (train tools method plan flat x y).outcome = .ok f) :
    method.Learns f := by
  cases method with
  | plain v =>
    cases v with
    | null => exact absurd rfl hmethod
    | _ => cases h
  | kernel k => cases h
  | model algorithm count scheme => cases h
  | pls1 =>
    obtain rfl := eq_one_of_train_pls1 h
    obtain ⟨fit, -, rfl⟩ := train_pls1_eq_ok_iff.mp h
    exact ⟨rfl, rfl, rfl, rfl⟩
  | transformOnly =>
    rw [train, outcome_around] at h
    obtain rfl := eq_one_of_forOne h
    rw [forOne_one] at h
    obtain ⟨fit, rfl⟩ := eq_of_trainPls1 h
    exact ⟨rfl, rfl, rfl, rfl⟩
  | simpls count =>
    obtain rfl : q = 1 := by
      rw [train, outcome_around] at h
      exact eq_one_of_forOne h
    obtain ⟨-, -, fit, -, -, -, rfl⟩ := train_simpls_eq_ok_iff.mp h
    exact ⟨rfl, rfl, rfl, rfl⟩
  | kernelPls kernel tol maxIter seed =>
    obtain ⟨-, -, -, -, -, fit, -, -, -, -, -, -, rfl⟩ := train_kernelPls_eq_ok_iff.mp h
    exact ⟨rfl, rfl, rfl, rfl⟩
  | opls base =>
    obtain rfl := eq_one_of_train_opls h
    obtain ⟨env, filter, inner, rfl⟩ := eq_of_train_opls h
    exact ⟨rfl, rfl, rfl, rfl⟩

theorem methodOr_ne_null (e : Estimator) : e.methodOr ≠ .plain .null := by
  cases e with
  | plain v => cases v <;> exact fun h => nomatch h
  | _ => exact fun h => nomatch h

end Learns

/-! ## 2. Classes of failure -/

section Kinds

variable {K : Type} {α β : Type}

/-- **Work that never fails in a class,** whatever else may become of it. -/
def NeverFails (kind : FailureKind) (outcome : Except (ModelError K) α) : Prop :=
  ∀ e, outcome = .error e → e.kind ≠ kind

namespace NeverFails

variable {kind : FailureKind}

theorem ok (a : α) : NeverFails kind (.ok a : Except (ModelError K) α) := fun _ h => nomatch h

theorem error {e : ModelError K} (h : e.kind ≠ kind) :
    NeverFails kind (.error e : Except (ModelError K) α) := fun _ h' => Except.error.inj h' ▸ h

theorem bind {x : Except (ModelError K) α} {f : α → Except (ModelError K) β}
    (hx : NeverFails kind x) (hf : ∀ a, x = .ok a → NeverFails kind (f a)) :
    NeverFails kind (x >>= f) := by
  intro e h
  rcases bind_eq_error_iff.mp h with h | ⟨a, ha, h⟩
  · exact hx e h
  · exact hf a ha e h

end NeverFails

/-- Data that cannot be read is a failure of one of three classes. -/
theorem ReadError.kind_eq (e : ReadError) :
    e.kind = .value ∨ e.kind = .wrongKind ∨ e.kind = .overflow := by
  cases e <;> simp [kind]

theorem KernelError.kind_ne_notFitted (e : KernelError) : e.kind ≠ .notFitted := by
  cases e with
  | unreadable e => rcases e.kind_eq with h | h | h <;> simp [kind, h]
  | _ => simp [kind]

/-- Mapping in feature space never fails for want of a fit. -/
theorem ModelError.kind_ofUse_ne_notFitted (e : KernelPls.UseError) :
    (ofUse e : ModelError K).kind ≠ .notFitted := by
  cases e with
  | unsuitable problem => exact fun h => nomatch h
  | kernel e => exact e.kind_ne_notFitted

theorem readFailure_neverFails (e : ReadError) :
    NeverFails .numerical (.error (readFailure e) : Except (ModelError K) α) := by
  refine .error ?_
  unfold readFailure
  rcases e.kind_eq with h | h | h <;> simp [h, ModelError.kind]

variable [Scalar K] {n p : Nat}

namespace Fitted

variable {q : Nat} {f : Fitted K n p q} {name : String}

theorem exists_matrix (h : name ∈ f.matrices.map Prod.fst) : ∃ a, f.matrix? name = some a := by
  obtain ⟨entry, hmem, hname⟩ := List.mem_map.mp h
  have hfound : (f.matrices.find? fun m => m.1 == name).isSome := by
    rw [List.find?_isSome]
    exact ⟨entry, hmem, beq_iff_eq.mpr hname⟩
  obtain ⟨found, hfound⟩ := Option.isSome_iff_exists.mp hfound
  exact ⟨found.2, by rw [matrix?, hfound]; rfl⟩

theorem matrix?_eq_none (h : name ∉ f.matrices.map Prod.fst) : f.matrix? name = none := by
  rw [matrix?, Option.map_eq_none_iff, List.find?_eq_none]
  intro entry hmem heq
  exact h (List.mem_map.mpr ⟨entry, hmem, beq_iff_eq.mp heq⟩)

theorem loadingsName_mem (f : Fitted K n p q) : f.loadingsName ∈ f.matrices.map Prod.fst := by
  cases f <;> simp [loadingsName, matrices]

end Fitted

/-- What has been learned maps rows or fails, but not for want of a fit. -/
theorem Fitted.transform_neverFails {rows q : Nat} (f : Fitted K n p q) (x : Mat K rows p) :
    NeverFails .notFitted (f.transform x) := by
  cases f with
  | kernelPls env fit =>
    simp only [Fitted.transform]
    split
    · exact .ok _
    · exact .error (ModelError.kind_ofUse_ne_notFitted _)
  | _ => exact .ok _

/-- What has been learned predicts or fails, but not for want of a fit; so does what follows a
filter. -/
theorem Fitted.predict_neverFails {rows : Nat} : ∀ {q : Nat} (f : Fitted K n p q)
    (x : Mat K rows p), NeverFails .notFitted (f.predict x)
  | _, .pls1 _ true _, _ => .ok _
  | _, .pls1 _ false _, _ => .error fun h => nomatch h
  | _, .simpls _ _, _ => .ok _
  | _, .kernelPls _ _, _ => by
    simp only [Fitted.predict]
    split
    · exact .error (ModelError.kind_ofUse_ne_notFitted _)
    · split
      · exact .error fun h => nomatch h
      · exact .ok _
  | _, .opls _ _ base, _ => by
    simp only [Fitted.predict]
    split
    · split
      · exact .error fun h => nomatch h
      · split
        · rename_i e hbase
          exact .error (Fitted.predict_neverFails base _ e hbase)
        · exact .ok _
    · exact .error fun h => nomatch h

namespace Model

variable {m : Model K} {x y : Reading K}

theorem readRows_neverFails (x : Reading K) (features : Nat) :
    NeverFails .notFitted (readRows x features) := by
  unfold readRows
  split
  · exact .error fun h => nomatch h
  · rename_i e
    refine .error ?_
    rcases e.kind_eq with h | h | h <;> simp [ModelError.kind, h]
  · split
    · exact .error fun h => nomatch h
    · split
      · exact .ok _
      · exact .error fun h => nomatch h

/-- Only what has been learned has an influence on how rows are mapped. -/
theorem transform_congr {m' : Model K} (h : m.trained = m'.trained) (x : Reading K) :
    m.transform x = m'.transform x := by
  unfold transform learned
  rw [h]

theorem predict_congr_trained {m' : Model K} (h : m.trained = m'.trained) (x : Reading K) :
    m.predict x = m'.predict x := by
  unfold predict predictTable flat learned
  rw [h]

/-- **A model that has learned something** maps rows or fails, but not for want of a fit. -/
theorem transform_neverFails {t : Trained K} (ht : m.trained = some t) (x : Reading K) :
    NeverFails .notFitted (m.transform x) := by
  unfold transform
  rw [learned_eq ht]
  exact (NeverFails.ok t).bind fun t _ => (readRows_neverFails x _).bind fun rows _ =>
    (t.fitted.transform_neverFails rows.2).bind fun _ _ => .ok _

/-- **A model that has learned something** predicts or fails, but not for want of a fit. -/
theorem predict_neverFails {t : Trained K} (ht : m.trained = some t) (x : Reading K) :
    NeverFails .notFitted (m.predict x) := by
  by_cases hp : t.fitted.predicts = true
  · rw [predict_eq ht hp]
    exact (readRows_neverFails x _).bind fun rows _ =>
      (t.fitted.predict_neverFails rows.2).bind fun _ _ => .ok _
  · unfold predict predictTable
    rw [learned_eq ht]
    simp only [bind, Except.bind, hp]
    exact .error fun h => nomatch h

theorem readSample_neverFails (x y : Reading K) : NeverFails .numerical (readSample x y) := by
  have hpredictors : NeverFails .numerical (readPredictors x) := by
    unfold readPredictors
    split
    · exact .error fun h => nomatch h
    · exact readFailure_neverFails _
    · split
      · exact .ok _
      · exact .error fun h => nomatch h
  have hresponse : NeverFails .numerical (readResponse y) := by
    unfold readResponse
    split
    · exact .error fun h => nomatch h
    · exact readFailure_neverFails _
    · exact .ok _
  unfold readSample
  dsimp only
  split
  · exact .error fun h => nomatch h
  · exact .error fun h => nomatch h
  · rw [if_neg Bool.false_ne_true]
    refine hpredictors.bind fun predictors _ => hresponse.bind fun response _ => ?_
    generalize (if (response.axes == 1) = true then response.column else response) = shaped
    split
    · split
      · exact .error fun h => nomatch h
      · split
        · exact .ok _
        · exact .error fun h => nomatch h
    · exact .error fun h => nomatch h

omit [Scalar K] in
theorem checkResponses_neverFails (bounds : ResponseBounds) (columns : Nat) :
    NeverFails .numerical (match checkResponses bounds columns with
      | .ok () => .ok ()
      | .error why => .error (.invalid why) : Except (ModelError K) Unit) := by
  split
  · exact .ok _
  · exact .error fun h => nomatch h

theorem checkMethod_neverFails (method : Estimator) (columns : Nat) :
    NeverFails .numerical (checkMethod (K := K) method columns) := by
  unfold checkMethod
  split
  · exact checkResponses_neverFails _ _
  · exact checkResponses_neverFails _ _
  · split
    · rename_i count e hcount
      refine .error ?_
      unfold checkCoefficients at hcount
      split at hcount
      · cases hcount
        exact fun h => nomatch h
      · split_ifs at hcount
        cases hcount
        exact fun h => nomatch h
    · exact checkResponses_neverFails _ _
  · split
    · exact .error fun h => nomatch h
    · exact checkResponses_neverFails _ _
  · exact checkResponses_neverFails _ _
  · exact checkResponses_neverFails _ _
  · exact .error fun h => nomatch h
  · exact .error fun h => nomatch h

/-- Settings and data are refused or cannot be read; the checks do no numerical work. -/
theorem validate_neverFails (m : Model K) (x y : Reading K) :
    NeverFails .numerical (m.validate x y) := by
  unfold validate
  split
  · exact (NeverFails.ok _).bind fun _ _ => (readSample_neverFails x y).bind fun _ _ =>
      (checkMethod_neverFails _ _).bind fun _ _ => .ok _
  · exact .error fun h => nomatch h

end Model

end Kinds

end PartialLeastSquares
