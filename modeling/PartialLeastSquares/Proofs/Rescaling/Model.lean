/-
# Models in other units

A model does not depend on the units its data comes in.  Fitted to predictors times `a` and
responses times `b`, it succeeds if and only if it does on the data, and predicts for rows times
`a` what it predicts for the rows, times `b` (`Model.fit_in_other_units`).

The methods are those that keep to their units (`Estimator.Homogeneous`).  The tools are exact, the
condition number included: the method in feature space refuses a matrix by it, and an estimate that
changed with the units would change what is refused.
-/
import Mathlib
import PartialLeastSquares.Proofs.Model.Prediction
import PartialLeastSquares.Proofs.Rescaling.Training
import PartialLeastSquares.Proofs.Simpls.Agreement

namespace PartialLeastSquares

section Units

variable {a b : ℝ} {tools : Toolkit ℝ} {m m' : Model ℝ}

/-! ## 1. Acceptance -/

/-- **Data in other units is accepted if and only if the data is,** and otherwise refused for the
same reason. -/
theorem Model.validate_scale (m : Model ℝ) (x y : Reading ℝ) (a b : ℝ) :
    m.validate (x.scale a) (y.scale b) =
      (m.validate x y).map fun accepted => ⟨accepted.plan, accepted.sample.scale a b⟩ := by
  unfold validate
  rw [readSample_scale]
  cases checkPlan m.nComponents m.preprocessing with
  | error why => rfl
  | ok plan =>
    cases readSample x y with
    | error e => rfl
    | ok sample =>
      show (checkMethod m.algorithm.methodOr sample.targets >>= fun _ => _) =
        (checkMethod m.algorithm.methodOr sample.targets >>= fun _ => _).map _
      cases (checkMethod m.algorithm.methodOr sample.targets : Except (ModelError ℝ) Unit) <;> rfl

theorem Estimator.Homogeneous.methodOr {method : Estimator} (h : method.Homogeneous) :
    method.methodOr.Homogeneous := by
  cases h with
  | default => exact .pls1
  | oplsModel after hscheme => exact .oplsModel after hscheme
  | _ => constructor

/-! ## 2. Fits -/

/-- What a fit to accepted settings and data computes. -/
noncomputable def Model.compute (tools : Toolkit ℝ) (m : Model ℝ) (accepted : Accepted ℝ) :
    Except (ModelError ℝ) (Trained ℝ) :=
  (train tools m.algorithm.methodOr accepted.plan accepted.sample.flat accepted.sample.x
    accepted.sample.y).outcome.map fun fitted => ⟨_, _, _, fitted⟩

/-- **A fit checks, and then computes:** it succeeds if both do, and the model has learned what was
computed. -/
theorem Model.fit_eq_compute (tools : Toolkit ℝ) (m : Model ℝ) (x y : Reading ℝ) :
    (m.fit tools x y).2.outcome = (m.validate x y >>= m.compute tools).map (fun _ => ()) ∧
      ∀ t, m.validate x y >>= m.compute tools = .ok t → (m.fit tools x y).1.trained = some t := by
  unfold fit
  cases m.validate x y with
  | error e => exact ⟨rfl, fun t h => by cases h⟩
  | ok accepted =>
    have hcompute : (Except.ok accepted >>= m.compute tools) = m.compute tools accepted := rfl
    rw [hcompute, compute]
    dsimp only
    cases (train tools m.algorithm.methodOr accepted.plan accepted.sample.flat accepted.sample.x
      accepted.sample.y).outcome with
    | error e => exact ⟨rfl, fun t h => by cases h⟩
    | ok fitted => exact ⟨rfl, fun t h => congrArg some (Except.ok.inj h)⟩

/-- **What was learned from data in other units,** from as many rows of as many columns. -/
inductive Trained.Rescales (a b : ℝ) : Trained ℝ → Trained ℝ → Prop
  | intro {n p q : ℕ} {f f' : Fitted ℝ n p q} (h : f.Rescales a b f') :
      Rescales a b ⟨n, p, q, f⟩ ⟨n, p, q, f'⟩

/-- **Fits to data and to data in other units compute the same,** in those units. -/
theorem Model.corresponds_compute (ht : tools.Exact) (hcond : tools.ExactCondition)
    (hmethod : m.algorithm.Homogeneous)
    (hscheme : Scheme.ofValue? m.preprocessing ≠ some .standardize) (ha : 0 < a) (hb : 0 < b)
    (x y : Reading ℝ) :
    Corresponds (fun e e' : ModelError ℝ => e.kind = e'.kind) (Trained.Rescales a b)
      (m.validate x y >>= m.compute tools)
      (m.validate (x.scale a) (y.scale b) >>= m.compute tools) := by
  have hvalid := Corresponds.of_eq_map (E := fun e e' : ModelError ℝ => e.kind = e'.kind)
    (R := fun accepted accepted' => m.validate x y = .ok accepted ∧
      accepted' = ⟨accepted.plan, accepted.sample.scale a b⟩)
    (m.validate_scale x y a b) (fun _ => rfl) fun _ h => ⟨h, rfl⟩
  refine hvalid.bind ?_
  rintro ⟨plan, sample⟩ _ ⟨haccepted, rfl⟩
  have hplan : plan.scheme ≠ .standardize := fun hstandardize => by
    obtain ⟨hplan, -, -⟩ := validate_eq_ok_iff.mp haccepted
    exact hscheme ((scheme_of_checkPlan hplan).trans (congrArg some hstandardize))
  have htrain := corresponds_train ht hcond ha hb hmethod.methodOr sample.flat sample.x sample.y
    hplan
  unfold Run.Corresponds at htrain
  unfold compute
  dsimp only [Sample.scale]
  generalize (train tools m.algorithm.methodOr plan sample.flat sample.x sample.y).outcome = found
    at htrain ⊢
  generalize (train tools m.algorithm.methodOr plan sample.flat (sample.x.scale a)
    (sample.y.scale b)).outcome = found' at htrain ⊢
  cases htrain with
  | ok h => exact .ok (.intro h)
  | error h => exact .error h

/-! ## 3. Predictions -/

/-- An answer in other units has the shape of the answer. -/
theorem Trained.answer_scale {n n' p q rows : ℕ} {f : Fitted ℝ n p q} {f' : Fitted ℝ n' p q}
    (hflat : f'.envelope.flat = f.envelope.flat) (y : Mat ℝ rows q) (b : ℝ) :
    answer ⟨n', p, q, f'⟩ (y.scale b) = (answer ⟨n, p, q, f⟩ y).scale b := by
  unfold answer
  rw [hflat]
  split
  · rw [Mat.toList_scale]
    rfl
  · exact NdArray.ofMat_scale y b

/-- **What was learned from data in other units answers in other units** for rows in other units. -/
theorem Model.predict_in_other_units {t t' : Trained ℝ} (h : t.Rescales a b t')
    (ht : m.trained = some t) (ht' : m'.trained = some t') (new : Reading ℝ) :
    m'.predict (new.scale a) = (m.predict new).map fun answer => answer.scale b := by
  cases h with
  | @intro n p q f f' hf =>
    rw [predict_eq ht hf.predicts.1, predict_eq ht' hf.predicts.2, readRows_scale]
    cases readRows new p with
    | error e => rfl
    | ok rows =>
      show (f'.predict (rows.2.scale a) >>= _) = (f.predict rows.2 >>= _).map _
      rw [hf.predict]
      cases f.predict rows.2 with
      | error e => rfl
      | ok y => exact congrArg Except.ok (Trained.answer_scale hf.flat y b)

/-- **A model is fitted and predicts alike in all units.**  Let no model, at any level of nesting,
divide by deviations or use a kernel other than the linear one.  Fitted to predictors and responses
in other units, it succeeds if and only if it does on the data, and fails with errors of the same
class; and if it succeeds, its predictions for any rows in the units of the predictors are those for
the rows, in the units of the responses. -/
theorem Model.fit_in_other_units (ht : tools.Exact) (hcond : tools.ExactCondition) (m : Model ℝ)
    (hmethod : m.algorithm.Homogeneous)
    (hscheme : Scheme.ofValue? m.preprocessing ≠ some .standardize) (ha : 0 < a) (hb : 0 < b)
    (x y : Reading ℝ) :
    ((m.fit tools (x.scale a) (y.scale b)).2.outcome = .ok () ↔
        (m.fit tools x y).2.outcome = .ok ()) ∧
      (∀ e, (m.fit tools x y).2.outcome = .error e → ∃ e',
        (m.fit tools (x.scale a) (y.scale b)).2.outcome = .error e' ∧ e'.kind = e.kind) ∧
      ((m.fit tools x y).2.outcome = .ok () → ∀ new,
        (m.fit tools (x.scale a) (y.scale b)).1.predict (new.scale a) =
          ((m.fit tools x y).1.predict new).map fun answer => answer.scale b) := by
  have hcompute := corresponds_compute ht hcond hmethod hscheme ha hb x y
  obtain ⟨houtcome, htrained⟩ := m.fit_eq_compute tools x y
  obtain ⟨houtcome', htrained'⟩ := m.fit_eq_compute tools (x.scale a) (y.scale b)
  rw [houtcome, houtcome']
  generalize (m.validate x y >>= m.compute tools) = found at *
  generalize (m.validate (x.scale a) (y.scale b) >>= m.compute tools) = found' at *
  cases hcompute with
  | @ok t t' h =>
    refine ⟨iff_of_true rfl rfl, fun e he => (by cases he), fun _ new => ?_⟩
    exact predict_in_other_units h (htrained t rfl) (htrained' t' rfl) new
  | @error e e' h =>
    refine ⟨iff_of_false (fun hok => by cases hok) (fun hok => by cases hok), ?_,
      fun hok => by cases hok⟩
    intro e₁ he
    obtain rfl := Except.error.inj he
    exact ⟨e', rfl, h.symm⟩

end Units

open FourRows in
/-- The four rows with predictors in halves and responses in thirds of their units. -/
theorem Model.fit_in_other_units_four_rows :
    (pls1.fit tools predictors responses).2.outcome = .ok () ∧
      (pls1.fit tools (predictors.scale 2) (responses.scale 3)).2.outcome = .ok () ∧
      ∀ new, (pls1.fit tools (predictors.scale 2) (responses.scale 3)).1.predict (new.scale 2) =
        ((pls1.fit tools predictors responses).1.predict new).map fun answer => answer.scale 3 := by
  have hcenter : Scheme.ofValue? (.text "center") ≠ some .standardize := by
    rw [scheme_of_checkPlan checkPlan_eq]
    decide
  obtain ⟨hiff, -, hpredict⟩ := Model.fit_in_other_units tools_exact
    Toolkit.exact_exactCondition pls1 .pls1 hcenter (a := 2) (b := 3) (by norm_num) (by norm_num)
    predictors responses
  exact ⟨pls1_fit, hiff.mpr pls1_fit, hpredict pls1_fit⟩

end PartialLeastSquares
