/-
# The life of a model

A `PLSModel` has three attributes that `fit` sets one after the other and that `_reset` removes
one after the other, and between them any number of calls that fail at any point.  Nothing in the
type of an object keeps the attributes together; what keeps them together is that a call either
leaves them alone, or removes them all, or goes through to the end of a fit.

So in every course of calls an object is one of two things: without a fit, or an object that
answers as a model does that has just been fitted by one of the calls (`run_one_fit_or_none`).
-/
import Mathlib
import PartialLeastSquares.Model.Object
import PartialLeastSquares.Proofs.Model.Learned

namespace PartialLeastSquares

/-! ## 1. Attributes -/

namespace Attributes

variable {K : Type}

/-- Removing the attributes one after the other removes them all. -/
@[simp]
theorem reset_eq_absent (a : Attributes K) : a.reset = absent := by
  obtain ⟨state, method, features⟩ := a
  cases state <;> cases method <;> cases features <;> rfl

/-- What a fit that goes through to its end sets. -/
def ofFit (method : Estimator) (t : Trained K) : Attributes K :=
  ⟨some t, some method, some t.features⟩

theorem has_absent (name : Attribute) : (absent : Attributes K).has name = false := by
  cases name <;> rfl

theorem has_ofFit (method : Estimator) (t : Trained K) (name : Attribute) :
    (ofFit method t).has name = true := by
  cases name <;> rfl

end Attributes

/-! ## 2. One call -/

namespace ModelObject

variable {K : Type}

theorem attributes_withSettings (o : ModelObject K) (e : Estimator) :
    (o.withSettings e).attributes = o.attributes := by
  cases e <;> rfl

theorem absent_of_configure {o : ModelObject K} {changes : List (String × Estimator)}
    (h : (o.configure changes).2 = .ok ()) : (o.configure changes).1.attributes = .absent := by
  unfold configure at h ⊢
  split at h
  · exact Attributes.reset_eq_absent _
  · cases h

theorem attributes_of_configure_error {o : ModelObject K} {changes : List (String × Estimator)}
    {e : ModelError K} (h : (o.configure changes).2 = .error e) :
    (o.configure changes).1.attributes = o.attributes := by
  unfold configure at h ⊢
  split at h
  · cases h
  · exact attributes_withSettings _ _

/-- A setting changed at its path has no effect on the fit. -/
theorem attributes_assign (o : ModelObject K) (path : List String) (v : Estimator) :
    (o.assign path v).1.attributes = o.attributes := by
  unfold assign
  split
  · exact attributes_withSettings _ _
  · rfl

variable [Scalar K] {tools : Toolkit K} {o : ModelObject K} {x y : Reading K}

/-- **How a fit of an object ends:** its checks refuse, and nothing has changed; its method fails,
and everything has been removed; or its method has learned something, and everything is set. -/
theorem fit_cases (tools : Toolkit K) (o : ModelObject K) (x y : Reading K) :
    (∃ e, o.model.validate x y = .error e ∧ o.fit tools x y = (o, .fail e)) ∨
    ∃ plan sample, o.model.validate x y = .ok ⟨plan, sample⟩ ∧
      ((∃ e events, train tools o.algorithm.methodOr plan sample.flat sample.x sample.y =
          ⟨events, .error e⟩ ∧ o.fit tools x y = (o.reset, ⟨events, .error e⟩)) ∨
        ∃ f events, train tools o.algorithm.methodOr plan sample.flat sample.x sample.y =
            ⟨events, .ok f⟩ ∧
          o.fit tools x y = ({ o with attributes := .ofFit o.algorithm.methodOr ⟨_, _, _, f⟩ },
            ⟨events, .ok ()⟩)) := by
  cases hvalid : o.model.validate x y with
  | error e =>
    refine .inl ⟨e, rfl, ?_⟩
    unfold fit
    rw [hvalid]
  | ok accepted =>
    obtain ⟨plan, sample⟩ := accepted
    refine .inr ⟨plan, sample, rfl, ?_⟩
    have hreset : o.reset.algorithm = o.algorithm := rfl
    rcases htrain : train tools o.algorithm.methodOr plan sample.flat sample.x sample.y with
      ⟨events, e | f⟩
    · refine .inl ⟨e, events, rfl, ?_⟩
      unfold fit
      simp only [hvalid, hreset, htrain]
    · refine .inr ⟨f, events, rfl, ?_⟩
      unfold fit
      simp only [hvalid, hreset, htrain]
      rfl

/-- **A fit of an object is a fit of the model that it stands for.** -/
theorem fit_model (tools : Toolkit K) (o : ModelObject K) (x y : Reading K) :
    o.model.fit tools x y = ((o.fit tools x y).1.model, (o.fit tools x y).2) := by
  have halgorithm : o.model.algorithm = o.algorithm := rfl
  rcases fit_cases tools o x y with ⟨e, hvalid, hfit⟩ | ⟨plan, sample, hvalid,
    ⟨e, events, htrain, hfit⟩ | ⟨f, events, htrain, hfit⟩⟩
  · rw [Model.fit_of_validate_error hvalid, hfit]
  · unfold Model.fit
    simp only [hvalid, halgorithm, htrain, hfit, reset, Attributes.reset_eq_absent]
    rfl
  · unfold Model.fit
    simp only [hvalid, halgorithm, htrain, hfit]
    rfl

/-- A fit that answers with its refusal is the same fit. -/
theorem initialize?_fst : (o.initialize? tools x y).1 = (o.fit tools x y).1 := by
  unfold initialize?
  split <;> rename_i h <;> rw [h]

theorem fit_eq_error_of_initialize? {e : ModelError K}
    (h : (o.initialize? tools x y).2.outcome = .error e) :
    (o.fit tools x y).2.outcome = .error e := by
  unfold initialize? at h
  split at h
  · cases h
  · cases h
  · rename_i hfit
    cases h
    rw [hfit]

/-- A fit of a new object with the settings of an object. -/
def fresh (tools : Toolkit K) (o : ModelObject K) (x y : Reading K) :
    ModelObject K × Run K Unit :=
  (new o.algorithm o.nComponents o.preprocessing).fit tools x y

/-- **What a fit may leave of the attributes:** all as they were, none, or all as the same fit of a
new object sets them. -/
def Leaves (tools : Toolkit K) (o : ModelObject K) (x y : Reading K) (a : Attributes K) : Prop :=
  a = o.attributes ∨ a = .absent ∨
    (o.fresh tools x y).2.outcome = .ok () ∧ a = (o.fresh tools x y).1.attributes

/-- A fit that learns something has learned it as a new object does. -/
theorem fresh_eq_of_train {plan : Plan} {sample : Sample K} {events : List (Event K)}
    {f : Fitted K sample.rows sample.features sample.targets}
    (hvalid : o.model.validate x y = .ok ⟨plan, sample⟩)
    (htrain : train tools o.algorithm.methodOr plan sample.flat sample.x sample.y =
      ⟨events, .ok f⟩) :
    o.fresh tools x y = (⟨o.algorithm, o.nComponents, o.preprocessing,
      .ofFit o.algorithm.methodOr ⟨_, _, _, f⟩⟩, ⟨events, .ok ()⟩) := by
  unfold fresh fit
  have hmodel : (new o.algorithm o.nComponents o.preprocessing).model.validate x y =
      .ok ⟨plan, sample⟩ := hvalid
  rw [hmodel]
  have hreset : (new o.algorithm o.nComponents o.preprocessing : ModelObject K).reset.algorithm =
      o.algorithm := rfl
  simp only [hreset, htrain]
  rfl

theorem leaves_fit (tools : Toolkit K) (o : ModelObject K) (x y : Reading K) :
    o.Leaves tools x y (o.fit tools x y).1.attributes := by
  rcases fit_cases tools o x y with ⟨e, hvalid, hfit⟩ | ⟨plan, sample, hvalid,
    ⟨e, events, htrain, hfit⟩ | ⟨f, events, htrain, hfit⟩⟩
  · exact .inl (by rw [hfit])
  · exact .inr (.inl (by rw [hfit]; exact Attributes.reset_eq_absent _))
  · have hfresh := fresh_eq_of_train hvalid htrain
    exact .inr (.inr (by rw [hfit, hfresh]; exact ⟨rfl, rfl⟩))

/-- **A numerical failure leaves nothing:** the checks that would leave the attributes as they were
do no numerical work. -/
theorem absent_of_numerical {e : ModelError K} (h : (o.fit tools x y).2.outcome = .error e)
    (hkind : e.kind = .numerical) : (o.fit tools x y).1.attributes = .absent := by
  rcases fit_cases tools o x y with ⟨e', hvalid, hfit⟩ | ⟨plan, sample, hvalid,
    ⟨e', events, htrain, hfit⟩ | ⟨f, events, htrain, hfit⟩⟩
  · rw [hfit] at h
    cases h
    exact absurd hkind (Model.validate_neverFails _ _ _ _ hvalid)
  · rw [hfit]
    exact Attributes.reset_eq_absent _
  · rw [hfit] at h
    cases h

/-! ## 3. What an object answers -/

/-- **An object without a fit.** No attribute is there, it maps no rows and predicts nothing, and
it has no matrix and no loadings, which it says without failing. -/
structure Unfit (o : ModelObject K) : Prop where
  attributes : ∀ name, o.attributes.has name = false
  transform : ∀ x, o.transform x = .error .notFitted
  predict : ∀ x, o.predict x = .error .notFitted
  matrix : ∀ name, o.matrix name = .ok none
  loadings : o.loadings = .ok none

/-- **An object that answers as a fitted model does.** Every attribute is there.  It maps rows and
predicts as the model does, and never fails to for want of a fit; it has the model's matrices and
loadings, and a matrix of every name that its method lists. -/
structure AnswersAs (o : ModelObject K) (m : Model K) : Prop where
  attributes : ∀ name, o.attributes.has name = true
  transform : ∀ x, o.transform x = m.transform x ∧ NeverFails .notFitted (o.transform x)
  predict : ∀ x, o.predict x = m.predict x ∧ NeverFails .notFitted (o.predict x)
  matrix : ∀ name, o.matrix name = .ok (m.matrix? name)
  matrixNames : ∃ names, o.matrixNames = .ok names ∧
    ∀ name ∈ names, ∃ a, o.matrix name = .ok (some a)
  loadings : ∃ a, m.loadings? = some a ∧ o.loadings = .ok (some a)

theorem unfit_of_absent (h : o.attributes = .absent) : o.Unfit where
  attributes name := by rw [h, Attributes.has_absent]
  transform x := by simp only [transform, learned, h]; rfl
  predict x := by simp only [predict, learned, h]; rfl
  matrix name := by simp only [matrix, h]; rfl
  loadings := by simp only [loadings, h]; rfl

/-- The matrices of what a method has learned are found under the names that it lists. -/
theorem matrix_eq {m : Model K} {method : Estimator} {t : Trained K}
    (hstate : o.attributes.state = some t) (hmethod : o.attributes.method = some method)
    (hm : m.trained = some t) (learns : method.Learns t.fitted) (name : String) :
    o.matrix name = .ok (m.matrix? name) := by
  have hmodel : m.matrix? name = t.fitted.matrix? name := by
    unfold Model.matrix?
    rw [hm]
    rfl
  rw [hmodel]
  unfold matrix
  rw [hstate, hmethod]
  by_cases hname : name ∈ t.fitted.matrices.map Prod.fst
  · obtain ⟨a, ha⟩ := Fitted.exists_matrix hname
    simp only [learns.matrices, hname, if_true, ha]
  · simp only [learns.matrices, hname, if_false]
    rw [Fitted.matrix?_eq_none hname]

omit [Scalar K] in
/-- What an object with the attributes of one fit has learned. -/
theorem learned_of_ofFit {method : Estimator} {t : Trained K}
    (h : o.attributes = .ofFit method t) : o.learned = .ok (t, method) := by
  unfold learned
  rw [h]
  rfl

theorem reads_of_learns {method : Estimator} {t : Trained K}
    (learns : method.Learns t.fitted) : method.reads t = true := by
  simp only [Estimator.reads, learns.name, beq_self_eq_true]

/-- An object with the attributes of one fit maps rows as a model that has learned the same. -/
theorem transform_of_ofFit {m : Model K} {method : Estimator} {t : Trained K}
    (h : o.attributes = .ofFit method t) (hm : m.trained = some t)
    (learns : method.Learns t.fitted) (x : Reading K) : o.transform x = m.transform x := by
  have hstate : o.attributes.state = some t := by rw [h]; rfl
  unfold transform
  rw [learned_of_ofFit h]
  exact (if_pos (reads_of_learns learns)).trans (Model.transform_congr (hstate.trans hm.symm) x)

/-- An object with the attributes of one fit predicts as a model that has learned the same. -/
theorem predict_of_ofFit {m : Model K} {method : Estimator} {t : Trained K}
    (h : o.attributes = .ofFit method t) (hm : m.trained = some t)
    (learns : method.Learns t.fitted) (x : Reading K) : o.predict x = m.predict x := by
  have hstate : o.attributes.state = some t := by rw [h]; rfl
  unfold predict
  rw [learned_of_ofFit h]
  by_cases hp : method.predicts = true
  · simp only [bind, Except.bind, hp, reads_of_learns learns]
    exact Model.predict_congr_trained (hstate.trans hm.symm) x
  · have hp' : ¬ t.fitted.predicts = true := learns.predicts ▸ hp
    unfold Model.predict Model.predictTable
    rw [Model.learned_eq hm]
    simp only [bind, Except.bind, hp, hp', learns.name]
    rfl

/-- **An object with the attributes of one fit** answers as a model that has learned the same. -/
theorem answersAs_of_ofFit {m : Model K} {method : Estimator} {t : Trained K}
    (h : o.attributes = .ofFit method t) (hm : m.trained = some t)
    (learns : method.Learns t.fitted) : o.AnswersAs m := by
  have hstate : o.attributes.state = some t := by rw [h]; rfl
  have hmethod : o.attributes.method = some method := by rw [h]; rfl
  have hnames : o.matrixNames = .ok method.matrixNames := by
    unfold matrixNames currentMethod
    rw [hmethod]
    rfl
  have hmatrix : ∀ name, o.matrix name = .ok (m.matrix? name) := fun name =>
    matrix_eq hstate hmethod hm learns name
  have hown : ∀ name ∈ method.matrixNames, ∃ a, m.matrix? name = some a := by
    intro name hname
    rw [learns.matrices] at hname
    obtain ⟨a, ha⟩ := Fitted.exists_matrix hname
    exact ⟨a, by rw [Model.matrix?, hm]; exact ha⟩
  exact {
    attributes := fun name => by rw [h, Attributes.has_ofFit]
    transform := fun x => by
      have hmodel := transform_of_ofFit h hm learns x
      exact ⟨hmodel, hmodel ▸ Model.transform_neverFails hm x⟩
    predict := fun x => by
      have hmodel := predict_of_ofFit h hm learns x
      exact ⟨hmodel, hmodel ▸ Model.predict_neverFails hm x⟩
    matrix := hmatrix
    matrixNames := ⟨_, hnames, fun name hname => by
      obtain ⟨a, ha⟩ := hown name hname
      exact ⟨a, by rw [hmatrix, ha]⟩⟩
    loadings := by
      obtain ⟨a, ha⟩ := hown _ (learns.matrices ▸ learns.loadings ▸ Fitted.loadingsName_mem _)
      refine ⟨a, ?_, ?_⟩
      · rw [← ha]
        unfold Model.loadings? Model.matrix?
        rw [hm, learns.loadings]
        rfl
      · unfold loadings
        rw [hmethod, ← ha]
        exact hmatrix _ }

/-! ## 4. Courses of calls -/

/-- The data that a call fits to. -/
def Call.data? : Call K → Option (Reading K × Reading K)
  | .fit x y => some (x, y)
  | .initialize? x y => some (x, y)
  | _ => none

theorem run_concat (tools : Toolkit K) (o : ModelObject K) (calls : List (Call K)) (call : Call K) :
    o.run tools (calls ++ [call]) = (o.run tools calls).after tools call :=
  List.foldl_concat ..

theorem leaves_after (tools : Toolkit K) (o : ModelObject K) {call : Call K}
    (h : call.data? = some (x, y)) :
    o.Leaves tools x y (o.after tools call).attributes := by
  cases call with
  | fit x' y' =>
    obtain ⟨rfl, rfl⟩ := Prod.mk.inj (Option.some.inj h)
    exact leaves_fit tools o x' y'
  | initialize? x' y' =>
    obtain ⟨rfl, rfl⟩ := Prod.mk.inj (Option.some.inj h)
    show o.Leaves tools x' y' (o.initialize? tools x' y').1.attributes
    rw [initialize?_fst]
    exact leaves_fit tools o x' y'
  | _ => cases h

/-- Any other call leaves the attributes as they are, or removes them. -/
theorem attributes_after (tools : Toolkit K) (o : ModelObject K) {call : Call K}
    (h : call.data? = none) :
    (o.after tools call).attributes = o.attributes ∨
      (o.after tools call).attributes = .absent := by
  cases call with
  | fit => cases h
  | initialize? => cases h
  | configure changes =>
    cases hr : (o.configure changes).2 with
    | ok => exact .inr (absent_of_configure hr)
    | error e => exact .inl (attributes_of_configure_error hr)
  | assign path v => exact .inl (attributes_assign o path v)
  | _ => exact .inl rfl

/-- **Where the attributes come from:** there are none, or they are those of one fit of the course.
The induction is on the course, one call more at its end. -/
theorem run_attributes (tools : Toolkit K) (o : ModelObject K) (ho : o.attributes = .absent)
    (calls : List (Call K)) :
    (o.run tools calls).attributes = .absent ∨
      ∃ before call after x y, calls = before ++ call :: after ∧ call.data? = some (x, y) ∧
        ((o.run tools before).fresh tools x y).2.outcome = .ok () ∧
        (o.run tools calls).attributes =
          ((o.run tools before).fresh tools x y).1.attributes := by
  induction calls using List.reverseRecOn with
  | nil => exact .inl ho
  | append_singleton calls call ih =>
    rw [run_concat]
    have hearlier : (o.run tools calls).attributes = .absent ∨ ∃ before first after x y,
        calls ++ [call] = before ++ first :: after ∧ first.data? = some (x, y) ∧
          ((o.run tools before).fresh tools x y).2.outcome = .ok () ∧
          (o.run tools calls).attributes =
            ((o.run tools before).fresh tools x y).1.attributes := by
      rcases ih with h | ⟨before, first, after, x, y, hcalls, hrest⟩
      · exact .inl h
      · exact .inr ⟨before, first, after ++ [call], x, y, by simp [hcalls], hrest⟩
    cases hdata : call.data? with
    | none =>
      rcases attributes_after tools (o.run tools calls) hdata with h | h
      · rwa [h]
      · exact .inl h
    | some data =>
      obtain ⟨x, y⟩ := data
      rcases leaves_after tools (o.run tools calls) hdata with h | h | ⟨hok, h⟩
      · rwa [h]
      · exact .inl h
      · exact .inr ⟨calls, call, [], x, y, rfl, hdata, hok, h⟩

/-- An object with the attributes of a fit of a new object answers as the model does that this fit
leaves. -/
theorem answersAs_of_fresh {o' : ModelObject K} (hok : (o'.fresh tools x y).2.outcome = .ok ())
    (h : o.attributes = (o'.fresh tools x y).1.attributes) :
    o.AnswersAs ((Model.new o'.algorithm o'.nComponents o'.preprocessing).fit tools x y).1 := by
  have hmodel : (Model.new o'.algorithm o'.nComponents o'.preprocessing).fit tools x y =
      ((o'.fresh tools x y).1.model, (o'.fresh tools x y).2) :=
    fit_model tools (new o'.algorithm o'.nComponents o'.preprocessing) x y
  rw [hmodel]
  rcases fit_cases tools (new o'.algorithm o'.nComponents o'.preprocessing) x y with
    ⟨e, -, hfit⟩ | ⟨plan, sample, -, ⟨e, events, -, hfit⟩ | ⟨f, events, htrain, hfit⟩⟩
  · rw [fresh, hfit] at hok
    cases hok
  · rw [fresh, hfit] at hok
    cases hok
  · rw [fresh, hfit] at h ⊢
    have hlearned := congrArg Run.outcome htrain
    exact answersAs_of_ofFit h rfl (learns_of_train (methodOr_ne_null _) hlearned)

/-- **In every course of calls an object has one fit or none.**  A new object is used by any calls,
in any order, successful or failing, with its settings changed in between.  Then it either has no
fit, or it answers as the model does that one of the fits in the course has left, from the data of
that call and the settings at that time.  The next fit leaves the attributes as they are, removes
them, or sets them all; a numerical failure removes them, and so does an accepted change of
settings by name. -/
theorem run_one_fit_or_none (tools : Toolkit K) (algorithm : Estimator)
    (nComponents preprocessing : Value) (calls : List (Call K)) :
    let o := (new algorithm nComponents preprocessing).run tools calls
    (o.Unfit ∨ ∃ before call after x y, calls = before ++ call :: after ∧
      call.data? = some (x, y) ∧
      let o' := (new algorithm nComponents preprocessing).run tools before
      (o'.fresh tools x y).2.outcome = .ok () ∧
      o.attributes = (o'.fresh tools x y).1.attributes ∧
      o.AnswersAs ((Model.new o'.algorithm o'.nComponents o'.preprocessing).fit tools x y).1) ∧
    (∀ call x y, call.data? = some (x, y) →
      o.Leaves tools x y (o.after tools call).attributes) ∧
    (∀ x y e, e.kind = .numerical →
      ((o.fit tools x y).2.outcome = .error e →
        (o.after tools (.fit x y)).attributes = .absent) ∧
      ((o.initialize? tools x y).2.outcome = .error e →
        (o.after tools (.initialize? x y)).attributes = .absent)) ∧
    ∀ changes, (o.configure changes).2 = .ok () →
      (o.after tools (.configure changes)).attributes = .absent := by
  intro o
  refine ⟨?_, fun call x y => leaves_after tools o, fun x y e hkind => ⟨fun h => ?_, fun h => ?_⟩,
    fun changes => absent_of_configure⟩
  · rcases run_attributes tools (new algorithm nComponents preprocessing) rfl calls with
      h | ⟨before, call, after, x, y, hcalls, hdata, hok, h⟩
    · exact .inl (unfit_of_absent h)
    · exact .inr ⟨before, call, after, x, y, hcalls, hdata, hok, h, answersAs_of_fresh hok h⟩
  · exact absent_of_numerical h hkind
  · show (o.initialize? tools x y).1.attributes = .absent
    rw [initialize?_fst]
    exact absent_of_numerical (fit_eq_error_of_initialize? h) hkind

end ModelObject

end PartialLeastSquares
