/-
# Models

A model is a configuration together with what it has been fitted to, if anything: a `PLSModel`
whose attributes are all there or all missing.  Every operation is a function from a model to an
answer.  A fit gives a model as well, in which what was learned before is replaced as a whole, so
that a model always answers from one fit or from none.

Settings are looked at by a fit only, so a setting may be changed on a fitted model without any
effect on what it answers.  How a caller's object changes its settings, and which changes discard
the fit, is told in `Model.Object`.
-/
import PartialLeastSquares.Model.Fit
import PartialLeastSquares.Model.Score

namespace PartialLeastSquares

/-! ## 1. Models -/

/-- A fitted model of any size, what `state_` holds. -/
structure Trained (K : Type) where
  rows : Nat
  features : Nat
  targets : Nat
  fitted : Fitted K rows features targets

/-- **A model: its settings, and what it has been fitted to.** The settings are the three
parameters of `PLSModel`, with any value in them. -/
structure Model (K : Type) where
  algorithm : Estimator
  nComponents : Value
  preprocessing : Value
  trained : Option (Trained K)

namespace Model

variable {K : Type}

def new (algorithm : Estimator) (nComponents preprocessing : Value) : Model K :=
  ⟨algorithm, nComponents, preprocessing, none⟩

def estimator (m : Model K) : Estimator := .model m.algorithm m.nComponents m.preprocessing

/-- The model without what it has learned. -/
def clone (m : Model K) : Model K := { m with trained := none }

/-! ## 2. Fitting -/

variable [Scalar K]

/-- The settings and the data of a fit, once `_validate` has accepted them. -/
structure Accepted (K : Type) where
  plan : Plan
  sample : Sample K

/-- **Checks settings and data,** `PLSModel._validate`.  Nothing is changed by it. -/
def validate (m : Model K) (x y : Reading K) : Except (ModelError K) (Accepted K) := do
  let plan ← match checkPlan m.nComponents m.preprocessing with
    | .ok plan => pure plan
    | .error why => throw (.invalid why)
  let sample ← readSample x y
  checkMethod m.algorithm.methodOr sample.targets
  return ⟨plan, sample⟩

/-- **Fits a model,** `PLSModel.fit`.  If settings or data are refused the model stays as it was;
if the fit fails later it has learned nothing; otherwise it has learned what this fit computed. -/
def fit (tools : Toolkit K) (m : Model K) (x y : Reading K) : Model K × Run K Unit :=
  match m.validate x y with
  | .error e => (m, .fail e)
  | .ok ⟨plan, sample⟩ =>
    let run := train tools m.algorithm.methodOr plan sample.flat sample.x sample.y
    match run.outcome with
    | .error e => (m.clone, ⟨run.events, .error e⟩)
    | .ok fitted => ({ m with trained := some ⟨_, _, _, fitted⟩ }, ⟨run.events, .ok ()⟩)

/-- Fits a model, with a refusal as an answer and not as a failure: `PLSModel.initialize`, whose
message is that of the `ValidationError`. -/
def initialize? (tools : Toolkit K) (m : Model K) (x y : Reading K) :
    Model K × Run K (Option Invalid) :=
  match m.fit tools x y with
  | (m, ⟨events, .ok ()⟩) => (m, ⟨events, .ok none⟩)
  | (m, ⟨events, .error (.invalid why)⟩) => (m, ⟨events, .ok (some why)⟩)
  | (m, ⟨events, .error e⟩) => (m, ⟨events, .error e⟩)

/-! ## 3. Using a fit -/

/-- What has been learned, which `check_is_fitted` asks for first. -/
def learned (m : Model K) : Except (ModelError K) (Trained K) :=
  match m.trained with
  | some t => .ok t
  | none => .error .notFitted

/-- New rows as a matrix of as many columns as the fit has seen, the check of `_preprocess`.
There may be no rows at all. -/
def readRows (x : Reading K) (features : Nat) :
    Except (ModelError K) ((m : Nat) × Mat K m features) :=
  match x with
  | .sparse => .error .sparse
  | .unreadable e => .error (.unreadable e)
  | .array a =>
    match Table.ofArray? true a with
    | .error problem => .error (.unsuitable problem)
    | .ok t =>
      if h : t.cols = features then .ok ⟨t.rows, h ▸ t.mat⟩
      else .error (.width t.cols features)

/-- The representation of new rows, `PLSModel.transform`. -/
def transform (m : Model K) (x : Reading K) : Except (ModelError K) (Table K) := do
  let t ← m.learned
  let ⟨rows, new⟩ ← readRows x t.features
  let mapped ← t.fitted.transform new
  return ⟨rows, t.fitted.width, mapped⟩

/-- The predictions for new rows, one column for each response, before `predict` gives them their
shape. -/
def predictTable (m : Model K) (x : Reading K) : Except (ModelError K) (Table K) := do
  let t ← m.learned
  if !t.fitted.predicts then throw (.unsupported t.fitted.methodName)
  let ⟨rows, new⟩ ← readRows x t.features
  let predicted ← t.fitted.predict new
  return ⟨rows, t.targets, predicted⟩

/-- Whether predictions are given as an array with one axis, the `y_1d` of the fit. -/
def flat (m : Model K) : Bool :=
  match m.trained with
  | some t => t.fitted.envelope.flat
  | none => false

/-- **The predictions for new rows,** `PLSModel.predict`: with one axis when the responses of the
fit had one. -/
def predict (m : Model K) (x : Reading K) : Except (ModelError K) (NdArray K) := do
  let table ← m.predictTable x
  if m.flat then return ⟨[table.rows * table.cols], table.mat.toList⟩
  else return NdArray.ofMat table.mat

/-- The score of the predictions for new rows; fewer than two rows have none. -/
def score (m : Model K) (x : Reading K) (counted : Counted) (y : Reading K) :
    Except (ModelError K) (Option K) := do
  let table ← m.predictTable x
  Score.ofReading counted y table

/-! ## 4. Matrices -/

/-- The fitted matrix of a name, `get_matrix`, when there is one. -/
def matrix? (m : Model K) (name : String) : Option (Table K) :=
  m.trained.bind fun t => t.fitted.matrix? name

/-- The fitted loadings, `get_loadings`, when there are any. -/
def loadings? (m : Model K) : Option (Table K) :=
  m.trained.bind fun t => t.fitted.matrix? t.fitted.loadingsName

/-! ## 5. The kernel of a fit -/

/-- A parameter of the kernel of a fit changed, at the end of a path from that fit: `kernel` in
the state of the method itself, or in that of a base at any depth. -/
def assignFitted {n p : Nat} : {q : Nat} → Fitted K n p q → List String → Value →
    Except Estimator.SettingError (Fitted K n p q)
  | _, .kernelPls env fit, ["kernel", name], v =>
    .ok (.kernelPls env { fit with kernel := (fit.kernel.set? name v).getD fit.kernel })
  | _, .opls env filter base, "base" :: "state_" :: "algorithm_state" :: rest, v =>
    match assignFitted base rest v with
    | .ok base => .ok (.opls env filter base)
    | .error e => .error e
  | _, _, _, _ => .error .noObject

end Model

end PartialLeastSquares
