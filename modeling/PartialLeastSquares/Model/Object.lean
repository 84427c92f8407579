/-
# Models as objects

A caller holds a `PLSModel` as an object: its settings, and the three attributes `state_`,
`algorithm_` and `n_features_in_` that a fit sets one after the other, each of which is there or
not on its own account.  Nothing in the object's type keeps them together; an operation looks at
the attributes that it needs, and fails or declines when one of them is missing.

`ModelObject.model` forgets two of the attributes.  An object whose attributes are all there, or
all missing, is known by that model, and its operations are those of the model.
-/
import PartialLeastSquares.Model

namespace PartialLeastSquares

/-! ## 1. Attributes -/

/-- An attribute that a fit sets: `state_`, `algorithm_` or `n_features_in_`. -/
inductive Attribute where
  | state
  | method
  | features
deriving DecidableEq

/-- **What a fit has left on an object,** attribute by attribute; `method` is `algorithm_`, a copy
of the method that was configured.  A missing attribute is `none`. -/
structure Attributes (K : Type) where
  state : Option (Trained K)
  method : Option Estimator
  features : Option Nat

namespace Attributes

variable {K : Type}

def absent : Attributes K := ⟨none, none, none⟩

def has (a : Attributes K) : Attribute → Bool
  | .state => a.state.isSome
  | .method => a.method.isSome
  | .features => a.features.isSome

def erase (a : Attributes K) : Attribute → Attributes K
  | .state => { a with state := none }
  | .method => { a with method := none }
  | .features => { a with features := none }

/-- The attributes in the order in which `_reset` goes through them. -/
def removal : List Attribute := [.state, .method, .features]

/-- Removes the attributes that are there, one after the other, as `PLSModel._reset` does. -/
def reset (a : Attributes K) : Attributes K :=
  removal.foldl (fun a name => if a.has name then a.erase name else a) a

end Attributes

/-! ## 2. Methods -/

namespace Estimator

def predicts : Estimator → Bool
  | transformOnly => false
  | _ => true

/-- The name of a method's loadings among its matrices, `loadings_name`. -/
def loadingsName : Estimator → String
  | simpls _ => "W"
  | kernelPls _ _ _ _ => "T"
  | opls _ => "P_orth"
  | _ => "P"

/-- Whether a method can read what has been learned: another method's state object has other
fields. -/
def reads {K : Type} (method : Estimator) (t : Trained K) : Bool :=
  method.className == t.fitted.methodName

end Estimator

/-! ## 3. Objects -/

/-- **A model as an object:** the parameters of `PLSModel`, and its attributes. -/
structure ModelObject (K : Type) where
  algorithm : Estimator
  nComponents : Value
  preprocessing : Value
  attributes : Attributes K

namespace ModelObject

variable {K : Type}

def new (algorithm : Estimator) (nComponents preprocessing : Value) : ModelObject K :=
  ⟨algorithm, nComponents, preprocessing, .absent⟩

/-- An object that is known by its settings, when they are those of a model. -/
def ofEstimator? : Estimator → Option (ModelObject K)
  | .model algorithm nComponents preprocessing => some (new algorithm nComponents preprocessing)
  | _ => none

def estimator (o : ModelObject K) : Estimator :=
  .model o.algorithm o.nComponents o.preprocessing

def withSettings (o : ModelObject K) : Estimator → ModelObject K
  | .model algorithm nComponents preprocessing =>
    ⟨algorithm, nComponents, preprocessing, o.attributes⟩
  | _ => o

/-- The model that an object stands for: its settings, and what `state_` holds. -/
def model (o : ModelObject K) : Model K :=
  ⟨o.algorithm, o.nComponents, o.preprocessing, o.attributes.state⟩

def reset (o : ModelObject K) : ModelObject K := { o with attributes := o.attributes.reset }

/-! ## 4. Fitting -/

variable [Scalar K]

/-- **Fits an object,** `PLSModel.fit`.  Settings and data are checked before anything changes;
then what an earlier fit has left is removed, and only what the method has learned in the end sets
the attributes again, one after the other. -/
def fit (tools : Toolkit K) (o : ModelObject K) (x y : Reading K) : ModelObject K × Run K Unit :=
  match o.model.validate x y with
  | .error e => (o, .fail e)
  | .ok ⟨plan, sample⟩ =>
    let o := o.reset
    let method := o.algorithm.methodOr
    let run := train tools method plan sample.flat sample.x sample.y
    match run.outcome with
    | .error e => (o, ⟨run.events, .error e⟩)
    | .ok fitted =>
      let o := { o with attributes.method := some method }
      let o := { o with attributes.state := some ⟨_, _, _, fitted⟩ }
      let o := { o with attributes.features := some sample.features }
      (o, ⟨run.events, .ok ()⟩)

/-- Fits an object, with a refusal as an answer and not as a failure; other failures stay
failures. -/
def initialize? (tools : Toolkit K) (o : ModelObject K) (x y : Reading K) :
    ModelObject K × Run K (Option Invalid) :=
  match o.fit tools x y with
  | (o, ⟨events, .ok ()⟩) => (o, ⟨events, .ok none⟩)
  | (o, ⟨events, .error (.invalid why)⟩) => (o, ⟨events, .ok (some why)⟩)
  | (o, ⟨events, .error e⟩) => (o, ⟨events, .error e⟩)

/-! ## 5. Using a fit -/

/-- What has been learned, and the method to use it with.  Only `state_` is asked for by
`check_is_fitted`, so an object without `algorithm_` fails later, and in another way. -/
def learned (o : ModelObject K) : Except (ModelError K) (Trained K × Estimator) :=
  match o.attributes.state, o.attributes.method with
  | none, _ => .error .notFitted
  | some _, none => .error .noProperty
  | some t, some method => .ok (t, method)

/-- The representation of new rows, `PLSModel.transform`. -/
def transform (o : ModelObject K) (x : Reading K) : Except (ModelError K) (Table K) := do
  let (t, method) ← o.learned
  if method.reads t then o.model.transform x else throw .noProperty

/-- **The predictions for new rows,** `PLSModel.predict`: refused first when the method cannot
predict. -/
def predict (o : ModelObject K) (x : Reading K) : Except (ModelError K) (NdArray K) := do
  let (t, method) ← o.learned
  if !method.predicts then throw (.unsupported method.className)
  if method.reads t then o.model.predict x else throw .noProperty

def fitTransform (tools : Toolkit K) (o : ModelObject K) (x y : Reading K) :
    ModelObject K × Run K (Table K) :=
  match o.fit tools x y with
  | (o, ⟨events, .ok ()⟩) => (o, ⟨events, o.transform x⟩)
  | (o, ⟨events, .error e⟩) => (o, ⟨events, .error e⟩)

def score (o : ModelObject K) (x : Reading K) (counted : Counted) (y : Reading K) :
    Except (ModelError K) (Option K) := do
  let (t, method) ← o.learned
  if method.reads t then o.model.score x counted y else throw .noProperty

/-! ## 6. Matrices -/

/-- The method of the fit, or the one that a fit would use: `algorithm_` if it is there, and
`_new_algorithm()` otherwise. -/
def currentMethod (o : ModelObject K) : Except (ModelError K) Estimator :=
  match o.attributes.method with
  | some method => .ok method
  | none =>
    match o.algorithm.methodOr with
    | .plain v => .error (.invalid (.method v.kind))
    | .kernel k => .error (.invalid (.method k.className))
    | .model _ _ _ => .error (.invalid (.method "PLSModel"))
    | method => .ok method

/-- The names of the matrices, `get_matrix_names`: those of the fit, or those that a fit would
have. -/
def matrixNames (o : ModelObject K) : Except (ModelError K) (List String) :=
  o.currentMethod.map Estimator.matrixNames

/-- Whether there are loadings, or a fit would have them, `has_loadings`; every method has. -/
def hasLoadings (o : ModelObject K) : Except (ModelError K) Bool :=
  o.currentMethod.map fun _ => true

/-- The fitted matrix of a name, `get_matrix`: none when there is no fit, or its method has no
such matrix. -/
def matrix (o : ModelObject K) (name : String) : Except (ModelError K) (Option (Table K)) :=
  match o.attributes.state, o.attributes.method with
  | none, _ => .ok none
  | some _, none => .error .noProperty
  | some t, some method =>
    if name ∈ method.matrixNames then
      match t.fitted.matrix? name with
      | some a => .ok (some a)
      | none => .error .noProperty
    else .ok none

/-- The fitted loadings, `get_loadings`: none when there is no fit. -/
def loadings (o : ModelObject K) : Except (ModelError K) (Option (Table K)) :=
  match o.attributes.method with
  | none => .ok none
  | some method => o.matrix method.loadingsName

/-- Tries to change an entry of a fitted matrix, which is never allowed. -/
def write (o : ModelObject K) (name : String) : Except (ModelError K) Unit := do
  match ← o.matrix name with
  | some _ => throw .readOnly
  | none => throw .wrongKind

/-! ## 7. Changing settings -/

/-- **Changes settings by name,** `PLSModel.set_params`: the inherited loop, and `_reset` after
it.  If all names are known what a fit has left is removed; otherwise the changes before the
unknown one stay, and so does the fit. -/
def configure (o : ModelObject K) (changes : List (String × Estimator)) :
    ModelObject K × Except (ModelError K) Unit :=
  match o.estimator.configure changes with
  | (e, .ok ()) => ((o.withSettings e).reset, .ok ())
  | (e, .error err) => (o.withSettings e, .error (.setting err))

/-- The setting at a dotted path changed, with no effect on what a fit has left. -/
def assign (o : ModelObject K) (path : List String) (v : Estimator) :
    ModelObject K × Except (ModelError K) Unit :=
  match o.estimator.assign path v with
  | .ok e => (o.withSettings e, .ok ())
  | .error err => (o, .error (.setting err))

/-- A parameter of a fitted kernel changed, at a path into what has been learned: the kernel in a
`KernelPLSState` is an object that can still be changed. -/
def assignLearned (o : ModelObject K) (path : List String) (v : Value) :
    ModelObject K × Except (ModelError K) Unit :=
  match o.attributes.state with
  | none => (o, .error (.setting .noObject))
  | some t =>
    match Model.assignFitted t.fitted path v with
    | .ok fitted => ({ o with attributes.state := some { t with fitted } }, .ok ())
    | .error err => (o, .error (.setting err))

/-! ## 8. Calls -/

/-- **A call on an object:** a method of it, or a direct change of one of its settings. -/
inductive Call (K : Type) where
  | fit (x y : Reading K)
  | initialize? (x y : Reading K)
  | configure (changes : List (String × Estimator))
  | assign (path : List String) (v : Estimator)
  | transform (x : Reading K)
  | predict (x : Reading K)
  | matrix (name : String)
  | loadings
  | hasLoadings

/-- What a call leaves of an object, whether it succeeds or fails. -/
def after (tools : Toolkit K) (o : ModelObject K) : Call K → ModelObject K
  | .fit x y => (o.fit tools x y).1
  | .initialize? x y => (o.initialize? tools x y).1
  | .configure changes => (o.configure changes).1
  | .assign path v => (o.assign path v).1
  | .transform _ => o
  | .predict _ => o
  | .matrix _ => o
  | .loadings => o
  | .hasLoadings => o

/-- What calls leave of an object, one after the other. -/
def run (tools : Toolkit K) (o : ModelObject K) (calls : List (Call K)) : ModelObject K :=
  calls.foldl (after tools) o

end ModelObject

end PartialLeastSquares
