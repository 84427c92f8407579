/-
# Fitted models

A fitted model, `FittedModel`, consists of what its method has learned and of an *envelope*: the
statistics by which data is preprocessed on the way in and predictions are scaled on the way out.
The model fitted on what an orthogonal filter leaves is a fitted model itself, so the type is
recursive.

Rows are mapped and predicted one by one in every method, by `transform_state` and
`predict_state`; nothing here looks at more than one new row at a time, except to refuse data that
is not finite.
-/
import PartialLeastSquares.Method.KernelPls
import PartialLeastSquares.Method.OrthogonalFilter
import PartialLeastSquares.Method.Pls1
import PartialLeastSquares.Method.Simpls
import PartialLeastSquares.Model.Error

namespace PartialLeastSquares

/-! ## 1. What a fit has learned -/

/-- What is done to data on the way in and to predictions on the way out: `x_transform` and
`y_transform` of `FittedModel`, and its `y_1d`. -/
structure Envelope (K : Type) (p q : Nat) where
  scheme : Scheme
  x : ColumnStats K p
  y : ColumnStats K q
  flat : Bool

/-- **A fitted model** of `n` training rows, `p` predictors and `q` responses: the
`algorithm_state` of a method in its envelope.  A `PLS1` may be barred from predicting, and an
`OPLSState` holds a fitted base. -/
inductive Fitted (K : Type) (n p : Nat) : Nat → Type where
  | pls1 (env : Envelope K p 1) (predicts : Bool) (fit : Pls1.Fit K n p) : Fitted K n p 1
  | simpls (env : Envelope K p 1) (fit : Simpls.Fit K p) : Fitted K n p 1
  | kernelPls {q : Nat} (env : Envelope K p q) (fit : KernelPls.Fit K n p q) : Fitted K n p q
  | opls (env : Envelope K p 1) (filter : OrthogonalFilter.Fit K n p) (base : Fitted K n p 1) :
      Fitted K n p 1

namespace Fitted

variable {K : Type} {n p q : Nat}

def envelope : {q : Nat} → Fitted K n p q → Envelope K p q
  | _, pls1 env _ _ => env
  | _, simpls env _ => env
  | _, kernelPls env _ => env
  | _, opls env _ _ => env

def methodName : {q : Nat} → Fitted K n p q → String
  | _, pls1 _ true _ => "PLS1"
  | _, pls1 _ false _ => "TransformOnly"
  | _, simpls _ _ => "SIMPLS"
  | _, kernelPls _ _ => "KernelPLS"
  | _, opls _ _ _ => "OPLS"

def predicts : {q : Nat} → Fitted K n p q → Bool
  | _, pls1 _ b _ => b
  | _, _ => true

/-- How many columns `transform` gives: one for each component, and for a filter as many as there
are predictors. -/
def width : {q : Nat} → Fitted K n p q → Nat
  | _, pls1 _ _ fit => fit.components.length
  | _, simpls _ fit => fit.components.length
  | _, kernelPls _ fit => fit.components.length
  | _, opls _ _ _ => p

/-! ## 2. New rows -/

variable [Scalar K]

/-- **The representation of new rows,** which are finite: `transform_state` of the preprocessed
rows. -/
def transform {m : Nat} : {q : Nat} → (f : Fitted K n p q) → Mat K m p →
    Except (ModelError K) (Mat K m f.width)
  | _, pls1 env _ fit, x => .ok (fit.transform (env.x.apply x))
  | _, simpls env fit, x => .ok (fit.transform (env.x.apply x))
  | _, kernelPls env fit, x =>
    match fit.transform (env.x.apply x) with
    | .ok t => .ok t
    | .error e => .error (.ofUse e)
  | _, opls env filter _, x => .ok (filter.transform (env.x.apply x))

/-- **The predictions for new rows,** which are finite, on the scale of the responses:
`predict_state` of the preprocessed rows, scaled back.  Behind a filter it is the base that
predicts, with the checks of its own `predict`. -/
def predict {m : Nat} : {q : Nat} → Fitted K n p q → Mat K m p → Except (ModelError K) (Mat K m q)
  | _, pls1 env true fit, x => .ok (env.y.unapply (Mat.ofCol (fit.predict (env.x.apply x))))
  | _, pls1 _ false _, _ => .error (.unsupported "TransformOnly")
  | _, simpls env fit, x => .ok (env.y.unapply (Mat.ofCol (fit.predict (env.x.apply x))))
  | _, kernelPls env fit, x =>
    match fit.predict (env.x.apply x) with
    | .error e => .error (.ofUse e)
    | .ok raw =>
      match raw.entryProblem? with
      | some problem => .error (.unsuitable problem)
      | none => .ok (env.y.unapply raw)
  | _, opls env filter base, x =>
    if base.predicts then
      let filtered := filter.transform (env.x.apply x)
      match filtered.entryProblem? with
      | some problem => .error (.unsuitable problem)
      | none =>
        match base.predict filtered with
        | .error e => .error e
        | .ok y => .ok (env.y.unapply y)
    else .error (.unsupported base.methodName)

/-! ## 3. Matrices by name -/

def table {r c : Nat} (a : Mat K r c) : Table K := ⟨r, c, a⟩

def rowTable {c : Nat} (x : Vec K c) : Table K := ⟨1, c, Mat.ofFn fun _ j => x.get j⟩

/-- **The matrices of a fitted model** by name, in the order of `matrix_names`; each is read off
the components. -/
def matrices : {q : Nat} → Fitted K n p q → List (String × Table K)
  | _, pls1 _ _ fit =>
    [("r_hat", table (Mat.ofCol fit.regression)), ("P", table (Pls1.loadings fit.components)),
      ("W", table (Pls1.weights fit.components)), ("T", table (Pls1.scores fit.components)),
      ("b_hat", table (Mat.ofCol (Pls1.coefficients fit.components)))]
  | _, simpls _ fit =>
    [("W", table fit.slimmed), ("P", table (Simpls.loadings fit.components)),
      ("Q", rowTable (Simpls.responseLoadings fit.components)),
      ("B", table (Mat.ofCol fit.regression))]
  | _, kernelPls _ fit =>
    [("K", table fit.deflated), ("T", table (KernelPls.scores fit.components)),
      ("U", table (KernelPls.responseScores fit.components)),
      ("P", table (KernelPls.loadings fit.components)),
      ("Q", table (KernelPls.responseLoadings fit.components)), ("B", table fit.coefficients)]
  | _, opls _ filter _ =>
    [("P_orth", table (OrthogonalFilter.loadings filter.components)),
      ("W_orth", table (OrthogonalFilter.weights filter.components)),
      ("T_orth", table (OrthogonalFilter.scores filter.components)),
      ("X_osc", table filter.residual)]

/-- The matrix of a name, when the method has one of it: an attribute of the state object. -/
def matrix? (f : Fitted K n p q) (name : String) : Option (Table K) :=
  (f.matrices.find? fun m => m.1 == name).map Prod.snd

/-- The name of the loadings among the matrices, `loadings_name`. -/
def loadingsName : {q : Nat} → Fitted K n p q → String
  | _, pls1 _ _ _ => "P"
  | _, simpls _ _ => "W"
  | _, kernelPls _ _ => "T"
  | _, opls _ _ _ => "P_orth"

end Fitted

/-- The names of the matrices of a method, `matrix_names`, in the order in which they are listed.
-/
def Estimator.matrixNames : Estimator → List String
  | .simpls _ => ["W", "P", "Q", "B"]
  | .kernelPls _ _ _ _ => ["K", "T", "U", "P", "Q", "B"]
  | .opls _ => ["P_orth", "W_orth", "T_orth", "X_osc"]
  | _ => ["r_hat", "P", "W", "T", "b_hat"]

end PartialLeastSquares
