/-
# Checking settings and data

Everything that a fit requires is checked here, in the order of `PLSModel._validate`: the number
of components, the scheme, the data, and last what the `check` of the method itself requires.  A
check does not touch the model, so a refusal leaves it as it was.

The same requirements apply to a model that an orthogonal filter fits on what it leaves; its data
is already a matrix, and only its entries are looked at.
-/
import PartialLeastSquares.Method.Simpls
import PartialLeastSquares.Model.Error

namespace PartialLeastSquares

variable {K : Type} [Scalar K]

/-! ## 1. Settings of a model -/

/-- The settings of a model, once accepted: `n_components` as a number and `preprocessing` as a
scheme. -/
structure Plan where
  components : Nat
  scheme : Scheme

/-- The settings of a model, or why they are refused: the first two tests of `_validate`.  A truth
value is no number of components. -/
def checkPlan (nComponents preprocessing : Value) : Except Invalid Plan :=
  match nComponents.strictInteger? with
  | none => .error (.nComponents nComponents)
  | some count =>
    if count < 1 then .error (.nComponents nComponents)
    else
      match Scheme.ofValue? preprocessing with
      | none => .error (.preprocessing preprocessing)
      | some scheme => .ok ⟨count.toNat, scheme⟩

/-! ## 2. Data -/

/-- Predictors and responses with as many rows; `flat` is `y_1d`, whether the responses came as an
array with one axis. -/
structure Sample (K : Type) where
  rows : Nat
  features : Nat
  targets : Nat
  x : Mat K rows features
  y : Mat K rows targets
  flat : Bool

/-- An error in reading data, of which `_validate` turns only unusable values into refusals. -/
def readFailure (e : ReadError) : ModelError K :=
  match e.kind with
  | .value => .invalid (.unreadable e)
  | _ => .unreadable e

def readPredictors (x : Reading K) : Except (ModelError K) (Table K) :=
  match x with
  | .sparse => .error (.invalid .sparse)
  | .unreadable e => .error (readFailure e)
  | .array a =>
    match Table.ofArray? false a with
    | .ok t => .ok t
    | .error problem => .error (.invalid (.unsuitable problem))

def readResponse (y : Reading K) : Except (ModelError K) (NdArray K) :=
  match y with
  | .sparse => .error (.invalid .sparse)
  | .unreadable e => .error (readFailure e)
  | .array a => .ok a

/-- **Data read and checked,** the middle part of `_validate`: sparse data first, then predictors
and responses on their own, and their numbers of rows last. -/
def readSample (x y : Reading K) : Except (ModelError K) (Sample K) := do
  let sparse := match x, y with
    | .sparse, _ => true
    | _, .sparse => true
    | _, _ => false
  if sparse then throw (.invalid .sparse)
  let predictors ← readPredictors x
  let response ← readResponse y
  let flat := response.axes == 1
  let response := if flat then response.column else response
  match response.shape with
  | [n, q] =>
    let y := response.toMat n q
    if !y.finite then throw (.invalid .responseNonFinite)
    if h : n = predictors.rows then
      return ⟨predictors.rows, predictors.cols, q, predictors.mat, h ▸ y, flat⟩
    else throw (.invalid (.rows predictors.rows n))
  | shape => throw (.invalid (.responseAxes shape.length))

/-- The requirements on data that is already a pair of matrices, as the `_validate` of a base
model finds them. -/
def checkEntries {n p q : Nat} (x : Mat K n p) (y : Mat K n q) : Except Invalid Unit :=
  match x.entryProblem? with
  | some problem => .error (.unsuitable problem)
  | none => if y.finite then .ok () else .error .responseNonFinite

/-! ## 3. What a method requires -/

/-- The requirements on the number of responses, `Algorithm.check`. -/
def checkResponses (bounds : ResponseBounds) (columns : Nat) : Except Invalid Unit :=
  match bounds.refusal? columns with
  | none => .ok ()
  | some _ => .error (.responseColumns bounds columns)

/-- The settings of an iteration, or why they are refused: `KernelPLS.check`, where a truth value
is a tolerance but neither a number of passes nor a seed. -/
def checkIteration (tol maxIter seed : Value) : Except Invalid (KernelPls.Settings K) :=
  match tol.number? with
  | none => .error (.tol tol)
  | some bound =>
    if !bound.above 0 then .error (.tol tol)
    else
      match maxIter.strictInteger? with
      | none => .error (.maxIter maxIter)
      | some most =>
        if most < 1 then .error (.maxIter maxIter)
        else
          match seed.strictInteger? with
          | none => .error (.seed seed)
          | some first =>
            if first < 0 then .error (.seed seed)
            else
              let tolerance : KernelPls.Tolerance K :=
                match bound with
                | .whole n =>
                  if n.natAbs < Number.wholeLimit then .within (Scalar.ofInt n) else .boundless
                | .real x => if x.isFinite then .within (Scalar.ofFloat x) else .infinite
              .ok ⟨tolerance, most.toNat, first.toNat⟩

/-- How many coefficients are kept, or why that is refused: `SIMPLS.check` compares the setting
with zero, and a setting that is no number cannot be compared. -/
def checkCoefficients (count : Value) : Except (ModelError K) Number :=
  match count.number? with
  | none => .error .wrongKind
  | some a => if a.below 0 then .error (.invalid (.numCoefficients count)) else .ok a

/-- How weights with a number of rows are thinned out to a number of coefficients.  A number that
is no integer would do only if it kept all of them. -/
def thinning (rows : Nat) (count : Number) : Simpls.Thinning :=
  match count with
  | .whole n => .keep n
  | .real x =>
    if 0.0 < x then
      if Float.ofInt rows ≤ x then .keepAll else .meaningless
    else .keepAll

/-- **The requirements of a method on its own settings and on the number of responses,** the
`check` of each class; a setting that is no method, or a base that is no model, is refused here
too. -/
def checkMethod (method : Estimator) (columns : Nat) : Except (ModelError K) Unit :=
  let responses (bounds : ResponseBounds) : Except (ModelError K) Unit :=
    match checkResponses bounds columns with
    | .ok () => .ok ()
    | .error why => .error (.invalid why)
  match method with
  | .pls1 => responses .one
  | .transformOnly => responses .one
  | .simpls count =>
    match (checkCoefficients count : Except (ModelError K) Number) with
    | .error e => .error e
    | .ok _ => responses .one
  | .kernelPls _ tol maxIter seed =>
    match (checkIteration tol maxIter seed : Except Invalid (KernelPls.Settings K)) with
    | .error why => .error (.invalid why)
    | .ok _ => responses .any
  | .opls (.plain .null) => responses .one
  | .opls (.model _ _ _) => responses .one
  | .opls base => .error (.invalid (.base base.className))
  | other => .error (.invalid (.method other.className))

end PartialLeastSquares
