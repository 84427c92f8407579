/-
# Failures of a model

A fit refuses settings and data for the reasons in `Invalid`, the `ValidationError` of
`PLSModel._validate`, all of which are found before any numerical work on that model begins.
`ModelError` adds what can go wrong later, and what can go wrong when a fitted model is used.
Each `message` is the text that is raised, where it is the library that words it.
-/
import PartialLeastSquares.Linear.Guard
import PartialLeastSquares.Model.Estimator
import PartialLeastSquares.Method.KernelPls
import PartialLeastSquares.Preprocessing

namespace PartialLeastSquares

/-! ## 1. Responses -/

/-- How many response columns a method takes, its `min_response_columns` and
`max_response_columns`. -/
structure ResponseBounds where
  least : Int
  most : Option Int
deriving DecidableEq

namespace ResponseBounds

def one : ResponseBounds := ⟨1, some 1⟩

def any : ResponseBounds := ⟨1, none⟩

/-- Whether a method with these bounds predicts several columns at once, `multi_response`. -/
def multiple (b : ResponseBounds) : Bool := b.most != some 1

/-- The message of `Algorithm.check` for a number of columns outside the bounds. -/
def refusal? (b : ResponseBounds) (columns : Nat) : Option String :=
  if b = one then
    if columns = 1 then none
    else some ("Algorithm requires exactly one response variable, found: " ++ toString columns)
  else if (columns : Int) < b.least then
    some ("Algorithm requires at least " ++ toString b.least ++ " response variable(s), found: " ++
      toString columns)
  else
    match b.most with
    | some most =>
      if most < (columns : Int) then
        some ("Algorithm supports at most " ++ toString most ++ " response variable(s), found: " ++
          toString columns)
      else none
    | none => none

end ResponseBounds

/-! ## 2. What a fit refuses -/

/-- **Why a fit does not accept its settings or its data:** one case for each `ValidationError` of
`_validate`, in the order of its tests, and for each message of a `check`. -/
inductive Invalid where
  | nComponents (v : Value)
  | preprocessing (v : Value)
  | sparse
  | unreadable (error : ReadError)
  | unsuitable (problem : ArrayProblem)
  | responseAxes (axes : Nat)
  | responseNonFinite
  | rows (predictors response : Nat)
  | method (kind : String)
  | responseColumns (bounds : ResponseBounds) (columns : Nat)
  | numCoefficients (v : Value)
  | tol (v : Value)
  | maxIter (v : Value)
  | seed (v : Value)
  | base (kind : String)

def Invalid.message : Invalid → String
  | nComponents v => "n_components must be a positive integer, got " ++ v.display
  | preprocessing v => Scheme.refusal v
  | sparse => "Sparse input is not supported"
  | unreadable e => e.message
  | unsuitable problem => problem.message none
  | responseAxes n => "Response must be 1-D or 2-D, got " ++ toString n ++ "-D"
  | responseNonFinite => "Response contains NaN or infinity"
  | rows n m =>
    "Predictors and response have different number of rows: " ++ toString n ++ " != " ++ toString m
  | method kind => "algorithm must be an Algorithm instance, got " ++ kind
  | responseColumns bounds columns => (bounds.refusal? columns).getD ""
  | numCoefficients v => "num_coefficients must be >= 0, got " ++ v.plain
  | tol v => "tol must be positive, got " ++ v.display
  | maxIter v => "max_iter must be a positive integer, got " ++ v.display
  | seed v => "seed must be a non-negative integer, got " ++ v.display
  | base kind => "base must be a PLSModel, got " ++ kind

/-! ## 3. All failures -/

/-- **What can go wrong with a model.** Beyond a refusal and a `NumericalError` these are the
errors of a kernel, of data that cannot be read or has another `width` than the training rows, of
a model that is `notFitted`, and of settings of a kind that their use does not allow.  `noScore`
is the unbound `t` of `KernelPLS.fit_state`. -/
inductive ModelError (K : Type) where
  | invalid (why : Invalid)
  | numerical (error : NumericalError K)
  | kernel (error : KernelError)
  | unreadable (error : ReadError)
  | sparse
  | unsuitable (problem : ArrayProblem)
  | width (found expected : Nat)
  | notFitted
  | unsupported (method : String)
  | wrongKind
  | noProperty
  | noScore
  | readOnly
  | samples (response prediction : Nat)
  | outputs (response prediction : Nat)
  | setting (error : Estimator.SettingError)
  | choice (error : KernelChoiceError)

namespace ModelError

variable {K : Type}

def kind : ModelError K → FailureKind
  | invalid _ => .validation
  | numerical _ => .numerical
  | kernel e => e.kind
  | unreadable e => e.kind
  | sparse => .wrongKind
  | unsuitable _ => .value
  | width _ _ => .value
  | notFitted => .notFitted
  | unsupported _ => .unsupported
  | wrongKind => .wrongKind
  | noProperty => .missingProperty
  | noScore => .unset
  | readOnly => .value
  | samples _ _ => .value
  | outputs _ _ => .value
  | setting e => e.kind
  | choice e => e.kind

def message : ModelError Float → String
  | invalid why => why.message
  | numerical e => e.message
  | kernel e => e.message
  | unreadable e => e.message
  | sparse => ""
  | unsuitable problem => problem.message none
  | width found expected =>
    "X has " ++ toString found ++ " features, but the model was fitted with " ++
      toString expected ++ " features"
  | notFitted => notFittedText "PLSModel"
  | unsupported method => method ++ " does not support predictions"
  | wrongKind => ""
  | noProperty => ""
  | noScore => "cannot access local variable 't' where it is not associated with a value"
  | readOnly => "assignment destination is read-only"
  | samples n m =>
    "Found input variables with inconsistent numbers of samples: [" ++ toString n ++ ", " ++
      toString m ++ "]"
  | outputs n m =>
    "y_true and y_pred have different number of output (" ++ toString n ++ "!=" ++ toString m ++ ")"
  | setting e => e.message
  | choice e => e.message

/-- How the reasons of a map in feature space read as failures of a model. -/
def ofUse : KernelPls.UseError → ModelError K
  | .unsuitable problem => unsuitable problem
  | .kernel e => kernel e

end ModelError

end PartialLeastSquares
