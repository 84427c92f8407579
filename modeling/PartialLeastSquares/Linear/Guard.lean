/-
# Guarded arithmetic

Every division, normalisation and inversion of the library goes through `normalize`,
`safe_divide`, `inverse` or `dominant_eigenvector`, which are the operations of this file.  Each
refuses a result that would be undefined or meaningless with a `NumericalError`, so that a
degenerate fit fails where it degenerates and says which quantity it was computing.

Whether a quantity counts as zero is decided relative to a *reference*: the magnitude the quantity
would have for data that is not degenerate.  A test against `ZERO_NORM * reference` therefore does
not depend on the units of the data.
-/
import PartialLeastSquares.Decimal.Layout
import PartialLeastSquares.Failure
import PartialLeastSquares.Linear.Mat

namespace PartialLeastSquares

/-! ## 1. Quantities and their failures -/

/-- A quantity that an estimator computes, the `what` of a guard; components are counted from
zero.  Called from outside, a guard is given any text. -/
inductive Quantity where
  | named (text : String)
  | weight (component : Nat)
  | regressionCoefficient (component : Nat)
  | loading (component : Nat)
  | deflationDirection (component : Nat)
  | kernelScore (component : Nat)
  | responseScore (component : Nat)
  | kernelLoading (component : Nat)
  | initialWeight
  | residualLoading (component : Nat)
  | orthogonalWeight (component : Nat)
  | orthogonalLoading (component : Nat)
  | loadingsByWeights
  | scoresByScores
deriving DecidableEq

namespace Quantity

/-- A quantity of a component, which a message counts from one. -/
def ofComponent (what : String) (component : Nat) : String :=
  what ++ " of component " ++ toString (component + 1)

/-- The name of a quantity in a message, the `what` that the fits write out at each guard. -/
def text : Quantity → String
  | named s => s
  | weight j => ofComponent "weight vector" j
  | regressionCoefficient j => ofComponent "regression coefficient" j
  | loading j => ofComponent "loading vector" j
  | deflationDirection j => ofComponent "deflation direction" j
  | kernelScore j => ofComponent "kernel score vector" j
  | responseScore j => ofComponent "response score vector" j
  | kernelLoading j => ofComponent "kernel loading" j
  | initialWeight => "initial weight vector"
  | residualLoading j => ofComponent "loading" j
  | orthogonalWeight j => ofComponent "orthogonal weight" j
  | orthogonalLoading j => ofComponent "orthogonal loading" j
  | loadingsByWeights => "P^T W"
  | scoresByScores => "T^T K U"

end Quantity

/-- Why `inverse` refuses a matrix: for its entries, its shape, a pivot that is exactly zero, an
inverse that is not finite, or a condition number so large that no digit of the inverse can be
trusted (`illConditioned`). -/
inductive Uninvertible where
  | nonFinite
  | notSquare (shape : List Nat)
  | fewAxes (axes : Nat)
  | exactlySingular
  | singular
  | illConditioned
deriving DecidableEq

namespace Uninvertible

def text : Uninvertible → String
  | nonFinite => "non-finite entries"
  | notSquare shape => "Expected square matrix, got a1.shape=" ++ "(" ++
      ", ".intercalate (shape.map toString) ++ ")"
  | fewAxes axes => "Expected at least ndim=2, got a1.ndim=" ++ toString axes
  | exactlySingular => "A singular matrix detected: slice(s) [0] are singular."
  | singular => "matrix is singular"
  | illConditioned => "matrix is singular to working precision"

end Uninvertible

/-- **A degenerate or singular intermediate result,** `NumericalError` with its cause: `normalize`
met entries that are not finite or no length, `safe_divide` a divisor that counts as zero,
`inverse` a matrix without a usable inverse.  `unscalable` is the test of `w^T M w` in
`SIMPLS.fit_state`; the last two are refusals of `dominant_eigenvector`. -/
inductive NumericalError (K : Type) where
  | nonFinite (what : Quantity)
  | zeroNorm (what : Quantity)
  | zeroDivisor (what : Quantity)
  | uninvertible (what : Quantity) (why : Uninvertible)
  | unscalable (component : Nat) (length : K)
  | eigenNonFinite
  | eigenNotSquare

def NumericalError.message : NumericalError Float → String
  | nonFinite what => "Cannot normalize " ++ what.text ++ ": non-finite entries"
  | zeroNorm what =>
    "Cannot normalize " ++ what.text ++ ": zero norm (degenerate or collinear input)"
  | zeroDivisor what => "Division by zero while computing " ++ what.text
  | uninvertible what why => "Cannot invert " ++ what.text ++ ": " ++ why.text
  | unscalable j c =>
    "Cannot scale " ++ (Quantity.weight j).text ++ ": w^T M w = " ++ Decimal.generalFloat 3 c ++
      " (degenerate or collinear input)"
  | eigenNonFinite => "Cannot compute eigenvectors: non-finite entries"
  | eigenNotSquare => "Eigen-decomposition failed: expected square \"a\" matrix"

/-! ## 2. What the algorithms are given -/

/-- **The tools an algorithm relies on** and does not compute itself: the inverse of a square
matrix (nothing when a pivot is zero), its condition number, a unit eigenvector for the eigenvalue
of largest magnitude, and the start vector for a length and a seed.  A statement about an
algorithm can assume of them what it needs: that `inverse` is the inverse, or nothing at all of
`start`.  An eigenvector may depend on the component it is wanted for, since its sign is free. -/
structure Toolkit (K : Type) where
  inverse : {m : Nat} → Mat K m m → Option (Mat K m m)
  condition : {m : Nat} → Mat K m m → K
  eigenvector : (component : Nat) → {m : Nat} → Mat K m m → Vec K m
  start : (n seed : Nat) → Vec K n

/-! ## 3. The guarded operations -/

variable {K : Type} [Scalar K]

/-- A vector divided by its length, `normalize(v, what, reference)`: the length must be finite,
and more than `ZERO_NORM` times the reference. -/
def normalize {n : Nat} (what : Quantity) (v : Vec K n) (reference : K) :
    Except (NumericalError K) (Vec K n) :=
  let length := v.norm
  if !Scalar.isFinite length then .error (.nonFinite what)
  else if length ≤ Scalar.zeroNorm * reference then .error (.zeroNorm what)
  else .ok (v.dividedBy length)

/-- Whether a divisor is zero beside the reference, or not finite: the test of `safe_divide`. -/
def negligible (divisor reference : K) : Bool :=
  !Scalar.isFinite divisor || decide (Scalar.abs divisor ≤ Scalar.zeroNorm * reference)

/-- A vector divided by a number that must not be negligible, `safe_divide`. -/
def divideBy {n : Nat} (what : Quantity) (v : Vec K n) (divisor reference : K) :
    Except (NumericalError K) (Vec K n) :=
  if negligible divisor reference then .error (.zeroDivisor what) else .ok (v.dividedBy divisor)

/-- A number divided by another that must not be negligible: `safe_divide` of a numerator with one
entry. -/
def quotient (what : Quantity) (x divisor reference : K) : Except (NumericalError K) K :=
  if negligible divisor reference then .error (.zeroDivisor what) else .ok (x / divisor)

/-- **The inverse of a matrix,** refused when the matrix or its inverse is not finite, when there
is none, and when rounding would make it meaningless; the tests stand in the order of `inverse`.
-/
def invert {m : Nat} (tools : Toolkit K) (what : Quantity) (a : Mat K m m) :
    Except (NumericalError K) (Mat K m m) :=
  if !a.all Scalar.isFinite then .error (.uninvertible what .nonFinite)
  else
    match tools.inverse a with
    | none => .error (.uninvertible what .exactlySingular)
    | some b =>
      if !b.all Scalar.isFinite then .error (.uninvertible what .singular)
      else if Scalar.conditionLimit < tools.condition a then
        .error (.uninvertible what .illConditioned)
      else .ok b

/-- The dominant eigenvector of a symmetric matrix with finite entries, `dominant_eigenvector`. -/
def dominantEigenvector {m : Nat} (tools : Toolkit K) (component : Nat) (a : Mat K m m) :
    Except (NumericalError K) (Vec K m) :=
  if !a.all Scalar.isFinite then .error .eigenNonFinite
  else .ok (tools.eigenvector component a)

end PartialLeastSquares
