/-
# Guarded operations on arrays of data

The guarded arithmetic of the library (`l2`, `l2_sq`, `normalize`, `safe_divide`, `inverse`,
`dominant_eigenvector`), and the operations on kernels and weights (`center_kernel`,
`center_cross_kernel`, `slim`, `initial_vector`), for arrays of any shape as they are handed over.
What an operation requires of the shape is checked first; then the operation on vectors or
matrices does the work.
-/
import PartialLeastSquares.Data.NdArray
import PartialLeastSquares.Kernel.Centering
import PartialLeastSquares.Linear.Guard
import PartialLeastSquares.Method.Simpls
import PartialLeastSquares.Value

namespace PartialLeastSquares

/-! ## 1. Failures -/

/-- Why an operation on arrays fails.  Beside a `NumericalError` these are the errors of arrays
that do not have the shape that an operation takes for granted: no entry or several where a number
is expected, a matrix without entries, a number of rows that is zero and divided by, or two shapes
that do not fit together. -/
inductive OperationError (K : Type) where
  | numerical (error : NumericalError K)
  | unreadable (error : ReadError)
  | ambiguous (empty : Bool)
  | emptyMatrix
  | noEigenvector
  | noRows
  | fewAxes
  | wrongKind
  | product (right left : Nat)
  | shapes (left right : List Nat)
  | negativeSeed
  | negativeLength

namespace OperationError

variable {K : Type}

def kind : OperationError K → FailureKind
  | numerical _ => .numerical
  | unreadable e => e.kind
  | ambiguous _ => .value
  | emptyMatrix => .linearAlgebra
  | noEigenvector => .value
  | noRows => .zeroDivision
  | fewAxes => .index
  | wrongKind => .wrongKind
  | product _ _ => .value
  | shapes _ _ => .value
  | negativeSeed => .value
  | negativeLength => .value

def message : OperationError Float → String
  | numerical e => e.message
  | unreadable e => e.message
  | ambiguous true => "The truth value of an empty array is ambiguous. Use `array.size > 0` to " ++
      "check that an array is not empty."
  | ambiguous false => "The truth value of an array with more than one element is ambiguous. " ++
      "Use a.any() or a.all()"
  | noEigenvector => "attempt to get argmax of an empty sequence"
  | product right left =>
    "matmul: Input operand 1 has a mismatch in its core dimension 0, with gufunc signature " ++
      "(n?,k),(k,m?)->(n?,m?) (size " ++ toString right ++ " is different from " ++
      toString left ++ ")"
  | shapes left right =>
    "operands could not be broadcast together with shapes " ++ shapeText left ++ " " ++
      shapeText right ++ " "
  | negativeSeed => "expected non-negative integer"
  | negativeLength => "negative dimensions are not allowed"
  | _ => ""

end OperationError

def OperationError.ofNumerical {K α : Type} (outcome : Except (NumericalError K) α) :
    Except (OperationError K) α :=
  match outcome with
  | .ok a => .ok a
  | .error e => .error (.numerical e)

namespace NdArray

variable {K : Type} [Scalar K]

/-! ## 2. Vectors of any shape -/

/-- The length of all entries taken as one vector, `l2`. -/
def norm (a : NdArray K) : K := a.toVec.norm

def normSq (a : NdArray K) : K := a.toVec.normSq

def normalize (what : Quantity) (a : NdArray K) (reference : K) :
    Except (OperationError K) (NdArray K) := do
  let v ← OperationError.ofNumerical (PartialLeastSquares.normalize what a.toVec reference)
  return { a with entries := v.toList }

def divideBy (what : Quantity) (a divisor : NdArray K) (reference : K) :
    Except (OperationError K) (NdArray K) :=
  match divisor.entries with
  | [d] => do
    let v ← OperationError.ofNumerical (PartialLeastSquares.divideBy what a.toVec d reference)
    return { a with entries := v.toList }
  | [] => .error (.ambiguous true)
  | _ => .error (.ambiguous false)

/-! ## 3. Matrices -/

def invert (tools : Toolkit K) (what : Quantity) (a : NdArray K) :
    Except (OperationError K) (NdArray K) :=
  if !a.entries.all Scalar.isFinite then .error (.numerical (.uninvertible what .nonFinite))
  else
    match a.shape with
    | [] => .error (.numerical (.uninvertible what (.fewAxes 0)))
    | [_] => .error (.numerical (.uninvertible what (.fewAxes 1)))
    | [n, p] =>
      if n ≠ p then .error (.numerical (.uninvertible what (.notSquare [n, p])))
      else if n = 0 then .error .emptyMatrix
      else do
        let b ← OperationError.ofNumerical (PartialLeastSquares.invert tools what (a.toMat n n))
        return ofMat b
    | shape => .error (.numerical (.uninvertible what (.notSquare shape)))

/-- The dominant eigenvector of a symmetric matrix, as a column: `dominant_eigenvector`. -/
def eigenvector (tools : Toolkit K) (a : NdArray K) : Except (OperationError K) (NdArray K) :=
  if !a.entries.all Scalar.isFinite then .error (.numerical .eigenNonFinite)
  else
    match a.shape with
    | [n, p] =>
      if n ≠ p then .error (.numerical .eigenNotSquare)
      else if n = 0 then .error .noEigenvector
      else do
        let v ← OperationError.ofNumerical (dominantEigenvector tools 0 (a.toMat n n))
        return ofMat (Mat.ofCol v)
    | _ => .error (.numerical .eigenNotSquare)

def centerKernel (a : NdArray K) : Except (OperationError K) (NdArray K) :=
  match a.shape with
  | [n, p] =>
    if n = 0 then .error .noRows
    else if n ≠ p then .error (.product n p)
    else .ok (ofMat (PartialLeastSquares.centerKernel (a.toMat n n)))
  | 0 :: _ => .error .noRows
  | _ => .error .fewAxes

/-- A kernel between new rows and training rows, centered: `center_cross_kernel`, which asks for
the number of training rows first. -/
def centerCrossKernel (cross training : NdArray K) : Except (OperationError K) (NdArray K) :=
  match cross.shape, training.shape with
  | [m, k], [n, c] =>
    if n = 0 then .error .noRows
    else if k ≠ c then .error (.shapes [m, k] [m, c])
    else if c ≠ n then .error (.product n c)
    else .ok (ofMat (PartialLeastSquares.centerCrossKernel (cross.toMat m n) (training.toMat n n)))
  | _, 0 :: _ => .error .noRows
  | _, _ => .error .fewAxes

/-- A matrix of weights, thinned out to a number of entries in each column: `slim`, where a
fraction cannot cut the order of a column. -/
def slim (a : NdArray K) (count : Value) : Except (OperationError K) (NdArray K) :=
  match a.shape with
  | [n, p] =>
    match count.number? with
    | none => .error .wrongKind
    | some (.whole k) => .ok (ofMat (Simpls.slim (a.toMat n p) k))
    | some (.real x) =>
      if x ≤ 0.0 ∨ Float.ofInt n ≤ x ∨ p = 0 then .ok a else .error .wrongKind
  | _ => .error .fewAxes

end NdArray

/-- **The start vector of a component,** `initial_vector`, as a column of the given length. -/
def startVector {K : Type} (tools : Toolkit K) (length seed component : Value) :
    Except (OperationError K) (NdArray K) :=
  match seed.integer?, component.integer? with
  | some s, some j =>
    if s + j < 0 then .error .negativeSeed
    else
      match length.integer? with
      | none => .error .wrongKind
      | some n =>
        if n < 0 then .error .negativeLength
        else .ok (NdArray.ofMat (Mat.ofCol (tools.start n.toNat (s + j).toNat)))
  | _, _ => .error .wrongKind

end PartialLeastSquares
