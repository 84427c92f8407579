/-
# Arrays of data

Data arrives as an array with any number of axes.  `NdArray` is that array, flat and row by row;
`Table` is a matrix together with its size, which is what a checked array becomes.

`Table.ofArray?` is the `check_array` of `PLSModel._validate`, `_preprocess` and
`_ColumnTransform`: it states every requirement on an array that is to serve as a matrix, in the
order in which they are reported: two axes, no undefined entry, no infinite one, enough rows, and
a column.
-/
import PartialLeastSquares.Failure
import PartialLeastSquares.Linear.Mat

namespace PartialLeastSquares

/-! ## 1. Arrays and tables -/

/-- An array: the lengths of its axes, none for a single number, and its entries in row-major
order. -/
structure NdArray (K : Type) where
  shape : List Nat
  entries : List K

/-- A matrix of any size. -/
structure Table (K : Type) where
  rows : Nat
  cols : Nat
  mat : Mat K rows cols

namespace NdArray

variable {K : Type}

def axes (a : NdArray K) : Nat := a.shape.length

def ofVec {n : Nat} (x : Vec K n) : NdArray K := ⟨[n], x.toList⟩

def ofMat {n p : Nat} (a : Mat K n p) : NdArray K := ⟨[n, p], a.toList⟩

def toVec (a : NdArray K) : Vec K a.entries.length := ⟨a.entries.toArray, by simp⟩

variable [Scalar K]

/-- The entries as a matrix with the given numbers of rows and columns. -/
def toMat (a : NdArray K) (n p : Nat) : Mat K n p :=
  let flat := a.entries.toArray
  Mat.ofFn fun i j => flat.getD (i.val * p + j.val) 0

def column (a : NdArray K) : NdArray K := ⟨[a.entries.length, 1], a.entries⟩

def row (a : NdArray K) : NdArray K := ⟨[1, a.entries.length], a.entries⟩

end NdArray

def shapeText : List Nat → String
  | [n] => "(" ++ toString n ++ ",)"
  | shape => "(" ++ ", ".intercalate (shape.map toString) ++ ")"

/-! ## 2. Data as handed over -/

/-- Why data cannot be read as an array of numbers: a text that is no number, lists of different
lengths or depths (with the lengths they share), a member that is neither a number nor a list, a
whole number beyond every float, or something that is no sequence of numbers at all. -/
inductive ReadError where
  | notNumeric (shown : String)
  | ragged (shape : List Nat)
  | wrongKind
  | tooLarge
  | sequence
deriving DecidableEq

namespace ReadError

def kind : ReadError → FailureKind
  | notNumeric _ => .value
  | ragged _ => .value
  | sequence => .value
  | wrongKind => .wrongKind
  | tooLarge => .overflow

def message : ReadError → String
  | notNumeric shown => "could not convert string to float: " ++ shown
  | ragged shape =>
    "setting an array element with a sequence. The requested array has an inhomogeneous shape "
      ++ "after " ++ toString shape.length ++ " dimensions. The detected shape was " ++ shapeText shape
      ++ " + inhomogeneous part."
  | sequence => "setting an array element with a sequence."
  | wrongKind => ""
  | tooLarge => ""

end ReadError

/-- **Data as a caller hands it over:** an array of numbers, a sparse matrix (which no estimator
takes), or something that cannot be read. -/
inductive Reading (K : Type) where
  | array (a : NdArray K)
  | sparse
  | unreadable (error : ReadError)

namespace Reading

variable {K : Type}

/-- The array, where a sparse matrix is no array of numbers. -/
def array? : Reading K → Except ReadError (NdArray K)
  | array a => .ok a
  | sparse => .error .sequence
  | unreadable e => .error e

end Reading

/-! ## 3. Requirements on a matrix -/

/-- Why an array cannot serve as a matrix of data, one case for each refusal of `check_array`. -/
inductive ArrayProblem where
  | scalar
  | flat
  | manyAxes (axes : Nat)
  | undefined
  | infinite
  | noRows (shape : List Nat)
  | noColumns (shape : List Nat)
deriving DecidableEq

namespace ArrayProblem

/-- The text of a problem; `check?` names the check that found it, where the text tells. -/
def message (problem : ArrayProblem) (check? : Option String) : String :=
  let ending := match check? with
    | some name => " by " ++ name ++ "."
    | none => "."
  match problem with
  | scalar => "Expected 2D array, got scalar array instead:"
  | flat => "Expected 2D array, got 1D array instead:"
  | manyAxes n => "Found array with dim " ++ toString n ++ ", while dim <= 2 is required" ++ ending
  | undefined => "Input contains NaN."
  | infinite => "Input contains infinity or a value too large for dtype('float64')."
  | noRows shape =>
    "Found array with 0 sample(s) (shape=" ++ shapeText shape ++
      ") while a minimum of 1 is required" ++ ending
  | noColumns shape =>
    "Found array with 0 feature(s) (shape=" ++ shapeText shape ++
      ") while a minimum of 1 is required" ++ ending

end ArrayProblem

namespace Mat

variable {K : Type} [Scalar K] {n p : Nat}

def finite (a : Mat K n p) : Bool := a.all Scalar.isFinite

/-- The problem with the entries of a matrix, an undefined one before an infinite one. -/
def entryProblem? (a : Mat K n p) : Option ArrayProblem :=
  if a.finite then none
  else if a.any Scalar.isNaN then some .undefined
  else some .infinite

end Mat

namespace Table

variable {K : Type} [Scalar K]

/-- **An array as a matrix of finite numbers** with at least one column and, unless `rowless` is
set, at least one row: `check_array` for the data of a fit, and with `rowless` for new rows. -/
def ofArray? (rowless : Bool) (a : NdArray K) : Except ArrayProblem (Table K) :=
  match a.shape with
  | [] => .error .scalar
  | [_] => .error .flat
  | [n, p] =>
    let mat := a.toMat n p
    match mat.entryProblem? with
    | some problem => .error problem
    | none =>
      if n = 0 ∧ rowless = false then .error (.noRows [n, p])
      else if p = 0 then .error (.noColumns [n, p])
      else .ok ⟨n, p, mat⟩
  | shape => .error (.manyAxes shape.length)

end Table

end PartialLeastSquares
