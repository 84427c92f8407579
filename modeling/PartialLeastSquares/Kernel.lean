/-
# Kernels as settings

A kernel is chosen by name with `create_kernel` and given parameters of any kind; they are looked
at when it is evaluated, and not before.  Evaluation, the `apply_matrix` of `LinearKernel`,
`PolyKernel` and `RBFKernel`, checks the parameters first and the data after them, each in a fixed
order, and reports the first thing that is wrong.

Within a fit the data is a pair of matrices already (`gram`, `selfGram`); called on its own a
kernel reads its arguments first (`gramOfReadings`), and `apply` compares their lengths.
-/
import PartialLeastSquares.Data.NdArray
import PartialLeastSquares.Kernel.Function
import PartialLeastSquares.Value

namespace PartialLeastSquares

/-! ## 1. Kernels and their parameters -/

/-- **A kernel with its parameters as they were given:** `LinearKernel`, `PolyKernel` and
`RBFKernel`. -/
inductive Kernel where
  | linear
  | poly (degree gamma coef0 : Value)
  | rbf (gamma : Value)

/-- Why `create_kernel` makes no kernel: no kernel has the name, or the kernel has no such
parameter. -/
inductive KernelChoiceError where
  | unknown (name : Value)
  | noParameter
deriving Inhabited

namespace KernelChoiceError

def kind : KernelChoiceError → FailureKind
  | unknown _ => .value
  | noParameter => .wrongKind

def message : KernelChoiceError → String
  | unknown name => "kernel must be one of 'linear', 'poly', 'rbf', got " ++ name.display
  | noParameter => ""

end KernelChoiceError

namespace Kernel

/-- The names under which kernels are chosen, the values of `KernelType`. -/
def names : List String := ["linear", "poly", "rbf"]

def className : Kernel → String
  | linear => "LinearKernel"
  | poly _ _ _ => "PolyKernel"
  | rbf _ => "RBFKernel"

/-- The parameters of a kernel by name, in alphabetical order, as they are shown. -/
def parameters : Kernel → List (String × Value)
  | linear => []
  | poly degree gamma coef0 => [("coef0", coef0), ("degree", degree), ("gamma", gamma)]
  | rbf gamma => [("gamma", gamma)]

/-- A kernel with one parameter changed, when it has one of that name. -/
def set? (kernel : Kernel) (name : String) (v : Value) : Option Kernel :=
  match kernel with
  | linear => none
  | poly degree gamma coef0 =>
    if name == "degree" then some (poly v gamma coef0)
    else if name == "gamma" then some (poly degree v coef0)
    else if name == "coef0" then some (poly degree gamma v)
    else none
  | rbf _ => if name == "gamma" then some (rbf v) else none

/-- The kernel with the default parameters that a value names, in any case: the value is turned
into text before it is looked up among the members of `KernelType`. -/
def default? (name : Value) : Option Kernel :=
  let asked := Text.lowered name.plain
  if asked == "linear" then some linear
  else if asked == "poly" then some (poly (.int 2) (.float 1.0) (.float 1.0))
  else if asked == "rbf" then some (rbf (.float 1.0))
  else none

/-- **A kernel by name and parameters,** `create_kernel` for a name.  A parameter that the kernel
does not have is an error. -/
def create (name : Value) (parameters : List (String × Value)) : Except KernelChoiceError Kernel :=
  match default? name with
  | none => .error (.unknown name)
  | some kernel =>
    parameters.foldlM (fun k (key, v) =>
      match k.set? key v with
      | some changed => .ok changed
      | none => .error KernelChoiceError.noParameter) kernel

end Kernel

/-! ## 2. Evaluation -/

/-- Why a kernel cannot be evaluated: a parameter out of its range, data that is no matrix of
finite numbers, or two arguments that do not fit together. -/
inductive KernelError where
  | parameter (name function range : String) (shown : String)
  | tooLarge
  | unreadable (error : ReadError)
  | unsuitable (problem : ArrayProblem)
  | widths (left right : Nat)
  | lengths (left right : Nat)
deriving DecidableEq

namespace KernelError

def kind : KernelError → FailureKind
  | parameter _ _ _ _ => .parameter
  | tooLarge => .overflow
  | unreadable e => e.kind
  | unsuitable _ => .value
  | widths _ _ => .value
  | lengths _ _ => .value

def message : KernelError → String
  | parameter name function range shown =>
    "The '" ++ name ++ "' parameter of " ++ function ++ " must be a float in the range " ++ range ++
      ". Got " ++ shown ++ " instead."
  | tooLarge => ""
  | unreadable e => e.message
  | unsuitable problem => problem.message (some "check_pairwise_arrays")
  | widths left right =>
    "Incompatible dimension for X and Y matrices: X.shape[1] == " ++ toString left ++
      " while Y.shape[1] == " ++ toString right
  | lengths left right =>
    "Vectors differ in length: " ++ toString left ++ " != " ++ toString right

end KernelError

/-- A parameter's range: the finite numbers from a bound on, or all of them; with the words in
which a message states it. -/
structure Range where
  least : Option Int
  optional : Bool
  text : String

namespace Range

def scale : Range := ⟨some 0, true, "[0.0, inf) or None"⟩

def degree : Range := ⟨some 1, false, "[1.0, inf)"⟩

def offset : Range := ⟨none, false, "(-inf, inf)"⟩

/-- Whether a value lies in a range. -/
def contains (r : Range) (v : Value) : Bool :=
  match v with
  | .null => r.optional
  | _ =>
    match v.number? with
    | none => false
    | some a =>
      let finite := match a with
        | .whole _ => true
        | .real x => x.isFinite
      finite && (match r.least with
        | none => true
        | some bound => !a.below bound)

end Range

namespace Kernel

variable {K : Type} [Scalar K]

/-- The range of each parameter, in the order in which they are checked, and the name of the
function that the parameters belong to. -/
def ranges : Kernel → String × List (String × Range × Value)
  | linear => ("linear_kernel", [])
  | poly degree gamma coef0 =>
    ("polynomial_kernel",
      [("degree", .degree, degree), ("gamma", .scale, gamma), ("coef0", .offset, coef0)])
  | rbf gamma => ("rbf_kernel", [("gamma", .scale, gamma)])

def checkParameters (kernel : Kernel) : Except KernelError Unit :=
  let (function, checks) := kernel.ranges
  match checks.find? fun (_, range, v) => !range.contains v with
  | some (name, range, v) => .error (.parameter name function range.text v.display)
  | none => .ok ()

def toScalar (v : Value) : Except KernelError K :=
  match v.number? with
  | some (.real x) => .ok (Scalar.ofFloat x)
  | some (.whole n) =>
    if n.natAbs < Number.wholeLimit then .ok (Scalar.ofInt n) else .error .tooLarge
  | none => .error .tooLarge

/-- A scale among the scalars, nothing for null, which stands for one over the number of features.
-/
def toScale (v : Value) : Except KernelError (Option K) :=
  match v with
  | .null => .ok none
  | _ => (toScalar v).map some

/-- The function of a kernel, whose parameters are in their ranges; a range leaves room for a
whole number that is too large for a float. -/
def function (kernel : Kernel) : Except KernelError (KernelFn K) :=
  match kernel with
  | linear => .ok .linear
  | poly degree gamma coef0 => do
    let gamma ← toScale gamma
    let coef0 ← toScalar coef0
    let degree ← toScalar degree
    .ok (.poly degree gamma coef0)
  | rbf gamma => do
    let gamma ← toScale gamma
    .ok (.rbf gamma)

/-- The requirements on a matrix that a kernel is applied to within a fit: finite, with rows and
columns.  New rows that are none at all are refused here. -/
def checkMatrix {n p : Nat} (a : Mat K n p) : Except KernelError Unit :=
  match a.entryProblem? with
  | some problem => .error (.unsuitable problem)
  | none =>
    if n = 0 then .error (.unsuitable (.noRows [n, p]))
    else if p = 0 then .error (.unsuitable (.noColumns [n, p]))
    else .ok ()

/-- **The kernel of the rows of a matrix with themselves,** `apply_matrix(X_train, X_train)` in
`KernelPLS.fit_state`. -/
def selfGram {n p : Nat} (kernel : Kernel) (a : Mat K n p) : Except KernelError (Mat K n n) := do
  kernel.checkParameters
  checkMatrix a
  let f ← kernel.function
  .ok (f.selfGram a)

/-- **The kernel of the rows of one matrix with the rows of another,** `apply_matrix` of new and
training rows in `KernelPLS.transform_state`. -/
def gram {n m p : Nat} (kernel : Kernel) (a : Mat K n p) (b : Mat K m p) :
    Except KernelError (Mat K n m) := do
  kernel.checkParameters
  checkMatrix a
  checkMatrix b
  let f ← kernel.function
  .ok (f.gram a b)

/-- An array that a kernel may be applied to. -/
def checkArray (a : NdArray K) : Except KernelError (Table K) :=
  match Table.ofArray? false a with
  | .ok t => .ok t
  | .error problem => .error (.unsuitable problem)

/-- The kernel of the rows of two arrays. -/
def gramOfArrays (kernel : Kernel) (a b : NdArray K) : Except KernelError (Table K) := do
  kernel.checkParameters
  let s ← checkArray a
  let t ← checkArray b
  if h : t.cols = s.cols then
    let f ← kernel.function
    .ok ⟨s.rows, t.rows, f.gram s.mat (h ▸ t.mat)⟩
  else .error (.widths s.cols t.cols)

def readArray (x : Reading K) : Except KernelError (NdArray K) :=
  match x.array? with
  | .ok a => .ok a
  | .error e => .error (.unreadable e)

/-- The kernel of the rows of two matrices of data, `apply_matrix` as it is called on its own:
both arguments are read before either is checked. -/
def gramOfReadings (kernel : Kernel) (x y : Reading K) : Except KernelError (Table K) := do
  let a ← readArray x
  let b ← readArray y
  kernel.gramOfArrays a b

/-- **The kernel of two vectors of data,** `Kernel.apply`: whatever their shape, they are taken as
rows, and their lengths are compared first. -/
def valueOfReadings (kernel : Kernel) (x y : Reading K) : Except KernelError K := do
  let a ← readArray x
  let b ← readArray y
  if a.entries.length = b.entries.length then
    let t ← kernel.gramOfArrays a.row b.row
    .ok (t.mat.toList.headD 0)
  else .error (.lengths a.entries.length b.entries.length)

end Kernel

end PartialLeastSquares
