/-
# Kernel functions

A kernel gives the similarity of two rows of features: their inner product, a power of it, or a
Gaussian of their distance.  `KernelFn` is a `LinearKernel`, `PolyKernel` or `RBFKernel` whose
parameters are numbers; `gram` applies it to all pairs of rows of two matrices, and `selfGram` to
the pairs of rows of one.

A squared distance is expanded into inner products.  Rounding can make that sum negative, or leave
a little of the distance of a row from itself, so the sum is cut off at zero and a row is at no
distance from itself.
-/
import PartialLeastSquares.Linear.Mat

namespace PartialLeastSquares

/-- A kernel whose parameters are numbers; a missing `gamma` is one over the number of features.
-/
inductive KernelFn (K : Type) where
  | linear
  | poly (degree : K) (gamma : Option K) (coef0 : K)
  | rbf (gamma : Option K)

variable {K : Type} [Scalar K]

/-- The square of the distance of two rows, `||x - y||^2` as `-2 <x, y> + ||x||^2 + ||y||^2`. -/
def squaredDistance {p : Nat} (x y : Vec K p) : K :=
  let d := -Scalar.ofNat 2 * x.dot y + x.normSq + y.normSq
  if d < 0 then 0 else d

namespace KernelFn

variable {n m p : Nat}

/-- The scale that a kernel uses for rows of `p` features, `gamma` when it was given. -/
def scaleFor (p : Nat) (gamma : Option K) : K :=
  match gamma with
  | some g => g
  | none => 1 / Scalar.ofNat p

/-- The value of a Gaussian at a squared distance. -/
def gaussian (scale distance : K) : K := Scalar.exp (distance * -scale)

/-- **The value of a kernel at two rows,** `k(a, b)` as the docstrings of the kernels give it. -/
def value (f : KernelFn K) (x y : Vec K p) : K :=
  match f with
  | linear => x.dot y
  | poly degree gamma coef0 => Scalar.pow (x.dot y * scaleFor p gamma + coef0) degree
  | rbf gamma => gaussian (scaleFor p gamma) (squaredDistance x y)

/-- The values at all pairs of rows of two matrices, `G[i, j] = k(A[i], B[j])`. -/
def gram (f : KernelFn K) (a : Mat K n p) (b : Mat K m p) : Mat K n m :=
  Mat.ofFn fun i j => f.value (a.row i) (b.row j)

@[simp] theorem get_gram (f : KernelFn K) (a : Mat K n p) (b : Mat K m p) (i : Fin n)
    (j : Fin m) : (f.gram a b).get i j = f.value (a.row i) (b.row j) := by
  simp [gram]

/-- The values at all pairs of rows of one matrix, where a Gaussian takes a row to be at no
distance from itself. -/
def selfGram (f : KernelFn K) (a : Mat K n p) : Mat K n n :=
  match f with
  | rbf gamma =>
    Mat.ofFn fun i j =>
      if i = j then gaussian (scaleFor p gamma) 0 else f.value (a.row i) (a.row j)
  | _ => f.gram a a

end KernelFn

end PartialLeastSquares
