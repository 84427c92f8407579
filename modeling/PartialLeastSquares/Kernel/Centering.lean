/-
# Centering in feature space

Subtracting the mean of the training rows *in feature space* can be done on kernel values alone:
`center_kernel` multiplies the training kernel on both sides by the matrix that removes the mean,
and in `center_cross_kernel` a kernel between new rows and training rows loses the training means
first.  New rows are never averaged, so the result for one of them does not depend on the others.
-/
import PartialLeastSquares.Linear.Mat

namespace PartialLeastSquares

variable {K : Type} [Scalar K]

def share (n : Nat) : K := 1 / Scalar.ofNat n

/-- The matrix that removes the mean of `n` numbers, the identity less one over `n` everywhere:
the `J` of both functions. -/
def centering (n : Nat) : Mat K n n := Mat.sub (Mat.identity n) (Mat.const (share n))

/-- **A training kernel, centered:** without the means of its rows and columns, `J K J` as in
`center_kernel`. -/
def centerKernel {n : Nat} (k : Mat K n n) : Mat K n n :=
  Mat.mul (Mat.mul (centering n) k) (centering n)

/-- **A kernel between new rows and training rows, centered** by the means of the training kernel,
as in `center_cross_kernel`.  The training kernel is the one before centering. -/
def centerCrossKernel {m n : Nat} (cross : Mat K m n) (training : Mat K n n) : Mat K m n :=
  Mat.mul (Mat.sub cross (Mat.mul (Mat.const (share n)) training)) (centering n)

end PartialLeastSquares
