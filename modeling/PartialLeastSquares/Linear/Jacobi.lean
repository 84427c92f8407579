/-
# Plane rotations

Two questions about a small dense matrix are answered by sweeps of plane rotations: the
eigenvectors of a symmetric matrix, for `dominant_eigenvector`, and the ratio of the extreme
singular values of a square one, for the last test of `inverse`.  A rotation is chosen to make one
off-diagonal entry (or one inner product of two columns) zero; a sweep goes through all pairs, and
a fixed number of sweeps is far more than the quadratic convergence of the method needs.
-/
import PartialLeastSquares.Linear.Mat

namespace PartialLeastSquares.Jacobi

variable {K : Type} [Scalar K]

/-! ## 1. One rotation -/

/-- The pairs `(p, q)` with `p < q`, row by row. -/
def pairs (m : Nat) : List (Fin m × Fin m) :=
  (List.finRange m).flatMap fun p => ((List.finRange m).filter (p < ·)).map (p, ·)

/-- **The cosine and sine of the rotation that diagonalises** the symmetric matrix
`(app, apq; apq, aqq)`, by the smaller of the two possible angles. -/
def angle (app apq aqq : K) : K × K :=
  let theta := (aqq - app) / (Scalar.ofNat 2 * apq)
  let tangent := 1 / (Scalar.abs theta + Scalar.sqrt (theta * theta + 1))
  let tangent := if theta < 0 then -tangent else tangent
  let cosine := 1 / Scalar.sqrt (tangent * tangent + 1)
  (cosine, tangent * cosine)

def rotateColumns {n m : Nat} (a : Mat K n m) (p q : Fin m) (c s : K) : Mat K n m :=
  ⟨a.rows.map fun row =>
    let x := Vec.get row p
    let y := Vec.get row q
    (row.set p.val (c * x - s * y) p.isLt).set q.val (s * x + c * y) q.isLt⟩

def nonzero (x : K) : Bool := decide (x < 0 ∨ 0 < x)

/-! ## 2. Eigenvectors of a symmetric matrix -/

/-- One sweep over a symmetric matrix, with the product of the rotations so far. -/
def sweep {m : Nat} (state : Mat K m m × Mat K m m) : Mat K m m × Mat K m m :=
  (pairs m).foldl (fun (a, vectors) (p, q) =>
    if nonzero (a.get p q) then
      let (c, s) := angle (a.get p p) (a.get p q) (a.get q q)
      let turned := rotateColumns (rotateColumns a p q c s).transpose p q c s
      (turned, rotateColumns vectors p q c s)
    else (a, vectors)) state

def sweeps : Nat := 30

def iterate {α : Type} (f : α → α) : Nat → α → α
  | 0, x => x
  | k + 1, x => iterate f k (f x)

def largest {n m : Nat} (a : Mat K n m) : K :=
  a.toList.foldl (fun best x => Scalar.max (Scalar.abs x) best) 0

/-- **The eigenvector of the eigenvalue of largest magnitude** of the symmetric matrix whose
lower triangle is given; of equal magnitudes, the least eigenvalue, and of equal eigenvalues the
one found first.  The matrix is divided by its largest entry beforehand, which changes no
eigenvector and keeps the squares in range. -/
def dominant? {m : Nat} (a : Mat K m m) : Option (Vec K m) :=
  let size := largest a
  let size := if nonzero size then size else 1
  let symmetric : Mat K m m := Mat.ofFn fun i j =>
    (if j ≤ i then a.get i j else a.get j i) / size
  let (values, vectors) := iterate sweep sweeps (symmetric, Mat.identity m)
  let ordered := (List.finRange m).mergeSort fun i j => decide (values.get i i ≤ values.get j j)
  let best := ordered.foldl (fun (best : Option (Fin m)) i =>
    match best with
    | none => some i
    | some b =>
      if Scalar.abs (values.get b b) < Scalar.abs (values.get i i) then some i else some b) none
  best.map vectors.col

/-! ## 3. Singular values -/

/-- One sweep that makes the columns orthogonal to each other in pairs. -/
def orthogonalize {n m : Nat} (a : Mat K n m) : Mat K n m :=
  (pairs m).foldl (fun a (p, q) =>
    let x := a.col p
    let y := a.col q
    let xy := Vec.dot x y
    if nonzero xy then
      let (c, s) := angle (Vec.normSq x) xy (Vec.normSq y)
      rotateColumns a p q c s
    else a) a

/-- **The condition number:** the greatest singular value over the least, with the matrix
divided by its largest entry beforehand. -/
def condition {m : Nat} (a : Mat K m m) : K :=
  let size := largest a
  let scaled : Mat K m m := a.map fun x => if nonzero size then x / size else x
  let columns := iterate orthogonalize sweeps scaled
  let lengths := (List.finRange m).map fun j => Vec.norm (columns.col j)
  match lengths with
  | [] => 0
  | first :: rest =>
    let high := rest.foldl (fun best x => if best < x then x else best) first
    let low := rest.foldl (fun best x => if x < best then x else best) first
    high / low

end PartialLeastSquares.Jacobi
