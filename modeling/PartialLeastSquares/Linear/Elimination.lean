/-
# Inversion by elimination

The inverse of a square matrix by triangular factors, as the `inverse` of the guards asks for it.
The columns are taken from the left: each loses in one step what the columns before it have
settled, then the row is chosen whose entry is of largest magnitude, the first of equals, and the
entries below are divided by it.  So the factors stand in one matrix, the multipliers below the
diagonal and the reduced rows above.

A column without a nonzero pivot means that the matrix has no inverse, and that is the only
refusal here.  Whether an inverse that exists is worth anything is judged in `invert`, by its
condition number.

What a column loses is summed before it is subtracted.  In exact arithmetic the order is
immaterial; in floats it decides whether rows that depend on each other cancel to exactly zero or
leave a remainder of rounding.
-/
import PartialLeastSquares.Linear.Mat

namespace PartialLeastSquares.Elimination

variable {K : Type} [Scalar K]

/-! ## 1. Factors -/

/-- The entries of column `c` from the top, each less what the entries above it take, as far as
the columns before `c` are settled. -/
def reduced {m : Nat} (a : Mat K m m) (c : Fin m) : Vec K m :=
  Fin.foldl m (fun b i =>
    b.set i.val (b.get i -
      Scalar.sum fun l : Fin m => if l < i ∧ l < c then a.get i l * b.get l else 0) i.isLt) (a.col c)

def withColumn {m : Nat} (a : Mat K m m) (c : Fin m) (column : Vec K m) : Mat K m m :=
  Mat.ofFn fun i j => if j = c then column.get i else a.get i j

/-- The row, from `c` on, whose entry in column `c` has the largest magnitude, and of equals the
first. -/
def pivotRow {m : Nat} (a : Mat K m m) (c : Fin m) : Fin m :=
  Fin.foldl m (fun best i =>
    if c < i ∧ Scalar.abs (a.get best c) < Scalar.abs (a.get i c) then i else best) c

def exchange {m p : Nat} (a : Mat K m p) (i j : Fin m) : Mat K m p :=
  ⟨Vector.ofFn fun l => if l = i then a.row j else if l = j then a.row i else a.row l⟩

/-- The entries below the pivot of column `c` in units of the pivot, multiplied by its reciprocal.
-/
def multipliers {m : Nat} (a : Mat K m m) (c : Fin m) : Vec K m :=
  let reciprocal := 1 / a.get c c
  Vec.ofFn fun i => if c < i then a.get i c * reciprocal else a.get i c

/-- **The factors,** column by column, and the rows of `right` in the order of the exchanges;
nothing when a column has no nonzero pivot. -/
def factors? {m : Nat} (left right : Mat K m m) : (columns : List (Fin m)) →
    Option (Mat K m m × Mat K m m)
  | [] => some (left, right)
  | c :: rest =>
    let left := withColumn left c (reduced left c)
    let r := pivotRow left c
    let left := exchange left c r
    let right := exchange right c r
    if left.get c c ≤ 0 ∧ 0 ≤ left.get c c then none
    else factors? (withColumn left c (multipliers left c)) right rest

/-! ## 2. Substitution -/

/-- The combination of the rows of a solution that row `i` of the factors takes, over the rows
that are admitted. -/
def taken {m : Nat} (left solution : Mat K m m) (i : Fin m) (admitted : Fin m → Bool) : Vec K m :=
  Vec.ofFn fun j =>
    Scalar.sum fun l : Fin m => if admitted l then left.get i l * solution.get l j else 0

/-- The rows of the solution for the multipliers, from the first downwards: each loses what the
rows above it take. -/
def downwards {m : Nat} (left : Mat K m m) : (rows : List (Fin m)) → (solution : Mat K m m) →
    Mat K m m
  | [], solution => solution
  | i :: rest, solution =>
    let row := Vec.sub (solution.row i) (taken left solution i fun l => l < i)
    downwards left rest ⟨solution.rows.set i row⟩

/-- The rows of the solution for the reduced rows, from the last upwards, each divided by its
pivot. -/
def upwards {m : Nat} (left : Mat K m m) : (rows : List (Fin m)) → (solution : Mat K m m) →
    Mat K m m
  | [], solution => solution
  | i :: rest, solution =>
    let row := Vec.dividedBy (Vec.sub (solution.row i) (taken left solution i fun l => i < l))
      (left.get i i)
    upwards left rest ⟨solution.rows.set i row⟩

/-- **The inverse, or nothing when a column has no nonzero pivot.** -/
def inverse? {m : Nat} (a : Mat K m m) : Option (Mat K m m) :=
  (factors? a (Mat.identity m) (List.finRange m)).map fun (left, right) =>
    upwards left (List.finRange m).reverse (downwards left (List.finRange m) right)

end PartialLeastSquares.Elimination
