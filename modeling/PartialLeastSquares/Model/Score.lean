/-
# The score of predictions

The `score` that a `PLSModel` inherits is the share of the responses' variation that the
predictions explain: in each column one less the ratio of the squared errors to the squared
deviations from the mean, and over the columns their mean.  A column without variation counts one
if it is predicted exactly and zero if it is not; fewer than two rows have no score.
-/
import PartialLeastSquares.Data.Source
import PartialLeastSquares.Model.Error

namespace PartialLeastSquares

variable {K : Type} [Scalar K]

/-- How many members data has, as far as can be told before it is read: numbers of members are
compared before anything else. -/
inductive Counted where
  | absent
  | uncountable
  | members (count : Nat)

def Value.counted : Value → Counted
  | .null => .absent
  | .list items => .members items.length
  | .text s => .members s.length
  | .table entries => .members entries.length
  | _ => .uncountable

def NdArray.counted (a : NdArray K) : Counted :=
  match a.shape with
  | [] => .uncountable
  | n :: _ => .members n

namespace Score

variable {n q : Nat}

def column (y z : Vec K n) : K :=
  let mean := Scalar.sum (fun i => y.get i) / Scalar.ofNat n
  let errors := Scalar.sum fun i => (y.get i - z.get i) * (y.get i - z.get i)
  let spread := Scalar.sum fun i => (y.get i - mean) * (y.get i - mean)
  if spread ≤ 0 ∧ 0 ≤ spread then
    if errors ≤ 0 ∧ 0 ≤ errors then 1 else 0
  else 1 - errors / spread

/-- **The mean score of the columns.** -/
def ofMatrices (y z : Mat K n q) : K :=
  Scalar.sum (fun j => column (y.col j) (z.col j)) / Scalar.ofNat q

/-- An array with one axis or two as a matrix of finite numbers. -/
def readMatrix (a : NdArray K) : Except (ModelError K) (Table K) :=
  match a.shape with
  | [n] => check (a.toMat n 1) [n]
  | [n, q] => check (a.toMat n q) [n, q]
  | [] => if a.entries.any Scalar.isNaN then .error (.unsuitable .undefined) else .error .wrongKind
  | shape => .error (.unsuitable (.manyAxes shape.length))
where
  /-- The requirements on the entries and on the size. -/
  check {n q : Nat} (y : Mat K n q) (shape : List Nat) : Except (ModelError K) (Table K) :=
    match y.entryProblem? with
    | some problem => .error (.unsuitable problem)
    | none =>
      if n = 0 then .error (.unsuitable (.noRows shape))
      else if q = 0 then .error (.unsuitable (.noColumns shape))
      else .ok ⟨n, q, y⟩

/-- **The score of predictions against responses as they are handed over.**  Fewer than two rows
have no score. -/
def ofReading (counted : Counted) (y : Reading K) (predicted : Table K) :
    Except (ModelError K) (Option K) := do
  match counted with
  | .uncountable => throw .wrongKind
  | .absent => pure ()
  | .members count =>
    if count ≠ predicted.rows then throw (.samples count predicted.rows)
  let response ← match y with
    | .sparse => .error .sparse
    | .unreadable e => .error (.unreadable e)
    | .array a => readMatrix a
  match predicted.mat.entryProblem? with
  | some problem => throw (.unsuitable problem)
  | none => pure ()
  if hq : predicted.cols = response.cols then
    if hn : predicted.rows = response.rows then
      if response.rows < 2 then return none
      else return some (ofMatrices response.mat (hn ▸ hq ▸ predicted.mat))
    else throw (.samples response.rows predicted.rows)
  else throw (.outputs response.cols predicted.cols)

end Score

end PartialLeastSquares
