/-
# Partial least squares with one response

Each component takes the direction of greatest covariance between what is left of the predictors
and what is left of the response, projects the predictors on it, and removes from both what the
projection explains.  This is `PLS1.fit_state`: `step` is the body of its loop, `regression` its
`r_hat`, and `Fit` holds what `PLS1State` holds.

The regression vector applies to predictors as they were before any removal.  Scores of new rows
are found by replaying the removals, as `PLS1._scores` does for `transform_state` and
`predict_state`; both routes lead to the same prediction.
-/
import PartialLeastSquares.Linear.Guard
import PartialLeastSquares.Method.Extraction

namespace PartialLeastSquares.Pls1

/-- One component: its columns of `W`, `T` and `P`, its entry `b` of `b_hat`, and `||t||^2`, which
the loop logs beside it. -/
structure Component (K : Type) (n p : Nat) where
  weight : Vec K p
  score : Vec K n
  loading : Vec K p
  coefficient : K
  scoreSq : K

/-- What is left of the predictors and the response, the `X` and `y` that `fit_state` deflates in
place. -/
structure Residual (K : Type) (n p : Nat) where
  x : Mat K n p
  y : Vec K n

/-- **A fitted model,** `PLS1State`: the components give `W`, `P`, `T` and `b_hat`, and
`regression` is `r_hat`. -/
structure Fit (K : Type) (n p : Nat) where
  components : List (Component K n p)
  regression : Vec K p

variable {K : Type} [Scalar K] {n p : Nat}

/-! ## 1. The components -/

def weights (cs : List (Component K n p)) : Mat K p cs.length := Mat.ofCols cs Component.weight

def loadings (cs : List (Component K n p)) : Mat K p cs.length := Mat.ofCols cs Component.loading

def scores (cs : List (Component K n p)) : Mat K n cs.length := Mat.ofCols cs Component.score

def coefficients (cs : List (Component K n p)) : Vec K cs.length :=
  Vec.ofFn fun j => (cs.get j).coefficient

/-- **One component and what it leaves,** for data of the given magnitudes `x_scale` and
`y_scale`: the body of the loop in `PLS1.fit_state`.  The quantities are guarded in the order in
which it computes them. -/
def step (xScale yScale : K) (j : Nat) (r : Residual K n p) :
    Except (NumericalError K) (Component K n p × Residual K n p) := do
  let weight ← normalize (.weight j) (r.x.applyT r.y) (xScale * yScale)
  let score := r.x.apply weight
  let scoreSq := score.normSq
  let coefficient ←
    quotient (.regressionCoefficient j) (score.dot r.y) scoreSq (xScale * xScale)
  let loading ← divideBy (.loading j) (r.x.applyT score) scoreSq (xScale * xScale)
  return (⟨weight, score, loading, coefficient, scoreSq⟩,
    ⟨r.x.sub (Mat.outer score loading), r.y.sub (score.scale coefficient)⟩)

/-- The components of predictors and a response, with the magnitudes of the data before any
removal as reference. -/
def extraction (x : Mat K n p) (y : Vec K n) (count : Nat) :
    Extraction (Component K n p) (Residual K n p) (NumericalError K) :=
  extract (step x.norm y.norm) count 0 ⟨x, y⟩

/-- The regression vector of components, `r_hat = W (Pᵀ W)⁻¹ b_hat`, refused where `inverse`
refuses `Pᵀ W`. -/
def regression (tools : Toolkit K) (cs : List (Component K n p)) :
    Except (NumericalError K) (Vec K p) := do
  let inner ← invert tools .loadingsByWeights (Mat.tmul (loadings cs) (weights cs))
  return (Mat.mul (weights cs) inner).apply (coefficients cs)

/-- **The fit of an extraction:** nothing when a component failed, and otherwise the `PLS1State`
of its components. -/
def fit (tools : Toolkit K)
    (found : Extraction (Component K n p) (Residual K n p) (NumericalError K)) :
    Except (NumericalError K) (Fit K n p) := do
  let _ ← found.ending
  let vector ← regression tools found.components
  return ⟨found.components, vector⟩

/-! ## 2. New rows -/

/-- The scores of new rows, one column for each component, by replaying the removals: the loop of
`PLS1._scores`, over the stored weights and loadings. -/
def replay {m : Nat} : List (Component K n p) → Mat K m p → List (Vec K m)
  | [], _ => []
  | c :: rest, x =>
    let t := x.apply c.weight
    t :: replay rest (x.sub (Mat.outer t c.loading))

/-- The members of a list as columns, in the shape that `_scores` fills in. -/
def columns {m : Nat} (count : Nat) (ts : List (Vec K m)) : Mat K m count :=
  let table := ts.toArray
  Mat.ofFn fun i j => (table.getD j.val Vec.zero).get i

def Fit.transform {m : Nat} (f : Fit K n p) (x : Mat K m p) : Mat K m f.components.length :=
  columns f.components.length (replay f.components x)

/-- Predictions on the preprocessed response scale, `_scores(state, X) @ b_hat` of
`predict_state`. -/
def Fit.predict {m : Nat} (f : Fit K n p) (x : Mat K m p) : Vec K m :=
  (f.transform x).apply (coefficients f.components)

end PartialLeastSquares.Pls1
