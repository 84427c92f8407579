/-
# Removing what is orthogonal to the response

Predictors vary in ways that say nothing about the response.  This method, the first half of
`OPLS.fit_state`, finds components of that variation one after the other: the part of a loading
that is orthogonal to the direction of greatest covariance gives a score that is uncorrelated with
the response, and it is removed from the predictors.

New rows are filtered in one step with all components at once, by `OPLS._filter`, and so are the
training rows when another model is fitted on them.  With one component that leaves what the
removal left, `X_osc`; with more it does not.
-/
import PartialLeastSquares.Linear.Guard
import PartialLeastSquares.Method.Extraction

namespace PartialLeastSquares.OrthogonalFilter

/-- One component: its columns of `W_orth`, `T_orth` and `P_orth`, and `||t_orth||^2`, which the
loop logs. -/
structure Component (K : Type) (n p : Nat) where
  weight : Vec K p
  score : Vec K n
  loading : Vec K p
  scoreSq : K

variable {K : Type} [Scalar K] {n p : Nat}

def weights (cs : List (Component K n p)) : Mat K p cs.length := Mat.ofCols cs Component.weight

def loadings (cs : List (Component K n p)) : Mat K p cs.length := Mat.ofCols cs Component.loading

/-- The scores of the training rows as columns, `T_orth`. -/
def scores (cs : List (Component K n p)) : Mat K n cs.length := Mat.ofCols cs Component.score

/-- The direction of greatest covariance with the response, `w` before the loop of
`OPLS.fit_state`; it stays the same for all components. -/
def initialWeight (x : Mat K n p) (y : Vec K n) : Except (NumericalError K) (Vec K p) :=
  normalize .initialWeight (x.applyT y) (x.norm * y.norm)

/-- **One component and what it leaves of the predictors;** `w` is the direction to be kept, and
`xScale` the magnitude of the predictors.  The orthogonal weight alone is tested beside the
reference 1, the default of `normalize`. -/
def step (xScale : K) (w : Vec K p) (j : Nat) (x : Mat K n p) :
    Except (NumericalError K) (Component K n p × Mat K n p) := do
  let t := (x.apply w).dividedBy w.normSq
  let loading ← divideBy (.residualLoading j) (x.applyT t) t.normSq (xScale * xScale)
  let weight ←
    normalize (.orthogonalWeight j) (loading.sub (w.scale (w.dot loading / w.normSq))) 1
  let score := (x.apply weight).dividedBy weight.normSq
  let scoreSq := score.normSq
  let loading ← divideBy (.orthogonalLoading j) (x.applyT score) scoreSq (xScale * xScale)
  return (⟨weight, score, loading, scoreSq⟩, x.sub (Mat.outer score loading))

/-- The components of predictors and a response, none when the direction to be kept is refused
already. -/
def extraction (x : Mat K n p) (y : Vec K n) (count : Nat) :
    Extraction (Component K n p) (Mat K n p) (NumericalError K) :=
  match initialWeight x y with
  | .error e => ⟨[], .error e⟩
  | .ok w => extract (step x.norm w) count 0 x

/-- **The filter of components,** `X - (X W_orth) P_orthᵀ` of `OPLS._filter`: the rows less their
projections, all at once. -/
def apply {m : Nat} (cs : List (Component K n p)) (x : Mat K m p) : Mat K m p :=
  x.sub (Mat.mulT (x.mul (weights cs)) (loadings cs))

/-- A fitted filter, `OPLSState` without its base model: `residual` is `X_osc`, and the other
matrices are read off the components. -/
structure Fit (K : Type) (n p : Nat) where
  components : List (Component K n p)
  residual : Mat K n p

def Fit.transform {m : Nat} (f : Fit K n p) (x : Mat K m p) : Mat K m p := apply f.components x

end PartialLeastSquares.OrthogonalFilter
