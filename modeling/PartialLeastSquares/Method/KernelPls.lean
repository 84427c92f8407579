/-
# Partial least squares in the feature space of a kernel

The predictors enter through the centered kernel of the training rows alone, and there may be any
number of responses.  The score of a component is the fixed point of a power iteration between the
kernel and the responses, started from the seeded vector `initial_vector`; the kernel is deflated
on both sides and the responses on one.  This is `KernelPLS.fit_state`: `pass` is one round of its
inner loop, `step` the body of the outer one.

An iteration that has not settled after `max_iter` passes is no failure: its last pass is used,
and the record of the component says so.

`Fit.transform` and `Fit.predict` are `transform_state` and `predict_state`.  Both center new rows
by the training means, and the kernel between new and training rows by the training kernel.
-/
import PartialLeastSquares.Kernel
import PartialLeastSquares.Kernel.Centering
import PartialLeastSquares.Linear.Guard
import PartialLeastSquares.Method.Extraction
import PartialLeastSquares.Preprocessing

namespace PartialLeastSquares.KernelPls

/-! ## 1. The settings of the iteration -/

/-- **How far an iterate may move and still count as settled,** the `tol` of the guard
`change > tol`.  A whole number beyond every float tolerates anything (`boundless`).  An infinite
one tolerates infinity as well, so the guard fails before the first pass. -/
inductive Tolerance (K : Type) where
  | within (x : K)
  | boundless
  | infinite

/-- Whether a change is more than what is tolerated, so that the inner loop goes round again. -/
def Tolerance.exceededBy {K : Type} [Scalar K] (tol : Tolerance K) (change : K) : Bool :=
  match tol with
  | within x => decide (x < change)
  | boundless => false
  | infinite => false

/-- What the iteration is given: `tol`, `max_iter`, and the `seed` of the first component's start
vector, from which later components count up. -/
structure Settings (K : Type) where
  tol : Tolerance K
  maxPasses : Nat
  seed : Nat

/-! ## 2. Components -/

/-- How the iteration of a component ended, as `fit_state` logs it; `n_iterations` keeps the
passes alone. -/
structure Convergence (K : Type) where
  passes : Nat
  change : K
  settled : Bool

/-- One component: its columns of `T`, `U`, `P` and `Q`, and how its iteration ended. -/
structure Component (K : Type) (n q : Nat) where
  score : Vec K n
  responseScore : Vec K n
  loading : Vec K n
  responseLoading : Vec K q
  convergence : Convergence K

/-- What is left of the kernel and the responses, `K_deflated` and `Y` in `fit_state`. -/
structure Residual (K : Type) (n q : Nat) where
  kernel : Mat K n n
  y : Mat K n q

/-- What ends an extraction early.  A guard may refuse a vector in a pass, or the loading after
the last pass (`afterPasses`), when the iteration has been logged already.  With `noPass` the
inner loop was never entered, and `t` is read without having been bound. -/
inductive Halt (K : Type) where
  | inPass (error : NumericalError K)
  | afterPasses (convergence : Convergence K) (error : NumericalError K)
  | noPass

variable {K : Type} [Scalar K] {n p q : Nat}

/-- The scores on the kernel as columns, `T`. -/
def scores (cs : List (Component K n q)) : Mat K n cs.length := Mat.ofCols cs Component.score

/-- The scores on the responses as columns, `U`: what new rows are projected on. -/
def responseScores (cs : List (Component K n q)) : Mat K n cs.length :=
  Mat.ofCols cs Component.responseScore

/-- The loadings on the kernel as columns, `P`. -/
def loadings (cs : List (Component K n q)) : Mat K n cs.length := Mat.ofCols cs Component.loading

/-- The loadings on the responses as columns, `Q`. -/
def responseLoadings (cs : List (Component K n q)) : Mat K q cs.length :=
  Mat.ofCols cs Component.responseLoading

/-! ## 3. The iteration -/

/-- The result of one pass: `w` before it is normalised, `t`, `q`, the new iterate `u`, which is
the score on the responses, and how far it has moved. -/
structure Pass (K : Type) (n q : Nat) where
  raw : Vec K n
  score : Vec K n
  responseLoading : Vec K q
  responseScore : Vec K n
  change : K

/-- **One pass from an iterate,** for a kernel and responses of the given magnitudes: `t = K u`
and `u = Y q` with `q = Yᵀ t`, each normalised, as in the inner loop of `KernelPLS.fit_state`. -/
def pass (j : Nat) (kScale yScale : K) (r : Residual K n q) (u : Vec K n) :
    Except (NumericalError K) (Pass K n q) := do
  let raw := r.kernel.apply u
  let score ← normalize (.kernelScore j) raw (kScale * u.norm)
  let responseLoading := r.y.applyT score
  let responseScore ←
    normalize (.responseScore j) (r.y.apply responseLoading) (yScale * yScale)
  return ⟨raw, score, responseLoading, responseScore, (responseScore.sub u).norm⟩

/-- Passes until one moves no more than is tolerated, at most `more` after the first; with the
number of passes made, of which `done` lie behind.  The guard of the inner loop is read at its
end: `change` starts at ten times `tol`, so a finite `tol` lets the first pass happen. -/
def passes (tol : Tolerance K) (next : Vec K n → Except (NumericalError K) (Pass K n q)) :
    (more done : Nat) → Vec K n → Except (NumericalError K) (Pass K n q × Nat)
  | 0, done, u => (next u).map fun last => (last, done + 1)
  | more + 1, done, u =>
    match next u with
    | .error e => .error e
    | .ok made =>
      if tol.exceededBy made.change then passes tol next more (done + 1) made.responseScore
      else .ok (made, done + 1)

/-- **One component and what it leaves,** for a kernel and responses of the given magnitudes: the
body of the outer loop in `KernelPLS.fit_state`.  The loading is taken from the kernel as it is
after deflation. -/
def step (tools : Toolkit K) (settings : Settings K) (kScale yScale : K) (j : Nat)
    (r : Residual K n q) : Except (Halt K) (Component K n q × Residual K n q) :=
  match settings.tol with
  | .infinite => .error .noPass
  | _ =>
    match passes settings.tol (pass j kScale yScale r) (settings.maxPasses - 1) 0
        (tools.start n (settings.seed + j)) with
    | .error e => .error (.inPass e)
    | .ok (last, count) =>
      let convergence : Convergence K :=
        ⟨count, last.change, !settings.tol.exceededBy last.change⟩
      let part := (Mat.identity n).sub (Mat.outer last.score last.score)
      let kernel := (part.mul r.kernel).mul part
      let y := r.y.sub (Mat.outer last.score last.responseLoading)
      match divideBy (.kernelLoading j) (kernel.applyT last.raw) last.raw.normSq
          (kScale * kScale) with
      | .error e => .error (.afterPasses convergence e)
      | .ok loading =>
        .ok (⟨last.score, last.responseScore, loading, last.responseLoading, convergence⟩,
          ⟨kernel, y⟩)

/-- The components of a centered kernel and centered responses, with `k_scale` and `y_scale` taken
before any deflation. -/
def extraction (tools : Toolkit K) (settings : Settings K) (kernel : Mat K n n) (y : Mat K n q)
    (count : Nat) : Extraction (Component K n q) (Residual K n q) (Halt K) :=
  extract (step tools settings kernel.norm y.norm) count 0 ⟨kernel, y⟩

/-! ## 4. Fitting -/

/-- **A fitted model,** `KernelPLSState`.  The kernel is kept as it was (`K_raw`), centered
(`K_orig`) and deflated (`K`), with the centered training rows `X_train` that new rows are
compared with; `coefficients` is `B`. -/
structure Fit (K : Type) (n p q : Nat) where
  kernel : Kernel
  xStats : ColumnStats K p
  yStats : ColumnStats K q
  training : Mat K n p
  raw : Mat K n n
  centered : Mat K n n
  deflated : Mat K n n
  components : List (Component K n q)
  coefficients : Mat K components.length q

/-- The matrix with which predictions are made, `B = (Tᵀ K U)⁻¹ Qᵀ` with the undeflated centered
kernel. -/
def coefficients (tools : Toolkit K) (kernel : Mat K n n) (cs : List (Component K n q)) :
    Except (NumericalError K) (Mat K cs.length q) := do
  let inner ← invert tools .scoresByScores
    (Mat.mul (Mat.tmul (scores cs) kernel) (responseScores cs))
  return Mat.mulT inner (responseLoadings cs)

/-- What the components are extracted from: centered data and its kernel, all that `fit_state`
computes before its loop. -/
structure Prepared (K : Type) (n p q : Nat) where
  kernel : Kernel
  xStats : ColumnStats K p
  yStats : ColumnStats K q
  x : Mat K n p
  y : Mat K n q
  raw : Mat K n n
  centered : Mat K n n

/-- Centers predictors and responses, which must be finite, before a kernel is applied: the two
`Center().fit` of `fit_state`, predictors first. -/
def center (x : Mat K n p) (y : Mat K n q) :
    Except ArrayProblem (ColumnStats K p × ColumnStats K q) :=
  match x.entryProblem? with
  | some problem => .error problem
  | none =>
    match y.entryProblem? with
    | some problem => .error problem
    | none => .ok (Scheme.center.learn x, Scheme.center.learn y)

def prepare (kernel : Kernel) (x : Mat K n p) (y : Mat K n q)
    (stats : ColumnStats K p × ColumnStats K q) : Except KernelError (Prepared K n p q) := do
  let (xStats, yStats) := stats
  let centered := xStats.apply x
  let raw ← kernel.selfGram centered
  return ⟨kernel, xStats, yStats, centered, yStats.apply y, raw, centerKernel raw⟩

/-- **The fit of an extraction,** whose ending is the residual that is passed in.  Only `inverse`
can still refuse here. -/
def fit (tools : Toolkit K) (data : Prepared K n p q) (cs : List (Component K n q))
    (residual : Residual K n q) : Except (NumericalError K) (Fit K n p q) := do
  let matrix ← coefficients tools data.centered cs
  return ⟨data.kernel, data.xStats, data.yStats, data.x, data.raw, data.centered, residual.kernel,
    cs, matrix⟩

/-! ## 5. New rows -/

/-- Why new rows cannot be mapped: they, or what is predicted for them, are not finite, or the
kernel refuses them. -/
inductive UseError where
  | unsuitable (problem : ArrayProblem)
  | kernel (error : KernelError)
deriving DecidableEq

/-- **The scores of new rows:** their centered kernel with the training rows, times the scores on
the responses.  This is `KernelPLS.transform_state`, with the check of `Center.transform` first.
-/
def Fit.transform {m : Nat} (f : Fit K n p q) (x : Mat K m p) :
    Except UseError (Mat K m f.components.length) :=
  match x.entryProblem? with
  | some problem => .error (.unsuitable problem)
  | none =>
    match f.kernel.gram (f.xStats.apply x) f.training with
    | .error e => .error (.kernel e)
    | .ok cross => .ok ((centerCrossKernel cross f.raw).mul (responseScores f.components))

/-- Predictions on the preprocessed response scale, as in `KernelPLS.predict_state`;
`inverse_transform` of the center checks them for finiteness before it shifts them back. -/
def Fit.predict {m : Nat} (f : Fit K n p q) (x : Mat K m p) : Except UseError (Mat K m q) :=
  match f.transform x with
  | .error e => .error e
  | .ok t =>
    let y := t.mul f.coefficients
    match y.entryProblem? with
    | some problem => .error (.unsuitable problem)
    | none => .ok (f.yStats.unapply y)

end PartialLeastSquares.KernelPls
