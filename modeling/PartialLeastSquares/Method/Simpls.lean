/-
# Partial least squares from cross-products

This method, `SIMPLS.fit_state`, leaves the predictors alone and works on two cross-products: `A`,
of the predictors with the response, and `M`, of the predictors with themselves.  Each component
takes a weight from the first, scales it to a score of length one by the second, and projects both
with `C` so that later scores are uncorrelated with this one.

The weights can be thinned out afterwards: `slim` keeps, in each column, `num_coefficients`
entries of largest magnitude.  New rows are multiplied by the weights in `transform_state` and by
`B` in `predict_state`.
-/
import PartialLeastSquares.Linear.Guard
import PartialLeastSquares.Method.Extraction

namespace PartialLeastSquares.Simpls

/-- One component: its column `w` of `W`, scaled so that the score has length one, its column of
`P` and its entry of `Q`. -/
structure Component (K : Type) (p : Nat) where
  weight : Vec K p
  loading : Vec K p
  responseLoading : K

/-- The cross-products as they stand and the projector on what is left: the `A`, `M` and `C` of
`SIMPLS.fit_state`. -/
structure Cross (K : Type) (p : Nat) where
  response : Vec K p
  predictors : Mat K p p
  projector : Mat K p p

variable {K : Type} [Scalar K] {n p : Nat}

/-! ## 1. Thinning out -/

/-- Whether the entry `a` in row `i` ranks before the entry `b` in row `j`: by decreasing
magnitude, undefined entries last, and among equals by row.  This is the stable `order` of a
column in `slim`. -/
def ranksBefore (a : K) (i : Nat) (b : K) (j : Nat) : Bool :=
  if Scalar.isNaN a then Scalar.isNaN b && decide (i < j)
  else Scalar.isNaN b || decide (Scalar.abs b < Scalar.abs a) ||
    (!decide (Scalar.abs a < Scalar.abs b) && decide (i < j))

/-- How many entries of a column rank before the one in row `i`, that is, its place in `order`. -/
def rank (v : Vec K n) (i : Fin n) : Nat :=
  Fin.foldl n (fun count l =>
    if ranksBefore (v.get l) l.val (v.get i) i.val then count + 1 else count) 0

/-- **Keeps the given number of entries of each column,** those of largest magnitude, and sets the
others to zero.  As in `slim`, a number that is not positive, or not less than the number of rows,
keeps them all. -/
def slim (a : Mat K n p) (count : Int) : Mat K n p :=
  if count ≤ 0 ∨ (n : Int) ≤ count then a
  else Mat.ofFn fun i j => if (rank (a.col j) i : Int) < count then a.get i j else 0

/-- How the weights are thinned out after the last component.  `num_coefficients` may be any
number: a fraction greater than zero keeps all entries, or cannot cut the order of a column. -/
inductive Thinning where
  | keepAll
  | keep (count : Int)
  | meaningless
deriving DecidableEq

/-! ## 2. The components -/

def weights (cs : List (Component K p)) : Mat K p cs.length := Mat.ofCols cs Component.weight

def loadings (cs : List (Component K p)) : Mat K p cs.length := Mat.ofCols cs Component.loading

def responseLoadings (cs : List (Component K p)) : Vec K cs.length :=
  Vec.ofFn fun j => (cs.get j).responseLoading

/-- **One component and the projected cross-products,** for data of the given magnitudes: steps 1
to 7 of the loop in `SIMPLS.fit_state`.  The length of a weight in the metric of `M` has a test of
its own, `w^T M w`, beside the guards. -/
def step (tools : Toolkit K) (xScale yScale : K) (j : Nat) (r : Cross K p) :
    Except (NumericalError K) (Component K p × Cross K p) := do
  let direction ← dominantEigenvector tools j (Mat.ofFn fun (_ _ : Fin 1) => r.response.normSq)
  let raw ← normalize (.weight j) (r.response.scale direction.only) (xScale * yScale)
  let length := (r.predictors.applyT raw).dot raw
  if !Scalar.isFinite length || decide (length ≤ Scalar.zeroNorm * (xScale * xScale)) then
    throw (.unscalable j length)
  let weight := raw.dividedBy (Scalar.sqrt length)
  let loading := r.predictors.apply weight
  let responseLoading := r.response.dot weight
  let v ← normalize (.deflationDirection j) (r.projector.apply loading) xScale
  let projector := r.projector.sub (Mat.outer v v)
  return (⟨weight, loading, responseLoading⟩,
    ⟨projector.apply r.response, r.predictors.sub (Mat.outer loading loading), projector⟩)

/-- The cross-products of predictors and a response, `A = Xᵀ y` and `M = Xᵀ X`, with nothing
projected out yet. -/
def Cross.start (x : Mat K n p) (y : Vec K n) : Cross K p :=
  ⟨x.applyT y, Mat.tmul x x, Mat.identity p⟩

/-- The components of predictors and a response, whose magnitudes `x_scale` and `y_scale` are the
references of all tests. -/
def extraction (tools : Toolkit K) (x : Mat K n p) (y : Vec K n) (count : Nat) :
    Extraction (Component K p) (Cross K p) (NumericalError K) :=
  extract (step tools x.norm y.norm) count 0 (Cross.start x y)

/-- **A fitted model,** `SIMPLSState`: `slimmed` is its `W`, and `P` and `Q` are read off the
components. -/
structure Fit (K : Type) (p : Nat) where
  components : List (Component K p)
  slimmed : Mat K p components.length

/-- The regression vector `B = W Qᵀ`, from the weights as they were thinned out. -/
def Fit.regression (f : Fit K p) : Vec K p := f.slimmed.apply (responseLoadings f.components)

def fit (thinning : Thinning) (cs : List (Component K p)) : Option (Fit K p) :=
  match thinning with
  | .keepAll => some ⟨cs, weights cs⟩
  | .keep count => some ⟨cs, slim (weights cs) count⟩
  | .meaningless => none

/-! ## 3. New rows -/

def Fit.transform {m : Nat} (f : Fit K p) (x : Mat K m p) : Mat K m f.components.length :=
  x.mul f.slimmed

def Fit.predict {m : Nat} (f : Fit K p) (x : Mat K m p) : Vec K m := x.apply f.regression

end PartialLeastSquares.Simpls
