/-
# Preprocessing of columns

Predictors and responses are shifted and scaled column by column before a model sees them.  A
*scheme*, `NoTransform`, `Center` or `Standardize`, says which statistics of the training rows are
used; `ColumnStats` holds them once learned, and from then on `transform` and `inverse_transform`
look at nothing else.

No scale is ever zero: a column whose deviation vanishes beside its largest entry keeps the scale
one.

A `Transform` is the object that a caller holds, a `_ColumnTransform` with its three statistics
`mean_`, `scale_` and `n_features_in_`.  A fit removes and sets them one after another, and each
of them is there or not on its own account.
-/
import PartialLeastSquares.Data.NdArray
import PartialLeastSquares.Value

namespace PartialLeastSquares

/-! ## 1. Schemes -/

/-- What is done to each column, a member of `PreprocessingType`: nothing, the mean subtracted, or
the mean subtracted and the result divided by the sample standard deviation. -/
inductive Scheme where
  | none
  | center
  | standardize
deriving DecidableEq

namespace Scheme

def name : Scheme → String
  | none => "none"
  | center => "center"
  | standardize => "standardize"

def transformName : Scheme → String
  | none => "NoTransform"
  | center => "Center"
  | standardize => "Standardize"

/-- All schemes, in the order in which `PreprocessingType` lists them. -/
def all : List Scheme := [none, center, standardize]

/-- The scheme that a setting names, in any case: `PreprocessingType.parse`, which turns any value
into text first. -/
def ofValue? (v : Value) : Option Scheme :=
  let asked := Text.lowered v.plain
  all.find? fun s => s.name == asked

/-- The message of `PreprocessingType.parse` for a setting that names no scheme. -/
def refusal (v : Value) : String :=
  "preprocessing must be one of " ++ ", ".intercalate (all.map fun s => Text.quoted s.name) ++
    ", got " ++ v.display

end Scheme

/-! ## 2. Statistics of the columns -/

/-- A shift and a scale for each column, `mean_` and `scale_`. -/
structure ColumnStats (K : Type) (p : Nat) where
  mean : Vec K p
  scale : Vec K p

variable {K : Type} [Scalar K]

def columnMeans {n p : Nat} (x : Mat K n p) : Vec K p :=
  Vec.ofFn fun j => Scalar.sum (fun i => x.get i j) / Scalar.ofNat n

/-- The sample standard deviation of each column around its mean. -/
def columnDeviations {n p : Nat} (x : Mat K n p) (mean : Vec K p) : Vec K p :=
  Vec.ofFn fun j =>
    let total := Scalar.sum fun i => (x.get i j - mean.get j) * (x.get i j - mean.get j)
    Scalar.sqrt (total / Scalar.ofNat (n - 1))

def columnPeaks {n p : Nat} (x : Mat K n p) : Vec K p :=
  Vec.ofFn fun j => (x.col j).maxAbs

namespace Scheme

/-- **The statistics that a scheme learns from the training rows,** the `_statistics` of
`NoTransform`, `Center` and `Standardize`.  The deviation of a column counts as zero when it is at
most `ZERO_NORM` times the largest magnitude in it. -/
def learn {n p : Nat} (scheme : Scheme) (x : Mat K n p) : ColumnStats K p :=
  let ones : Vec K p := Vec.ofFn fun _ => 1
  match scheme with
  | none => ⟨Vec.zero, ones⟩
  | center => ⟨columnMeans x, ones⟩
  | standardize =>
    let mean := columnMeans x
    let deviation := if 1 < n then columnDeviations x mean else ones
    let peak := columnPeaks x
    ⟨mean, Vec.ofFn fun j =>
      if deviation.get j ≤ Scalar.zeroNorm * peak.get j then 1 else deviation.get j⟩

end Scheme

namespace ColumnStats

variable {p m : Nat}

/-- Shifts and scales the columns of a matrix. -/
def apply (s : ColumnStats K p) (x : Mat K m p) : Mat K m p :=
  Mat.ofFn fun i j => (x.get i j - s.mean.get j) / s.scale.get j

@[simp] theorem get_apply (s : ColumnStats K p) (x : Mat K m p) (i : Fin m) (j : Fin p) :
    (s.apply x).get i j = (x.get i j - s.mean.get j) / s.scale.get j := by
  simp [apply]

def unapply (s : ColumnStats K p) (x : Mat K m p) : Mat K m p :=
  Mat.ofFn fun i j => x.get i j * s.scale.get j + s.mean.get j

@[simp] theorem get_unapply (s : ColumnStats K p) (x : Mat K m p) (i : Fin m) (j : Fin p) :
    (s.unapply x).get i j = x.get i j * s.scale.get j + s.mean.get j := by
  simp [unapply]

end ColumnStats

/-! ## 3. Transforms -/

/-- Why a transform cannot do what is asked of it: the refusals of `fit` and `_check`.  The last
two are for a transform that has lost a statistic or whose statistics have another length than the
data, when `_check` or the arithmetic after it stumbles over it. -/
inductive TransformError where
  | notFitted (scheme : Scheme)
  | sparse
  | unreadable (error : ReadError)
  | unsuitable (problem : ArrayProblem)
  | width (scheme : Scheme) (found expected : Nat)
  | noWidth (scheme : Scheme)
  | lengths (rows cols found : Nat)
deriving DecidableEq

/-- What is said of an object that has to be fitted first. -/
def notFittedText (object : String) : String :=
  "This " ++ object ++ " instance is not fitted yet. Call 'fit' with appropriate arguments " ++
    "before using this estimator."

namespace TransformError

def kind : TransformError → FailureKind
  | notFitted _ => .notFitted
  | sparse => .wrongKind
  | unreadable e => e.kind
  | unsuitable _ => .value
  | width _ _ _ => .value
  | noWidth _ => .missingProperty
  | lengths _ _ _ => .value

def message : TransformError → String
  | notFitted scheme => notFittedText scheme.transformName
  | sparse => ""
  | unreadable e => e.message
  | unsuitable problem => problem.message none
  | width scheme found expected =>
    "X has " ++ toString found ++ " features, but " ++ scheme.transformName ++
      " was configured with " ++ toString expected ++ " features"
  | noWidth scheme =>
    Text.quoted scheme.transformName ++ " object has no attribute " ++ Text.quoted "n_features_in_"
  | lengths rows cols found =>
    "operands could not be broadcast together with shapes " ++ shapeText [rows, cols] ++ " " ++
      shapeText [found] ++ " "

end TransformError

/-- A statistic that a fit sets: `mean_`, `scale_` or `n_features_in_`. -/
inductive Statistic where
  | mean
  | scale
  | features
deriving DecidableEq

/-- A row of numbers, as many as there may be: an attribute whose length nothing but a check
compares with the data. -/
structure Row (K : Type) where
  length : Nat
  entries : Vec K length

/-- **What a fit has left on a transform,** statistic by statistic; an attribute that is missing
is `none`. -/
structure Statistics (K : Type) where
  mean : Option (Row K)
  scale : Option (Row K)
  features : Option Nat

namespace Statistics

variable {K : Type}

def absent : Statistics K := ⟨none, none, none⟩

def has (s : Statistics K) : Statistic → Bool
  | .mean => s.mean.isSome
  | .scale => s.scale.isSome
  | .features => s.features.isSome

def erase (s : Statistics K) : Statistic → Statistics K
  | .mean => { s with mean := none }
  | .scale => { s with scale := none }
  | .features => { s with features := none }

/-- The statistics in the order in which `_reset` goes through them. -/
def removal : List Statistic := [.mean, .scale, .features]

/-- Removes the statistics that are there, one after the other, as `_ColumnTransform._reset` does.
-/
def reset (s : Statistics K) : Statistics K :=
  removal.foldl (fun s name => if s.has name then s.erase name else s) s

end Statistics

/-- **A transform: a scheme, and what a fit has left.** The scheme is the class of the object, and
nothing changes it. -/
structure Transform (K : Type) where
  scheme : Scheme
  statistics : Statistics K

namespace Transform

def new (scheme : Scheme) : Transform K := ⟨scheme, .absent⟩

/-- The transform without what a fit has left. -/
def reset (t : Transform K) : Transform K := { t with statistics := t.statistics.reset }

/-- Data as a matrix of finite numbers, with at least one row unless `rowless` is set: the check
of `fit` and of `_check`. -/
def readTable (rowless : Bool) (x : Reading K) : Except TransformError (Table K) :=
  match x with
  | .sparse => .error .sparse
  | .unreadable e => .error (.unreadable e)
  | .array a =>
    match Table.ofArray? rowless a with
    | .ok t => .ok t
    | .error problem => .error (.unsuitable problem)

/-- **Learns the statistics of the data,** `_ColumnTransform.fit`.  What was learned before is
removed before the data is looked at, so it is forgotten even if the data is refused. -/
def fit (t : Transform K) (x : Reading K) : Transform K × Except TransformError Unit :=
  let t := t.reset
  match readTable false x with
  | .error e => (t, .error e)
  | .ok table =>
    let learned := t.scheme.learn table.mat
    let t := { t with statistics.mean := some ⟨_, learned.mean⟩ }
    let t := { t with statistics.scale := some ⟨_, learned.scale⟩ }
    let t := { t with statistics.features := some table.cols }
    (t, .ok ())

/-- Learns the statistics of the data, by the other name that `_ColumnTransform` has for `fit`. -/
def configure (t : Transform K) (x : Reading K) : Transform K × Except TransformError Unit :=
  t.fit x

/-- Checks data against what was learned, as `_ColumnTransform._check` does, and maps it.  The
shifts and scales are compared with the data only by the arithmetic itself. -/
def use (t : Transform K) (x : Reading K)
    (f : {m p : Nat} → ColumnStats K p → Mat K m p → Mat K m p) :
    Except TransformError (Table K) :=
  match t.statistics.mean, t.statistics.scale with
  | some mean, some scale =>
    match readTable true x, t.statistics.features with
    | .error e, _ => .error e
    | .ok _, none => .error (.noWidth t.scheme)
    | .ok table, some features =>
      if table.cols ≠ features then .error (.width t.scheme table.cols features)
      else if hmean : mean.length = table.cols then
        if hscale : scale.length = table.cols then
          .ok ⟨table.rows, table.cols, f ⟨hmean ▸ mean.entries, hscale ▸ scale.entries⟩ table.mat⟩
        else .error (.lengths table.rows table.cols scale.length)
      else .error (.lengths table.rows table.cols mean.length)
  | _, _ => .error (.notFitted t.scheme)

def transform (t : Transform K) (x : Reading K) : Except TransformError (Table K) :=
  t.use x ColumnStats.apply

/-- The data from which `transform` would give this, `inverse_transform`. -/
def inverse (t : Transform K) (x : Reading K) : Except TransformError (Table K) :=
  t.use x ColumnStats.unapply

/-- Learns the statistics of the data and transforms it, as one call. -/
def fitTransform (t : Transform K) (x : Reading K) :
    Transform K × Except TransformError (Table K) :=
  match t.fit x with
  | (t, .ok ()) => (t, t.transform x)
  | (t, .error e) => (t, .error e)

/-- **A call on a transform:** any of its methods that looks at data. -/
inductive Call (K : Type) where
  | fit (x : Reading K)
  | configure (x : Reading K)
  | transform (x : Reading K)
  | inverse (x : Reading K)
  | fitTransform (x : Reading K)

/-- What a call leaves of a transform, whether it succeeds or fails. -/
def after (t : Transform K) : Call K → Transform K
  | .fit x => (t.fit x).1
  | .configure x => (t.configure x).1
  | .transform _ => t
  | .inverse _ => t
  | .fitTransform x => (t.fitTransform x).1

/-- What calls leave of a transform, one after the other. -/
def run (t : Transform K) (calls : List (Call K)) : Transform K := calls.foldl after t

end Transform

end PartialLeastSquares
