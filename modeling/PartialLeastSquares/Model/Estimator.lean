/-
# What is configured

A `PLSModel` is configured with a method, a number of components and a scheme of preprocessing,
and a method may be configured with a kernel or with another model.  Nothing is checked when an
object is made: any setting may hold any value until a fit looks at it.  So the objects that stand
in for one another, and the values that may stand in their place, form one type.

`Estimator.describe` shows an object with its settings, `Estimator.assign` changes one of them by
its path, and `Estimator.configure` is the loop over names of `set_params`, without the reset that
`PLSModel` adds.
-/
import PartialLeastSquares.Kernel

namespace PartialLeastSquares

/-- **A configurable object, or a value in the place of one:** `PLS1`, `SIMPLS`, `KernelPLS`,
`OPLS` with its base, a `PLSModel`, or a kernel.  `transformOnly` is `PLS1` with
`supports_prediction` unset, which gives scores and predicts nothing. -/
inductive Estimator where
  | plain (v : Value)
  | kernel (k : Kernel)
  | pls1
  | transformOnly
  | simpls (numCoefficients : Value)
  | kernelPls (kernel : Estimator) (tol maxIter seed : Value)
  | opls (base : Estimator)
  | model (algorithm : Estimator) (nComponents preprocessing : Value)

instance : Inhabited Estimator := ⟨.plain .null⟩

namespace Estimator

/-! ## 1. Descriptions -/

/-- The name of an object's class, or of a value's kind. -/
def className : Estimator → String
  | plain v => v.kind
  | kernel k => k.className
  | pls1 => "PLS1"
  | transformOnly => "TransformOnly"
  | simpls _ => "SIMPLS"
  | kernelPls _ _ _ _ => "KernelPLS"
  | opls _ => "OPLS"
  | model _ _ _ => "PLSModel"

def described (className : String) (settings : List (String × Value)) : Value :=
  .table [(.text "class", .text className),
    (.text "params", .table (settings.map fun (name, v) => (.text name, v)))]

/-- **An object with its settings, as a value.**  A value is itself. -/
def describe : Estimator → Value
  | plain v => v
  | kernel k => described k.className k.parameters
  | pls1 => described "PLS1" []
  | transformOnly => described "TransformOnly" []
  | simpls count => described "SIMPLS" [("num_coefficients", count)]
  | kernelPls k tol maxIter seed =>
    described "KernelPLS"
      [("kernel", k.describe), ("max_iter", maxIter), ("seed", seed), ("tol", tol)]
  | opls base => described "OPLS" [("base", base.describe)]
  | model algorithm nComponents preprocessing =>
    described "PLSModel"
      [("algorithm", algorithm.describe), ("n_components", nComponents),
        ("preprocessing", preprocessing)]

/-! ## 2. Settings by name -/

/-- The setting of a name, when the object has one. -/
def setting? (e : Estimator) (name : String) : Option Estimator :=
  match e with
  | kernel k => ((k.parameters.find? fun s => s.1 == name).map fun s => plain s.2)
  | simpls count => if name == "num_coefficients" then some (plain count) else none
  | kernelPls k tol maxIter seed =>
    if name == "kernel" then some k
    else if name == "tol" then some (plain tol)
    else if name == "max_iter" then some (plain maxIter)
    else if name == "seed" then some (plain seed)
    else none
  | opls base => if name == "base" then some base else none
  | model algorithm nComponents preprocessing =>
    if name == "algorithm" then some algorithm
    else if name == "n_components" then some (plain nComponents)
    else if name == "preprocessing" then some (plain preprocessing)
    else none
  | _ => none

/-- The value that an object leaves in a setting that takes values only. -/
def toValue : Estimator → Value
  | plain v => v
  | e => .foreign e.className e.className e.className

/-- An object with one setting changed; unchanged when it has none of that name. -/
def set (e : Estimator) (name : String) (v : Estimator) : Estimator :=
  match e with
  | kernel k => kernel ((k.set? name v.toValue).getD k)
  | simpls count => if name == "num_coefficients" then simpls v.toValue else simpls count
  | kernelPls k tol maxIter seed =>
    if name == "kernel" then kernelPls v tol maxIter seed
    else if name == "tol" then kernelPls k v.toValue maxIter seed
    else if name == "max_iter" then kernelPls k tol v.toValue seed
    else if name == "seed" then kernelPls k tol maxIter v.toValue
    else e
  | opls base => if name == "base" then opls v else opls base
  | model algorithm nComponents preprocessing =>
    if name == "algorithm" then model v nComponents preprocessing
    else if name == "n_components" then model algorithm v.toValue preprocessing
    else if name == "preprocessing" then model algorithm nComponents v.toValue
    else e
  | _ => e

def configurable : Estimator → Bool
  | plain _ => false
  | _ => true

/-! ## 3. Changes by path -/

/-- Why a setting cannot be changed: the object has none of that name, or what stands in the
setting is no object. -/
inductive SettingError where
  | unknown (name : String)
  | noObject
deriving DecidableEq

namespace SettingError

def kind : SettingError → FailureKind
  | unknown _ => .value
  | noObject => .missingProperty

def message : SettingError → String
  | unknown name => "Invalid parameter " ++ Text.quoted name
  | noObject => ""

end SettingError

/-- A dotted path followed to its end, where the setting is changed.  A setting that the object at
the end does not have is left alone, and a path through a missing object fails. -/
def assign (e : Estimator) (path : List String) (v : Estimator) : Except SettingError Estimator :=
  match path with
  | [] => .ok e
  | [name] => if e.configurable then .ok (e.set name v) else .error .noObject
  | name :: rest =>
    match e.setting? name with
    | none => .error .noObject
    | some inner =>
      match inner.assign rest v with
      | .ok changed => .ok (e.set name changed)
      | .error err => .error err

/-! ## 4. Changes by name -/

/-- **The name of a setting,** from the outside in: a setting of the object itself, and the
settings inside that setting's object, none when the object's own setting is meant.  Written out
they are joined by double underscores. -/
structure SettingName where
  own : String
  inner : List String
deriving DecidableEq

namespace SettingName

/-- A text cut at its double underscores, the leftmost first: what stands before the first of
them, and what stands after each. -/
def cut : List Char → List Char × List (List Char)
  | '_' :: '_' :: rest => ([], (cut rest).1 :: (cut rest).2)
  | c :: rest => (c :: (cut rest).1, (cut rest).2)
  | [] => ([], [])

def ofString (name : String) : SettingName :=
  let (own, inner) := cut name.toList
  ⟨String.ofList own, inner.map String.ofList⟩

end SettingName

/-- Settings by name, with their new values, in the order in which they are to be changed. -/
abbrev Changes := List (SettingName × Estimator)

namespace Changes

/-- The changes inside the setting `own`, named as that setting's object names them. -/
def within (own : String) (changes : Changes) : Changes :=
  changes.filterMap fun (name, v) =>
    match name with
    | ⟨_, []⟩ => none
    | ⟨o, first :: rest⟩ => if o = own then some (⟨first, rest⟩, v) else none

/-- The settings inside which something is to be changed, in order of first mention. -/
def owners (changes : Changes) : List String :=
  (changes.filterMap fun (name, _) =>
    if name.inner.isEmpty then none else some name.own).eraseDups

def depth (changes : Changes) : Nat :=
  changes.foldr (fun (name, _) d => max (name.inner.length + 1) d) 0

end Changes

/-- The changes of an object's own settings, in order.  Every name must begin with a setting of
the object, also one that leads further inside; the first that does not ends it. -/
def assignOwn (e : Estimator) : Changes → Estimator × Except SettingError Unit
  | [] => (e, .ok ())
  | (name, v) :: rest =>
    match e.setting? name.own with
    | none => (e, .error (.unknown name.own))
    | some _ => assignOwn (if name.inner.isEmpty then e.set name.own v else e) rest

/-- The changes inside settings, one setting after the other; the first object that refuses a
change ends it, with the changes made in it by then. -/
def forward (change : Estimator → Changes → Estimator × Except SettingError Unit)
    (changes : Changes) (e : Estimator) : List String → Estimator × Except SettingError Unit
  | [] => (e, .ok ())
  | owner :: rest =>
    match e.setting? owner with
    | none => (e, .error (.unknown owner))
    | some inner =>
      if inner.configurable then
        match change inner (changes.within owner) with
        | (changed, .ok ()) => forward change changes (e.set owner changed) rest
        | (changed, .error err) => (e.set owner changed, .error err)
      else (e, .error .noObject)

/-- Changes by names that lead no deeper than `depth`. -/
def changeWithin : (depth : Nat) → Estimator → Changes → Estimator × Except SettingError Unit
  | 0, e, _ => (e, .ok ())
  | depth + 1, e, changes =>
    match assignOwn e changes with
    | (e, .error err) => (e, .error err)
    | (e, .ok ()) => forward (changeWithin depth) changes e changes.owners

/-- **Changes settings in the order given:** those of the object itself at once, those of the
objects in its settings afterwards.  The first name that is not known ends it; what was changed
before stays changed, so the object is returned beside the error. -/
def change (e : Estimator) (changes : Changes) : Estimator × Except SettingError Unit :=
  changeWithin changes.depth e changes

def Changes.ofList (changes : List (String × Estimator)) : Changes :=
  changes.map fun (name, v) => (.ofString name, v)

/-- **Changes settings by name,** the inherited `set_params`. -/
def configure (e : Estimator) (changes : List (String × Estimator)) :
    Estimator × Except SettingError Unit :=
  e.change (.ofList changes)

/-! ## 5. Making objects -/

/-- The method in feature space with its default settings, `KernelPLS()`. -/
def kernelPlsDefault : Estimator :=
  kernelPls (plain .null) (.float 1e-6) (.int 500) (.int 0)

/-- The method with one response, unless a method is given: the default that `_new_algorithm` puts
in its place. -/
def methodOr : Estimator → Estimator
  | plain .null => pls1
  | e => e

end Estimator

end PartialLeastSquares
