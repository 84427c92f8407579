/-
# Fitting

`train` is `PLSModel.fit` after `_validate`: it puts on record what is being done, learns the
statistics of the columns, lets the method's `fit_state` extract the components, and makes a
fitted model of them.  A filter trains the model that follows it in the same way, on the filtered
rows; by then the outer fit has begun, so a refusal of the inner model is a failure of the outer
one.
-/
import PartialLeastSquares.Model.Check
import PartialLeastSquares.Model.Event
import PartialLeastSquares.Model.Fitted

namespace PartialLeastSquares

variable {K : Type} [Scalar K] {n p q : Nat}

/-! ## 1. Components on record -/

def numbered {α : Type} (xs : List α) : List (Nat × α) := (List.range xs.length).zip xs

/-- The record of the components of `PLS1.fit_state`: one line each, after the component is
complete. -/
def Pls1.events (cs : List (Pls1.Component K n p)) : List (Event K) :=
  (numbered cs).map fun (j, c) => .pls1Component j c.coefficient c.scoreSq

/-- The record of the components of `SIMPLS.fit_state`, each with its entry of `Q`. -/
def Simpls.events (cs : List (Simpls.Component K p)) : List (Event K) :=
  (numbered cs).map fun (j, c) => .simplsComponent j c.responseLoading

/-- The record of how the iteration of a component ended, the warning or the line after the inner
loop of `KernelPLS.fit_state`. -/
def KernelPls.event (tol : KernelPls.Tolerance K) (j : Nat) (c : KernelPls.Convergence K) :
    Event K :=
  match tol with
  | .within x => if c.settled then .settled j c.passes else .unsettled j c.passes c.change x
  | _ => .settled j c.passes

/-- The record of an extraction in feature space, its last failing component included: the
iteration is logged before the component is complete. -/
def KernelPls.events (tol : KernelPls.Tolerance K)
    (found : Extraction (KernelPls.Component K n q) (KernelPls.Residual K n q)
      (KernelPls.Halt K)) : List (Event K) :=
  let whole := (numbered found.components).map fun (j, c) => KernelPls.event tol j c.convergence
  let j := found.components.length
  match found.ending with
  | .error (.afterPasses c _) => whole ++ [KernelPls.event tol j c]
  | .error .noPass => whole ++ [.settled j 0]
  | _ => whole

/-- The record of the components of `OPLS.fit_state`. -/
def OrthogonalFilter.events (cs : List (OrthogonalFilter.Component K n p)) : List (Event K) :=
  (numbered cs).map fun (j, c) => .orthogonalComponent j c.scoreSq

/-! ## 2. One method at a time -/

def Run.numerical {α : Type} (outcome : Except (NumericalError K) α) : Run K α :=
  match outcome with
  | .ok a => .ok a
  | .error e => .fail (.numerical e)

/-- Fits the method with one response and records its components, `PLS1.fit_state`; `predicts` is
`supports_prediction`. -/
def trainPls1 (tools : Toolkit K) (predicts : Bool) (count : Nat) (env : Envelope K p 1)
    (x : Mat K n p) (y : Mat K n 1) : Run K (Fitted K n p 1) := do
  let found := Pls1.extraction x y.only count
  Run.record (Pls1.events found.components)
  let fit ← Run.numerical (Pls1.fit tools found)
  return .pls1 env predicts fit

/-- Fits the method from cross-products and records its components, `SIMPLS.fit_state`; the
weights are thinned out at the end, when all components are found. -/
def trainSimpls (tools : Toolkit K) (coefficients : Value) (count : Nat) (env : Envelope K p 1)
    (x : Mat K n p) (y : Mat K n 1) : Run K (Fitted K n p 1) := do
  let found := Simpls.extraction tools x y.only count
  Run.record (Simpls.events found.components)
  let _ ← Run.numerical found.ending
  let number ← Run.silent (checkCoefficients coefficients)
  match Simpls.fit (thinning p number) found.components with
  | some fit => return .simpls env fit
  | none => .fail .wrongKind

/-- The kernel that a setting stands for; a missing one means `RBFKernel` with its defaults, and
anything else that is no kernel has no `apply_matrix`. -/
def kernelOf : Estimator → Except (ModelError K) Kernel
  | .kernel k => .ok k
  | .plain .null => .ok (.rbf (.float 1.0))
  | _ => .error .noProperty

/-- Fits the method in feature space and records its iterations, `KernelPLS.fit_state`: centering
and the kernel first, then the components, then `B`. -/
def trainKernelPls (tools : Toolkit K) (kernel : Estimator) (tol maxIter seed : Value)
    (count : Nat) (env : Envelope K p q) (x : Mat K n p) (y : Mat K n q) :
    Run K (Fitted K n p q) := do
  let settings ←
    match (checkIteration tol maxIter seed : Except Invalid (KernelPls.Settings K)) with
    | .ok s => Run.ok s
    | .error why => Run.fail (.invalid why)
  let stats ← match KernelPls.center x y with
    | .ok s => Run.ok s
    | .error problem => Run.fail (.unsuitable problem)
  let kernel ← Run.silent (kernelOf kernel)
  let data ← match KernelPls.prepare kernel x y stats with
    | .ok d => Run.ok d
    | .error e => Run.fail (.kernel e)
  let found := KernelPls.extraction tools settings data.centered data.y count
  Run.record (KernelPls.events settings.tol found)
  match found.ending with
  | .error (.inPass e) => Run.fail (.numerical e)
  | .error (.afterPasses _ e) => Run.fail (.numerical e)
  | .error .noPass => Run.fail .noScore
  | .ok residual =>
    let fit ← Run.numerical (KernelPls.fit tools data found.components residual)
    return .kernelPls env fit

/-- Fits an orthogonal filter, and the model that follows it on the training rows filtered in one
step, `OPLS.fit_state`. -/
def trainOpls (follow : Mat K n p → Mat K n 1 → Run K (Fitted K n p 1)) (count : Nat)
    (env : Envelope K p 1) (x : Mat K n p) (y : Mat K n 1) : Run K (Fitted K n p 1) := do
  let found := OrthogonalFilter.extraction x y.only count
  Run.record (OrthogonalFilter.events found.components)
  let residual ← Run.numerical found.ending
  let base ← follow (OrthogonalFilter.apply found.components x) y
  return .opls env ⟨found.components, residual⟩ base

/-! ## 3. Around a method -/

/-- **Preprocesses data, trains, and puts beginning and end on record:** the part of
`PLSModel.fit` around `fit_state`.  Too many components are worth a warning and no more. -/
def around (name : String) (plan : Plan) (flat : Bool) (x : Mat K n p) (y : Mat K n q)
    (method : Nat → Envelope K p q → Mat K n p → Mat K n q → Run K (Fitted K n p q)) :
    Run K (Fitted K n p q) := do
  if Nat.min n p < plan.components then
    Run.record [.tooManyComponents plan.components (Nat.min n p)]
  let env : Envelope K p q := ⟨plan.scheme, plan.scheme.learn x, plan.scheme.learn y, flat⟩
  Run.record [.fitting name plan.components n p plan.scheme]
  let fitted ← method plan.components env (env.x.apply x) (env.y.apply y)
  Run.record [.fitted name plan.components]
  return fitted

/-- A method for one response, for responses of any number of columns. -/
def forOne (method : Nat → Envelope K p 1 → Mat K n p → Mat K n 1 → Run K (Fitted K n p 1)) :
    {q : Nat} → Nat → Envelope K p q → Mat K n p → Mat K n q → Run K (Fitted K n p q)
  | 1, count, env, x, y => method count env x y
  | q, _, _, _, _ => .fail (.invalid (.responseColumns .one q))

/-- The requirements that the model after a filter has on its settings and its data, `_validate`
of `base`. -/
def checkFollowing (algorithm : Estimator) (nComponents preprocessing : Value) (x : Mat K n p)
    (y : Mat K n q) : Except (ModelError K) Plan :=
  match checkPlan nComponents preprocessing with
  | .error why => .error (.invalid why)
  | .ok plan =>
    match checkEntries x y with
    | .error why => .error (.invalid why)
    | .ok () =>
      match checkMethod algorithm.methodOr q with
      | .error e => .error e
      | .ok () => .ok plan

/-- **Fits a method to data** that has been checked, with settings that have been checked.
Without a base of its own `OPLS` uses `default_base`: one component of `PLS1` on centered data. -/
def train (tools : Toolkit K) : {q : Nat} → (method : Estimator) → (plan : Plan) → (flat : Bool) →
    (x : Mat K n p) → (y : Mat K n q) → Run K (Fitted K n p q)
  | _, .pls1, plan, flat, x, y => around "PLS1" plan flat x y (forOne (trainPls1 tools true))
  | _, .plain .null, plan, flat, x, y =>
    around "PLS1" plan flat x y (forOne (trainPls1 tools true))
  | _, .transformOnly, plan, flat, x, y =>
    around "TransformOnly" plan flat x y (forOne (trainPls1 tools false))
  | _, .simpls coefficients, plan, flat, x, y =>
    around "SIMPLS" plan flat x y (forOne (trainSimpls tools coefficients))
  | _, .kernelPls kernel tol maxIter seed, plan, flat, x, y =>
    around "KernelPLS" plan flat x y (trainKernelPls tools kernel tol maxIter seed)
  | _, .opls (.plain .null), plan, flat, x, y =>
    around "OPLS" plan flat x y (forOne (trainOpls fun x y => do
      let base ← Run.silent (checkFollowing .pls1 (.int 1) (.text "center") x y)
      around "PLS1" base false x y (forOne (trainPls1 tools true))))
  | _, .opls (.model algorithm nComponents preprocessing), plan, flat, x, y =>
    around "OPLS" plan flat x y (forOne (trainOpls fun x y => do
      let base ← Run.silent (checkFollowing algorithm nComponents preprocessing x y)
      train tools algorithm base false x y))
  | _, .opls base, _, _, _, _ => .fail (.invalid (.base base.className))
  | _, other, _, _, _, _ => .fail (.invalid (.method other.className))

end PartialLeastSquares
