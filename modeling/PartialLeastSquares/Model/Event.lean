/-
# What a fit reports

While a model is fitted, events are put on record: what is fitted, each component, how an
iteration ended, and that the fit succeeded.  These are the calls on `logger` in `PLSModel.fit`
and in the `fit_state` of each method.  A `Run` is the outcome of a piece of work together with
the events on record by then, failures included.
-/
import PartialLeastSquares.Logging.Level
import PartialLeastSquares.Model.Error

namespace PartialLeastSquares

/-! ## 1. Events -/

/-- **An event in the course of a fit;** components are counted from zero.  Each is one call on
`logger`, with the values that its template is filled with: the warning of `fit` when
`n_components` exceeds the rows or the columns, its lines before and after the fit, and the lines
for a component. -/
inductive Event (K : Type) where
  | tooManyComponents (asked limit : Nat)
  | fitting (method : String) (components rows cols : Nat) (scheme : Scheme)
  | pls1Component (component : Nat) (coefficient scoreSq : K)
  | simplsComponent (component : Nat) (responseLoading : K)
  | settled (component passes : Nat)
  | unsettled (component passes : Nat) (change tol : K)
  | orthogonalComponent (component : Nat) (scoreSq : K)
  | fitted (method : String) (components : Nat)

namespace Event

variable {K : Type}

/-- The level on which an event is recorded: warnings are what a user should see, and the rest is
detail but for the line of a successful fit. -/
def level : Event K → Int
  | tooManyComponents _ _ => Logging.warning
  | unsettled _ _ _ _ => Logging.warning
  | fitted _ _ => Logging.info
  | _ => Logging.debug

def status? : Event K → Option Logging.Status
  | fitted _ _ => some .success
  | _ => none

/-- The name under which records of models are made, with the part that makes them. -/
def loggerOf (part : String) : String := "latentpls.operators.models.sklearn." ++ part

def logger : Event K → String
  | pls1Component _ _ _ => loggerOf "pls1"
  | simplsComponent _ _ => loggerOf "simpls"
  | settled _ _ => loggerOf "kernel_pls"
  | unsettled _ _ _ _ => loggerOf "kernel_pls"
  | orthogonalComponent _ _ => loggerOf "opls"
  | _ => loggerOf "base"

/-- **The text of an event,** given how long the fit took. -/
def message (duration : String) : Event Float → String
  | tooManyComponents asked limit =>
    "n_components=" ++ toString asked ++ " exceeds min(n_samples, n_features)=" ++ toString limit ++
      "; the fit may be ill-conditioned"
  | fitting method components rows cols scheme =>
    "Fitting " ++ method ++ " with " ++ toString components ++ " component(s) on " ++
      toString rows ++ "x" ++ toString cols ++ " predictors (" ++ scheme.name ++ ")"
  | pls1Component j b tt =>
    "PLS1 component " ++ toString (j + 1) ++ ": b=" ++ Decimal.generalFloat 6 b ++ ", ||t||^2=" ++
      Decimal.generalFloat 6 tt
  | simplsComponent j q =>
    "SIMPLS component " ++ toString (j + 1) ++ ": q'=" ++ Decimal.generalFloat 6 q
  | settled j passes =>
    "Kernel PLS component " ++ toString (j + 1) ++ " converged after " ++ toString passes ++
      " iterations"
  | unsettled j passes change tol =>
    "Kernel PLS component " ++ toString (j + 1) ++ " did not converge in " ++ toString passes ++
      " iterations (change=" ++ Decimal.generalFloat 3 change ++ ", tol=" ++
      Decimal.generalFloat 3 tol ++ ")"
  | orthogonalComponent j tt =>
    "OPLS orthogonal component " ++ toString (j + 1) ++ ": ||t_orth||^2=" ++
      Decimal.generalFloat 6 tt
  | fitted method components =>
    "Fitted " ++ method ++ " (" ++ toString components ++ " components) in " ++ duration

end Event

/-! ## 2. Runs -/

/-- **The outcome of a piece of work, and the events on record by then.** A failure keeps the
events that came before it, as a log does. -/
structure Run (K α : Type) where
  events : List (Event K)
  outcome : Except (ModelError K) α

namespace Run

variable {K α β : Type}

def ok (a : α) : Run K α := ⟨[], .ok a⟩

def fail (e : ModelError K) : Run K α := ⟨[], .error e⟩

def silent (outcome : Except (ModelError K) α) : Run K α := ⟨[], outcome⟩

def record (events : List (Event K)) : Run K Unit := ⟨events, .ok ()⟩

/-- One piece of work after another; a failure ends it, and what was recorded stays. -/
def andThen (run : Run K α) (next : α → Run K β) : Run K β :=
  match run.outcome with
  | .error e => ⟨run.events, .error e⟩
  | .ok a =>
    let rest := next a
    ⟨run.events ++ rest.events, rest.outcome⟩

instance : Monad (Run K) where
  pure := ok
  bind := andThen

@[simp] theorem outcome_ok (a : α) : (ok a : Run K α).outcome = .ok a := rfl

@[simp] theorem outcome_fail (e : ModelError K) : (fail e : Run K α).outcome = .error e := rfl

theorem outcome_andThen (run : Run K α) (next : α → Run K β) :
    (run.andThen next).outcome = run.outcome.bind fun a => (next a).outcome := by
  cases h : run.outcome <;> simp [andThen, h, Except.bind]

end Run

end PartialLeastSquares
