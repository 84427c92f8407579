/-
# Extracting components

Every method of this library extracts components one after the other: from what is left of the
data it computes a component, removes it, and goes on.  `extract` is that loop, the `for` over
components in the `fit_state` of `PLS1`, `SIMPLS`, `KernelPLS` and `OPLS`.  It keeps the
components found before a failure, because each has been logged by then.

The first components of a longer extraction are those of a shorter one, and an extraction that
fails at some component fails there for every larger count: both are laws of the loop alone.
-/

namespace PartialLeastSquares

/-- **What an extraction found:** the components in order, and what is left of the data, or the
failure that ended it.  A `fit_state` that raises has no result; here its components so far are
kept for the record. -/
structure Extraction (Component State Error : Type) where
  components : List Component
  ending : Except Error State

variable {Component State Error : Type}

/-- Extracts `count` components, the first of which has number `j`; `step` is the body of the loop
in `fit_state`. -/
def extract (step : Nat → State → Except Error (Component × State)) :
    (count j : Nat) → State → Extraction Component State Error
  | 0, _, s => ⟨[], .ok s⟩
  | count + 1, j, s =>
    match step j s with
    | .error e => ⟨[], .error e⟩
    | .ok (c, s) =>
      let rest := extract step count (j + 1) s
      ⟨c :: rest.components, rest.ending⟩

theorem extract_zero (step : Nat → State → Except Error (Component × State)) (j : Nat)
    (s : State) : extract step 0 j s = ⟨[], .ok s⟩ := rfl

theorem extract_succ_error {step : Nat → State → Except Error (Component × State)} {j : Nat}
    {s : State} {e : Error} (h : step j s = .error e) (count : Nat) :
    extract step (count + 1) j s = ⟨[], .error e⟩ := by
  simp [extract, h]

theorem extract_succ_ok {step : Nat → State → Except Error (Component × State)} {j : Nat}
    {s s' : State} {c : Component} (h : step j s = .ok (c, s')) (count : Nat) :
    extract step (count + 1) j s =
      ⟨c :: (extract step count (j + 1) s').components,
        (extract step count (j + 1) s').ending⟩ := by
  simp [extract, h]

end PartialLeastSquares
