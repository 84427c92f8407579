/-
# Two pieces of work side by side

The same method is run twice, on data that differs in a known way, and the two runs go through the
same steps.  They *correspond* if both end with results of a given relation, or both fail with
errors of a given relation (`Corresponds`).

Correspondence passes through every way in which work is put together: one step after another
(`Corresponds.bind`), the loop that extracts components (`corresponds_extract`), and a run with its
record, where errors correspond if they are of one class (`Run.Corresponds`).  Where the second
result is a function of the first, the loop carries an equation instead (`extract_map`).
-/
import Mathlib
import PartialLeastSquares.Model.Fit
import PartialLeastSquares.Proofs.Outcome

namespace PartialLeastSquares

/-! ## 1. Outcomes -/

/-- **Two outcomes correspond:** both are results, and related, or both are errors, and related. -/
inductive Corresponds {ε ε' α β : Type} (E : ε → ε' → Prop) (R : α → β → Prop) :
    Except ε α → Except ε' β → Prop
  | ok {a : α} {b : β} (h : R a b) : Corresponds E R (.ok a) (.ok b)
  | error {e : ε} {e' : ε'} (h : E e e') : Corresponds E R (.error e) (.error e')

namespace Corresponds

variable {ε ε' α β γ δ : Type} {E : ε → ε' → Prop} {R : α → β → Prop} {S : γ → δ → Prop}

/-- **Corresponding steps one after the other correspond.** -/
theorem bind {x : Except ε α} {y : Except ε' β} {f : α → Except ε γ} {g : β → Except ε' δ}
    (h : Corresponds E R x y) (hnext : ∀ a b, R a b → Corresponds E S (f a) (g b)) :
    Corresponds E S (x >>= f) (y >>= g) := by
  cases h with
  | ok h => exact hnext _ _ h
  | error h => exact .error h

theorem of_eq_map {E : ε → ε → Prop} {x : Except ε α} {y : Except ε β} {g : α → β}
    (h : y = x.map g) (hE : ∀ e, E e e) (hR : ∀ a, x = .ok a → R a (g a)) :
    Corresponds E R x y := by
  subst h
  cases x with
  | ok a => exact .ok (hR a rfl)
  | error e => exact .error (hE e)

end Corresponds

/-! ## 2. The loop -/

section Loop

variable {C C' S S' ε ε' : Type}

/-- **Two extractions correspond** if their steps do on corresponding states. -/
theorem corresponds_extract {step : Nat → S → Except ε (C × S)}
    {step' : Nat → S' → Except ε' (C' × S')} {E : ε → ε' → Prop} {R : C → C' → Prop}
    {T : S → S' → Prop} (hstep : ∀ j s s', T s s' →
      Corresponds E (fun found found' => R found.1 found'.1 ∧ T found.2 found'.2)
        (step j s) (step' j s')) :
    ∀ (count j : Nat) (s : S) (s' : S'), T s s' →
      List.Forall₂ R (extract step count j s).components (extract step' count j s').components ∧
        Corresponds E T (extract step count j s).ending (extract step' count j s').ending := by
  intro count
  induction count with
  | zero => exact fun j s s' h => ⟨.nil, .ok h⟩
  | succ count ih =>
    intro j s s' h
    have hsteps := hstep j s s' h
    cases hs : step j s with
    | error e =>
      rw [hs] at hsteps
      cases hs' : step' j s' with
      | error e' =>
        rw [hs'] at hsteps
        rw [extract_succ_error hs, extract_succ_error hs']
        cases hsteps with
        | error he => exact ⟨.nil, .error he⟩
      | ok found' =>
        rw [hs'] at hsteps
        cases hsteps
    | ok found =>
      rw [hs] at hsteps
      cases hs' : step' j s' with
      | error e' =>
        rw [hs'] at hsteps
        cases hsteps
      | ok found' =>
        rw [hs'] at hsteps
        rw [extract_succ_ok hs, extract_succ_ok hs']
        cases hsteps with
        | ok hfound =>
          obtain ⟨hcomponents, hending⟩ := ih (j + 1) found.2 found'.2 hfound.2
          exact ⟨.cons hfound.1 hcomponents, hending⟩

/-- **What an extraction finds is mapped** if what each of its steps finds is. -/
theorem extract_map {step : Nat → S → Except ε (C × S)} {step' : Nat → S' → Except ε (C' × S')}
    {f : C → C'} {g : S → S'}
    (hstep : ∀ j s, step' j (g s) = (step j s).map (Prod.map f g)) :
    ∀ (count j : Nat) (s : S), extract step' count j (g s) =
      ⟨(extract step count j s).components.map f, (extract step count j s).ending.map g⟩ := by
  intro count
  induction count with
  | zero => exact fun j s => rfl
  | succ count ih =>
    intro j s
    cases hs : step j s with
    | error e =>
      have hs' : step' j (g s) = .error e := by rw [hstep, hs]; rfl
      rw [extract_succ_error hs, extract_succ_error hs']
      rfl
    | ok found =>
      have hs' : step' j (g s) = .ok (f found.1, g found.2) := by rw [hstep, hs]; rfl
      rw [extract_succ_ok hs, extract_succ_ok hs', ih]
      rfl

end Loop

/-! ## 3. Runs -/

namespace Run

variable {K α β γ δ : Type} {R : α → β → Prop} {S : γ → δ → Prop}

/-- **Two runs correspond:** both have results, and these are related, or both fail with errors of
one class. -/
def Corresponds (R : α → β → Prop) (run : Run K α) (run' : Run K β) : Prop :=
  PartialLeastSquares.Corresponds (fun e e' => e.kind = e'.kind) R run.outcome run'.outcome

theorem corresponds_pure {a : α} {b : β} (h : R a b) :
    Corresponds R (pure a : Run K α) (pure b : Run K β) :=
  .ok h

theorem corresponds_fail {e e' : ModelError K} (h : e.kind = e'.kind) :
    Corresponds R (fail e : Run K α) (fail e' : Run K β) :=
  .error h

theorem corresponds_self (run : Run K α) :
    Corresponds (fun a a' => a' = a ∧ run.outcome = .ok a) run run := by
  unfold Corresponds
  cases run.outcome with
  | ok a => exact .ok ⟨rfl, rfl⟩
  | error e => exact .error rfl

theorem Corresponds.bind {run : Run K α} {run' : Run K β} {next : α → Run K γ}
    {next' : β → Run K δ} (h : Corresponds R run run')
    (hnext : ∀ a b, R a b → Corresponds S (next a) (next' b)) :
    Corresponds S (run >>= next) (run' >>= next') := by
  unfold Corresponds
  rw [outcome_bind, outcome_bind]
  exact PartialLeastSquares.Corresponds.bind h hnext

theorem corresponds_ok_bind {a : α} {b : β} {next : α → Run K γ} {next' : β → Run K δ}
    (h : Corresponds S (next a) (next' b)) :
    Corresponds S (Run.ok a >>= next) (Run.ok b >>= next') := by
  unfold Corresponds
  rw [outcome_ok_bind, outcome_ok_bind]
  exact h

theorem corresponds_fail_bind {e e' : ModelError K} {next : α → Run K γ} {next' : β → Run K δ}
    (h : e.kind = e'.kind) : Corresponds S (fail e >>= next) (fail e' >>= next') :=
  .error h

theorem corresponds_record_bind {events events' : List (Event K)} {next : Unit → Run K α}
    {next' : Unit → Run K β} (h : Corresponds R (next ()) (next' ())) :
    Corresponds R (record events >>= next) (record events' >>= next') := by
  unfold Corresponds
  rw [outcome_record_bind, outcome_record_bind]
  exact h

theorem corresponds_bind_self {run : Run K α} {next : α → Run K γ} {next' : α → Run K δ}
    (h : ∀ a, run.outcome = .ok a → Corresponds S (next a) (next' a)) :
    Corresponds S (run >>= next) (run >>= next') := by
  refine (corresponds_self run).bind ?_
  rintro a _ ⟨rfl, ha⟩
  exact h _ ha

theorem corresponds_numerical {x : Except (NumericalError K) α} {y : Except (NumericalError K) β}
    {E : NumericalError K → NumericalError K → Prop} (h : PartialLeastSquares.Corresponds E R x y) :
    Corresponds R (numerical x) (numerical y) := by
  cases h with
  | ok h => exact .ok h
  | error h => exact .error rfl

end Run

end PartialLeastSquares
