/-
# Outcomes

How the outcome of a piece of work in several steps is taken apart: a result that has been
reached has passed through a result of every step.
-/
import PartialLeastSquares.Model.Event

namespace PartialLeastSquares

/-- **A result of two steps is a result of the second on a result of the first.** -/
theorem bind_eq_ok_iff {ε α β : Type} {x : Except ε α} {f : α → Except ε β} {b : β} :
    x >>= f = .ok b ↔ ∃ a, x = .ok a ∧ f a = .ok b := by
  cases x with
  | error e => exact ⟨fun h => (nomatch h), fun ⟨_, h, _⟩ => (nomatch h)⟩
  | ok a => exact ⟨fun h => ⟨a, rfl, h⟩, fun ⟨_, h, h'⟩ => Except.ok.inj h ▸ h'⟩

/-- **A failure of two steps is a failure of the first, or of the second on a result of it.** -/
theorem bind_eq_error_iff {ε α β : Type} {x : Except ε α} {f : α → Except ε β} {e : ε} :
    x >>= f = .error e ↔ x = .error e ∨ ∃ a, x = .ok a ∧ f a = .error e := by
  cases x with
  | error e' =>
    exact ⟨fun h => .inl (congrArg _ (Except.error.inj h)),
      fun h => h.elim (fun h => congrArg _ (Except.error.inj h)) fun ⟨_, h, _⟩ => (nomatch h)⟩
  | ok a =>
    exact ⟨fun h => .inr ⟨a, rfl, h⟩,
      fun h => h.elim (fun h => (nomatch h)) fun ⟨_, h, h'⟩ => Except.ok.inj h ▸ h'⟩

namespace Run

variable {K α β : Type}

theorem ok_bind (a : α) (next : α → Run K β) : (ok a >>= next) = next a := rfl

theorem record_bind (events : List (Event K)) (next : Unit → Run K β) :
    (record events >>= next) = ⟨events ++ (next ()).events, (next ()).outcome⟩ := rfl

theorem silent_ok_bind (a : α) (next : α → Run K β) : (silent (.ok a) >>= next) = next a := rfl

theorem outcome_bind (run : Run K α) (next : α → Run K β) :
    (run >>= next).outcome = run.outcome >>= fun a => (next a).outcome :=
  outcome_andThen run next

@[simp] theorem outcome_pure (a : α) : (pure a : Run K α).outcome = .ok a := rfl

@[simp] theorem outcome_silent (outcome : Except (ModelError K) α) :
    (silent outcome).outcome = outcome := rfl

@[simp] theorem outcome_record_bind (events : List (Event K)) (next : Unit → Run K β) :
    (record events >>= next).outcome = (next ()).outcome := by
  rw [outcome_bind]; rfl

@[simp] theorem outcome_ok_bind (a : α) (next : α → Run K β) :
    (ok a >>= next).outcome = (next a).outcome := by
  rw [outcome_bind]; rfl

theorem outcome_silent_ok_bind (a : α) (next : α → Run K β) :
    (silent (.ok a) >>= next).outcome = (next a).outcome :=
  outcome_ok_bind a next

/-- **A run of two steps has a result if and only if both steps have one.** -/
theorem outcome_bind_eq_ok_iff {run : Run K α} {next : α → Run K β} {b : β} :
    (run >>= next).outcome = .ok b ↔ ∃ a, run.outcome = .ok a ∧ (next a).outcome = .ok b := by
  rw [outcome_bind, bind_eq_ok_iff]

/-- **A run of two steps fails** if the first fails, or the second on a result of it. -/
theorem outcome_bind_eq_error_iff {run : Run K α} {next : α → Run K β} {e : ModelError K} :
    (run >>= next).outcome = .error e ↔
      run.outcome = .error e ∨ ∃ a, run.outcome = .ok a ∧ (next a).outcome = .error e := by
  rw [outcome_bind, bind_eq_error_iff]

end Run

end PartialLeastSquares
