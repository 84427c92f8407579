/-
# Longer and shorter extractions

Two extractions from the same data differ in nothing but how far they go: no step is told how many
there will be.  The components of the shorter one are the first of the longer one
(`components_extract_of_le`), and where one fails, every longer one fails in the same way
(`stopsAt_extract_of_lt`).

Both are inductions on the count, which is the recursion of the loop.  What a step does is nowhere
looked at, so the two laws hold of every method.
-/
import Mathlib
import PartialLeastSquares.Method.Extraction

namespace PartialLeastSquares

variable {Component State Error : Type}

/-- **Where an extraction stops:** it has found that many components, and the next one fails. -/
structure Extraction.StopsAt (found : Extraction Component State Error) (c : ℕ) (e : Error) :
    Prop where
  components : found.components.length = c
  ending : found.ending = .error e

section Extract

variable {step : Nat → State → Except Error (Component × State)}

/-- **The components of a shorter extraction are the first of a longer one,** whether or not the
longer one ends well. -/
theorem components_extract_of_le : ∀ {count count' : ℕ} (_ : count ≤ count') (j : ℕ) (s : State),
    (extract step count j s).components = (extract step count' j s).components.take count := by
  intro count
  induction count with
  | zero => exact fun _ _ _ => List.take_zero.symm
  | succ count ih =>
    intro count' hle j s
    obtain ⟨count', rfl⟩ := Nat.exists_eq_succ_of_ne_zero (Nat.ne_zero_of_lt hle)
    cases hs : step j s with
    | error e => rw [extract_succ_error hs, extract_succ_error hs, List.take_nil]
    | ok r =>
      obtain ⟨c, s'⟩ := r
      rw [extract_succ_ok hs, extract_succ_ok hs, List.take_succ_cons,
        ih (Nat.succ_le_succ_iff.mp hle)]

/-- **An extraction that stops is the same for every count beyond the component that fails.** -/
theorem stopsAt_extract_of_lt : ∀ {count count' c j : ℕ} {s : State} {e : Error},
    (extract step count j s).StopsAt c e → c < count' →
      (extract step count' j s).StopsAt c e := by
  intro count
  induction count with
  | zero => exact fun h _ => nomatch h.ending
  | succ count ih =>
    intro count' c j s e h hlt
    obtain ⟨count', rfl⟩ := Nat.exists_eq_succ_of_ne_zero (Nat.ne_zero_of_lt hlt)
    cases hs : step j s with
    | error e' =>
      rw [extract_succ_error hs] at h ⊢
      exact h
    | ok r =>
      obtain ⟨first, s'⟩ := r
      rw [extract_succ_ok hs] at h ⊢
      obtain ⟨hlen, hend⟩ := h
      obtain rfl : (extract step count (j + 1) s').components.length + 1 = c := hlen
      have hrest := ih ⟨rfl, hend⟩ (Nat.succ_lt_succ_iff.mp hlt)
      exact ⟨congrArg (· + 1) hrest.components, hrest.ending⟩

end Extract

end PartialLeastSquares
