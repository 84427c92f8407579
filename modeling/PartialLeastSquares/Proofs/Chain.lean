/-
# Chains of components

An extraction that ends well is a chain: each component stands between what was left before it
and what it leaves.  `Chain` is that relation, for any account `R` of what one step does, and
`chain_of_extract` reads it off the loop.  From then on a property of all components is an
induction over the chain, and no proof looks at the loop again.

The loop goes forward from its first component.  Where the last component matters instead,
`ending_extract_succ_iff` cuts it off at the end.
-/
import Mathlib
import PartialLeastSquares.Method.Extraction

namespace PartialLeastSquares

variable {Component State Error : Type}

/-! ## 1. Chains -/

/-- **A chain:** the components lead from the first state to the last, one step each. -/
inductive Chain (R : State → Component → State → Prop) : State → List Component → State → Prop
  | nil (s : State) : Chain R s [] s
  | cons {s s' s'' : State} {c : Component} {cs : List Component} (first : R s c s')
      (rest : Chain R s' cs s'') : Chain R s (c :: cs) s''

/-- A chain of steps of one account is a chain of another that they also meet. -/
theorem Chain.imp {R R' : State → Component → State → Prop} {s t : State} {cs : List Component}
    (h : Chain R s cs t) (himp : ∀ s c s', c ∈ cs → R s c s' → R' s c s') : Chain R' s cs t := by
  induction h with
  | nil s => exact .nil s
  | cons first _ ih =>
    exact .cons (himp _ _ _ List.mem_cons_self first)
      (ih fun s c s' hc => himp s c s' (List.mem_cons_of_mem _ hc))

/-- **What every step gives of its component,** while it keeps an invariant of the states, holds of
all components of a chain. -/
theorem Chain.forall_mem {R : State → Component → State → Prop} {s t : State} {cs : List Component}
    {I : State → Prop} {P : Component → Prop} (h : Chain R s cs t) (hs : I s)
    (hstep : ∀ s c s', I s → R s c s' → P c ∧ I s') : ∀ c ∈ cs, P c := by
  induction h with
  | nil => exact fun c hc => absurd hc List.not_mem_nil
  | cons first _ ih =>
    obtain ⟨hfirst, hs'⟩ := hstep _ _ _ hs first
    intro c hc
    rcases List.mem_cons.mp hc with rfl | hc
    · exact hfirst
    · exact ih hs' c hc

theorem Chain.exists_first {R : State → Component → State → Prop} {s t : State}
    {cs : List Component} (h : Chain R s cs t) (hcs : cs.length ≠ 0) : ∃ c s', R s c s' := by
  cases h with
  | nil => exact absurd rfl hcs
  | cons first _ => exact ⟨_, _, first⟩

/-- **A chain is no longer than its measure,** if every step makes that smaller. -/
theorem Chain.add_length_le {R : State → Component → State → Prop} {s t : State}
    {cs : List Component} (h : Chain R s cs t) {μ : State → ℕ}
    (hstep : ∀ s c s', R s c s' → μ s' < μ s) : μ t + cs.length ≤ μ s := by
  induction h with
  | nil s => exact le_rfl
  | cons first _ ih =>
    have hlt := hstep _ _ _ first
    rw [List.length_cons]
    omega

section Extract

variable {step : Nat → State → Except Error (Component × State)}

/-- **An extraction that ends well is a chain.** -/
theorem chain_of_extract {R : State → Component → State → Prop}
    (hstep : ∀ j s c s', step j s = .ok (c, s') → R s c s') :
    ∀ {count j : Nat} {s t : State}, (extract step count j s).ending = .ok t →
      Chain R s (extract step count j s).components t := by
  intro count
  induction count with
  | zero =>
    intro j s t h
    cases h
    exact .nil s
  | succ count ih =>
    intro j s t h
    cases hs : step j s with
    | error e => rw [extract_succ_error hs] at h; cases h
    | ok r =>
      obtain ⟨c, s'⟩ := r
      rw [extract_succ_ok hs] at h ⊢
      exact .cons (hstep j s c s' hs) (ih h)

theorem length_components_extract : ∀ {count j : Nat} {s t : State},
    (extract step count j s).ending = .ok t →
      (extract step count j s).components.length = count := by
  intro count
  induction count with
  | zero => intro j s t _; rfl
  | succ count ih =>
    intro j s t h
    cases hs : step j s with
    | error e => rw [extract_succ_error hs] at h; cases h
    | ok r =>
      obtain ⟨c, s'⟩ := r
      rw [extract_succ_ok hs] at h ⊢
      exact congrArg (· + 1) (ih h)

/-- **The last component of an extraction** comes from one step after a shorter extraction. -/
theorem ending_extract_succ_iff : ∀ {count j : Nat} {s t : State},
    (extract step (count + 1) j s).ending = .ok t ↔
      ∃ c s', (extract step count j s).ending = .ok s' ∧ step (j + count) s' = .ok (c, t) := by
  intro count
  induction count with
  | zero =>
    intro j s t
    cases hs : step j s with
    | error e =>
      rw [extract_succ_error hs]
      simp [extract_zero, hs]
    | ok r =>
      obtain ⟨c, s'⟩ := r
      rw [extract_succ_ok hs]
      simp [extract_zero, hs]
  | succ count ih =>
    intro j s t
    cases hs : step j s with
    | error e => simp [extract_succ_error hs]
    | ok r =>
      obtain ⟨c, s'⟩ := r
      rw [extract_succ_ok hs, extract_succ_ok hs, ih, Nat.add_right_comm, Nat.add_assoc]

/-- **The states of an extraction that ends well:** each component is a step from one to the next.
-/
theorem exists_states_of_extract : ∀ {count j : Nat} {s t : State},
    (extract step count j s).ending = .ok t → ∃ states : ℕ → State, states 0 = s ∧
      states count = t ∧ ∀ i c, (extract step count j s).components[i]? = some c →
        step (j + i) (states i) = .ok (c, states (i + 1)) := by
  intro count
  induction count with
  | zero =>
    intro j s t h
    cases h
    exact ⟨fun _ => s, rfl, rfl, fun i c hc => nomatch hc⟩
  | succ count ih =>
    intro j s t h
    cases hs : step j s with
    | error e => rw [extract_succ_error hs] at h; cases h
    | ok r =>
      obtain ⟨first, s'⟩ := r
      rw [extract_succ_ok hs] at h ⊢
      obtain ⟨states, hzero, hcount, hsteps⟩ := ih h
      -- The first state goes before all others.
      refine ⟨fun i => i.casesOn s states, rfl, hcount, fun i c hc => ?_⟩
      cases i with
      | zero =>
        obtain rfl := Option.some.inj hc
        show step (j + 0) s = .ok (first, states 0)
        rw [hzero, Nat.add_zero, hs]
      | succ i =>
        rw [← Nat.add_assoc, Nat.add_right_comm]
        exact hsteps i c hc

/-- **An extraction that fails, fails at some step.** -/
theorem exists_step_of_extract_error : ∀ {count j : Nat} {s : State} {e : Error},
    (extract step count j s).ending = .error e → ∃ i s', step i s' = .error e := by
  intro count
  induction count with
  | zero => exact fun h => nomatch h
  | succ count ih =>
    intro j s e h
    cases hs : step j s with
    | error e' =>
      rw [extract_succ_error hs] at h
      obtain rfl := Except.error.inj h
      exact ⟨j, s, hs⟩
    | ok r =>
      obtain ⟨first, s'⟩ := r
      rw [extract_succ_ok hs] at h
      exact ih h

end Extract

end PartialLeastSquares
