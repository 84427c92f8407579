/-
# How a configuration is refused

`ModelConfig.validate` checks a configuration level by level, from the outside in: the settings of
a level, then that only a filter is followed by anything, then what follows.  A check that finds
something says what it has found, in a `ValidationError`, a refusal of class `validation`.  Two
checks do not get that far on some values, because they make use of a value before they have
looked at what kind it is:

* a tolerance is compared with zero, which cannot be done with a text, a list, a table or null;
* what follows a filter is asked to check itself, which only a configuration can.

There are no others (`Config.fails_validate_iff`).  Every other configuration is accepted if each
of its levels is and only filters are followed (`Config.validate_eq_ok_iff`), or else refused.
-/
import Mathlib
import PartialLeastSquares.Proofs.Acceptance
import PartialLeastSquares.Proofs.ConfigRoundTrip

namespace PartialLeastSquares

open Value (find?)
open ModelSettings (fieldNames)

/-! ## 1. Checks -/

/-- A requirement, and what is said if it is not met. -/
def require (met : Bool) (refusal : ConfigError) : Except ConfigError Unit :=
  if met then .ok () else .error refusal

/-- What is required of a tolerance, which is compared before its kind is looked at. -/
def requireTolerance (v : Value) : Except ConfigError Unit :=
  match v.number? with
  | none => .error .wrongKind
  | some bound => require (bound.above 0) (.tol v)

/-- **A check fails with an error of a class.** -/
def Fails {α : Type} (k : FailureKind) (check : Except ConfigError α) : Prop :=
  ∃ e, check = .error e ∧ e.kind = k

/-- **A check accepts or refuses,** and does nothing else. -/
def Decides (check : Except ConfigError Unit) : Prop :=
  ∀ e, check = .error e → e.kind = .validation

section Checks

variable {α : Type} {k : FailureKind} {check : Except ConfigError Unit}
  {next : Unit → Except ConfigError α}

theorem require_bind (met : Bool) (refusal : ConfigError) (next : Unit → Except ConfigError α) :
    (require met refusal >>= next) = if !met then .error refusal else next () := by
  cases met <;> rfl

theorem requireTolerance_bind (v : Value) (next : Unit → Except ConfigError α) :
    (requireTolerance v >>= next) =
      match v.number? with
      | none => .error .wrongKind
      | some bound => if !bound.above 0 then .error (.tol v) else next () := by
  unfold requireTolerance
  cases v.number? with
  | none => rfl
  | some bound => exact require_bind _ _ _

theorem require_eq_ok_iff {met : Bool} {refusal : ConfigError} :
    require met refusal = .ok () ↔ met = true := by
  cases met <;> simp [require]

theorem decides_require {met : Bool} {refusal : ConfigError} (h : refusal.kind = .validation) :
    Decides (require met refusal) := by
  intro e he
  cases met with
  | false =>
    obtain rfl := Except.error.inj he
    exact h
  | true => cases he

theorem decides_checkInteger {v : Value} {read : Value → Option Int} {least : Int}
    {refusal : ConfigError} (h : refusal.kind = .validation) :
    Decides (ModelSettings.checkInteger v read least refusal) := by
  intro e he
  unfold ModelSettings.checkInteger at he
  split at he
  · obtain rfl := Except.error.inj he
    exact h
  · split at he
    · obtain rfl := Except.error.inj he
      exact h
    · cases he

theorem Decides.not_fails (h : Decides check) (hk : k ≠ .validation) : ¬ Fails k check := by
  rintro ⟨e, he, rfl⟩
  exact hk (h e he)

/-- **Two checks accept** if both do. -/
theorem bind_eq_ok_iff_of_unit {a : α} :
    (check >>= next) = .ok a ↔ check = .ok () ∧ next () = .ok a :=
  bind_eq_ok_iff.trans ⟨fun ⟨⟨⟩, h⟩ => h, fun h => ⟨(), h⟩⟩

/-- **Two checks fail** if the first does, or accepts and the second does. -/
theorem fails_bind_iff :
    Fails k (check >>= next) ↔ Fails k check ∨ check = .ok () ∧ Fails k (next ()) := by
  constructor
  · rintro ⟨e, he, hkind⟩
    rcases bind_eq_error_iff.mp he with he | ⟨⟨⟩, hok, he⟩
    · exact .inl ⟨e, he, hkind⟩
    · exact .inr ⟨hok, e, he, hkind⟩
  · rintro (⟨e, he, hkind⟩ | ⟨hok, e, he, hkind⟩)
    · exact ⟨e, bind_eq_error_iff.mpr (.inl he), hkind⟩
    · exact ⟨e, bind_eq_error_iff.mpr (.inr ⟨(), hok, he⟩), hkind⟩

/-- After a check that accepts or refuses, what fails otherwise is the rest. -/
theorem Decides.fails_bind_iff (h : Decides check) (hk : k ≠ .validation) :
    Fails k (check >>= next) ↔ check = .ok () ∧ Fails k (next ()) :=
  PartialLeastSquares.fails_bind_iff.trans (or_iff_right (h.not_fails hk))

/-- **A tolerance is not decided on** if it is no number. -/
theorem fails_requireTolerance_iff {v : Value} (hk : k ≠ .validation) :
    Fails k (requireTolerance v) ↔ k = .wrongKind ∧ v.number? = none := by
  unfold requireTolerance
  cases v.number? with
  | none => exact ⟨fun ⟨e, he, hkind⟩ => ⟨hkind ▸ Except.error.inj he ▸ rfl, rfl⟩,
      fun ⟨hkind, _⟩ => ⟨_, rfl, hkind.symm⟩⟩
  | some bound =>
    exact iff_of_false ((decides_require rfl).not_fails hk) fun h => nomatch h.2

end Checks

/-! ## 2. The settings of one level -/

namespace ModelSettings

variable {s : ModelSettings} {k : FailureKind}

/-- **The settings of one level are checked one after the other.** -/
theorem validate_eq (s : ModelSettings) : s.validate = (do
    require (s.algorithm.isOneOf methodNames) (.algorithm s.algorithm)
    checkInteger s.nComponents Value.strictInteger? 1 (.nComponents s.nComponents)
    require (!(Scheme.ofValue? s.preprocessing).isNone) (.preprocessing s.preprocessing)
    require (Kernel.names.contains (Text.lowered s.kernel.plain)) (.kernel s.kernel)
    requireTolerance s.tol
    checkInteger s.maxIter Value.integer? 1 (.maxIter s.maxIter)
    checkInteger s.seed Value.strictInteger? 0 (.seed s.seed)
    checkInteger s.numCoefficients Value.integer? 0 (.numCoefficients s.numCoefficients)) := by
  simp only [require_bind, requireTolerance_bind, Bool.not_not]
  rfl

/-- **What is accepted passes all checks,** and nothing else does. -/
theorem validate_eq_ok_iff : s.validate = .ok () ↔ s.Accepted := by
  refine ⟨accepted_of_validate, fun h => ?_⟩
  obtain ⟨scheme, hscheme⟩ := h.preprocessing
  obtain ⟨bound, hbound, habove⟩ := h.tol
  have htol : requireTolerance s.tol = .ok () := by
    rw [requireTolerance, hbound]
    exact require_eq_ok_iff.mpr habove
  rw [validate_eq, require_eq_ok_iff.mpr h.algorithm, checkInteger_eq_ok_iff.mpr h.nComponents,
    require_eq_ok_iff.mpr (by rw [hscheme]; rfl), require_eq_ok_iff.mpr h.kernel, htol,
    checkInteger_eq_ok_iff.mpr h.maxIter, checkInteger_eq_ok_iff.mpr h.seed,
    checkInteger_eq_ok_iff.mpr h.numCoefficients]
  rfl

/-- **The tolerance is no number,** and none of the settings before it is refused. -/
structure Untyped (s : ModelSettings) : Prop where
  algorithm : s.algorithm.isOneOf methodNames = true
  nComponents : ∃ n, s.nComponents.strictInteger? = some n ∧ 1 ≤ n
  preprocessing : ∃ scheme, Scheme.ofValue? s.preprocessing = some scheme
  kernel : Kernel.names.contains (Text.lowered s.kernel.plain) = true
  tol : s.tol.number? = none

/-- **The settings of one level are refused,** unless their tolerance is no number. -/
theorem fails_validate_iff (hk : k ≠ .validation) :
    Fails k s.validate ↔ k = .wrongKind ∧ s.Untyped := by
  -- What is checked after the tolerance accepts or refuses.
  have hrest : ¬ Fails k (do
      checkInteger s.maxIter Value.integer? 1 (.maxIter s.maxIter)
      checkInteger s.seed Value.strictInteger? 0 (.seed s.seed)
      checkInteger s.numCoefficients Value.integer? 0 (.numCoefficients s.numCoefficients)) := by
    rw [(decides_checkInteger rfl).fails_bind_iff hk, (decides_checkInteger rfl).fails_bind_iff hk]
    exact fun h => (decides_checkInteger rfl).not_fails hk h.2.2
  have hscheme : (!(Scheme.ofValue? s.preprocessing).isNone) = true ↔
      ∃ scheme, Scheme.ofValue? s.preprocessing = some scheme := by
    cases Scheme.ofValue? s.preprocessing <;> simp
  rw [validate_eq, (decides_require rfl).fails_bind_iff hk,
    (decides_checkInteger rfl).fails_bind_iff hk, (decides_require rfl).fails_bind_iff hk,
    (decides_require rfl).fails_bind_iff hk, fails_bind_iff, fails_requireTolerance_iff hk,
    require_eq_ok_iff, require_eq_ok_iff, require_eq_ok_iff, checkInteger_eq_ok_iff, hscheme]
  constructor
  · rintro ⟨halgorithm, hcount, hpreprocessing, hkernel, ⟨hkind, htol⟩ | ⟨-, hlater⟩⟩
    · exact ⟨hkind, halgorithm, hcount, hpreprocessing, hkernel, htol⟩
    · exact absurd hlater hrest
  · rintro ⟨hkind, h⟩
    exact ⟨h.algorithm, h.nComponents, h.preprocessing, h.kernel, .inl ⟨hkind, h.tol⟩⟩

theorem isFilter_iff : s.isFilter = true ↔ s.algorithm = .text "opls" := by
  unfold isFilter Value.isOneOf
  cases s.algorithm <;> simp

end ModelSettings

/-! ## 3. Chains of levels -/

namespace Config

/-- **A configuration is valid:** each of its levels is, and only filters are followed, by
configurations. -/
def Valid : Config → Prop
  | single s => s.Accepted
  | followed s base => s.Accepted ∧ s.algorithm = .text "opls" ∧ base.Valid
  | stray _ _ => False

/-- **A configuration slips through its checks** with an error of a class: at some level, and at
none further out, a tolerance is no number, or a value that is no configuration follows a filter.
-/
def Slips (k : FailureKind) : Config → Prop
  | single s => k = .wrongKind ∧ s.Untyped
  | followed s base =>
    k = .wrongKind ∧ s.Untyped ∨ s.Accepted ∧ s.algorithm = .text "opls" ∧ base.Slips k
  | stray s _ =>
    k = .wrongKind ∧ s.Untyped ∨ s.Accepted ∧ s.algorithm = .text "opls" ∧ k = .missingProperty

theorem validate_followed (s : ModelSettings) (base : Config) :
    (followed s base).validate = (do s.validate; require s.isFilter .baseUnused; base.validate) := by
  simp only [require_bind]
  rfl

theorem validate_stray (s : ModelSettings) (base : Value) :
    (stray s base).validate = (do s.validate; require s.isFilter .baseUnused; .error .noConfig) := by
  simp only [require_bind]
  rfl

variable {k : FailureKind}

/-- **A configuration is accepted if it is valid,** and only then. -/
theorem validate_eq_ok_iff (c : Config) : c.validate = .ok () ↔ c.Valid := by
  induction c with
  | single s => exact ModelSettings.validate_eq_ok_iff
  | followed s base ih =>
    rw [validate_followed, bind_eq_ok_iff_of_unit, bind_eq_ok_iff_of_unit, ih,
      ModelSettings.validate_eq_ok_iff, require_eq_ok_iff, ModelSettings.isFilter_iff]
    rfl
  | stray s base =>
    rw [validate_stray, bind_eq_ok_iff_of_unit, bind_eq_ok_iff_of_unit]
    exact iff_of_false (fun h => nomatch h.2.2) id

/-- **A configuration is accepted or refused, or slips through.** -/
theorem fails_validate_iff (c : Config) (hk : k ≠ .validation) :
    Fails k c.validate ↔ c.Slips k := by
  induction c with
  | single s => exact ModelSettings.fails_validate_iff hk
  | followed s base ih =>
    rw [validate_followed, fails_bind_iff, (decides_require rfl).fails_bind_iff hk, ih,
      ModelSettings.fails_validate_iff hk, ModelSettings.validate_eq_ok_iff, require_eq_ok_iff,
      ModelSettings.isFilter_iff]
    rfl
  | stray s base =>
    have hstray : Fails k (.error .noConfig : Except ConfigError Unit) ↔ k = .missingProperty :=
      ⟨fun ⟨_, he, hkind⟩ => hkind ▸ Except.error.inj he ▸ rfl, fun h => ⟨_, rfl, h.symm⟩⟩
    rw [validate_stray, fails_bind_iff, (decides_require rfl).fails_bind_iff hk, hstray,
      ModelSettings.fails_validate_iff hk, ModelSettings.validate_eq_ok_iff, require_eq_ok_iff,
      ModelSettings.isFilter_iff]
    rfl

/-! ## 4. Tables of known settings -/

/-- **A table all of whose keys are known,** and so are those of the tables along its chain; at
the end of the chain there may be any value. -/
inductive Known : List (Value × Value) → Prop
  | last {d : List (Value × Value)} (keys : ∀ e ∈ d, ∃ name ∈ fieldNames, e.1 = .text name)
      (base : ∀ inner, find? d "base" ≠ some (.table inner)) : Known d
  | followed {d inner : List (Value × Value)}
      (keys : ∀ e ∈ d, ∃ name ∈ fieldNames, e.1 = .text name)
      (base : find? d "base" = some (.table inner)) (follows : Known inner) : Known d

/-- **What is read from a table:** a level for every table along its chain, and at its end
nothing, or a value that is kept. -/
inductive Reads : List (Value × Value) → Config → Prop
  | single {d : List (Value × Value)}
      (base : find? d "base" = none ∨ find? d "base" = some .null) :
      Reads d (.single (ModelSettings.ofEntries d))
  | followed {d inner : List (Value × Value)} {c : Config}
      (base : find? d "base" = some (.table inner)) (follows : Reads inner c) :
      Reads d (.followed (ModelSettings.ofEntries d) c)
  | stray {d : List (Value × Value)} {v : Value} (base : find? d "base" = some v)
      (null : v ≠ .null) (table : ∀ inner, v ≠ .table inner) :
      Reads d (.stray (ModelSettings.ofEntries d) v)

theorem ofEntries_stray {d : List (Value × Value)} {v : Value} {fuel : ℕ}
    (h : unknownKeys d = .ok []) (base : find? d "base" = some v) (null : v ≠ .null)
    (table : ∀ inner, v ≠ .table inner) :
    ofEntries (fuel + 1) d = .ok (.stray (ModelSettings.ofEntries d) v) := by
  rw [ofEntries, h]
  dsimp only
  rw [base]
  cases v with
  | null => exact absurd rfl null
  | table inner => exact absurd rfl (table inner)
  | _ => rfl

/-- **A table of known settings is read.**  The induction is on the chain; the bound on the depth
is for what follows one less. -/
theorem exists_reads {d : List (Value × Value)} (h : Known d) :
    ∀ fuel, depthOfEntries d < fuel → ∃ c, ofEntries fuel d = .ok c ∧ Reads d c := by
  induction h with
  | @last d keys base =>
    intro fuel hfuel
    obtain ⟨fuel, rfl⟩ := Nat.exists_eq_succ_of_ne_zero (Nat.ne_zero_of_lt hfuel)
    have hkeys := unknownKeys_of_known keys
    cases hbase : find? d "base" with
    | none => exact ⟨_, ofEntries_single hkeys (.inl hbase), .single (.inl hbase)⟩
    | some v =>
      by_cases hnull : v = .null
      · have hbase' : find? d "base" = some .null := hnull ▸ hbase
        exact ⟨_, ofEntries_single hkeys (.inr hbase'), .single (.inr hbase')⟩
      · have htable : ∀ inner, v ≠ .table inner := fun inner hv => base inner (hv ▸ hbase)
        exact ⟨_, ofEntries_stray hkeys hbase hnull htable, .stray hbase hnull htable⟩
  | @followed d inner keys base _ ih =>
    intro fuel hfuel
    obtain ⟨fuel, rfl⟩ := Nat.exists_eq_succ_of_ne_zero (Nat.ne_zero_of_lt hfuel)
    have hless := depthOfEntries_lt base
    obtain ⟨c, hc, hreads⟩ := ih fuel (by omega)
    exact ⟨_, ofEntries_followed (unknownKeys_of_known keys) base hc, .followed base hreads⟩

/-- **A table of known settings is read, and its configuration accepted or refused,** except that
it slips through where a tolerance is no number, or what follows a filter no configuration.  It is
accepted if every level is valid and only filters are followed. -/
theorem validate_known {d : List (Value × Value)} (h : Known d) :
    ∃ c, ofValue (.table d) = .ok c ∧ Reads d c ∧ (c.validate = .ok () ↔ c.Valid) ∧
      ∀ k, k ≠ .validation → ((∃ e, c.validate = .error e ∧ e.kind = k) ↔ c.Slips k) := by
  obtain ⟨c, hc, hreads⟩ := exists_reads h _ (Nat.lt_succ_self _)
  exact ⟨c, hc, hreads, c.validate_eq_ok_iff, fun _ => c.fails_validate_iff⟩

namespace Slipping

/-- A table with a tolerance that is a text. -/
def spelled : List (Value × Value) := [(.text "tol", .text "1e-8")]

/-- A table of a filter that is followed by a number. -/
def filtered : List (Value × Value) :=
  [(.text "algorithm", .text "opls"), (.text "tol", .int 1), (.text "base", .int 3)]

theorem known_spelled : Known spelled := by
  refine .last (fun e he => ⟨"tol", by decide, ?_⟩) fun inner h => by cases h
  rw [List.mem_singleton.mp he]

theorem known_filtered : Known filtered := by
  refine .last (fun e he => ?_) fun inner h => by cases h
  simp only [filtered, List.mem_cons, List.not_mem_nil, or_false] at he
  rcases he with rfl | rfl | rfl
  · exact ⟨"algorithm", by decide, rfl⟩
  · exact ⟨"tol", by decide, rfl⟩
  · exact ⟨"base", by decide, rfl⟩

/-- The settings of the first table have nothing to refuse before the tolerance. -/
theorem untyped_spelled : ({ tol := .text "1e-8" } : ModelSettings).Untyped where
  algorithm := by decide
  nComponents := ⟨5, rfl, by decide⟩
  preprocessing := ⟨.center, by cbv⟩
  kernel := by cbv
  tol := rfl

/-- The settings of the second table have nothing to refuse at all. -/
theorem accepted_filtered :
    ({ algorithm := .text "opls", tol := .int 1 } : ModelSettings).Accepted where
  algorithm := by decide
  nComponents := ⟨5, rfl, by decide⟩
  preprocessing := ⟨.center, by cbv⟩
  kernel := by cbv
  tol := ⟨.whole 1, rfl, by decide⟩
  maxIter := ⟨500, rfl, by decide⟩
  seed := ⟨0, rfl, by decide⟩
  numCoefficients := ⟨0, rfl, by decide⟩

end Slipping

open Slipping in
theorem validate_known_slipping :
    (∃ c e, ofValue (.table spelled) = .ok c ∧ c.validate = .error e ∧ e.kind = .wrongKind) ∧
      ∃ c e, ofValue (.table filtered) = .ok c ∧ c.validate = .error e ∧
        e.kind = .missingProperty := by
  constructor
  · obtain ⟨c, hc, hreads, -, hslips⟩ := validate_known known_spelled
    obtain rfl : c = .single { tol := .text "1e-8" } := by
      cases hreads with
      | single _ => rfl
      | followed base _ => cases base
      | stray base _ _ => cases base
    obtain ⟨e, he, hkind⟩ := (hslips .wrongKind (by decide)).mpr ⟨rfl, untyped_spelled⟩
    exact ⟨_, e, hc, he, hkind⟩
  · obtain ⟨c, hc, hreads, -, hslips⟩ := validate_known known_filtered
    obtain rfl : c = .stray { algorithm := .text "opls", tol := .int 1 } (.int 3) := by
      cases hreads with
      | single base => rcases base with base | base <;> cases base
      | followed base _ => cases base
      | stray base _ _ =>
        cases base
        rfl
    obtain ⟨e, he, hkind⟩ :=
      (hslips .missingProperty (by decide)).mpr (.inr ⟨accepted_filtered, rfl, rfl⟩)
    exact ⟨_, e, hc, he, hkind⟩

end Config

end PartialLeastSquares
