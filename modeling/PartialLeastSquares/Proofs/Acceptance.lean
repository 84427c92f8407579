/-
# What an accepted configuration promises

Settings are looked at twice: by `ModelConfig.validate`, before `build_model` makes a model, and
by `_validate` and the `check` of the method at every fit.  The two are written apart from each
other, and this file compares them at every level of nested filters.

They differ on one value of one setting.  A configuration may give `max_iter` as the truth value
`true`, which counts as one; `KernelPLS.check` asks for an integer that is no truth value, and
refuses it (`ModelSettings.AsksTrue`).  Of all other settings that have been accepted a built
model refuses none:

* `Config.levels_of_assemble`: level by level, what a built model says of its settings;
* `Model.exists_level_of_refusal`: a fit that refuses a setting does so at one of the levels;
* `Config.refusals_of_build`: both, for a configuration and every fit of its model.
-/
import Mathlib
import PartialLeastSquares.Config
import PartialLeastSquares.Proofs.Model.Nesting

namespace PartialLeastSquares

/-! ## 1. What a configuration accepts -/

def Config.outermost : Config → ModelSettings
  | single s => s
  | followed s _ => s
  | stray s _ => s

/-- The settings of a configuration and of what follows, from the outside in. -/
def Config.levels : Config → List ModelSettings
  | single s => [s]
  | followed s base => s :: base.levels
  | stray s _ => [s]

namespace ModelSettings

/-- The number of passes of an iteration is given as the truth value that counts as one. -/
def AsksTrue (s : ModelSettings) : Prop :=
  s.algorithm = .text "kernel_pls" ∧ s.maxIter = .bool true

/-- **The parameters of the kernel are named after parameters that it has.**  Nothing is asked of
their values, nor of a method that has no kernel. -/
def NamesParameters (s : ModelSettings) : Prop :=
  s.algorithm = .text "kernel_pls" → ∃ parameters, s.parameters = .ok parameters ∧
    ∀ kernel, Kernel.default? s.kernel = some kernel →
      ∀ parameter ∈ parameters, parameter.1 ∈ kernel.parameters.map Prod.fst

/-- **What is accepted of the settings of one model,** test by test of `ModelConfig.validate`. -/
structure Accepted (s : ModelSettings) : Prop where
  algorithm : s.algorithm.isOneOf methodNames = true
  nComponents : ∃ n, s.nComponents.strictInteger? = some n ∧ 1 ≤ n
  preprocessing : ∃ scheme, Scheme.ofValue? s.preprocessing = some scheme
  kernel : Kernel.names.contains (Text.lowered s.kernel.plain) = true
  tol : ∃ bound, s.tol.number? = some bound ∧ bound.above 0 = true
  maxIter : ∃ n, s.maxIter.integer? = some n ∧ 1 ≤ n
  seed : ∃ n, s.seed.strictInteger? = some n ∧ 0 ≤ n
  numCoefficients : ∃ n, s.numCoefficients.integer? = some n ∧ 0 ≤ n

theorem checkInteger_eq_ok_iff {v : Value} {read : Value → Option Int} {least : Int}
    {refusal : ConfigError} :
    checkInteger v read least refusal = .ok () ↔ ∃ n, read v = some n ∧ least ≤ n := by
  unfold checkInteger
  cases h : read v with
  | none => simp
  | some n =>
    simp only [Option.some.injEq, exists_eq_left']
    by_cases hn : n < least
    · simp [hn]
    · simp [hn, Int.not_lt.mp hn]

theorem throw_bind {ε α β : Type} (e : ε) (next : α → Except ε β) :
    (throw e >>= next : Except ε β) = .error e := rfl

theorem accepted_of_validate {s : ModelSettings} (h : s.validate = .ok ()) : s.Accepted := by
  unfold validate at h
  simp only [throw_bind, Bool.not_eq_true', Option.isNone_iff_eq_none] at h
  split at h
  · cases h
  · rename_i halgorithm
    obtain ⟨⟨⟩, hcount, h⟩ := bind_eq_ok_iff.mp h
    split at h
    · cases h
    · rename_i hscheme
      split at h
      · cases h
      · rename_i hkernel
        split at h
        · cases h
        · rename_i bound htol
          split at h
          · cases h
          · rename_i hbound
            obtain ⟨⟨⟩, hmost, h⟩ := bind_eq_ok_iff.mp h
            obtain ⟨⟨⟩, hseed, h⟩ := bind_eq_ok_iff.mp h
            exact ⟨by simpa using halgorithm, checkInteger_eq_ok_iff.mp hcount,
              Option.ne_none_iff_exists'.mp hscheme, by simpa using hkernel,
              ⟨bound, htol, by simpa using hbound⟩, checkInteger_eq_ok_iff.mp hmost,
              checkInteger_eq_ok_iff.mp hseed, checkInteger_eq_ok_iff.mp h⟩

theorem algorithm_cases {s : ModelSettings} (h : s.algorithm.isOneOf methodNames = true) :
    s.algorithm = .text "pls1" ∨ s.algorithm = .text "simpls" ∨
      s.algorithm = .text "kernel_pls" ∨ s.algorithm = .text "opls" := by
  unfold Value.isOneOf at h
  split at h
  · rename_i name hname
    simpa [methodNames, hname] using h
  · cases h

end ModelSettings

/-! ## 2. What a built model says of its settings -/

namespace ModelSettings.Accepted

variable {s : ModelSettings} {K : Type}

/-- The components and the scheme that have been accepted are accepted again. -/
theorem exists_plan (h : s.Accepted) :
    ∃ plan, checkPlan s.nComponents s.preprocessing = .ok plan := by
  obtain ⟨n, hn, hleast⟩ := h.nComponents
  obtain ⟨scheme, hscheme⟩ := h.preprocessing
  unfold checkPlan
  simp [hn, hscheme, Int.not_lt.mpr hleast]

theorem exists_coefficients (h : s.Accepted) :
    ∃ number, checkCoefficients (K := K) s.numCoefficients = .ok number := by
  obtain ⟨n, hn, hleast⟩ := h.numCoefficients
  have hnumber : s.numCoefficients.number? = some (.whole n) := by
    unfold Value.integer? at hn
    split at hn <;> simp_all [Value.number?]
  unfold checkCoefficients
  simp [hnumber, Number.below, Int.not_lt.mpr hleast]

/-- An integer counts as one as a truth value, or is one. -/
theorem exists_strictInteger (h : s.Accepted) (hmost : s.maxIter ≠ .bool true) :
    ∃ most, s.maxIter.strictInteger? = some most ∧ 1 ≤ most := by
  obtain ⟨most, hinteger, hleast⟩ := h.maxIter
  cases hv : s.maxIter with
  | bool b =>
    cases b with
    | true => exact absurd hv hmost
    | false =>
      obtain rfl : 0 = most := by simpa [hv, Value.integer?] using hinteger
      omega
  | int n =>
    exact ⟨most, by simpa [hv, Value.integer?, Value.strictInteger?] using hinteger, hleast⟩
  | _ => simp [hv, Value.integer?] at hinteger

variable [Scalar K]

/-- **The settings of an iteration are accepted again,** unless its passes are counted by a truth
value. -/
theorem exists_iteration (h : s.Accepted) (hmost : s.maxIter ≠ .bool true) :
    ∃ settings : KernelPls.Settings K, checkIteration s.tol s.maxIter s.seed = .ok settings := by
  obtain ⟨bound, hbound, habove⟩ := h.tol
  obtain ⟨most, hstrict, hleast⟩ := h.exists_strictInteger hmost
  obtain ⟨first, hfirst, hseed⟩ := h.seed
  unfold checkIteration
  simp [hbound, habove, hstrict, hfirst, Int.not_lt.mpr hleast, Int.not_lt.mpr hseed]

theorem checkIteration_true (h : s.Accepted) (hmost : s.maxIter = .bool true) :
    (checkIteration s.tol s.maxIter s.seed : Except Invalid (KernelPls.Settings K)) =
      .error (.maxIter (.bool true)) := by
  obtain ⟨bound, hbound, habove⟩ := h.tol
  unfold checkIteration
  simp [hbound, habove, hmost, Value.strictInteger?]

end ModelSettings.Accepted

namespace Kernel

/-- A parameter can be changed if the kernel has it, and then it has the same parameters. -/
theorem exists_set?_eq_some {k : Kernel} {name : String}
    (h : name ∈ k.parameters.map Prod.fst) (v : Value) :
    ∃ k', k.set? name v = some k' ∧ k'.parameters.map Prod.fst = k.parameters.map Prod.fst := by
  cases k with
  | linear => cases h
  | poly degree gamma coef0 =>
    simp only [parameters, List.map_cons, List.map_nil, List.mem_cons, List.not_mem_nil,
      or_false] at h
    rcases h with rfl | rfl | rfl
    · exact ⟨poly degree gamma v, rfl, rfl⟩
    · exact ⟨poly v gamma coef0, rfl, rfl⟩
    · exact ⟨poly degree v coef0, rfl, rfl⟩
  | rbf gamma =>
    obtain rfl : name = "gamma" := by simpa [parameters] using h
    exact ⟨rbf v, rfl, rfl⟩

theorem exists_default?_eq_some {name : Value}
    (h : names.contains (Text.lowered name.plain) = true) : ∃ k, default? name = some k := by
  have hname : Text.lowered name.plain = "linear" ∨ Text.lowered name.plain = "poly" ∨
      Text.lowered name.plain = "rbf" := by
    simpa [names] using h
  unfold default?
  rcases hname with h | h | h <;> simp [h]

/-- **A kernel can be made** of a name and parameters that it has. -/
theorem exists_create_eq_ok {name : Value} {parameters : List (String × Value)}
    (h : names.contains (Text.lowered name.plain) = true)
    (hnamed : ∀ k, default? name = some k →
      ∀ parameter ∈ parameters, parameter.1 ∈ k.parameters.map Prod.fst) :
    ∃ k, create name parameters = .ok k := by
  obtain ⟨k, hk⟩ := exists_default?_eq_some h
  specialize hnamed k hk
  unfold create
  rw [hk]
  dsimp only
  clear hk
  induction parameters generalizing k with
  | nil => exact ⟨k, rfl⟩
  | cons parameter rest ih =>
    obtain ⟨k', hset, hsame⟩ := exists_set?_eq_some (hnamed parameter (by simp)) parameter.2
    rw [List.foldlM_cons, hset]
    exact ih k' fun other hother => hsame ▸ hnamed other (by simp [hother])

end Kernel

/-! ## 3. Levels -/

/-- **One level of a model:** a method with a number of components and a scheme. -/
structure Level where
  method : Estimator
  nComponents : Value
  preprocessing : Value

/-- What a model says of its settings, if there is one response: the checks of a fit without those
of the data. -/
def Level.check (K : Type) [Scalar K] (l : Level) : Except (ModelError K) Unit :=
  match checkPlan l.nComponents l.preprocessing with
  | .error why => .error (.invalid why)
  | .ok _ => checkMethod l.method.methodOr 1

/-- The levels of a model and of what follows its filters, from the outside in. -/
def Estimator.levels : Estimator → List Level
  | opls base => base.levels
  | model method nComponents preprocessing =>
    ⟨method, nComponents, preprocessing⟩ :: method.levels
  | _ => []

section Levels

variable {K : Type} [Scalar K]

/-- What a level says of settings that have been accepted: nothing, except for the truth value in
the place of a number. -/
def ModelSettings.Judged (K : Type) [Scalar K] (s : ModelSettings) (l : Level) : Prop :=
  (s.AsksTrue ∧ l.check K = .error (.invalid (.maxIter (.bool true)))) ∨
    (¬ s.AsksTrue ∧ l.check K = .ok ())

theorem Level.check_of_accepted {s : ModelSettings} (h : s.Accepted) (method : Estimator) :
    (⟨method, s.nComponents, s.preprocessing⟩ : Level).check K =
      checkMethod method.methodOr 1 := by
  obtain ⟨plan, hplan⟩ := h.exists_plan
  unfold Level.check
  simp only [hplan]

theorem ModelSettings.judged_of_ne {s : ModelSettings} (h : s.Accepted)
    (hname : s.algorithm ≠ .text "kernel_pls") {method : Estimator}
    (hcheck : checkMethod (K := K) method.methodOr 1 = .ok ()) :
    s.Judged K ⟨method, s.nComponents, s.preprocessing⟩ :=
  .inr ⟨fun htrue => hname htrue.1, (Level.check_of_accepted h method).trans hcheck⟩

/-- A level with an iteration accepts its settings unless the passes are a truth value. -/
theorem ModelSettings.judged_kernelPls {s : ModelSettings} (h : s.Accepted)
    (hname : s.algorithm = .text "kernel_pls") (kernel : Estimator) :
    s.Judged K ⟨.kernelPls kernel s.tol s.maxIter s.seed, s.nComponents, s.preprocessing⟩ := by
  unfold ModelSettings.Judged
  rw [Level.check_of_accepted h]
  simp only [Estimator.methodOr, checkMethod]
  by_cases hmost : s.maxIter = .bool true
  · rw [h.checkIteration_true hmost]
    exact .inl ⟨⟨hname, hmost⟩, rfl⟩
  · obtain ⟨settings, hsettings⟩ := h.exists_iteration (K := K) hmost
    rw [hsettings]
    exact .inr ⟨fun htrue => hmost htrue.2, rfl⟩

/-- **A method can be made of settings that have been accepted,** and this is what it says of them
and what follows it. -/
theorem ModelSettings.exists_method {s : ModelSettings} (h : s.Accepted)
    (hnamed : s.NamesParameters) {base : Estimator}
    (hbase : checkMethod (K := K) (.opls base) 1 = .ok ()) :
    ∃ method, s.method base = .ok method ∧
      s.Judged K ⟨method, s.nComponents, s.preprocessing⟩ ∧
      method.levels = if s.isFilter then base.levels else [] := by
  rcases ModelSettings.algorithm_cases h.algorithm with hname | hname | hname | hname
  · exact ⟨.pls1, by simp [ModelSettings.method, hname, Value.isOneOf],
      judged_of_ne h (by simp [hname]) rfl,
      by simp [ModelSettings.isFilter, hname, Value.isOneOf, Estimator.levels]⟩
  · obtain ⟨number, hnumber⟩ := h.exists_coefficients (K := K)
    have hcheck : checkMethod (K := K) (.simpls s.numCoefficients) 1 = .ok () := by
      simp only [checkMethod, hnumber]
      rfl
    exact ⟨.simpls s.numCoefficients, by simp [ModelSettings.method, hname, Value.isOneOf],
      judged_of_ne h (by simp [hname]) hcheck,
      by simp [ModelSettings.isFilter, hname, Value.isOneOf, Estimator.levels]⟩
  · obtain ⟨parameters, hparameters, hmem⟩ := hnamed hname
    obtain ⟨kernel, hkernel⟩ := Kernel.exists_create_eq_ok h.kernel hmem
    refine ⟨.kernelPls (.kernel kernel) s.tol s.maxIter s.seed, ?_, judged_kernelPls h hname _,
      by simp [ModelSettings.isFilter, hname, Value.isOneOf, Estimator.levels]⟩
    simp [ModelSettings.method, hname, Value.isOneOf, hparameters, hkernel, bind, Except.bind]
  · exact ⟨.opls base, by simp [ModelSettings.method, hname, Value.isOneOf],
      judged_of_ne h (by simp [hname]) hbase,
      by simp [ModelSettings.isFilter, hname, Value.isOneOf, Estimator.levels]⟩

/-- **Level by level, what a built model says of accepted settings.**  The induction follows the
configurations of what follows. -/
theorem Config.levels_of_assemble {c : Config} (h : c.validate = .ok ())
    (hnamed : ∀ s ∈ c.levels, s.NamesParameters) :
    ∃ method count scheme, c.assemble = .ok (.model method count scheme) ∧
      List.Forall₂ (ModelSettings.Judged K) c.levels
        (Estimator.model method count scheme).levels := by
  induction c with
  | single s =>
    have hbase : checkMethod (K := K) (.opls (.plain .null)) 1 = .ok () := rfl
    obtain ⟨method, hmethod, hjudged, hlevels⟩ := ModelSettings.exists_method
      (ModelSettings.accepted_of_validate h) (hnamed s (by simp [levels])) hbase
    refine ⟨method, s.nComponents, s.preprocessing, ?_, ?_⟩
    · simp [assemble, ModelSettings.model, hmethod, Except.map]
    · have hnone : method.levels = [] := by rw [hlevels]; split_ifs <;> rfl
      rw [Estimator.levels, hnone]
      exact .cons hjudged .nil
  | followed s base ih =>
    obtain ⟨⟨⟩, hs, h⟩ := bind_eq_ok_iff.mp h
    cases hfilter : s.isFilter with
    | false => simp [hfilter, throw, throwThe, MonadExceptOf.throw, bind, Except.bind] at h
    | true =>
      have hbase : base.validate = .ok () := by
        simpa [hfilter] using h
      obtain ⟨algorithm, count, scheme, hassemble, hall⟩ :=
        ih hbase fun t ht => hnamed t (by simp [levels, ht])
      have hfollows : checkMethod (K := K) (.opls (.model algorithm count scheme)) 1 = .ok () := rfl
      obtain ⟨method, hmethod, hjudged, hlevels⟩ := ModelSettings.exists_method
        (ModelSettings.accepted_of_validate hs) (hnamed s (by simp [levels])) hfollows
      refine ⟨method, s.nComponents, s.preprocessing, ?_, ?_⟩
      · simp [assemble, hassemble, ModelSettings.model, hmethod, Except.map]
      · rw [hfilter, if_pos rfl] at hlevels
        rw [Estimator.levels, hlevels]
        exact .cons hjudged hall
  | stray s v =>
    obtain ⟨⟨⟩, -, h⟩ := bind_eq_ok_iff.mp h
    cases hfilter : s.isFilter <;>
      simp [hfilter, throw, throwThe, MonadExceptOf.throw, bind, Except.bind] at h

end Levels

/-! ## 4. What a fit says of settings -/

/-- **A refusal of a setting,** and not of data. -/
def Invalid.OfSetting : Invalid → Prop
  | nComponents _ => True
  | preprocessing _ => True
  | method _ => True
  | base _ => True
  | numCoefficients _ => True
  | tol _ => True
  | maxIter _ => True
  | seed _ => True
  | _ => False

section Refusals

variable {K : Type} [Scalar K] {n p q : Nat} {why : Invalid}

omit [Scalar K] in
theorem readFailure_ne_setting {e : ReadError} (hsetting : why.OfSetting) :
    readFailure (K := K) e ≠ .invalid why := by
  intro h
  unfold readFailure at h
  split at h
  · cases h
    exact hsetting
  · cases h

theorem readPredictors_ne_setting {x : Reading K} (hsetting : why.OfSetting) :
    readPredictors x ≠ .error (.invalid why) := by
  intro h
  unfold readPredictors at h
  split at h
  · cases h
    exact hsetting
  · exact readFailure_ne_setting hsetting (Except.error.inj h)
  · split at h <;> cases h
    exact hsetting

omit [Scalar K] in
theorem readResponse_ne_setting {y : Reading K} (hsetting : why.OfSetting) :
    readResponse y ≠ .error (.invalid why) := by
  intro h
  unfold readResponse at h
  split at h
  · cases h
    exact hsetting
  · exact readFailure_ne_setting hsetting (Except.error.inj h)
  · cases h

/-- **Data is not refused for a setting.** -/
theorem readSample_ne_setting {x y : Reading K} (hsetting : why.OfSetting) :
    readSample x y ≠ .error (.invalid why) := by
  intro h
  unfold readSample at h
  simp only [ModelSettings.throw_bind] at h
  split at h
  · rw [if_pos rfl] at h
    cases h
    exact hsetting
  · rw [if_pos rfl] at h
    cases h
    exact hsetting
  · rw [if_neg Bool.false_ne_true] at h
    rcases bind_eq_error_iff.mp h with h | ⟨predictors, -, h⟩
    · exact readPredictors_ne_setting hsetting h
    · rcases bind_eq_error_iff.mp h with h | ⟨response, -, h⟩
      · exact readResponse_ne_setting hsetting h
      · generalize (if (response.axes == 1) = true then response.column else response) = array at h
        split at h
        · split at h
          · cases h
            exact hsetting
          · split at h <;> cases h
            exact hsetting
        · cases h
          exact hsetting

theorem checkResponses_ne_setting {bounds : ResponseBounds} (hsetting : why.OfSetting) :
    checkResponses bounds q ≠ .error why := by
  intro h
  unfold checkResponses at h
  split at h <;> cases h
  exact hsetting

omit [Scalar K] in
/-- The answer to a number of responses, as the answer of a method. -/
theorem responses_ne_setting {bounds : ResponseBounds} (hsetting : why.OfSetting) :
    (match checkResponses bounds q with
      | .ok () => (.ok () : Except (ModelError K) Unit)
      | .error why => .error (.invalid why)) ≠ .error (.invalid why) := by
  intro h
  cases hresponses : checkResponses bounds q with
  | ok _ => rw [hresponses] at h; cases h
  | error why' =>
    rw [hresponses] at h
    cases h
    exact checkResponses_ne_setting hsetting hresponses

/-- **A method says the same of its settings** whatever the number of responses. -/
theorem checkMethod_of_refused {method : Estimator} (hsetting : why.OfSetting)
    (h : checkMethod (K := K) method q = .error (.invalid why)) (r : Nat) :
    checkMethod (K := K) method r = .error (.invalid why) := by
  unfold checkMethod at h ⊢
  dsimp only at h ⊢
  -- settings are looked at before responses, and only by the two methods that have some
  split at h
  · exact absurd h (responses_ne_setting hsetting)
  · exact absurd h (responses_ne_setting hsetting)
  · split at h
    · exact h
    · exact absurd h (responses_ne_setting hsetting)
  · split at h
    · exact h
    · exact absurd h (responses_ne_setting hsetting)
  · exact absurd h (responses_ne_setting hsetting)
  · exact absurd h (responses_ne_setting hsetting)
  · exact h
  · exact h

/-- One response is as good as any number that is accepted. -/
theorem checkMethod_one_of_ok {method : Estimator}
    (h : checkMethod (K := K) method q = .ok ()) : checkMethod (K := K) method 1 = .ok () := by
  unfold checkMethod at h ⊢
  dsimp only at h ⊢
  split at h
  · rfl
  · rfl
  · split at h
    · cases h
    · rfl
  · split at h
    · cases h
    · rfl
  · rfl
  · rfl
  · cases h
  · cases h

end Refusals

/-- What follows a filter is a level of its own with what follows that, or the model that stands in
for none, which accepts its settings. -/
theorem Estimator.levels_of_following {base algorithm : Estimator} {count scheme : Value}
    (h : base.following = some (algorithm, count, scheme)) (K : Type) [Scalar K] :
    base.levels = ⟨algorithm, count, scheme⟩ :: algorithm.levels ∨
      base.levels = [] ∧ algorithm.levels = [] ∧
        (⟨algorithm, count, scheme⟩ : Level).check K = .ok () := by
  rcases following_cases h with ⟨rfl, rfl, rfl, rfl⟩ | rfl
  · have hplan : checkPlan (.int 1) (.text "center") = .ok ⟨1, .center⟩ := by cbv
    refine .inr ⟨rfl, rfl, ?_⟩
    unfold Level.check
    simp only [hplan]
    rfl
  · exact .inl rfl

section Following

variable {K : Type} [Scalar K] {n p : Nat} {algorithm : Estimator} {count scheme : Value}
  {x : Mat K n p} {y : Mat K n 1} {why : Invalid}

/-- A setting that is refused after a filter is refused by that level. -/
theorem check_of_checkFollowing_error (hsetting : why.OfSetting)
    (h : checkFollowing algorithm count scheme x y = .error (.invalid why)) :
    (⟨algorithm, count, scheme⟩ : Level).check K = .error (.invalid why) := by
  unfold checkFollowing at h
  unfold Level.check
  split at h
  · rename_i hplan
    cases h
    simp only [hplan]
  · rename_i plan hplan
    simp only [hplan]
    split at h
    · rename_i hentries
      cases h
      unfold checkEntries at hentries
      split at hentries
      · cases hentries
        exact hsetting.elim
      · split at hentries <;> cases hentries
        exact hsetting.elim
    · split at h
      · rename_i hmethod
        rw [hmethod, ← Except.error.inj h]
      · cases h

/-- What is accepted after a filter is accepted by that level. -/
theorem check_of_checkFollowing_ok {plan : Plan}
    (h : checkFollowing algorithm count scheme x y = .ok plan) :
    (⟨algorithm, count, scheme⟩ : Level).check K = .ok () := by
  obtain ⟨hplan, -, hmethod⟩ := checkFollowing_eq_ok_iff.mp h
  unfold Level.check
  simp only [hplan, hmethod]

end Following

/-- **A refusal of a setting from within a filter** is that of a level that follows.  The induction
follows the account of the refusal. -/
theorem RefusedWithin.exists_level {K : Type} [Scalar K] {n p q : Nat} {why : Invalid}
    (hsetting : why.OfSetting) {method : Estimator} {plan : Plan} {x : Mat K n p} {y : Mat K n q}
    (h : RefusedWithin method plan x y why) :
    ∃ level ∈ method.levels, level.check K = .error (.invalid why) := by
  induction h with
  | @here base algorithm count scheme plan x residual y why following _ refused =>
    have hcheck := check_of_checkFollowing_error hsetting refused
    rcases Estimator.levels_of_following following K with hlevels | ⟨-, -, hok⟩
    · exact ⟨_, by rw [Estimator.levels, hlevels]; exact List.mem_cons_self, hcheck⟩
    · exact nomatch hcheck.symm.trans hok
  | @deeper base algorithm count scheme plan inner x residual y why following _ accepted _ ih =>
    obtain ⟨level, hlevel, hcheck⟩ := ih hsetting
    rcases Estimator.levels_of_following following K with hlevels | ⟨-, hnone, -⟩
    · exact ⟨level, by rw [Estimator.levels, hlevels]; exact List.mem_cons_of_mem _ hlevel, hcheck⟩
    · exact absurd (hnone ▸ hlevel) List.not_mem_nil

/-- **What has been trained has been accepted** at every level that follows. -/
theorem Trains.check_levels {K : Type} [Scalar K] {tools : Toolkit K} {n p q : Nat}
    {method : Estimator} {plan : Plan} {flat : Bool} {x : Mat K n p} {y : Mat K n q}
    {f : Fitted K n p q} (h : Trains tools method plan flat x y f) :
    ∀ level ∈ method.levels, level.check K = .ok () := by
  induction h with
  | opls following _ accepted _ ih =>
    intro level hlevel
    rw [Estimator.levels] at hlevel
    rcases Estimator.levels_of_following following K with hlevels | ⟨hnone, -, -⟩
    · rw [hlevels] at hlevel
      rcases List.mem_cons.mp hlevel with rfl | hlevel
      · exact check_of_checkFollowing_ok accepted
      · exact ih level hlevel
    · exact absurd (hnone ▸ hlevel) List.not_mem_nil
  | @pls1 method _ _ _ _ _ named _ =>
    intro level hlevel
    cases method with
    | opls base => cases named
    | model algorithm count scheme => cases named
    | _ => exact absurd hlevel List.not_mem_nil
  | _ => simp [Estimator.levels]

namespace Model

section Fit

variable {K : Type} [Scalar K] {tools : Toolkit K} {m : Model K} {x y : Reading K} {why : Invalid}

theorem levels_methodOr (e : Estimator) : e.methodOr.levels = e.levels := by
  cases e with
  | plain v => cases v <;> rfl
  | _ => rfl

/-- A setting that is refused before a fit begins is refused by the outermost level. -/
theorem check_of_validate_error (hsetting : why.OfSetting)
    (h : m.validate x y = .error (.invalid why)) :
    (⟨m.algorithm, m.nComponents, m.preprocessing⟩ : Level).check K = .error (.invalid why) := by
  unfold validate at h
  unfold Level.check
  split at h
  · rename_i plan hplan
    simp only [hplan]
    obtain ⟨_, -, h⟩ := (bind_eq_error_iff.mp h).resolve_left nofun
    rcases bind_eq_error_iff.mp h with h | ⟨sample, -, h⟩
    · exact absurd h (readSample_ne_setting hsetting)
    · rcases bind_eq_error_iff.mp h with h | ⟨⟨⟩, -, h⟩
      · exact checkMethod_of_refused hsetting h 1
      · cases h
  · rename_i why' hplan
    simp only [hplan]
    cases h
    rfl

/-- A setting that the outermost level refuses is refused of all data that can be read. -/
theorem fit_of_check_error (hsetting : why.OfSetting)
    (h : (⟨m.algorithm, m.nComponents, m.preprocessing⟩ : Level).check K = .error (.invalid why))
    {sample : Sample K} (hsample : readSample x y = .ok sample) :
    (m.fit tools x y).2.outcome = .error (.invalid why) := by
  have hvalid : m.validate x y = .error (.invalid why) := by
    unfold Level.check at h
    unfold validate
    split at h
    · rename_i why' hplan
      cases h
      rw [hplan]
      rfl
    · rename_i plan hplan
      have hmethod := checkMethod_of_refused hsetting h sample.targets
      rw [hplan, hsample]
      simp only [bind, Except.bind, pure, Except.pure, hmethod]
  rw [fit_of_validate_error hvalid]
  rfl

/-- **A fit that refuses a setting does so at one of the levels of its model.** -/
theorem exists_level_of_refusal (hsetting : why.OfSetting)
    (h : (m.fit tools x y).2.outcome = .error (.invalid why)) :
    ∃ level ∈ m.estimator.levels, level.check K = .error (.invalid why) := by
  rcases fit_refused_iff.mp h with ⟨hvalid, -⟩ | ⟨⟨plan, sample, -, hwithin⟩, -⟩
  · exact ⟨_, List.mem_cons_self, check_of_validate_error hsetting hvalid⟩
  · obtain ⟨level, hlevel, hcheck⟩ := hwithin.exists_level hsetting
    rw [levels_methodOr] at hlevel
    exact ⟨level, List.mem_cons_of_mem _ hlevel, hcheck⟩

/-- **A model that has been fitted has accepted its settings** at every level. -/
theorem check_levels_of_fit (h : (m.fit tools x y).2.outcome = .ok ()) :
    ∀ level ∈ m.estimator.levels, level.check K = .ok () := by
  obtain ⟨plan, sample, f, hvalid, htrains, -⟩ := exists_trains_of_fit h
  obtain ⟨hplan, -, hmethod⟩ := validate_eq_ok_iff.mp hvalid
  intro level hlevel
  rcases List.mem_cons.mp hlevel with rfl | hlevel
  · unfold Level.check
    simp only [hplan]
    exact checkMethod_one_of_ok hmethod
  · exact htrains.check_levels level (by rwa [levels_methodOr])

end Fit

end Model

/-! ## 5. Configurations and their models -/

namespace Config

section Refusals

variable {K : Type} [Scalar K]

/-- The outermost level of a model is judged by the outermost settings. -/
theorem judged_outermost {c : Config} {l : Level} {rest : List Level}
    (h : List.Forall₂ (ModelSettings.Judged K) c.levels (l :: rest)) :
    c.outermost.Judged K l := by
  cases c with
  | single s => exact (List.forall₂_cons.mp h).1
  | followed s base => exact (List.forall₂_cons.mp h).1
  | stray s v => exact (List.forall₂_cons.mp h).1

/-- Each level of a model is judged by the settings of its own. -/
theorem exists_judged {settings : List ModelSettings} {levels : List Level}
    (h : List.Forall₂ (ModelSettings.Judged K) settings levels) :
    ∀ level ∈ levels, ∃ s ∈ settings, s.Judged K level := by
  induction h with
  | nil => simp
  | cons hjudged _ ih =>
    intro level hlevel
    rcases List.mem_cons.mp hlevel with rfl | hlevel
    · exact ⟨_, List.mem_cons_self, hjudged⟩
    · obtain ⟨s, hs, hjudged⟩ := ih level hlevel
      exact ⟨s, List.mem_cons_of_mem _ hs, hjudged⟩

/-- All levels accept their settings if none of the settings is the truth value. -/
theorem accepted_levels_iff {settings : List ModelSettings} {levels : List Level}
    (h : List.Forall₂ (ModelSettings.Judged K) settings levels) :
    (∀ level ∈ levels, level.check K = .ok ()) ↔ ∀ s ∈ settings, ¬ s.AsksTrue := by
  induction h with
  | nil => simp
  | @cons s level _ _ hjudged _ ih =>
    have hhead : level.check K = .ok () ↔ ¬ s.AsksTrue := by
      rcases hjudged with ⟨htrue, hcheck⟩ | ⟨hfalse, hcheck⟩
      · simp [hcheck, htrue]
      · simp [hcheck, hfalse]
    simp only [List.forall_mem_cons, ih, hhead]

/-- **The settings that a configuration accepts and its model refuses.**  From an accepted
configuration, with the parameters of its kernels named after parameters that they have, a model
can be built.  The model's own checks accept its settings at every level exactly if no level counts
the passes of an iteration by a truth value.  If one does, no fit succeeds; of all settings a fit
refuses no other, and at the outermost level it refuses that one whatever data it can read. -/
theorem build_accepted_iff {c : Config} (haccepted : c.validate = .ok ())
    (hnamed : ∀ s ∈ c.levels, s.NamesParameters) :
    ∃ e, c.build = .ok e ∧
      ((∀ level ∈ e.levels, level.check K = .ok ()) ↔ ∀ s ∈ c.levels, ¬ s.AsksTrue) ∧
      ∀ (tools : Toolkit K) (m : Model K), m.estimator = e → ∀ x y,
        ((∃ s ∈ c.levels, s.AsksTrue) → (m.fit tools x y).2.outcome ≠ .ok ()) ∧
        (∀ why : Invalid, why.OfSetting → (m.fit tools x y).2.outcome = .error (.invalid why) →
          why = .maxIter (.bool true) ∧ ∃ s ∈ c.levels, s.AsksTrue) ∧
        (c.outermost.AsksTrue → ∀ sample, readSample x y = .ok sample →
          (m.fit tools x y).2.outcome = .error (.invalid (.maxIter (.bool true)))) := by
  obtain ⟨method, count, scheme, hassemble, hall⟩ := levels_of_assemble (K := K) haccepted hnamed
  have hlevels := accepted_levels_iff hall
  refine ⟨.model method count scheme, ?_, hlevels, ?_⟩
  · exact bind_eq_ok_iff.mpr ⟨(), haccepted, hassemble⟩
  · rintro tools ⟨algorithm, nComponents, preprocessing, trained⟩ hm x y
    obtain ⟨rfl, rfl, rfl⟩ := Estimator.model.inj hm
    refine ⟨?_, ?_, ?_⟩
    · rintro ⟨s, hs, htrue⟩ hfit
      exact hlevels.mp (Model.check_levels_of_fit hfit) s hs htrue
    · intro why hsetting hfit
      obtain ⟨level, hlevel, hcheck⟩ := Model.exists_level_of_refusal hsetting hfit
      obtain ⟨s, hs, ⟨htrue, hrefused⟩ | ⟨-, hok⟩⟩ := exists_judged hall level hlevel
      · rw [hrefused] at hcheck
        exact ⟨(ModelError.invalid.inj (Except.error.inj hcheck)).symm, s, hs, htrue⟩
      · exact nomatch hcheck.symm.trans hok
    · intro htrue sample hsample
      rcases judged_outermost hall with ⟨-, hrefused⟩ | ⟨hfalse, -⟩
      · exact Model.fit_of_check_error trivial hrefused hsample
      · exact absurd htrue hfalse

/-- The kernel method with one pass, asked for by its truth value. -/
def askingTrue : Config :=
  .single { algorithm := .text "kernel_pls", nComponents := .int 1, kernel := .text "linear",
            tol := .int 1, maxIter := .bool true }

open TwoPredictors in
/-- That configuration is accepted; the model made of it refuses its passes on two predictors. -/
theorem build_accepted_iff_asking_true :
    askingTrue.validate = .ok () ∧ ∃ e, askingTrue.build = .ok e ∧
      ∀ (tools : Toolkit ℝ) (m : Model ℝ), m.estimator = e →
        (m.fit tools predictors responses).2.outcome =
          .error (.invalid (.maxIter (.bool true))) := by
  have haccepted : askingTrue.validate = .ok () := by cbv
  have hnamed : ∀ s ∈ askingTrue.levels, s.NamesParameters := by
    intro s hs _
    obtain rfl := List.mem_singleton.mp hs
    exact ⟨[], rfl, fun _ _ _ h => absurd h List.not_mem_nil⟩
  obtain ⟨e, hbuild, -, hfit⟩ := build_accepted_iff (K := ℝ) haccepted hnamed
  refine ⟨haccepted, e, hbuild, fun tools m hm => ?_⟩
  exact (hfit tools m hm predictors responses).2.2 ⟨rfl, rfl⟩ _ readSample_eq

end Refusals

end Config

end PartialLeastSquares
