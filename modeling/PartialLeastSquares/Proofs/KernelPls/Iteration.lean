/-
# The iteration of a component, and its record

The iteration of a component in `KernelPLS.fit_state` is a loop with a guard: before the first
pass the change is set to ten times what is tolerated, and a pass is made while the change is more
than that and fewer passes than allowed have been made (`loop`).  Only what is tolerated decides
whether there is a first pass.

If it is finite, there is one: every component is computed from a pass of its own iteration, there
are no more passes than allowed, and the record has a warning for just those components that moved
too far after the last pass allowed (`iterates_of_step`).

An infinite tolerance is accepted, too, since it is greater than zero.  Ten times infinity is no
more than infinity, so the loop is over before its first pass (`loop_top`), and there is no score
to deflate with.
-/
import Mathlib
import PartialLeastSquares.Proofs.Exact.Float
import PartialLeastSquares.Proofs.KernelPls.FixedPoint
import PartialLeastSquares.Proofs.Model.ComponentCount

namespace PartialLeastSquares

open Matrix

variable {n p q : ℕ}

namespace KernelPls

/-! ## 1. The loop -/

/-- **Where an iteration stands:** the iterate, what has been computed in the last pass if there
was one, the change, and the number of passes. -/
structure Standing (n q : ℕ) where
  iterate : Vec ℝ n
  change : EReal
  passes : ℕ
  last : Option (Pass ℝ n q)

namespace Standing

/-- Before the first pass, when `τ` is tolerated. -/
noncomputable def begin (τ : EReal) (u : Vec ℝ n) : Standing n q := ⟨u, 10 * τ, 0, none⟩

/-- After a pass, the last one of so many. -/
def after (made : Pass ℝ n q) (passes : ℕ) : Standing n q :=
  ⟨made.responseScore, made.change, passes, some made⟩

end Standing

section Loop

variable {τ : EReal} {most : ℕ} {next : Vec ℝ n → Except (NumericalError ℝ) (Pass ℝ n q)}
  {s : Standing n q}

open Classical in
/-- **The loop,** as its guard has it: passes are made while the last change is more than `τ` and
there are fewer than `most`. -/
noncomputable def loop (τ : EReal) (most : ℕ)
    (next : Vec ℝ n → Except (NumericalError ℝ) (Pass ℝ n q)) (s : Standing n q) :
    Except (NumericalError ℝ) (Standing n q) :=
  if _guard : τ < s.change ∧ s.passes < most then
    match next s.iterate with
    | .error e => .error e
    | .ok made => loop τ most next (.after made (s.passes + 1))
  else .ok s
termination_by most - s.passes
decreasing_by exact Nat.sub_succ_lt_self most s.passes _guard.2

theorem loop_over (h : ¬ (τ < s.change ∧ s.passes < most)) : loop τ most next s = .ok s := by
  rw [loop, dif_neg h]

theorem loop_error (h : τ < s.change ∧ s.passes < most) {e : NumericalError ℝ}
    (hnext : next s.iterate = .error e) : loop τ most next s = .error e := by
  rw [loop, dif_pos h, hnext]

theorem loop_pass (h : τ < s.change ∧ s.passes < most) {made : Pass ℝ n q}
    (hnext : next s.iterate = .ok made) :
    loop τ most next s = loop τ most next (.after made (s.passes + 1)) := by
  rw [loop, dif_pos h, hnext]

/-- **No pass is made if everything is tolerated,** infinity included. -/
theorem loop_top (u : Vec ℝ n) : loop ⊤ most next (.begin ⊤ u) = .ok (.begin ⊤ u) :=
  loop_over fun h => not_top_lt h.1

theorem lt_begin (hpos : 0 < τ) (hfinite : τ ≠ ⊤) (u : Vec ℝ n) :
    τ < (Standing.begin τ u : Standing n q).change := by
  lift τ to ℝ using ⟨hfinite, (EReal.bot_lt_zero.trans hpos).ne'⟩
  have hreal : 0 < τ := EReal.coe_pos.mp hpos
  show (τ : EReal) < ((10 : ℝ) : EReal) * τ
  rw [← EReal.coe_mul, EReal.coe_lt_coe_iff]
  linarith

/-- **The passes are the loop,** begun before its guard, if the test after a pass decides whether
the change is more than `τ`.  That is asked of the iterates of which `I` holds, and it holds of all
that are reached.  The induction is on the passes that are still allowed after the next. -/
theorem loop_eq_passes {tol : Tolerance ℝ} {I : Vec ℝ n → Prop}
    (hI : ∀ u made, I u → next u = .ok made → I made.responseScore ∧
      (tol.exceededBy made.change = true ↔ τ < made.change)) :
    ∀ {more : ℕ} {s : Standing n q}, I s.iterate → τ < s.change → s.passes + more + 1 = most →
      loop τ most next s =
        (passes tol next more s.passes s.iterate).map fun last => .after last.1 last.2 := by
  intro more
  induction more with
  | zero =>
    intro s hs hmoved hmost
    have hguard : τ < s.change ∧ s.passes < most := ⟨hmoved, by omega⟩
    cases hnext : next s.iterate with
    | error e =>
      rw [loop_error hguard hnext, passes_error hnext]
      rfl
    | ok made =>
      rw [loop_pass hguard hnext, passes_last hnext, loop_over]
      · rfl
      · exact fun h => absurd (show s.passes + 1 < most from h.2) (by omega)
  | succ more ih =>
    intro s hs hmoved hmost
    have hguard : τ < s.change ∧ s.passes < most := ⟨hmoved, by omega⟩
    cases hnext : next s.iterate with
    | error e =>
      rw [loop_error hguard hnext, passes_error hnext]
      rfl
    | ok made =>
      obtain ⟨hmade, hexceeded⟩ := hI _ _ hs hnext
      rw [loop_pass hguard hnext]
      cases htest : tol.exceededBy made.change with
      | true =>
        rw [passes_moved hnext htest]
        exact ih hmade (hexceeded.mp htest) (show s.passes + 1 + more + 1 = most by omega)
      | false =>
        rw [passes_settled hnext htest, loop_over]
        · rfl
        · intro h
          rw [hexceeded.mpr h.1] at htest
          cases htest

end Loop

/-- **How many passes there are:** one at least, no more than allowed, and all that are allowed if
the last one still moved too far.  The induction is on the passes that are still allowed. -/
theorem count_of_passes {K : Type} [Scalar K] {tol : Tolerance K}
    {next : Vec K n → Except (NumericalError K) (Pass K n q)} {last : Pass K n q} {count : ℕ} :
    ∀ {more done : ℕ} {u : Vec K n}, passes tol next more done u = .ok (last, count) →
      done < count ∧ count ≤ done + more + 1 ∧
        (tol.exceededBy last.change = true → count = done + more + 1) := by
  intro more
  induction more with
  | zero =>
    intro done u h
    cases hnext : next u with
    | error e => cases (passes_error hnext).symm.trans h
    | ok made =>
      obtain ⟨-, rfl⟩ := Prod.mk.inj (Except.ok.inj ((passes_last hnext).symm.trans h))
      exact ⟨Nat.lt_succ_self _, le_rfl, fun _ => rfl⟩
  | succ more ih =>
    intro done u h
    cases hnext : next u with
    | error e => cases (passes_error hnext).symm.trans h
    | ok made =>
      cases htest : tol.exceededBy made.change with
      | true =>
        rw [passes_moved hnext htest] at h
        obtain ⟨hleast, hmost, hexact⟩ := ih h
        exact ⟨by omega, by omega, fun hlast => by rw [hexact hlast]; omega⟩
      | false =>
        obtain ⟨rfl, rfl⟩ :=
          Prod.mk.inj (Except.ok.inj ((passes_settled hnext htest).symm.trans h))
        exact ⟨Nat.lt_succ_self _, by omega, fun hlast => by cases htest.symm.trans hlast⟩

/-! ## 2. What is tolerated -/

/-- **The number that a tolerance stands for:** a finite float, an integer among them, or an
integer beyond them. -/
inductive Tolerance.StandsFor : Tolerance ℝ → EReal → Prop
  | within {x : ℝ} (pos : 0 < x) : StandsFor (.within x) x
  | boundless {x : ℝ} (large : (Number.wholeLimit : ℝ) ≤ x) : StandsFor .boundless x
  | infinite : StandsFor .infinite ⊤

theorem Tolerance.StandsFor.pos {tol : Tolerance ℝ} {τ : EReal} (h : tol.StandsFor τ) : 0 < τ := by
  cases h with
  | within pos => exact EReal.coe_pos.mpr pos
  | boundless large =>
    have hlimit : (0 : ℝ) < Number.wholeLimit := Nat.cast_pos.mpr (by decide +kernel)
    exact EReal.coe_pos.mpr (hlimit.trans_le large)
  | infinite => exact EReal.zero_lt_top

theorem Tolerance.StandsFor.eq_infinite_iff {tol : Tolerance ℝ} {τ : EReal}
    (h : tol.StandsFor τ) : tol = .infinite ↔ τ = ⊤ := by
  cases h with
  | within pos => exact iff_of_false nofun (EReal.coe_ne_top _)
  | boundless large => exact iff_of_false nofun (EReal.coe_ne_top _)
  | infinite => exact iff_of_true rfl rfl

/-- An integer that is accepted is tolerated as it is, if it is a float. -/
theorem standsFor_whole {k : ℤ} (hk : 0 < k) :
    (if k.natAbs < Number.wholeLimit then .within (Scalar.ofInt k) else .boundless :
      Tolerance ℝ).StandsFor ((k : ℝ) : EReal) := by
  split
  · exact .within (Int.cast_pos.mpr hk)
  · rename_i hlarge
    refine .boundless ?_
    rw [← Int.natAbs_of_nonneg hk.le]
    exact_mod_cast not_lt.mp hlarge

/-- A float that is accepted is tolerated as it is, if it is finite. -/
theorem standsFor_real {x : Float} (hx : Float.ofInt 0 < x) {τ : EReal}
    (hτ : (Number.real x).extended? = some τ) :
    (if x.isFinite then .within (Scalar.ofFloat x) else .infinite : Tolerance ℝ).StandsFor τ := by
  unfold Number.extended? at hτ
  dsimp only at hτ
  split
  · rename_i hfinite
    rw [if_pos hfinite] at hτ
    obtain rfl := Option.some.inj hτ
    exact .within ((Scalar.ofFloat_pos_iff hfinite).mpr hx)
  · rename_i hinfinite
    rw [if_neg hinfinite, if_pos hx] at hτ
    obtain rfl := Option.some.inj hτ
    exact .infinite

theorem eq_int_of_strictInteger? {v : Value} {k : ℤ} (h : v.strictInteger? = some k) :
    v = .int k := by
  cases v with
  | int n => exact congrArg _ (Option.some.inj h)
  | _ => cases h

/-- **What is accepted of the settings of an iteration:** a number greater than zero, and two
integers. -/
theorem exists_of_checkIteration {K : Type} [Scalar K] {tol maxIter seed : Value}
    {settings : Settings K} (h : checkIteration tol maxIter seed = .ok settings) :
    ∃ (bound : Number) (most first : ℤ), tol.number? = some bound ∧ bound.above 0 = true ∧
      maxIter = .int most ∧ 1 ≤ most ∧ seed = .int first ∧ 0 ≤ first ∧
      settings = ⟨match bound with
        | .whole k =>
          if k.natAbs < Number.wholeLimit then .within (Scalar.ofInt k) else .boundless
        | .real x => if x.isFinite then .within (Scalar.ofFloat x) else .infinite,
        most.toNat, first.toNat⟩ := by
  unfold checkIteration at h
  split at h
  · cases h
  · rename_i bound hbound
    split at h
    · cases h
    · rename_i habove
      split at h
      · cases h
      · rename_i most hmost
        split at h
        · cases h
        · rename_i hleast
          split at h
          · cases h
          · rename_i first hfirst
            split at h
            · cases h
            · rename_i hnonneg
              rw [Bool.not_eq_true', Bool.not_eq_false] at habove
              exact ⟨bound, most, first, hbound, habove, eq_int_of_strictInteger? hmost,
                not_lt.mp hleast, eq_int_of_strictInteger? hfirst, not_lt.mp hnonneg,
                (Except.ok.inj h).symm⟩

/-- **So the tolerance stands for an extended real number greater than zero.** -/
theorem standsFor_of_checkIteration {tol maxIter seed : Value} {settings : Settings ℝ}
    (h : checkIteration tol maxIter seed = .ok settings) :
    ∃ τ, tol.extended? = some τ ∧ settings.tol.StandsFor τ ∧
      maxIter = .int settings.maxPasses ∧ 1 ≤ settings.maxPasses ∧ seed = .int settings.seed := by
  obtain ⟨bound, most, first, hbound, habove, rfl, hleast, rfl, hnonneg, rfl⟩ :=
    exists_of_checkIteration h
  obtain ⟨τ, hτ, -⟩ := Number.above_zero_iff.mp habove
  have hextended : tol.extended? = some τ := by
    unfold Value.extended?
    rw [hbound]
    exact hτ
  have hone : 1 ≤ most.toNat := by omega
  refine ⟨τ, hextended, ?_, ?_, hone, ?_⟩
  · cases bound with
    | whole k =>
      obtain rfl := Option.some.inj hτ
      dsimp only
      exact standsFor_whole (of_decide_eq_true habove)
    | real x => exact standsFor_real (of_decide_eq_true habove) hτ
  · rw [Int.toNat_of_nonneg (zero_le_one.trans hleast)]
  · rw [Int.toNat_of_nonneg hnonneg]

/-- **An iterate after a pass has length one.** -/
theorem norm_responseScore_of_pass {j : ℕ} {kScale yScale : ℝ} (hk : 0 ≤ kScale)
    {r : Residual ℝ n q} {u : Vec ℝ n} {made : Pass ℝ n q}
    (h : pass j kScale yScale r u = .ok made) : made.responseScore.norm = 1 := by
  rw [Vec.norm_real, (isPass_of_pass hk h).responseScore_unit, Real.sqrt_one]

/-- **An iterate whose length is within the floats,** with room for one more.  A start vector of
floats is one. -/
def Short (u : Vec ℝ n) : Prop := u.norm + 1 ≤ Number.wholeLimit

theorem short_of_pass {j : ℕ} {kScale yScale : ℝ} (hk : 0 ≤ kScale) {r : Residual ℝ n q}
    {u : Vec ℝ n} {made : Pass ℝ n q} (h : pass j kScale yScale r u = .ok made) :
    Short made.responseScore := by
  unfold Short
  rw [norm_responseScore_of_pass hk h]
  exact_mod_cast (by decide +kernel : 1 + 1 ≤ Number.wholeLimit)

/-- **The test after a pass decides whether the change is more than what is tolerated,** if that is
finite.  An integer beyond the floats is more than any change there is: the new iterate has length
one, so the change is at most one more than the length of the old one. -/
theorem exceededBy_iff_of_pass {tol : Tolerance ℝ} {τ : EReal} (h : tol.StandsFor τ) (hτ : τ ≠ ⊤)
    {j : ℕ} {kScale yScale : ℝ} (hk : 0 ≤ kScale) {r : Residual ℝ n q} {u : Vec ℝ n}
    (hu : Short u) {made : Pass ℝ n q} (hpass : pass j kScale yScale r u = .ok made) :
    tol.exceededBy made.change = true ↔ τ < made.change := by
  cases h with
  | within pos => exact decide_eq_true_iff.trans EReal.coe_lt_coe_iff.symm
  | boundless large =>
    refine iff_of_false nofun (not_lt.mpr (EReal.coe_le_coe_iff.mpr ?_))
    have hchange := Vec.norm_sub_le_add made.responseScore u
    rw [← change_of_pass hpass, norm_responseScore_of_pass hk hpass, add_comm] at hchange
    exact hchange.trans (hu.trans large)
  | infinite => exact absurd rfl hτ

/-! ## 3. One component -/

/-- **What the deflation after an iteration works with:** the loop has ended with a pass of this
component, after one at least and no more than allowed, and that is where everything comes from.
Its score, its iterate and its loading are those of the component; they are taken out of the
kernel and the responses, and the loading on the kernel is taken from its image of the iterate. -/
structure Iterates (tools : Toolkit ℝ) (τ : EReal) (most seed : ℕ) (kScale yScale : ℝ) (j : ℕ)
    (r : Residual ℝ n q) (c : Component ℝ n q) (r' : Residual ℝ n q) (last : Pass ℝ n q) :
    Prop where
  ends : loop τ most (pass j kScale yScale r) (.begin τ (tools.start n (seed + j))) =
    .ok (.after last c.convergence.passes)
  least : 1 ≤ c.convergence.passes
  bounded : c.convergence.passes ≤ most
  made : ∃ u, pass j kScale yScale r u = .ok last
  change : c.convergence.change = last.change
  score : c.score = last.score
  responseScore : c.responseScore = last.responseScore
  responseLoading : c.responseLoading = last.responseLoading
  deflated : r' = ⟨(((Mat.identity n).sub (Mat.outer last.score last.score)).mul r.kernel).mul
    ((Mat.identity n).sub (Mat.outer last.score last.score)),
    r.y.sub (Mat.outer last.score last.responseLoading)⟩
  loading : c.loading = (r'.kernel.applyT last.raw).dividedBy last.raw.normSq

open Classical in
/-- **The record of an iteration,** which is a warning if it has made all passes allowed and still
moved by more than what is tolerated. -/
noncomputable def report (τ : EReal) (most j : ℕ) (c : Convergence ℝ) : Event ℝ :=
  if τ < c.change ∧ c.passes = most then .unsettled j c.passes c.change τ.toReal
  else .settled j c.passes

/-- **What is put on record is the report,** if the test after the last pass decides whether the
change is more than what is tolerated, and is passed before the last pass allowed. -/
theorem event_eq_report {tol : Tolerance ℝ} {τ : EReal} (h : tol.StandsFor τ) (hτ : τ ≠ ⊤)
    {most : ℕ} {c : Convergence ℝ} (hsettled : c.settled = !tol.exceededBy c.change)
    (hexceeded : tol.exceededBy c.change = true ↔ τ < c.change)
    (hall : tol.exceededBy c.change = true → c.passes = most) (i : ℕ) :
    event tol i c = report τ most i c := by
  unfold event report
  cases htest : tol.exceededBy c.change with
  | false =>
    rw [if_neg fun hguard => by cases htest.symm.trans (hexceeded.mpr hguard.1)]
    cases h with
    | within pos => exact if_pos (hsettled.trans (by rw [htest]; rfl))
    | boundless large => rfl
    | infinite => exact absurd rfl hτ
  | true =>
    rw [if_pos ⟨hexceeded.mp htest, hall htest⟩]
    cases h with
    | within pos =>
      dsimp only
      rw [hsettled, htest]
      rfl
    | boundless large => cases htest
    | infinite => exact absurd rfl hτ

/-- **A step that succeeds is such an iteration,** if what is tolerated is finite, and this is what
is put on record. -/
theorem iterates_of_step {tools : Toolkit ℝ} {settings : Settings ℝ} {τ : EReal}
    (hstands : settings.tol.StandsFor τ) (hτ : τ ≠ ⊤) (hmost : 1 ≤ settings.maxPasses)
    {kScale yScale : ℝ} (hk : 0 ≤ kScale) {j : ℕ}
    (hstart : Short (tools.start n (settings.seed + j))) {r r' : Residual ℝ n q}
    {c : Component ℝ n q} (h : step tools settings kScale yScale j r = .ok (c, r')) :
    (∃ last, Iterates tools τ settings.maxPasses settings.seed kScale yScale j r c r' last) ∧
      ∀ i, event settings.tol i c.convergence = report τ settings.maxPasses i c.convergence := by
  obtain ⟨last, -, hlast, hloading, hc, hr'⟩ := step_eq_ok_iff.mp h
  have hscore : c.score = last.score := congrArg Component.score hc
  have hresponseLoading : c.responseLoading = last.responseLoading :=
    congrArg Component.responseLoading hc
  have hconvergence : c.convergence =
      ⟨c.convergence.passes, last.change, !settings.tol.exceededBy last.change⟩ :=
    congrArg Component.convergence hc
  have hchange : c.convergence.change = last.change := congrArg Convergence.change hconvergence
  obtain ⟨u, hu, hmade⟩ : ∃ u : Vec ℝ n, Short u ∧ pass j kScale yScale r u = .ok last := by
    rcases last_of_passes hlast with ⟨-, hfirst⟩ | ⟨u, before, -, hbefore, hlast⟩
    · exact ⟨_, hstart, hfirst⟩
    · exact ⟨_, short_of_pass hk hbefore, hlast⟩
  obtain ⟨hleast, hbounded, hall⟩ := count_of_passes hlast
  have hends : loop τ settings.maxPasses (pass j kScale yScale r)
      (.begin τ (tools.start n (settings.seed + j))) = .ok (.after last c.convergence.passes) := by
    have hloop : loop τ settings.maxPasses (pass j kScale yScale r)
        (.begin τ (tools.start n (settings.seed + j))) =
          (passes settings.tol (pass j kScale yScale r) (settings.maxPasses - 1) 0
            (tools.start n (settings.seed + j))).map fun last => .after last.1 last.2 :=
      loop_eq_passes (I := Short)
        (fun u made hu hpass =>
          ⟨short_of_pass hk hpass, exceededBy_iff_of_pass hstands hτ hk hu hpass⟩)
        hstart (lt_begin hstands.pos hτ _) (show 0 + (settings.maxPasses - 1) + 1 = _ by omega)
    exact hloop.trans (congrArg _ hlast)
  refine ⟨⟨last, ?_⟩, ?_⟩
  · refine ⟨hends, hleast, by omega, ⟨u, hmade⟩, hchange, hscore,
      congrArg Component.responseScore hc, hresponseLoading, ?_, (divideBy_eq_ok_iff.mp hloading).2⟩
    rw [← hscore, ← hresponseLoading]
    exact hr'
  · refine event_eq_report hstands hτ ?_ ?_ fun hmoved => ?_
    · rw [hchange]
      exact congrArg Convergence.settled hconvergence
    · rw [hchange]
      exact exceededBy_iff_of_pass hstands hτ hk hu hmade
    · rw [hchange] at hmoved
      rw [hall hmoved]
      omega

/-! ## 4. A training -/

/-- **What comes of an extraction.** -/
noncomputable def finish (tools : Toolkit ℝ) (env : Envelope ℝ p q) (data : Prepared ℝ n p q)
    (found : Extraction (Component ℝ n q) (Residual ℝ n q) (Halt ℝ)) :
    Except (ModelError ℝ) (Fitted ℝ n p q) :=
  match found.ending with
  | .error halt => .error halt.failure
  | .ok r =>
    match fit tools data found.components r with
    | .error e => .error (.numerical e)
    | .ok f => .ok (.kernelPls env f)

end KernelPls

section Training

open KernelPls

variable {tools : Toolkit ℝ} {kernel : Estimator} {tol maxIter seed : Value} {count : ℕ}
  {env : Envelope ℝ p q} {x : Mat ℝ n p} {y : Mat ℝ n q} {settings : Settings ℝ} {k : Kernel}

/-- **A training whose settings and kernel are accepted** puts its extraction on record and finishes
it. -/
theorem trainKernelPls_of_prepare (hsettings : checkIteration tol maxIter seed = .ok settings)
    (hk : kernelOf (K := ℝ) kernel = .ok k) {data : Prepared ℝ n p q}
    (hdata : prepare k x y (Scheme.center.learn x, Scheme.center.learn y) = .ok data) :
    trainKernelPls tools kernel tol maxIter seed count env x y =
      ⟨events settings.tol (extraction tools settings data.centered data.y count),
        finish tools env data (extraction tools settings data.centered data.y count)⟩ := by
  unfold trainKernelPls finish
  simp only [hsettings, center_real, hk, Run.ok_bind, Run.silent_ok_bind, hdata]
  rw [Run.record_bind]
  cases (extraction tools settings data.centered data.y count).ending with
  | error halt => cases halt <;> exact congrArg (Run.mk · _) (List.append_nil _)
  | ok r =>
    dsimp only
    cases fit tools data (extraction tools settings data.centered data.y count).components r <;>
      exact congrArg (Run.mk · _) (List.append_nil _)

theorem trainKernelPls_of_prepare_error (hsettings : checkIteration tol maxIter seed = .ok settings)
    (hk : kernelOf (K := ℝ) kernel = .ok k) {e : KernelError}
    (hdata : prepare k x y (Scheme.center.learn x, Scheme.center.learn y) = .error e) :
    (trainKernelPls tools kernel tol maxIter seed count env x y).outcome = .error (.kernel e) := by
  unfold trainKernelPls
  simp only [hsettings, center_real, hk, Run.ok_bind, Run.silent_ok_bind, hdata]
  rfl

/-- **The kernel was accepted** if the training does not fail for it. -/
theorem exists_prepare (hsettings : checkIteration tol maxIter seed = .ok settings)
    (hk : kernelOf (K := ℝ) kernel = .ok k)
    (hkernel : ∀ e, (trainKernelPls tools kernel tol maxIter seed count env x y).outcome ≠
      .error (.kernel e)) :
    ∃ data : Prepared ℝ n p q,
      prepare k x y (Scheme.center.learn x, Scheme.center.learn y) = .ok data := by
  cases hdata : prepare k x y (Scheme.center.learn x, Scheme.center.learn y) with
  | error e => exact absurd (trainKernelPls_of_prepare_error hsettings hk hdata) (hkernel e)
  | ok data => exact ⟨data, rfl⟩

end Training

namespace KernelPls

/-- A step fails before its first pass only if everything is tolerated. -/
theorem eq_infinite_of_noPass {tools : Toolkit ℝ} {settings : Settings ℝ} {kScale yScale : ℝ}
    {j : ℕ} {r : Residual ℝ n q} (h : step tools settings kScale yScale j r = .error .noPass) :
    settings.tol = .infinite := by
  unfold step at h
  split at h
  · assumption
  · split at h
    · cases h
    · dsimp only at h
      split at h <;> cases h

/-- **What a training comes to if what is tolerated is finite:** there are as many components as
were asked for, and each is left by the passes of its own iteration, one after the other. -/
structure Fit.Iterated (f : Fit ℝ n p q) (tools : Toolkit ℝ) (τ : EReal) (most seed count : ℕ)
    (y : Mat ℝ n q) : Prop where
  count : f.components.length = count
  components : ∃ states : ℕ → Residual ℝ n q, states 0 = ⟨f.centered, y⟩ ∧
    ∀ j c, f.components[j]? = some c → ∃ last, Iterates tools τ most seed f.centered.norm y.norm j
      (states j) c (states (j + 1)) last

/-- **An extraction if what is tolerated is finite.** -/
theorem iterated_of_completes {tools : Toolkit ℝ} {settings : Settings ℝ} {τ : EReal}
    (hstands : settings.tol.StandsFor τ) (hτ : τ ≠ ⊤) (hmost : 1 ≤ settings.maxPasses)
    (hstart : ∀ seed, Short (tools.start n seed)) {data : Prepared ℝ n p q} {count : ℕ}
    {r : Residual ℝ n q} {f : Fit ℝ n p q}
    (hend : (extraction tools settings data.centered data.y count).ending = .ok r)
    (hfit : fit tools data (extraction tools settings data.centered data.y count).components r =
      .ok f) :
    f.Iterated tools τ settings.maxPasses settings.seed count data.y ∧
      events settings.tol (extraction tools settings data.centered data.y count) =
        (numbered f.components).map fun (j, c) => report τ settings.maxPasses j c.convergence := by
  obtain ⟨b, -, rfl⟩ := fit_eq_ok_iff.mp hfit
  obtain ⟨states, hzero, -, hsteps⟩ := exists_states_of_extract hend
  have hiterates : ∀ j c, (extraction tools settings data.centered data.y count).components[j]? =
      some c → _ := fun j c hc =>
    iterates_of_step hstands hτ hmost data.centered.norm_nonneg (hstart _) (hsteps j c hc)
  refine ⟨⟨length_components_extract hend, states, hzero, fun j c hc => ?_⟩, ?_⟩
  · have h := (hiterates j c hc).1
    rwa [Nat.zero_add] at h
  · unfold events
    rw [hend]
    refine List.map_congr_left fun jc hjc => ?_
    obtain ⟨i, hi⟩ := List.mem_iff_getElem?.mp (List.of_mem_zip hjc).2
    exact (hiterates i _ hi).2 jc.1

/-- **If something is not tolerated, a training fails numerically or not at all.** -/
theorem exists_fit_of_finish {tools : Toolkit ℝ} {settings : Settings ℝ} {env : Envelope ℝ p q}
    {data : Prepared ℝ n p q} {count : ℕ} (htol : settings.tol ≠ .infinite)
    (h : ∀ e, finish tools env data (extraction tools settings data.centered data.y count) ≠
      .error (.numerical e)) :
    ∃ r f, (extraction tools settings data.centered data.y count).ending = .ok r ∧
      fit tools data (extraction tools settings data.centered data.y count).components r = .ok f ∧
      finish tools env data (extraction tools settings data.centered data.y count) =
        .ok (.kernelPls env f) := by
  unfold finish at h ⊢
  cases hend : (extraction tools settings data.centered data.y count).ending with
  | error halt =>
    rw [hend] at h
    cases halt with
    | inPass e => exact absurd rfl (h e)
    | afterPasses c e => exact absurd rfl (h e)
    | noPass =>
      obtain ⟨j, r, hstep⟩ := exists_step_of_extract_error hend
      exact absurd (eq_infinite_of_noPass hstep) htol
  | ok r =>
    rw [hend] at h
    dsimp only at h ⊢
    cases hfit : fit tools data
        (extraction tools settings data.centered data.y count).components r with
    | error e =>
      rw [hfit] at h
      exact absurd rfl (h e)
    | ok f => exact ⟨r, f, rfl, hfit, rfl⟩

/-- **No component is found if everything is tolerated.** -/
theorem extraction_of_infinite {tools : Toolkit ℝ} {settings : Settings ℝ}
    (h : settings.tol = .infinite) {kernel : Mat ℝ n n} {y : Mat ℝ n q} {count : ℕ}
    (hcount : count ≠ 0) :
    extraction tools settings kernel y count = ⟨[], .error .noPass⟩ := by
  obtain ⟨count, rfl⟩ := Nat.exists_eq_succ_of_ne_zero hcount
  refine extract_succ_error ?_ count
  unfold step
  rw [h]

end KernelPls

open KernelPls in
/-- **A training that tolerates everything** has no score to work with. -/
theorem trainKernelPls_of_infinite {tools : Toolkit ℝ} {kernel : Estimator}
    {tol maxIter seed : Value} {count : ℕ} {env : Envelope ℝ p q} {x : Mat ℝ n p} {y : Mat ℝ n q}
    {settings : Settings ℝ} {k : Kernel} {data : Prepared ℝ n p q}
    (hsettings : checkIteration tol maxIter seed = .ok settings) (htol : settings.tol = .infinite)
    (hk : kernelOf (K := ℝ) kernel = .ok k)
    (hdata : prepare k x y (Scheme.center.learn x, Scheme.center.learn y) = .ok data)
    (hcount : count ≠ 0) : trainKernelPls tools kernel tol maxIter seed count env x y =
      ⟨[.settled 0 0], .error .noScore⟩ := by
  rw [trainKernelPls_of_prepare hsettings hk hdata, extraction_of_infinite htol hcount]
  rfl

/-! ## 5. One as a tolerance, and infinity -/

namespace KernelPls

theorem checkIteration_inf {most : ℕ} (h : 1 ≤ most) :
    checkIteration (.float Float.inf) (.int most) (.int 0) =
      .ok (⟨.infinite, most, 0⟩ : Settings ℝ) := by
  have hpos : Float.ofInt 0 < Float.inf := by decide
  have hinfinite : Float.inf.isFinite = false := by decide
  unfold checkIteration
  simp [Value.number?, Number.above, Value.strictInteger?, hpos, hinfinite]
  omega

namespace TwoScores

theorem norm_start (seed : ℕ) : (tools.start 4 seed).norm = 3 := by
  have hcoords : (tools.start 4 seed).coords =
      fun i : Fin 4 => (((starts seed).getD i.val 0 : ℚ) : ℝ) := Vec.coords_ofRat _
  rw [Vec.norm_real, Real.sqrt_eq_iff_mul_self_eq_of_pos (by norm_num), hcoords]
  rcases seed with _ | _ | _ | seed <;>
    simp [starts, dotProduct, Fin.sum_univ_succ] <;> norm_num

theorem short_start (seed : ℕ) : Short (tools.start 4 seed) := by
  unfold Short
  rw [norm_start]
  exact_mod_cast (by decide +kernel : 3 + 1 ≤ Number.wholeLimit)

end TwoScores

/-- With settings that are accepted, the method is accepted for one response. -/
theorem checkMethod_of_checkIteration {kernel : Estimator} {tol maxIter seed : Value}
    {settings : Settings ℝ} (h : checkIteration tol maxIter seed = .ok settings) :
    checkMethod (K := ℝ) (.kernelPls kernel tol maxIter seed) 1 = .ok () := by
  simp only [checkMethod, h]
  rfl

end KernelPls

/-! ## 6. All tolerances -/

open KernelPls in
/-- **The iterations of a training in feature space.**  For every tolerance, number of passes and
seed that are accepted, and all data for which there is no numerical failure and none of the
kernel: if what is tolerated is finite, every component is computed from a pass of its own
iteration, which is the last one that its loop makes, after one pass at least and no more than
allowed, and the record has a warning for just those components that moved by more than what is
tolerated in the last pass allowed.  If it is infinite, the loop makes no pass, and the training
fails for want of a score. -/
theorem trainKernelPls_iterates (tools : Toolkit ℝ) (kernel : Estimator) (tol maxIter seed : Value)
    (count : ℕ) (env : Envelope ℝ p q) (x : Mat ℝ n p) (y : Mat ℝ n q)
    (haccepted : checkMethod (K := ℝ) (.kernelPls kernel tol maxIter seed) q = .ok ())
    (hnamed : ∃ k, kernelOf (K := ℝ) kernel = .ok k) (hcount : count ≠ 0)
    (hstart : ∀ s, Short (tools.start n s))
    (hnumerical : ∀ e, (trainKernelPls tools kernel tol maxIter seed count env x y).outcome ≠
      .error (.numerical e))
    (hkernel : ∀ e, (trainKernelPls tools kernel tol maxIter seed count env x y).outcome ≠
      .error (.kernel e)) :
    ∃ (τ : EReal) (most first : ℕ), tol.extended? = some τ ∧ 0 < τ ∧ maxIter = .int most ∧
      1 ≤ most ∧ seed = .int first ∧
      (τ ≠ ⊤ → ∃ f : KernelPls.Fit ℝ n p q,
        trainKernelPls tools kernel tol maxIter seed count env x y =
          ⟨(numbered f.components).map fun (j, c) => report τ most j c.convergence,
            .ok (.kernelPls env f)⟩ ∧
        f.Iterated tools τ most first count ((Scheme.center.learn y).apply y)) ∧
      (τ = ⊤ → trainKernelPls tools kernel tol maxIter seed count env x y =
          ⟨[.settled 0 0], .error .noScore⟩ ∧
        ∀ (next : Vec ℝ n → Except (NumericalError ℝ) (Pass ℝ n q)) (u : Vec ℝ n),
          loop ⊤ most next (.begin ⊤ u) = .ok (.begin ⊤ u)) := by
  obtain ⟨settings, hsettings⟩ : ∃ settings : Settings ℝ,
      checkIteration tol maxIter seed = .ok settings := by
    cases h : (checkIteration tol maxIter seed : Except Invalid (Settings ℝ)) with
    | ok settings => exact ⟨settings, rfl⟩
    | error why =>
      simp only [checkMethod, h] at haccepted
      cases haccepted
  obtain ⟨k, hk⟩ := hnamed
  obtain ⟨τ, hτ, hstands, hmaxIter, hmost, hseed⟩ := standsFor_of_checkIteration hsettings
  obtain ⟨data, hdata⟩ := exists_prepare hsettings hk hkernel
  refine ⟨τ, settings.maxPasses, settings.seed, hτ, hstands.pos, hmaxIter, hmost, hseed,
    fun hfinite => ?_, fun hinfinite => ?_⟩
  · rw [trainKernelPls_of_prepare hsettings hk hdata] at hnumerical ⊢
    have hy : data.y = (Scheme.center.learn y).apply y := by
      obtain ⟨-, -, fn, -, rfl⟩ := prepare_kernel_eq_ok_iff.mp hdata
      rfl
    obtain ⟨r, f, hend, hfit, hfinish⟩ :=
      exists_fit_of_finish (mt hstands.eq_infinite_iff.mp hfinite) hnumerical
    obtain ⟨hiterated, hevents⟩ := iterated_of_completes hstands hfinite hmost hstart hend hfit
    rw [hy] at hiterated
    refine ⟨f, ?_, hiterated⟩
    rw [hfinish, hevents]
  · subst hinfinite
    exact ⟨trainKernelPls_of_infinite hsettings (hstands.eq_infinite_iff.mpr rfl) hk hdata hcount,
      fun next u => loop_top u⟩

open KernelPls in
/-- Two components of four rows, each after two passes; and none of them if infinity is tolerated.
-/
theorem trainKernelPls_iterates_two_scores :
    (∃ f : KernelPls.Fit ℝ 4 2 1,
      trainKernelPls TwoScores.tools (.kernel .linear) (.int 1) (.int 2) (.int 0) 2
        TwoScores.envelope TwoScores.x (Mat.ofCol TwoScores.y) =
          ⟨(numbered f.components).map fun (j, c) => report 1 2 j c.convergence,
            .ok (.kernelPls TwoScores.envelope f)⟩ ∧
      f.Iterated TwoScores.tools 1 2 0 2 (Mat.ofCol TwoScores.y)) ∧
    checkMethod (K := ℝ) (.kernelPls (.kernel .linear) (.float Float.inf) (.int 2) (.int 0)) 1 =
      .ok () ∧
    trainKernelPls TwoScores.tools (.kernel .linear) (.float Float.inf) (.int 2) (.int 0) 2
      TwoScores.envelope TwoScores.x (Mat.ofCol TwoScores.y) =
        ⟨[.settled 0 0], .error .noScore⟩ := by
  refine ⟨?_, checkMethod_of_checkIteration (checkIteration_inf one_le_two), ?_⟩
  · obtain ⟨c, c', r, hfound, hcompletes⟩ := TwoScores.exists_completes TwoScores.starts_zero
    obtain ⟨fit, hfit⟩ := hfound.exists_fit TwoScores.starts_zero.sign r
    have htrain : (trainKernelPls TwoScores.tools (.kernel .linear) (.int 1) (.int 2) (.int 0) 2
        TwoScores.envelope TwoScores.x (Mat.ofCol TwoScores.y)).outcome =
          .ok (.kernelPls TwoScores.envelope fit) :=
      trainKernelPls_eq_ok_iff_completes.mpr ⟨_, _, _, _, _, fit, checkIteration_one one_le_two,
        rfl, hcompletes, hfit, rfl⟩
    obtain ⟨τ, most, first, hτ, -, hmost, -, hfirst, hfinite, -⟩ :=
      trainKernelPls_iterates TwoScores.tools (.kernel .linear) (.int 1) (.int 2) (.int 0) 2
        TwoScores.envelope TwoScores.x (Mat.ofCol TwoScores.y)
        (checkMethod_of_checkIteration (checkIteration_one one_le_two)) ⟨_, rfl⟩ two_ne_zero
        TwoScores.short_start (fun e he => by cases htrain.symm.trans he)
        (fun e he => by cases htrain.symm.trans he)
    have hone : τ = 1 := by
      rw [← Option.some.inj hτ, Int.cast_one, EReal.coe_one]
    obtain rfl : 2 = most := by exact_mod_cast Value.int.inj hmost
    obtain rfl : 0 = first := by exact_mod_cast Value.int.inj hfirst
    subst hone
    obtain ⟨f, hrun, hiterated⟩ := hfinite (EReal.coe_ne_top 1)
    rw [TwoScores.centered_y] at hiterated
    exact ⟨f, hrun, hiterated⟩
  · obtain ⟨stats, hstats, hdata⟩ := TwoScores.prepared_data
    obtain rfl := Except.ok.inj ((center_real _ _).symm.trans hstats)
    exact trainKernelPls_of_infinite (checkIteration_inf one_le_two) rfl rfl hdata two_ne_zero

end PartialLeastSquares
