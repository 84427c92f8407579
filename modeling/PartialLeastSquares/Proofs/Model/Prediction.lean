/-
# What a fitted model predicts

A model that has learned something reads new rows, hands them to what it has learned, and shapes
the answer.  Nothing else has an influence on a prediction, so two models predict alike as soon as
what they have learned does (`predict_congr`).
-/
import PartialLeastSquares.Model
import PartialLeastSquares.Proofs.Outcome

namespace PartialLeastSquares

variable {K : Type}

/-- A prediction in the shape in which the responses were given. -/
def Trained.answer (t : Trained K) {rows : Nat} (a : Mat K rows t.targets) : NdArray K :=
  if t.fitted.envelope.flat then ⟨[rows * t.targets], a.toList⟩ else NdArray.ofMat a

namespace Model

variable {m m' : Model K} {t t' : Trained K}

theorem learned_eq (h : m.trained = some t) : m.learned = .ok t := by
  unfold learned
  rw [h]

variable [Scalar K]

/-- **A model accepts new rows** if it has learned something and can read them as a matrix of the
width of its predictors. -/
def Accepts (m : Model K) (new : Reading K) : Prop :=
  ∃ t rows, m.learned = .ok t ∧ readRows new t.features = .ok rows

/-- A model reads no rows where it reads new rows as a matrix that has none. -/
def ReadsNoRows (m : Model K) (new : Reading K) : Prop :=
  ∃ t a, m.learned = .ok t ∧ readRows new t.features = .ok ⟨0, a⟩

theorem ReadsNoRows.accepts {new : Reading K} : m.ReadsNoRows new → m.Accepts new :=
  fun ⟨t, a, ht, hrows⟩ => ⟨t, ⟨0, a⟩, ht, hrows⟩

theorem readsNoRows_iff (h : m.trained = some t) {new : Reading K} :
    m.ReadsNoRows new ↔ ∃ a, readRows new t.features = .ok ⟨0, a⟩ := by
  constructor
  · rintro ⟨t', a, ht', hrows⟩
    obtain rfl : t = t' := Except.ok.inj ((learned_eq h).symm.trans ht')
    exact ⟨a, hrows⟩
  · rintro ⟨a, hrows⟩
    exact ⟨t, a, learned_eq h, hrows⟩

/-- **A prediction is what was learned, applied to the rows that were read.** -/
theorem predict_eq (h : m.trained = some t) (hp : t.fitted.predicts = true) (new : Reading K) :
    m.predict new = readRows new t.features >>= fun rows =>
      t.fitted.predict rows.2 >>= fun a => pure (t.answer a) := by
  have hflat : m.flat = t.fitted.envelope.flat := by
    unfold flat
    rw [h]
  unfold predict predictTable
  rw [learned_eq h, hflat]
  simp only [bind, Except.bind, hp, Bool.not_true, Bool.false_eq_true, if_false]
  cases readRows new t.features with
  | error e => rfl
  | ok rows =>
    cases hpredict : t.fitted.predict rows.2 with
    | error e => simp only [hpredict]
    | ok a =>
      simp only [hpredict, pure, Except.pure, Trained.answer]
      split <;> rfl

/-- Rows that were read are predicted as what was learned predicts them. -/
theorem predict_eq_ok (h : m.trained = some t) (hp : t.fitted.predicts = true) {new : Reading K}
    {rows : (n : Nat) × Mat K n t.features} (hrows : readRows new t.features = .ok rows)
    {a : Mat K rows.1 t.targets} (ha : t.fitted.predict rows.2 = .ok a) :
    m.predict new = .ok (t.answer a) := by
  rw [predict_eq h hp]
  exact bind_eq_ok_iff.mpr ⟨rows, hrows, bind_eq_ok_iff.mpr ⟨a, ha, rfl⟩⟩

/-- What was learned for scores alone predicts nothing, whatever the rows. -/
theorem predict_eq_unsupported (h : m.trained = some t) (hp : t.fitted.predicts = false)
    (new : Reading K) : m.predict new = .error (.unsupported t.fitted.methodName) := by
  unfold predict predictTable
  rw [learned_eq h]
  simp only [bind, Except.bind, hp]
  rfl

/-- A prediction fails as what was learned fails on the rows that were read. -/
theorem predict_eq_error (h : m.trained = some t) (hp : t.fitted.predicts = true) {new : Reading K}
    {rows : (n : Nat) × Mat K n t.features} (hrows : readRows new t.features = .ok rows)
    {e : ModelError K} (hfail : t.fitted.predict rows.2 = .error e) :
    m.predict new = .error e := by
  rw [predict_eq h hp]
  exact bind_eq_error_iff.mpr (.inr ⟨rows, hrows, bind_eq_error_iff.mpr (.inl hfail)⟩)

/-- **Two models predict alike** if what they have learned does, on every matrix. -/
theorem predict_congr {n n' p q : Nat} {f : Fitted K n p q} {f' : Fitted K n' p q}
    (h : m.trained = some ⟨n, p, q, f⟩) (h' : m'.trained = some ⟨n', p, q, f'⟩)
    (hp : f.predicts = true) (hp' : f'.predicts = true)
    (hflat : f.envelope.flat = f'.envelope.flat) {new : Reading K}
    (hpredict : ∀ rows, readRows new p = .ok rows → f.predict rows.2 = f'.predict rows.2) :
    m.predict new = m'.predict new := by
  rw [predict_eq h hp, predict_eq h' hp']
  cases hrows : readRows new p with
  | error e => rfl
  | ok rows =>
    have hanswer : ∀ a : Mat K rows.1 q,
        Trained.answer ⟨n, p, q, f⟩ a = Trained.answer ⟨n', p, q, f'⟩ a := fun a => by
      unfold Trained.answer
      rw [hflat]
    show (f.predict rows.2 >>= _) = (f'.predict rows.2 >>= _)
    rw [hpredict rows hrows]
    exact congrArg _ (funext fun a => congrArg pure (hanswer a))

/-- **A model predicts for exactly the rows that it accepts,** if what it has learned never fails
on them. -/
theorem accepts_iff (h : m.trained = some t) (hp : t.fitted.predicts = true) {new : Reading K}
    (hpredict : ∀ rows, readRows new t.features = .ok rows → ∃ a, t.fitted.predict rows.2 = .ok a) :
    m.Accepts new ↔ ∃ a, m.predict new = .ok a := by
  rw [predict_eq h hp]
  constructor
  · rintro ⟨t', rows, ht', hrows⟩
    obtain rfl : t = t' := Except.ok.inj ((learned_eq h).symm.trans ht')
    obtain ⟨a, ha⟩ := hpredict rows hrows
    exact ⟨t.answer a, bind_eq_ok_iff.mpr ⟨rows, hrows, bind_eq_ok_iff.mpr ⟨a, ha, rfl⟩⟩⟩
  · rintro ⟨a, ha⟩
    obtain ⟨rows, hrows, -⟩ := bind_eq_ok_iff.mp ha
    exact ⟨t, rows, learned_eq h, hrows⟩

end Model

end PartialLeastSquares
