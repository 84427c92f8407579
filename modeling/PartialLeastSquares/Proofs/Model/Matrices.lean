/-
# Models and matrices

Data that is a matrix of predictors and a matrix of responses can be handed over as arrays, the
responses in one axis or in two.  Over the reals every entry is finite, so whether such data is read
depends on its size alone (`readSample_ofMat`), and whether it is accepted depends on its size and
on the settings.

Two fits of one model to data of one size are therefore compared where they train: if the second
training learns an image of what the first one learns, then both fits succeed, and have learned
that, or both fail in the same way (`Model.fitTo_map`).
-/
import Mathlib
import PartialLeastSquares.Proofs.Model.RowByRow
import PartialLeastSquares.Proofs.Rescaling.Model

namespace PartialLeastSquares

variable {n p q : ℕ}

/-! ## 1. Data as arrays -/

namespace NdArray

/-- **Responses as they are handed over,** row after row in one axis if `flat` is set. -/
def ofResponses {K : Type} (flat : Bool) (y : Mat K n q) : NdArray K :=
  if flat then ⟨[n * q], y.toList⟩ else ofMat y

end NdArray

theorem Mat.length_toList {K : Type} (a : Mat K n p) : a.toList.length = n * p := by
  simp [toList]

/-- Responses in one axis that are one column are read as this column. -/
theorem NdArray.column_ofResponses {K : Type} (y : Mat K n 1) :
    (ofResponses true y).column = ofMat y := by
  rw [ofResponses, if_pos rfl, column, Mat.length_toList, Nat.mul_one]
  rfl

theorem NdArray.toMat_ofResponses (flat : Bool) (y : Mat ℝ n q) :
    (ofResponses flat y).toMat n q = y := by
  cases flat <;> exact toMat_ofMat y

theorem NdArray.ofResponses_injective (flat : Bool) :
    Function.Injective (ofResponses flat : Mat ℝ n q → NdArray ℝ) := by
  intro y y' h
  have hmat := congrArg (fun a => a.toMat n q) h
  rwa [toMat_ofResponses, toMat_ofResponses] at hmat

/-- Matrices of predictors are read if they have rows and columns. -/
theorem readPredictors_ofMat (x : Mat ℝ n p) : readPredictors (.array (.ofMat x)) =
    if n = 0 then .error (.invalid (.unsuitable (.noRows [n, p])))
    else if p = 0 then .error (.invalid (.unsuitable (.noColumns [n, p])))
    else .ok ⟨n, p, x⟩ := by
  have hread : Table.ofArray? false (NdArray.ofMat x) =
      if n = 0 then .error (.noRows [n, p])
      else if p = 0 then .error (.noColumns [n, p])
      else .ok ⟨n, p, (NdArray.ofMat x).toMat n p⟩ := by
    simp [Table.ofArray?, NdArray.ofMat]
  rw [readPredictors, hread, NdArray.toMat_ofMat]
  split_ifs <;> rfl

theorem sampleOf_ofMat (x : Mat ℝ n p) (y : Mat ℝ n q) (flat : Bool) :
    sampleOf ⟨n, p, x⟩ flat (.ofMat y) = .ok ⟨n, p, q, x, y, flat⟩ := by
  show (if !((NdArray.ofMat y).toMat n q).finite then _ else _) = _
  rw [Mat.finite, Mat.all_isFinite_real, NdArray.toMat_ofMat]
  exact dif_pos rfl

/-- **Matrices are read** if they have rows and predictors, and one response if this is in one
axis. -/
theorem readSample_ofMat (x : Mat ℝ n p) (y : Mat ℝ n q) (flat : Bool) :
    readSample (.array (.ofMat x)) (.array (.ofResponses flat y)) =
      if n = 0 then .error (.invalid (.unsuitable (.noRows [n, p])))
      else if p = 0 then .error (.invalid (.unsuitable (.noColumns [n, p])))
      else if flat = true ∧ q ≠ 1 then .error (.invalid (.rows n (n * q)))
      else .ok ⟨n, p, q, x, y, flat⟩ := by
  rw [readSample_arrays, readPredictors_ofMat]
  by_cases hn : n = 0
  · rw [if_pos hn, if_pos hn]
    rfl
  rw [if_neg hn, if_neg hn]
  by_cases hp : p = 0
  · rw [if_pos hp, if_pos hp]
    rfl
  rw [if_neg hp, if_neg hp]
  cases flat with
  | false => exact (sampleOf_ofMat x y false).trans (if_neg fun h => Bool.false_ne_true h.1).symm
  | true =>
    show sampleOf ⟨n, p, x⟩ true (NdArray.ofResponses true y).column = _
    by_cases hq : q = 1
    · subst hq
      rw [NdArray.column_ofResponses, if_neg fun h => h.2 rfl]
      exact sampleOf_ofMat x y true
    · have hrows : n * q ≠ n := fun h => hq (Nat.eq_of_mul_eq_mul_left (Nat.pos_of_ne_zero hn)
        (h.trans (Nat.mul_one n).symm))
      rw [NdArray.ofResponses, if_pos rfl, NdArray.column, if_pos ⟨rfl, hq⟩]
      simp only [Mat.length_toList, sampleOf, Mat.finite, Mat.all_isFinite_real, Bool.not_true,
        Bool.false_eq_true, if_false]
      exact dif_neg hrows

/-! ## 2. Fits -/

/-- **A fit to matrices,** which are handed over as arrays. -/
def Model.fitTo {K : Type} [Scalar K] (tools : Toolkit K) (m : Model K) (flat : Bool)
    (x : Mat K n p) (y : Mat K n q) : Model K × Run K Unit :=
  m.fit tools (.array (.ofMat x)) (.array (.ofResponses flat y))

namespace Model

variable {tools : Toolkit ℝ} {m : Model ℝ} {flat : Bool} {x x' : Mat ℝ n p} {y y' : Mat ℝ n q}

/-- A fit to data that is read as matrices is a fit to them. -/
theorem fit_eq_fitTo {u v : Reading ℝ}
    (h : readSample u v = readSample (.array (.ofMat x)) (.array (.ofResponses flat y))) :
    m.fit tools u v = m.fitTo tools flat x y := by
  unfold fitTo fit validate
  rw [h]

/-- **Matrices of one size are accepted alike.** -/
theorem validate_ofMat (m : Model ℝ) (flat : Bool) (n p q : ℕ) :
    (∃ e, ∀ (x : Mat ℝ n p) (y : Mat ℝ n q),
      m.validate (.array (.ofMat x)) (.array (.ofResponses flat y)) = .error e) ∨
    p ≠ 0 ∧ ∃ plan, checkPlan m.nComponents m.preprocessing = .ok plan ∧
      ∀ (x : Mat ℝ n p) (y : Mat ℝ n q),
        m.validate (.array (.ofMat x)) (.array (.ofResponses flat y)) =
          .ok ⟨plan, n, p, q, x, y, flat⟩ := by
  unfold validate
  simp only [readSample_ofMat]
  cases checkPlan m.nComponents m.preprocessing with
  | error why => exact .inl ⟨_, fun x y => rfl⟩
  | ok plan =>
    split_ifs with hn hp hmany
    · exact .inl ⟨_, fun x y => rfl⟩
    · exact .inl ⟨_, fun x y => rfl⟩
    · exact .inl ⟨_, fun x y => rfl⟩
    · cases hmethod : (checkMethod m.algorithm.methodOr q : Except (ModelError ℝ) Unit) with
      | error e => exact .inl ⟨e, fun x y => bind_eq_error_iff.mpr (.inr ⟨_, rfl,
          bind_eq_error_iff.mpr (.inr ⟨_, rfl, bind_eq_error_iff.mpr (.inl hmethod)⟩)⟩)⟩
      | ok u => exact .inr ⟨hp, plan, rfl, fun x y => bind_eq_ok_iff.mpr ⟨_, rfl,
          bind_eq_ok_iff.mpr ⟨_, rfl, bind_eq_ok_iff.mpr ⟨_, hmethod, rfl⟩⟩⟩⟩

/-- **What a fit to matrices does** once they are accepted: it trains on them. -/
theorem fitTo_of_validate (tools : Toolkit ℝ) {plan : Plan}
    (h : m.validate (.array (.ofMat x)) (.array (.ofResponses flat y)) =
      .ok ⟨plan, n, p, q, x, y, flat⟩) :
    (∀ e, (train tools m.algorithm.methodOr plan flat x y).outcome = .error e →
        (m.fitTo tools flat x y).2.outcome = .error e) ∧
      ∀ f, (train tools m.algorithm.methodOr plan flat x y).outcome = .ok f →
        (m.fitTo tools flat x y).2.outcome = .ok () ∧
          (m.fitTo tools flat x y).1.trained = some ⟨n, p, q, f⟩ := by
  obtain ⟨houtcome, htrained⟩ :=
    m.fit_eq_compute tools (.array (.ofMat x)) (.array (.ofResponses flat y))
  rw [h] at houtcome htrained
  change _ = (m.compute tools ⟨plan, n, p, q, x, y, flat⟩).map _ at houtcome
  change ∀ t, m.compute tools ⟨plan, n, p, q, x, y, flat⟩ = _ → _ at htrained
  unfold compute at houtcome htrained
  dsimp only at houtcome htrained
  constructor
  · intro e he
    rw [he] at houtcome
    exact houtcome
  · intro f hf
    rw [hf] at houtcome htrained
    exact ⟨houtcome, htrained _ rfl⟩

theorem fitTo_of_error {e : ModelError ℝ}
    (h : m.validate (.array (.ofMat x)) (.array (.ofResponses flat y)) = .error e) :
    (m.fitTo tools flat x y).2.outcome = .error e := by
  unfold fitTo fit
  rw [h]
  rfl

/-- **Two fits to matrices of one size** fail in the same way, or both succeed and have learned
what is trained on the first and its image, if the image is what is trained on the second. -/
theorem fitTo_map {g : Plan → Fitted ℝ n p q → Fitted ℝ n p q}
    (h : ∀ plan, checkPlan m.nComponents m.preprocessing = .ok plan →
      (train tools m.algorithm.methodOr plan flat x' y').outcome =
        (train tools m.algorithm.methodOr plan flat x y).outcome.map (g plan)) :
    (∃ e, (m.fitTo tools flat x y).2.outcome = .error e ∧
      (m.fitTo tools flat x' y').2.outcome = .error e) ∨
    (m.fitTo tools flat x y).2.outcome = .ok () ∧ (m.fitTo tools flat x' y').2.outcome = .ok () ∧
      p ≠ 0 ∧ ∃ plan f, checkPlan m.nComponents m.preprocessing = .ok plan ∧
        (train tools m.algorithm.methodOr plan flat x y).outcome = .ok f ∧
        (m.fitTo tools flat x y).1.trained = some ⟨n, p, q, f⟩ ∧
        (m.fitTo tools flat x' y').1.trained = some ⟨n, p, q, g plan f⟩ := by
  rcases m.validate_ofMat flat n p q with ⟨e, he⟩ | ⟨hp, plan, hplan, hvalid⟩
  · exact .inl ⟨e, fitTo_of_error (he x y), fitTo_of_error (he x' y')⟩
  · have hfit := fitTo_of_validate tools (hvalid x y)
    have hfit' := fitTo_of_validate tools (hvalid x' y')
    rw [h plan hplan] at hfit'
    cases hf : (train tools m.algorithm.methodOr plan flat x y).outcome with
    | error e =>
      rw [hf] at hfit'
      exact .inl ⟨e, hfit.1 e hf, hfit'.1 e rfl⟩
    | ok f =>
      rw [hf] at hfit'
      obtain ⟨hok, htrained⟩ := hfit.2 f hf
      obtain ⟨hok', htrained'⟩ := hfit'.2 (g plan f) rfl
      exact .inr ⟨hok, hok', hp, plan, f, hplan, hf, htrained, htrained'⟩

/-! ## 3. Predictions -/

/-- **A prediction for a matrix** is what was learned, applied to it, in the shape of the
responses. -/
theorem predict_ofMat {f : Fitted ℝ n p q} (h : m.trained = some ⟨n, p, q, f⟩) (hp : p ≠ 0)
    {l : ℕ} (new : Mat ℝ l p) :
    m.predict (.array (.ofMat new)) =
      (f.predict new).map fun a => .ofResponses f.envelope.flat a := by
  cases hpredicts : f.predicts with
  | true =>
    rw [predict_eq h hpredicts, readRows_ofMat hp]
    cases hpredict : f.predict new with
    | error e => exact bind_eq_error_iff.mpr (.inr ⟨_, rfl, bind_eq_error_iff.mpr (.inl hpredict)⟩)
    | ok a => exact bind_eq_ok_iff.mpr ⟨_, rfl, bind_eq_ok_iff.mpr ⟨a, hpredict, rfl⟩⟩
  | false =>
    rw [predict_eq_unsupported h hpredicts]
    cases f with
    | pls1 env predicts fit =>
      obtain rfl : predicts = false := hpredicts
      rfl
    | _ => cases hpredicts

/-- **A fit to matrices that are accepted, and a prediction from it.** -/
theorem fitTo_predict {plan : Plan} {f : Fitted ℝ n p q}
    (hvalid : m.validate (.array (.ofMat x)) (.array (.ofResponses flat y)) =
      .ok ⟨plan, n, p, q, x, y, flat⟩)
    (htrain : (train tools m.algorithm.methodOr plan flat x y).outcome = .ok f) (hp : p ≠ 0)
    {l : ℕ} {new : Mat ℝ l p} {a : Mat ℝ l q} (hpredict : f.predict new = .ok a) :
    (m.fitTo tools flat x y).2.outcome = .ok () ∧
      (m.fitTo tools flat x y).1.predict (.array (.ofMat new)) =
        .ok (.ofResponses f.envelope.flat a) := by
  obtain ⟨hok, htrained⟩ := (fitTo_of_validate tools hvalid).2 f htrain
  refine ⟨hok, ?_⟩
  rw [predict_ofMat htrained hp, hpredict]
  rfl

/-- **Two models predict alike,** or refuse alike, if they have learned to. -/
theorem predict_eq_of_alike {m m' : Model ℝ} {f f' : Fitted ℝ n p q}
    (h : m.trained = some ⟨n, p, q, f⟩) (h' : m'.trained = some ⟨n, p, q, f'⟩)
    (hpredicts : f'.predicts = f.predicts) (hname : f'.methodName = f.methodName)
    (hflat : f'.envelope.flat = f.envelope.flat)
    (hpredict : ∀ {l : ℕ} (new : Mat ℝ l p), f'.predict new = f.predict new) (new : Reading ℝ) :
    m'.predict new = m.predict new := by
  cases hp : f.predicts with
  | true => exact predict_congr h' h (hpredicts.trans hp) hp hflat fun rows _ => hpredict rows.2
  | false =>
    rw [predict_eq_unsupported h hp, predict_eq_unsupported h' (hpredicts.trans hp)]
    exact congrArg (fun name => Except.error (ModelError.unsupported name)) hname

end Model

/-! ## 4. Matrices of any size -/

/-- Tables are equal if they have one size and their entries are equal. -/
theorem Fitted.table_ext {K : Type} {r r' c c' : ℕ} {a : Mat K r c} {a' : Mat K r' c'} (hr : r' = r)
    (hc : c' = c) (h : ∀ i j, a'.get i j = a.get (i.cast hr) (j.cast hc)) : table a' = table a := by
  subst hr hc
  exact congrArg table (Mat.ext h)

end PartialLeastSquares
