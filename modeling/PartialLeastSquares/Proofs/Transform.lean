/-
# The life of a transform

A transform as an object, a `_ColumnTransform`, has three statistics, which `fit` removes one
after the other before it looks at its data and sets one after the other once it has read it.
Nothing in the object's type keeps the three together; what keeps them together is that whatever a
fit does in between cannot leave it half way.  So the statistics are those of the last call that
was a fit, or there are none (`statistics_run`), and this holds after any calls in any order,
those that failed included.

What has been learned maps matrices of any number of rows there and back, and back and there,
because no scheme ever divides by a scale that is not positive (`Scheme.scale_pos`).
-/
import Mathlib
import PartialLeastSquares.Proofs.ColumnUnits.Data
import PartialLeastSquares.Proofs.RowByRow

namespace PartialLeastSquares

/-! ## 1. Statistics -/

namespace Statistics

variable {K : Type} [Scalar K]

omit [Scalar K] in
/-- Removing the statistics one after the other removes them all. -/
@[simp]
theorem reset_eq_absent (s : Statistics K) : s.reset = absent := by
  obtain ⟨mean, scale, features⟩ := s
  cases mean <;> cases scale <;> cases features <;> rfl

omit [Scalar K] in
theorem has_absent (name : Statistic) : (absent : Statistics K).has name = false := by
  cases name <;> rfl

/-- What a scheme learns from a table, all of it. -/
def ofTable (scheme : Scheme) (table : Table K) : Statistics K :=
  ⟨some ⟨_, (scheme.learn table.mat).mean⟩, some ⟨_, (scheme.learn table.mat).scale⟩,
    some table.cols⟩

theorem has_ofTable (scheme : Scheme) (table : Table K) (name : Statistic) :
    (ofTable scheme table).has name = true := by
  cases name <;> rfl

/-- What a scheme learns from data: nothing, if it cannot be read. -/
def ofData (scheme : Scheme) (x : Reading K) : Statistics K :=
  match Transform.readTable false x with
  | .ok table => ofTable scheme table
  | .error _ => absent

end Statistics

/-! ## 2. One call -/

namespace Transform

section Calls

variable {K : Type} [Scalar K] (t : Transform K)

/-- **How a fit ends:** the data is refused, and everything has been removed; or it has been read,
and everything is set. -/
theorem fit_cases (x : Reading K) :
    (∃ e, readTable false x = .error e ∧ t.fit x = (⟨t.scheme, .absent⟩, .error e)) ∨
      ∃ table, readTable false x = .ok table ∧
        t.fit x = (⟨t.scheme, .ofTable t.scheme table⟩, .ok ()) := by
  unfold fit reset
  rw [Statistics.reset_eq_absent]
  cases readTable false x with
  | error e => exact .inl ⟨e, rfl, rfl⟩
  | ok table => exact .inr ⟨table, rfl, rfl⟩

theorem fit_fst (x : Reading K) : (t.fit x).1 = ⟨t.scheme, .ofData t.scheme x⟩ := by
  unfold Statistics.ofData
  rcases fit_cases t x with ⟨e, hread, hfit⟩ | ⟨table, hread, hfit⟩ <;> rw [hread, hfit]

/-- A fit followed by a transformation leaves what the fit leaves. -/
theorem fitTransform_fst (x : Reading K) : (t.fitTransform x).1 = (t.fit x).1 := by
  unfold fitTransform
  split <;> rename_i hfit <;> rw [hfit]

/-- The data that a call fits to. -/
def Call.data? : Call K → Option (Reading K)
  | .fit x => some x
  | .configure x => some x
  | .fitTransform x => some x
  | .transform _ => none
  | .inverse _ => none

/-- **What a call leaves:** what its data has to tell if it fits, and everything as it was if it
does not. -/
theorem after_eq (call : Call K) :
    t.after call = ⟨t.scheme, call.data?.elim t.statistics (.ofData t.scheme)⟩ := by
  cases call with
  | fit x => exact fit_fst t x
  | configure x => exact fit_fst t x
  | fitTransform x => exact (fitTransform_fst t x).trans (fit_fst t x)
  | transform x => rfl
  | inverse x => rfl

/-! ## 3. Courses of calls -/

/-- The data of the last call of a course that fits. -/
def lastData? (calls : List (Call K)) : Option (Reading K) := (calls.filterMap Call.data?).getLast?

omit [Scalar K] in
theorem lastData?_concat (calls : List (Call K)) (call : Call K) :
    lastData? (calls ++ [call]) = call.data?.or (lastData? calls) := by
  unfold lastData?
  rw [List.filterMap_append, List.getLast?_append]
  cases h : call.data? <;> simp [h]

/-- **After any calls the statistics are those of the last fit,** whatever it has left.  The
induction is on the course, one call more at its end. -/
theorem run_eq (calls : List (Call K)) :
    t.run calls = ⟨t.scheme, (lastData? calls).elim t.statistics (.ofData t.scheme)⟩ := by
  induction calls using List.reverseRecOn with
  | nil => rfl
  | append_singleton calls call ih =>
    rw [run, List.foldl_concat, ← run, ih, after_eq, lastData?_concat]
    cases call.data? <;> rfl

/-- **The table that the last fit of a course has learned from,** if it has succeeded. -/
def LastFit (calls : List (Call K)) (table : Table K) : Prop :=
  ∃ x, lastData? calls = some x ∧ readTable false x = .ok table

theorem LastFit.cols {calls : List (Call K)} {table : Table K} (h : LastFit calls table) :
    table.cols ≠ 0 := by
  obtain ⟨x, -, hread⟩ := h
  unfold readTable at hread
  split at hread
  · cases hread
  · cases hread
  · split at hread
    · rename_i htable
      obtain rfl := Except.ok.inj hread
      exact Table.cols_of_ofArray? htable
    · cases hread

/-- **A new transform after any calls:** the last fit has failed, if there was one, and nothing is
there; or it has succeeded, and all of it is there. -/
theorem statistics_run (scheme : Scheme) (calls : List (Call K)) :
    ((∀ table, ¬ LastFit calls table) ∧ ((new scheme).run calls).statistics = .absent) ∨
      ∃ table, LastFit calls table ∧ ((new scheme).run calls).statistics = .ofTable scheme table := by
  rw [run_eq]
  cases hlast : lastData? calls with
  | none =>
    refine .inl ⟨?_, rfl⟩
    rintro table ⟨x, hx, -⟩
    cases hlast.symm.trans hx
  | some x =>
    show (_ ∧ Statistics.ofData scheme x = _) ∨ ∃ table, _ ∧ Statistics.ofData scheme x = _
    unfold Statistics.ofData
    cases hread : readTable false x with
    | error e =>
      refine .inl ⟨?_, rfl⟩
      rintro table ⟨x', hx', htable⟩
      obtain rfl := Option.some.inj (hlast.symm.trans hx')
      cases hread.symm.trans htable
    | ok table => exact .inr ⟨table, ⟨x, hlast, hread⟩, rfl⟩

end Calls

/-! ## 4. What a transform answers -/

variable {t : Transform ℝ} {table : Table ℝ}

/-- **A transform that has learned nothing:** no statistic is there, and for want of a fit it
neither transforms anything nor puts anything back. -/
structure Unfit (t : Transform ℝ) : Prop where
  has : ∀ name, t.statistics.has name = false
  transform : ∀ x, t.transform x = .error (.notFitted t.scheme)
  inverse : ∀ x, t.inverse x = .error (.notFitted t.scheme)

/-- **A transform that has learned the statistics of a table.** Every statistic is there and is
that of the table, and no scale is zero or negative.  What it makes of any matrix with these
columns it puts back, and what it puts back it makes again. -/
structure FittedTo (t : Transform ℝ) (table : Table ℝ) : Prop where
  has : ∀ name, t.statistics.has name = true
  mean : t.statistics.mean = some ⟨_, (t.scheme.learn table.mat).mean⟩
  scale : t.statistics.scale = some ⟨_, (t.scheme.learn table.mat).scale⟩
  features : t.statistics.features = some table.cols
  scale_pos : ∀ j, 0 < (t.scheme.learn table.mat).scale.get j
  inverse_transform : ∀ {m : ℕ} (x : Mat ℝ m table.cols), ∃ z : Mat ℝ m table.cols,
    t.transform (.array (.ofMat x)) = .ok ⟨m, _, z⟩ ∧
      t.inverse (.array (.ofMat z)) = .ok ⟨m, _, x⟩
  transform_inverse : ∀ {m : ℕ} (z : Mat ℝ m table.cols), ∃ x : Mat ℝ m table.cols,
    t.inverse (.array (.ofMat z)) = .ok ⟨m, _, x⟩ ∧
      t.transform (.array (.ofMat x)) = .ok ⟨m, _, z⟩

theorem unfit_of_absent (h : t.statistics = .absent) : t.Unfit where
  has name := by rw [h, Statistics.has_absent]
  transform x := by simp only [transform, use, h, Statistics.absent]
  inverse x := by simp only [inverse, use, h, Statistics.absent]

/-- **With the statistics of a table any matrix with its columns is answered.** -/
theorem use_ofMat (h : t.statistics = .ofTable t.scheme table) (hcols : table.cols ≠ 0)
    (f : {m p : ℕ} → ColumnStats ℝ p → Mat ℝ m p → Mat ℝ m p) {m : ℕ} (x : Mat ℝ m table.cols) :
    t.use (.array (.ofMat x)) f = .ok ⟨m, _, f (t.scheme.learn table.mat) x⟩ := by
  have hread : readTable true (.array (.ofMat x)) = .ok ⟨m, table.cols, x⟩ := by
    unfold readTable
    simp only [Table.ofArray?_ofMat hcols (Mat.entryProblem?_real x)]
  unfold use
  rw [h, hread]
  simp only [Statistics.ofTable, ne_eq, not_true_eq_false, if_false, dif_pos]

theorem fittedTo_of_ofTable (h : t.statistics = .ofTable t.scheme table) (hcols : table.cols ≠ 0) :
    t.FittedTo table where
  has name := by rw [h, Statistics.has_ofTable]
  mean := by rw [h]; rfl
  scale := by rw [h]; rfl
  features := by rw [h]; rfl
  scale_pos := t.scheme.scale_pos table.mat
  inverse_transform x := ⟨_, use_ofMat h hcols ColumnStats.apply x, by
    rw [inverse, use_ofMat h hcols, ColumnStats.unapply_apply (t.scheme.scale_pos table.mat)]⟩
  transform_inverse z := ⟨_, use_ofMat h hcols ColumnStats.unapply z, by
    rw [transform, use_ofMat h hcols, ColumnStats.apply_unapply (t.scheme.scale_pos table.mat)]⟩

/-- **In every course of calls a transform has all of one fit or nothing.**  A new transform of any
scheme is used by any calls in any order, successful or failing.  Then it has no statistic and says
so when it is to map data, and the last fit of the course has failed or there was none; or that fit
has succeeded, and the transform has its three statistics, with all scales positive, and maps any
matrix with its columns there and back, and back and there.  A fit succeeds if its data can be
read, whatever came before, and neither way of mapping changes anything. -/
theorem run_all_or_nothing (scheme : Scheme) (calls : List (Call ℝ)) :
    let t := (new scheme : Transform ℝ).run calls
    t.scheme = scheme ∧
    ((∀ table, ¬ LastFit calls table) ∧ t.Unfit ∨
      ∃ table, LastFit calls table ∧ t.FittedTo table) ∧
    (∀ x, (t.fit x).2 = .ok () ↔ ∃ table, readTable false x = .ok table) ∧
    ∀ x, t.after (.transform x) = t ∧ t.after (.inverse x) = t := by
  intro t
  have hscheme : t.scheme = scheme := congrArg Transform.scheme (run_eq (new scheme) calls)
  refine ⟨hscheme, ?_, fun x => ?_, fun x => ⟨rfl, rfl⟩⟩
  · rcases statistics_run scheme calls with ⟨hnone, habsent⟩ | ⟨table, hlast, hall⟩
    · exact .inl ⟨hnone, unfit_of_absent habsent⟩
    · exact .inr ⟨table, hlast, fittedTo_of_ofTable (hscheme ▸ hall) hlast.cols⟩
  · rcases fit_cases t x with ⟨e, hread, hfit⟩ | ⟨table, hread, hfit⟩
    · simp [hread, hfit]
    · simp [hread, hfit]

end Transform

end PartialLeastSquares
