/-
# Thinning out

`slim` decides entry by entry what stays of a column: an entry stays if few enough others rank
before it.  Said for the column as a whole, its rows are put in order once, by decreasing
magnitude and where magnitudes are equal from the top (`ranking`), and the first rows of that
order stay.  The two agree because the number of rows that rank before a row is its place in the
order (`rank_ranking`).

What is dropped is set to zero, and what stayed may be zero too; but a row that was dropped stood
further behind already, so it never comes to rank before one that stayed (`precedes_slim_iff`).
Thinning out what has been thinned out is therefore thinning out once, to the smaller of the two
numbers.
-/
import Mathlib
import PartialLeastSquares.Data.Operations
import PartialLeastSquares.Method.Simpls
import PartialLeastSquares.Proofs.Exact.Scalar
import PartialLeastSquares.Proofs.RowByRow

namespace PartialLeastSquares.Simpls

variable {n p : ℕ}

/-! ## 1. The order of the rows -/

/-- **One row comes before another:** its entry is larger in magnitude, or as large and above. -/
def Precedes (v : Vec ℝ n) (l i : Fin n) : Prop :=
  |v.get i| < |v.get l| ∨ |v.get l| = |v.get i| ∧ l < i

variable {v : Vec ℝ n} {i l : Fin n}

theorem ranksBefore_real_iff :
    ranksBefore (v.get l) l.val (v.get i) i.val = true ↔ Precedes v l i := by
  have hnan : ∀ x : ℝ, Scalar.isNaN x = false := fun _ => rfl
  have hlt : ∀ x y : ℝ, Scalar.abs x < Scalar.abs y ↔ |x| < |y| := fun _ _ => Iff.rfl
  unfold ranksBefore Precedes
  simp only [hnan, hlt, Bool.false_eq_true, if_false, Bool.false_or, Bool.or_eq_true,
    Bool.and_eq_true, Bool.not_eq_true', decide_eq_true_eq, decide_eq_false_iff_not, not_lt]
  constructor
  · rintro (hlarger | ⟨hle, habove⟩)
    · exact .inl hlarger
    · rcases hle.lt_or_eq with hlarger | heq
      · exact .inl hlarger
      · exact .inr ⟨heq.symm, habove⟩
  · rintro (hlarger | ⟨heq, habove⟩)
    · exact .inl hlarger
    · exact .inr ⟨heq.ge, habove⟩

theorem Precedes.le (h : Precedes v l i) : |v.get i| ≤ |v.get l| :=
  h.elim le_of_lt fun h => h.1.ge

theorem Precedes.asymm (h : Precedes v l i) : ¬ Precedes v i l := by
  intro h'
  rcases h with hlarger | ⟨heq, habove⟩
  · exact hlarger.not_ge h'.le
  · rcases h' with hlarger' | ⟨-, habove'⟩
    · exact hlarger'.not_ge heq.ge
    · exact habove.not_gt habove'

/-- **The rows in order:** the stable sort by decreasing magnitude, as the row in each place. -/
noncomputable def ranking (v : Vec ℝ n) : Equiv.Perm (Fin n) := Tuple.sort fun i => -|v.get i|

/-- **A row in an earlier place comes before one in a later place.** -/
theorem precedes_ranking (v : Vec ℝ n) {k k' : Fin n} (h : k < k') :
    Precedes v (ranking v k) (ranking v k') := by
  obtain ⟨hmono, hstable⟩ := Tuple.eq_sort_iff.mp (rfl : ranking v = Tuple.sort _)
  rcases (neg_le_neg_iff.mp (hmono h.le)).lt_or_eq with hlarger | heq
  · exact .inl hlarger
  · exact .inr ⟨heq.symm, hstable k k' h (congrArg _ heq.symm)⟩

theorem precedes_ranking_iff {k k' : Fin n} :
    Precedes v (ranking v k) (ranking v k') ↔ k < k' := by
  refine ⟨fun h => ?_, precedes_ranking v⟩
  by_contra hge
  rcases (not_lt.mp hge).lt_or_eq with hlt | rfl
  · exact h.asymm (precedes_ranking v hlt)
  · exact h.asymm h

/-! ## 2. Ranks -/

theorem foldl_count (t : Fin n → Prop) [DecidablePred t] :
    Fin.foldl n (fun count l => if t l then count + 1 else count) 0 =
      (Finset.univ.filter t).card := by
  rw [Finset.card_filter]
  induction n with
  | zero => rfl
  | succ n ih =>
    rw [Fin.foldl_succ_last, Fin.sum_univ_castSucc, ih]
    split <;> rfl

/-- **A rank is a place,** in any order in which the rows that come before a row are those in the
places before it. -/
theorem rank_of_precedes (order : Equiv.Perm (Fin n)) {k : Fin n}
    (h : ∀ l, Precedes v (order l) (order k) ↔ l < k) : rank v (order k) = k := by
  have hbefore : (Finset.univ.filter fun l => ranksBefore (v.get l) l.val (v.get (order k))
      (order k).val = true) = (Finset.Iio k).map order.toEmbedding := by
    ext l
    rw [Finset.mem_filter, Finset.mem_map_equiv, Finset.mem_Iio, ranksBefore_real_iff, ← h,
      Equiv.apply_symm_apply]
    exact and_iff_right (Finset.mem_univ l)
  rw [rank, foldl_count, hbefore, Finset.card_map, Fin.card_Iio]

theorem rank_ranking (v : Vec ℝ n) (k : Fin n) : rank v (ranking v k) = k :=
  rank_of_precedes (ranking v) fun _ => precedes_ranking_iff

/-! ## 3. What stays -/

variable {a : Mat ℝ n p} {count : ℤ} {j : Fin p}

/-- **What stays is known by its rank,** whatever the number. -/
theorem get_slim (hpos : 0 < count) (a : Mat ℝ n p) (i : Fin n) (j : Fin p) :
    (slim a count).get i j = if (rank (a.col j) i : ℤ) < count then a.get i j else 0 := by
  unfold slim
  split
  · rename_i hall
    have hrank : (rank (a.col j) i : ℤ) < count := by
      obtain ⟨k, rfl⟩ := (ranking (a.col j)).surjective i
      rw [rank_ranking]
      have := hall.resolve_left (not_le.mpr hpos)
      omega
    rw [if_pos hrank]
  · rw [Mat.get_ofFn]

theorem get_slim_of_lt (hpos : 0 < count) {k : Fin n} (hk : (k : ℤ) < count) :
    (slim a count).get (ranking (a.col j) k) j = a.get (ranking (a.col j) k) j := by
  rw [get_slim hpos, rank_ranking, if_pos hk]

theorem get_slim_of_le (hpos : 0 < count) {k : Fin n} (hk : count ≤ k) :
    (slim a count).get (ranking (a.col j) k) j = 0 := by
  rw [get_slim hpos, rank_ranking, if_neg (not_lt.mpr hk)]

/-! ## 4. Thinning out twice -/

/-- **What stayed is preceded by the same rows as before.**  A row that stayed is as large as it
was, and one that was dropped is zero and stood behind. -/
theorem precedes_slim_iff (hpos : 0 < count) {k k' : Fin n} (hk : (k' : ℤ) < count) :
    Precedes ((slim a count).col j) (ranking (a.col j) k) (ranking (a.col j) k') ↔ k < k' := by
  rcases lt_or_ge (k : ℤ) count with hstays | hdropped
  · rw [← precedes_ranking_iff (v := a.col j)]
    unfold Precedes
    simp only [Mat.get_col, get_slim_of_lt hpos hk, get_slim_of_lt hpos hstays]
  · have hbehind : k' < k := by omega
    have hbefore := precedes_ranking (a.col j) hbehind
    refine iff_of_false ?_ hbehind.not_gt
    unfold Precedes at hbefore ⊢
    simp only [Mat.get_col, get_slim_of_lt hpos hk, get_slim_of_le hpos hdropped, abs_zero]
      at hbefore ⊢
    rintro (hsmaller | ⟨hzero, habove⟩)
    · exact absurd hsmaller (not_lt.mpr (abs_nonneg _))
    · rcases hbefore with hlarger | ⟨-, hbelow⟩
      · exact absurd hlarger (not_lt.mpr (hzero ▸ abs_nonneg _))
      · exact absurd habove hbelow.not_gt

theorem rank_slim (hpos : 0 < count) {k : Fin n} (hk : (k : ℤ) < count) :
    rank ((slim a count).col j) (ranking (a.col j) k) = k :=
  rank_of_precedes (ranking (a.col j)) fun _ => precedes_slim_iff hpos hk

/-- **Thinning out twice is thinning out once,** to the smaller number. -/
theorem slim_slim {count' : ℤ} (hpos : 0 < count) (hpos' : 0 < count') (a : Mat ℝ n p) :
    slim (slim a count) count' = slim a (min count count') := by
  refine Mat.ext fun i j => ?_
  obtain ⟨k, rfl⟩ := (ranking (a.col j)).surjective i
  rw [get_slim hpos', get_slim (lt_min hpos hpos'), rank_ranking]
  rcases lt_or_ge (k : ℤ) count with hstays | hdropped
  · rw [rank_slim hpos hstays, get_slim_of_lt hpos hstays]
    simp only [lt_min_iff, hstays, true_and]
  · rw [get_slim_of_le hpos hdropped, ite_self, if_neg]
    exact fun h => hdropped.not_gt (lt_min_iff.mp h).1

/-! ## 5. The law -/

/-- **Thinning out keeps the first rows of each column** by decreasing magnitude, and where
magnitudes are equal from the top.  A number that is not positive or not less than the number of
rows keeps everything; any other one keeps just as many rows of each column as it says, unchanged,
none of them smaller than any that is dropped, and sets the others to zero.  To thin out again is
to have thinned out to the smaller number. -/
theorem slim_keeps_first (a : Mat ℝ n p) (count : ℤ) :
    (NdArray.ofMat a).slim (.int count) = .ok (.ofMat (slim a count)) ∧
    (count ≤ 0 ∨ n ≤ count → slim a count = a) ∧
    (0 < count → count < n → ∀ j, ∃ order : Equiv.Perm (Fin n),
      (∀ k k', k < k' → Precedes (a.col j) (order k) (order k')) ∧
      (∀ k, (slim a count).get (order k) j =
        if (k : ℤ) < count then a.get (order k) j else 0) ∧
      ∀ k k' : Fin n, (k : ℤ) < count → count ≤ k' → |a.get (order k') j| ≤ |a.get (order k) j|) ∧
    (0 < count → ∀ count', 0 < count' →
      slim (slim a count) count' = slim a (min count count')) := by
  refine ⟨?_, fun h => if_pos h, fun hpos _ j => ?_,
    fun hpos count' hpos' => slim_slim hpos hpos' a⟩
  · show Except.ok (NdArray.ofMat (slim ((NdArray.ofMat a).toMat n p) count)) = _
    rw [NdArray.toMat_ofMat]
  · refine ⟨ranking (a.col j), fun k k' h => precedes_ranking _ h, fun k => ?_,
      fun k k' hk hk' => ?_⟩
    · rw [get_slim hpos, rank_ranking]
    · have hfirst : k < k' := by omega
      have hle := (precedes_ranking (a.col j) hfirst).le
      rwa [Mat.get_col, Mat.get_col] at hle

/-- Three rows of which the first two are as large as each other. -/
noncomputable def tied : Mat ℝ 3 1 := Mat.ofRat !![2; -2; 1]

theorem not_precedes_first (l : Fin 3) : ¬ Precedes (tied.col 0) l 0 := by
  unfold Precedes
  simp only [Mat.get_col, tied, Mat.get_ofRat]
  fin_cases l <;> norm_num

/-- Of two rows that are as large as each other the upper one stays. -/
theorem slim_keeps_first_tied : (slim tied 1).get 0 0 = 2 ∧ (slim tied 1).get 1 0 = 0 := by
  obtain ⟨order, hfirst, hget, -⟩ :=
    (slim_keeps_first tied 1).2.2.1 one_pos (by norm_num) 0
  have hupper : order 0 = 0 := by
    obtain ⟨k, hk⟩ := order.surjective 0
    rcases (Fin.zero_le k).eq_or_lt with rfl | hpos
    · exact hk
    · exact absurd (hk ▸ hfirst 0 k hpos) (not_precedes_first _)
  obtain ⟨k, hk⟩ := order.surjective 1
  have hlower : ¬ ((k : ℕ) : ℤ) < 1 := fun h => by
    obtain rfl : k = 0 := by omega
    exact absurd (hupper.symm.trans hk) (by decide)
  refine ⟨?_, ?_⟩
  · have hstays := hget 0
    rw [hupper] at hstays
    refine hstays.trans ((if_pos (by norm_num)).trans ?_)
    simp [tied]
  · rw [← hk, hget, if_neg hlower]

end PartialLeastSquares.Simpls
