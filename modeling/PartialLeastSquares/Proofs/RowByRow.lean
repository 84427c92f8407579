/-
# Row by row

Every operation by which a fitted method maps new rows makes a row of the result from the row in
the same place, and from nothing else that is in the matrix.  Said for two matrices: where a row of
one is a row of the other, so is it in the results, in the same two places (`row_..._congr`).  The
one operation that could break this is the centering of a kernel of new rows, which takes its means
from the training rows for that reason (`row_centerCrossKernel_congr`).

The case of interest is that of two matrices one below the other (`Mat.stack`), which the arrays of
a caller have in common with the matrices that are read from them (`NdArray.toMat_ofMat`).
-/
import Mathlib
import PartialLeastSquares.Method.KernelPls
import PartialLeastSquares.Method.OrthogonalFilter
import PartialLeastSquares.Method.Pls1
import PartialLeastSquares.Method.Simpls
import PartialLeastSquares.Proofs.Outcome

namespace PartialLeastSquares

variable {K : Type} {n m m' p q : ℕ}

/-! ## 1. Rows -/

namespace Mat

section Rows

variable {a b : Mat K m p} {a' b' : Mat K m' p} {i : Fin m} {i' : Fin m'}

theorem row_ext (h : ∀ j, a.get i j = a'.get i' j) : a.row i = a'.row i' := Vec.ext h

theorem get_congr_of_row (h : a.row i = a'.row i') (j : Fin p) : a.get i j = a'.get i' j :=
  congrArg (Vec.get · j) h

theorem row_ofCol_congr {u : Vec K m} {u' : Vec K m'} (h : u.get i = u'.get i') :
    (ofCol u).row i = (ofCol u').row i' :=
  row_ext fun j => by rw [get_ofCol, get_ofCol, h]

variable [Scalar K]

theorem row_sub_congr (ha : a.row i = a'.row i') (hb : b.row i = b'.row i') :
    (a.sub b).row i = (a'.sub b').row i' :=
  row_ext fun j => by rw [get_sub, get_sub, get_congr_of_row ha, get_congr_of_row hb]

/-- A row of a product is made from one row of the first factor. -/
theorem row_mul_congr (h : a.row i = a'.row i') (b : Mat K p q) :
    (a.mul b).row i = (a'.mul b).row i' :=
  row_ext fun j => by simp only [get_mul, get_congr_of_row h]

theorem row_mulT_congr (h : a.row i = a'.row i') (b : Mat K q p) :
    (a.mulT b).row i = (a'.mulT b).row i' :=
  row_ext fun j => by simp only [get_mulT, get_congr_of_row h]

theorem get_apply_congr (h : a.row i = a'.row i') (v : Vec K p) :
    (a.apply v).get i = (a'.apply v).get i' := by
  simp only [get_apply, get_congr_of_row h]

theorem row_outer_congr {u : Vec K m} {u' : Vec K m'} (h : u.get i = u'.get i') (v : Vec K p) :
    (outer u v).row i = (outer u' v).row i' :=
  row_ext fun j => by rw [get_outer, get_outer, h]

end Rows

/-! ## 2. One matrix below another -/

section Stack

variable {r s : ℕ}

/-- The rows of one matrix, followed by the rows of another. -/
def stack (a : Mat K r p) (b : Mat K s p) : Mat K (r + s) p := ⟨a.rows ++ b.rows⟩

theorem row_stack_left (a : Mat K r p) (b : Mat K s p) (i : Fin r) :
    (a.stack b).row (Fin.castAdd s i) = a.row i :=
  Vector.getElem_append_left i.isLt

theorem row_stack_right (a : Mat K r p) (b : Mat K s p) (i : Fin s) :
    (a.stack b).row (Fin.natAdd r i) = b.row i := by
  refine (Vector.getElem_append_right (Nat.add_lt_add_left i.isLt r) (Nat.le_add_right r i)).trans ?_
  simp only [Nat.add_sub_cancel_left]
  rfl

/-- **A matrix is one on top of another** if its rows are. -/
theorem eq_stack {c : Mat K (r + s) p} {a : Mat K r p} {b : Mat K s p}
    (ha : ∀ i, c.row (Fin.castAdd s i) = a.row i) (hb : ∀ i, c.row (Fin.natAdd r i) = b.row i) :
    c = a.stack b := by
  refine Mat.ext fun i j => ?_
  have hrow : c.row i = (a.stack b).row i := by
    induction i using Fin.addCases with
    | left i => rw [ha, row_stack_left]
    | right i => rw [hb, row_stack_right]
  exact congrArg (Vec.get · j) hrow

theorem toList_stack (a : Mat K r p) (b : Mat K s p) :
    (a.stack b).toList = a.toList ++ b.toList := by
  rw [toList, stack, Vector.toList_append, List.flatMap_append]
  rfl

/-- A place in a list of rows, one after the other, is counted in whole rows.  The induction is on
the rows: one row less is as many places less as a row has. -/
theorem getElem?_flatMap_toList (rows : List (Vec K p)) (j : Fin p) {k : ℕ} (hk : k < rows.length) :
    (rows.flatMap Vector.toList)[k * p + j.val]? = some (rows[k].get j) := by
  induction rows generalizing k with
  | nil => exact absurd hk (Nat.not_lt_zero k)
  | cons row rest ih =>
    rw [List.flatMap_cons]
    cases k with
    | zero =>
      rw [Nat.zero_mul, Nat.zero_add, List.getElem?_append_left (by simp)]
      simp [Vec.get, Vector.get_eq_getElem]
    | succ k =>
      have hplace : (k + 1) * p + j.val = k * p + j.val + row.toList.length := by
        rw [Vector.length_toList]
        ring
      rw [hplace, List.getElem?_append_right (Nat.le_add_left _ _), Nat.add_sub_cancel]
      exact ih (Nat.lt_of_succ_lt_succ hk)

/-- **The entry in a row and a column** stands in the list of all entries after whole rows. -/
theorem getElem?_toList (a : Mat K n p) (i : Fin n) (j : Fin p) :
    a.toList[i.val * p + j.val]? = some (a.get i j) := by
  refine (getElem?_flatMap_toList a.rows.toList j (k := i) (by simp)).trans ?_
  simp [get, Vector.get_eq_getElem]

end Stack

end Mat

namespace NdArray

/-- The rows of one array, followed by the rows of another: the first axis is as long as both. -/
def stack (a b : NdArray K) : NdArray K :=
  ⟨(a.shape.headD 0 + b.shape.headD 0) :: a.shape.tail, a.entries ++ b.entries⟩

theorem ofMat_stack {r s : ℕ} (a : Mat K r p) (b : Mat K s p) :
    ofMat (a.stack b) = (ofMat a).stack (ofMat b) := by
  rw [ofMat, Mat.toList_stack]
  rfl

theorem toMat_ofMat [Scalar K] (a : Mat K n p) : (ofMat a).toMat n p = a := by
  refine Mat.ext fun i j => ?_
  rw [toMat, Mat.get_ofFn]
  simp only [ofMat, Array.getD_eq_getD_getElem?, List.getElem?_toArray, Mat.getElem?_toList,
    Option.getD_some]

end NdArray

namespace Table

variable [Scalar K]

theorem cols_of_ofArray? {rowless : Bool} {a : NdArray K} {t : Table K}
    (h : ofArray? rowless a = .ok t) : t.cols ≠ 0 := by
  unfold ofArray? at h
  split at h
  · cases h
  · cases h
  · simp only at h
    split at h
    · cases h
    · split_ifs at h with hrows hcols
      obtain rfl := Except.ok.inj h
      exact hcols
  · cases h

/-- **A matrix with columns is read from its array,** if its entries are finite. -/
theorem ofArray?_ofMat {a : Mat K m p} (hp : p ≠ 0) (hfinite : a.entryProblem? = none) :
    ofArray? true (.ofMat a) = .ok ⟨m, p, a⟩ := by
  have hread : ((NdArray.ofMat a).toMat m p).entryProblem? = none := by
    rw [NdArray.toMat_ofMat, hfinite]
  have htable : ofArray? true (NdArray.ofMat a) = .ok ⟨m, p, (NdArray.ofMat a).toMat m p⟩ := by
    unfold ofArray?
    simp only [NdArray.ofMat] at hread ⊢
    simp [hread, hp]
  rw [htable, NdArray.toMat_ofMat]

end Table

/-! ## 3. Preprocessing and kernels -/

section Maps

variable [Scalar K] {a : Mat K m p} {a' : Mat K m' p} {i : Fin m} {i' : Fin m'}

theorem ColumnStats.row_apply_congr (s : ColumnStats K p) (h : a.row i = a'.row i') :
    (s.apply a).row i = (s.apply a').row i' :=
  Mat.row_ext fun j => by rw [get_apply, get_apply, Mat.get_congr_of_row h]

theorem ColumnStats.row_unapply_congr (s : ColumnStats K p) (h : a.row i = a'.row i') :
    (s.unapply a).row i = (s.unapply a').row i' :=
  Mat.row_ext fun j => by rw [get_unapply, get_unapply, Mat.get_congr_of_row h]

theorem KernelFn.row_gram_congr (f : KernelFn K) (h : a.row i = a'.row i') (b : Mat K n p) :
    (f.gram a b).row i = (f.gram a' b).row i' :=
  Mat.row_ext fun j => by rw [get_gram, get_gram, h]

/-- **New rows lose the means of the training rows,** not their own. -/
theorem row_centerCrossKernel_congr {cross : Mat K m n} {cross' : Mat K m' n}
    (h : cross.row i = cross'.row i') (training : Mat K n n) :
    (centerCrossKernel cross training).row i = (centerCrossKernel cross' training).row i' := by
  have hmeans : (Mat.mul (Mat.const (share n)) training : Mat K m n).row i =
      (Mat.mul (Mat.const (share n)) training : Mat K m' n).row i' :=
    Mat.row_mul_congr (Mat.row_ext fun j => by rw [Mat.get_const, Mat.get_const]) training
  exact Mat.row_mul_congr (Mat.row_sub_congr h hmeans) _

/-! ## 4. Methods -/

/-- Each score of a row is made from that row.  The induction is on the removals that are replayed:
what they leave of the row is made from it as well. -/
theorem Pls1.getD_replay_congr (cs : List (Pls1.Component K n p)) (h : a.row i = a'.row i') (k : ℕ) :
    ((replay cs a).getD k Vec.zero).get i = ((replay cs a').getD k Vec.zero).get i' := by
  induction cs generalizing a a' k with
  | nil => exact (Vec.get_ofFn (fun _ => 0) i).trans (Vec.get_ofFn (fun _ => 0) i').symm
  | cons c cs ih =>
    have hscore : (a.apply c.weight).get i = (a'.apply c.weight).get i' :=
      Mat.get_apply_congr h c.weight
    cases k with
    | zero => exact hscore
    | succ k => exact ih (Mat.row_sub_congr h (Mat.row_outer_congr hscore c.loading)) k

theorem Pls1.Fit.row_transform_congr (f : Pls1.Fit K n p) (h : a.row i = a'.row i') :
    (f.transform a).row i = (f.transform a').row i' := by
  refine Mat.row_ext fun j => ?_
  have hentry {l : ℕ} (b : Mat K l p) (k : Fin l) :
      (f.transform b).get k j = ((replay f.components b).getD j Vec.zero).get k := by
    rw [transform, columns, Mat.get_ofFn, Array.getD_eq_getD_getElem?, List.getElem?_toArray,
      List.getD_eq_getElem?_getD]
  rw [hentry, hentry]
  exact getD_replay_congr f.components h j

theorem Pls1.Fit.get_predict_congr (f : Pls1.Fit K n p) (h : a.row i = a'.row i') :
    (f.predict a).get i = (f.predict a').get i' :=
  Mat.get_apply_congr (f.row_transform_congr h) _

theorem Simpls.Fit.row_transform_congr (f : Simpls.Fit K p) (h : a.row i = a'.row i') :
    (f.transform a).row i = (f.transform a').row i' :=
  Mat.row_mul_congr h _

theorem Simpls.Fit.get_predict_congr (f : Simpls.Fit K p) (h : a.row i = a'.row i') :
    (f.predict a).get i = (f.predict a').get i' :=
  Mat.get_apply_congr h _

theorem OrthogonalFilter.Fit.row_transform_congr (f : OrthogonalFilter.Fit K n p)
    (h : a.row i = a'.row i') : (f.transform a).row i = (f.transform a').row i' :=
  Mat.row_sub_congr h (Mat.row_mulT_congr (Mat.row_mul_congr h _) _)

namespace KernelPls.Fit

variable {f : KernelPls.Fit K n p q}

/-- Scores of rows come from the kernel of those rows with the training rows. -/
theorem exists_gram_of_transform {t : Mat K m f.components.length} (h : f.transform a = .ok t) :
    ∃ fn, f.kernel.function = .ok fn ∧ (centerCrossKernel (fn.gram (f.xStats.apply a) f.training)
      f.raw).mul (responseScores f.components) = t := by
  unfold transform at h
  split at h
  · cases h
  · split at h
    · cases h
    · rename_i cross hcross
      obtain ⟨_, -, hcross⟩ := bind_eq_ok_iff.mp hcross
      obtain ⟨_, -, hcross⟩ := bind_eq_ok_iff.mp hcross
      obtain ⟨_, -, hcross⟩ := bind_eq_ok_iff.mp hcross
      obtain ⟨fn, hfn, hcross⟩ := bind_eq_ok_iff.mp hcross
      obtain rfl := Except.ok.inj hcross
      exact ⟨fn, hfn, Except.ok.inj h⟩

theorem row_transform_congr {t : Mat K m f.components.length} {t' : Mat K m' f.components.length}
    (ht : f.transform a = .ok t) (ht' : f.transform a' = .ok t') (h : a.row i = a'.row i') :
    t.row i = t'.row i' := by
  obtain ⟨fn, hfn, rfl⟩ := exists_gram_of_transform ht
  obtain ⟨fn', hfn', rfl⟩ := exists_gram_of_transform ht'
  obtain rfl : fn = fn' := Except.ok.inj (hfn.symm.trans hfn')
  have hgram := fn.row_gram_congr (f.xStats.row_apply_congr h) f.training
  exact Mat.row_mul_congr (row_centerCrossKernel_congr hgram f.raw) _

theorem exists_transform_of_predict {y : Mat K m q} (h : f.predict a = .ok y) :
    ∃ t, f.transform a = .ok t ∧ f.yStats.unapply (t.mul f.coefficients) = y := by
  unfold predict at h
  split at h
  · cases h
  · rename_i t ht
    dsimp only at h
    split at h
    · cases h
    · exact ⟨t, ht, Except.ok.inj h⟩

theorem row_predict_congr {y : Mat K m q} {y' : Mat K m' q} (hy : f.predict a = .ok y)
    (hy' : f.predict a' = .ok y') (h : a.row i = a'.row i') : y.row i = y'.row i' := by
  obtain ⟨t, ht, rfl⟩ := exists_transform_of_predict hy
  obtain ⟨t', ht', rfl⟩ := exists_transform_of_predict hy'
  exact f.yStats.row_unapply_congr (Mat.row_mul_congr (row_transform_congr ht ht' h) _)

end KernelPls.Fit

end Maps

end PartialLeastSquares
