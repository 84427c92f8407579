/-
# Data in other units

An array in other units is the array with every entry times a factor.  Reading it as a matrix, the
statistics of its columns and the inner products of its rows all carry the factor along, and over
the reals every check of the entries accepts it as it accepts the array.

Of the schemes of preprocessing two carry the factor along (`Scheme.learn_scale`).  The third
divides it out again, up to its own test for columns that do not vary, and is left out of this
account.
-/
import Mathlib
import PartialLeastSquares.Model
import PartialLeastSquares.Proofs.LinearKernel
import PartialLeastSquares.Proofs.Rescaling.Arithmetic

namespace PartialLeastSquares

variable {n m p q : ℕ}

/-! ## 1. Arrays -/

/-- Every entry of an array times a scalar. -/
def NdArray.scale {K : Type} [Scalar K] (a : NdArray K) (c : K) : NdArray K :=
  ⟨a.shape, a.entries.map fun x => x * c⟩

def Reading.scale {K : Type} [Scalar K] (x : Reading K) (c : K) : Reading K :=
  match x with
  | .array a => .array (a.scale c)
  | .sparse => .sparse
  | .unreadable e => .unreadable e

def Table.scale {K : Type} [Scalar K] (t : Table K) (c : K) : Table K :=
  ⟨t.rows, t.cols, t.mat.scale c⟩

namespace NdArray

variable (a : NdArray ℝ) (c : ℝ)

theorem shape_scale : (a.scale c).shape = a.shape := rfl

theorem toMat_scale (n p : ℕ) : (a.scale c).toMat n p = (a.toMat n p).scale c := by
  refine Mat.ext fun i j => ?_
  rw [Mat.get_scale, toMat, toMat, Mat.get_ofFn, Mat.get_ofFn]
  simp only [scale, Array.getD_eq_getD_getElem?, List.getElem?_toArray, List.getElem?_map]
  cases a.entries[i.val * p + j.val]? with
  | none => exact (zero_mul c).symm
  | some x => rfl

theorem column_scale : (a.scale c).column = a.column.scale c := by
  simp only [column, scale, List.length_map]

end NdArray

/-- The entries of a matrix in other units, row after row. -/
theorem Mat.toList_scale (a : Mat ℝ n p) (c : ℝ) :
    (a.scale c).toList = a.toList.map fun x => x * c := by
  have hrows : a.scale c = ⟨a.rows.map (Vector.map fun x => x * c)⟩ := by
    refine Mat.ext fun i j => (get_scale a c i j).trans ?_
    simp only [get, Vec.get, Vector.get_eq_getElem, Vector.getElem_map]
  rw [hrows, toList, toList, Vector.toList_map, List.flatMap_map, List.map_flatMap]
  exact congrArg (List.flatMap · _) (funext fun row => Vector.toList_map)

theorem NdArray.ofMat_scale (a : Mat ℝ n p) (c : ℝ) : ofMat (a.scale c) = (ofMat a).scale c := by
  rw [ofMat, ofMat, scale, Mat.toList_scale]

/-- **An array in other units is a matrix if and only if the array is,** and otherwise no matrix
for the same reason. -/
theorem Table.ofArray?_scale (rowless : Bool) (a : NdArray ℝ) (c : ℝ) :
    ofArray? rowless (a.scale c) = (ofArray? rowless a).map fun t => t.scale c := by
  unfold ofArray?
  simp only [NdArray.toMat_scale, Mat.entryProblem?_real, NdArray.shape_scale]
  split
  · rfl
  · rfl
  · split_ifs <;> rfl
  · rfl

/-! ## 2. Statistics of the columns -/

/-- Statistics in other units: what is subtracted carries the factor, what is divided by does
not. -/
def ColumnStats.rescale {K : Type} [Scalar K] (s : ColumnStats K p) (c : K) : ColumnStats K p :=
  ⟨s.mean.scale c, s.scale⟩

namespace ColumnStats

variable (s : ColumnStats ℝ p) (x : Mat ℝ m p) (c : ℝ)

theorem rescale_apply : (s.rescale c).apply (x.scale c) = (s.apply x).scale c := by
  refine Mat.ext fun i j => ?_
  rw [get_apply, Mat.get_scale, Mat.get_scale, get_apply, rescale, Vec.get_scale, ← sub_mul,
    div_mul_eq_mul_div]

theorem rescale_unapply : (s.rescale c).unapply (x.scale c) = (s.unapply x).scale c := by
  refine Mat.ext fun i j => ?_
  rw [get_unapply, Mat.get_scale, Mat.get_scale, get_unapply, rescale, Vec.get_scale]
  ring

end ColumnStats

theorem columnMeans_scale (x : Mat ℝ n p) (c : ℝ) :
    columnMeans (x.scale c) = (columnMeans x).scale c := by
  refine Vec.ext fun j => ?_
  rw [columnMeans, Vec.get_ofFn, Vec.get_scale, columnMeans, Vec.get_ofFn, Scalar.sum_real,
    Scalar.sum_real]
  simp only [Mat.get_scale]
  rw [← Finset.sum_mul, div_mul_eq_mul_div]

/-- **What a scheme learns in other units,** unless it divides by deviations. -/
theorem Scheme.learn_scale {scheme : Scheme} (h : scheme ≠ .standardize) (x : Mat ℝ n p) (c : ℝ) :
    scheme.learn (x.scale c) = (scheme.learn x).rescale c := by
  cases scheme with
  | none =>
    have hzero : (Vec.zero : Vec ℝ p).scale c = Vec.zero :=
      Vec.ext fun j => by
        rw [Vec.get_scale, Vec.zero, Vec.get_ofFn]
        exact zero_mul c
    unfold learn ColumnStats.rescale
    rw [hzero]
  | center =>
    unfold learn ColumnStats.rescale
    rw [columnMeans_scale]
  | standardize => exact absurd rfl h

/-- Preprocessed data in other units is the data in other units, preprocessed. -/
theorem Scheme.learn_apply_scale {scheme : Scheme} (h : scheme ≠ .standardize) (x : Mat ℝ n p)
    (c : ℝ) :
    (scheme.learn (x.scale c)).apply (x.scale c) = ((scheme.learn x).apply x).scale c := by
  rw [learn_scale h, ColumnStats.rescale_apply]

/-! ## 3. The linear kernel -/

theorem KernelFn.gram_linear_scale (a : Mat ℝ n p) (b : Mat ℝ m p) (c : ℝ) :
    KernelFn.linear.gram (a.scale c) (b.scale c) = (KernelFn.linear.gram a b).scale (c * c) := by
  refine Mat.matrix_injective ?_
  rw [matrix_gram_linear, Mat.matrix_scale, Mat.matrix_scale, Mat.matrix_scale, matrix_gram_linear,
    Matrix.transpose_smul, Matrix.smul_mul, Matrix.mul_smul, smul_smul]

namespace Kernel

theorem checkMatrix_scale (a : Mat ℝ n p) (c : ℝ) : checkMatrix (a.scale c) = checkMatrix a := by
  unfold checkMatrix
  rw [Mat.entryProblem?_real, Mat.entryProblem?_real]

/-- **The kernel of rows in other units** has a value if and only if the kernel of the rows has. -/
theorem gram_scale (a : Mat ℝ n p) (b : Mat ℝ m p) (c : ℝ) :
    linear.gram (a.scale c) (b.scale c) = (linear.gram a b).map fun g => g.scale (c * c) := by
  unfold gram
  rw [checkMatrix_scale, checkMatrix_scale]
  cases (linear.checkParameters : Except KernelError Unit) with
  | error e => rfl
  | ok u =>
    cases checkMatrix a with
    | error e => rfl
    | ok u =>
      cases checkMatrix b with
      | error e => rfl
      | ok u => exact congrArg Except.ok (KernelFn.gram_linear_scale a b c)

theorem selfGram_scale (a : Mat ℝ n p) (c : ℝ) :
    linear.selfGram (a.scale c) = (linear.selfGram a).map fun g => g.scale (c * c) := by
  unfold selfGram
  rw [checkMatrix_scale]
  cases (linear.checkParameters : Except KernelError Unit) with
  | error e => rfl
  | ok u =>
    cases checkMatrix a with
    | error e => rfl
    | ok u => exact congrArg Except.ok (KernelFn.gram_linear_scale a a c)

end Kernel

theorem centerKernel_scale (k : Mat ℝ n n) (c : ℝ) :
    centerKernel (k.scale c) = (centerKernel k).scale c := by
  rw [centerKernel, Mat.mul_scale, Mat.scale_mul]
  rfl

theorem centerCrossKernel_scale (cross : Mat ℝ m n) (training : Mat ℝ n n) (c : ℝ) :
    centerCrossKernel (cross.scale c) (training.scale c) =
      (centerCrossKernel cross training).scale c := by
  rw [centerCrossKernel, Mat.mul_scale, Mat.scale_sub, Mat.scale_mul]
  rfl

/-! ## 4. Samples and new rows -/

/-- A sample in other units, of the predictors and of the responses. -/
def Sample.scale {K : Type} [Scalar K] (s : Sample K) (a b : K) : Sample K :=
  ⟨s.rows, s.features, s.targets, s.x.scale a, s.y.scale b, s.flat⟩

theorem readPredictors_scale (x : Reading ℝ) (c : ℝ) :
    readPredictors (x.scale c) = (readPredictors x).map fun t => t.scale c := by
  cases x with
  | array a =>
    simp only [Reading.scale, readPredictors, Table.ofArray?_scale]
    cases Table.ofArray? false a <;> rfl
  | sparse => rfl
  | unreadable e => rfl

/-- The sample of predictors that were read and responses in two axes, which came in one if `flat`
is set. -/
def sampleOf {K : Type} [Scalar K] (t : Table K) (flat : Bool) (response : NdArray K) :
    Except (ModelError K) (Sample K) :=
  match response.shape with
  | [n, q] =>
    if !(response.toMat n q).finite then .error (.invalid .responseNonFinite)
    else if h : n = t.rows then
      .ok ⟨t.rows, t.cols, q, t.mat, h ▸ response.toMat n q, flat⟩
    else .error (.invalid (.rows t.rows n))
  | shape => .error (.invalid (.responseAxes shape.length))

theorem readSample_arrays {K : Type} [Scalar K] (u v : NdArray K) :
    readSample (.array u) (.array v) = readPredictors (.array u) >>= fun t =>
      sampleOf t (v.axes == 1) (if v.axes == 1 then v.column else v) := by
  rfl

theorem sampleOf_scale (t : Table ℝ) (flat : Bool) (response : NdArray ℝ) (a b : ℝ) :
    sampleOf (t.scale a) flat (response.scale b) =
      (sampleOf t flat response).map fun s => s.scale a b := by
  obtain ⟨rows, cols, x⟩ := t
  unfold sampleOf
  simp only [NdArray.shape_scale, NdArray.toMat_scale, Mat.finite, Mat.all_isFinite_real,
    Bool.not_true, Bool.false_eq_true, if_false, Table.scale]
  split
  · rename_i n q _
    split
    · rename_i hrows
      subst hrows
      rfl
    · rfl
  · rfl

/-- **Data in other units is read if and only if the data is,** and otherwise refused for the same
reason. -/
theorem readSample_scale (x y : Reading ℝ) (a b : ℝ) :
    readSample (x.scale a) (y.scale b) = (readSample x y).map fun s => s.scale a b := by
  cases x with
  | sparse => cases y <;> rfl
  | unreadable e => cases y <;> rfl
  | array u =>
    have hpredictors := readPredictors_scale (.array u) a
    cases y with
    | sparse => rfl
    | unreadable e =>
      show (readPredictors ((Reading.array u).scale a) >>= fun _ => .error (readFailure e)) =
        Except.map _ (readPredictors (.array u) >>= fun _ => .error (readFailure e))
      rw [hpredictors]
      cases readPredictors (.array u) <;> rfl
    | array v =>
      have hscaled : readSample ((Reading.array u).scale a) ((Reading.array v).scale b) =
          readPredictors ((Reading.array u).scale a) >>= fun t =>
            sampleOf t (v.axes == 1) ((if v.axes == 1 then v.column else v).scale b) := by
        rw [apply_ite (fun r : NdArray ℝ => r.scale b), ← NdArray.column_scale]
        exact readSample_arrays _ _
      rw [hscaled, readSample_arrays, hpredictors]
      cases readPredictors (.array u) with
      | error e => rfl
      | ok t => exact sampleOf_scale t _ _ a b

theorem Model.readRows_scale (x : Reading ℝ) (features : ℕ) (c : ℝ) :
    readRows (x.scale c) features =
      (readRows x features).map fun rows => ⟨rows.1, rows.2.scale c⟩ := by
  cases x with
  | array a =>
    simp only [Reading.scale, readRows, Table.ofArray?_scale]
    cases Table.ofArray? true a with
    | error problem => rfl
    | ok t =>
      obtain ⟨rows, cols, mat⟩ := t
      simp only [Except.map, Table.scale]
      split
      · rename_i hcols
        subst hcols
        rfl
      · rfl
  | sparse => rfl
  | unreadable e => rfl

end PartialLeastSquares
