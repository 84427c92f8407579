/-
# Exact scalars

A law of a method is a statement about its exact arithmetic: every operation gives the real
number that it stands for, nothing is undefined and nothing is infinite.  This file makes the
real numbers an instance of the scalars, so that each estimator has an exact reading, and states
what its operations are there.

Vectors and matrices over the reals are then read as functions of an index and as matrices of
Mathlib (`Vec.coords`, `Mat.matrix`).  Each operation of the library has one lemma that says what
it is in that reading.  After these lemmas nothing below unfolds an operation again.
-/
import Mathlib
import PartialLeastSquares.Data.NdArray
import PartialLeastSquares.Linear.Mat
import PartialLeastSquares.Value

namespace PartialLeastSquares

open Matrix

/-! ## 1. The real numbers as scalars -/

/-- **Exact scalars.**  A setting that is a float stands for its exact value; one that is not
finite stands for zero. -/
noncomputable instance : Scalar ℝ where
  add := (· + ·)
  sub := (· - ·)
  mul := (· * ·)
  div := (· / ·)
  neg x := -x
  zero := 0
  one := 1
  le := (· ≤ ·)
  lt := (· < ·)
  decidableLE := inferInstanceAs (DecidableLE ℝ)
  decidableLT := inferInstanceAs (DecidableLT ℝ)
  ofInt n := n
  ofFloat x :=
    match Number.ratio? x with
    | some (num, den) => num / den
    | none => 0
  abs x := |x|
  sqrt := Real.sqrt
  exp := Real.exp
  pow := (· ^ ·)
  isNaN _ := false
  isFinite _ := true

namespace Scalar

@[simp] theorem isFinite_real (x : ℝ) : isFinite x = true := rfl

@[simp] theorem ofNat_real (n : ℕ) : (ofNat n : ℝ) = n := by
  simp [ofNat, ofInt]

theorem sum_real {n : ℕ} (f : Fin n → ℝ) : sum f = ∑ i, f i := by
  induction n with
  | zero => rw [sum_zero]; rfl
  | succ n ih => rw [sum_succ, Fin.sum_univ_castSucc, ih]

theorem zeroNorm_real : (zeroNorm : ℝ) = 1 / (1000000000000 : ℕ) := by
  rw [← ofNat_real]; rfl

theorem conditionLimit_real : (conditionLimit : ℝ) = (4503599627370496 : ℕ) := by
  rw [← ofNat_real]; rfl

theorem zeroNorm_pos : (0 : ℝ) < zeroNorm := by
  rw [zeroNorm_real]
  positivity

/-- A magnitude that is not much smaller than its reference passes a guard. -/
theorem zeroNorm_mul_lt {s t : ℝ} (h : s < 1000000000000 * t) : zeroNorm * s < t := by
  rw [zeroNorm_real]
  push_cast
  linarith

end Scalar

/-! ## 2. Vectors -/

namespace Vec

variable {n : ℕ}

def coords (x : Vec ℝ n) : Fin n → ℝ := fun i => x.get i

theorem coords_apply (x : Vec ℝ n) (i : Fin n) : x.coords i = x.get i := rfl

theorem coords_injective : Function.Injective (coords : Vec ℝ n → Fin n → ℝ) :=
  fun _ _ h => Vec.ext (congrFun h)

@[simp] theorem coords_ofFn (f : Fin n → ℝ) : (Vec.ofFn f).coords = f :=
  funext fun i => Vec.get_ofFn f i

@[simp] theorem coords_sub (x y : Vec ℝ n) : (x.sub y).coords = x.coords - y.coords :=
  funext fun i => Vec.get_sub x y i

@[simp] theorem coords_scale (x : Vec ℝ n) (c : ℝ) : (x.scale c).coords = c • x.coords :=
  funext fun i => (Vec.get_scale x c i).trans (mul_comm _ _)

@[simp] theorem coords_dividedBy (x : Vec ℝ n) (c : ℝ) :
    (x.dividedBy c).coords = c⁻¹ • x.coords :=
  funext fun i => (Vec.get_dividedBy x c i).trans (div_eq_inv_mul _ _)

@[simp] theorem dot_real (x y : Vec ℝ n) : x.dot y = x.coords ⬝ᵥ y.coords :=
  Scalar.sum_real _

@[simp] theorem normSq_real (x : Vec ℝ n) : x.normSq = x.coords ⬝ᵥ x.coords := dot_real x x

theorem norm_real (x : Vec ℝ n) : x.norm = √(x.coords ⬝ᵥ x.coords) :=
  congrArg Real.sqrt (normSq_real x)

theorem norm_nonneg (x : Vec ℝ n) : 0 ≤ x.norm := by
  rw [norm_real]; exact Real.sqrt_nonneg _

/-- The square of the length, for which no root is taken. -/
theorem norm_mul_norm (x : Vec ℝ n) : x.norm * x.norm = x.coords ⬝ᵥ x.coords := by
  rw [norm_real]
  exact Real.mul_self_sqrt (Finset.sum_nonneg fun i _ => mul_self_nonneg _)

/-- **The length of a difference** is at most the sum of the lengths. -/
theorem norm_sub_le_add (x y : Vec ℝ n) : (x.sub y).norm ≤ x.norm + y.norm := by
  have hnorm : ∀ v : Vec ℝ n, v.norm = ‖WithLp.toLp 2 v.coords‖ := fun v => by
    rw [norm_real, EuclideanSpace.norm_eq, dotProduct]
    simp only [Real.norm_eq_abs, sq_abs, ← sq]
  rw [hnorm, hnorm, hnorm, coords_sub, WithLp.toLp_sub]
  exact norm_sub_le _ _

end Vec

/-! ## 3. Matrices -/

namespace Mat

variable {n p q m : ℕ}

/-- A matrix as a function of the row and the column. -/
def matrix (a : Mat ℝ n p) : Matrix (Fin n) (Fin p) ℝ := Matrix.of fun i j => a.get i j

theorem matrix_apply (a : Mat ℝ n p) (i : Fin n) (j : Fin p) : a.matrix i j = a.get i j := rfl

theorem matrix_injective : Function.Injective (matrix : Mat ℝ n p → _) :=
  fun _ _ h => Mat.ext fun i j => congrFun (congrFun h i) j

@[simp] theorem matrix_ofFn (f : Fin n → Fin p → ℝ) : (Mat.ofFn f).matrix = Matrix.of f :=
  Matrix.ext fun i j => Mat.get_ofFn f i j

/-- A matrix of Mathlib among those of the library. -/
def ofMatrix (a : Matrix (Fin n) (Fin p) ℝ) : Mat ℝ n p := Mat.ofFn fun i j => a i j

@[simp] theorem matrix_ofMatrix (a : Matrix (Fin n) (Fin p) ℝ) : (ofMatrix a).matrix = a :=
  matrix_ofFn _

@[simp] theorem matrix_identity : (Mat.identity n : Mat ℝ n n).matrix = 1 :=
  Matrix.ext fun i j => (Mat.get_identity i j).trans Matrix.one_apply.symm

@[simp] theorem matrix_transpose (a : Mat ℝ n p) : a.transpose.matrix = a.matrixᵀ :=
  Matrix.ext fun i j => Mat.get_transpose a i j

@[simp] theorem matrix_sub (a b : Mat ℝ n p) : (a.sub b).matrix = a.matrix - b.matrix :=
  Matrix.ext fun i j => Mat.get_sub a b i j

@[simp] theorem matrix_mul (a : Mat ℝ n p) (b : Mat ℝ p q) :
    (a.mul b).matrix = a.matrix * b.matrix :=
  Matrix.ext fun i j => (Mat.get_mul a b i j).trans (Scalar.sum_real _)

@[simp] theorem matrix_tmul (a : Mat ℝ n p) (b : Mat ℝ n q) :
    (a.tmul b).matrix = a.matrixᵀ * b.matrix :=
  Matrix.ext fun i j => (Mat.get_tmul a b i j).trans (Scalar.sum_real _)

@[simp] theorem matrix_mulT (a : Mat ℝ n p) (b : Mat ℝ m p) :
    (a.mulT b).matrix = a.matrix * b.matrixᵀ :=
  Matrix.ext fun i j => (Mat.get_mulT a b i j).trans (Scalar.sum_real _)

@[simp] theorem matrix_outer (x : Vec ℝ n) (y : Vec ℝ p) :
    (Mat.outer x y).matrix = vecMulVec x.coords y.coords :=
  Matrix.ext fun i j => Mat.get_outer x y i j

@[simp] theorem coords_apply (a : Mat ℝ n p) (x : Vec ℝ p) :
    (a.apply x).coords = a.matrix *ᵥ x.coords :=
  funext fun i => (Mat.get_apply a x i).trans (Scalar.sum_real _)

@[simp] theorem coords_applyT (a : Mat ℝ n p) (x : Vec ℝ n) :
    (a.applyT x).coords = a.matrixᵀ *ᵥ x.coords :=
  funext fun j => (Mat.get_applyT a x j).trans (Scalar.sum_real _)

@[simp] theorem matrix_ofCol (x : Vec ℝ n) (i : Fin n) (j : Fin 1) :
    (Mat.ofCol x).matrix i j = x.coords i :=
  Mat.get_ofCol x i j

@[simp] theorem coords_only (a : Mat ℝ n 1) (i : Fin n) : a.only.coords i = a.matrix i 0 :=
  Mat.get_col a 0 i

theorem norm_real (a : Mat ℝ n p) : a.norm = √(∑ i, a.matrix i ⬝ᵥ a.matrix i) :=
  congrArg Real.sqrt <| (Scalar.sum_real _).trans <| Finset.sum_congr rfl fun i _ =>
    (Vec.normSq_real _).trans <| congrArg (fun v => v ⬝ᵥ v) <| funext fun j => Mat.get_row a i j

theorem norm_nonneg (a : Mat ℝ n p) : 0 ≤ a.norm := Real.sqrt_nonneg _

@[simp] theorem all_isFinite_real (a : Mat ℝ n p) : a.all Scalar.isFinite = true := by
  unfold Mat.all Vec.all
  exact List.all_eq_true.mpr fun _ _ => List.all_eq_true.mpr fun _ _ => rfl

@[simp] theorem entryProblem?_real (a : Mat ℝ n p) : a.entryProblem? = none := by
  unfold entryProblem? finite
  rw [all_isFinite_real, if_pos rfl]

@[simp] theorem matrix_const (c : ℝ) : (Mat.const c : Mat ℝ n p).matrix = Matrix.of fun _ _ => c :=
  Matrix.ext fun i j => Mat.get_const c i j

end Mat

/-! ## 4. Data given by fractions -/

section Fractions

variable {n p : ℕ}

/-- The vector with the given fractions for entries. -/
noncomputable def Vec.ofRat (v : Fin n → ℚ) : Vec ℝ n := Vec.ofFn fun i => (v i : ℝ)

@[simp] theorem Vec.get_ofRat (v : Fin n → ℚ) (i : Fin n) : (Vec.ofRat v).get i = v i :=
  Vec.get_ofFn _ _

@[simp] theorem Vec.coords_ofRat (v : Fin n → ℚ) : (Vec.ofRat v).coords = fun i => (v i : ℝ) :=
  Vec.coords_ofFn _

/-- The matrix with the given fractions for entries. -/
noncomputable def Mat.ofRat (a : Matrix (Fin n) (Fin p) ℚ) : Mat ℝ n p :=
  Mat.ofFn fun i j => (a i j : ℝ)

@[simp] theorem Mat.get_ofRat (a : Matrix (Fin n) (Fin p) ℚ) (i : Fin n) (j : Fin p) :
    (Mat.ofRat a).get i j = a i j :=
  Mat.get_ofFn _ _ _

@[simp] theorem Mat.matrix_ofRat (a : Matrix (Fin n) (Fin p) ℚ) :
    (Mat.ofRat a).matrix = a.map fun c => (c : ℝ) :=
  Mat.matrix_ofFn _

/-- The array with the given fractions for entries. -/
noncomputable def NdArray.ofRat (shape : List ℕ) (entries : List ℚ) : NdArray ℝ :=
  ⟨shape, entries.map fun c => (c : ℝ)⟩

@[simp] theorem NdArray.entries_ofRat (shape : List ℕ) (entries : List ℚ) :
    (NdArray.ofRat shape entries).entries = entries.map fun c => (c : ℝ) :=
  rfl

end Fractions

/-! ## 5. Moving a matrix across an inner product -/

theorem mulVec_dotProduct_eq {n p : ℕ} (A : Matrix (Fin n) (Fin p) ℝ) (u : Fin p → ℝ)
    (v : Fin n → ℝ) : (A *ᵥ u) ⬝ᵥ v = u ⬝ᵥ (Aᵀ *ᵥ v) := by
  rw [dotProduct_mulVec, vecMul_transpose]

theorem dotProduct_self_pos {n : ℕ} {v : Fin n → ℝ} (hv : v ≠ 0) : 0 < v ⬝ᵥ v :=
  lt_of_le_of_ne (Finset.sum_nonneg fun i _ => mul_self_nonneg (v i)) fun h =>
    hv (dotProduct_self_eq_zero.mp h.symm)

theorem ne_zero_of_dotProduct_eq_one {n : ℕ} {u v : Fin n → ℝ} (h : u ⬝ᵥ v = 1) : u ≠ 0 := by
  rintro rfl
  exact zero_ne_one ((zero_dotProduct v).symm.trans h)

end PartialLeastSquares
