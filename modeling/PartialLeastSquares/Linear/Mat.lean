/-
# Matrices

A matrix of fixed size over the scalars, stored by rows.  As with vectors, an operation is given
by its entries and followed by the lemma that says so; products are inner products of rows and
columns, summed from the left.  The transposed products of the fits, `Xᵀ y` and the like, are
`applyT`, `tmul` and `mulT`, which transpose nothing.
-/
import PartialLeastSquares.Linear.Vec

namespace PartialLeastSquares

/-! ## 1. Entries -/

/-- A matrix of `n` rows of `p` scalars. -/
structure Mat (K : Type) (n p : Nat) where
  rows : Vector (Vec K p) n

namespace Mat

variable {K : Type} {n p q m : Nat}

@[inline] def get (a : Mat K n p) (i : Fin n) (j : Fin p) : K := Vec.get (a.rows.get i) j

@[inline] def ofFn (f : Fin n → Fin p → K) : Mat K n p := ⟨Vector.ofFn fun i => Vec.ofFn (f i)⟩

@[simp] theorem get_ofFn (f : Fin n → Fin p → K) (i : Fin n) (j : Fin p) :
    get (ofFn f) i j = f i j := by
  have hrow : (Vector.ofFn fun i => Vec.ofFn (f i)).get i = Vec.ofFn (f i) := Vec.get_ofFn _ i
  rw [get, ofFn, hrow, Vec.get_ofFn]

theorem ext {a b : Mat K n p} (h : ∀ i j, get a i j = get b i j) : a = b := by
  cases a with
  | mk r =>
    cases b with
    | mk s =>
      have hrs : r = s := Vector.ext fun i hi => Vec.ext fun j => h ⟨i, hi⟩ j
      rw [hrs]

@[inline] def row (a : Mat K n p) (i : Fin n) : Vec K p := a.rows.get i

@[simp] theorem get_row (a : Mat K n p) (i : Fin n) (j : Fin p) :
    Vec.get (row a i) j = get a i j := rfl

@[inline] def col (a : Mat K n p) (j : Fin p) : Vec K n := Vec.ofFn fun i => get a i j

@[simp] theorem get_col (a : Mat K n p) (j : Fin p) (i : Fin n) :
    Vec.get (col a j) i = get a i j := by
  simp [col]

def only (a : Mat K n 1) : Vec K n := a.col ⟨0, Nat.one_pos⟩

/-- A vector as a matrix of one column, `as_column`. -/
def ofCol (x : Vec K n) : Mat K n 1 := ofFn fun i _ => Vec.get x i

@[simp] theorem get_ofCol (x : Vec K n) (i : Fin n) (j : Fin 1) :
    get (ofCol x) i j = Vec.get x i := by
  simp [ofCol]

@[simp] theorem only_ofCol (x : Vec K n) : (ofCol x).only = x :=
  Vec.ext fun i => (get_col _ _ i).trans (get_ofCol x i _)

/-- The matrix whose columns are the images of the members of a list, in order: the arrays `W`,
`P` and `T` that a fit fills in column by column. -/
def ofCols {α : Type} (xs : List α) (f : α → Vec K n) : Mat K n xs.length :=
  ofFn fun i j => Vec.get (f (xs.get j)) i

@[simp] theorem get_ofCols {α : Type} (xs : List α) (f : α → Vec K n) (i : Fin n)
    (j : Fin xs.length) : get (ofCols xs f) i j = Vec.get (f (xs.get j)) i := by
  simp [ofCols]

def toList (a : Mat K n p) : List K := a.rows.toList.flatMap Vector.toList

def all (t : K → Bool) (a : Mat K n p) : Bool := a.rows.toList.all (Vec.all t)

def any (t : K → Bool) (a : Mat K n p) : Bool := a.rows.toList.any (Vec.any t)

@[inline] def map {L : Type} (f : K → L) (a : Mat K n p) : Mat L n p :=
  ofFn fun i j => f (get a i j)

@[simp] theorem get_map {L : Type} (f : K → L) (a : Mat K n p) (i : Fin n) (j : Fin p) :
    get (map f a) i j = f (get a i j) := by
  simp [map]

def transpose (a : Mat K n p) : Mat K p n := ofFn fun i j => get a j i

@[simp] theorem get_transpose (a : Mat K n p) (i : Fin p) (j : Fin n) :
    get (transpose a) i j = get a j i := by
  simp [transpose]

def const (c : K) : Mat K n p := ofFn fun _ _ => c

@[simp] theorem get_const (c : K) (i : Fin n) (j : Fin p) : get (const c : Mat K n p) i j = c := by
  simp [const]

/-! ## 2. Arithmetic -/

variable [Scalar K]

def identity (n : Nat) : Mat K n n := ofFn fun i j => if i = j then 1 else 0

@[simp] theorem get_identity (i j : Fin n) :
    get (identity n : Mat K n n) i j = if i = j then 1 else 0 := by
  simp [identity]

def sub (a b : Mat K n p) : Mat K n p := ofFn fun i j => get a i j - get b i j

@[simp] theorem get_sub (a b : Mat K n p) (i : Fin n) (j : Fin p) :
    get (sub a b) i j = get a i j - get b i j := by
  simp [sub]

def mul (a : Mat K n p) (b : Mat K p q) : Mat K n q :=
  ofFn fun i j => Scalar.sum fun l => get a i l * get b l j

@[simp] theorem get_mul (a : Mat K n p) (b : Mat K p q) (i : Fin n) (j : Fin q) :
    get (mul a b) i j = Scalar.sum fun l => get a i l * get b l j := by
  simp [mul]

def tmul (a : Mat K n p) (b : Mat K n q) : Mat K p q :=
  ofFn fun i j => Scalar.sum fun l => get a l i * get b l j

@[simp] theorem get_tmul (a : Mat K n p) (b : Mat K n q) (i : Fin p) (j : Fin q) :
    get (tmul a b) i j = Scalar.sum fun l => get a l i * get b l j := by
  simp [tmul]

def mulT (a : Mat K n p) (b : Mat K m p) : Mat K n m :=
  ofFn fun i j => Scalar.sum fun l => get a i l * get b j l

@[simp] theorem get_mulT (a : Mat K n p) (b : Mat K m p) (i : Fin n) (j : Fin m) :
    get (mulT a b) i j = Scalar.sum fun l => get a i l * get b j l := by
  simp [mulT]

/-- The product `a x` with a column. -/
def apply (a : Mat K n p) (x : Vec K p) : Vec K n :=
  Vec.ofFn fun i => Scalar.sum fun l => get a i l * Vec.get x l

@[simp] theorem get_apply (a : Mat K n p) (x : Vec K p) (i : Fin n) :
    Vec.get (apply a x) i = Scalar.sum fun l => get a i l * Vec.get x l := by
  simp [apply]

/-- The product `aᵀ x` with a column. -/
def applyT (a : Mat K n p) (x : Vec K n) : Vec K p :=
  Vec.ofFn fun j => Scalar.sum fun l => get a l j * Vec.get x l

@[simp] theorem get_applyT (a : Mat K n p) (x : Vec K n) (j : Fin p) :
    Vec.get (applyT a x) j = Scalar.sum fun l => get a l j * Vec.get x l := by
  simp [applyT]

/-- The product `x yᵀ` of a column with a row, which a deflation subtracts. -/
def outer (x : Vec K n) (y : Vec K p) : Mat K n p := ofFn fun i j => Vec.get x i * Vec.get y j

@[simp] theorem get_outer (x : Vec K n) (y : Vec K p) (i : Fin n) (j : Fin p) :
    get (outer x y) i j = Vec.get x i * Vec.get y j := by
  simp [outer]

/-- The square root of the sum of the squares of all entries, `l2` of a matrix. -/
def norm (a : Mat K n p) : K :=
  Scalar.sqrt (Scalar.sum fun i => Vec.normSq (row a i))

end Mat

end PartialLeastSquares
