/-
# Vectors

A vector of fixed length over the scalars.  Each operation is given by its entries, and the
lemma beside it says so: after that a vector is known by `Vec.get` alone.

`norm` and `normSq` are the `l2` and `l2_sq` that the fits measure their data with.
-/
import PartialLeastSquares.Scalar

namespace PartialLeastSquares

/-- A vector: `n` scalars in a row or a column. -/
abbrev Vec (K : Type) (n : Nat) := Vector K n

namespace Vec

variable {K : Type} {n : Nat}

@[inline] def get (x : Vec K n) (i : Fin n) : K := Vector.get x i

@[inline] def ofFn (f : Fin n → K) : Vec K n := Vector.ofFn f

@[simp] theorem get_ofFn (f : Fin n → K) (i : Fin n) : get (ofFn f) i = f i :=
  Vector.getElem_ofFn i.isLt

theorem ext {x y : Vec K n} (h : ∀ i, get x i = get y i) : x = y :=
  Vector.ext fun i hi => h ⟨i, hi⟩

def only (x : Vec K 1) : K := get x ⟨0, Nat.one_pos⟩

def all (p : K → Bool) (x : Vec K n) : Bool := x.toList.all p

def any (p : K → Bool) (x : Vec K n) : Bool := x.toList.any p

variable [Scalar K]

def zero : Vec K n := ofFn fun _ => 0

def sub (x y : Vec K n) : Vec K n := ofFn fun i => get x i - get y i

@[simp] theorem get_sub (x y : Vec K n) (i : Fin n) : get (sub x y) i = get x i - get y i := by
  simp [sub]

def scale (x : Vec K n) (c : K) : Vec K n := ofFn fun i => get x i * c

@[simp] theorem get_scale (x : Vec K n) (c : K) (i : Fin n) : get (scale x c) i = get x i * c := by
  simp [scale]

def dividedBy (x : Vec K n) (c : K) : Vec K n := ofFn fun i => get x i / c

@[simp] theorem get_dividedBy (x : Vec K n) (c : K) (i : Fin n) :
    get (dividedBy x c) i = get x i / c := by
  simp [dividedBy]

def dot (x y : Vec K n) : K := Scalar.sum fun i => get x i * get y i

def normSq (x : Vec K n) : K := dot x x

def norm (x : Vec K n) : K := Scalar.sqrt (normSq x)

/-- The largest magnitude of an entry, zero for the empty vector: what the deviation of a column
is compared with in `Standardize`. -/
def maxAbs (x : Vec K n) : K := x.foldl (fun m a => Scalar.max (Scalar.abs a) m) 0

end Vec

end PartialLeastSquares
