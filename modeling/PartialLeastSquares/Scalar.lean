/-
# Scalars

Every estimator of this library is written once, over a type of scalars with the operations
of this file, and is read twice: over `Float` when a model is fitted, and over an exact field
when a law of the method is stated.  So the class asks for operations only and assumes no law;
a rounding scalar and an exact one are equally good instances.

Comparisons are the order relations themselves, with their decision procedures.  Over `Float`
a comparison with a NaN is false, and every test of the library is written with that in mind:
the branch taken when a comparison fails is the one that an undefined value must take.
-/

namespace PartialLeastSquares

/-! ## 1. The operations -/

/-- **The arithmetic an estimator may use.** `ofInt` and `ofFloat` carry a setting of a model (a
tolerance, a kernel parameter) into the scalars; `isNaN` and `isFinite` single out the values that
a fit must refuse, and over an exact field the first never holds and the second always does.  The
order comes with its decision procedures, because every guard branches on a comparison. -/
class Scalar (K : Type) extends Add K, Sub K, Mul K, Div K, Neg K, Zero K, One K, LE K, LT K where
  decidableLE : DecidableLE K
  decidableLT : DecidableLT K
  ofInt : Int → K
  ofFloat : Float → K
  abs : K → K
  sqrt : K → K
  exp : K → K
  pow : K → K → K
  isNaN : K → Bool
  isFinite : K → Bool

instance decidableLEOfScalar {K : Type} [Scalar K] : DecidableLE K := Scalar.decidableLE

instance decidableLTOfScalar {K : Type} [Scalar K] : DecidableLT K := Scalar.decidableLT

/-- Machine floats, as IEEE 754 rounds them. -/
instance : Scalar Float where
  zero := 0.0
  one := 1.0
  decidableLE := inferInstance
  decidableLT := inferInstance
  ofInt := Float.ofInt
  ofFloat x := x
  abs := Float.abs
  sqrt := Float.sqrt
  exp := Float.exp
  pow := Float.pow
  isNaN := Float.isNaN
  isFinite := Float.isFinite

namespace Scalar

variable {K : Type} [Scalar K]

def ofNat (n : Nat) : K := ofInt n

/-- **What counts as zero,** `ZERO_NORM`: a quantity at most `zeroNorm` times its natural
magnitude is taken for zero, 10⁻¹². -/
def zeroNorm : K := 1 / ofNat 1000000000000

/-- The reciprocal of the unit of working precision, 2⁵²: `inverse` takes a matrix whose condition
number exceeds it to be singular for all that rounding can tell. -/
def conditionLimit : K := ofNat 4503599627370496

/-- The larger of two scalars, the second when they cannot be compared. -/
def max (a b : K) : K := if b < a then a else b

/-! ## 2. Finite sums -/

/-- The sum of `f 0, …, f (n - 1)`, taken from the left. -/
@[inline] def sum {n : Nat} (f : Fin n → K) : K := Fin.foldl n (fun total i => total + f i) 0

theorem sum_zero (f : Fin 0 → K) : sum f = 0 := by
  simp [sum]

theorem sum_succ {n : Nat} (f : Fin (n + 1) → K) :
    sum f = sum (fun i : Fin n => f i.castSucc) + f (Fin.last n) := by
  simp [sum, Fin.foldl_succ_last]

theorem sum_congr {n : Nat} {f g : Fin n → K} (h : ∀ i, f i = g i) : sum f = sum g := by
  rw [funext h]

end Scalar

end PartialLeastSquares
