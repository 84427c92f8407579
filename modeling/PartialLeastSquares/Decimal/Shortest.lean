/-
# The shortest decimal that reads back

A float owns an interval of reals that round to it.  Its shortest decimal has the fewest
significant digits of all decimals in that interval, and of those it is the one nearest to the
float.  The search goes through the grids of 1, 2, … 17 digits and looks, on each, at the two
points that enclose the value: if any point of a grid lies in the interval, one of them does.
-/
import PartialLeastSquares.Decimal.Binary

namespace PartialLeastSquares.Decimal

/-- An interval of rationals with natural ends over one denominator. -/
structure Interval where
  low : Nat
  high : Nat
  den : Nat
  closed : Bool

namespace Interval

def contains (i : Interval) (num den : Nat) : Bool :=
  let left := i.low * den
  let here := num * i.den
  let right := i.high * den
  if i.closed then decide (left ≤ here ∧ here ≤ right) else decide (left < here ∧ here < right)

end Interval

/-- **The reals that round to a finite nonzero float:** halfway to its neighbours, the ends
included when the significand is even.  Below a power of two the lower neighbour is nearer. -/
def Binary.interval (b : Binary) : Interval :=
  let nearBelow := decide (b.mantissa = Nat.pow 2 52 ∧ -1074 < b.exponent)
  let low := 4 * b.mantissa - (if nearBelow then 1 else 2)
  let high := 4 * b.mantissa + 2
  let unit := b.exponent - 2
  let closed := b.mantissa % 2 == 0
  if 0 ≤ unit then ⟨low * Nat.pow 2 unit.toNat, high * Nat.pow 2 unit.toNat, 1, closed⟩
  else ⟨low, high, Nat.pow 2 (-unit).toNat, closed⟩

/-- The decimal of `count` digits that lies in the interval and is nearest to `num / den`, if one
of the two grid points around that quotient does. -/
def onGrid? (i : Interval) (num den count : Nat) : Option Scaled :=
  let exponent := leadingExponent num den - count + 1
  let (scaledNum, scaledDen) := shift num den (-exponent)
  let below := scaledNum / scaledDen
  let inside (digits : Nat) : Bool :=
    let (n, d) := shift digits 1 exponent
    i.contains n d
  let nearest := roundQuotient scaledNum scaledDen
  let other := if nearest = below then below + 1 else below
  if inside nearest then some ⟨nearest, exponent⟩
  else if inside other then some ⟨other, exponent⟩
  else none

/-- The first grid with a hit, from `count` digits on; seventeen digits always suffice, and
`fuel` only bounds the search. -/
def searchGrids (i : Interval) (num den : Nat) : (fuel count : Nat) → Scaled
  | 0, count => roundSignificant num den count
  | fuel + 1, count =>
    match onGrid? i num den count with
    | some found => found
    | none => searchGrids i num den fuel (count + 1)

def Scaled.trim (s : Scaled) : Scaled :=
  go s.digits s.exponent (digitCount s.digits)
where
  go (digits : Nat) (exponent : Int) : Nat → Scaled
    | 0 => ⟨digits, exponent⟩
    | fuel + 1 =>
      if digits % 10 = 0 ∧ digits ≠ 0 then go (digits / 10) (exponent + 1) fuel
      else ⟨digits, exponent⟩

/-- **The shortest decimal of a finite float's magnitude,** `0` for zero. -/
def Binary.shortest (b : Binary) : Scaled :=
  if b.mantissa = 0 then ⟨0, 0⟩
  else
    let (num, den) := b.fraction
    (searchGrids b.interval num den 16 1).trim

end PartialLeastSquares.Decimal
