/-
# The exact value of a machine float

A finite float is a natural number times a power of two, with a sign.  Nothing is printed or
compared through an approximation: `Binary.ofFloat?` decodes the bits, and `Binary.fraction`
gives the value as a quotient of natural numbers.
-/
import PartialLeastSquares.Decimal.Rounding

namespace PartialLeastSquares.Decimal

/-- A float as `mantissa` times two to the `exponent`, negated when `negative`; the sign bit of
zero is kept too. -/
structure Binary where
  negative : Bool
  mantissa : Nat
  exponent : Int
deriving Repr, DecidableEq

namespace Binary

/-- The fields of a float's 64 bits, nothing for an infinity or a NaN. -/
def ofBits? (bits : Nat) : Option Binary :=
  let negative := decide (1 ≤ bits / Nat.pow 2 63 % 2)
  let biased : Nat := bits / Nat.pow 2 52 % Nat.pow 2 11
  let fraction : Nat := bits % Nat.pow 2 52
  if biased = 2047 then none
  else if biased = 0 then some ⟨negative, fraction, -1074⟩
  else some ⟨negative, fraction + Nat.pow 2 52, (biased : Int) - 1075⟩

/-- The exact value of a float, nothing for an infinity or a NaN. -/
def ofFloat? (x : Float) : Option Binary := ofBits? x.toBits.toNat

/-- The magnitude as a quotient of natural numbers. -/
def fraction (b : Binary) : Nat × Nat :=
  if 0 ≤ b.exponent then (b.mantissa * Nat.pow 2 b.exponent.toNat, 1)
  else (b.mantissa, Nat.pow 2 (-b.exponent).toNat)

theorem fraction_den_pos (b : Binary) : 0 < b.fraction.2 := by
  simp only [fraction]
  split
  · exact Nat.one_pos
  · exact Nat.pow_pos (by decide)

end Binary

end PartialLeastSquares.Decimal
