/-
# Rounding to a decimal grid

Every number this library prints is first an exact quotient of two natural numbers, and is
rounded once.  `roundQuotient` is that rounding: the nearest integer, and of two equally near
ones the even one.  `leadingExponent` places the first significant digit.
-/

namespace PartialLeastSquares.Decimal

/-! ## 1. The nearest integer -/

/-- **The integer nearest to `num / den`;** a quotient halfway between two integers goes to the
even one. -/
def roundQuotient (num den : Nat) : Nat :=
  let whole := num / den
  let twice := 2 * (num % den)
  if twice < den then whole
  else if den < twice then whole + 1
  else if whole % 2 = 0 then whole else whole + 1

theorem roundQuotient_le (num den : Nat) : roundQuotient num den ≤ num / den + 1 := by
  simp only [roundQuotient]
  split
  · omega
  · split
    · omega
    · split <;> omega

theorem le_roundQuotient (num den : Nat) : num / den ≤ roundQuotient num den := by
  simp only [roundQuotient]
  split
  · omega
  · split
    · omega
    · split <;> omega

theorem two_mul_roundQuotient_le {num den : Nat} (h : 0 < den) :
    2 * (roundQuotient num den * den) ≤ 2 * num + den := by
  have hdiv : den * (num / den) + num % den = num := Nat.div_add_mod num den
  have hcomm : num / den * den = den * (num / den) := Nat.mul_comm _ _
  have hsucc : (num / den + 1) * den = den * (num / den) + den := by
    rw [Nat.add_mul, Nat.one_mul, hcomm]
  simp only [roundQuotient]
  split
  · omega
  · split
    · omega
    · split <;> omega

theorem two_mul_le_roundQuotient {num den : Nat} (h : 0 < den) :
    2 * num ≤ 2 * (roundQuotient num den * den) + den := by
  have hdiv : den * (num / den) + num % den = num := Nat.div_add_mod num den
  have hmod : num % den < den := Nat.mod_lt num h
  have hcomm : num / den * den = den * (num / den) := Nat.mul_comm _ _
  have hsucc : (num / den + 1) * den = den * (num / den) + den := by
    rw [Nat.add_mul, Nat.one_mul, hcomm]
  simp only [roundQuotient]
  split
  · omega
  · split
    · omega
    · split <;> omega

/-- An odd number is exceeded from half a unit above it on, the tie included. -/
theorem lt_roundQuotient_iff {num den k : Nat} (h : 0 < den) (hk : k % 2 = 1) :
    k < roundQuotient num den ↔ (2 * k + 1) * den ≤ 2 * num := by
  have hmod : num % den < den := Nat.mod_lt num h
  have hnum : 2 * num = 2 * (num / den) * den + 2 * (num % den) := by
    rw [Nat.mul_assoc, ← Nat.mul_add, Nat.div_add_mod']
  rcases Nat.lt_trichotomy (num / den) k with hlt | rfl | hgt
  · -- The quotient stays below even when it is rounded up.
    have hle := roundQuotient_le num den
    have hscale : (2 * (num / den) + 2) * den ≤ 2 * k * den := Nat.mul_le_mul_right den (by omega)
    rw [Nat.add_mul] at hscale
    rw [Nat.add_mul]
    omega
  · -- Only the fraction counts, and a tie goes up to the even number.
    rw [Nat.add_mul, hnum]
    unfold roundQuotient
    grind
  · have hle := le_roundQuotient num den
    have hscale : (2 * k + 1) * den ≤ 2 * (num / den) * den := Nat.mul_le_mul_right den (by omega)
    omega

/-! ## 2. Powers of ten -/

/-- A quotient multiplied by a power of ten, negative powers included. -/
def shift (num den : Nat) (power : Int) : Nat × Nat :=
  if 0 ≤ power then (num * Nat.pow 10 power.toNat, den) else (num, den * Nat.pow 10 (-power).toNat)

/-- How many decimal digits a natural number has, one for zero. -/
def digitCount (n : Nat) : Nat := (Nat.toDigits 10 n).length

/-- **The exponent of the first significant digit:** the greatest `e` with
`10 ^ e ≤ num / den`, for a positive quotient. -/
def leadingExponent (num den : Nat) : Int :=
  let guess : Int := digitCount num - digitCount den
  let (shiftedNum, shiftedDen) := shift num den (-guess)
  if shiftedDen ≤ shiftedNum then guess else guess - 1

/-- A decimal: `digits` times ten to the `exponent`. -/
structure Scaled where
  digits : Nat
  exponent : Int
deriving Repr, DecidableEq

/-- The quotient rounded to a multiple of `10 ^ exponent`. -/
def roundAt (num den : Nat) (exponent : Int) : Scaled :=
  let (shiftedNum, shiftedDen) := shift num den (-exponent)
  ⟨roundQuotient shiftedNum shiftedDen, exponent⟩

/-- A positive quotient rounded to `count` significant digits; when the rounding carries into a
new digit, the last zero is dropped again. -/
def roundSignificant (num den count : Nat) : Scaled :=
  let rounded := roundAt num den (leadingExponent num den - count + 1)
  if rounded.digits = Nat.pow 10 count then ⟨Nat.pow 10 (count - 1), rounded.exponent + 1⟩
  else rounded

end PartialLeastSquares.Decimal
