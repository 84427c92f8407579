/-
# Decimals as text

Three layouts of a magnitude, each of an exact quotient and each rounded once:

* `fixed`: a given number of places after the point;
* `scientific`: one digit before the point and an exponent of at least two digits;
* `general`: a given number of significant digits, in whichever of the two layouts is shorter,
  without the zeros at the end.

`shortestText` is the text of a float in a settings file or a message: the shortest decimal that
reads back, with a point even when it is whole.
-/
import PartialLeastSquares.Decimal.Shortest

namespace PartialLeastSquares.Decimal

/-! ## 1. Digits -/

def digits (n : Nat) : List Char := Nat.toDigits 10 n

/-- The digits with zeros in front, up to a width. -/
def padded (width n : Nat) : List Char :=
  let text := digits n
  List.replicate (width - text.length) '0' ++ text

/-- A text of digits with a point before its last `places` characters; no point for no places. -/
def pointed (places : Nat) (text : List Char) : List Char :=
  if places = 0 then text
  else text.take (text.length - places) ++ '.' :: text.drop (text.length - places)

/-- An exponent with its sign and at least two digits. -/
def exponentMark (e : Int) : List Char :=
  'e' :: (if e < 0 then '-' else '+') :: padded 2 e.natAbs

/-- A text of digits without the zeros after the point, and without a point that ends it. -/
def dropTrailingZeros (text : List Char) : List Char :=
  if text.contains '.' then
    let kept := text.reverse.dropWhile (· == '0')
    (if kept.head? = some '.' then kept.tail else kept).reverse
  else text

/-! ## 2. The three layouts -/

def fixed (num den places : Nat) : List Char :=
  pointed places (padded (places + 1) (roundQuotient (num * Nat.pow 10 places) den))

/-- The digits and the exponent of a quotient rounded to `count` significant digits; a zero has
exponent zero. -/
def leading (num den count : Nat) : Nat × Int :=
  if num = 0 then (0, 0)
  else
    let s := roundSignificant num den count
    (s.digits, s.exponent + count - 1)

/-- One digit, `places` more after the point, and the exponent. -/
def scientific (num den places : Nat) : List Char :=
  let (ds, e) := leading num den (places + 1)
  pointed places (padded (places + 1) ds) ++ exponentMark e

/-- With `precision` significant digits, at least one: with an exponent when that is below -4 or not
below the precision, in fixed places otherwise; zeros at the end are kept only when `full`. -/
def general (num den precision : Nat) (full : Bool) : List Char :=
  let count := max precision 1
  let (ds, e) := leading num den count
  let trim (text : List Char) : List Char := if full then text else dropTrailingZeros text
  if e < -4 ∨ (count : Int) ≤ e then
    trim (pointed (count - 1) (padded count ds)) ++ exponentMark e
  else
    trim (fixed num den ((count : Int) - 1 - e).toNat)

/-! ## 3. Floats -/

def nonFinite (x : Float) : List Char :=
  if x.isNaN then "nan".toList else if x < 0 then "-inf".toList else "inf".toList

/-- A float in one of the layouts, with its sign. -/
def layOut (x : Float) (layout : Nat → Nat → List Char) : List Char :=
  match Binary.ofFloat? x with
  | none => nonFinite x
  | some b =>
    let (num, den) := b.fraction
    (if b.negative then ['-'] else []) ++ layout num den

def fixedFloat (places : Nat) (x : Float) : String :=
  String.ofList (layOut x fun num den => fixed num den places)

/-- A float with a number of significant digits: six in the lines of a log, three in a
`NumericalError`. -/
def generalFloat (precision : Nat) (x : Float) : String :=
  String.ofList (layOut x fun num den => general num den precision false)

/-- **The shortest decimal of a float that reads back,** positional while its exponent is at
least -4 and below 16, and always with a point or an exponent, so that it cannot be taken for an
integer. -/
def shortestText (x : Float) : String :=
  match Binary.ofFloat? x with
  | none => String.ofList (nonFinite x)
  | some b =>
    let s := b.shortest
    let ds := digits s.digits
    let e : Int := s.exponent + ds.length - 1
    let body :=
      if e < -4 ∨ 16 ≤ e then
        pointed (ds.length - 1) ds ++ exponentMark e
      else if 0 ≤ s.exponent then
        ds ++ List.replicate s.exponent.toNat '0' ++ ['.', '0']
      else
        let places := (-s.exponent).toNat
        pointed places (padded (places + 1) s.digits)
    String.ofList ((if b.negative then ['-'] else []) ++ body)

end PartialLeastSquares.Decimal
