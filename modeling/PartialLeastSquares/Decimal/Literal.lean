/-
# Decimals that are read

The number written as digits, with or without a point and an exponent, is `digits` times a power
of ten, and is rounded once, to the nearest float.  A power of ten so large or so small that the
result is infinite or zero whatever the digits are is recognised before anything is computed.
-/
import PartialLeastSquares.Decimal.Rounding
import PartialLeastSquares.Text.Digit

namespace PartialLeastSquares.Decimal

def nearestFloat (digits : Nat) (exponent : Int) : Float :=
  if digits = 0 then 0.0
  else
    let lead := (digitCount digits : Int) + exponent
    if 400 < lead then 1.0 / 0.0
    else if lead < -400 then 0.0
    else if 0 ≤ exponent then Float.ofScientific (digits * Nat.pow 10 exponent.toNat) false 0
    else Float.ofScientific digits true (-exponent).toNat

def digitValue (c : Char) : Nat := c.toNat - '0'.toNat

/-- The natural number that a text of digits stands for. -/
def natOfDigits (cs : List Char) : Nat := cs.foldl (fun n c => 10 * n + digitValue c) 0

/-- A written decimal, cut into its parts. -/
structure Written where
  negative : Bool
  whole : List Char
  fraction : Option (List Char)
  exponent : Option Int

def takeDigits (cs : List Char) : List Char × List Char := cs.span Char.isDigit

/-- The exponent part at the start of a text, if a complete one stands there. -/
def takeExponent (cs : List Char) : Option Int × List Char :=
  match cs with
  | c :: rest =>
    if c = 'e' ∨ c = 'E' then
      let (negative, rest) :=
        match rest with
        | '-' :: more => (true, more)
        | '+' :: more => (false, more)
        | _ => (false, rest)
      let (ds, after) := takeDigits rest
      if ds.isEmpty then (none, cs)
      else
        let size := (natOfDigits ds : Int)
        (some (if negative then -size else size), after)
    else (none, cs)
  | [] => (none, [])

def Written.toFloat (w : Written) : Float :=
  let fraction := w.fraction.getD []
  let size := nearestFloat (natOfDigits (w.whole ++ fraction)) (w.exponent.getD 0 - fraction.length)
  if w.negative then -size else size

def joinDigits : List Char → List Char
  | c :: '_' :: d :: rest =>
    if c.isDigit ∧ d.isDigit then c :: joinDigits (d :: rest)
    else c :: '_' :: joinDigits (d :: rest)
  | c :: rest => c :: joinDigits rest
  | [] => []

/-- **The float a text stands for on its own:** a decimal with an optional sign, point and
exponent, or one of the names of infinity and of the undefined value, in any case; nothing for
any other text.  Digits may be of any script.  The text holds no blanks. -/
def floatOfText? (text : List Char) : Option Float :=
  let cs := text.map Text.commonDigit
  let (negative, body) :=
    match cs with
    | '-' :: rest => (true, rest)
    | '+' :: rest => (false, rest)
    | _ => (false, cs)
  let name := String.ofList (body.map Char.toLower)
  if name == "inf" || name == "infinity" then some (if negative then -(1.0 / 0.0) else 1.0 / 0.0)
  else if name == "nan" then some (0.0 / 0.0)
  else
    let (whole, rest) := takeDigits (joinDigits body)
    let (fraction, rest) :=
      match rest with
      | '.' :: more =>
        let (ds, after) := takeDigits more
        (some ds, after)
      | _ => (none, rest)
    if whole.isEmpty && (fraction.getD []).isEmpty then none
    else
      let (exponent, rest) := takeExponent rest
      if rest.isEmpty then some (Written.toFloat ⟨negative, whole, fraction, exponent⟩) else none

/-- Blanks that may stand around a number in a text: the separators and control characters that
count as white space. -/
def isBlank (c : Char) : Bool :=
  let n := c.toNat
  (9 ≤ n && n ≤ 13) || (28 ≤ n && n ≤ 32) || n == 0x85 || n == 0xa0 || n == 0x1680 ||
    (0x2000 ≤ n && n ≤ 0x200a) || n == 0x2028 || n == 0x2029 || n == 0x202f || n == 0x205f ||
    n == 0x3000

def stripBlanks (cs : List Char) : List Char :=
  ((cs.dropWhile isBlank).reverse.dropWhile isBlank).reverse

end PartialLeastSquares.Decimal
