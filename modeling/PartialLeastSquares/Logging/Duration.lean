/-
# Durations

A duration is written by `format_duration` in seconds with one decimal below a minute, in minutes
and seconds below an hour, and in hours, minutes and whole seconds from there on.  The unit is
chosen before anything is rounded.

What is needed of a number of seconds is the class `Seconds`.  Integers and rationals are exact;
floats take the remainder exactly and round the rest, as their own division does.
-/
import PartialLeastSquares.Failure
import PartialLeastSquares.Value

namespace PartialLeastSquares.Logging

/-- Why a number of seconds cannot be written: its whole part is asked for and is undefined or
infinite, or it is no number. -/
inductive DurationError where
  | undefined
  | tooLarge
  | wrongKind
deriving DecidableEq

namespace DurationError

def kind : DurationError → FailureKind
  | undefined => .value
  | tooLarge => .overflow
  | wrongKind => .wrongKind

def message : DurationError → String
  | undefined => "cannot convert float NaN to integer"
  | tooLarge => ""
  | wrongKind => ""

end DurationError

/-! ## 1. Numbers of seconds -/

/-- **What is asked of a number of seconds** by `format_duration`: whether it is less than a whole
number, how often a unit goes into it, what is left after that, its whole part, and its text with
one decimal.  All but the first may fail. -/
class Seconds (α : Type) where
  isBelow : α → Nat → Bool
  units : α → Nat → Except DurationError Int
  less : α → Int → Except DurationError α
  whole : α → Except DurationError Int
  tenths : α → Except DurationError String

/-- A fraction with one decimal, a half going to the even tenth. -/
def fractionTenths (negative : Bool) (num den : Nat) : String :=
  String.ofList ((if negative then ['-'] else []) ++ Decimal.fixed num den 1)

instance : Seconds Int where
  isBelow s n := decide (s < n)
  units s n := .ok (s.fdiv n)
  less s n := .ok (s - n)
  whole s := .ok s
  tenths s :=
    if s.natAbs < Number.wholeLimit then .ok (Decimal.fixedFloat 1 (Float.ofInt s))
    else .error .tooLarge

instance : Seconds Rat where
  isBelow s n := decide (s < n)
  units s n := .ok (s / n).floor
  less s n := .ok (s - n)
  whole s := .ok (s.num.tdiv s.den)
  tenths s := .ok (fractionTenths (decide (s < 0)) s.num.natAbs s.den)

def wholeOfFloat (x : Float) : Except DurationError Int :=
  match Number.ratio? x with
  | some (num, den) => .ok (num.tdiv den)
  | none => .error (if x.isNaN then .undefined else .tooLarge)

/-- The remainder of a float divided by a whole number, with the sign of the float. -/
def remainder (x : Float) (n : Nat) : Float :=
  match Decimal.Binary.ofFloat? x with
  | none => 0.0 / 0.0
  | some b =>
    let (num, den) := b.fraction
    let rest := num % (n * den)
    let size := Float.scaleB (Float.ofInt rest) (if 0 ≤ b.exponent then 0 else b.exponent)
    if b.negative then -size else size

/-- **A float divided by a whole number and rounded down,** through the exact remainder, so that a
quotient just below a whole number is not rounded up to it. -/
def floorQuotient (x : Float) (n : Nat) : Float :=
  let unit := Float.ofInt n
  let rest := remainder x n
  let exact := (x - rest) / unit
  let exact := if rest < 0.0 then exact - 1.0 else exact
  let down := exact.floor
  if 0.5 < exact - down then down + 1.0 else down

/-- Floats, with their own rounding. -/
instance : Seconds Float where
  isBelow s n := decide (s < Float.ofInt n)
  units s n := wholeOfFloat (floorQuotient s n)
  less s n := if n.natAbs < Number.wholeLimit then .ok (s - Float.ofInt n) else .error .tooLarge
  whole := wholeOfFloat
  tenths s := .ok (Decimal.fixedFloat 1 s)

/-! ## 2. The text -/

/-- **A duration as it is written,** `format_duration`, with its three branches: which one is
taken depends on the seconds before any rounding. -/
def formatDuration {α : Type} [Seconds α] (s : α) : Except DurationError String := do
  if Seconds.isBelow s 60 then
    let seconds ← Seconds.tenths s
    return seconds ++ "s"
  else if Seconds.isBelow s 3600 then
    let minutes ← Seconds.units s 60
    let rest ← Seconds.less s (minutes * 60)
    let seconds ← Seconds.tenths rest
    return toString minutes ++ "m " ++ seconds ++ "s"
  else
    let hours ← Seconds.units s 3600
    let rest ← Seconds.less s (hours * 3600)
    let minutes ← Seconds.units rest 60
    let rest ← Seconds.less rest (minutes * 60)
    let seconds ← Seconds.whole rest
    return toString hours ++ "h " ++ toString minutes ++ "m " ++ toString seconds ++ "s"

/-- The duration that a value stands for, as it is written; a truth value counts as a number of
seconds. -/
def formatDurationOf (v : Value) : Except DurationError String :=
  match v.number? with
  | some (.whole n) => formatDuration n
  | some (.real x) => formatDuration x
  | none => .error .wrongKind

end PartialLeastSquares.Logging
