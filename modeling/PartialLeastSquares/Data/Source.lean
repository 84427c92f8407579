/-
# Reading data

A value becomes an array of numbers when it is a number, or a list of values of one shape.  Texts
that stand for numbers are numbers, truth values are one and zero, and null is the undefined
value.  The shape is settled before any member is read, so lists that do not fit together are
reported even if a member is no number.
-/
import PartialLeastSquares.Data.NdArray
import PartialLeastSquares.Decimal.Literal
import PartialLeastSquares.Value

namespace PartialLeastSquares

/-! ## 1. The shape of nested lists -/

/-- What is known of a shape while nested lists are walked through in order.  The number of axes
is settled once a number or an empty list has been reached. -/
structure Outline where
  lengths : List Nat
  axes : Option Nat
  ragged : Bool

namespace Outline

def start : Outline := ⟨[], none, false⟩

/-- A number at a depth: there are as many axes as its depth. -/
def number (o : Outline) (depth : Nat) : Outline :=
  match o.axes with
  | none => { o with axes := some depth }
  | some n =>
    if n < depth then { o with ragged := true }
    else if n = depth then o
    else { o with axes := some depth, ragged := true }

/-- A list of a length at a depth, and whether its members are to be looked at. -/
def sequence (o : Outline) (depth length : Nat) : Outline × Bool :=
  match o.axes with
  | none =>
    let lengths := o.lengths.take depth ++ [length]
    if length = 0 then (⟨lengths, some (depth + 1), o.ragged⟩, false)
    else (⟨lengths, none, o.ragged⟩, true)
  | some n =>
    if n < depth + 1 then ({ o with ragged := true }, false)
    else if o.lengths.getD depth 0 = length then (o, true)
    else ({ o with axes := some depth, ragged := true }, false)

mutual

def visit (o : Outline) (depth : Nat) : Value → Outline
  | .list items =>
    let (o, inside) := o.sequence depth items.length
    if inside then visitAll o (depth + 1) items else o
  | _ => o.number depth

/-- What the members of a list at a depth add, in order. -/
def visitAll (o : Outline) (depth : Nat) : List Value → Outline
  | [] => o
  | x :: rest => visitAll (visit o depth x) depth rest

end

/-- The shape of a value, or the lengths that its parts agree on. -/
def shapeOf (v : Value) : Except ReadError (List Nat) :=
  let o := visit start 0 v
  let shape := o.lengths.take (o.axes.getD 0)
  if o.ragged then .error (.ragged shape) else .ok shape

end Outline

/-! ## 2. The entries -/

namespace Value

/-- The number that a member of an array is read as. -/
def toEntry : Value → Except ReadError Float
  | null => .ok (0.0 / 0.0)
  | text s =>
    match Decimal.floatOfText? (Decimal.stripBlanks s.toList) with
    | some x => .ok x
    | none => .error (.notNumeric (Text.quoted s))
  | v =>
    match v.number? with
    | none => .error .wrongKind
    | some a =>
      match a.toFloat? with
      | some x => .ok x
      | none => .error .tooLarge

mutual

def leaves : Value → List Value
  | list items => leavesAll items
  | v => [v]

/-- The members of all lists of a list, in order. -/
def leavesAll : List Value → List Value
  | [] => []
  | x :: rest => leaves x ++ leavesAll rest

end

/-- **A value as an array of numbers,** or why nested lists make none. -/
def toArray (v : Value) : Except ReadError (NdArray Float) := do
  let shape ← Outline.shapeOf v
  let entries ← v.leaves.mapM toEntry
  .ok ⟨shape, entries⟩

def reading (v : Value) : Reading Float :=
  match v.toArray with
  | .ok a => .array a
  | .error e => .unreadable e

end Value

end PartialLeastSquares
