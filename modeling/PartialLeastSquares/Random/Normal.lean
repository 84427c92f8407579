/-
# Normal deviates

The half plane under the bell curve is covered by 256 layers of equal area, all but the lowest
one rectangles.  A random word names a layer and a place in it; when the place lies under the
next higher layer it lies under the curve too and is returned at once.  Otherwise it is accepted
with the probability that the curve leaves it, and the part of the lowest layer beyond its
rectangle is drawn from the tail directly.

The layers are computed downwards from the edge of the outermost one: each has the area of the
outermost, tail included.

`normalVector` is the `initial_vector` of `KernelPLS`, for a seed that the component has been
added to.
-/
import PartialLeastSquares.Linear.Vec
import PartialLeastSquares.Random.Generator

namespace PartialLeastSquares.Random

/-! ## 1. The layers -/

def tailStart : Float := 3.654152885361008796

def layerArea : Float := 0.00492867323397465493

def bell (x : Float) : Float := Float.exp (-x * x / 2.0)

/-- The edges of the given number of layers, from the outermost inwards. -/
def edges : Nat → Float → List Float
  | 0, _ => []
  | k + 1, x =>
    x :: edges k (Float.sqrt (-2.0 * Float.log (bell x + layerArea / x)))

def floorNat (x : Float) : Nat := x.floor.toUInt64.toNat

def places : Nat := Nat.pow 2 52

/-- The layers' tables, each indexed by layer. -/
structure Layers where
  width : Array Float
  inside : Array Nat
  height : Array Float

def layers : Layers :=
  let edge := (0.0 :: (edges 255 tailStart).reverse).toArray
  let unit : Float := Float.ofScientific places false 0
  let edgeOf (i : Nat) : Float := edge.getD i 0.0
  let base := layerArea / bell tailStart
  { width := (Array.range 256).map fun i => (if i = 0 then base else edgeOf i) / unit
    inside := (Array.range 256).map fun i =>
      if i = 0 then floorNat (tailStart / base * unit)
      else if i = 1 then 0
      else floorNat (edgeOf (i - 1) / edgeOf i * unit)
    height := (Array.range 256).map fun i => if i = 0 then 1.0 else bell (edgeOf i) }

/-! ## 2. Drawing -/

/-- The distance of a point of the tail from its beginning, by rejection under an exponential;
after `fuel` rejections the beginning itself. -/
def tailDistance : (fuel : Nat) → Generator → Float × Generator
  | 0, g => (0.0, g)
  | fuel + 1, g =>
    let (u, g) := g.uniform
    let (v, g) := g.uniform
    let x := -Float.log (1.0 - u) / tailStart
    let y := -Float.log (1.0 - v)
    if x * x < y + y then (x, g) else tailDistance fuel g

/-- **One normal deviate;** after `fuel` rejections zero.  A rejection has a probability of about
one in a hundred. -/
def deviate (l : Layers) : (fuel : Nat) → Generator → Float × Generator
  | 0, g => (0.0, g)
  | fuel + 1, g =>
    let (word, g) := g.next
    let layer := word % 256
    let negative := word / 256 % 2 = 1
    let place := word / 512 % places
    let x := Float.ofScientific place false 0 * l.width.getD layer 0.0
    let x := if negative then -x else x
    if place < l.inside.getD layer 0 then (x, g)
    else if layer = 0 then
      let (distance, g) := tailDistance 1000 g
      let far := tailStart + distance
      (if place / 256 % 2 = 1 then -far else far, g)
    else
      let (u, g) := g.uniform
      let low := l.height.getD layer 0.0
      let high := l.height.getD (layer - 1) 0.0
      if (high - low) * u + low < bell x then (x, g) else deviate l fuel g

def deviates (l : Layers) : Nat → Generator → List Float
  | 0, _ => []
  | k + 1, g =>
    let (x, g) := deviate l 1000 g
    x :: deviates l k g

/-- **A vector of normal deviates,** determined by its length and the seed: the start vector of an
iteration in `KernelPLS.fit_state`. -/
def normalVector (n seed : Nat) : Vec Float n :=
  let drawn := (deviates layers n (Generator.ofSeed seed)).toArray
  Vec.ofFn fun i => drawn.getD i.val 0.0

end PartialLeastSquares.Random
