/-
# The generator of random words

A linear congruential generator with 128 bits of state.  Its output is the exclusive or of the
two halves of the state, rotated by the state's top six bits, so that the strong high bits
scramble the weak low ones.
-/
import PartialLeastSquares.Random.Seed

namespace PartialLeastSquares.Random

/-- A generator of random words: its state and the odd increment that selects its sequence. -/
structure Generator where
  state : Nat
  increment : Nat

namespace Generator

def multiplier : Nat := 0x2360ed051fc65da44385df649fccf645

def step (g : Generator) : Generator :=
  { g with state := (g.state * multiplier + g.increment) % Nat.pow 2 128 }

/-- **The generator of a seed,** with state and sequence drawn from the words of its pool. -/
def ofSeed (seed : Nat) : Generator :=
  match pairUp (stateWords seed 8) with
  | [w₀, w₁, w₂, w₃] =>
    let initial := w₀ * Nat.pow 2 64 + w₁
    let sequence := w₂ * Nat.pow 2 64 + w₃
    let stepped := step ⟨0, (2 * sequence + 1) % Nat.pow 2 128⟩
    step { stepped with state := (stepped.state + initial) % Nat.pow 2 128 }
  | _ => ⟨0, 1⟩

def next (g : Generator) : Nat × Generator :=
  let g := g.step
  let high := g.state / Nat.pow 2 64
  let low := g.state % Nat.pow 2 64
  let turn := g.state / Nat.pow 2 122
  let mixed := Nat.xor high low
  ((mixed / Nat.pow 2 turn + mixed * Nat.pow 2 (64 - turn)) % Nat.pow 2 64, g)

/-- The next float, uniform on the multiples of 2⁻⁵³ below one. -/
def uniform (g : Generator) : Float × Generator :=
  let (word, g) := g.next
  (Float.ofScientific (word / Nat.pow 2 11) false 0 / Float.ofScientific (Nat.pow 2 53) false 0, g)

end Generator

end PartialLeastSquares.Random
