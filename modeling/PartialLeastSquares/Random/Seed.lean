/-
# Seeds

A seed is a natural number of any size: for the start vector of a component in `KernelPLS` it is
`seed + component`.  It is cut into 32-bit words, which are mixed into a pool of four; the pool
then yields as many words of state as a generator wants.  Every input word reaches every word of
the pool, so that neighbouring seeds give unrelated generators.
-/

namespace PartialLeastSquares.Random

def word32 (n : Nat) : Nat := n % Nat.pow 2 32

def fold16 (v : Nat) : Nat := Nat.xor v (v / Nat.pow 2 16)

/-- **One step of a multiplicative hash:** the running constant is mixed into the word and
multiplied on. -/
def hashStep (factor : Nat) (constant word : Nat) : Nat × Nat :=
  let mixed := Nat.xor word constant
  let constant := word32 (constant * factor)
  (fold16 (word32 (mixed * constant)), constant)

def combine (x y : Nat) : Nat :=
  fold16 (word32 (0xca01f9dd * x + (Nat.pow 2 32 - word32 (0x4973f715 * y))))

/-- The 32-bit words of a seed, the least significant first; one word for zero. -/
def words (seed : Nat) : List Nat :=
  go (seed.log2 / 32 + 1) seed
where
  go : Nat → Nat → List Nat
    | 0, _ => []
    | k + 1, n => word32 n :: go k (n / Nat.pow 2 32)

def poolSize : Nat := 4

/-- A word hashed into the pool words at the given places. -/
def absorb (places : List Nat) (word : List Nat → Nat) (pool : List Nat × Nat) : List Nat × Nat :=
  places.foldl (fun (pool, constant) place =>
    let (hashed, constant) := hashStep 0x931e8875 constant (word pool)
    (pool.set place (combine (pool.getD place 0) hashed), constant)) pool

/-- **The pool of a seed:** its first four words hashed, each mixed into the other three, then
every further word mixed into all four. -/
def pool (seed : Nat) : List Nat :=
  let entropy := words seed
  let places := List.range poolSize
  let start := places.foldl (fun (pool, constant) place =>
    let (hashed, constant) := hashStep 0x931e8875 constant (entropy.getD place 0)
    (pool ++ [hashed], constant)) (([] : List Nat), 0x43b0d7e5)
  let mixed := places.foldl (fun state source =>
    absorb (places.filter (· ≠ source)) (fun pool => pool.getD source 0) state) start
  ((entropy.drop poolSize).foldl (fun state word => absorb places (fun _ => word) state) mixed).1

/-- The given number of 32-bit words of state for a seed. -/
def stateWords (seed count : Nat) : List Nat :=
  let source := pool seed
  ((List.range count).foldl (fun (out, constant) i =>
    let (word, constant) := hashStep 0x58f38ded constant (source.getD (i % poolSize) 0)
    (out ++ [word], constant)) (([] : List Nat), 0x8b51f9dd)).1

/-- Pairs of 32-bit words as 64-bit words, the low half first. -/
def pairUp : List Nat → List Nat
  | low :: high :: rest => (high * Nat.pow 2 32 + low) :: pairUp rest
  | _ => []

end PartialLeastSquares.Random
