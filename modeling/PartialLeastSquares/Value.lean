/-
# Values

Settings reach the library as values of any kind: what a settings file, a caller or a kernel
parameter holds before anybody has looked at it.  Checks on a setting, those of `_validate`,
`check` and `ModelConfig.validate`, are checks on a `Value`, and a value that fails one is shown
in the message by `Value.display`.

Equality is by number: to `Value.same`, `1`, `1.0` and `true` are one value.  It decides whether
two settings agree, and `Value.sameKey` whether two keys of a table are one.
-/
import PartialLeastSquares.Decimal.Layout
import PartialLeastSquares.Text.Quoted

namespace PartialLeastSquares

/-! ## 1. Values and their kinds -/

/-- **A value of a setting.**  `foreign` is an object of another kind, such as a date, known by
the name of its kind and by its texts, in a message and on its own. -/
inductive Value where
  | null
  | bool (b : Bool)
  | int (n : Int)
  | float (x : Float)
  | text (s : String)
  | list (items : List Value)
  | table (entries : List (Value × Value))
  | foreign (kind display plain : String)

instance : Inhabited Value := ⟨.null⟩

/-- A number as a setting gives it: an integer of any size, or a float. -/
inductive Number where
  | whole (n : Int)
  | real (x : Float)

namespace Number

/-- Whether the number is less than an integer of small size. -/
def below (a : Number) (bound : Int) : Bool :=
  match a with
  | .whole n => decide (n < bound)
  | .real x => decide (x < Float.ofInt bound)

/-- Whether the number is greater than an integer of small size; an undefined value is not. -/
def above (a : Number) (bound : Int) : Bool :=
  match a with
  | .whole n => decide (bound < n)
  | .real x => decide (Float.ofInt bound < x)

/-- The exact value of a finite float as a numerator and a positive denominator. -/
def ratio? (x : Float) : Option (Int × Nat) :=
  (Decimal.Binary.ofFloat? x).map fun b =>
    let (num, den) := b.fraction
    (if b.negative then -(num : Int) else num, den)

def same : Number → Number → Bool
  | .whole m, .whole n => m == n
  | .real x, .real y => x == y
  | .whole n, .real x => (ratio? x).any fun (num, den) => n * den == num
  | .real x, .whole n => (ratio? x).any fun (num, den) => n * den == num

/-- The greatest magnitude an integer may have to be a float: beyond it, it rounds to infinity. -/
def wholeLimit : Nat := Nat.pow 2 1024 - Nat.pow 2 970

/-- The nearest float; an integer beyond every float has none. -/
def toFloat? : Number → Option Float
  | .whole n => if n.natAbs < wholeLimit then some (Float.ofInt n) else none
  | .real x => some x

end Number

namespace Value

def kind : Value → String
  | null => "NoneType"
  | bool _ => "bool"
  | int _ => "int"
  | float _ => "float"
  | text _ => "str"
  | list _ => "list"
  | table _ => "dict"
  | foreign k _ _ => k

/-- The number a value stands for; a truth value counts as one or zero. -/
def number? : Value → Option Number
  | bool b => some (.whole (if b then 1 else 0))
  | int n => some (.whole n)
  | float x => some (.real x)
  | _ => none

/-- The integer a value stands for, where a test of the kind alone lets a truth value pass as one
or zero. -/
def integer? : Value → Option Int
  | bool b => some (if b then 1 else 0)
  | int n => some n
  | _ => none

/-- The integer a value is, where truth values are excluded beforehand, as for `n_components` and
`seed`. -/
def strictInteger? : Value → Option Int
  | int n => some n
  | _ => none

/-- Whether a value counts as true: it is not null, false, zero or empty. -/
def truthy : Value → Bool
  | null => false
  | bool b => b
  | int n => n != 0
  | float x => !(x == 0.0)
  | text s => !s.isEmpty
  | list items => !items.isEmpty
  | table entries => !entries.isEmpty
  | foreign _ _ plain => plain != "set()" && plain != "b\'\'"

/-! ## 2. Texts -/

mutual

/-- **The text of a value in a message:** a text stands between quotes, and so do the texts inside
a list or a table. -/
def display : Value → String
  | null => "None"
  | bool true => "True"
  | bool false => "False"
  | int n => toString n
  | float x => Decimal.shortestText x
  | text s => Text.quoted s
  | list items => "[" ++ Text.joined ", " (displayItems items) ++ "]"
  | table entries => "\x7b" ++ Text.joined ", " (displayEntries entries) ++ "\x7d"
  | foreign _ shown _ => shown

def displayItems : List Value → List String
  | [] => []
  | x :: rest => display x :: displayItems rest

def displayEntries : List (Value × Value) → List String
  | [] => []
  | (k, v) :: rest => (display k ++ ": " ++ display v) :: displayEntries rest

end

/-- The text of a value on its own: a text is itself. -/
def plain : Value → String
  | text s => s
  | foreign _ _ p => p
  | v => display v

/-! ## 3. Equality -/

mutual

/-- **Whether two values are the same:** numbers by value, texts by their characters, lists
member by member, and tables when every key of the one has the same value in the other. -/
def same : Value → Value → Bool
  | null, null => true
  | text s, text t => s == t
  | list xs, list ys => sameItems xs ys
  | table xs, table ys => xs.length == ys.length && sameEntries xs ys
  | foreign k d _, foreign l e _ => k == l && d == e
  | x, y =>
    match number? x, number? y with
    | some a, some b => a.same b
    | _, _ => false

def sameItems : List Value → List Value → Bool
  | [], [] => true
  | x :: xs, y :: ys => same x y && sameItems xs ys
  | _, _ => false

/-- Whether every entry of the first table is in the second. -/
def sameEntries : List (Value × Value) → List (Value × Value) → Bool
  | [], _ => true
  | (k, v) :: rest, others =>
    (match others.find? (fun e => sameKey k e.1) with
      | some (_, w) => same v w
      | none => false) && sameEntries rest others

/-- Whether two keys of a table are one; a list or a table is no key. -/
def sameKey : Value → Value → Bool
  | null, null => true
  | text s, text t => s == t
  | foreign k d _, foreign l e _ => k == l && d == e
  | x, y =>
    match number? x, number? y with
    | some a, some b => a.same b
    | _, _ => false

end

/-! ## 4. Tables -/

def find? (entries : List (Value × Value)) (key : String) : Option Value :=
  (entries.find? fun e => sameKey e.1 (text key)).map Prod.snd

/-- **A table with one more entry.**  A key that is there already keeps its place and takes the
new value. -/
def insert (entries : List (Value × Value)) (key value : Value) : List (Value × Value) :=
  if entries.any fun e => sameKey e.1 key then
    entries.map fun e => if sameKey e.1 key then (e.1, value) else e
  else entries ++ [(key, value)]

end Value

end PartialLeastSquares
