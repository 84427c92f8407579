/-
# Writing JSON

A value is written on one line, or with every member on a line of its own, indented by its depth,
as the `indent` of `to_json_file` has it.  Floats are written as the shortest decimal that reads
back, and the values that no decimal stands for by their names.
-/
import PartialLeastSquares.Json.Text
import PartialLeastSquares.Value

namespace PartialLeastSquares.Json

/-- How a document is laid out: on one line, or indented by a text for each depth. -/
inductive Layout where
  | line
  | indented (unit : String)

namespace Layout

def before (l : Layout) (depth : Nat) : String :=
  match l with
  | line => ""
  | indented unit => "\n" ++ String.join (List.replicate depth unit)

def between (l : Layout) (depth : Nat) : String :=
  match l with
  | line => ", "
  | indented _ => "," ++ l.before depth

/-- **The layout that a setting stands for:** null for one line, a text for that text, and an
integer for so many spaces; nothing for any other value. -/
def ofValue? : Value → Option Layout
  | .null => some line
  | .text s => some (indented s)
  | v => v.integer?.map fun n => indented (String.ofList (List.replicate n.toNat ' '))

end Layout

def writeFloat (x : Float) : String :=
  if x.isNaN then "NaN"
  else if x.isInf then (if x < 0 then "-Infinity" else "Infinity")
  else Decimal.shortestText x

/-- A key of a table as it is written: a key that is no text is turned into one. -/
def writeKey : Value → String
  | .text s => writeString s
  | .float x => writeString (writeFloat x)
  | .bool b => writeString (if b then "true" else "false")
  | .null => writeString "null"
  | v => writeString v.plain

mutual

/-- **A value at a depth,** which its members and their ends are indented by. -/
def writeAt (l : Layout) (depth : Nat) : Value → String
  | .null => "null"
  | .bool b => if b then "true" else "false"
  | .int n => toString n
  | .float x => writeFloat x
  | .text s => writeString s
  | .list items =>
    if items.isEmpty then "[]"
    else
      "[" ++ l.before (depth + 1) ++
        (l.between (depth + 1)).intercalate (writeItems l (depth + 1) items) ++
        l.before depth ++ "]"
  | .table entries =>
    if entries.isEmpty then "\x7b\x7d"
    else
      "\x7b" ++ l.before (depth + 1) ++
        (l.between (depth + 1)).intercalate (writeEntries l (depth + 1) entries) ++
        l.before depth ++ "\x7d"
  | .foreign _ _ plain => writeString plain

def writeItems (l : Layout) (depth : Nat) : List Value → List String
  | [] => []
  | x :: rest => writeAt l depth x :: writeItems l depth rest

def writeEntries (l : Layout) (depth : Nat) : List (Value × Value) → List String
  | [] => []
  | (k, v) :: rest => (writeKey k ++ ": " ++ writeAt l depth v) :: writeEntries l depth rest

end

/-- **A document,** with its lines as the layout has them. -/
def write (l : Layout) (v : Value) : String := writeAt l 0 v

end PartialLeastSquares.Json
