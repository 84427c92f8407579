/-
# Writing YAML

A document is written in blocks, as `safe_dump` does for `to_yaml_file`: an entry of a table on a
line of its own, what belongs to it indented by two, and the members of a list each behind a dash.
A list that belongs to a key is not indented further.  Empty lists and tables stand between
brackets.
-/
import PartialLeastSquares.Value
import PartialLeastSquares.Yaml.Style

namespace PartialLeastSquares.Yaml

/-- A float as it is written: always with a point, so that it is read back as one. -/
def floatText (x : Float) : String :=
  if x.isNaN then ".nan"
  else if x.isInf then (if x < 0 then "-.inf" else ".inf")
  else
    let cs := (Decimal.shortestText x).toList
    if cs.contains '.' then String.ofList cs
    else
      let digits := cs.takeWhile (· != 'e')
      if digits.length < cs.length then
        String.ofList (digits ++ ['.', '0'] ++ cs.drop digits.length)
      else String.ofList cs

/-- The longest key that stands on the line of its value. -/
def keyLimit : Nat := 122

/-- Whether a text is a key that stands on the line of its value. -/
def isLineKey (s : String) : Bool :=
  !s.isEmpty && decide (s.length ≤ keyLimit) && !s.toList.any splitsLine

/-- What a value without members is written as, if it is no text. -/
def plainText : Value → String
  | .null => "null"
  | .bool b => if b then "true" else "false"
  | .int n => toString n
  | .float x => floatText x
  | v => v.plain

/-- A value without members, inside a block that is indented by `indent`. -/
def writeScalar (isKey : Bool) (indent : Nat) (v : Value) (p : Pen) : Pen :=
  match v with
  | .text s => p.text isKey indent s
  | v => p.bare isKey indent (plainText v)

mutual

/-- **A value** inside a block that is indented by `indent`, `keyed` when it belongs to a key. -/
def writeValue (keyed : Bool) (indent : Nat) (v : Value) (p : Pen) : Pen :=
  match v with
  | .table [] => (p.mark "\x7b" true true false).mark "\x7d" false false false
  | .list [] => (p.mark "[" true true false).mark "]" false false false
  | .table (e :: rest) => writeEntries (indent + 2) (e :: rest) p
  | .list (x :: rest) =>
    writeItems (if keyed && !p.fresh then indent else indent + 2) (x :: rest) p
  | v => writeScalar false (indent + 2) v p

def writeItems (indent : Nat) (items : List Value) (p : Pen) : Pen :=
  match items with
  | [] => p
  | x :: rest =>
    writeItems indent rest
      (writeValue false indent x ((p.indentTo indent).mark "-" true false true))

def writeEntries (indent : Nat) (entries : List (Value × Value)) (p : Pen) : Pen :=
  match entries with
  | [] => p
  | (k, v) :: rest =>
    let p := p.indentTo indent
    let p :=
      if isLineKey (k.plain) then (writeScalar true indent k p).mark ":" false false false
      else
        let p := writeScalar false (indent + 2) k (p.mark "?" true false true)
        (p.indentTo indent).mark ":" true false true
    writeEntries indent rest (writeValue true indent v p)

end

/-- **The document of a value,** `safe_dump` with the keys in their own order. -/
def write (v : Value) : String :=
  let p := match v with
    | .table (e :: rest) => writeEntries 0 (e :: rest) Pen.start
    | .list (x :: rest) => writeItems 0 (x :: rest) Pen.start
    | v => writeValue false 0 v Pen.start
  (p.indentTo 0).written

end PartialLeastSquares.Yaml
