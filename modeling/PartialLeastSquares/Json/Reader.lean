/-
# Reading JSON

A document is one value with blanks around it; this is the text that `from_json_file` takes.  A
number without a point and an exponent is an integer of any size, any other number the nearest
float, and the names of infinity and of the undefined value are numbers too.  A key that is given
twice has the value that is given last.
-/
import PartialLeastSquares.Decimal.Literal
import PartialLeastSquares.Json.Text
import PartialLeastSquares.Value

namespace PartialLeastSquares.Json

/-! ## 1. Leaves -/

def isBlank (c : Char) : Bool := c == ' ' || c == '\t' || c == '\n' || c == '\r'

/-- What follows the blanks at the start of a text. -/
def skipBlanks (cs : List Char) : List Char := cs.dropWhile isBlank

/-- What follows a word at the start of a text. -/
def afterWord? (word : List Char) (cs : List Char) : Option (List Char) :=
  if word.isPrefixOf cs then some (cs.drop word.length) else none

def words : List (String × Value) :=
  [("null", .null), ("true", .bool true), ("false", .bool false), ("NaN", .float (0.0 / 0.0)),
    ("Infinity", .float (1.0 / 0.0)), ("-Infinity", .float (-(1.0 / 0.0)))]

/-- The value of a word at the start of a text. -/
def readWord? (cs : List Char) : Option (Value × List Char) :=
  words.findSome? fun (word, v) => (afterWord? word.toList cs).map fun rest => (v, rest)

/-- **A number at the start of a text:** an integer, unless a point or an exponent makes it a
float. -/
def readNumber? (cs : List Char) : Option (Value × List Char) :=
  let (negative, body) := match cs with
    | '-' :: rest => (true, rest)
    | _ => (false, cs)
  let (whole, rest) := match body with
    | '0' :: rest => (['0'], rest)
    | _ => Decimal.takeDigits body
  if whole.isEmpty then none
  else
    let (fraction, rest) := match rest with
      | '.' :: more =>
        let (ds, after) := Decimal.takeDigits more
        if ds.isEmpty then (none, rest) else (some ds, after)
      | _ => (none, rest)
    let (exponent, rest) := Decimal.takeExponent rest
    match fraction, exponent with
    | none, none =>
      let n : Int := Decimal.natOfDigits whole
      some (.int (if negative then -n else n), rest)
    | _, _ => some (.float (Decimal.Written.toFloat ⟨negative, whole, fraction, exponent⟩), rest)

/-- A string at the start of a text, after its opening quote. -/
def readString? (cs : List Char) : Option (String × List Char) :=
  readStringFrom (cs.length + 1) [] cs

/-! ## 2. Values -/

mutual

/-- **A value at the start of a text,** and what follows it; `fuel` is at least the length of the
text. -/
def readValue : (fuel : Nat) → List Char → Option (Value × List Char)
  | 0, _ => none
  | fuel + 1, cs =>
    match cs with
    | '"' :: rest => (readString? rest).map fun (s, rest) => (.text s, rest)
    | '[' :: rest =>
      match skipBlanks rest with
      | ']' :: rest => some (.list [], rest)
      | rest => readItems fuel [] rest
    | '\x7b' :: rest =>
      match skipBlanks rest with
      | '\x7d' :: rest => some (.table [], rest)
      | rest => readEntries fuel [] rest
    | _ =>
      match readWord? cs with
      | some found => some found
      | none => readNumber? cs

/-- The members of a list, from the next one on. -/
def readItems : (fuel : Nat) → (seen : List Value) → List Char → Option (Value × List Char)
  | 0, _, _ => none
  | fuel + 1, seen, cs =>
    match readValue fuel cs with
    | none => none
    | some (v, rest) =>
      match skipBlanks rest with
      | ']' :: rest => some (.list (v :: seen).reverse, rest)
      | ',' :: rest => readItems fuel (v :: seen) (skipBlanks rest)
      | _ => none

/-- The entries of a table, from the next one on. -/
def readEntries : (fuel : Nat) → (seen : List (Value × Value)) → List Char →
    Option (Value × List Char)
  | 0, _, _ => none
  | fuel + 1, seen, cs =>
    match cs with
    | '"' :: rest =>
      match readString? rest with
      | none => none
      | some (key, rest) =>
        match skipBlanks rest with
        | ':' :: rest =>
          match readValue fuel (skipBlanks rest) with
          | none => none
          | some (v, rest) =>
            let seen := Value.insert seen (.text key) v
            match skipBlanks rest with
            | '\x7d' :: rest => some (.table seen, rest)
            | ',' :: rest => readEntries fuel seen (skipBlanks rest)
            | _ => none
        | _ => none
    | _ => none

end

/-- **A document,** as `from_json_file` reads it; nothing when the text is none. -/
def read? (text : String) : Option Value :=
  let cs := skipBlanks text.toList
  match readValue (cs.length + 1) cs with
  | some (v, rest) => if (skipBlanks rest).isEmpty then some v else none
  | none => none

end PartialLeastSquares.Json
